import DocSuite.Backend.Basic
import DocSuite.Diagnostics
import DocSuite.SourceMap.Json
/-!
# Compiler processes

A backend that runs a compiler program once per request. The entry text goes to the
program's input; the arguments ask for a bundle with every import external, in the
request's loader, platform, target and format, with the source map mode when there is one,
written to `out.js` in a fresh output directory.

A program that cannot be started makes the backend unavailable. A run that fails is a
compilation error read from the program's error stream. Otherwise the outputs are taken by
name, in sorted order: the first `.js` file that is not a `.js.map` is the code, and, when
the request's mode returns a map, the first `.js.map` file is the map, which must be a valid
source map.
-/

namespace DocSuite

/-- What one run of a compiler program did: its exit status, its error stream, and the
files it left in its output directory, by name. -/
structure ProgramRun where
  status : Nat
  stderr : String := ""
  files : List (String × String) := []
  deriving DecidableEq, Repr, Inhabited

/-- A compiler program: its name, and what a run with some arguments and input does, or the
system's message when it cannot be started. -/
structure Program where
  name : String
  run : List String → String → Except String ProgramRun

/-- The name of the file a compiler is told to write. -/
def outfileName : String := "out.js"

/-- The arguments for one request, with the output written to `outfile`. -/
def compilerArgs (r : CompileRequest) (outfile : String) : List String :=
  (if r.bundle then ["--bundle"] else []) ++
  ["--sourcefile=" ++ r.filename, "--loader=" ++ r.loader, "--platform=" ++ r.platform,
   "--target=" ++ r.target, "--format=" ++ r.format.name] ++
  r.external.map ("--external:" ++ ·) ++
  (match r.sourceMap with
    | .none => []
    | m => ["--sourcemap=" ++ m.name]) ++
  ["--outfile=" ++ outfile, "--log-level=error", "--color=false"]

namespace Program

/-- The message of a program that cannot be started because its name or an argument holds
a NUL character, which no command line can carry. -/
def nulMessage : String := "nul byte found in provided data"

/-- Starts the program with some arguments and input. The system refuses a name or an
argument that holds a NUL character before the program is looked up. -/
def start (p : Program) (args : List String) (input : String) : Except String ProgramRun :=
  if (p.name :: args).any (·.contains '\x00') then .error nulMessage else p.run args input

/-- Whether the program can be run: asked for its version, it starts and succeeds. -/
def isAvailable (p : Program) : Bool :=
  match p.start ["--version"] "" with
  | .ok r => r.status == 0
  | .error _ => false

/-- The first output whose name ends with `suffix` and with none of `exclude`, in name
order. -/
def output? (files : List (String × String)) (suffix : String) (exclude : List String) :
    Option String :=
  let sorted := files.mergeSort fun a b => decide (a.1 ≤ b.1)
  (sorted.find? fun (n, _) => n.endsWith suffix && !exclude.any (fun e => n.endsWith e)).map (·.2)

/-- Compiles one request by running the program. -/
def compile (p : Program) (r : CompileRequest) : Except Error Artifact := do
  let run ← match p.start (compilerArgs r outfileName) r.entryText with
    | .ok run => pure run
    | .error cause => throw (.backendUnavailable p.name cause)
  if run.status ≠ 0 then throw (compilationError r.filename run.stderr)
  let some code := output? run.files ".js" [".js.map"]
    | throw (.backendOutput ("no .js output for " ++ r.filename))
  let sourceMap ← if r.sourceMap.returnsMap then
      match output? run.files ".js.map" [] with
      | none => throw (.backendOutput ("no .js.map output for " ++ r.filename))
      | some text =>
        match SourceMap.ofJson text with
        | .ok m => pure (some m)
        | .error e => throw (.backendOutput ("malformed source map for " ++ r.filename ++ ": " ++ e.text))
    else pure none
  pure ⟨code, sourceMap⟩

/-- The backend that runs the program. -/
def backend (p : Program) : Backend where
  name := "esbuild"
  compile := p.compile

end Program

end DocSuite
