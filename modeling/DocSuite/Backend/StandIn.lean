import DocSuite.Backend.Process
import DocSuite.Text.Quoted
/-!
# Stand-in compilers

Small programs that answer like a compiler, for exercising the process backend without a
real one. One program is installed under several names, and the name picks its behaviour:
`esbuild` and `fake-esbuild-ok` compile normally, `fake-esbuild-<mode>` behaves as the mode
says, and any other name is not installed.

Asked for its version, every mode succeeds except `broken`. Otherwise a stand-in fails
without a word (`silent`), fails with an error stream that names no place (`garbage`), or
reports each input line holding `ESBUILD_ERROR` as an error at that line and byte column.
When nothing fails, its code is a header of its arguments, the output file left out,
followed by the input, with an inline map comment when the map is inline; its map names the
source file and holds the input. Which files it writes depends on the mode: the code, the map
when one is asked for, only a stylesheet, only the map, no map, a malformed map, two extra
files whose names sort first, or nothing.
-/

namespace DocSuite

/-- How a stand-in compiler behaves. -/
inductive StandInMode where
  | ok
  | nojs
  | onlymap
  | nomap
  | badmap
  | extra
  | empty
  | silent
  | garbage
  | broken
  deriving DecidableEq, Repr, Inhabited

namespace StandInMode

/-- The modes with their names. -/
def named : List (String × StandInMode) :=
  [("ok", .ok), ("nojs", .nojs), ("onlymap", .onlymap), ("nomap", .nomap),
   ("badmap", .badmap), ("extra", .extra), ("empty", .empty), ("silent", .silent),
   ("garbage", .garbage), ("broken", .broken)]

/-- The prefix of the names of the stand-ins other than the plain one. -/
def namePrefix : String := "fake-esbuild-"

/-- The mode of the stand-in installed under a program name, if one is. -/
def ofProgram? (program : String) : Option StandInMode :=
  if program == "esbuild" then some .ok
  else if program.startsWith namePrefix then
    (named.find? (·.1 == String.ofList (program.toList.drop namePrefix.length))).map (·.2)
  else none

/-- The value of argument `--key=value`, if given. -/
def argument? (args : List String) (key : String) : Option String :=
  args.findSome? fun a =>
    if a.startsWith key then some (String.ofList (a.toList.drop key.length)) else none

/-- The byte index of the first occurrence of `needle` in a line. -/
def byteIndexOf (line needle : String) : Nat :=
  let cs := line.toList
  let n := needle.toList
  let i := (List.range cs.length).find? (fun i => (cs.drop i).take n.length == n) |>.getD 0
  (String.ofList (cs.take i)).utf8ByteSize

/-- The marker of an input line that a stand-in reports as an error. -/
def errorMarker : String := "ESBUILD_ERROR"

/-- The report of the erroneous line `line`, numbered `number`, of source file `file`. -/
def errorReport (file : String) (number : Nat) (line : String) : String :=
  "✘ [ERROR] Unexpected \"" ++ errorMarker ++ "\"\n\n    " ++ file ++ ":" ++ toString number ++
    ":" ++ toString (byteIndexOf line errorMarker) ++ ":\n      " ++ toString number ++ " │ " ++
    line ++ "\n        ╵ ^\n\n"

/-- The comment that embeds an inline source map. -/
def inlineMapComment : String := "\n//# sourceMappingURL=data:application/json;base64,AAAA\n"

/-- What a stand-in in mode `m` does with some arguments and input. -/
def run (m : StandInMode) (args : List String) (input : String) : ProgramRun :=
  if args.contains "--version" then
    if m == .broken then { status := 3 } else { status := 0 }
  else
    let outfile := (argument? args "--outfile=").getD ""
    let file := (argument? args "--sourcefile=").getD ""
    let mapMode := argument? args "--sourcemap="
    let erroneous := (input.splitOn "\n").zipIdx.filter fun (line, _) =>
      Text.containsText line errorMarker
    if m == .silent then { status := 1 }
    else if m == .garbage then { status := 2, stderr := "something exploded\n  not a location\n" }
    else if !erroneous.isEmpty then
      { status := 1,
        stderr := String.join (erroneous.map fun (line, i) => errorReport file (i + 1) line) ++
          toString erroneous.length ++ " error(s)\n" }
    else
      let header := " ".intercalate (args.filter (!·.startsWith "--outfile="))
      let inlineMap := mapMode == some "inline" || mapMode == some "both"
      let wantsMap := mapMode == some "external" || mapMode == some "both"
      let code := "// fake-esbuild " ++ header ++ "\n" ++ input ++ (if inlineMap then inlineMapComment else "")
      let map := "\x7b\"version\":3,\"sources\":[" ++ Text.jsonLiteral file ++ "],\"sourcesContent\":[" ++
        Text.jsonLiteral input ++ "],\"names\":[],\"mappings\":\"AAAA\"\x7d"
      let mapFile := outfile ++ ".map"
      let codeAndMap := [(outfile, code)] ++ (if wantsMap then [(mapFile, map)] else [])
      let files := match m with
        | .nojs => [("out.css", "")]
        | .onlymap => [(mapFile, map)]
        | .nomap => [(outfile, code)]
        | .badmap => [(outfile, code)] ++ (if wantsMap then [(mapFile, "\x7bnot json")] else [])
        | .extra => codeAndMap ++ [("aaa.js", "// extra file sorts first\n"),
            ("a.js.map", "\x7b\"version\":3,\"file\":\"extra\",\"mappings\":\";\"\x7d")]
        | .empty => []
        | _ => codeAndMap
      { status := 0, files }

end StandInMode

/-- The program installed under a name: a stand-in, or nothing that can be started. -/
def Program.standIn (name : String) : Program where
  name := name
  run args input :=
    match StandInMode.ofProgram? name with
    | some m => .ok (m.run args input)
    | none => .error "No such file or directory (os error 2)"

end DocSuite
