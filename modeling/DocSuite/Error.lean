import DocSuite.Text.Infix
/-!
# Errors

The hard failures of turning a source into a suite. Lenient parts (documentation comments,
unterminated fences) never fail. Each error has a stable status code, a message, recovery
suggestions for the user and, for the two kinds that point into a text, a position.
-/

namespace DocSuite

/-- Why a source could not be turned into a suite. -/
inductive Error where
  /-- A block comment of the source lies in a region the grammar cannot read. -/
  | sourceSyntax (file : String) (line column : Nat) (reason : String)
  /-- The compiler rejected a text it was given. -/
  | compilation (file : String) (line column : Nat) (message : String)
  /-- The compiler program could not be started; `cause` is the system's message. -/
  | backendUnavailable (program : String) (cause : String)
  /-- The compiler finished but left no usable output. -/
  | backendOutput (reason : String)
  /-- A grammar could not be loaded. -/
  | parserInit (dialect : String) (reason : String)
  /-- The settings text was rejected; `cause` is the reader's message. -/
  | config (cause : String)
  /-- A file operation failed on `path`. -/
  | io (path : String) (cause : String)
  deriving DecidableEq, Repr, Inhabited

namespace Error

/-- The marker in a file name that identifies a compiled example. -/
def exampleMarker : String := "#comment-test-case-"

/-- The stable status code of an error. -/
def statusCode : Error → String
  | .sourceSyntax .. => "SOURCE_SYNTAX_ERROR"
  | .compilation .. => "COMPILATION_ERROR"
  | .backendUnavailable .. => "BACKEND_UNAVAILABLE"
  | .backendOutput .. => "BACKEND_OUTPUT_ERROR"
  | .parserInit .. => "PARSER_INIT_ERROR"
  | .config .. => "CONFIG_ERROR"
  | .io .. => "IO_ERROR"

/-- The message shown to the user. -/
def message : Error → String
  | .sourceSyntax file line column reason =>
    s!"Failed to parse '{file}' at line {line}, column {column}: {reason}"
  | .compilation file line column msg =>
    s!"Failed to compile '{file}' at line {line}, column {column}: {msg}"
  | .backendUnavailable program cause => s!"Failed to run compiler '{program}': {cause}"
  | .backendOutput reason => s!"Compiler produced unusable output: {reason}"
  | .parserInit dialect reason => s!"Failed to initialize {dialect} parser: {reason}"
  | .config cause => s!"Invalid configuration: {cause}"
  | .io path cause => s!"I/O error on '{path}': {cause}"

/-- What the user can do about an error. A compilation error in a compiled example points
at the documentation comment rather than at the source. -/
def suggestions : Error → List String
  | .sourceSyntax .. =>
    ["Check the reported position for a syntax error in the source file",
     "Make sure the file extension matches its dialect (.ts, .tsx, .js, .jsx)"]
  | .compilation file .. =>
    if Text.containsText file exampleMarker then
      ["A fenced example in a documentation comment does not compile",
       "Fix the example or remove the code fence around it"]
    else ["Fix the reported error in the source file"]
  | .backendUnavailable .. =>
    ["Install esbuild and make sure it is on PATH",
     "Or set `backend.program` to the esbuild binary in settings.toml"]
  | .config .. => ["Check settings.toml for typos and wrong value types"]
  | _ => []

/-- The 1-based line and column an error points at, if it points into a text. -/
def position? : Error → Option (Nat × Nat)
  | .sourceSyntax _ line column _ => some (line, column)
  | .compilation _ line column _ => some (line, column)
  | _ => none

end Error

end DocSuite
