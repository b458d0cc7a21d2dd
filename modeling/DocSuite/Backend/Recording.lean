import DocSuite.Backend.Basic
import DocSuite.Diagnostics
import DocSuite.Text.Infix
/-!
# The recording backend

A backend for tests: it compiles nothing. Its code is a header naming the file followed by
the entry text, and when the mode returns a map, the map names the file and holds the
entry text as its content. It can be told to reject every request whose file name contains
a given text, either with a fixed compilation error at line 1, column 1, or with the error
read from a given compiler error stream.
-/

namespace DocSuite

namespace Backend

/-- The artifact the recording backend gives for a request. -/
def recordedArtifact (r : CompileRequest) : Artifact where
  code := "// compiled: " ++ r.filename ++ "\n" ++ r.entryText
  sourceMap :=
    if r.sourceMap.returnsMap then
      some { version := 3, sources := [r.filename], sourcesContent := some [some r.entryText] }
    else none

/-- The recording backend, rejecting file names that contain `failOn`, with the error read
from `failStderr` when given. -/
def recording (failOn failStderr : Option String) : Backend where
  name := "recording"
  compile r :=
    match failOn with
    | some needle =>
      if Text.containsText r.filename needle then
        match failStderr with
        | some stderr => .error (compilationError r.filename stderr)
        | none => .error (.compilation r.filename 1 1 "rejected by test backend")
      else .ok (recordedArtifact r)
    | none => .ok (recordedArtifact r)

end Backend

end DocSuite
