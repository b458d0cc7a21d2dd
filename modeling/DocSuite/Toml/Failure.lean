/-!
# Reading failures

A failed reading step records where it stopped, whether it had committed to a reading (then
no alternative is tried), the notes it gathered on its way out (innermost first: the
construct being read, and what would have been accepted) and an underlying cause. The
message shows the first construct as `invalid …`, then the accepted forms as `expected …`,
then the cause, one per line. The report of a document's failure shows the line and column
of the position, the line itself under a gutter, and a caret below the column.
-/

namespace DocSuite.Toml

/-- What a reading step expected to see. -/
inductive Expectation where
  | char (c : Char)
  | literal (s : String)
  | description (text : String)
  deriving DecidableEq, Repr, Inhabited

/-- A note a failed step gathers on its way out. -/
inductive Note where
  /-- The construct being read. -/
  | label (construct : String)
  /-- Something that would have been accepted. -/
  | expected (e : Expectation)
  deriving DecidableEq, Repr, Inhabited

/-- Why a reading step failed: the character index where it stopped, whether it had
committed to its reading, its notes (innermost first) and an underlying cause. -/
structure Failure where
  pos : Nat
  committed : Bool := false
  notes : List Note := []
  cause : Option String := none
  deriving DecidableEq, Repr, Inhabited

namespace Expectation

/-- How an expectation is shown: a line break as `newline`, another character or a literal
between backticks, a description as it is. -/
def text : Expectation → String
  | .char '\n' => "newline"
  | .char c => "`" ++ c.toString ++ "`"
  | .literal s => "`" ++ s ++ "`"
  | .description t => t

end Expectation

namespace Failure

/-- The message of a failure: `invalid` and the innermost construct, `expected` and the
accepted forms in the order gathered, and the cause, each on its own line when present. -/
def message (f : Failure) : String :=
  let construct := f.notes.findSome? fun
    | .label s => some s
    | _ => none
  let expected := f.notes.filterMap fun
    | .expected e => some e.text
    | _ => none
  let lines := (construct.map ("invalid " ++ ·)).toList ++
    (if expected.isEmpty then [] else ["expected " ++ ", ".intercalate expected]) ++
    f.cause.toList
  "\n".intercalate lines

end Failure

/-- The byte offset of the first `n` characters of a text. -/
def byteOffset (text : String) (n : Nat) : Nat :=
  (text.toList.take n).foldl (fun acc c => acc + c.utf8Size) 0

/-- The line (from 0) and column of byte `index` of a text. The column counts the characters
of the line before the index when the index starts a one-byte character or lies at the end
of the input, and the bytes otherwise; at the end of the input it points one past the last
character. -/
def lineColumn (bytes : ByteArray) (index : Nat) : Nat × Nat :=
  if bytes.size = 0 then (0, index)
  else
    let safe := min index (bytes.size - 1)
    let beyond := index - safe
    let before := (bytes.extract 0 safe).toList
    let lineStart := match (before.zipIdx.filter (·.1 == 10)).getLast? with
      | some (_, i) => i + 1
      | none => 0
    let line := ((bytes.extract 0 lineStart).toList.filter (· == 10)).length
    let column := match String.fromUTF8? (bytes.extract lineStart (safe + 1)) with
      | some s => s.length - 1
      | none => safe - lineStart
    (line, column + beyond)

/-- The report of a failure at character `pos` of a document with message `message`: the
line and column, the line under a gutter as wide as its number, carets under the column, one
per byte of the character there but not past the end of the line, and at least one, and the
message. -/
def report (text : String) (pos : Nat) (message : String) : String :=
  let (line, column) := lineColumn text.toUTF8 (byteOffset text pos)
  let number := toString (line + 1)
  let gutter := String.ofList (List.replicate (number.length + 1) ' ')
  let content := (text.splitOn "\n").getD line ""
  let caretPad := String.ofList (List.replicate (column + 1) ' ')
  let width := min ((text.toList[pos]?.map Char.utf8Size).getD 0) (content.utf8ByteSize - column)
  "TOML parse error at line " ++ number ++ ", column " ++ toString (column + 1) ++ "\n" ++
    gutter ++ "|\n" ++
    number ++ " | " ++ content ++ "\n" ++
    gutter ++ "|" ++ caretPad ++ String.ofList (List.replicate (max width 1) '^') ++ "\n" ++
    message ++ "\n"

end DocSuite.Toml
