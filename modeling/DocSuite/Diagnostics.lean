import DocSuite.Text.Blank
import DocSuite.Text.Lines
import DocSuite.Text.Digit
import DocSuite.Error
/-!
# Compiler diagnostics

A compiler reports errors on its error stream, one block per error: a header line
`✘ [ERROR] message` (the mark may be `X` or absent, blanks around the parts are free), then
an indented location line `file:line:column:` with a 1-based line and a 0-based column.
`readDiagnostics` collects the headers in order and gives each the first location line that
follows it; `compilationError` turns the first diagnostic into an `Error.compilation`
naming how many more there were.

Numbers are 32-bit words: a digit string that does not fit (or holds non-ASCII digits, which
the location pattern still accepts) reads as 0, meaning unknown, and the column is moved
to 1-based by a wrapping increment.
-/

namespace DocSuite

open DocSuite.Text

/-- One error reported by the compiler; line and column are 1-based, 0 when unknown. -/
structure Diagnostic where
  message : String
  file : Option String
  line : Nat
  column : Nat
  deriving DecidableEq, Repr, Inhabited

/-- The lines of a text: split after each `'\n'`, dropping the line feed and a carriage
return right before it; a text ending in a line feed has no empty last line. -/
def textLines (s : String) : List String :=
  let pieces := splitLines s
  -- every piece but the last was ended by a line feed
  let ended := pieces.dropLast.map dropReturn
  let last := pieces.getLastD ""
  if last.isEmpty then ended else ended ++ [last]

/-- What follows the mark of a header line: the leading blanks dropped, then an `✘` or `X`
and the blanks after it, if the line has one. -/
def afterMark (cs : List Char) : List Char :=
  match dropBlanks cs with
  | '✘' :: r => dropBlanks r
  | 'X' :: r => dropBlanks r
  | r => r

/-- The message after `[ERROR]`, blank-trimmed, when the text after the mark starts with it. -/
def headerMessage? : List Char → Option String
  | '[' :: 'E' :: 'R' :: 'R' :: 'O' :: 'R' :: ']' :: r => some (trimBlanks (String.ofList r))
  | _ => none

/-- The part of a header line after `[ERROR]`, blank-trimmed, when the line is a header:
optional blanks, an optional `✘` or `X`, optional blanks, then `[ERROR]`. -/
def errorHeader? (line : String) : Option String :=
  headerMessage? (afterMark line.toList)

/-- Splits a run of decimal digits (of any script) off the front. -/
def digitRun (cs : List Char) : List Char × List Char :=
  (cs.takeWhile isDecimalDigit, cs.dropWhile isDecimalDigit)

/-- The two numbers of a location ending `:line:column:` followed only by blanks. -/
def locationTail? (cs : List Char) : Option (List Char × List Char) :=
  match cs with
  | ':' :: r =>
    let (l, r) := digitRun r
    match r with
    | ':' :: r =>
      let (c, r) := digitRun r
      match r with
      | ':' :: r =>
        if !l.isEmpty && !c.isEmpty && r.all isBlank then some (l, c) else none
      | _ => none
    | _ => none
  | _ => none

/-- The shortest file name (at least `file`, then growing by one character at a time)
after which the rest is a location tail. -/
def splitLocation (file : List Char) : List Char → Option (List Char × List Char × List Char)
  | [] => none
  | c :: rest =>
    match locationTail? (c :: rest) with
    | some (l, col) => some (file, l, col)
    | none => splitLocation (file ++ [c]) rest

/-- A location line: at least one blank, then a file name starting with a non-blank, then
`:line:column:` and trailing blanks. Gives the file and the two digit strings. -/
def location? (line : String) : Option (String × List Char × List Char) :=
  match line.toList with
  | b :: rest =>
    if isBlank b then
      match dropBlanks rest with
      | f :: more =>
        if isBlank f then none
        else (splitLocation [f] more).map fun (file, l, c) => (String.ofList file, l, c)
      | [] => none
    else none
  | [] => none

/-- The value of an ASCII decimal that fits in 32 bits. -/
def readWord? (ds : List Char) : Option Nat :=
  if ds.all Char.isDigit then
    let n := ds.foldl (fun n d => 10 * n + (d.toNat - 48)) 0
    if n < Nat.pow 2 32 then some n else none
  else none

/-- Attaches a location line to the latest diagnostic, unless it has one already. -/
def Diagnostic.locate (d : Diagnostic) (line : String) : Diagnostic :=
  if d.file.isSome then d
  else
    match location? line with
    | some (file, l, c) =>
      { d with
        file := some file
        line := (readWord? l).getD 0
        column := ((readWord? c).map fun c => (c + 1) % Nat.pow 2 32).getD 0 }
    | none => d

/-- Reads one line of an error stream into the diagnostics read before it, latest first: a
header starts a diagnostic, and another line may locate the latest one. -/
def readLine (acc : List Diagnostic) (line : String) : List Diagnostic :=
  match errorHeader? line with
  | some msg => ⟨msg, none, 0, 0⟩ :: acc
  | none =>
    match acc with
    | d :: rest => d.locate line :: rest
    | [] => []

/-- Reads the diagnostics of an error stream, latest first. -/
def readDiagnosticsRev (lines : List String) : List Diagnostic :=
  lines.foldl readLine []

/-- Every diagnostic of an error stream, in order. -/
def readDiagnostics (stderr : String) : List Diagnostic :=
  (readDiagnosticsRev (textLines stderr)).reverse

/-- The error of a failed compilation of `filename`: the first diagnostic, naming how many
more followed, or the trimmed stream itself when it holds no header. -/
def compilationError (filename stderr : String) : Error :=
  match readDiagnostics stderr with
  | [] =>
    let msg := trimBlanks stderr
    .compilation filename 0 0 (if msg.isEmpty then "compiler exited without output" else msg)
  | d :: more =>
    let msg := if more.isEmpty then d.message
      else d.message ++ s!" (and {more.length} more error(s))"
    .compilation (d.file.getD filename) d.line d.column msg

end DocSuite
