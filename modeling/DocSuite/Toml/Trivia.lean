import DocSuite.Toml.Reader
/-!
# Blanks, line breaks and comments

Blanks are spaces and tabs; a line break is a line feed, alone or after a carriage return;
a comment runs from `#` to the end of its line and may hold tabs, printable ASCII and any
non-ASCII character. After a value or a table header a line may only go on with blanks and
a comment before it ends.
-/

namespace DocSuite.Toml

open Reader

/-- Whether a character is a blank: a space or a tab. -/
def isBlank (c : Char) : Bool := c == ' ' || c == '\t'

/-- Whether a character may stand in a comment: a tab, printable ASCII, or non-ASCII. -/
def isCommentChar (c : Char) : Bool :=
  c == '\t' || (0x20 ≤ c.toNat && c.toNat ≤ 0x7E) || 0x80 ≤ c.toNat

/-- Reads any blanks. -/
def blanks : Reader Unit := discard (span isBlank)

/-- Reads a line break. -/
def lineBreak : Reader Unit := orElse (char '\n') (literal "\r\n")

/-- Reads a comment up to, not including, the end of its line. -/
def comment : Reader Unit := do
  char '#'
  discard (span isCommentChar)

/-- Reads the end of a line: a line break or the end of the input. -/
def lineEnd : Reader Unit := orElse lineBreak eof

/-- Reads the rest of a line after a value or header: blanks, a comment, the line's end. -/
def lineRest : Reader Unit := do
  blanks
  discard (attempt comment)
  lineEnd

/-- Reads the rest of a line, reporting a line break or a comment as what was expected. -/
def lineRestExpected : Reader Unit :=
  expecting (.char '#') (expecting (.char '\n') lineRest)

/-- Reads blanks and line breaks. -/
def blanksAndBreaks : Reader Unit :=
  discard (many (orElse lineBreak (discard (span1 isBlank))))

/-- Reads blanks, line breaks and comments, as they may stand between array items, at most
`fuel` rounds. A comment there ends with a line break: one at the end of the input fails
there, and the failure is passed on rather than read as the end of the gap. -/
def gapFrom : Nat → Reader Unit
  | 0 => pure ()
  | fuel + 1 => do
    blanks
    match ← peek with
    | some '#' => do comment; lineBreak; gapFrom fuel
    | some '\n' => do lineBreak; gapFrom fuel
    | some '\r' => do lineBreak; gapFrom fuel
    | _ => pure ()

/-- Reads blanks, line breaks and comments, as they may stand between array items. -/
def gap : Reader Unit := do
  gapFrom (← roundsLeft)

end DocSuite.Toml
