/-!
# Sources

A script source as the scanner reads it: an array of characters, addressed by character
index. Reported positions are in bytes of the UTF-8 text: `Source.byteOffset` converts an
index, and `Source.point` gives the 1-based line and 1-based byte column of one, lines
ending at `'\n'`.
-/

namespace DocSuite.Script

/-- A source prepared for scanning. -/
structure Source where
  chars : Array Char
  /-- `offsets[i]` is the byte offset of character `i`; one more entry marks the end. -/
  offsets : Array Nat

namespace Source

/-- Byte offsets of every character of `cs`, starting at `acc`, plus the end offset. -/
def offsetsOf (cs : List Char) (acc : Nat) : List Nat :=
  match cs with
  | [] => [acc]
  | c :: rest => acc :: offsetsOf rest (acc + c.utf8Size)

/-- Prepares a text for scanning. -/
def ofString (s : String) : Source :=
  ⟨s.toList.toArray, (offsetsOf s.toList 0).toArray⟩

/-- The number of characters. -/
def size (s : Source) : Nat := s.chars.size

/-- The character at an index, or NUL past the end (the lookahead at the end of input). -/
def get (s : Source) (i : Nat) : Char := s.chars.getD i '\x00'

/-- Whether an index is at or past the end. -/
def atEnd (s : Source) (i : Nat) : Bool := s.chars.size ≤ i

/-- The byte offset of a character index (the end offset past the end). -/
def byteOffset (s : Source) (i : Nat) : Nat :=
  s.offsets.getD (min i s.chars.size) (s.offsets.getD s.chars.size 0)

/-- The characters from `i` up to, not including, `j`. -/
def slice (s : Source) (i j : Nat) : String :=
  String.ofList ((s.chars.extract i j).toList)

/-- Counts the line feeds among the characters from `i` up to `j`. -/
def newlinesBetween (s : Source) (i j : Nat) : Nat :=
  ((s.chars.extract i j).toList.filter (· == '\n')).length

/-- The 1-based line and 1-based byte column of a character index. -/
def point (s : Source) (i : Nat) : Nat × Nat :=
  let before := (s.chars.extract 0 i).toList
  let line := (before.filter (· == '\n')).length + 1
  let lineStart := before.length - (before.reverse.takeWhile (· != '\n')).length
  (line, s.byteOffset i - s.byteOffset lineStart + 1)

end Source

end DocSuite.Script
