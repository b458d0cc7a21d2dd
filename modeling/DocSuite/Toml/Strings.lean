import DocSuite.Toml.Trivia
/-!
# Strings

The four string forms. A basic string `"…"` holds blanks and printable characters other than
`"` and `\`, and escapes: `\b`, `\t`, `\n`, `\f`, `\r`, `\"`, `\\`, and `\u` or `\U` with
four or eight hex digits naming a scalar value. A literal string `'…'` holds its characters
as written. The multi-line forms, between three quotes, also hold line breaks (a break right
after the opening quotes is dropped) and up to two quotes in a row; in the basic one a
backslash at the end of a line drops the blanks and breaks that follow it.

Once a string has begun, a failure is committed: an unknown escape, a bad hex code, a
missing closing quote.
-/

namespace DocSuite.Toml

open Reader

/-- Whether a character stands for itself in a basic string. -/
def isBasicChar (c : Char) : Bool :=
  isBlank c || c == '!' || (0x23 ≤ c.toNat && c.toNat ≤ 0x5B) ||
    (0x5D ≤ c.toNat && c.toNat ≤ 0x7E) || 0x80 ≤ c.toNat

/-- Whether a character stands for itself in a literal string. -/
def isLiteralChar (c : Char) : Bool :=
  c == '\t' || (0x20 ≤ c.toNat && c.toNat ≤ 0x26) || (0x28 ≤ c.toNat && c.toNat ≤ 0x7E) ||
    0x80 ≤ c.toNat

/-- The value of a hex digit. -/
def hexValue (c : Char) : Option Nat :=
  if '0' ≤ c && c ≤ '9' then some (c.toNat - '0'.toNat)
  else if 'a' ≤ c && c ≤ 'f' then some (c.toNat - 'a'.toNat + 10)
  else if 'A' ≤ c && c ≤ 'F' then some (c.toNat - 'A'.toNat + 10)
  else none

/-- The number written by hex digits. -/
def hexNumber (ds : List Char) : Nat :=
  ds.foldl (fun n c => 16 * n + (hexValue c).getD 0) 0

/-- Reads `n` hex digits naming a Unicode scalar value. Too few digits fail where they
began; a surrogate or a number beyond the last code point is out of range. -/
def hexCode (n : Nat) : Reader Char := do
  let start ← get
  let ds ← spanUpTo n (fun c => (hexValue c).isSome)
  if ds.length ≠ n then do set start; failHere
  let v := hexNumber ds
  if v < 0xD800 || (0xE000 ≤ v && v ≤ 0x10FFFF) then pure (Char.ofNat v)
  else throw { pos := start, cause := some "value is out of range" }

/-- The escapes after a backslash, in the order an error lists them. -/
def escapeLetters : List Char := ['b', 'f', 'n', 'r', 't', 'u', 'U', '\\', '"']

/-- Reads the character after a backslash and yields what the escape stands for. An unknown
one fails just past its first byte: after it when it is ASCII, and at it otherwise, as a
report shows a position inside a character at that character. -/
def escapeCode : Reader Char := do
  let pos ← get
  match ← peek with
  | none => failHere
  | some c =>
    set (pos + 1)
    match c with
    | 'b' => pure '\x08'
    | 'f' => pure '\x0c'
    | 'n' => pure '\n'
    | 'r' => pure '\r'
    | 't' => pure '\t'
    | '\\' => pure '\\'
    | '"' => pure '"'
    | 'u' => label "unicode 4-digit hex code" (commit (hexCode 4))
    | 'U' => label "unicode 8-digit hex code" (commit (hexCode 8))
    | _ =>
      let notes := Note.label "escape sequence" :: escapeLetters.map (Note.expected ∘ .char)
      throw { pos := if c.utf8Size == 1 then pos + 1 else pos, committed := true, notes }

/-- Reads an escape. -/
def escape : Reader Char := do
  char '\\'
  escapeCode

/-- Reads a piece of a basic string: a run of plain characters or one escape. -/
def basicPiece : Reader String :=
  orElse (String.ofList <$> span1 isBasicChar) (Char.toString <$> escape)

/-- Reads a basic string. -/
def basicString : Reader String := do
  char '"'
  let pieces ← many basicPiece
  label "basic string" (commit (char '"'))
  return String.join pieces

/-- Reads a literal string. -/
def literalString : Reader String := label "literal string" do
  char '\''
  let cs ← span isLiteralChar
  commit (char '\'')
  return String.ofList cs

/-- Reads two quotes, or else one, that `after` may follow. -/
def quoteRun (q : Char) (after : Reader Unit) : Reader String :=
  orElse (do char q; char q; lookahead after; pure (String.ofList [q, q]))
    (do char q; lookahead after; pure q.toString)

/-- Reads a backslash at the end of a line with the blanks and breaks after it. -/
def trimmedBreak : Reader Unit := do
  char '\\'
  blanks
  lineBreak
  blanksAndBreaks

/-- Reads a piece of a multi-line basic string: plain characters, trimmed breaks, an escape
or a line break. -/
def multiBasicPiece : Reader String :=
  firstOf [String.ofList <$> span1 isBasicChar, (do discard (many1 trimmedBreak); pure ""),
    Char.toString <$> escape, (do lineBreak; pure "\n")]

/-- Reads runs of one or two quotes, each followed by pieces, from `acc`; quotes that no
piece follows end the body without being kept. -/
def multiBasicQuotes : Nat → String → Reader String
  | 0, acc => pure acc
  | fuel + 1, acc => do
    match ← attempt (quoteRun '"' (discard (satisfy (· != '"')))) with
    | none => pure acc
    | some q =>
      match ← attempt multiBasicPiece with
      | none => pure acc
      | some p =>
        let more ← many multiBasicPiece
        multiBasicQuotes fuel (acc ++ q ++ p ++ String.join more)

/-- Reads the body of a multi-line basic string. -/
def multiBasicBody : Reader String := do
  let pieces ← many multiBasicPiece
  let body ← multiBasicQuotes (← roundsLeft) (String.join pieces)
  let last ← attempt (quoteRun '"' (literal "\"\"\""))
  return body ++ last.getD ""

/-- Reads a multi-line basic string. -/
def multiBasicString : Reader String := label "multiline basic string" do
  literal "\"\"\""
  discard (attempt lineBreak)
  let body ← commit multiBasicBody
  commit (literal "\"\"\"")
  return body

/-- Reads a character of a multi-line literal string, a line break as a line feed. -/
def multiLiteralChar : Reader Char :=
  orElse (satisfy isLiteralChar) (do lineBreak; pure '\n')

/-- Reads the body of a multi-line literal string. -/
def multiLiteralBody : Reader String := do
  let first ← many multiLiteralChar
  let runs ← many do
    let q ← quoteRun '\'' (discard (satisfy (· != '\'')))
    let cs ← many1 multiLiteralChar
    pure (q ++ String.ofList cs)
  let last ← attempt (quoteRun '\'' (literal "'''"))
  return String.ofList first ++ String.join runs ++ last.getD ""

/-- Reads a multi-line literal string. -/
def multiLiteralString : Reader String := label "multiline literal string" do
  literal "'''"
  discard (attempt lineBreak)
  let body ← commit multiLiteralBody
  commit (literal "'''")
  return body

/-- Reads a string of any form. -/
def string : Reader String :=
  firstOf [multiBasicString, basicString, multiLiteralString, literalString]

end DocSuite.Toml
