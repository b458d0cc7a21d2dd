import DocSuite.Toml.Value
/-!
# Writing strings and documents

How a text is written as a TOML string. Of the four forms the first that writes the text
without escapes is taken, in this order: a basic string when the text has no backslash,
double quote or line break; a literal string when it has no single quote or line break; a
multi-line basic string when it has no backslash and no run of more than two double quotes;
a multi-line literal string when it has no run of more than two single quotes. A control
character other than the tab and the line break rules all four out; such a text, and one no
form fits, is a basic string, multi-line when it has a line break.

A multi-line string starts its text on a new line when the text has a line break. A basic
string escapes the backslash, the tab, the control characters (as `\uXXXX` in upper-case hex
when they have no short escape), the line break unless it is multi-line, and every double
quote that would make a run longer than the form allows: none on one line, two on several.

A document is written from its root table as a pretty printer lays it out (`write`): the
entries that are not tables first, a line `key = value` each, then every table as a section, a
blank line, its header and the lines of its entries. It writes strings, integers and truth
values, and tables of them one level deep.
-/

namespace DocSuite.Toml

/-- The forms of a TOML string. -/
inductive StringForm where
  /-- Between double quotes, with escapes. -/
  | basic
  /-- Between single quotes, as it is. -/
  | literal
  /-- Between three double quotes, with escapes. -/
  | multiBasic
  /-- Between three single quotes, as it is. -/
  | multiLiteral
  deriving DecidableEq, Repr, Inhabited

/-- What the form of a string depends on. -/
structure StringTraits where
  /-- The longest run of single quotes. -/
  singles : Nat
  /-- The longest run of double quotes. -/
  doubles : Nat
  /-- Whether the text has a backslash. -/
  backslash : Bool
  /-- Whether the text has a control character other than the tab and the line break. -/
  controls : Bool
  /-- Whether the text has a line break. -/
  newline : Bool
  deriving DecidableEq, Repr, Inhabited

/-- The length of the longest run of `c` in `cs`. -/
def longestRun (c : Char) (cs : List Char) : Nat :=
  (cs.foldl (fun (run, best) d => if d == c then (run + 1, max best (run + 1)) else (0, best))
    (0, 0)).2

/-- Whether a character is a control character that a literal string cannot hold. -/
def isEscapeControl (c : Char) : Bool :=
  c != '\t' && c != '\n' && (c.toNat ≤ 0x1F || c.toNat == 0x7F)

namespace StringTraits

/-- The traits of a text. -/
def of (cs : List Char) : StringTraits where
  singles := longestRun '\'' cs
  doubles := longestRun '"' cs
  backslash := cs.contains '\\'
  controls := cs.any isEscapeControl
  newline := cs.contains '\n'

/-- The form a text of these traits is written in. -/
def form (t : StringTraits) : StringForm :=
  if t.controls then (if t.newline then .multiBasic else .basic)
  else if !t.backslash && t.doubles == 0 && !t.newline then .basic
  else if t.singles == 0 && !t.newline then .literal
  else if !t.backslash && t.doubles ≤ 2 then .multiBasic
  else if t.singles ≤ 2 then .multiLiteral
  else if t.newline then .multiBasic
  else .basic

end StringTraits

/-- The upper-case hexadecimal digit of a number below 16. -/
def upperHexDigit (n : Nat) : Char :=
  if n < 10 then Char.ofNat (48 + n) else Char.ofNat (55 + n)

/-- A character other than the double quote as written inside a basic string, on several
lines when `multi`. -/
def escapeBasic (multi : Bool) (c : Char) : List Char :=
  match c with
  | '\x08' => ['\\', 'b']
  | '\t' => ['\\', 't']
  | '\n' => if multi then ['\n'] else ['\\', 'n']
  | '\x0c' => ['\\', 'f']
  | '\r' => ['\\', 'r']
  | '\\' => ['\\', '\\']
  | c =>
    if c.toNat ≤ 0x1F || c.toNat == 0x7F then
      ['\\', 'u'] ++ [12, 8, 4, 0].map fun k => upperHexDigit (c.toNat / Nat.pow 2 k % 16)
    else [c]

/-- The body of a basic string, on several lines when `multi`; `run` counts the double
quotes written as they are just before. A double quote is escaped when it would make that
run longer than two on several lines, or at all on one, and the run starts over after it. -/
def basicBody (multi : Bool) : List Char → Nat → List Char
  | [], _ => []
  | '"' :: cs, run =>
    if run < (if multi then 2 else 0) then '"' :: basicBody multi cs (run + 1)
    else '\\' :: '"' :: basicBody multi cs 0
  | c :: cs, _ => escapeBasic multi c ++ basicBody multi cs 0

/-- Whether a character may stand in a bare key: an ASCII letter or digit, `-` or `_`. -/
def isBareKeyChar (c : Char) : Bool :=
  ('A' ≤ c && c ≤ 'Z') || ('a' ≤ c && c ≤ 'z') || ('0' ≤ c && c ≤ '9') || c == '-' || c == '_'

/-- A key that can be written bare: not empty, of bare key characters only. -/
def IsBareKey (k : String) : Prop :=
  k.toList ≠ [] ∧ ∀ c ∈ k.toList, isBareKeyChar c = true

/-- A key as a message shows it: bare when it is not empty and every character may stand in
a bare key, and otherwise on one line between quotes. Single quotes are taken when the key
has a backslash or a double quote and they can hold it as it is on one line: no single quote,
no line break and no control character other than the tab. Otherwise it is a basic string,
whose escapes hold anything. -/
def keyRepr (key : String) : String :=
  let cs := key.toList
  if !cs.isEmpty && cs.all isBareKeyChar then key
  else if (cs.contains '\\' || cs.contains '"') && !cs.any isEscapeControl &&
      !cs.contains '\n' && !cs.contains '\'' then "'" ++ key ++ "'"
  else "\"" ++ String.ofList (basicBody false cs 0) ++ "\""

/-- A text written as a TOML string. -/
def quoteString (text : String) : String :=
  let cs := text.toList
  let t := StringTraits.of cs
  let lead := if t.newline then "\n" else ""
  match t.form with
  | .basic => "\"" ++ String.ofList (basicBody false cs 0) ++ "\""
  | .literal => "'" ++ text ++ "'"
  | .multiBasic => "\"\"\"" ++ lead ++ String.ofList (basicBody true cs 0) ++ "\"\"\""
  | .multiLiteral => "'''" ++ lead ++ text ++ "'''"

/-! ## Documents -/

/-- A value as written on the line of its key: a string as `quoteString` writes it, an integer
and a truth value as they are. Other values have no line of their own. -/
def lineValue? : Value → Option String
  | .string s => some (quoteString s)
  | .integer i => some (toString i)
  | .boolean b => some (toString b)
  | _ => none

/-- The lines `key = value` of entries, in order; none when a value has no line. -/
def pairLines? (es : List (String × Value)) : Option String :=
  (es.mapM fun e => (lineValue? e.2).map fun t => keyRepr e.1 ++ " = " ++ t ++ "\n").map
    String.join

/-- The entries of a table that hold tables, each with the entries of its table. -/
def sectionsOf (es : List (String × Value)) : List (String × List (String × Value)) :=
  es.filterMap fun e =>
    match e.2 with
    | .table t => some (e.1, t)
    | _ => none

/-- Whether a value is a table. -/
def Value.isTable : Value → Bool
  | .table _ => true
  | _ => false

/-- A root table written as a document: the lines of the entries that are not tables, then a
section for each table, a blank line, its header and its lines. A value the writer has no line
for is refused. -/
def write (root : List (String × Value)) : Except String String :=
  let head := pairLines? (root.filter fun e => !e.2.isTable)
  let sections := (sectionsOf root).mapM fun sec =>
    (pairLines? sec.2).map fun body => "\n[" ++ keyRepr sec.1 ++ "]\n" ++ body
  match head, sections with
  | some head, some sections => .ok (head ++ String.join sections)
  | _, _ => .error "unsupported value"

end DocSuite.Toml
