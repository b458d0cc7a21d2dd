import DocSuite.Script.Token
import DocSuite.Script.Source
import DocSuite.Text.Blank
/-!
# Context-driven lexing

The lexer is told which tokens the parser can take next and reads the next token from
that set only, so the same text lexes differently by context: after an operand `/` is a
division, before one it opens a regular expression; inside a string, a template, a regular
expression or JSX text the text is read as literal content; a word is a keyword only where
the keyword is expected.

Reading follows these rules, in order:

* The *context scans* run first when their token is expected: template text, JSX text, the
  inserted semicolon (before a line break, a closing brace or the end, unless the next line
  continues the expression), the question mark of a conditional, and an HTML comment at a
  statement start.
* Literal content (string, attribute, regular expression text and flags) is read without
  skipping blanks.
* Otherwise blanks are skipped and the longest expected token wins; comments are always
  expected, and a word that spells an expected keyword is that keyword; where the parser
  reserves words, a reserved word is its keyword whether expected or not.
* When no expected token fits, the text is read in *error mode*: the longest token of any
  kind, or else a run of characters that start no token.
-/

namespace DocSuite.Script

open DocSuite.Text

/-- A set of tokens, as a bit mask over the token numbering. -/
structure TokSet where
  bits : Nat
  deriving DecidableEq, Inhabited

namespace TokSet

/-- The empty set. -/
def empty : TokSet := ⟨0⟩

/-- Whether a token is in the set. -/
def mem (s : TokSet) (t : Tok) : Bool := s.bits.testBit t.ctorIdx

/-- The set with one more token. -/
def insert (s : TokSet) (t : Tok) : TokSet := ⟨s.bits ||| (1 <<< t.ctorIdx)⟩

/-- The set of the listed tokens. -/
def ofList (ts : List Tok) : TokSet := ts.foldl insert empty

/-- The union of two sets. -/
def union (a b : TokSet) : TokSet := ⟨a.bits ||| b.bits⟩

/-- The set without a token. -/
def erase (s : TokSet) (t : Tok) : TokSet :=
  if s.mem t then ⟨s.bits ^^^ (1 <<< t.ctorIdx)⟩ else s

end TokSet

/-- One token read from a source: its kind and its character range. -/
structure Lexeme where
  tok : Tok
  start : Nat
  stop : Nat
  deriving DecidableEq, Repr, Inhabited

/-! ## Character classes -/

/-- Blanks between tokens: white space as the language's patterns read it, which is
Unicode white space without the next-line control (that one may stand in a name), plus the
byte order mark, the word joiner and the zero-width space. -/
def isSeparator (c : Char) : Bool :=
  (isBlank c && c.toNat != 0x85) || c.toNat == 0xFEFF || c.toNat == 0x2060 || c.toNat == 0x200B

/-- Whether a character ends a line: a line feed or a line or paragraph separator. -/
def isLineEnd (c : Char) : Bool := c == '\n' || c.toNat == 0x2028 || c.toNat == 0x2029

/-- The ASCII white space of the context scans. -/
def isAsciiSpace (c : Char) : Bool :=
  c == ' ' || c == '\t' || c == '\n' || c == '\r' || c == '\x0b' || c == '\x0c'

/-- Characters that never occur in a name: controls, blanks, and the punctuation of the
language. -/
def isNameExcluded (c : Char) : Bool :=
  c.toNat < 0x20 || isSeparator c ||
  match c with
  | ':' | ';' | '`' | '"' | '\'' | '@' | '#' | '.' | ',' | '|' | '^' | '&' | '<' | '=' | '>'
  | '+' | '-' | '*' | '/' | '\\' | '%' | '?' | '!' | '~' | '(' | ')' | '[' | ']' | '{' | '}' =>
    true
  | _ => false

/-- Whether a character may continue a name. -/
def isNamePart (c : Char) : Bool := !isNameExcluded c

/-- Whether a character may start a name. -/
def isNameStart (c : Char) : Bool := !isNameExcluded c && !c.isDigit

/-- ASCII hexadecimal digits. -/
def isHexDigit (c : Char) : Bool := c.isDigit || ('a' ≤ c && c ≤ 'f') || ('A' ≤ c && c ≤ 'F')

/-! ## Scanning helpers over a source -/

namespace Source

/-- The first index at or after `i` whose character fails `p` (or the end). -/
def skipWhile (s : Source) (p : Char → Bool) (i : Nat) : Nat :=
  if h : i < s.size then
    if p (s.get i) then s.skipWhile p (i + 1) else i
  else i
termination_by s.size - i

/-- Whether the characters of `w` stand at index `i`. -/
def startsWithAt (s : Source) (i : Nat) (w : String) : Bool :=
  (w.toList.zipIdx.all fun (c, k) => s.get (i + k) == c) && i + w.length ≤ s.size

/-- The end of a unicode escape `\uXXXX` or `\u{X…}` starting at `i`. -/
def unicodeEscapeEnd? (s : Source) (i : Nat) : Option Nat :=
  if s.get i == '\\' && s.get (i + 1) == 'u' then
    if s.get (i + 2) == '{' then
      let j := s.skipWhile isHexDigit (i + 3)
      if j > i + 3 && s.get j == '}' then some (j + 1) else none
    else if (List.range 4).all (fun k => isHexDigit (s.get (i + 2 + k))) && i + 6 ≤ s.size then
      some (i + 6)
    else none
  else none

/-- The end of the name parts (plain or escaped) from `i` on. -/
def namePartsEnd (s : Source) (i : Nat) : Nat :=
  if _h : i < s.size then
    if isNamePart (s.get i) then s.namePartsEnd (i + 1)
    else
      match s.unicodeEscapeEnd? i with
      | some j => if _hj : j > i then s.namePartsEnd j else i
      | none => i
  else i
termination_by s.size - i
decreasing_by all_goals omega

/-- The end of a name starting at `i`, if one does. -/
def nameEnd? (s : Source) (i : Nat) : Option Nat :=
  if i < s.size && isNameStart (s.get i) then some (s.namePartsEnd (i + 1))
  else match s.unicodeEscapeEnd? i with
    | some j => some (s.namePartsEnd j)
    | none => none

/-- The end of digits in `isDigitClass`, with single underscores between them. -/
def digitsEnd (s : Source) (isDigitClass : Char → Bool) (i : Nat) : Nat :=
  if h : i < s.size then
    if isDigitClass (s.get i) then s.digitsEnd isDigitClass (i + 1)
    else if s.get i == '_' && i > 0 && isDigitClass (s.get (i - 1)) &&
        isDigitClass (s.get (i + 1)) then s.digitsEnd isDigitClass (i + 1)
    else i
  else i
termination_by s.size - i

/-- The end of a number literal starting at `i`, if one does. Digits with a point or an
exponent must start as a decimal integer: `0`, or a non-zero digit after at most one zero;
other digit runs (`00`, `0_1`) end before a point or an exponent. -/
def numberEnd? (s : Source) (i : Nat) : Option Nat :=
  let c := s.get i
  let n := s.get (i + 1)
  let radix (isD : Char → Bool) : Option Nat :=
    if isD (s.get (i + 2)) then
      let j := s.digitsEnd isD (i + 2)
      some (if s.get j == 'n' then j + 1 else j)
    else none
  if c == '0' && (n == 'x' || n == 'X') then radix isHexDigit
  else if c == '0' && (n == 'b' || n == 'B') then radix (fun d => d == '0' || d == '1')
  else if c == '0' && (n == 'o' || n == 'O') then radix (fun d => '0' ≤ d && d ≤ '7')
  else
    let exponent (j : Nat) : Nat :=
      if s.get j == 'e' || s.get j == 'E' then
        let k := if s.get (j + 1) == '+' || s.get (j + 1) == '-' then j + 2 else j + 1
        if (s.get k).isDigit then s.digitsEnd Char.isDigit k else j
      else j
    if c.isDigit then
      let j := s.digitsEnd Char.isDigit i
      let nonZero (d : Char) : Bool := '1' ≤ d && d ≤ '9'
      let integral := j == i + 1 || nonZero c || nonZero n
      if s.get j == 'n' then some (j + 1)
      else if !integral then some j
      else if s.get j == '.' then
        let k := if (s.get (j + 1)).isDigit then s.digitsEnd Char.isDigit (j + 1) else j + 1
        some (exponent k)
      else some (exponent j)
    else if c == '.' && n.isDigit then
      some (exponent (s.digitsEnd Char.isDigit (i + 1)))
    else none

/-- The end of a comment starting at `i`: `//` to the line end, or `/*` to the first
`*/` (an unclosed one is no comment). No comment holds a NUL character: a line comment
ends before one, and a block comment with one before its close is no comment. -/
def commentEnd? (s : Source) (i : Nat) : Option Nat :=
  if s.get i == '/' && s.get (i + 1) == '/' then
    some (s.skipWhile (fun c => !(isLineEnd c || c == '\r' || c == '\x00')) (i + 2))
  else if s.get i == '/' && s.get (i + 1) == '*' then
    closing (i + 2)
  else none
where
  closing (j : Nat) : Option Nat :=
    if h : j < s.size then
      if s.get j == '*' && s.get (j + 1) == '/' then some (j + 2)
      else if s.get j == '\x00' then none
      else closing (j + 1)
    else none
  termination_by s.size - j

/-- The end of an escape sequence starting at `i` (a backslash). -/
def escapeEnd? (s : Source) (i : Nat) : Option Nat :=
  if s.get i != '\\' || s.atEnd (i + 1) || s.get (i + 1) == '\x00' then none
  else
    let c := s.get (i + 1)
    if c == 'x' then
      if isHexDigit (s.get (i + 2)) && isHexDigit (s.get (i + 3)) then some (i + 4) else none
    else if c == 'u' then s.unicodeEscapeEnd? i
    else if '0' ≤ c && c ≤ '7' then
      let d1 := s.get (i + 2)
      let d2 := s.get (i + 3)
      if '0' ≤ d1 && d1 ≤ '7' then
        (if '0' ≤ d2 && d2 ≤ '7' then some (i + 4) else some (i + 3))
      else some (i + 2)
    else if (c == '\r' || c == '?') &&
        (s.get (i + 2) == '\n' || (s.get (i + 2)).toNat == 0x2028 ||
          (s.get (i + 2)).toNat == 0x2029) then some (i + 3)
    else some (i + 2)

/-- The end of a character reference `&name;` or `&#…;` starting at `i`. -/
def charReferenceEnd? (s : Source) (i : Nat) : Option Nat :=
  if s.get i != '&' then none
  else if s.get (i + 1) == '#' then
    if s.get (i + 2) == 'x' || s.get (i + 2) == 'X' then
      let j := s.skipWhile isHexDigit (i + 3)
      if j > i + 3 && j ≤ i + 9 && s.get j == ';' then some (j + 1) else none
    else
      let j := s.skipWhile Char.isDigit (i + 2)
      if j > i + 2 && j ≤ i + 7 && s.get j == ';' then some (j + 1) else none
  else
    let j := s.skipWhile Char.isAlpha (i + 1)
    if j > i + 1 && j ≤ i + 31 && s.get j == ';' then some (j + 1) else none

/-- The end of a JSX name with a dash, starting at `i`. -/
def jsxDashedEnd? (s : Source) (i : Nat) : Option Nat :=
  let isHead (c : Char) := c.isAlpha || c == '_' || c == '$'
  let isBody (c : Char) := c.isAlphanum || c == '_' || c == '$'
  if isHead (s.get i) then
    let j := s.skipWhile isBody (i + 1)
    if s.get j == '-' then some (s.skipWhile (fun c => isBody c || c == '-') (j + 1)) else none
  else none

/-- The end of the text of a regular expression starting at `i`: classes in brackets,
escapes, and any character but `/`, `\`, `[` and a line feed. -/
def regexPatternEnd (s : Source) (i : Nat) : Nat :=
  if h : i < s.size then
    let c := s.get i
    if c == '\n' || c == '/' || c == '\x00' then i
    else if c == '\\' then
      if s.get (i + 1) != '\n' && s.get (i + 1) != '\x00' && i + 1 < s.size then
        s.regexPatternEnd (i + 2)
      else i
    else if c == '[' then
      match classEnd (i + 1) with
      | some j => if _hj : j > i then s.regexPatternEnd j else i
      | none => i
    else s.regexPatternEnd (i + 1)
  else i
termination_by s.size - i
decreasing_by all_goals omega
where
  classEnd (j : Nat) : Option Nat :=
    if h : j < s.size then
      let c := s.get j
      if c == ']' then some (j + 1)
      else if c == '\n' || c == '\x00' then none
      else if c == '\\' then
        if s.get (j + 1) != '\n' && s.get (j + 1) != '\x00' && j + 1 < s.size then
          classEnd (j + 2)
        else none
      else classEnd (j + 1)
    else none
  termination_by s.size - j

end Source

/-! ## Context scans -/

namespace Source

/-- The end of a block comment whose body starts at `j`, and whether a line ends inside it;
nothing when it is left open (up to the end of the input or a NUL character). -/
def blockBodyEnd? (s : Source) (j : Nat) (sawBreak : Bool) : Option (Nat × Bool) :=
  if h : j < s.size then
    let c := s.get j
    if c == '*' && s.get (j + 1) == '/' then some (j + 2, sawBreak)
    else if c == '\x00' then none
    else s.blockBodyEnd? (j + 1) (sawBreak || isLineEnd c)
  else none
termination_by s.size - j

/-- How the comment scan inside the semicolon scan ends. -/
inductive CommentScan where
  /-- At a `/` that starts no comment; `stop` is just after it. -/
  | rejects (stop : Nat) (sawComment : Bool)
  /-- At index `stop`, where neither a blank nor a comment stands. -/
  | reaches (stop : Nat) (sawComment : Bool)
  /-- Just after a block comment closed before something other than a `/`, when no line
  ended inside a block comment read so far. -/
  | closesInline (stop : Nat)
  deriving DecidableEq, Repr, Inhabited

/-- The comment scan of the semicolon scan from `i`, passing over ASCII white space and
comments. A line comment runs to the next line feed or NUL character, and in untyped sources
also to a line or paragraph separator; unlike a comment token it does not stop at a carriage
return. A block comment left open runs to the end of the input or a NUL character. When
`stopAfterBlock` holds, the scan also ends after a block comment closed before something
other than a `/`: it `reaches` that point when a line ended inside one of the block comments
read, and `closesInline` otherwise. `sawBreak` and `sawComment` carry what was read. -/
def commentScan (s : Source) (typed stopAfterBlock : Bool) (i : Nat) (sawBreak sawComment : Bool) :
    CommentScan :=
  if h : i < s.size then
    let c := s.get i
    if isAsciiSpace c then s.commentScan typed stopAfterBlock (i + 1) sawBreak sawComment
    else if c == '/' && s.get (i + 1) == '/' then
      let j := s.skipWhile (fun c => !(c == '\n' || c == '\x00' ||
        (!typed && isLineEnd c))) (i + 2)
      if _hj : j > i then s.commentScan typed stopAfterBlock j sawBreak true
      else .reaches i sawComment
    else if c == '/' && s.get (i + 1) == '*' then
      match s.blockBodyEnd? (i + 2) sawBreak with
      | some (j, saw) =>
        if stopAfterBlock && s.get j != '/' then (if saw then .reaches j true else .closesInline j)
        else if _hj : j > i then s.commentScan typed stopAfterBlock j saw true
        else .reaches i sawComment
      | none => .reaches (s.skipWhile (· != '\x00') (i + 2)) sawComment
    else if c == '/' then .rejects (i + 1) sawComment
    else .reaches i sawComment
  else .reaches i sawComment
termination_by s.size - i
decreasing_by all_goals omega

/-- The outcome of the semicolon scan. -/
inductive SemicolonScan where
  /-- A semicolon is inserted. -/
  | inserts
  /-- None is: the scan stopped at index `stop`, having read a comment when `sawComment`. -/
  | stops (stop : Nat) (sawComment : Bool)
  deriving DecidableEq, Repr, Inhabited

/-- The semicolon scan at `k`, where the next line starts past blanks and comments. The
semicolon is left out before what continues the statement: a binary operator or other
punctuation that cannot start one, and a backquote, which makes a tagged template. An opening
parenthesis or bracket continues it, in typed sources only where `||` could follow (an
expression, not a type, stands before it); so does a brace where a signature may take a
body. In untyped sources a point continues it unless a digit follows, which starts a number.
A sign continues it unless it is doubled, `!` only as `!=`, and a word only as `in` or
`instanceof`. Where the scan stops past such a first character, the characters read are
passed over. -/
def nextLine (s : Source) (typed orValid signature : Bool) (k : Nat) (saw : Bool) :
    SemicolonScan :=
  if s.atEnd k then .inserts
  else
    match s.get k with
    | ',' | ':' | ';' | '*' | '%' | '>' | '<' | '=' | '?' | '^' | '|' | '&' | '/' | '`' =>
      .stops k saw
    | '(' | '[' => if !typed || orValid then .stops k saw else .inserts
    | '{' => if signature then .stops k saw else .inserts
    | '.' =>
      if typed then .stops k saw
      else if (s.get (k + 1)).isDigit then .inserts
      else .stops (k + 1) saw
    | '+' => if s.get (k + 1) == '+' then .inserts else .stops (k + 1) saw
    | '-' => if s.get (k + 1) == '-' then .inserts else .stops (k + 1) saw
    | '!' => if s.get (k + 1) == '=' then .stops (k + 1) saw else .inserts
    | 'i' =>
      if s.get (k + 1) != 'n' then .inserts
      else if !(s.get (k + 2)).isAlpha then .stops (k + 2) saw
      else if s.startsWithAt (k + 2) "stanceof" then
        (if (s.get (k + 10)).isAlpha then .inserts else .stops (k + 10) saw)
      else .inserts
    | _ => .inserts

/-- The semicolon scan after the line break at `i`: blanks and comments are passed over,
and the scan gives up at a `/` that starts no comment. -/
def afterBreak (s : Source) (typed orValid signature : Bool) (i : Nat) : SemicolonScan :=
  match s.commentScan typed false (i + 1) false false with
  | .rejects k saw => .stops k saw
  | .reaches k saw => s.nextLine typed orValid signature k saw
  | .closesInline k => s.nextLine typed orValid signature k true

/-- The semicolon scan of untyped sources from `i`. A semicolon is inserted at the end of the
input (or a NUL character) and before a closing brace, and after a line break as `afterBreak`
decides. A `/` starts the comment scan, which stops after a block comment with no line break
in it; when it reaches something past a line break instead, a semicolon is inserted there
unless `||` could follow (`orValid`) or a `,` or `=` comes next. The scan stops at anything
else that is not white space. -/
def scanUntyped (s : Source) (orValid : Bool) (i : Nat) (saw : Bool) : SemicolonScan :=
  if _h : i < s.size then
    let c := s.get i
    if c == '\x00' then .inserts
    else
      let (j, saw, early) : Nat × Bool × Option SemicolonScan :=
        if c == '/' then
          match s.commentScan false true i false saw with
          | .rejects k saw => (k, saw, some (.stops k saw))
          | .reaches k saw =>
            (k, saw, if !orValid && s.get k != ',' && s.get k != '=' then some .inserts else none)
          | .closesInline k => (k, true, none)
        else (i, saw, none)
      match early with
      | some r => r
      | none =>
        let d := s.get j
        if d == '}' then .inserts
        else if isLineEnd d then s.afterBreak false orValid false j
        else if !isAsciiSpace d then .stops j saw
        else if hj : j ≥ i then s.scanUntyped orValid (j + 1) saw
        else .stops j saw
  else .inserts
termination_by s.size - i
decreasing_by omega

/-- The semicolon scan of typed sources from `i`. A semicolon is inserted at the end of the
input (or a NUL character), before a closing brace unless a `:` follows it where `||` could
not (the brace then closes a pattern whose type follows), and after a line feed as
`afterBreak` decides; a comment on the line stops the scan like any other character. -/
def scanTyped (s : Source) (orValid signature : Bool) (i : Nat) : SemicolonScan :=
  if h : i < s.size then
    let c := s.get i
    if c == '\x00' then .inserts
    else if c == '}' then
      let j := s.skipWhile isAsciiSpace (i + 1)
      if s.get j == ':' && !orValid then .stops j false else .inserts
    else if !isAsciiSpace c then .stops i false
    else if c == '\n' then s.afterBreak true orValid signature i
    else s.scanTyped orValid signature (i + 1)
  else .inserts
termination_by s.size - i

/-- The semicolon scan at `i`: whether a semicolon is inserted before the next token, and
where the scan stopped when not. `orValid` says whether `||` could follow, and `signature`
whether a signature may end there. -/
def semicolonScan (s : Source) (typed orValid signature : Bool) (i : Nat) : SemicolonScan :=
  if typed then s.scanTyped orValid signature i else s.scanUntyped orValid i false

/-- The question mark of a conditional at `i` (after ASCII space): not `??` or `?.`
(unless a digit follows the dot), and for typed sources not `?` before `:`, `)` or `,`. -/
def ternaryEnd? (s : Source) (typed : Bool) (i : Nat) : Option Nat :=
  let j := s.skipWhile isAsciiSpace i
  if s.get j != '?' then none
  else
    let n := s.get (j + 1)
    if n == '?' then none
    else if typed && n == '.' then none
    else
      let k := if typed then s.skipWhile isAsciiSpace (j + 1) else j + 1
      if typed && (s.get k == ':' || s.get k == ')' || s.get k == ',') then none
      else if s.get k == '.' then (if (s.get (k + 1)).isDigit then some (j + 1) else none)
      else some (j + 1)

/-- Template text from `i`: up to a backquote, `${` or a backslash; nothing at the end of
the input, before a NUL character, or when empty. -/
def templateCharsEnd? (s : Source) (i : Nat) : Option Nat :=
  go i
where
  go (j : Nat) : Option Nat :=
    if h : j < s.size then
      let c := s.get j
      if c == '`' || c == '\\' || (c == '$' && s.get (j + 1) == '{') then
        if j > i then some j else none
      else if c == '\x00' then none
      else go (j + 1)
    else none
  termination_by s.size - j

/-- JSX text from `i`: up to `<`, `>`, `{`, `}`, `&` or a NUL character; only when it
holds more than blanks that follow a line break. -/
def jsxTextEnd? (s : Source) (i : Nat) : Option Nat :=
  go i false false
where
  go (j : Nat) (sawText atNewline : Bool) : Option Nat :=
    if h : j < s.size then
      let c := s.get j
      if c == '<' || c == '>' || c == '{' || c == '}' || c == '&' || c == '\x00' then
        if sawText then some j else none
      else if c == '\n' then go (j + 1) sawText true
      else
        let atNewline := atNewline && isAsciiSpace c
        go (j + 1) (sawText || !atNewline) atNewline
    else if sawText then some j else none
  termination_by s.size - j

/-- An HTML comment at `i` (after blanks): `<!--` or `-->` and the rest of the line. -/
def htmlCommentRange? (s : Source) (i : Nat) : Option (Nat × Nat) :=
  let j := s.skipWhile (fun c => isAsciiSpace c || c.toNat == 0x2028 || c.toNat == 0x2029) i
  if s.startsWithAt j "<!--" || s.startsWithAt j "-->" then
    some (j, s.skipWhile (fun c => !(isLineEnd c || c == '\x00')) j)
  else none

end Source

/-! ## Reading one token -/

/-- The tokens read as literal content, without skipping blanks first. -/
def contentTokens : List Tok :=
  [.singleFragment, .doubleFragment, .jsxSingleFragment, .jsxDoubleFragment, .regexPattern]

/-- The longest punctuator among the allowed ones at `i`. -/
def longestPunctuator (s : Source) (allowed : Tok → Bool) (i : Nat) : Option Lexeme :=
  Tok.punctuators.foldl (fun best (text, t) =>
    if allowed t && s.startsWithAt i text then
      match best with
      | some b => if text.length > b.stop - b.start then some ⟨t, i, i + text.length⟩ else best
      | none => some ⟨t, i, i + text.length⟩
    else best) none

/-- Keeps the longer of two candidate lexemes (the first on a tie). -/
def longer : Option Lexeme → Option Lexeme → Option Lexeme
  | some a, some b => if b.stop - b.start > a.stop - a.start then some b else some a
  | some a, none => some a
  | none, b => b

/-- The token of a word at `i` ending at `j`: the keyword it spells when `keywordOk`
accepts it, else a name when `nameOk`. -/
def wordToken (s : Source) (i j : Nat) (keywordOk : Tok → Bool) (nameOk : Bool) :
    Option Lexeme :=
  match Tok.ofWord? (s.slice i j) with
  | some k => if keywordOk k then some ⟨k, i, j⟩ else if nameOk then some ⟨.identifier, i, j⟩ else none
  | none => if nameOk then some ⟨.identifier, i, j⟩ else none

/-- `static get` followed by a line break, read as one token. -/
def staticGetEnd? (s : Source) (i : Nat) : Option Nat :=
  if s.startsWithAt i "static" then
    let j := s.skipWhile isSeparator (i + 6)
    if j > i + 6 && s.startsWithAt j "get" then
      let k := s.skipWhile (fun c => isSeparator c && c != '\n') (j + 3)
      if s.get k == '\n' then some (k + 1) else none
    else none
  else none

/-- The longest token at `i` (blanks already skipped) among those `allowed` accepts; a word
is a keyword when `keywordOk` accepts that keyword. Comments are always allowed. -/
def readToken (s : Source) (allowed : Tok → Bool) (keywordOk : Tok → Bool) (i : Nat) :
    Option Lexeme :=
  let c := s.get i
  let comment := (s.commentEnd? i).map fun j => (⟨.comment, i, j⟩ : Lexeme)
  let punct := longestPunctuator s allowed i
  let word := match s.nameEnd? i with
    | some j => wordToken s i j keywordOk (allowed .identifier)
    | none => none
  let staticGet := if allowed .staticGet then (staticGetEnd? s i).map (⟨.staticGet, i, ·⟩)
    else none
  let number := if allowed .number then (s.numberEnd? i).map (⟨.number, i, ·⟩) else none
  let privateName :=
    if allowed .privateName && c == '#' then
      (s.nameEnd? (i + 1)).map (⟨.privateName, i, ·⟩)
    else none
  let hashBang :=
    if allowed .hashBang && c == '#' && s.get (i + 1) == '!' then
      some ⟨.hashBang, i, s.skipWhile (fun c => c != '\n' && c != '\x00') (i + 2)⟩
    else none
  let jsxName := if allowed .jsxIdentifier then (s.jsxDashedEnd? i).map (⟨.jsxIdentifier, i, ·⟩)
    else none
  let charRef := if allowed .charReference then (s.charReferenceEnd? i).map (⟨.charReference, i, ·⟩)
    else none
  -- a comment beats a slash token of the same start; otherwise the longest token wins
  [punct, word, staticGet, number, privateName, hashBang, jsxName, charRef].foldl longer comment

/-- Reads literal content when a content token is expected: string and attribute text,
escapes, character references, the closing quote, regular expression text. -/
def readContent (s : Source) (expected : TokSet) (i : Nat) : Option Lexeme :=
  let c := s.get i
  if s.atEnd i then none
  else if expected.mem .singleFragment || expected.mem .doubleFragment then
    let q := if expected.mem .singleFragment then '\'' else '"'
    if c == q then some ⟨if q == '\'' then .singleQuote else .doubleQuote, i, i + 1⟩
    else if c == '\\' then (s.escapeEnd? i).map (⟨.escape, i, ·⟩)
    else if c == '\n' || c == '\r' || c == '\x00' then none
    else
      let j := s.skipWhile (fun d => d != q && d != '\\' && d != '\n' && d != '\r' && d != '\x00') i
      some ⟨if q == '\'' then .singleFragment else .doubleFragment, i, j⟩
  else if expected.mem .jsxSingleFragment || expected.mem .jsxDoubleFragment then
    let q := if expected.mem .jsxSingleFragment then '\'' else '"'
    if c == q then some ⟨if q == '\'' then .singleQuote else .doubleQuote, i, i + 1⟩
    else match s.charReferenceEnd? i with
      | some j => some ⟨.charReference, i, j⟩
      | none =>
        let j := fragmentEnd q i
        if j > i then some ⟨if q == '\'' then .jsxSingleFragment else .jsxDoubleFragment, i, j⟩
        else none
  else if expected.mem .regexPattern then
    let j := s.regexPatternEnd i
    if j > i then some ⟨.regexPattern, i, j⟩ else none
  else none
where
  /-- Attribute text: any character but the quote, and `&` only when no reference name
  or number sign follows it. -/
  fragmentEnd (q : Char) (j : Nat) : Nat :=
    if h : j < s.size then
      let d := s.get j
      if d == q || d == '\x00' then j
      else if d == '&' then
        let e := s.get (j + 1)
        if e == '#' || e.isAlpha || s.atEnd (j + 1) then j else fragmentEnd q (j + 2)
      else fragmentEnd q (j + 1)
    else j
  termination_by s.size - j

/-- The tokens error mode reads: every token but literal content and context scans. -/
def errorModeAllowed (t : Tok) : Bool :=
  !(contentTokens.contains t) &&
  match t with
  | .regexClose | .regexFlags | .templateChars | .autoSemicolon | .ternaryQuestion | .jsxText
  | .htmlComment | .signatureSemicolon | .staticGet | .hashBang | .jsxIdentifier
  | .charReference | .errorChars | .endOfInput | .escape => false
  | _ => true

/-- Reads a token in error mode at `i`, skipping blanks first: the longest token of any
kind (a word is a keyword when `keywordOk` accepts it), or else the run of characters that
start none, which takes in the comments right after a NUL character. -/
def readErrorToken (s : Source) (vocabulary : TokSet) (keywordOk : Tok → Bool) (i : Nat) :
    Lexeme :=
  let i := s.skipWhile isSeparator i
  if s.atEnd i then ⟨.endOfInput, i, i⟩
  else
    match readToken s allowed keywordOk i with
    | some l => l
    | none => ⟨.errorChars, i, badRun (s.get i == '\x00') (i + 1)⟩
where
  /-- The tokens of the grammar that error mode reads. -/
  allowed (t : Tok) : Bool := errorModeAllowed t && vocabulary.mem t
  /-- Characters up to the next blank or the next start of a token; `nul` when they hold a
  NUL character, after which a comment starts no token and is taken into the run. -/
  badRun (nul : Bool) (j : Nat) : Nat :=
    if _h : j < s.size then
      let c := s.get j
      if isSeparator c then j
      else match readToken s allowed keywordOk j with
        | some l =>
          if nul && l.tok == .comment then
            if _h2 : l.stop > j then badRun nul l.stop else j
          else j
        | none => badRun (nul || c == '\x00') (j + 1)
    else j
  termination_by s.size - j

/-- What the context scans read at `i`, when their tokens are expected. -/
def readScanned (s : Source) (typed : Bool) (expected : TokSet) (i : Nat) : Option Lexeme :=
  let asi := expected.mem .autoSemicolon || (typed && expected.mem .signatureSemicolon)
  if expected.mem .templateChars then
    if asi then none else (s.templateCharsEnd? i).map (⟨.templateChars, i, ·⟩)
  else
    match (if expected.mem .jsxText then (s.jsxTextEnd? i).map (⟨.jsxText, i, ·⟩) else none) with
    | some l => some l
    | none =>
      if asi then
        let signature := typed && expected.mem .signatureSemicolon
        match s.semicolonScan typed (expected.mem .pipePipe) signature i with
        | .inserts =>
          some ⟨if expected.mem .autoSemicolon then .autoSemicolon else .signatureSemicolon, i, i⟩
        | .stops k saw =>
          if expected.mem .ternaryQuestion && !saw && s.get k == '?' then
            (s.ternaryEnd? typed k).map fun j => ⟨.ternaryQuestion, j - 1, j⟩
          else none
      else if expected.mem .ternaryQuestion then
        (s.ternaryEnd? typed i).map fun j => ⟨.ternaryQuestion, j - 1, j⟩
      else if !expected.mem .pipePipe && !expected.mem .escape && !expected.mem .regexPattern then
        (s.htmlCommentRange? i).map fun (a, b) => ⟨.htmlComment, a, b⟩
      else none

/-- Whether a lexeme is an extra: a comment, which may stand between any two tokens. -/
def Lexeme.isExtra (l : Lexeme) : Bool := l.tok == .comment || l.tok == .htmlComment

/-- Reads the next lexeme at `i` for a parser that expects `expected`. The result is an
expected token, an extra, the end of the input (when expected or not), or a token read in
error mode, which the parser then cannot take. A word whose keyword is `reserved` is that
keyword even where the keyword is not expected. -/
def lexNext (s : Source) (typed : Bool) (vocabulary expected : TokSet) (reserved : Tok → Bool)
    (i : Nat) : Lexeme :=
  match readScanned s typed expected i with
  | some l => l
  | none =>
    let content := contentTokens.any expected.mem
    match (if content then readContent s expected i else none) with
    | some l => l
    | none =>
      if content then readErrorToken s vocabulary (fun _ => false) i
      else
        let immediate :=
          (if expected.mem .regexClose && s.get i == '/' then
            some (⟨.regexClose, i, i + 1⟩ : Lexeme)
          else if expected.mem .escape && s.get i == '\\' then
            (s.escapeEnd? i).map (⟨.escape, i, ·⟩)
          else none)
        let flags :=
          if expected.mem .regexFlags && s.get i ≥ 'a' && s.get i ≤ 'z' then
            some (⟨.regexFlags, i, s.skipWhile (fun c => 'a' ≤ c && c ≤ 'z') i⟩ : Lexeme)
          else none
        match longer immediate flags with
        | some l => l
        | none =>
          let j := s.skipWhile isSeparator i
          if s.atEnd j then ⟨.endOfInput, j, j⟩
          else
            match readToken s expected.mem (fun k => expected.mem k || reserved k) j with
            | some l => l
            | none => readErrorToken s vocabulary (fun _ => false) j

end DocSuite.Script
