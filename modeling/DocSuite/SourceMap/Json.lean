import DocSuite.SourceMap.Basic
import DocSuite.Number.Shortest
import DocSuite.Text.Escaped
/-!
# Source maps from JSON

`SourceMap.ofJson` reads a source map from JSON text, checking the syntax while it reads the
fields: an object with the fields of `SourceMap` under their camel-case names (unknown ones
are skipped, each known one may appear once, `version` is required), or an array of the
fields in their declared order. The first fault is reported with the line and the byte
column where reading stood: for a malformed text just after the character that gave it away,
for a field of the wrong kind or range right after the offending value, for a missing or
repeated field where the object, or the key, ended.

Numbers are unsigned, signed, or floating point as they are written: an integer that fits in
64 bits keeps its sign, other numbers are floating point. A floating-point number is computed
from its leading digits while they fit in a 64-bit word (later integer digits raise the
exponent, later fraction digits are dropped), rounded to a binary value, and scaled by the
power of ten with one rounded product or quotient (`scale`); so it may differ in the last
place from the value nearest to the text.
-/

namespace DocSuite

/-- A fault while reading JSON: its message and, once known, its line and column. -/
structure JsonFault where
  message : String
  position : Option (Nat × Nat) := none
  deriving DecidableEq, Repr, Inhabited

namespace JsonFault

/-- The text of a fault: the message, and where it stands. -/
def text (f : JsonFault) : String :=
  match f.position with
  | some (line, column) => f.message ++ " at line " ++ toString line ++ " column " ++ toString column
  | none => f.message

end JsonFault

/-- A number as JSON text writes it. -/
inductive JsonNumber where
  | unsigned (n : Nat)
  | signed (i : Int)
  | float (x : Binary)
  deriving DecidableEq, Repr, Inhabited

/-- How a type fault lays out a floating-point number's shortest decimal: positionally for
leading places from `-5` to `15`, a whole number with `.0`, otherwise with an exponent that
has a sign and no padding. -/
def messageLayout : Layout where
  plain := some (-5, 16)
  pointZero := true
  expPlus := true
  expWidth := 1

/-- What a value was found to be, as a type fault names it. -/
inductive Unexpected where
  | null
  | bool (b : Bool)
  | number (n : JsonNumber)
  | text (s : String)
  | sequence
  | map
  deriving DecidableEq, Repr, Inhabited

namespace Unexpected

/-- How a type fault names a found value. -/
def describe : Unexpected → String
  | .null => "null"
  | .bool b => "boolean `" ++ toString b ++ "`"
  | .number (.unsigned n) => "integer `" ++ toString n ++ "`"
  | .number (.signed i) => "integer `" ++ toString i ++ "`"
  | .number (.float x) => "floating point `" ++ (x.shortest .toEven).render messageLayout ++ "`"
  | .text s => "string " ++ Text.quoteEscaped s
  | .sequence => "sequence"
  | .map => "map"

end Unexpected

/-- A fault of a value of the wrong kind. -/
def invalidType (u : Unexpected) (expected : String) : JsonFault :=
  ⟨"invalid type: " ++ u.describe ++ ", expected " ++ expected, none⟩

/-- A fault of a value out of range. -/
def invalidValue (u : Unexpected) (expected : String) : JsonFault :=
  ⟨"invalid value: " ++ u.describe ++ ", expected " ++ expected, none⟩

/-- A reader of JSON bytes: the index stays where reading stopped, also after a fault. -/
abbrev JsonReader := ReaderT ByteArray (ExceptT JsonFault (StateM Nat))

namespace JsonReader

/-- The line and byte column of index `i`: lines count the line feeds before it, the column
the bytes since the last. -/
def positionOf (bytes : ByteArray) (i : Nat) : Nat × Nat :=
  (bytes.extract 0 i).foldl (fun (line, column) b => if b == 10 then (line + 1, 0) else (line, column + 1))
    (1, 0)

/-- Fails at the current index. -/
def fault {α : Type} (message : String) : JsonReader α := do
  throw ⟨message, some (positionOf (← read) (← get))⟩

/-- Fails one past the current index, within the text. -/
def faultAhead {α : Type} (message : String) : JsonReader α := do
  let bytes ← read
  let i ← get
  throw ⟨message, some (positionOf bytes (min (i + 1) bytes.size))⟩

/-- Gives a fault of `p` that has no position the current one. -/
def placed {α : Type} (p : JsonReader α) : JsonReader α :=
  tryCatch p fun f => do
    match f.position with
    | some _ => throw f
    | none => throw { f with position := some (positionOf (← read) (← get)) }

/-- The byte at the current index. -/
def peek : JsonReader (Option UInt8) := do
  return (← read)[← get]?

/-- Moves past one byte. -/
def advance : JsonReader Unit := modify (· + 1)

/-- Reads one byte. -/
def next : JsonReader (Option UInt8) := do
  let b ← peek
  if b.isSome then advance
  return b

/-- Skips blanks and yields the byte after them. -/
def skipBlanks : Nat → JsonReader (Option UInt8)
  | 0 => peek
  | fuel + 1 => do
    match ← peek with
    | some b =>
      if b == 32 || b == 10 || b == 9 || b == 13 then do advance; skipBlanks fuel
      else pure (some b)
    | none => pure none

/-- Enough rounds for a loop that reads a byte each round. -/
def roundsLeft : JsonReader Nat := do
  return (← read).size - (← get) + 1

/-- Skips blanks and yields the byte after them. -/
def blanks : JsonReader (Option UInt8) := do
  skipBlanks (← roundsLeft)

/-- Reads the rest of a word after its first letter. -/
def word (rest : List UInt8) : JsonReader Unit :=
  rest.forM fun expected => do
    match ← next with
    | none => fault "EOF while parsing a value"
    | some b => if b != expected then fault "expected ident"

/-- Whether a byte is an ASCII digit. -/
def isDigit (b : UInt8) : Bool := 48 ≤ b && b ≤ 57

/-- The largest value of a 64-bit word. -/
def maxWord : Nat := Nat.pow 2 64 - 1

/-- The largest value of a 32-bit signed exponent. -/
def maxExponent : Int := Nat.pow 2 31 - 1

/-- An exponent kept within 32 signed bits. -/
def clampExponent (e : Int) : Int := max (-maxExponent - 1) (min maxExponent e)

/-- `f · 10^e` as the reader computes it: one rounded product or quotient by the power of
ten when it is at most `10^308`; beyond, a quotient by `10^308` at a time, the value staying
zero once it is zero, while a product beyond is out of range. `none` when out of range: a
product that rounds to an infinity, or a product beyond `10^308`. A value below `2^64` is
zero after three quotients, so the rounds are few. -/
def scale (f : Double) : Nat → Int → Option Double
  | 0, _ => some f
  | fuel + 1, e =>
    if e.natAbs ≤ 308 then
      if 0 ≤ e then
        let r := f.mul (Double.ofNat (Nat.pow 10 e.toNat))
        if r.isInfinite then none else some r
      else some (f.div (Double.ofNat (Nat.pow 10 e.natAbs)))
    else if f.isZero then some f
    else if 0 ≤ e then none
    else scale (f.div (Double.ofNat (Nat.pow 10 308))) fuel (e + 308)

/-- The float of a significand and an exponent: the significand rounded to a binary value
and scaled, then given the sign. -/
def fromParts (negative : Bool) (significand : Nat) (e : Int) : JsonReader Binary := do
  match scale (Double.ofNat significand) 8 e with
  | some (.finite x) => pure { x with negative := negative }
  | _ => fault "number out of range"

/-- Skips digits and yields how many. -/
def skipDigits : Nat → Nat → JsonReader Nat
  | 0, count => pure count
  | fuel + 1, count => do
    match ← peek with
    | some b => if isDigit b then do advance; skipDigits fuel (count + 1) else pure count
    | none => pure count

/-- Reads digits onto `n` while the value fits in a word; the digit that would not fit is
left unread, and the flag says whether there was one. -/
def wordDigits : Nat → Nat → JsonReader (Nat × Bool)
  | 0, n => pure (n, false)
  | fuel + 1, n => do
    match ← peek with
    | some b =>
      if isDigit b then
        let v := 10 * n + (b - 48).toNat
        if v > maxWord then pure (n, true) else do advance; wordDigits fuel v
      else pure (n, false)
    | none => pure (n, false)

/-- Reads fraction digits onto `n` while the value fits in a word, each lowering the
exponent `e` by one; the digit that would not fit is left unread. -/
def fractionDigits : Nat → Nat → Int → JsonReader (Nat × Int × Bool)
  | 0, n, e => pure (n, e, false)
  | fuel + 1, n, e => do
    match ← peek with
    | some b =>
      if isDigit b then
        let v := 10 * n + (b - 48).toNat
        if v > maxWord then pure (n, e, true) else do advance; fractionDigits fuel v (e - 1)
      else pure (n, e, false)
    | none => pure (n, e, false)

/-- Reads exponent digits onto `e`; `none` once a digit, which is read, takes it past the
32-bit limit. -/
def exponentDigits : Nat → Nat → JsonReader (Option Nat)
  | 0, e => pure (some e)
  | fuel + 1, e => do
    match ← peek with
    | some b =>
      if isDigit b then do
        advance
        let v := 10 * e + (b - 48).toNat
        if (v : Int) > maxExponent then pure none else exponentDigits fuel v
      else pure (some e)
    | none => pure (some e)

/-- Reads an exponent after the significand and the exponent `start` its digits gave, from
its letter on, and yields the float. An exponent past the 32-bit limit is out of range for
a non-zero significand and a positive exponent, and otherwise gives zero. -/
def exponent (negative : Bool) (significand : Nat) (start : Int) : JsonReader Binary := do
  advance
  let positive ← match ← peek with
    | some 43 => do advance; pure true
    | some 45 => do advance; pure false
    | _ => pure true
  match ← next with
  | none => fault "EOF while parsing a value"
  | some b =>
    if !isDigit b then fault "invalid number"
    else
      match ← exponentDigits (← roundsLeft) (b - 48).toNat with
      | some e =>
        fromParts negative significand (clampExponent (if positive then start + e else start - e))
      | none =>
        if significand ≠ 0 && positive then fault "number out of range"
        else do
          discard (skipDigits (← roundsLeft) 0)
          pure (Binary.zero negative)

/-- Reads a fraction from its point on, after the significand and the exponent `start` its
digits gave. Digits past what a word holds are read and dropped. -/
def fraction (negative : Bool) (significand : Nat) (start : Int) : JsonReader Binary := do
  advance
  let (significand, e, full) ← fractionDigits (← roundsLeft) significand start
  if full then discard (skipDigits (← roundsLeft) 0)
  else if e = start then
    if (← peek).isSome then faultAhead "invalid number" else faultAhead "EOF while parsing a value"
  match ← peek with
  | some 101 | some 69 => exponent negative significand e
  | _ => fromParts negative significand e

/-- Reads the rest of an integer whose digits no longer fit in a word: each further digit
raises the exponent, then a fraction or an exponent may follow. -/
def longInteger (negative : Bool) (significand : Nat) : JsonReader Binary := do
  let count ← skipDigits (← roundsLeft) 0
  match ← peek with
  | some 46 => fraction negative significand count
  | some 101 | some 69 => exponent negative significand count
  | _ => fromParts negative significand count

/-- The number of integer digits `n` that fit in a word, with a fraction or an exponent
following or not. A non-negative integer is unsigned; a negative one is signed down to
`-2^63`, and floating point beyond, where `-0` is the negative zero. -/
def numberRest (negative : Bool) (n : Nat) : JsonReader JsonNumber := do
  match ← peek with
  | some 46 => return .float (← fraction negative n 0)
  | some 101 | some 69 => return .float (← exponent negative n 0)
  | _ =>
    if !negative then pure (.unsigned n)
    else if n ≠ 0 && n ≤ Nat.pow 2 63 then pure (.signed (-(n : Int)))
    else return .float (← fromParts true n 0)

/-- Reads a number after its sign. -/
def number (negative : Bool) : JsonReader JsonNumber := do
  match ← next with
  | none => fault "EOF while parsing a value"
  | some 48 =>
    match ← peek with
    | some b => if isDigit b then faultAhead "invalid number" else numberRest negative 0
    | none => numberRest negative 0
  | some b =>
    if isDigit b then do
      let (n, full) ← wordDigits (← roundsLeft) (b - 48).toNat
      if full then return .float (← longInteger negative n)
      numberRest negative n
    else fault "invalid number"

/-- The value of a hex digit byte. -/
def hexValue (b : UInt8) : Option Nat :=
  if isDigit b then some (b - 48).toNat
  else if 97 ≤ b && b ≤ 102 then some ((b - 97).toNat + 10)
  else if 65 ≤ b && b ≤ 70 then some ((b - 65).toNat + 10)
  else none

/-- Reads four hex digits: all four are read before any is judged. -/
def hexCode : JsonReader Nat := do
  let bytes ← read
  let i ← get
  if i + 4 > bytes.size then do
    set bytes.size
    fault "EOF while parsing a string"
  set (i + 4)
  match (bytes.extract i (i + 4)).toList.mapM hexValue with
  | some vs => pure (vs.foldl (fun n v => 16 * n + v) 0)
  | none => fault "invalid escape"

/-- Reads an escape after its backslash and yields the character. -/
def escape : JsonReader Char := do
  match ← next with
  | none => fault "EOF while parsing a string"
  | some b =>
    match b with
    | 34 => pure '"'
    | 92 => pure '\\'
    | 47 => pure '/'
    | 98 => pure '\x08'
    | 102 => pure '\x0c'
    | 110 => pure '\n'
    | 114 => pure '\r'
    | 116 => pure '\t'
    | 117 => do
      let n ← hexCode
      if 0xDC00 ≤ n && n ≤ 0xDFFF then fault "lone leading surrogate in hex escape"
      else if 0xD800 ≤ n && n ≤ 0xDBFF then do
        match ← peek with
        | none => fault "EOF while parsing a string"
        | some 92 => advance
        | some _ => do advance; fault "unexpected end of hex escape"
        match ← peek with
        | none => fault "EOF while parsing a string"
        | some 117 => advance
        | some _ => do advance; fault "unexpected end of hex escape"
        let low ← hexCode
        if low < 0xDC00 || low > 0xDFFF then fault "lone leading surrogate in hex escape"
        else pure (Char.ofNat ((n - 0xD800) * 0x400 + (low - 0xDC00) + 0x10000))
      else pure (Char.ofNat n)
    | _ => fault "invalid escape"

/-- Reads the rest of a string after its opening quote, as bytes. -/
def stringBytes : Nat → ByteArray → JsonReader ByteArray
  | 0, acc => pure acc
  | fuel + 1, acc => do
    match ← peek with
    | none => fault "EOF while parsing a string"
    | some 34 => do advance; pure acc
    | some 92 => do
      advance
      let c ← escape
      stringBytes fuel (acc ++ c.toString.toUTF8)
    | some b =>
      if b < 32 then do advance; fault "control character (\\u0000-\\u001F) found while parsing a string"
      else do advance; stringBytes fuel (acc.push b)

/-- Reads the rest of a string after its opening quote. -/
def string : JsonReader String := do
  let bytes ← stringBytes (← roundsLeft) ByteArray.empty
  return (String.fromUTF8? bytes).getD ""

/-- Skips the rest of a string after its opening quote. -/
def skipString : Nat → JsonReader Unit
  | 0 => pure ()
  | fuel + 1 => do
    match ← peek with
    | none => fault "EOF while parsing a string"
    | some 34 => advance
    | some 92 => do
      advance
      match ← next with
      | none => fault "EOF while parsing a string"
      | some b =>
        if [34, 92, 47, 98, 102, 110, 114, 116].contains b then skipString fuel
        else if b == 117 then do discard hexCode; skipString fuel
        else fault "invalid escape"
    | some b =>
      if b < 32 then fault "control character (\\u0000-\\u001F) found while parsing a string"
      else do advance; skipString fuel

/-- Reads what a value is, for a type fault: words, numbers and strings are read whole,
an array or object only seen. -/
def unexpected (expected : String) : JsonReader JsonFault := do
  match ← peek with
  | some 110 => do advance; word [117, 108, 108]; pure (invalidType .null expected)
  | some 116 => do advance; word [114, 117, 101]; pure (invalidType (.bool true) expected)
  | some 102 => do advance; word [97, 108, 115, 101]; pure (invalidType (.bool false) expected)
  | some 45 => do advance; pure (invalidType (.number (← number true)) expected)
  | some 34 => do advance; pure (invalidType (.text (← string)) expected)
  | some 91 => pure (invalidType .sequence expected)
  | some 123 => pure (invalidType .map expected)
  | some b =>
    if isDigit b then pure (invalidType (.number (← number false)) expected)
    else faultAhead "expected value"
  | none => faultAhead "expected value"

/-- Fails with the type fault of the value ahead, placed after it. -/
def refuse {α : Type} (expected : String) : JsonReader α := do
  let f ← unexpected expected
  throw { f with position := some (positionOf (← read) (← get)) }

/-- Reads a number from 0 to 2³² − 1. -/
def nat32 : JsonReader Nat := placed do
  match ← blanks with
  | none => faultAhead "EOF while parsing a value"
  | some b =>
    if b == 45 || isDigit b then do
      if b == 45 then advance
      match ← number (b == 45) with
      | .unsigned n =>
        if n < Nat.pow 2 32 then pure n else throw (invalidValue (.number (.unsigned n)) "u32")
      | .signed i => throw (invalidValue (.number (.signed i)) "u32")
      | .float d => throw (invalidType (.number (.float d)) "u32")
    else refuse "u32"

/-- Reads a string value. -/
def text : JsonReader String := placed do
  match ← blanks with
  | none => faultAhead "EOF while parsing a value"
  | some 34 => do advance; string
  | some _ => refuse "a string"

/-- Reads `null` as nothing, or a value with `p`. -/
def optional {α : Type} (p : JsonReader α) : JsonReader (Option α) := do
  match ← blanks with
  | some 110 => do advance; word [117, 108, 108]; pure none
  | _ => some <$> p

/-- Whether an array has one more item: the first item, or a comma and an item, ahead. -/
def moreItems (first : Bool) : JsonReader Bool := do
  match ← blanks with
  | some 93 => pure false
  | some 44 =>
    if first then pure true
    else do
      advance
      match ← blanks with
      | some 93 => faultAhead "trailing comma"
      | some _ => pure true
      | none => faultAhead "EOF while parsing a value"
  | some _ => if first then pure true else faultAhead "expected `,` or `]`"
  | none => faultAhead "EOF while parsing a list"

/-- Whether an object has one more entry: a key, first or after a comma, ahead. -/
def moreKeys (first : Bool) : JsonReader Bool := do
  let keyAhead : Option UInt8 → JsonReader Bool := fun
    | some 34 => pure true
    | some 125 => faultAhead "trailing comma"
    | some _ => faultAhead "key must be a string"
    | none => faultAhead "EOF while parsing a value"
  match ← blanks with
  | some 125 => pure false
  | some 44 => if first then keyAhead (some 44) else do advance; keyAhead (← blanks)
  | some b => if first then keyAhead (some b) else faultAhead "expected `,` or `\x7d`"
  | none => faultAhead "EOF while parsing an object"

/-- Reads the items of an array with `p` until its end, not reading the bracket. -/
def itemsUpTo {α : Type} (p : JsonReader α) : Nat → Bool → JsonReader (List α)
  | 0, _ => pure []
  | fuel + 1, first => do
    if ← moreItems first then
      let a ← p
      return a :: (← itemsUpTo p fuel false)
    else pure []

/-- Reads the closing bracket of an array. -/
def arrayEnd : JsonReader Unit := do
  match ← blanks with
  | some 93 => advance
  | some 44 => do
    advance
    match ← blanks with
    | some 93 => faultAhead "trailing comma"
    | _ => faultAhead "trailing characters"
  | some _ => faultAhead "expected `,` or `]`"
  | none => faultAhead "EOF while parsing a list"

/-- Reads the closing brace of an object. -/
def objectEnd : JsonReader Unit := do
  match ← blanks with
  | some 125 => advance
  | some 44 => faultAhead "trailing comma"
  | some _ => faultAhead "expected `,` or `\x7d`"
  | none => faultAhead "EOF while parsing an object"

/-- Runs `body` after an opening bracket and then reads the closing one; a fault of the
body wins over one of the end. -/
def closedBy {α : Type} (body : JsonReader α) (close : JsonReader Unit) : JsonReader α := do
  advance
  match ← tryCatch (Except.ok <$> body) (fun f => pure (Except.error f)) with
  | .ok a => do close; pure a
  | .error f => do
    discard (tryCatch (Except.ok <$> close) (fun f => pure (Except.error f)))
    throw f

/-- Reads an array whose items `p` reads. -/
def list {α : Type} (p : JsonReader α) : JsonReader (List α) := placed do
  match ← blanks with
  | none => faultAhead "EOF while parsing a value"
  | some 91 => closedBy (do itemsUpTo p (← roundsLeft) true) arrayEnd
  | some _ => refuse "a sequence"

mutual
/-- Skips a value of any kind, checking its syntax; `depth` bounds the nesting. -/
def skipValue : Nat → JsonReader Unit
  | 0 => fault "recursion limit exceeded"
  | depth + 1 => do
    match ← blanks with
    | none => faultAhead "EOF while parsing a value"
    | some 110 => do advance; word [117, 108, 108]
    | some 116 => do advance; word [114, 117, 101]
    | some 102 => do advance; word [97, 108, 115, 101]
    | some 45 => do advance; skipNumber
    | some 34 => do advance; skipString (← roundsLeft)
    | some 91 => do advance; skipItems depth (← roundsLeft) true
    | some 123 => do advance; skipEntries depth (← roundsLeft) true
    | some b => if isDigit b then skipNumber else faultAhead "expected value"

/-- Skips the items of an array after its opening bracket, and the closing one. -/
def skipItems (depth : Nat) : Nat → Bool → JsonReader Unit
  | 0, _ => pure ()
  | fuel + 1, first => do
    match ← blanks with
    | some 93 => advance
    | none => faultAhead "EOF while parsing a list"
    | some 44 =>
      if first then do skipValue depth; skipItems depth fuel false
      else do advance; skipValue depth; skipItems depth fuel false
    | some _ =>
      if first then do skipValue depth; skipItems depth fuel false
      else faultAhead "expected `,` or `]`"

/-- Skips the entries of an object after its opening brace, and the closing one. -/
def skipEntries (depth : Nat) : Nat → Bool → JsonReader Unit
  | 0, _ => pure ()
  | fuel + 1, first => do
    match ← blanks with
    | some 125 => advance
    | none => faultAhead "EOF while parsing an object"
    | some b =>
      if !first && b != 44 then faultAhead "expected `,` or `\x7d`"
      else do
        if !first then advance
        match ← blanks with
        | some 34 => advance
        | some _ => faultAhead "key must be a string"
        | none => faultAhead "EOF while parsing an object"
        skipString (← roundsLeft)
        match ← blanks with
        | some 58 => advance
        | some _ => faultAhead "expected `:`"
        | none => faultAhead "EOF while parsing an object"
        skipValue depth
        skipEntries depth fuel false

/-- Skips a number after its sign. -/
def skipNumber : JsonReader Unit := do
  let first ← next
  match first with
  | some 48 =>
    match ← peek with
    | some b => if isDigit b then faultAhead "invalid number"
    | none => pure ()
  | some b =>
    if 49 ≤ b && b ≤ 57 then discard (skipDigits (← roundsLeft) 0) else fault "invalid number"
  | none => fault "invalid number"
  match ← peek with
  | some 46 => do
    advance
    let count ← skipDigits (← roundsLeft) 0
    if count = 0 then faultAhead "invalid number"
    match ← peek with
    | some 101 | some 69 => skipExponent
    | _ => pure ()
  | some 101 | some 69 => skipExponent
  | _ => pure ()

/-- Skips an exponent from its letter. -/
def skipExponent : JsonReader Unit := do
  advance
  match ← peek with
  | some 43 | some 45 => advance
  | _ => pure ()
  match ← next with
  | some b => if isDigit b then discard (skipDigits (← roundsLeft) 0) else fault "invalid number"
  | none => fault "invalid number"
end

end JsonReader

open JsonReader

/-- The fields of a source map as they are read: each at most once. -/
structure SourceMapFields where
  version : Option Nat := none
  file : Option (Option String) := none
  sourceRoot : Option (Option String) := none
  sources : Option (List String) := none
  sourcesContent : Option (Option (List (Option String))) := none
  names : Option (List String) := none
  mappings : Option String := none

/-- Reads the separator between a key and its value. -/
def colon : JsonReader Unit := do
  match ← blanks with
  | some 58 => advance
  | some _ => faultAhead "expected `:`"
  | none => faultAhead "EOF while parsing an object"

/-- Reads the value of a field not yet given, after its key. -/
def setOnce {α : Type} (name : String) (current : Option α) (p : JsonReader α) :
    JsonReader (Option α) := do
  if current.isSome then throw ⟨"duplicate field `" ++ name ++ "`", none⟩
  colon
  some <$> p

/-- Reads the entries of a source map object after its opening brace. -/
def sourceMapEntries : Nat → Bool → SourceMapFields → JsonReader SourceMapFields
  | 0, _, fs => pure fs
  | fuel + 1, first, fs => do
    if !(← moreKeys first) then return fs
    advance
    let key ← string
    let fs ← match key with
      | "version" => do pure { fs with version := ← setOnce key fs.version nat32 }
      | "file" => do pure { fs with file := ← setOnce key fs.file (optional text) }
      | "sourceRoot" => do pure { fs with sourceRoot := ← setOnce key fs.sourceRoot (optional text) }
      | "sources" => do pure { fs with sources := ← setOnce key fs.sources (list text) }
      | "sourcesContent" => do
        pure { fs with sourcesContent := ← setOnce key fs.sourcesContent (optional (list (optional text))) }
      | "names" => do pure { fs with names := ← setOnce key fs.names (list text) }
      | "mappings" => do pure { fs with mappings := ← setOnce key fs.mappings text }
      | _ => do
        colon
        skipValue (← roundsLeft)
        pure fs
    sourceMapEntries fuel false fs

/-- The source map the fields give, `version` required. -/
def SourceMapFields.finish (fs : SourceMapFields) : JsonReader SourceMap := do
  match fs.version with
  | none => throw ⟨"missing field `version`", none⟩
  | some version =>
    pure { version, file := fs.file.getD none, sourceRoot := fs.sourceRoot.getD none,
           sources := fs.sources.getD [], sourcesContent := fs.sourcesContent.getD none,
           names := fs.names.getD [], mappings := fs.mappings.getD "" }

/-- Reads the next item of a source map array with `p`, or gives `default` at its end. -/
def nextField {α : Type} (first : Bool) (default : α) (p : JsonReader α) : JsonReader α := do
  if ← moreItems first then p else pure default

/-- Reads the fields of a source map array after its opening bracket. -/
def sourceMapItems : JsonReader SourceMap := do
  if !(← moreItems true) then
    throw ⟨"invalid length 0, expected struct SourceMap with 7 elements", none⟩
  let version ← nat32
  let file ← nextField false none (optional text)
  let sourceRoot ← nextField false none (optional text)
  let sources ← nextField false [] (list text)
  let sourcesContent ← nextField false none (optional (list (optional text)))
  let names ← nextField false [] (list text)
  let mappings ← nextField false "" text
  pure { version, file, sourceRoot, sources, sourcesContent, names, mappings }

/-- Reads a source map value. -/
def sourceMapValue : JsonReader SourceMap := placed do
  match ← blanks with
  | none => faultAhead "EOF while parsing a value"
  | some 123 => closedBy (do (← sourceMapEntries (← roundsLeft) true {}).finish) objectEnd
  | some 91 => closedBy sourceMapItems arrayEnd
  | some _ => refuse "struct SourceMap"

/-- Reads a source map from JSON text, which must hold nothing else but blanks. -/
def SourceMap.ofJson (text : String) : Except JsonFault SourceMap :=
  let reading : JsonReader SourceMap := do
    let m ← sourceMapValue
    if (← blanks).isSome then faultAhead "trailing characters"
    pure m
  ((reading.run text.toUTF8).run.run 0).1

end DocSuite
