import DocSuite.Toml.Strings
import DocSuite.Toml.Value
/-!
# Numbers and date-times

Integers are decimal, with an optional sign and no leading zero, or hexadecimal, octal or
binary after `0x`, `0o` or `0b`; an underscore may stand between two digits. Their value
must fit in 64 signed bits. A float is a decimal integer part followed by a fraction, an
exponent or both, or `inf` or `nan` with an optional sign; a float too large for a double is
refused when positive and is negative infinity when negative. A date-time is a date
`YYYY-MM-DD` with an optional time and offset, or a time `HH:MM:SS` alone, with the fields in
range and the day within its month.
-/

namespace DocSuite.Toml

open Reader

/-- Whether a character is an ASCII digit. -/
def isDigit (c : Char) : Bool := '0' ≤ c && c ≤ '9'

/-- The number written by decimal digits. -/
def decimalNumber (ds : List Char) : Nat :=
  ds.foldl (fun n c => 10 * n + (c.toNat - '0'.toNat)) 0

/-- Reads an underscore followed by a digit of the class `isDigitOf`, or a run of such
digits. -/
def digitsOrUnderscore (isDigitOf : Char → Bool) : Reader Unit :=
  orElse (discard (span1 isDigitOf))
    (do char '_'; expecting (.description "digit") (commit (discard (span1 isDigitOf))))

/-- Reads digits with single underscores between them. -/
def groupedDigits (isDigitOf : Char → Bool) : Reader Unit := do
  discard (span1 isDigitOf)
  discard (many (digitsOrUnderscore isDigitOf))

/-- Reads a decimal integer's text: a sign, then a single digit or a non-zero digit with
more digits. -/
def decimalText : Reader String := label "integer" do
  let start ← get
  discard (attempt (satisfy (fun c => c == '+' || c == '-')))
  orElse (do discard (satisfy (fun c => '1' ≤ c && c ≤ '9'))
             discard (many (digitsOrUnderscore isDigit)))
    (discard (satisfy isDigit))
  sliceFrom start

/-- The value of a signed decimal text without underscores, if it fits in 64 signed bits,
else which bound it passes. -/
def signedValue (text : String) : Except String Int :=
  let cs := text.toList.filter (· != '_')
  let (negative, ds) := match cs with
    | '-' :: ds => (true, ds)
    | '+' :: ds => (false, ds)
    | ds => (false, ds)
  let n := decimalNumber ds
  if negative then
    if n ≤ Nat.pow 2 63 then .ok (-(n : Int)) else .error "number too small to fit in target type"
  else if n < Nat.pow 2 63 then .ok n else .error "number too large to fit in target type"

/-- Reads an integer with a base prefix: its digits and their value. -/
def radixInteger (pfx : String) (base : Nat) (construct : String) (isDigitOf : Char → Bool) :
    Reader Int := do
  let start ← get
  let ds ← label construct do
    literal pfx
    let from_ ← get
    commit (groupedDigits isDigitOf)
    sliceFrom from_
  let n := (ds.toList.filter (· != '_')).foldl (fun n c => base * n + (hexValue c).getD 0) 0
  if n < Nat.pow 2 63 then pure n
  else throw { pos := start, cause := some "number too large to fit in target type" }

/-- Whether a character is a hex digit. -/
def isHexDigit (c : Char) : Bool :=
  isDigit c || ('a' ≤ c && c ≤ 'f') || ('A' ≤ c && c ≤ 'F')

/-- Reads an integer. -/
def integer : Reader Int := do
  let input ← read
  let i ← get
  match (input.extract i (i + 2)).toList with
  | ['0', 'x'] => commit (radixInteger "0x" 16 "hexadecimal integer" isHexDigit)
  | ['0', 'o'] => commit (radixInteger "0o" 8 "octal integer" (fun c => '0' ≤ c && c ≤ '7'))
  | ['0', 'b'] => commit (radixInteger "0b" 2 "binary integer" (fun c => c == '0' || c == '1'))
  | _ => do
    let text ← decimalText
    match signedValue text with
    | .ok v => pure v
    | .error cause => throw { pos := i, committed := true, cause := some cause }

/-- The decimal a float's text names: sign, digits with the point removed, and exponent. -/
def decimalOf (text : String) : Decimal :=
  let cs := text.toList.filter (· != '_')
  let (negative, cs) := match cs with
    | '-' :: cs => (true, cs)
    | '+' :: cs => (false, cs)
    | cs => (false, cs)
  let whole := cs.takeWhile isDigit
  let cs := cs.dropWhile isDigit
  let (fraction, cs) := match cs with
    | '.' :: cs => (cs.takeWhile isDigit, cs.dropWhile isDigit)
    | cs => ([], cs)
  let exponent : Int := match cs with
    | _ :: '-' :: ds => -(decimalNumber ds : Int)
    | _ :: '+' :: ds => decimalNumber ds
    | _ :: ds => decimalNumber ds
    | [] => 0
  ⟨negative, decimalNumber (whole ++ fraction), exponent - fraction.length⟩

/-- Reads a fraction: a point and digits. -/
def fraction : Reader Unit := do
  char '.'
  expecting (.description "digit") (commit (groupedDigits isDigit))

/-- Reads an exponent: `e` or `E`, a sign, digits. -/
def exponentPart : Reader Unit := do
  discard (satisfy (fun c => c == 'e' || c == 'E'))
  discard (attempt (satisfy (fun c => c == '+' || c == '-')))
  commit (groupedDigits isDigit)

/-- Reads a float written with digits. -/
def finiteFloat : Reader FloatValue := do
  let start ← get
  discard decimalText
  orElse exponentPart (do fraction; discard (attempt exponentPart))
  match Double.ofDecimal (decimalOf (← sliceFrom start)) with
  | .finite x => pure (.finite x)
  | .infinite negative =>
    if negative then pure (.infinite true) else throw { pos := start, committed := true }

/-- Reads `inf` or `nan` with an optional sign. -/
def specialFloat : Reader FloatValue := do
  let sign ← attempt (satisfy (fun c => c == '+' || c == '-'))
  let negative := sign == some '-'
  orElse (do literal "inf"; pure (.infinite negative)) (do literal "nan"; pure (.nan negative))

/-- Reads a float. -/
def float : Reader FloatValue := label "floating-point number" (orElse finiteFloat specialFloat)

/-- Reads exactly `n` digits and yields their value, which must lie from `lo` to `hi`. -/
def field (n lo hi : Nat) : Reader Nat := do
  let start ← get
  let v := decimalNumber (← spanBetween n n isDigit)
  if lo ≤ v && v ≤ hi then pure v
  else throw { pos := start, cause := some "value is out of range" }

/-- The number of days of a month. -/
def daysIn (year month : Nat) : Nat :=
  match month with
  | 2 => if year % 4 = 0 && (year % 100 ≠ 0 || year % 400 = 0) then 29 else 28
  | 4 | 6 | 9 | 11 => 30
  | _ => 31

/-- Reads a date. -/
def date : Reader Unit := do
  let year := decimalNumber (← spanBetween 4 4 isDigit)
  char '-'
  let month ← commit (field 2 1 12)
  commit (char '-')
  let dayStart ← get
  let day ← commit (field 2 1 31)
  if daysIn year month < day then
    throw { pos := dayStart, committed := true, cause := some "value is out of range" }

/-- Reads a time of day. -/
def time : Reader Unit := do
  discard (field 2 0 23)
  char ':'
  commit do
    discard (field 2 0 59)
    char ':'
    discard (field 2 0 60)
    discard (attempt (do char '.'; discard (span1 isDigit)))

/-- Reads a time offset: `Z` or a signed hour and minute. -/
def offset : Reader Unit := label "time offset" do
  orElse (discard (satisfy (fun c => c == 'Z' || c == 'z')))
    (do discard (satisfy (fun c => c == '+' || c == '-'))
        commit (do discard (field 2 0 23); char ':'; discard (field 2 0 59)))

/-- Reads a date-time and yields its text. -/
def dateTime : Reader String := do
  let start ← get
  orElse
    (label "date-time" do
      date
      discard (attempt (do
        discard (satisfy (fun c => c == 'T' || c == 't' || c == ' '))
        time
        discard (attempt offset))))
    (label "time" time)
  sliceFrom start

/-- Reads what a value starting with a sign or a digit is: a date-time, a float or an
integer. -/
def numberOrDate : Reader Value :=
  firstOf [Value.datetime <$> dateTime, Value.float <$> float, Value.integer <$> integer]

end DocSuite.Toml
