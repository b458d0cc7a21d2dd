import DocSuite.Number.Decimal
/-!
# Binary floating-point values

The values of the 64-bit binary floating-point format: a finite value `±m · 2^q`, with
`m < 2^53` and `-1074 ≤ q ≤ 971`, and `m ≥ 2^52` unless `q = -1074` (the subnormal range),
or an infinity.

`Double.ofRatio` rounds a non-negative rational, given as a fraction of naturals, to the
nearest value, a tie going to the even `m`: it takes the place of the leading binary digit,
puts the last of the 53 kept digits at `q` (never below `-1074`), and rounds the quotient
once. A result of `2^1024` or more is an infinity. A decimal is read, and a product or a
quotient of two values is computed, by rounding its exact value this way.
-/

namespace DocSuite

/-- A finite binary floating-point value `±m · 2^q`. -/
structure Binary where
  negative : Bool
  m : Nat
  q : Int
  deriving DecidableEq, Repr, Inhabited

/-- A 64-bit floating-point value other than not-a-number. -/
inductive Double where
  | finite (x : Binary)
  | infinite (negative : Bool)
  deriving DecidableEq, Repr, Inhabited

/-- The nearest natural number to `a / b`, a tie going to the even one. -/
def roundHalfEven (a b : Nat) : Nat :=
  let n := a / b
  let r := a % b
  if 2 * r > b then n + 1 else if 2 * r < b then n else n + n % 2

/-- Two to the power `k`. -/
def pow2 (k : Nat) : Nat := Nat.pow 2 k

/-- Whether `a / b ≥ 2^k`. -/
def atLeastPow2 (a b : Nat) (k : Int) : Bool :=
  if 0 ≤ k then decide (a ≥ b * pow2 k.toNat) else decide (a * pow2 (-k).toNat ≥ b)

/-- The least exponent of a finite value. -/
def Binary.minExponent : Int := -1074

/-- The greatest exponent of a finite value. -/
def Binary.maxExponent : Int := 971

/-- The zero of a sign. -/
def Binary.zero (negative : Bool) : Binary := ⟨negative, 0, Binary.minExponent⟩

namespace Double

/-- The value nearest to `a / b`, with the sign `negative`; zero when `a` or `b` is zero.
The leading binary digit of `a / b` is at `⌊log₂ a⌋ - ⌊log₂ b⌋` or one below, which one
comparison settles; the 53rd digit from it, or `-1074` if that is lower, is the place the
quotient is rounded at. A carry into a 54th digit moves the place up by one. -/
def ofRatio (negative : Bool) (a b : Nat) : Double :=
  if a = 0 ∨ b = 0 then .finite (Binary.zero negative)
  else
    let t : Int := (Nat.log2 a : Int) - Nat.log2 b
    let lead := if atLeastPow2 a b t then t else t - 1
    let q := max (lead - 52) Binary.minExponent
    let m := if 0 ≤ q then roundHalfEven a (b * pow2 q.toNat)
      else roundHalfEven (a * pow2 (-q).toNat) b
    let (m, q) := if m = pow2 53 then (pow2 52, q + 1) else (m, q)
    if q > Binary.maxExponent then .infinite negative else .finite ⟨negative, m, q⟩

/-- The value nearest to a natural number. -/
def ofNat (n : Nat) : Double := ofRatio false n 1

/-- The value nearest to a decimal. -/
def ofDecimal (d : Decimal) : Double :=
  if d.mantissa = 0 then .finite (Binary.zero d.negative)
  else if d.overflows then .infinite d.negative
  else if d.underflows then .finite (Binary.zero d.negative)
  else if 0 ≤ d.exponent then ofRatio d.negative (d.mantissa * Nat.pow 10 d.exponent.toNat) 1
  else ofRatio d.negative d.mantissa (Nat.pow 10 (-d.exponent).toNat)

/-- Whether a value is zero, of either sign. -/
def isZero : Double → Bool
  | .finite x => x.m == 0
  | .infinite _ => false

/-- Whether a value is an infinity. -/
def isInfinite : Double → Bool
  | .finite _ => false
  | .infinite _ => true

/-- The value with its sign flipped. -/
def neg : Double → Double
  | .finite x => .finite { x with negative := !x.negative }
  | .infinite negative => .infinite !negative

/-- The rounded product of two values. A zero times an infinity, which has no value, is
taken as zero; it does not arise where products are taken. -/
def mul : Double → Double → Double
  | .finite x, .finite y =>
    let negative := x.negative != y.negative
    let e := x.q + y.q
    if 0 ≤ e then ofRatio negative (x.m * y.m * pow2 e.toNat) 1
    else ofRatio negative (x.m * y.m) (pow2 (-e).toNat)
  | .finite x, .infinite n | .infinite n, .finite x =>
    if x.m = 0 then .finite (Binary.zero (x.negative != n)) else .infinite (x.negative != n)
  | .infinite a, .infinite b => .infinite (a != b)

/-- The rounded quotient of two values. A quotient by zero is an infinity, or zero when
both are zero; these do not arise where quotients are taken. -/
def div : Double → Double → Double
  | .finite x, .finite y =>
    let negative := x.negative != y.negative
    if y.m = 0 then
      if x.m = 0 then .finite (Binary.zero negative) else .infinite negative
    else
      let e := x.q - y.q
      if 0 ≤ e then ofRatio negative (x.m * pow2 e.toNat) y.m
      else ofRatio negative x.m (y.m * pow2 (-e).toNat)
  | .finite x, .infinite n => .finite (Binary.zero (x.negative != n))
  | .infinite n, .finite y => .infinite (n != y.negative)
  | .infinite _, .infinite _ => .finite (Binary.zero false)

end Double

end DocSuite
