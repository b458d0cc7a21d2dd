/-!
# Decimals

A finite decimal `±mantissa · 10^exponent`, as a number is written in a text or chosen to
name a binary value, and how it is laid out (`Decimal.render`). A `Layout` says which
places of the leading digit are written positionally, whether a whole number keeps `.0`,
and how an exponent is written; the other places get one digit, a point and the rest when
there is more than one, `e` and the exponent.
-/

namespace DocSuite

/-- A finite decimal `±mantissa · 10^exponent`. -/
structure Decimal where
  negative : Bool
  mantissa : Nat
  exponent : Int
  deriving DecidableEq, Repr, Inhabited

/-- How decimals are laid out. -/
structure Layout where
  /-- The places `k` of the leading digit, `plainFrom ≤ k < plainBelow`, written without an
  exponent; `none` when every place is. -/
  plain : Option (Int × Int)
  /-- Whether a whole number written without an exponent keeps a point and a zero. -/
  pointZero : Bool
  /-- Whether a non-negative exponent has a plus sign. -/
  expPlus : Bool
  /-- The least number of digits of an exponent. -/
  expWidth : Nat
  deriving DecidableEq, Repr, Inhabited

namespace Decimal

/-- The decimal with the trailing zeros of its mantissa moved into the exponent. -/
def normalize (d : Decimal) : Decimal :=
  go (toString d.mantissa).length d
where
  /-- Each round moves one zero; a mantissa has fewer zeros than digits. -/
  go : Nat → Decimal → Decimal
    | 0, d => d
    | fuel + 1, d =>
      if d.mantissa ≠ 0 ∧ d.mantissa % 10 = 0 then
        go fuel { d with mantissa := d.mantissa / 10, exponent := d.exponent + 1 }
      else d

/-- The number of decimal digits of the integer part when positive, else the number of
zeros after the point, negated: one more than the place of the leading digit. -/
def magnitude (d : Decimal) : Int := (toString d.mantissa).length + d.exponent

/-- Whether the decimal is at least `10^309`, beyond every finite binary value. -/
def overflows (d : Decimal) : Bool := d.mantissa ≠ 0 && d.normalize.magnitude > 309

/-- Whether the decimal is below `10^-324`, less than half the least binary value. -/
def underflows (d : Decimal) : Bool := d.mantissa ≠ 0 && d.normalize.magnitude < -323

/-- The sign of a negative decimal. -/
def sign (d : Decimal) : String := if d.negative then "-" else ""

/-- The digits of the decimal in positional notation, without a sign: no exponent, no
trailing zeros after the point, and for a whole number no point, or `.0` when `pointZero`. -/
def positional (d : Decimal) (pointZero : Bool) : String :=
  let d := d.normalize
  let digits := toString d.mantissa
  if d.mantissa = 0 then (if pointZero then "0.0" else "0")
  else if d.exponent ≥ 0 then
    digits ++ String.ofList (List.replicate d.exponent.toNat '0') ++ (if pointZero then ".0" else "")
  else
    let point := (digits.length : Int) + d.exponent
    if point ≤ 0 then "0." ++ String.ofList (List.replicate (-point).toNat '0') ++ digits
    else
      let cs := digits.toList
      String.ofList (cs.take point.toNat) ++ "." ++ String.ofList (cs.drop point.toNat)

/-- The digits of the decimal with an exponent, without a sign: the leading digit, a point
and the other digits when there are any, `e`, the exponent's sign (`+` only when `expPlus`)
and its digits, padded with zeros to `expWidth`. -/
def scientific (d : Decimal) (n : Layout) : String :=
  let d := d.normalize
  let digits := (toString d.mantissa).toList
  let e := (digits.length : Int) + d.exponent - 1
  let mantissa := match digits with
    | c :: rest@(_ :: _) => c.toString ++ "." ++ String.ofList rest
    | _ => String.ofList digits
  let expDigits := (toString e.natAbs).toList
  let padded := List.replicate (n.expWidth - expDigits.length) '0' ++ expDigits
  let expSign := if e < 0 then "-" else if n.expPlus then "+" else ""
  mantissa ++ "e" ++ expSign ++ String.ofList padded

/-- The decimal laid out as `n` says, with its sign. -/
def render (n : Layout) (d : Decimal) : String :=
  let d := d.normalize
  let place := d.magnitude - 1
  let plain : Bool := d.mantissa == 0 || match n.plain with
    | none => true
    | some (lo, hi) => decide (lo ≤ place ∧ place < hi)
  d.sign ++ (if plain then d.positional n.pointZero else d.scientific n)

end Decimal

end DocSuite
