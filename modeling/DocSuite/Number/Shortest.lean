import DocSuite.Number.Binary
/-!
# Shortest decimals

`Binary.shortest` gives the decimal with the fewest significant digits that reads back as a
finite value: one that lies among the reals that round to the value. Those reals form an
interval from halfway to the value below to halfway to the value above, both ends included
exactly when `m` is even; below a power of two, where the value below is half as far away,
the lower end is a quarter step away (`Binary.readsBack`).

The search tries grids of one, two, … significant digits, from that of the leading digit
down. On each it tests the two neighbours of the value, the nearest grid points below and
above it: if any grid point lies in the interval, so does one of them. The first grid with a
hit gives the decimal; of two hits the nearer, and of two equally near ones the one the
`Tie` rule picks. Seventeen digits always suffice; if they did not, the exact value is
returned.
-/

namespace DocSuite

/-- How the search settles two candidates equally near to the value. -/
inductive Tie where
  /-- The one with the even last digit. -/
  | toEven
  /-- The one further from zero. -/
  | up
  deriving DecidableEq, Repr, Inhabited

/-- Compares `a · 10^i` with `n · 2^j` exactly. -/
def cmpScaled (a : Nat) (i : Int) (n : Nat) (j : Int) : Ordering :=
  compare (a * Nat.pow 10 i.toNat * pow2 (-j).toNat) (n * pow2 j.toNat * Nat.pow 10 (-i).toNat)

namespace Binary

/-- Whether the value is the least of its binade above the subnormal range: the value below
it is then half as far away as the value above. -/
def narrowBelow (x : Binary) : Bool := x.m == pow2 52 && x.q > minExponent

/-- Whether `digits · 10^exp` lies among the reals that round to the value: strictly inside
the interval around it, or on one of its ends when `m` is even. The ends are
`(4m - 2) · 2^(q-2)`, or `(4m - 1) · 2^(q-2)` below a power of two, and `(4m + 2) · 2^(q-2)`. -/
def readsBack (x : Binary) (digits : Nat) (exp : Int) : Bool :=
  let lo := if x.narrowBelow then 4 * x.m - 1 else 4 * x.m - 2
  let hi := 4 * x.m + 2
  let incl := x.m % 2 == 0
  let cl := cmpScaled digits exp lo (x.q - 2)
  let ch := cmpScaled digits exp hi (x.q - 2)
  (cl == .gt || (incl && cl == .eq)) && (ch == .lt || (incl && ch == .eq))

/-- The place of the leading decimal digit of a non-zero value: the `k` with
`10^k ≤ m · 2^q < 10^(k+1)`. The estimate from the decimal lengths of the numerator and the
denominator is off by at most one, which two comparisons settle. -/
def leadingPlace (x : Binary) : Int :=
  let num := x.m * pow2 x.q.toNat
  let den := pow2 (-x.q).toNat
  let k : Int := ((toString num).length : Int) - (toString den).length
  if cmpScaled 1 k x.m x.q == .gt then k - 1
  else if cmpScaled 1 (k + 1) x.m x.q != .gt then k + 1
  else k

/-- The two neighbours of the value on the grid `10^g`: the greatest multiple of the grid
not above the value, as a count of grid steps, and whether it equals the value. -/
def gridFloor (x : Binary) (g : Int) : Nat × Bool :=
  let num := x.m * pow2 x.q.toNat * Nat.pow 10 (-g).toNat
  let den := pow2 (-x.q).toNat * Nat.pow 10 g.toNat
  (num / den, num % den == 0)

/-- The candidate of the grid `10^g` that reads back, if any: the value itself when it lies
on the grid, else its neighbour below or above; of two that read back, the nearer, and on a
tie the one that `tie` picks. -/
def onGrid (x : Binary) (tie : Tie) (g : Int) : Option Nat :=
  let (c, exact) := x.gridFloor g
  if exact then (if x.readsBack c g then some c else none)
  else
    let below := x.readsBack c g
    let above := x.readsBack (c + 1) g
    if below && above then
      -- compare the value with the midpoint (2c + 1) · 10^g / 2
      match cmpScaled (2 * c + 1) g (2 * x.m) x.q with
      | .gt => some c
      | .lt => some (c + 1)
      | .eq =>
        match tie with
        | .toEven => some (if c % 2 == 0 then c else c + 1)
        | .up => some (c + 1)
    else if below then some c
    else if above then some (c + 1)
    else none

/-- The first grid of `1`, `2`, … `n` significant digits below the leading place `k` with a
candidate that reads back, as a decimal. -/
def search (x : Binary) (tie : Tie) (k : Int) : Nat → Nat → Option Decimal
  | 0, _ => none
  | fuel + 1, n =>
    let g := k - n + 1
    match x.onGrid tie g with
    | some c => some ⟨x.negative, c, g⟩
    | none => x.search tie k fuel (n + 1)

/-- The exact decimal value `m · 2^q`. -/
def exactDecimal (x : Binary) : Decimal :=
  if 0 ≤ x.q then ⟨x.negative, x.m * pow2 x.q.toNat, 0⟩
  else ⟨x.negative, x.m * Nat.pow 5 (-x.q).toNat, x.q⟩

/-- The shortest decimal that reads back as the value, with trailing zeros moved into the
exponent; zero for a zero. -/
def shortest (x : Binary) (tie : Tie) : Decimal :=
  if x.m = 0 then ⟨x.negative, 0, 0⟩
  else ((x.search tie x.leadingPlace 17 1).getD x.exactDecimal).normalize

end Binary

end DocSuite
