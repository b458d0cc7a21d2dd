/-!
# Character classes as range tables

A character class of the Unicode standard is kept as a sorted array of disjoint closed
ranges of code points; membership is a binary search over it.
-/

namespace DocSuite.Text

namespace Ranges

/-- Binary search for `c` among the ranges with index in `[lo, hi)`. -/
def search (table : Array (Nat × Nat)) (c : Nat) (lo hi : Nat) : Bool :=
  if _h : lo < hi then
    let mid := (lo + hi) / 2
    match table[mid]? with
    | some (a, b) =>
      if c < a then search table c lo mid
      else if b < c then search table c (mid + 1) hi
      else true
    | none => false
  else false
termination_by hi - lo

/-- Whether the code point `c` lies in one of the sorted, disjoint closed ranges of `table`. -/
def contains (table : Array (Nat × Nat)) (c : Nat) : Bool :=
  search table c 0 table.size

end Ranges

end DocSuite.Text
