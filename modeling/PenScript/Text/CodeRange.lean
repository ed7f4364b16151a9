/-!
# Sets of characters as ranges

* `CodeRanges` is an ascending list of ranges of code points;
* `CodeRanges.contains` says whether a code point lies in one of them.
-/

namespace PenScript.Text

/-- Ascending ranges of code points, both ends included. -/
def CodeRanges := List (Nat × Nat)

/-- Whether `n` lies in one of the ranges; the scan stops at the first range above `n`. -/
def CodeRanges.contains : CodeRanges → Nat → Bool
  | [], _ => false
  | (first, last) :: rest, n =>
    if n < first then false else n ≤ last || CodeRanges.contains rest n

end PenScript.Text
