/-!
# Runs of case mappings

A `CaseShift` maps every `stride`-th code point of a range to the one at a fixed distance.
-/

namespace PenScript.Text

/-- The code points `first`, `first + stride`, ... up to `last` map to themselves plus `delta`. -/
structure CaseShift where
  first : Nat
  last : Nat
  stride : Nat
  delta : Int
deriving Repr, DecidableEq

/-- Whether the run maps `n`. -/
def CaseShift.covers (s : CaseShift) (n : Nat) : Bool :=
  s.first ≤ n && n ≤ s.last && (n - s.first) % s.stride == 0

/-- The code point that the run maps `n` to. -/
def CaseShift.apply (s : CaseShift) (n : Nat) : Nat := (n + s.delta).toNat

end PenScript.Text
