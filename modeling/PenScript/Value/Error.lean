import PenScript.Paint
import PenScript.Text.Integer
import PenScript.Value.Type

/-!
# What can go wrong with a value
-/

namespace PenScript

/-- Why an operation on values has no result. -/
inductive ValueError where
  | forbiddenCast (found wanted : VarType)
  | nonNumeric (found : VarType)
  | outOfBounds (index : Int64) (size : Nat)
  | wrongElement (elem : ElemType) (found : VarType)
  | negativeSize (size : Int64)
  | sizeTooLarge (size : Int64) (most : Nat)
deriving Repr, DecidableEq

/-- The words for the error. -/
def ValueError.message (p : Paint) : ValueError → String
  | forbiddenCast found wanted =>
    p.error ++ ": trying to cast type -" ++ found.name ++ "- to type -" ++ wanted.name ++
      "-, operation not allowed."
  | nonNumeric found => p.error ++ ": can't compute with a value of type -" ++ found.name ++ "-."
  | outOfBounds index size =>
    p.error ++ ": index " ++ Text.showInt64 index ++ " is out of bound of array which is of size: -" ++
      toString size ++ "-"
  | wrongElement elem found =>
    p.error ++ ": array of " ++ elem.name ++ " elements can't store a value of type -" ++
      found.name ++ "-"
  | negativeSize size =>
    p.error ++ ": array size must be positive, found: " ++ Text.showInt64 size ++ "."
  | sizeTooLarge size most =>
    p.error ++ ": array size " ++ Text.showInt64 size ++ " is over the limit of " ++
      toString most ++ " elements."

end PenScript
