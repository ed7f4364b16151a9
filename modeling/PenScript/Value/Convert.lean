import PenScript.Value.Basic
import PenScript.Value.Error

/-!
# Conversions between types, and sums

* `Value.castTo` is the conversion that assignments make: reals lose their fraction toward zero, a
  number is true unless it is zero;
* `Value.add` is the sum that steps a loop variable; whole numbers wrap around.
-/

namespace PenScript.Value

/-- The real of a whole number, rounded to the nearest. -/
def realOf (n : Int64) : Float := Float.ofInt n.toInt

/-- The whole part of a real, cut toward zero and kept in range. -/
def wholePart (x : Float) : Int64 := x.toInt64

/-- The value seen as a whole number. -/
def whole? : Value → Option Int64
  | int n => some n
  | real x => some (wholePart x)
  | bool b => some (if b then 1 else 0)
  | array _ => none

/-- The number as a real. -/
def toReal : Value → Except ValueError Float
  | int n => .ok (realOf n)
  | real x => .ok x
  | v => .error (.nonNumeric v.type)

/-- Whether the number is zero. -/
def isZero : Value → Except ValueError Bool
  | int n => .ok (n == 0)
  | real x => .ok (x == 0.0)
  | v => .error (.nonNumeric v.type)

/-- Whether the number is above zero. -/
def isPositive : Value → Except ValueError Bool
  | int n => .ok (n > 0)
  | real x => .ok (x > 0.0)
  | v => .error (.nonNumeric v.type)

/-- The value as one of the given type. -/
def castTo (v : Value) (t : VarType) : Except ValueError Value :=
  match v, t with
  | int n, .int => .ok (int n)
  | real x, .real => .ok (real x)
  | bool b, .bool => .ok (bool b)
  | int n, .real => .ok (real (realOf n))
  | real x, .int => .ok (int (wholePart x))
  | int n, .bool => .ok (bool (n != 0))
  | real x, .bool => .ok (bool (x != 0.0))
  | v, t => .error (.forbiddenCast v.type t)

/-- The sum. A whole number takes only a whole number, any other sum is real. -/
def add (v w : Value) : Except ValueError Value :=
  match v, w with
  | int m, int n => .ok (int (m + n))
  | int _, w => .error (.forbiddenCast w.type .int)
  | v, w => do
    let x ← v.toReal
    let y ← w.toReal
    return real (x + y)

end PenScript.Value
