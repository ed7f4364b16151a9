import PenScript.Value.Convert

/-!
# Reading and writing the elements of an array

Positions count from zero. A whole number written into an array of reals becomes a real; nothing
else changes its type.
-/

namespace PenScript.Cells

/-- The largest size of an array. -/
def sizeLimit : Nat := 1000000

/-- A new array of a given size. -/
def create (elem : ElemType) (n : Int64) : Except ValueError Cells :=
  if n < 0 then .error (.negativeSize n)
  else if n.toInt.toNat > sizeLimit then .error (.sizeTooLarge n sizeLimit)
  else .ok (zeros elem n.toInt.toNat)

/-- The position that an index names. -/
def position (c : Cells) (i : Int64) : Except ValueError Nat :=
  if 0 ≤ i ∧ i.toInt.toNat < c.size then .ok i.toInt.toNat else .error (.outOfBounds i c.size)

/-- The element at an index. -/
def get (c : Cells) (i : Int64) : Except ValueError Value := do
  let k ← c.position i
  return (c.get? k).getD c.elem.default

/-- Whether a value can be written at an index. -/
def accepts (c : Cells) (i : Int64) (v : Value) : Except ValueError Unit := do
  let _ ← c.position i
  match c.elem, v with
  | .int, .int _ | .real, .real _ | .real, .int _ => .ok ()
  | elem, v => .error (.wrongElement elem v.type)

/-- The array with a value at a position, if both fit; else as it was. -/
def write (c : Cells) (k : Nat) (v : Value) : Cells :=
  match c, v with
  | ints items, .int n => ints (items.setIfInBounds k n)
  | reals items, .real x => reals (items.setIfInBounds k x)
  | reals items, .int n => reals (items.setIfInBounds k (Value.realOf n))
  | c, _ => c

/-- The array with a value at an index. -/
def set (c : Cells) (i : Int64) (v : Value) : Except ValueError Cells := do
  c.accepts i v
  return c.write i.toInt.toNat v

end PenScript.Cells
