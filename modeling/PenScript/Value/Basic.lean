import PenScript.Decimal.Layout
import PenScript.Text.Integer
import PenScript.Value.Type

/-!
# Values of variables

* `Cells` are the elements of an array, all of one type;
* `Value` is what a variable holds: a whole number, a real, a truth value or an array;
* `Value.display` writes a value, `Value.literal?` writes a scalar so that an expression can hold it.
-/

namespace PenScript

/-- The elements of an array. -/
inductive Cells where
  | ints (items : Array Int64)
  | reals (items : Array Float)
deriving Repr, DecidableEq

/-- What a variable holds. -/
inductive Value where
  | int (n : Int64)
  | real (x : Float)
  | bool (b : Bool)
  | array (cells : Cells)
deriving Repr, DecidableEq

namespace Cells

/-- The type of the elements. -/
def elem : Cells → ElemType
  | ints _ => .int
  | reals _ => .real

/-- The number of elements. -/
def size : Cells → Nat
  | ints items => items.size
  | reals items => items.size

/-- The element at a position. -/
def get? : Cells → Nat → Option Value
  | ints items, i => items[i]?.map .int
  | reals items, i => items[i]?.map .real

/-- The elements in order. -/
def toList : Cells → List Value
  | ints items => items.toList.map .int
  | reals items => items.toList.map .real

/-- An array without elements. -/
def empty : ElemType → Cells
  | .int => ints #[]
  | .real => reals #[]

/-- An array of `n` zeros. -/
def zeros : ElemType → Nat → Cells
  | .int, n => ints (Array.replicate n 0)
  | .real, n => reals (Array.replicate n 0.0)

end Cells

/-- The value of an element that was never set. -/
def ElemType.default : ElemType → Value
  | int => .int 0
  | real => .real 0.0

/-- The value of a variable that was never set. -/
def VarType.default : VarType → Value
  | int => .int 0
  | real => .real 0.0
  | bool => .bool false
  | array elem => .array (Cells.empty elem)

namespace Value

/-- The type of the value. -/
def type : Value → VarType
  | int _ => .int
  | real _ => .real
  | bool _ => .bool
  | array cells => .array cells.elem

/-- A scalar as text. -/
def displayScalar : Value → String
  | int n => Text.showInt64 n
  | real x => Decimal.plain x
  | bool b => if b then "true" else "false"
  | array _ => ""

/-- The value as text. -/
def display : Value → String
  | array cells => "[" ++ ", ".intercalate (cells.toList.map displayScalar) ++ "]"
  | v => v.displayScalar

/-- A scalar as text, with its type. -/
def describeScalar : Value → String
  | int n => "Int(" ++ Text.showInt64 n ++ ")"
  | real x => "Real(" ++ Decimal.plain x ++ ")"
  | bool b => "Bool(" ++ (if b then "true" else "false") ++ ")"
  | array _ => ""

/-- The value as text, with its type. -/
def describe : Value → String
  | array cells =>
    cells.elem.name ++ " array [" ++ ", ".intercalate (cells.toList.map describeScalar) ++ "]"
  | v => v.describeScalar

/-- The text of a real that shows it is one: whole numbers end in `.0`. -/
def realLiteral (x : Float) : String :=
  let s := Decimal.plain x
  if x.isFinite && !s.toList.contains '.' then s ++ ".0" else s

/-- A literal in parentheses if it has a sign. -/
def parenthesized (s : String) : String :=
  if s.toList.head? == some '-' then "(" ++ s ++ ")" else s

/-- The scalar as an expression would write it; arrays cannot be written. -/
def literal? : Value → Option String
  | int n => some (parenthesized (Text.showInt64 n))
  | real x => some (parenthesized (realLiteral x))
  | bool b => some (if b then "true" else "false")
  | array _ => none

/-- Equality of values: of one type and equal content, reals compared as numbers. -/
def same : Value → Value → Bool
  | int m, int n => m == n
  | real x, real y => x == y
  | bool a, bool b => a == b
  | array (.ints a), array (.ints b) => a == b
  | array (.reals a), array (.reals b) => a == b
  | _, _ => false

end Value

end PenScript
