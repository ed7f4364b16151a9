import PenScript.Decimal.Layout
import PenScript.Text.Integer
import PenScript.Text.Quoted

/-!
# What an expression can compute

* `Datum` is a value of the expression language;
* `Datum.display` is how a result is written, `Datum.describe` how a fault names it;
* `Datum.same` is the equality that expressions test.
-/

namespace PenScript.Calc

/-- A value of the expression language. -/
inductive Datum where
  | text (s : String)
  | real (x : Float)
  | int (n : Int64)
  | bool (b : Bool)
  | tuple (items : List Datum)
  | empty
deriving Repr, Inhabited

/-- The kind of a value. -/
inductive Kind where
  | text
  | real
  | int
  | bool
  | tuple
  | empty
deriving Repr, DecidableEq

namespace Kind

/-- The name of a kind in a fault. -/
def title : Kind → String
  | text => "String"
  | real => "Float"
  | int => "Int"
  | bool => "Boolean"
  | tuple => "Tuple"
  | empty => "Empty"

/-- The name of a kind as expressions see it. -/
def word : Kind → String
  | text => "string"
  | real => "float"
  | int => "int"
  | bool => "boolean"
  | tuple => "tuple"
  | empty => "empty"

/-- A list of kinds as a fault writes it. -/
def titles (ks : List Kind) : String := "[" ++ ", ".intercalate (ks.map title) ++ "]"

end Kind

/-- The word for a truth value. -/
def showBool (b : Bool) : String := if b then "true" else "false"

namespace Datum

/-- The kind of the value. -/
def kind : Datum → Kind
  | text _ => .text
  | real _ => .real
  | int _ => .int
  | bool _ => .bool
  | tuple _ => .tuple
  | empty => .empty

mutual

/-- The value as a result shows it. -/
def display : Datum → String
  | text s => "\"" ++ s ++ "\""
  | real x => Decimal.plain x
  | int n => Text.showInt64 n
  | bool b => showBool b
  | tuple items => "(" ++ ", ".intercalate (displayAll items) ++ ")"
  | empty => "()"

/-- The items as a result shows them. -/
def displayAll : List Datum → List String
  | [] => []
  | d :: ds => display d :: displayAll ds

end

mutual

/-- The value as a fault names it, with its kind. -/
def describe : Datum → String
  | text s => "String(" ++ Text.quoted s ++ ")"
  | real x => "Float(" ++ Decimal.tagged x ++ ")"
  | int n => "Int(" ++ Text.showInt64 n ++ ")"
  | bool b => "Boolean(" ++ showBool b ++ ")"
  | tuple items => "Tuple([" ++ ", ".intercalate (describeAll items) ++ "])"
  | empty => "Empty"

/-- The items as a fault names them. -/
def describeAll : List Datum → List String
  | [] => []
  | d :: ds => describe d :: describeAll ds

end

mutual

/-- Equality of values: of one kind and of equal content, reals compared as numbers. -/
def same : Datum → Datum → Bool
  | text s, text t => s == t
  | real x, real y => x == y
  | int m, int n => m == n
  | bool a, bool b => a == b
  | tuple xs, tuple ys => sameAll xs ys
  | empty, empty => true
  | _, _ => false

/-- Equality item by item. -/
def sameAll : List Datum → List Datum → Bool
  | [], [] => true
  | x :: xs, y :: ys => same x y && sameAll xs ys
  | _, _ => false

end

end Datum

end PenScript.Calc
