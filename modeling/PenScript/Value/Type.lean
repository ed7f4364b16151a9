/-!
# Types of variables

An array holds whole numbers or reals; a variable holds one of these, a truth value, or an array.
-/

namespace PenScript

/-- What an array holds. -/
inductive ElemType where
  | int
  | real
deriving Repr, DecidableEq

/-- What a variable holds. -/
inductive VarType where
  | int
  | real
  | bool
  | array (elem : ElemType)
deriving Repr, DecidableEq

/-- The name of the element type. -/
def ElemType.name : ElemType → String
  | int => "int"
  | real => "real"

/-- The type of a variable that holds one element. -/
def ElemType.scalar : ElemType → VarType
  | int => .int
  | real => .real

namespace VarType

/-- The name of the type. -/
def name : VarType → String
  | int => "int"
  | real => "real"
  | bool => "boolean"
  | array elem => elem.name ++ " array"

/-- Whether values of the type are arrays. -/
def isArray : VarType → Bool
  | array _ => true
  | _ => false

/-- The word that declares a scalar of the type. -/
def keyword? : VarType → Option String
  | int => some "int"
  | real => some "real"
  | bool => some "boolean"
  | array _ => none

end VarType

end PenScript
