import PenScript.Calc.Datum

/-!
# Why an expression has no value

`Fault` lists the causes, `Fault.message` words them.
-/

namespace PenScript.Calc

/-- The arithmetic operation that a fault names. -/
inductive Arith where
  | add
  | sub
  | mul
  | div
  | mod
deriving Repr, DecidableEq

namespace Arith

/-- What the operation does, in a fault. -/
def doing : Arith → String
  | add => "adding"
  | sub => "subtracting"
  | mul => "multiplying"
  | div => "dividing"
  | mod => "modulating"

/-- The sign of the operation. -/
def sign : Arith → String
  | add => "+"
  | sub => "-"
  | mul => "*"
  | div => "/"
  | mod => "%"

end Arith

/-- Why an expression has no value. -/
inductive Fault where
  | badEscape (c : Option Char)
  | unclosedText
  | lonelyOperator (c : Char)
  | arity (expected found : Nat)
  | notText (d : Datum)
  | notInt (d : Datum)
  | notBool (d : Datum)
  | notTuple (d : Datum)
  | notNumber (d : Datum)
  | notNumberOrText (d : Datum)
  | tupleLength (expected : Nat) (d : Datum)
  | tupleLengthBetween (least most : Nat) (d : Datum)
  | notOneOf (kinds : List Kind) (d : Datum)
  | mixedAddition (left right : Kind)
  | leafGrown
  | precedence
  | unboundVariable (name : String)
  | unboundFunction (name : String)
  | unclosedParen
  | unopenedParen
  | missingOperator
  | overflow (op : Arith) (left right : Datum)
  | negation (d : Datum)
  | outOfBounds
deriving Repr

/-- The words for a fault. -/
def Fault.message : Fault → String
  | badEscape none => "Illegal escape sequence: \\"
  | badEscape (some c) => "Illegal escape sequence: \\" ++ c.toString
  | unclosedText => "Found an unmatched double quote '\"'"
  | lonelyOperator c => "Found a lone '" ++ c.toString ++ "'"
  | arity expected found =>
    "An operator expected " ++ toString expected ++ " arguments, but got " ++ toString found ++ "."
  | notText d => "Expected a Value::String, but got " ++ d.describe ++ "."
  | notInt d => "Expected a Value::Int, but got " ++ d.describe ++ "."
  | notBool d => "Expected a Value::Boolean, but got " ++ d.describe ++ "."
  | notTuple d => "Expected a Value::Tuple, but got " ++ d.describe ++ "."
  | notNumber d => "Expected a Value::Float or Value::Int, but got " ++ d.describe ++ "."
  | notNumberOrText d =>
    "Expected a Value::Number or a Value::String, but got " ++ d.describe ++ "."
  | tupleLength expected d =>
    "Expected a Value::Tuple of length " ++ toString expected ++ ", but got " ++ d.describe ++ "."
  | tupleLengthBetween least most d =>
    "Expected a Value::Tuple of length " ++ toString least ++ " to " ++ toString most ++
      ", but got " ++ d.describe ++ "."
  | notOneOf kinds d => "Expected one of " ++ Kind.titles kinds ++ ", but got " ++ d.describe ++ "."
  | mixedAddition left right =>
    "The operator Add was called with a wrong combination of types: " ++ Kind.titles [left, right]
  | leafGrown => "Tried to append a node to a leaf node."
  | precedence => "Tried to append a node to another node with higher precedence."
  | unboundVariable name =>
    "Variable identifier is not bound to anything by context: " ++ Text.quoted name ++ "."
  | unboundFunction name =>
    "Function identifier is not bound to anything by context: " ++ Text.quoted name ++ "."
  | unclosedParen => "Found an unmatched opening parenthesis '('."
  | unopenedParen => "Found an unmatched closing parenthesis ')'."
  | missingOperator =>
    "Found an opening parenthesis that is preceded by something that does not take any arguments " ++
      "on the right, or found a closing parenthesis that is succeeded by something that does not " ++
      "take any arguments on the left."
  | overflow op left right =>
    "Error " ++ op.doing ++ " " ++ left.display ++ " " ++ op.sign ++ " " ++ right.display
  | negation d => "Error negating -" ++ d.display
  | outOfBounds => "Tried to access a tuple or string at an invalid index"

end PenScript.Calc
