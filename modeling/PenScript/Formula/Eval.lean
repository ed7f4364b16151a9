import PenScript.Calc.Eval
import PenScript.Formula.Reading

/-!
# The value of a formula

* `Formula.evaluate` gives a scalar, or a `FormulaError` that shows the formula and what was read;
* `Formula.evaluateAs` converts it to a type;
* `Formula.int`, `Formula.real` and `Formula.boolean` give its content;
* `Formula.condition` takes a formula without a value as false.
-/

namespace PenScript

/-- Why a formula gives no scalar. -/
inductive FormulaCause where
  | fault (f : Calc.Fault)
  | notFinite (x : Float)
  | nothing
  | unsupported (d : Calc.Datum)
deriving Repr

/-- The words for the cause. -/
def FormulaCause.message : FormulaCause → String
  | fault f => f.message
  | notFinite x => "division by zero or non-finite result (" ++ Decimal.plain x ++ ")"
  | nothing => "empty expression"
  | unsupported d => "unsupported result: " ++ d.display

/-- Why a formula has no value of the wanted type. -/
inductive FormulaError where
  | unreadable (formula reading : String) (cause : FormulaCause)
  | wrongType (formula : String) (found expected : VarType)
deriving Repr

/-- The words for the error. -/
def FormulaError.message (p : Paint) : FormulaError → String
  | unreadable formula reading cause =>
    p.error ++ " while evaluating expression -" ++ formula ++ "- (read as -" ++ reading ++ "-): " ++
      cause.message
  | wrongType formula found expected =>
    p.error ++ " expression -" ++ formula ++ "- gives a value of type -" ++ found.name ++
      "-, expected -" ++ expected.name ++ "-"

namespace Formula

/-- The scalar that a computed value stands for. -/
def scalarOf : Calc.Datum → Except FormulaCause Value
  | .int n => .ok (.int n)
  | .real x => if x.isFinite then .ok (.real x) else .error (.notFinite x)
  | .bool b => .ok (.bool b)
  | .empty => .error .nothing
  | d => .error (.unsupported d)

/-- The scalar that a text computes. -/
def compute (text : List Char) : Except FormulaCause Value :=
  match Calc.evaluate text with
  | .ok d => scalarOf d
  | .error f => .error (.fault f)

/-- The formula as an error shows it. -/
def shown (formula : String) : String := String.ofList (Text.trim formula.toList)

/-- The value of a formula, with whole numbers read as reals or not. -/
def evaluateIn (store : Store) (toReal : Bool) (formula : String) : Except FormulaError Value :=
  let text := reading store toReal formula.toList
  (compute text).mapError (.unreadable (shown formula) (String.ofList text))

/-- The value of a formula. -/
def evaluate (store : Store) (formula : String) : Except FormulaError Value :=
  evaluateIn store false formula

/-- The value of a formula as one of the given type. -/
def evaluateAs (store : Store) (t : VarType) (formula : String) : Except FormulaError Value := do
  let v ← evaluateIn store (t = .real) formula
  (v.castTo t).mapError fun _ => .wrongType (shown formula) v.type t

/-- The whole number of a formula. -/
def int (store : Store) (formula : String) : Except FormulaError Int64 := do
  match ← evaluateAs store .int formula with
  | .int n => return n
  | v => throw (.wrongType formula v.type .int)

/-- The real of a formula. -/
def real (store : Store) (formula : String) : Except FormulaError Float := do
  match ← evaluateAs store .real formula with
  | .real x => return x
  | v => throw (.wrongType formula v.type .real)

/-- The truth value of a formula. -/
def boolean (store : Store) (formula : String) : Except FormulaError Bool := do
  match ← evaluateAs store .bool formula with
  | .bool b => return b
  | v => throw (.wrongType formula v.type .bool)

/-- The truth value of a guard; one that has none is false. -/
def condition (store : Store) (formula : String) : Bool :=
  match boolean store formula with
  | .ok b => b
  | .error _ => false

end Formula

end PenScript
