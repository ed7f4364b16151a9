import PenScript.Calc.Builtin
import PenScript.Calc.Node

/-!
# The value of an expression

* `Op.onValues` computes one operator from the values of its arguments;
* `Node.value` computes a tree, arguments first and from the left;
* `evaluate` reads and computes a text.

Whole numbers are computed exactly: a result that does not fit is a fault.
-/

namespace PenScript.Calc

/-- The exact result of an operation on whole numbers. Dividing by zero has none, and there is no
remainder where the quotient does not fit. -/
def Arith.onInts? (op : Arith) (m n : Int) : Option Int64 :=
  match op with
  | add => Text.fitInt64? (m + n)
  | sub => Text.fitInt64? (m - n)
  | mul => Text.fitInt64? (m * n)
  | div => if n = 0 then none else Text.fitInt64? (m.tdiv n)
  | mod =>
    if n = 0 then none
    else (Text.fitInt64? (m.tdiv n)).bind fun _ => Text.fitInt64? (m.tmod n)

/-- The operation on reals. -/
def Arith.onReals (op : Arith) (x y : Float) : Float :=
  match op with
  | add => x + y
  | sub => x - y
  | mul => x * y
  | div => x / y
  | mod => Decimal.remainder x y

/-- The operation on two numbers: exact on whole numbers, else on reals. -/
def Arith.onNumbers (op : Arith) (a b : Datum) : Except Fault Datum := do
  let x ← a.toReal
  let y ← b.toReal
  match a, b with
  | .int m, .int n =>
    match op.onInts? m.toInt n.toInt with
    | some r => .ok (.int r)
    | none => .error (.overflow op a b)
  | _, _ => .ok (.real (op.onReals x y))

/-- A value that can be added or ordered. -/
def expectNumberOrText : Datum → Except Fault Unit
  | .text _ | .real _ | .int _ => .ok ()
  | d => .error (.notNumberOrText d)

/-- The sum of two numbers, or one text behind the other. -/
def sum (a b : Datum) : Except Fault Datum := do
  expectNumberOrText a
  expectNumberOrText b
  match a, b with
  | .text s, .text t => .ok (.text (s ++ t))
  | .text _, _ | _, .text _ => .error (.mixedAddition a.kind b.kind)
  | _, _ => Arith.add.onNumbers a b

/-- The sign turned. -/
def negate : Datum → Except Fault Datum
  | .int n =>
    match Text.fitInt64? (-n.toInt) with
    | some r => .ok (.int r)
    | none => .error (.negation (.int n))
  | .real x => .ok (.real (-x))
  | d => .error (.notNumber d)

/-- A comparison: of texts by code points, of whole numbers, else of reals. -/
def order (onTexts : String → String → Bool) (onInts : Int64 → Int64 → Bool)
    (onReals : Float → Float → Bool) (a b : Datum) : Except Fault Datum := do
  expectNumberOrText a
  expectNumberOrText b
  match a, b with
  | .text s, .text t => .ok (.bool (onTexts s t))
  | .int m, .int n => .ok (.bool (onInts m n))
  | _, _ =>
    let x ← a.toReal
    let y ← b.toReal
    return .bool (onReals x y)

/-- A connective of two truth values. -/
def connect (f : Bool → Bool → Bool) (a b : Datum) : Except Fault Datum := do
  let p ← a.toBool
  let q ← b.toBool
  return .bool (f p q)

/-- The argument of an operator that takes one. -/
def oneArg (args : List Datum) (f : Datum → Except Fault Datum) : Except Fault Datum :=
  match args with
  | [a] => f a
  | _ => .error (.arity 1 args.length)

/-- The arguments of an operator that takes two. -/
def twoArgs (args : List Datum) (f : Datum → Datum → Except Fault Datum) : Except Fault Datum :=
  match args with
  | [a, b] => f a b
  | _ => .error (.arity 2 args.length)

/-- The value of an operator on the values of its arguments. -/
def Op.onValues (o : Op) (args : List Datum) : Except Fault Datum :=
  match o with
  | group => .ok (args.head?.getD .empty)
  | add => twoArgs args sum
  | sub => twoArgs args Arith.sub.onNumbers
  | mul => twoArgs args Arith.mul.onNumbers
  | div => twoArgs args Arith.div.onNumbers
  | mod => twoArgs args Arith.mod.onNumbers
  | neg => oneArg args negate
  | exp => twoArgs args fun a b => do
    let x ← a.toReal
    let y ← b.toReal
    return .real (x.pow y)
  | eq => twoArgs args fun a b => .ok (.bool (a.same b))
  | neq => twoArgs args fun a b => .ok (.bool !(a.same b))
  | gt => twoArgs args (order (· > ·) (· > ·) (· > ·))
  | lt => twoArgs args (order (· < ·) (· < ·) (· < ·))
  | geq => twoArgs args (order (· ≥ ·) (· ≥ ·) (· ≥ ·))
  | leq => twoArgs args (order (· ≤ ·) (· ≤ ·) (· ≤ ·))
  | and => twoArgs args (connect (· && ·))
  | or => twoArgs args (connect (· || ·))
  | not => oneArg args fun a => do return .bool !(← a.toBool)
  | tuple => .ok (.tuple args)
  | chain => .ok (args.getLast?.getD .empty)
  | const d => .ok d
  | read name => .error (.unboundVariable name)
  | apply name => oneArg args fun a =>
    match builtin? name with
    | some f => f a
    | none => .error (.unboundFunction name)

namespace Node

mutual

/-- The value of a tree. -/
def value : Node → Except Fault Datum
  | mk o args => do o.onValues (← values args)

/-- The values of trees, from the left; the first fault wins. -/
def values : List Node → Except Fault (List Datum)
  | [] => .ok []
  | n :: rest => do
    let d ← value n
    return d :: (← values rest)

end

end Node

/-- The value of an expression. Faults of its tokens come before those of its tree, and those
before the ones of computing it. -/
def evaluate (s : List Char) : Except Fault Datum := do
  let tokens ← Token.scan s
  let tree ← Node.ofTokens tokens
  tree.value

end PenScript.Calc
