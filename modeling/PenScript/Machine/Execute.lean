import PenScript.Command.Prepare
import PenScript.Machine.Basic

/-!
# Executing a command

`Command.execute` runs the command at a position of the code. It changes the machine and says where
the run goes on; blocks are found by searching the code.
-/

namespace PenScript

/-- Binds the variable, or changes it if the command is an update. -/
def Declaration.execute (d : Declaration) : Exec Unit := do
  let v ←
    match d.value with
    | some formula => Exec.compute (Formula.evaluateAs · d.type formula)
    | none => pure d.type.default
  if d.update then Exec.update (Store.assign d.name v)
  else Exec.update (Store.declare d.name v)

/-- Binds an array of zeros. -/
def ArrayDeclaration.execute (d : ArrayDeclaration) : Exec Unit := do
  let size ← Exec.compute (Formula.int · d.size)
  let cells ← Exec.convert (Cells.create d.elem size)
  Exec.update (Store.declare d.name (.array cells))

/-- Reads an element into the destination, which is bound if it was not. -/
def Peek.execute (p : Peek) : Exec Unit := do
  let index ← Exec.compute (Formula.int · p.index)
  let v ← Exec.ask (·.peek p.array index)
  match (← get).store.get? p.dest with
  | some old =>
    let v ← Exec.ask fun _ => fitScalar p.dest old.type v
    Exec.update (Store.assign p.dest v)
  | none => Exec.update (Store.declare p.dest v)

/-- Writes an element. An array of reals takes the formula in a real context. -/
def Poke.execute (p : Poke) : Exec Unit := do
  let index ← Exec.compute (Formula.int · p.index)
  let v ←
    match ← Exec.ask (·.elemOf p.array) with
    | .real => Exec.compute (Formula.evaluateAs · .real p.value)
    | .int => Exec.compute (Formula.evaluate · p.value)
  Exec.update (Store.poke p.array index v)

namespace CountedLoop

/-- A variable that is bound to a real makes a real loop. -/
def type (l : CountedLoop) (s : Store) : VarType :=
  match (s.get? l.var).map Value.type with
  | some .real => .real
  | _ => .int

/-- Computes the bounds and binds the variable to the start. -/
def enter (l : CountedLoop) : Exec (Value × LoopBounds) := do
  let t := l.type (← get).store
  let start ← Exec.compute (Formula.evaluateAs · t l.start)
  let stop ← Exec.compute (Formula.evaluateAs · t l.stop)
  let step ←
    match l.step with
    | some formula => Exec.compute (Formula.evaluateAs · t formula)
    | none => Exec.convert (Value.castTo (.int 1) t)
  if ← Exec.convert step.isZero then throw (.zeroStep l.var)
  Exec.update (Store.declare l.var start)
  return (start, ⟨stop, step⟩)

/-- Whether a loop goes on at a value: it has not passed its end in the direction of the step. -/
def goesOn (v : Value) (b : LoopBounds) : Except ValueError Bool := do
  match v, b.stop with
  | .int m, .int n => return if ← b.step.isPositive then m ≤ n else m ≥ n
  | v, stop =>
    let x ← v.toReal
    let y ← stop.toReal
    if x < y || x == y || x > y then return if ← b.step.isPositive then x ≤ y else x ≥ y
    else return false

/-- Enters the loop, or goes on with it if it runs, until the variable has passed its end. -/
def execute (l : CountedLoop) (code : List CodeLine) (pos : Nat) : Exec Flow := do
  let (current, bounds) ←
    match (← get).loops[pos]? with
    | some bounds => do
      let v ← Exec.ask (·.lookup l.var)
      pure (v, bounds)
    | none => l.enter
  if ← Exec.convert (goesOn current bounds) then
    modify fun m => { m with loops := m.loops.insert pos bounds }
    return .next
  else
    modify fun m => { m with loops := m.loops.erase pos }
    let extent ← Exec.resolve (Block.findEnd (markers code) pos .forLoop)
    Exec.note (.loopDone pos l.var)
    return .goto (extent.stop + 1)

/-- Adds the step to the variable. -/
def advance (l : CountedLoop) (start : Nat) : Exec Unit := do
  match (← get).loops[start]? with
  | none => throw (.notRunning l.var)
  | some bounds =>
    let v ← Exec.ask (·.lookup l.var)
    let next ← Exec.convert (v.add bounds.step)
    Exec.update (Store.assign l.var next)

end CountedLoop

/-- A numeric argument, in range. -/
def DrawingArg.compute (a : DrawingArg) (k : Keyword) (s : Store) (formula : String) :
    Except CommandError Int64 := do
  let n ← (Formula.int s formula).mapError .formula
  a.check k n

namespace Drawing

/-- A channel of a color: the lowest eight bits of the number. -/
def channel (n : Int64) : UInt8 := n.toUInt64.toUInt8

/-- A length: the lower half of the number's bits. -/
def length (n : Int64) : UInt32 := n.toUInt64.toUInt32

/-- The values of the numeric arguments, in order. -/
def argValues (d : Drawing) (s : Store) : Except CommandError (List Int64) :=
  d.args.mapM fun (arg, formula) => arg.compute d.keyword s formula

/-- The stroke that the command makes of its argument values. -/
def stroke? (d : Drawing) (filled : Bool) (values : List Int64) : Option Stroke :=
  match d, values with
  | pen .., [r, g, b] => some (.pen (channel r) (channel g) (channel b))
  | moveTo .., [x, y] => some (.moveTo x y)
  | drawTo .., [x, y] => some (.drawTo x y)
  | rectangle .., [w, h] => some (.rectangle (length w) (length h) filled)
  | circle _, [r] => some (.circle (length r) filled)
  | clear, _ => some .clear
  | write (.literal text), _ => some (.text text)
  | _, _ => none

/-- The stroke of a formula that is written. -/
def inscribe (s : Store) (formula : String) : Except CommandError Stroke := do
  let v ← (Formula.evaluate s formula).mapError .formula
  return .text v.display

/-- The stroke that the command makes. -/
def stroke (d : Drawing) (s : Store) (filled : Bool) : Except CommandError (Option Stroke) :=
  match d with
  | write (.formula formula) => (inscribe s formula).map some
  | d => do return d.stroke? filled (← d.argValues s)

/-- Makes the stroke, or turns filling on or off. -/
def execute (d : Drawing) : Exec Unit := fun m =>
  match d.stroke m.store m.fill with
  | .error e => .error e m
  | .ok made =>
    let m := match d with
      | fill on => { m with fill := on }
      | _ => m
    .ok () (match made with
      | some s => { m with strokes := m.strokes.push s }
      | none => m)

end Drawing

namespace Command

/-- A false condition skips to the other branch, or behind the end if there is none. -/
def executeIf (condition : String) (code : List CodeLine) (pos : Nat) : Exec Flow := do
  if ← Exec.guard condition then return .next
  else
    let extent ← Exec.resolve (Block.findEnd (markers code) pos .conditional)
    let target := extent.middle.getD extent.stop + 1
    Exec.note (.bodySkipped pos target)
    return .goto target

/-- The first branch is done, the other one is skipped. -/
def executeElse (code : List CodeLine) (pos : Nat) : Exec Flow := do
  let extent ← Exec.resolve (Block.findEnd (markers code) pos .conditional)
  return .goto (extent.stop + 1)

/-- A false condition leaves the loop. -/
def executeWhile (condition : String) (code : List CodeLine) (pos : Nat) : Exec Flow := do
  if ← Exec.guard condition then return .next
  else
    let extent ← Exec.resolve (Block.findEnd (markers code) pos .whileLoop)
    return .goto (extent.stop + 1)

/-- Back to the condition. -/
def executeEndWhile (code : List CodeLine) (pos : Nat) : Exec Flow := do
  return .goto (← Exec.resolve (Block.findStart (markers code) pos .whileLoop))

/-- The variable takes its step, then back to the test. -/
def executeEndFor (code : List CodeLine) (pos : Nat) : Exec Flow := do
  let start ← Exec.resolve (Block.findStart (markers code) pos .forLoop)
  match (code[start]?).map CodeLine.command with
  | some (countTo l) => l.advance start
  | _ => pure ()
  return .goto start

/-- A declaration of a method that is reached in sequence is skipped. -/
def executeMethod (code : List CodeLine) (pos : Nat) : Exec Flow := do
  let extent ← Exec.resolve (Block.findEnd (markers code) pos .method)
  return .goto (extent.stop + 1)

/-- Back behind the innermost call, if there is one. -/
def executeEndMethod : Exec Flow := do
  match (← get).calls with
  | [] => return .next
  | site :: rest =>
    modify fun m => { m with calls := rest }
    return .goto (site + 1)

/-- Into the body of the method. -/
def executeCall (name : String) (code : List CodeLine) (pos : Nat) : Exec Flow := do
  match findMethod? code name with
  | none => throw (.unknownMethod name)
  | some header =>
    Exec.note (.called pos name ((← get).calls.length + 1))
    modify fun m => { m with calls := pos :: m.calls }
    return .goto (header + 1)

/-- Runs the command at position `pos` of the code. -/
def execute (c : Command) (code : List CodeLine) (pos : Nat) : Exec Flow :=
  match c with
  | declare d => do d.execute; return .next
  | array d => do d.execute; return .next
  | peek p => do p.execute; return .next
  | poke p => do p.execute; return .next
  | ifThen condition => executeIf condition code pos
  | orElse => executeElse code pos
  | endIf => return .next
  | whileDo condition => executeWhile condition code pos
  | endWhile => executeEndWhile code pos
  | countTo l => l.execute code pos
  | endFor => executeEndFor code pos
  | method _ => executeMethod code pos
  | endMethod => executeEndMethod
  | call name => executeCall name code pos
  | draw d => do d.execute; return .next

end Command

end PenScript
