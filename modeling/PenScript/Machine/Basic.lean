import PenScript.Command.Basic
import PenScript.Command.Error
import PenScript.Machine.Event
import PenScript.Machine.Stroke

/-!
# The machine that runs commands

* `Machine` is the state of a run;
* `Exec` is an operation on it that may fail, in the state it had reached;
* `Flow` says which command comes next.
-/

namespace PenScript

/-- The bounds of a counted loop, computed when it is entered. -/
structure LoopBounds where
  stop : Value
  step : Value
deriving Repr, DecidableEq

/-- The state of a run. The position of each call that has not returned is kept, the innermost
first, and the bounds of each counted loop that runs, by the position of its command. -/
structure Machine where
  store : Store := .empty
  calls : List Nat := []
  fill : Bool := false
  pc : Nat := 0
  loops : Std.TreeMap Nat LoopBounds := {}
  strokes : Array Stroke := #[]
  log : Array Event := #[]

instance : Inhabited Machine := ⟨{}⟩

/-- Where the run goes on. -/
inductive Flow where
  | next
  | goto (target : Nat)
deriving Repr, DecidableEq

/-- An operation on the machine that may fail. -/
abbrev Exec := EStateM CommandError Machine

namespace Exec

/-- Adds an entry to the log. -/
def note (e : Event) : Exec Unit := modify fun m => { m with log := m.log.push e }

/-- A store operation. The store is taken out of the machine while it changes, so that large arrays
are changed in place. -/
def update (u : Store.Update α) : Exec α := fun m =>
  let s := m.store
  let m := { m with store := .empty }
  match u s with
  | .ok a s => .ok a { m with store := s }
  | .error e s => .error (.store e) { m with store := s }

/-- A question to the store. -/
def ask (q : Store → Except StoreError α) : Exec α := fun m =>
  match q m.store with
  | .ok a => .ok a m
  | .error e => .error (.store e) m

/-- The value of a formula. -/
def compute (f : Store → Except FormulaError α) : Exec α := fun m =>
  match f m.store with
  | .ok a => .ok a m
  | .error e => .error (.formula e) m

/-- A computation on values. -/
def convert (r : Except ValueError α) : Exec α :=
  match r with
  | .ok a => pure a
  | .error e => throw (.value e)

/-- A search for a block. -/
def resolve (r : Except Block.Missing α) : Exec α :=
  match r with
  | .ok a => pure a
  | .error e => throw (.unmatched e)

/-- The truth value of a guard. One that cannot be computed is false, which is noted. -/
def guard (formula : String) : Exec Bool := do
  match Formula.boolean (← get).store formula with
  | .ok b => pure b
  | .error e =>
    note (.guardFailed formula e)
    pure false

end Exec

end PenScript
