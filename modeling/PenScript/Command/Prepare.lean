import PenScript.Command.Configure

/-!
# What a command announces

While a script is read, every command registers what it will declare, so that later lines can refer
to it. `Command.prepare` does this on a store that holds default values.
-/

namespace PenScript

/-- An operation on the store as a part of a command. -/
abbrev Prepare := EStateM CommandError Store

namespace Prepare

/-- A store operation with its error. -/
def update (u : Store.Update α) : Prepare α := fun s =>
  match u s with
  | .ok a s => .ok a s
  | .error e s => .error (.store e) s

/-- A question to the store with its error. -/
def ask (q : Store → Except StoreError α) : Prepare α := fun s =>
  match q s with
  | .ok a => .ok a s
  | .error e => .error (.store e) s

end Prepare

/-- The value as a variable of the given type holds it: a whole number becomes a real one. -/
def fitScalar (name : String) (t : VarType) (v : Value) : Except StoreError Value :=
  match t, v with
  | .real, .int n => .ok (.real (Value.realOf n))
  | t, v => if t = v.type then .ok v else .error (.typeMismatch name t v.type)

/-- An update needs its variable, a declaration binds it. -/
def Declaration.prepare (d : Declaration) : Prepare Unit :=
  if d.update then do
    let _ ← Prepare.ask (·.typeOf d.name)
  else Prepare.update (Store.declare d.name d.type.default)

/-- An array is announced without elements. -/
def ArrayDeclaration.prepare (d : ArrayDeclaration) : Prepare Unit :=
  Prepare.update (Store.declare d.name (.array (Cells.empty d.elem)))

/-- The array must be known, and its elements must fit the destination if that is known. -/
def Peek.prepare (p : Peek) : Prepare Unit := do
  let elem ← Prepare.ask (·.elemOf p.array)
  match (← get).get? p.dest with
  | some old =>
    let _ ← Prepare.ask fun _ => fitScalar p.dest old.type elem.default
  | none => Prepare.update (Store.declare p.dest elem.default)

/-- The array must be known. -/
def Poke.prepare (p : Poke) : Prepare Unit := do
  let _ ← Prepare.ask (·.elemOf p.array)

/-- The loop variable is a number; a new one counts in whole numbers. -/
def CountedLoop.prepare (l : CountedLoop) : Prepare Unit := do
  match ((← get).get? l.var).map Value.type with
  | some .int | some .real => pure ()
  | some other => throw (.store (.typeMismatch l.var .int other))
  | none => Prepare.update (Store.declare l.var (.int 0))

/-- Registers what the command will declare. -/
def Command.prepare : Command → Prepare Unit
  | declare d => d.prepare
  | array d => d.prepare
  | peek p => p.prepare
  | poke p => p.prepare
  | countTo l => l.prepare
  | _ => pure ()

end PenScript
