import PenScript.Machine.Execute
import PenScript.Proofs.Attempt

/-!
# Operations on the machine and on the store

* `Exec.asks_compute`, `Exec.asks_ask`, `Exec.asks_convert`, `Prepare.asks_ask` : the questions;
  `Exec.run_update_ok`, `Exec.atomic_update`, `Prepare.run_update_ok`, `Prepare.atomic_update` : the
  operations that write;
* `Scene` is the part of the machine that commands work on: the variables, the drawing and the fill
  flag; the counter, the calls, the loops and the log are left out;
* `Exec.onScene x` is the operation `x` on a scene alone;
* `Exec.Local x` : the operation sees and changes nothing but the scene, which passes from the parts
  of a sequence to the whole (`Exec.Local.bind`).
-/

namespace PenScript

open Attempt (Asks Atomic)

/-- The variables, the drawing and the fill flag. -/
structure Scene where
  store : Store := .empty
  strokes : Array Stroke := #[]
  fill : Bool := false

namespace Machine

/-- The scene of the machine. -/
def scene (m : Machine) : Scene := ⟨m.store, m.strokes, m.fill⟩

/-- The machine with another scene. -/
def withScene (m : Machine) (s : Scene) : Machine :=
  { m with store := s.store, strokes := s.strokes, fill := s.fill }

/-- A machine with the scene and nothing else. -/
def ofScene (s : Scene) : Machine := ({} : Machine).withScene s

@[simp] theorem scene_withScene (m : Machine) (s : Scene) : (m.withScene s).scene = s := rfl

@[simp] theorem scene_ofScene (s : Scene) : (ofScene s).scene = s := rfl

end Machine

/-! ## Single operations -/

namespace Exec

variable {α : Type} {m m' : Machine} {a : α}

theorem asks_compute (g : Store → Except FormulaError α) :
    Asks (fun m : Machine => (g m.store).mapError .formula) (compute g) := by
  intro m
  show (compute g).run m = Attempt.answer m ((g m.store).mapError .formula)
  rw [EStateM.run, compute]
  cases g m.store <;> rfl

theorem asks_ask (q : Store → Except StoreError α) :
    Asks (fun m : Machine => (q m.store).mapError .store) (ask q) := by
  intro m
  show (ask q).run m = Attempt.answer m ((q m.store).mapError .store)
  rw [EStateM.run, ask]
  cases q m.store <;> rfl

theorem asks_convert (r : Except ValueError α) :
    Asks (fun _ : Machine => r.mapError .value) (convert r) := by
  intro m
  cases r <;> rfl

theorem run_compute_ok {g : Store → Except FormulaError α} :
    (compute g).run m = .ok a m' ↔ g m.store = .ok a ∧ m = m' := by
  rw [(asks_compute g).run_eq_ok, Attempt.mapError_eq_ok]

theorem run_ask_ok {q : Store → Except StoreError α} :
    (ask q).run m = .ok a m' ↔ q m.store = .ok a ∧ m = m' := by
  rw [(asks_ask q).run_eq_ok, Attempt.mapError_eq_ok]

theorem run_convert_ok {r : Except ValueError α} :
    (convert r).run m = .ok a m' ↔ r = .ok a ∧ m = m' := by
  rw [(asks_convert r).run_eq_ok, Attempt.mapError_eq_ok]

theorem run_update (u : Store.Update α) (m : Machine) :
    (update u).run m = match u.run m.store with
      | .ok a t => .ok a { m with store := t }
      | .error e t => .error (.store e) { m with store := t } := rfl

theorem run_update_ok {u : Store.Update α} (h : (update u).run m = .ok a m') :
    u.run m.store = .ok a m'.store := by
  rw [run_update] at h
  split at h
  · cases h
    assumption
  · cases h

theorem atomic_update {u : Store.Update α} (hu : Atomic u) : Atomic (update u) := by
  intro m e m' h
  rw [run_update] at h
  split at h
  · cases h
  · rename_i t hrun
    cases h
    rw [hu _ _ t hrun]

end Exec

namespace Prepare

variable {α : Type} {s s' : Store} {a : α}

theorem asks_ask (q : Store → Except StoreError α) :
    Asks (fun s => (q s).mapError .store) (ask q) := by
  intro s
  show (ask q).run s = Attempt.answer s ((q s).mapError .store)
  rw [EStateM.run, ask]
  cases q s <;> rfl

theorem run_ask_ok {q : Store → Except StoreError α} :
    (ask q).run s = .ok a s' ↔ q s = .ok a ∧ s = s' := by
  rw [(asks_ask q).run_eq_ok, Attempt.mapError_eq_ok]

theorem run_update_ok {u : Store.Update α} (h : (update u).run s = .ok a s') :
    u.run s = .ok a s' := by
  rw [EStateM.run, update] at h
  split at h
  · cases h
    assumption
  · cases h

theorem atomic_update {u : Store.Update α} (hu : Atomic u) : Atomic (update u) := by
  intro s e s' h
  rw [EStateM.run, update] at h
  split at h
  · cases h
  · rename_i s₁ hrun
    cases h
    exact hu _ _ _ hrun

end Prepare

/-! ## Locality -/

namespace Exec

variable {α β : Type} {x : Exec α} {f : α → Exec β}

/-- The operation on a scene alone. -/
def onScene (x : Exec α) : EStateM CommandError Scene α := fun s =>
  match x.run (.ofScene s) with
  | .ok a m => .ok a m.scene
  | .error e m => .error e m.scene

/-- The result of an operation on the scene, put into the machine. -/
def putScene (m : Machine) : EStateM.Result CommandError Scene α →
    EStateM.Result CommandError Machine α
  | .ok a s => .ok a (m.withScene s)
  | .error e s => .error e (m.withScene s)

theorem run_onScene (x : Exec α) (s : Scene) : x.onScene.run s =
    match x.run (.ofScene s) with
    | .ok a m => .ok a m.scene
    | .error e m => .error e m.scene := rfl

/-- The operation sees and changes nothing but the scene. -/
def Local (x : Exec α) : Prop := ∀ m, x.run m = putScene m (x.onScene.run m.scene)

theorem Local.ok {m : Machine} {a : α} {s : Scene} (h : Local x)
    (hx : x.onScene.run m.scene = .ok a s) : x.run m = .ok a (m.withScene s) := by
  rw [h m, hx]
  rfl

theorem Local.error {m : Machine} {e : CommandError} {s : Scene} (h : Local x)
    (hx : x.onScene.run m.scene = .error e s) : x.run m = .error e (m.withScene s) := by
  rw [h m, hx]
  rfl

/-- What a local operation does to a machine, it does to the scene. -/
theorem Local.onScene_ok {m m' : Machine} {a : α} (h : Local x) (hx : x.run m = .ok a m') :
    x.onScene.run m.scene = .ok a m'.scene := by
  rw [h m] at hx
  cases hs : x.onScene.run m.scene with
  | ok b s =>
    rw [hs] at hx
    cases hx
    rfl
  | error e s =>
    rw [hs] at hx
    cases hx

/-- An operation with the same effect on every machine of a scene is local. -/
theorem Local.of_eq (r : Scene → EStateM.Result CommandError Scene α)
    (h : ∀ m, x.run m = putScene m (r m.scene)) : Local x := by
  intro m
  rw [h m, run_onScene, h, Machine.scene_ofScene]
  cases r m.scene <;> rfl

theorem Local.pure (a : α) : Local (pure a : Exec α) := of_eq (.ok a) fun _ => rfl

theorem Local.throw (e : CommandError) : Local (throw e : Exec α) := of_eq (.error e) fun _ => rfl

theorem Local.bind (hx : Local x) (hf : ∀ a, Local (f a)) : Local (x >>= f) := by
  refine of_eq (fun s => match x.onScene.run s with
    | .ok a s => (f a).onScene.run s
    | .error e s => .error e s) fun m => ?_
  cases h : x.onScene.run m.scene with
  | ok a s =>
    rw [Attempt.run_bind_ok (hx.ok h), hf a]
    dsimp only
    rw [Machine.scene_withScene]
    cases (f a).onScene.run s <;> rfl
  | error e s =>
    rw [Attempt.run_bind_error (hx.error h)]
    rfl

/-- A question to the store sees nothing else, and changes nothing. -/
theorem Local.of_asks (q : Store → Except CommandError α)
    (h : Asks (fun m : Machine => q m.store) x) : Local x := by
  refine of_eq (fun s => Attempt.answer s (q s.store)) fun m => ?_
  have hrun : x.run m = Attempt.answer m (q m.store) := h m
  have hstore : m.scene.store = m.store := rfl
  rw [hrun, hstore]
  cases q m.store <;> rfl

theorem Local.compute (g : Store → Except FormulaError α) : Local (compute g) :=
  of_asks (fun s => (g s).mapError .formula) (asks_compute g)

theorem Local.ask (q : Store → Except StoreError α) : Local (ask q) :=
  of_asks (fun s => (q s).mapError .store) (asks_ask q)

theorem Local.update (u : Store.Update α) : Local (update u) := by
  refine of_eq (fun s => match u.run s.store with
    | .ok a t => .ok a { s with store := t }
    | .error e t => .error (.store e) { s with store := t }) fun m => ?_
  have hstore : m.scene.store = m.store := rfl
  rw [run_update, hstore]
  cases u.run m.store <;> rfl

theorem Local.convert (r : Except ValueError α) : Local (convert r) :=
  of_asks (fun _ => r.mapError .value) (asks_convert r)

/-- An operation that goes on from the store of the machine. -/
theorem Local.get_bind {g : Machine → Exec α} (hg : ∀ m, Local (g m))
    (hstore : ∀ m m', m.store = m'.store → g m = g m') : Local (get >>= g) := by
  refine of_eq (fun s => (g (.ofScene s)).onScene.run s) fun m => ?_
  rw [Attempt.run_bind_ok (EStateM.run_get m), hg m, hstore m (.ofScene m.scene) rfl]

end Exec

/-! ### The commands that only work on the scene -/

theorem Declaration.execute_local (d : Declaration) : Exec.Local d.execute := by
  have hwrite : ∀ v, Exec.Local (if d.update then Exec.update (Store.assign d.name v)
      else Exec.update (Store.declare d.name v)) := by
    intro v
    split <;> exact .update _
  unfold Declaration.execute
  dsimp only
  split
  · exact .bind (.compute _) hwrite
  · exact .bind (.pure _) hwrite

theorem ArrayDeclaration.execute_local (d : ArrayDeclaration) : Exec.Local d.execute :=
  .bind (.compute _) fun _ => .bind (.convert _) fun _ => .update _

theorem Peek.execute_local (p : Peek) : Exec.Local p.execute := by
  refine .bind (.compute _) fun i => .bind (.ask _) fun v => .get_bind (fun m => ?_) ?_
  · cases m.store.get? p.dest with
    | some old => exact .bind (.ask _) fun _ => .update _
    | none => exact .update _
  · intro m m' h
    rw [h]

theorem Poke.execute_local (p : Poke) : Exec.Local p.execute := by
  refine .bind (.compute _) fun i => .bind (.ask _) fun elem => ?_
  cases elem with
  | real => exact .bind (.compute _) fun _ => .update _
  | int => exact .bind (.compute _) fun _ => .update _

/-- What a drawing command does to a scene. -/
def Drawing.drawOn (d : Drawing) (s : Scene) : EStateM.Result CommandError Scene Unit :=
  match d.stroke s.store s.fill with
  | .error e => .error e s
  | .ok made =>
    let s := match d with
      | fill on => { s with fill := on }
      | _ => s
    .ok () (match made with
      | some stroke => { s with strokes := s.strokes.push stroke }
      | none => s)

theorem Drawing.execute_local (d : Drawing) : Exec.Local d.execute := by
  refine .of_eq d.drawOn fun m => ?_
  have hscene : d.stroke m.scene.store m.scene.fill = d.stroke m.store m.fill := rfl
  rw [EStateM.run, Drawing.execute.eq_def, Drawing.drawOn.eq_def, hscene]
  cases d.stroke m.store m.fill with
  | error e => rfl
  | ok made => cases made <;> cases d <;> rfl

namespace CountedLoop

/-- The step of a loop: one if nothing else is said. -/
def stride (l : CountedLoop) (t : VarType) : Exec Value :=
  match l.step with
  | some formula => Exec.compute (Formula.evaluateAs · t formula)
  | none => Exec.convert (Value.castTo (.int 1) t)

/-- Binds the variable to the start, unless the step is zero. -/
def settle (l : CountedLoop) (start stop step : Value) : Exec (Value × LoopBounds) := do
  if ← Exec.convert step.isZero then throw (.zeroStep l.var)
  Exec.update (Store.declare l.var start)
  return (start, ⟨stop, step⟩)

theorem enter_eq (l : CountedLoop) : l.enter = (do
    let t := l.type (← get).store
    let start ← Exec.compute (Formula.evaluateAs · t l.start)
    let stop ← Exec.compute (Formula.evaluateAs · t l.stop)
    let step ← l.stride t
    l.settle start stop step) := by
  unfold enter stride settle
  cases l.step <;> rfl

theorem stride_local (l : CountedLoop) (t : VarType) : Exec.Local (l.stride t) := by
  unfold stride
  split
  · exact .compute _
  · exact .convert _

theorem settle_local (l : CountedLoop) (start stop step : Value) :
    Exec.Local (l.settle start stop step) := by
  refine .bind (.convert _) fun zero => ?_
  split
  · exact .bind (.throw _) fun _ => .bind (.update _) fun _ => .pure _
  · exact .bind (.update _) fun _ => .pure _

theorem enter_local (l : CountedLoop) : Exec.Local l.enter := by
  rw [enter_eq]
  refine .get_bind (fun m => ?_) ?_
  · exact .bind (.compute _) fun start => .bind (.compute _) fun stop =>
      .bind (l.stride_local _) fun step => l.settle_local start stop step
  · intro m m' h
    rw [h]

end CountedLoop

end PenScript
