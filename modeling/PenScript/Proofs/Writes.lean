import PenScript.Proofs.StoreTypes
import PenScript.Proofs.Transition

/-!
# What commands write

* `Exec.Keeps part x` : the operation leaves a part of the machine as it was, which passes from the
  parts of a sequence to the whole;
* `Command.execute_keeps` : a command that steers leaves all but the log and the calls as it was;
* `Writes c s s'` lists what a command can do to the variables, with the type of what it writes;
* `Command.execute_writes` : every command that succeeds does one of these, in any code.
-/

namespace PenScript

namespace Exec

variable {α β : Type} {x : Exec α} {f : α → Exec β}

/-! ## Operations that leave a part of the machine as it was -/

variable {γ : Type} {part : Machine → γ}

/-- The operation leaves a part of the machine as it was, whether it succeeds or fails. -/
structure Keeps (part : Machine → γ) (x : Exec α) : Prop where
  ok : ∀ {m a m'}, x.run m = .ok a m' → part m' = part m
  error : ∀ {m e m'}, x.run m = .error e m' → part m' = part m

theorem Keeps.of_reads (hx : Attempt.Reads x) : Keeps part x where
  ok h := by rw [hx.ok h]
  error h := by rw [hx.error h]

/-- An operation on the scene leaves the rest of the machine as it was. -/
theorem Keeps.of_local (hx : x.Local) (hpart : ∀ m s, part (m.withScene s) = part m) :
    Keeps part x where
  ok {m a m'} h := by
    rw [hx m] at h
    cases hs : x.onScene.run m.scene with
    | ok b s => rw [hs] at h; cases h; exact hpart m s
    | error e s => rw [hs] at h; cases h
  error {m e m'} h := by
    rw [hx m] at h
    cases hs : x.onScene.run m.scene with
    | ok b s => rw [hs] at h; cases h
    | error e s => rw [hs] at h; cases h; exact hpart m s

theorem Keeps.final_eq (hx : Keeps part x) (m : Machine) :
    part (Attempt.final (x.run m)) = part m := by
  cases h : x.run m with
  | ok a m' => exact hx.ok h
  | error e m' => exact hx.error h

theorem Keeps.pure (a : α) : Keeps part (pure a : Exec α) := .of_reads (.pure a)

theorem Keeps.bind (hx : Keeps part x) (hf : ∀ a, Keeps part (f a)) : Keeps part (x >>= f) where
  ok h := by
    obtain ⟨a, m₁, h₁, h₂⟩ := Attempt.run_bind_eq_ok.1 h
    rw [(hf a).ok h₂, hx.ok h₁]
  error h := by
    rcases Attempt.run_bind_eq_error.1 h with h₁ | ⟨a, m₁, h₁, h₂⟩
    · exact hx.error h₁
    · rw [(hf a).error h₂, hx.ok h₁]

theorem Keeps.get_bind {g : Machine → Exec α} (hg : ∀ m, Keeps part (g m)) :
    Keeps part (get >>= g) :=
  .bind (.of_reads .get) hg

theorem Keeps.modify {g : Machine → Machine} (hg : ∀ m, part (g m) = part m) :
    Keeps part (modify g) where
  ok h := by
    cases h
    exact hg _
  error h := by cases h

theorem Keeps.resolve (r : Except Block.Missing α) : Keeps part (resolve r) := by
  cases r with
  | ok a => exact .pure a
  | error e => exact .of_reads (.throw _)

theorem Keeps.guard (hlog : ∀ m log, part { m with log := log } = part m) (g : String) :
    Keeps part (guard g) := by
  unfold Exec.guard
  refine .get_bind fun m => ?_
  cases Formula.boolean m.store g with
  | ok b => exact .pure b
  | error e => exact .bind (.modify fun m => hlog m _) fun _ => .pure false

end Exec

namespace Command

/-- The command belongs to a conditional, to a loop with a condition or to a method, or calls one. -/
def steers : Command → Bool
  | ifThen _ | orElse | endIf | whileDo _ | endWhile | method _ | endMethod | call _ => true
  | _ => false

/-- A command that steers leaves everything but the log and the calls as it was. -/
theorem execute_keeps {γ : Type} {part : Machine → γ}
    (hlog : ∀ m log, part { m with log := log } = part m)
    (hcalls : ∀ m calls, part { m with calls := calls } = part m) {c : Command}
    (hc : c.steers = true) (code : List CodeLine) (pos : Nat) :
    Exec.Keeps part (c.execute code pos) := by
  have hnote : ∀ e, Exec.Keeps part (Exec.note e) := fun e => .modify fun m => hlog m _
  cases c with
  | ifThen g =>
    refine .bind (.guard hlog g) fun yes => ?_
    cases yes with
    | true => exact .pure _
    | false => exact .bind (.resolve _) fun _ => .bind (hnote _) fun _ => .pure _
  | whileDo g =>
    refine .bind (.guard hlog g) fun yes => ?_
    cases yes with
    | true => exact .pure _
    | false => exact .bind (.resolve _) fun _ => .pure _
  | orElse => exact .bind (.resolve _) fun _ => .pure _
  | endIf => exact .pure _
  | endWhile => exact .bind (.resolve _) fun _ => .pure _
  | method name => exact .bind (.resolve _) fun _ => .pure _
  | endMethod =>
    refine .get_bind fun m => ?_
    cases m.calls with
    | nil => exact .pure _
    | cons site rest => exact .bind (.modify fun m => hcalls m _) fun _ => .pure _
  | call name =>
    show Exec.Keeps part (executeCall name code pos)
    unfold executeCall
    cases findMethod? code name with
    | none => exact .of_reads (.throw _)
    | some header =>
      exact .get_bind fun m => .bind (hnote _) fun _ =>
        .bind (.modify fun m => hcalls m _) fun _ => .pure _
  | _ => cases hc

/-- The command makes the variable an array: an `array` does, and so does a declaration of an array
type that gives no value, also as an update. -/
def MakesArray (c : Command) (name : String) : Prop :=
  (∃ d, c = .array d ∧ d.name = name) ∨
    ∃ d, c = .declare d ∧ d.name = name ∧ d.type.isArray = true ∧ d.value = none

/-- If the command stores the value in the variable and it is an array, then the command makes one
there, and not a large one. -/
def Fits (c : Command) (name : String) (v : Value) : Prop :=
  ∀ cells, v = .array cells → c.MakesArray name ∧ cells.size ≤ Cells.sizeLimit

theorem Fits.of_scalar {c : Command} {name : String} {v : Value} (h : v.type.isArray = false) :
    c.Fits name v := by
  rintro cells rfl
  cases h

theorem Fits.of_default {d : Declaration} (hd : d.value = none) :
    (Command.declare d).Fits d.name d.type.default := by
  intro cells h
  cases ht : d.type with
  | array elem =>
    rw [ht] at h
    cases h
    exact ⟨.inr ⟨d, rfl, rfl, by rw [ht]; rfl, hd⟩, by simp⟩
  | _ =>
    rw [ht] at h
    cases h

/-- A command on variables or the drawing leaves the rest of the machine as it was. -/
theorem keeps_of_work? {γ : Type} {part : Machine → γ} {c : Command} {x : Exec Unit}
    (hx : c.work? = some x) (hpart : ∀ m s, part (m.withScene s) = part m) (code : List CodeLine)
    (pos : Nat) : Exec.Keeps part (c.execute code pos) := by
  rw [execute_of_work? hx]
  exact .bind (.of_local (local_of_work? hx) hpart) fun _ => .pure _

end Command

/-! ## What is written -/

/-- What a command can do to the variables. -/
inductive Writes (c : Command) (s s' : Store) : Prop
  | same (h : s' = s)
  | declare {d : Declaration} {v : Value} (hc : c = .declare d) (hd : d.update = false)
      (ht : v.type = d.type) (h : (Store.declare d.name v).run s = .ok () s')
      (hfits : c.Fits d.name v)
  | array {d : ArrayDeclaration} {cells : Cells} (hc : c = .array d) (ht : cells.elem = d.elem)
      (h : (Store.declare d.name (.array cells)).run s = .ok () s')
      (hsize : cells.size ≤ Cells.sizeLimit)
  /-- An element of an array is read into a variable that was not bound. -/
  | peek {p : Peek} {v : Value} {elem : ElemType} (hc : c = .peek p) (hnew : s.get? p.dest = none)
      (ha : s.type? p.array = some (.array elem)) (ht : v.type = elem.scalar)
      (h : (Store.declare p.dest v).run s = .ok () s')
  | count {l : CountedLoop} {v : Value} (hc : c = .countTo l) (ht : v.type = l.type s)
      (h : (Store.declare l.var v).run s = .ok () s')
  | assign {name : String} {v : Value} (h : (Store.assign name v).run s = .ok () s')
      (hfits : c.Fits name v)
  | poke {name : String} {i : Int64} {v : Value} (h : (Store.poke name i v).run s = .ok () s')

theorem Declaration.execute_writes {d : Declaration} {m m' : Machine}
    (h : d.execute.run m = .ok () m') : Writes (.declare d) m.store m'.store := by
  have hwrite : ∀ {v : Value}, v.type = d.type → (Command.declare d).Fits d.name v →
      (if d.update then Exec.update (Store.assign d.name v)
        else Exec.update (Store.declare d.name v)).run m = .ok () m' →
      Writes (.declare d) m.store m'.store := by
    intro v hv hfits hrun
    by_cases hd : d.update = true
    · rw [if_pos hd] at hrun
      exact .assign (Exec.run_update_ok hrun) hfits
    · rw [if_neg hd] at hrun
      exact .declare rfl (by simpa using hd) hv (Exec.run_update_ok hrun) hfits
  unfold Declaration.execute at h
  dsimp only at h
  split at h
  · obtain ⟨v, m₁, hcompute, hrun⟩ := Attempt.run_bind_eq_ok.1 h
    obtain ⟨hv, rfl⟩ := Exec.run_compute_ok.1 hcompute
    exact hwrite (Formula.evaluateAs_type hv) (.of_scalar (Formula.evaluateAs_scalar hv)) hrun
  · rename_i hvalue
    exact hwrite (VarType.type_default d.type) (.of_default hvalue) h

theorem ArrayDeclaration.execute_writes {d : ArrayDeclaration} {m m' : Machine}
    (h : d.execute.run m = .ok () m') : Writes (.array d) m.store m'.store := by
  obtain ⟨n, m₁, hn, h₁⟩ := Attempt.run_bind_eq_ok.1 h
  obtain ⟨-, rfl⟩ := Exec.run_compute_ok.1 hn
  obtain ⟨cells, m₂, hcreate, h₂⟩ := Attempt.run_bind_eq_ok.1 h₁
  obtain ⟨hcells, rfl⟩ := Exec.run_convert_ok.1 hcreate
  exact .array rfl (Cells.elem_of_create hcells) (Exec.run_update_ok h₂)
    (Cells.size_of_create hcells)

theorem Peek.execute_writes {p : Peek} {m m' : Machine} (h : p.execute.run m = .ok () m') :
    Writes (.peek p) m.store m'.store := by
  obtain ⟨i, m₁, hi, h₁⟩ := Attempt.run_bind_eq_ok.1 h
  obtain ⟨-, rfl⟩ := Exec.run_compute_ok.1 hi
  obtain ⟨v, m₂, hpeek, h₂⟩ := Attempt.run_bind_eq_ok.1 h₁
  obtain ⟨hv, rfl⟩ := Exec.run_ask_ok.1 hpeek
  rw [Attempt.run_bind_ok (EStateM.run_get m)] at h₂
  obtain ⟨elem, harray, ht⟩ := Store.type_of_peek hv
  cases hdest : m.store.get? p.dest with
  | some old =>
    rw [hdest] at h₂
    obtain ⟨w, m₃, hask, h₃⟩ := Attempt.run_bind_eq_ok.1 h₂
    obtain ⟨hw, rfl⟩ := Exec.run_ask_ok.1 hask
    have hscalar : w.type.isArray = false := fitScalar_scalar hw (by rw [ht]; simp)
    exact .assign (Exec.run_update_ok h₃) (.of_scalar hscalar)
  | none =>
    rw [hdest] at h₂
    exact .peek rfl hdest harray ht (Exec.run_update_ok h₂)

theorem Poke.execute_writes {p : Poke} {m m' : Machine} (h : p.execute.run m = .ok () m') :
    Writes (.poke p) m.store m'.store := by
  obtain ⟨i, m₁, hi, h₁⟩ := Attempt.run_bind_eq_ok.1 h
  obtain ⟨-, rfl⟩ := Exec.run_compute_ok.1 hi
  obtain ⟨elem, m₂, helem, h₂⟩ := Attempt.run_bind_eq_ok.1 h₁
  obtain ⟨-, rfl⟩ := Exec.run_ask_ok.1 helem
  cases elem with
  | real | int =>
    obtain ⟨v, m₃, hv, h₃⟩ := Attempt.run_bind_eq_ok.1 h₂
    obtain ⟨-, rfl⟩ := Exec.run_compute_ok.1 hv
    exact .poke (Exec.run_update_ok h₃)

/-- Drawing may change the fill flag and add a stroke. -/
theorem Drawing.execute_ok {d : Drawing} {m m' : Machine} (h : d.execute.run m = .ok () m') :
    ∃ (fill : Bool) (made : Option Stroke),
      m' = { m with fill := fill, strokes := made.elim m.strokes m.strokes.push } := by
  rw [EStateM.run, Drawing.execute.eq_def] at h
  cases hs : d.stroke m.store m.fill with
  | error e =>
    rw [hs] at h
    cases h
  | ok made =>
    rw [hs] at h
    cases h
    cases made with
    | none => cases d <;> exact ⟨_, none, rfl⟩
    | some stroke => cases d <;> exact ⟨_, some stroke, rfl⟩

namespace CountedLoop

variable {l : CountedLoop} {m m' : Machine}

theorem type_isNumber (l : CountedLoop) (s : Store) : (l.type s).IsNumber := by
  unfold type
  split
  · exact .inr rfl
  · exact .inl rfl

theorem stride_ok {t : VarType} {step : Value} (h : (l.stride t).run m = .ok step m') :
    step.type = t ∧ m = m' := by
  unfold stride at h
  split at h
  · exact (Exec.run_compute_ok.1 h).imp_left Formula.evaluateAs_type
  · exact (Exec.run_convert_ok.1 h).imp_left Value.castTo_type

theorem settle_ok {start stop step v : Value} {b : LoopBounds}
    (h : (l.settle start stop step).run m = .ok (v, b) m') :
    v = start ∧ b = ⟨stop, step⟩ ∧ (Store.declare l.var start).run m.store = .ok () m'.store := by
  obtain ⟨zero, m₁, hzero, h₁⟩ := Attempt.run_bind_eq_ok.1 h
  obtain ⟨-, rfl⟩ := Exec.run_convert_ok.1 hzero
  cases zero with
  | true => cases h₁
  | false =>
    obtain ⟨⟨⟩, m₂, hdeclare, h₂⟩ := Attempt.run_bind_eq_ok.1 h₁
    cases h₂
    exact ⟨rfl, rfl, Exec.run_update_ok hdeclare⟩

/-- A loop that has been entered has its start, end and step of one type, and its variable bound to
the start. -/
theorem enter_ok {v : Value} {b : LoopBounds} (h : l.enter.run m = .ok (v, b) m') :
    v.type = l.type m.store ∧ b.stop.type = l.type m.store ∧ b.step.type = l.type m.store ∧
      (Store.declare l.var v).run m.store = .ok () m'.store := by
  rw [enter_eq, Attempt.run_bind_ok (EStateM.run_get m)] at h
  obtain ⟨start, m₁, h₁, hrest⟩ := Attempt.run_bind_eq_ok.1 h
  obtain ⟨hstart, rfl⟩ := Exec.run_compute_ok.1 h₁
  obtain ⟨stop, m₂, h₂, hrest⟩ := Attempt.run_bind_eq_ok.1 hrest
  obtain ⟨hstop, rfl⟩ := Exec.run_compute_ok.1 h₂
  obtain ⟨step, m₃, h₃, hrest⟩ := Attempt.run_bind_eq_ok.1 hrest
  obtain ⟨hstep, rfl⟩ := stride_ok h₃
  obtain ⟨rfl, rfl, hdeclare⟩ := settle_ok hrest
  exact ⟨Formula.evaluateAs_type hstart, Formula.evaluateAs_type hstop, hstep, hdeclare⟩

theorem test_keeps {γ : Type} {part : Machine → γ}
    (hlog : ∀ m log, part { m with log := log } = part m)
    (hloops : ∀ m loops, part { m with loops := loops } = part m) (l : CountedLoop)
    (code : List CodeLine) (pos : Nat) (v : Value) (b : LoopBounds) :
    Exec.Keeps part (l.test code pos v b) := by
  unfold test
  have hconvert : Exec.Keeps part (Exec.convert (goesOn v b)) := by
    cases goesOn v b with
    | ok more => exact .pure more
    | error e => exact .of_reads (.throw _)
  refine .bind hconvert fun more => ?_
  cases more with
  | true => exact .bind (.modify fun m => hloops m _) fun _ => .pure _
  | false =>
    exact .bind (.modify fun m => hloops m _) fun _ => .bind (.resolve _) fun _ =>
      .bind (.modify fun m => hlog m _) fun _ => .pure _

/-- What the head of a loop and its test leave as it was is so after both. -/
theorem keeps_execute {γ : Type} {part : Machine → γ} {code : List CodeLine} {pos : Nat}
    (h : ∀ cached, Exec.Keeps part (l.head cached >>= fun r => l.test code pos r.1 r.2)) :
    Exec.Keeps part (l.execute code pos) where
  ok {m flow m'} hrun := by
    rw [l.run_execute] at hrun
    exact (h _).ok hrun
  error {m e m'} hrun := by
    rw [l.run_execute] at hrun
    exact (h _).error hrun

theorem head_writes {pos : Nat} {v : Value} {b : LoopBounds}
    (h : (l.head (m.view.loops pos)).run m = .ok (v, b) m') :
    Writes (.countTo l) m.store m'.store := by
  cases hloop : m.view.loops pos with
  | some bounds =>
    rw [hloop] at h
    obtain ⟨w, m₂, hask, hpure⟩ := Attempt.run_bind_eq_ok.1 h
    cases hpure
    exact .same (by rw [(Exec.run_ask_ok.1 hask).2])
  | none =>
    rw [hloop] at h
    obtain ⟨ht, -, -, hdeclare⟩ := enter_ok h
    exact .count rfl ht hdeclare

theorem execute_writes {code : List CodeLine} {pos : Nat} {flow : Flow}
    (h : (l.execute code pos).run m = .ok flow m') : Writes (.countTo l) m.store m'.store := by
  rw [l.run_execute] at h
  obtain ⟨⟨v, b⟩, m₁, hhead, htest⟩ := Attempt.run_bind_eq_ok.1 h
  have hstore : m'.store = m₁.store :=
    (test_keeps (fun _ _ => rfl) (fun _ _ => rfl) l code pos v b).ok htest
  rw [hstore]
  exact head_writes hhead

/-- A loop that runs is tested with the value of its variable. -/
theorem run_head {v : Value} {b : LoopBounds} (hv : m.store.get? l.var = some v) :
    (l.head (some b)).run m = .ok (v, b) m := by
  have hlookup : (Exec.ask (·.lookup l.var)).run m = .ok v m :=
    Exec.run_ask_ok.2 ⟨Store.lookup_eq_ok.2 hv, rfl⟩
  exact Attempt.run_bind_ok hlookup

/-- The variable takes its step, if the sum is of its type. -/
theorem run_forward {v w : Value} {b : LoopBounds} (hv : m.store.get? l.var = some v)
    (hadd : v.add b.step = .ok w) (hw : w.type = v.type) :
    (l.forward b).run m = .ok () { m with store := m.store.insert l.var w } := by
  have hlookup : (Exec.ask (·.lookup l.var)).run m = .ok v m :=
    Exec.run_ask_ok.2 ⟨Store.lookup_eq_ok.2 hv, rfl⟩
  have hconvert : (Exec.convert (v.add b.step)).run m = .ok w m :=
    Exec.run_convert_ok.2 ⟨hadd, rfl⟩
  have hassign : (Store.assign l.var w).run m.store = .ok () (m.store.insert l.var w) :=
    Store.assign_ok.2 ⟨by rw [Store.type?_of_get? hv, hw], rfl⟩
  unfold forward
  rw [Attempt.run_bind_ok hlookup, Attempt.run_bind_ok hconvert, Exec.run_update, hassign]

theorem forward_writes {b : LoopBounds} {c : Command} (h : (l.forward b).run m = .ok () m') :
    Writes c m.store m'.store := by
  obtain ⟨v, m₁, hv, h₁⟩ := Attempt.run_bind_eq_ok.1 h
  obtain ⟨-, rfl⟩ := Exec.run_ask_ok.1 hv
  obtain ⟨w, m₂, hconvert, h₂⟩ := Attempt.run_bind_eq_ok.1 h₁
  obtain ⟨hw, rfl⟩ := Exec.run_convert_ok.1 hconvert
  exact .assign (Exec.run_update_ok h₂) (.of_scalar (Value.add_scalar hw))

end CountedLoop

namespace Command

variable {code : List CodeLine} {pos : Nat} {m m' : Machine} {flow : Flow}

theorem executeEndFor_writes (h : (executeEndFor code pos).run m = .ok flow m') :
    Writes .endFor m.store m'.store := by
  unfold executeEndFor at h
  obtain ⟨start, m₁, hstart, h₁⟩ := Attempt.run_bind_eq_ok.1 h
  have hstore : m₁.store = m.store := (Exec.Keeps.resolve _).ok hstart
  rw [← hstore]
  dsimp only at h₁
  split at h₁
  · rename_i l hl
    obtain ⟨⟨⟩, m₂, hadvance, h₂⟩ := Attempt.run_bind_eq_ok.1 h₁
    cases h₂
    rw [l.run_advance] at hadvance
    cases hloop : m₁.view.loops start with
    | none => rw [hloop] at hadvance; cases hadvance
    | some bounds =>
      rw [hloop] at hadvance
      exact CountedLoop.forward_writes hadvance
  · cases h₁
    exact .same rfl

/-- What a command that works on the scene, or a drawing command, writes. -/
theorem work_writes {c : Command} {x : Exec Unit} (hx : c.work? = some x)
    (h : x.run m = .ok () m') : Writes c m.store m'.store := by
  cases c with
  | declare d => cases hx; exact Declaration.execute_writes h
  | array d => cases hx; exact ArrayDeclaration.execute_writes h
  | peek p => cases hx; exact Peek.execute_writes h
  | poke p => cases hx; exact Poke.execute_writes h
  | draw d =>
    cases hx
    obtain ⟨fill, made, rfl⟩ := Drawing.execute_ok h
    exact .same rfl
  | _ => cases hx

/-- Every command that succeeds does to the variables what `Writes` lists. -/
theorem execute_writes {c : Command} (h : (c.execute code pos).run m = .ok flow m') :
    Writes c m.store m'.store := by
  have hwork : ∀ {x}, c.work? = some x → Writes c m.store m'.store := by
    intro x hx
    rw [execute_of_work? hx] at h
    obtain ⟨⟨⟩, m₁, h₁, h₂⟩ := Attempt.run_bind_eq_ok.1 h
    cases h₂
    exact work_writes hx h₁
  cases c with
  | declare d => exact hwork rfl
  | array d => exact hwork rfl
  | peek p => exact hwork rfl
  | poke p => exact hwork rfl
  | draw d => exact hwork rfl
  | countTo l => exact CountedLoop.execute_writes h
  | endFor => exact executeEndFor_writes h
  | _ =>
    have hstore : m'.store = m.store :=
      (execute_keeps (fun _ _ => rfl) (fun _ _ => rfl) rfl code pos).ok h
    exact .same hstore

end Command

@[simp] theorem Machine.store_moveTo (m : Machine) (size : Nat) (flow : Flow) :
    (m.moveTo size flow).store = m.store := by
  cases flow <;> rfl

/-- What a step writes. -/
theorem Machine.Step.writes {code : List CodeLine} {m m' : Machine} (h : Step code m m') :
    ∃ c, commandAt code m.pc = some c ∧ Writes c m.store m'.store := by
  obtain ⟨l, hl, hstep⟩ := h
  refine ⟨l.command, commandAt_eq_some.2 ⟨l, hl, rfl⟩, ?_⟩
  obtain ⟨flow, m₁, hexec, rfl⟩ := execute_of_step hstep
  have hwrites := Command.execute_writes hexec
  rw [store_moveTo]
  exact hwrites

end PenScript
