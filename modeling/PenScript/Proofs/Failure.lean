import PenScript.Proofs.Transition

/-!
# How operations on the machine fail

* `Exec.Fails E x` : the errors of `x` are of the class `E`, which passes from the parts of a
  sequence to the whole (`Exec.Fails.bind`);
* `CommandError.OfControl` : the error is about blocks, calls or loops; the operations on variables
  and the drawing fail only over values (`Exec.FailsOnValues`);
* `Command.cases_of_error` : which commands can fail in well nested code where calls name declared
  methods;
* `Command.execute_error` : the one error of control is then a loop that does not run at its end.
-/

namespace PenScript

namespace Exec

variable {α β : Type} {x : Exec α} {f : α → Exec β}

/-- The errors of the operation are of a class. -/
def Fails (E : CommandError → Prop) (x : Exec α) : Prop :=
  ∀ m e m', x.run m = .error e m' → E e

variable {E : CommandError → Prop}

theorem Fails.pure (a : α) : Fails E (pure a : Exec α) := by
  intro m e m' h
  cases h

theorem Fails.throw {e : CommandError} (he : E e) : Fails E (throw e : Exec α) := by
  intro m e' m' h
  cases h
  exact he

theorem Fails.bind (hx : Fails E x) (hf : ∀ a, Fails E (f a)) : Fails E (x >>= f) := by
  intro m e m' h
  rcases Attempt.run_bind_eq_error.1 h with h | ⟨a, m₁, -, h⟩
  · exact hx m e m' h
  · exact hf a m₁ e m' h

theorem Fails.get_bind {g : Machine → Exec α} (hg : ∀ m, Fails E (g m)) : Fails E (get >>= g) :=
  .bind (fun m e m' h => by cases h) hg

theorem Fails.compute (hE : ∀ e, E (.formula e)) (g : Store → Except FormulaError α) :
    Fails E (compute g) := by
  intro m e m' h
  rw [EStateM.run, Exec.compute] at h
  cases hg : g m.store with
  | ok a => rw [hg] at h; cases h
  | error e => rw [hg] at h; cases h; exact hE e

theorem Fails.ask (hE : ∀ e, E (.store e)) (q : Store → Except StoreError α) :
    Fails E (ask q) := by
  intro m e m' h
  rw [EStateM.run, Exec.ask] at h
  cases hq : q m.store with
  | ok a => rw [hq] at h; cases h
  | error e => rw [hq] at h; cases h; exact hE e

theorem Fails.update (hE : ∀ e, E (.store e)) (u : Store.Update α) : Fails E (update u) := by
  intro m e m' h
  rw [run_update] at h
  cases hu : u.run m.store with
  | ok a t => rw [hu] at h; cases h
  | error e t => rw [hu] at h; cases h; exact hE e

theorem Fails.convert (hE : ∀ e, E (.value e)) (r : Except ValueError α) : Fails E (convert r) := by
  cases r with
  | ok a => exact .pure a
  | error e => exact .throw (hE e)

end Exec

/-- The error is about blocks, calls or loops, not about values. -/
def CommandError.OfControl : CommandError → Prop
  | unmatched _ | notRunning _ | unknownMethod _ => True
  | _ => False

/-- The operation fails only over values. -/
abbrev Exec.FailsOnValues {α : Type} (x : Exec α) : Prop := Fails (fun e => ¬ e.OfControl) x

theorem Declaration.execute_fails (d : Declaration) : d.execute.FailsOnValues := by
  have hwrite : ∀ v, Exec.FailsOnValues (if d.update then Exec.update (Store.assign d.name v)
      else Exec.update (Store.declare d.name v)) := by
    intro v
    split <;> exact .update (fun _ => id) _
  unfold Declaration.execute
  dsimp only
  split
  · exact .bind (.compute (fun _ => id) _) hwrite
  · exact .bind (.pure _) hwrite

theorem ArrayDeclaration.execute_fails (d : ArrayDeclaration) : d.execute.FailsOnValues :=
  .bind (.compute (fun _ => id) _) fun _ =>
    .bind (.convert (fun _ => id) _) fun _ => .update (fun _ => id) _

theorem Peek.execute_fails (p : Peek) : p.execute.FailsOnValues := by
  refine .bind (.compute (fun _ => id) _) fun i => .bind (.ask (fun _ => id) _) fun v =>
    .get_bind fun m => ?_
  cases m.store.get? p.dest with
  | some old => exact .bind (.ask (fun _ => id) _) fun _ => .update (fun _ => id) _
  | none => exact .update (fun _ => id) _

theorem Poke.execute_fails (p : Poke) : p.execute.FailsOnValues := by
  refine .bind (.compute (fun _ => id) _) fun i => .bind (.ask (fun _ => id) _) fun elem => ?_
  cases elem with
  | real => exact .bind (.compute (fun _ => id) _) fun _ => .update (fun _ => id) _
  | int => exact .bind (.compute (fun _ => id) _) fun _ => .update (fun _ => id) _

theorem CountedLoop.stride_fails (l : CountedLoop) (t : VarType) : (l.stride t).FailsOnValues := by
  unfold CountedLoop.stride
  split
  · exact .compute (fun _ => id) _
  · exact .convert (fun _ => id) _

theorem CountedLoop.settle_fails (l : CountedLoop) (start stop step : Value) :
    (l.settle start stop step).FailsOnValues := by
  refine .bind (.convert (fun _ => id) _) fun zero => ?_
  split
  · exact .bind (.throw id) fun _ => .bind (.update (fun _ => id) _) fun _ => .pure _
  · exact .bind (.update (fun _ => id) _) fun _ => .pure _

theorem CountedLoop.enter_fails (l : CountedLoop) : l.enter.FailsOnValues := by
  rw [enter_eq]
  exact .get_bind fun m => .bind (.compute (fun _ => id) _) fun start =>
    .bind (.compute (fun _ => id) _) fun stop => .bind (l.stride_fails _) fun step =>
      l.settle_fails start stop step

theorem DrawingArg.compute_error {a : DrawingArg} {k : Keyword} {s : Store} {formula : String}
    {e : CommandError} (h : a.compute k s formula = .error e) : ¬ e.OfControl := by
  unfold DrawingArg.compute at h
  cases hf : Formula.int s formula with
  | error e' =>
    rw [hf] at h
    cases h
    exact id
  | ok n =>
    rw [hf] at h
    have hcheck : a.check k n = .error e := h
    unfold DrawingArg.check at hcheck
    split at hcheck
    · cases hcheck
    · cases hcheck
      exact id

theorem Drawing.stroke_error {d : Drawing} {s : Store} {filled : Bool} {e : CommandError}
    (h : d.stroke s filled = .error e) : ¬ e.OfControl := by
  unfold Drawing.stroke at h
  split at h
  · rename_i formula
    cases hf : Formula.evaluate s formula with
    | error e' =>
      rw [Drawing.inscribe, hf] at h
      cases h
      exact id
    | ok v =>
      rw [Drawing.inscribe, hf] at h
      cases h
  · cases hargs : d.argValues s with
    | error e' =>
      rw [hargs] at h
      cases h
      obtain ⟨⟨a, formula⟩, -, ha⟩ := Attempt.exists_of_mapM_eq_error hargs
      exact DrawingArg.compute_error ha
    | ok values =>
      rw [hargs] at h
      cases h

theorem Drawing.execute_fails (d : Drawing) : d.execute.FailsOnValues := by
  intro m e m' h
  rw [EStateM.run, Drawing.execute.eq_def] at h
  cases hs : d.stroke m.store m.fill with
  | ok made => rw [hs] at h; cases h
  | error e' =>
    rw [hs] at h
    cases h
    exact Drawing.stroke_error hs

theorem CountedLoop.head_fails (l : CountedLoop) (cached : Option LoopBounds) :
    (l.head cached).FailsOnValues := by
  cases cached with
  | some bounds => exact .bind (.ask (fun _ => id) _) fun _ => .pure _
  | none => exact l.enter_fails

theorem CountedLoop.forward_fails (l : CountedLoop) (bounds : LoopBounds) :
    (l.forward bounds).FailsOnValues :=
  .bind (.ask (fun _ => id) _) fun _ => .bind (.convert (fun _ => id) _) fun _ =>
    .update (fun _ => id) _

namespace Command

variable {code : List CodeLine} {c : Command} {m m' : Machine} {e : CommandError}

theorem fails_of_work? {x : Exec Unit} (h : c.work? = some x) : x.FailsOnValues := by
  cases c with
  | declare d => cases h; exact d.execute_fails
  | array d => cases h; exact d.execute_fails
  | peek p => cases h; exact p.execute_fails
  | poke p => cases h; exact p.execute_fails
  | draw d => cases h; exact d.execute_fails
  | _ => cases h

theorem work_error {x : Exec Unit} (hx : c.work? = some x)
    (h : (c.execute code m.pc).run m = .error e m') : ¬ e.OfControl := by
  rw [execute_of_work? hx] at h
  exact (Exec.Fails.bind (fails_of_work? hx) fun _ => .pure _) m e m' h

theorem Gives.not_error {flow : Flow} {v : View} (hg : c.Gives code m.view flow v) :
    (c.execute code m.pc).run m ≠ .error e m' := by
  intro h
  obtain ⟨m₁, hrun, -⟩ := hg m rfl
  rw [Machine.view_pc, h] at hrun
  cases hrun

theorem countTo_error {l : CountedLoop} {mid : Option Nat} {stop : Nat}
    (hs : Spans code .forLoop m.pc mid stop)
    (h : (execute (.countTo l) code m.pc).run m = .error e m') : ¬ e.OfControl := by
  rw [execute, l.run_execute] at h
  refine (Exec.Fails.bind (l.head_fails _) fun r => ?_) m e m' h
  unfold CountedLoop.test
  rw [hs.findEnd_eq]
  refine .bind (.convert (fun _ => id) _) fun more => ?_
  cases more with
  | true => exact fun m e m' h => by cases h
  | false => exact fun m e m' h => by cases h

theorem endFor_error {l : CountedLoop} {p : Nat} {mid : Option Nat}
    (hs : Spans code .forLoop p mid m.pc) (hl : commandAt code p = some (.countTo l))
    (h : (execute .endFor code m.pc).run m = .error e m') :
    ¬ e.OfControl ∨ m.loops[p]? = none ∧ e = .notRunning l.var := by
  rw [run_endFor hs hl] at h
  rcases Attempt.run_bind_eq_error.1 h with h | ⟨a, m₁, -, h⟩
  · rw [l.run_advance, Machine.view_loops] at h
    cases hb : m.loops[p]? with
    | none =>
      rw [hb] at h
      cases h
      exact .inr ⟨rfl, rfl⟩
    | some bounds =>
      rw [hb] at h
      exact .inl (l.forward_fails bounds m e m' h)
  · cases h

section Nested

variable {t : BlockTree} (hn : Nested code t)
  (hcalls : ∀ p name, commandAt code p = some (.call name) → (findMethod? code name).isSome)
include hn hcalls

/-- In well nested code where every call names a declared method, only the commands that work on the
scene and the two ends of counted loops can fail. -/
theorem cases_of_error (hc : commandAt code m.pc = some c)
    (h : (c.execute code m.pc).run m = .error e m') :
    (∃ x, c.work? = some x) ∨
      (∃ l mid stop, c = .countTo l ∧ Spans code .forLoop m.pc mid stop) ∨
      ∃ l p mid, c = .endFor ∧ Spans code .forLoop p mid m.pc ∧
        commandAt code p = some (.countTo l) := by
  cases c with
  | declare d => exact .inl ⟨_, rfl⟩
  | array d => exact .inl ⟨_, rfl⟩
  | peek p => exact .inl ⟨_, rfl⟩
  | poke p => exact .inl ⟨_, rfl⟩
  | draw d => exact .inl ⟨_, rfl⟩
  | call name =>
    obtain ⟨header, hh⟩ := Option.isSome_iff_exists.1 (hcalls _ _ hc)
    exact absurd h (gives_call hh).not_error
  | ifThen g =>
    obtain ⟨mid, stop, hs⟩ := hn.exists_spans_of_start hc rfl
    cases hg : Formula.condition m.scene.store g with
    | true => exact absurd h (Gives.not_error (gives_ifThen hg))
    | false => exact absurd h (Gives.not_error (gives_ifThen_skip hg hs))
  | orElse =>
    obtain ⟨p, stop, hs⟩ := hn.exists_spans_of_middle hc rfl
    exact absurd h (Gives.not_error (gives_orElse hs))
  | endIf => exact absurd h (Gives.not_error gives_endIf)
  | whileDo g =>
    obtain ⟨mid, stop, hs⟩ := hn.exists_spans_of_start hc rfl
    cases hg : Formula.condition m.scene.store g with
    | true => exact absurd h (Gives.not_error (gives_whileDo hg))
    | false => exact absurd h (Gives.not_error (gives_whileDo_skip hg hs))
  | endWhile =>
    obtain ⟨p, mid, hs⟩ := hn.exists_spans_of_stop hc rfl
    exact absurd h (Gives.not_error (gives_endWhile hs))
  | countTo l =>
    obtain ⟨mid, stop, hs⟩ := hn.exists_spans_of_start hc rfl
    exact .inr (.inl ⟨l, mid, stop, rfl, hs⟩)
  | endFor =>
    obtain ⟨p, mid, hs⟩ := hn.exists_spans_of_stop hc rfl
    obtain ⟨l, hl⟩ := hs.countTo_command
    exact .inr (.inr ⟨l, p, mid, rfl, hs, hl⟩)
  | method name =>
    obtain ⟨mid, stop, hs⟩ := hn.exists_spans_of_start hc rfl
    exact absurd h (Gives.not_error (gives_method hs))
  | endMethod =>
    cases hm : m.calls with
    | nil => exact absurd h (Gives.not_error (gives_endMethod hm))
    | cons site rest => exact absurd h (Gives.not_error (gives_endMethod_back hm))

/-- In well nested code where every call names a declared method, a command fails over values, or
is the end of a loop that does not run. -/
theorem execute_error (hc : commandAt code m.pc = some c)
    (h : (c.execute code m.pc).run m = .error e m') :
    ¬ e.OfControl ∨ ∃ p mid l, Spans code .forLoop p mid m.pc ∧
      commandAt code p = some (.countTo l) ∧ m.loops[p]? = none ∧ e = .notRunning l.var := by
  rcases cases_of_error hn hcalls hc h with
    ⟨x, hx⟩ | ⟨l, mid, stop, rfl, hs⟩ | ⟨l, p, mid, rfl, hs, hl⟩
  · exact .inl (work_error hx h)
  · exact .inl (countTo_error hs h)
  · exact (endFor_error hs hl h).imp_right fun ⟨hgone, he⟩ => ⟨p, mid, l, hs, hl, hgone, he⟩

end Nested

end Command

end PenScript
