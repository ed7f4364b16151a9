import PenScript.Proofs.Accepted
import PenScript.Proofs.Failure
import PenScript.Proofs.Writes

/-!
# A command that fails leaves the machine as it was

* `Command.atomic_of_work?` : commands on variables and the drawing write last;
* `CountedLoop.exists_goesOn` : a loop that has been entered can be tested, so that nothing fails
  once its variable is bound;
* `Command.execute_atomic` : in well nested code, no command that fails has changed anything;
* `Session.Accepted.failsCleanly` : the main result.
-/

namespace PenScript

open Attempt (Reads Atomic)

/-! ## Commands on variables and the drawing -/

theorem Declaration.execute_atomic (d : Declaration) : Atomic d.execute := by
  have hwrite : ∀ v, Atomic (if d.update then Exec.update (Store.assign d.name v)
      else Exec.update (Store.declare d.name v)) := by
    intro v
    split
    · exact Exec.atomic_update (Store.assign_atomic d.name v)
    · exact Exec.atomic_update (Store.declare_atomic d.name v)
  unfold Declaration.execute
  dsimp only
  split
  · exact .bind (Exec.asks_compute _).reads hwrite
  · exact .bind (.pure _) hwrite

theorem ArrayDeclaration.execute_atomic (d : ArrayDeclaration) : Atomic d.execute :=
  .bind (Exec.asks_compute _).reads fun _ => .bind (Exec.asks_convert _).reads fun _ =>
    Exec.atomic_update (Store.declare_atomic _ _)

theorem Peek.execute_atomic (p : Peek) : Atomic p.execute := by
  refine .bind (Exec.asks_compute _).reads fun i => .bind (Exec.asks_ask _).reads fun v =>
    .bind .get fun m => ?_
  cases m.store.get? p.dest with
  | some old =>
    exact .bind (Exec.asks_ask _).reads fun w => Exec.atomic_update (Store.assign_atomic p.dest w)
  | none => exact Exec.atomic_update (Store.declare_atomic p.dest v)

theorem Poke.execute_atomic (p : Poke) : Atomic p.execute := by
  refine .bind (Exec.asks_compute _).reads fun i => .bind (Exec.asks_ask _).reads fun elem => ?_
  cases elem with
  | real | int =>
    exact .bind (Exec.asks_compute _).reads fun v => Exec.atomic_update (Store.poke_atomic p.array i v)

theorem Drawing.execute_atomic (d : Drawing) : Atomic d.execute := by
  intro m e m' h
  rw [EStateM.run, Drawing.execute.eq_def] at h
  split at h <;> cases h
  rfl

theorem Command.atomic_of_work? {c : Command} {x : Exec Unit} (h : c.work? = some x) :
    Atomic x := by
  cases c with
  | declare d => cases h; exact d.execute_atomic
  | array d => cases h; exact d.execute_atomic
  | peek p => cases h; exact p.execute_atomic
  | poke p => cases h; exact p.execute_atomic
  | draw d => cases h; exact d.execute_atomic
  | _ => cases h

/-! ## Counted loops -/

namespace CountedLoop

/-- Numbers of one type can be compared. -/
theorem exists_goesOn {v : Value} {b : LoopBounds} {t : VarType} (ht : t.IsNumber)
    (hv : v.type = t) (hstop : b.stop.type = t) (hstep : b.step.type = t) :
    ∃ more, goesOn v b = .ok more := by
  obtain ⟨stop, step⟩ := b
  rcases ht with rfl | rfl
  · cases v <;> cases hv
    cases stop <;> cases hstop
    cases step <;> cases hstep
    exact ⟨_, rfl⟩
  · cases v <;> cases hv
    cases stop <;> cases hstop
    cases step <;> cases hstep
    rename_i x y z
    by_cases hordered : (x < y || x == y || x > y) = true
    · exact ⟨_, if_pos hordered⟩
    · exact ⟨_, if_neg hordered⟩

theorem stride_reads (l : CountedLoop) (t : VarType) : Reads (l.stride t) := by
  unfold stride
  split
  · exact (Exec.asks_compute _).reads
  · exact (Exec.asks_convert _).reads

theorem settle_atomic (l : CountedLoop) (start stop step : Value) :
    Atomic (l.settle start stop step) := by
  refine .bind (Exec.asks_convert _).reads fun zero => ?_
  cases zero with
  | true =>
    exact .bind (.throw _) fun _ => (Exec.atomic_update (Store.declare_atomic _ _)).bind_pure _
  | false => exact (Exec.atomic_update (Store.declare_atomic _ _)).bind_pure _

theorem enter_atomic (l : CountedLoop) : Atomic l.enter := by
  rw [enter_eq]
  exact .bind .get fun m => .bind (Exec.asks_compute _).reads fun start =>
    .bind (Exec.asks_compute _).reads fun stop => .bind (l.stride_reads _) fun step =>
      l.settle_atomic start stop step

theorem head_atomic (l : CountedLoop) (cached : Option LoopBounds) : Atomic (l.head cached) := by
  cases cached with
  | some bounds => exact (Reads.bind (Exec.asks_ask _).reads fun _ => .pure _).atomic
  | none => exact l.enter_atomic

theorem forward_atomic (l : CountedLoop) (b : LoopBounds) : Atomic (l.forward b) :=
  .bind (Exec.asks_ask _).reads fun _ => .bind (Exec.asks_convert _).reads fun _ =>
    Exec.atomic_update (Store.assign_atomic _ _)

variable {l : CountedLoop} {code : List CodeLine} {pos : Nat} {m m' : Machine} {e : CommandError}

/-- The test of a loop that has its end fails only over the comparison, and then has changed
nothing. -/
theorem test_error {v : Value} {b : LoopBounds} {mid : Option Nat} {stop : Nat}
    (hs : Spans code .forLoop pos mid stop) (h : (l.test code pos v b).run m = .error e m') :
    m' = m ∧ ∀ more, goesOn v b ≠ .ok more := by
  unfold test at h
  rw [hs.findEnd_eq] at h
  cases hg : goesOn v b with
  | error err =>
    rw [hg] at h
    cases h
    exact ⟨rfl, fun more hmore => by cases hmore⟩
  | ok more =>
    rw [hg] at h
    cases more <;> cases h

/-- A loop with bounds at hand writes nothing before its test, and one that is entered does not fail
in it. -/
theorem execute_atomic {mid : Option Nat} {stop : Nat} (hs : Spans code .forLoop pos mid stop)
    (h : (l.execute code pos).run m = .error e m') : m' = m := by
  rw [l.run_execute] at h
  rcases Attempt.run_bind_eq_error.1 h with hhead | ⟨⟨v, b⟩, m₁, hhead, htest⟩
  · exact l.head_atomic _ _ _ _ hhead
  · obtain ⟨rfl, hgoesOn⟩ := test_error hs htest
    cases hloop : m.view.loops pos with
    | some bounds =>
      rw [hloop] at hhead
      exact (Reads.bind (Exec.asks_ask _).reads fun _ => .pure _).ok hhead
    | none =>
      rw [hloop] at hhead
      obtain ⟨hv, hstop, hstep, -⟩ := enter_ok hhead
      obtain ⟨more, hmore⟩ := exists_goesOn (l.type_isNumber m.store) hv hstop hstep
      exact absurd hmore (hgoesOn more)

theorem advance_atomic (l : CountedLoop) (start : Nat) : Atomic (l.advance start) := by
  intro m e m' h
  rw [l.run_advance] at h
  split at h
  · cases h
    rfl
  · exact l.forward_atomic _ _ _ _ h

end CountedLoop

/-! ## All commands -/

/-- In well nested code where every call names a declared method, a command that fails leaves the
machine as it was. -/
theorem Command.execute_atomic {code : List CodeLine} {t : BlockTree} (hn : Nested code t)
    (hcalls : ∀ p name, commandAt code p = some (.call name) → (findMethod? code name).isSome)
    {c : Command} {m m' : Machine} {e : CommandError} (hc : commandAt code m.pc = some c)
    (h : (c.execute code m.pc).run m = .error e m') : m' = m := by
  rcases cases_of_error hn hcalls hc h with
    ⟨x, hx⟩ | ⟨l, mid, stop, rfl, hs⟩ | ⟨l, p, mid, rfl, hs, hl⟩
  · rw [execute_of_work? hx] at h
    exact (atomic_of_work? hx).bind_pure _ _ _ _ h
  · exact CountedLoop.execute_atomic hs h
  · rw [run_endFor hs hl] at h
    exact (l.advance_atomic p).bind_pure _ _ _ _ h

/-! ## The main result -/

/-- A command that fails changes nothing. -/
structure FailsCleanly (p : Program) : Prop where
  /-- A command that fails leaves every machine as it was: the variables, the calls, the fill flag,
  the drawing, the counter, the bounds of the loops and the log. -/
  command : ∀ {m m' : Machine} {c : CodeLine} {e : CommandError}, p.code[m.pc]? = some c →
    (c.command.execute p.code m.pc).run m = .error e m' → m' = m
  /-- A run that fails at a command stops in the state in which it came to it, but for the entry of
  that command in the log. -/
  run : ∀ {limit pos line : Nat} {cause : CommandError},
    (p.setLimit limit).run.result = .error (.failed pos line cause) →
    ∃ m c, Machine.Reached p.code m ∧ m.pc = pos ∧ p.code[pos]? = some c ∧
      (p.setLimit limit).run.program.machine = m.noteExecute c

/-- In an accepted script, a command that fails changes nothing. -/
theorem Session.Accepted.failsCleanly {source : String} {s₀ s : Session}
    (h : Accepted source s₀ s) : FailsCleanly s.program := by
  obtain ⟨t, hn, -⟩ := h.exists_tree
  have hcommand : ∀ {m m' : Machine} {c : CodeLine} {e : CommandError},
      s.program.code[m.pc]? = some c →
      (c.command.execute s.program.code m.pc).run m = .error e m' → m' = m := by
    intro m m' c e hc he
    exact Command.execute_atomic hn (fun _ _ hp => h.call_declared hp)
      (commandAt_eq_some.2 ⟨c, hc, rfl⟩) he
  refine ⟨hcommand, ?_⟩
  intro limit pos line cause hrun
  have hparsed : (s.program.setLimit limit).parsed = true := h.parsed_eq_true
  obtain ⟨m, c, hm, hc, rfl, -, hstep⟩ := Program.run_failed hparsed hrun
  have hexec := Machine.execute_of_step_error hstep
  exact ⟨m, c, hm, rfl, hc, hcommand (m := m.noteExecute c) hc hexec⟩

/-- A loop whose step turns out to be zero. -/
def Session.zeroStep : String := "int n = 0\nfor i = 1 to 3 step n\nclear\nend for"

/-- The run fails at the position. -/
def Program.stopsAt (p : Program) (pos : Nat) : Bool :=
  match p.run.result with
  | .error (.failed found _ _) => found == pos
  | _ => false

theorem Session.failsCleanly_zeroStep : ∃ s, Accepted zeroStep {} s ∧
    (s.program.setLimit 9).stopsAt 1 = true ∧ FailsCleanly s.program := by
  obtain ⟨s, hs, hrun⟩ := exists_accepted zeroStep (fun p => (p.setLimit 9).stopsAt 1)
    (by decide +kernel)
  exact ⟨s, hs, hrun, hs.failsCleanly⟩

end PenScript
