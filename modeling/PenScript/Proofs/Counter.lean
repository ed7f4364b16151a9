import PenScript.Proofs.History
import PenScript.Proofs.Limit

/-!
# The counter stays in the code and tells where a run stopped

* `Machine.Tries.pc_le`, `Machine.Passes.pc_le` : in any code, no command takes the counter past the
  end;
* `Program.InCode p` : the counter is at a command of the program or right behind the last one;
* `Session.inCode_perform`, `Session.inCode_afterAll` : nothing that can be done with a session takes
  the counter out of the code;
* `Program.Stops p` : where the counter is when a run has stopped, for each way to stop;
* `Session.counter_afterAll` : the main result.
-/

namespace PenScript

open Attempt (final)

/-! ## Commands -/

namespace Machine

variable {code : List CodeLine} {m m' : Machine} {c : CodeLine} {n : Nat}

theorem pc_moveTo_le {size : Nat} (h : m.pc < size) (flow : Flow) :
    (m.moveTo size flow).pc ≤ size := by
  cases flow with
  | next => exact h
  | goto target => exact Nat.min_le_right target size

/-- The step: a command leaves the counter in the code. -/
theorem Tries.pc_le (h : Tries code m m') : m'.pc ≤ code.length := by
  obtain ⟨c, hc, hstep⟩ := h
  have hlt : m.pc < code.length := (List.getElem?_eq_some_iff.1 hc).1
  rcases hstep with hok | ⟨e, herror⟩
  · obtain ⟨flow, m₁, hexec, rfl⟩ := execute_of_step hok
    have hpc : m₁.pc = (m.noteExecute c).pc := (c.command.execute_pc code m.pc).ok hexec
    have hlt₁ : m₁.pc < code.length := by rw [hpc]; exact hlt
    exact pc_moveTo_le hlt₁ flow
  · rw [pc_of_step_error herror]
    exact Nat.le_of_lt hlt

/-- The run: the counter stays in the code. -/
theorem Passes.pc_le (h : Passes code m) : m.pc ≤ code.length := by
  obtain ⟨n, hn⟩ := h
  exact hn.induct (P := fun m => m.pc ≤ code.length) (fun _ hs => hs.pc_le) (Nat.zero_le _)

theorem run_ne_notParsed (limit : Nat) : ∀ (budget : Nat) (m m' : Machine),
    run code limit budget m ≠ .error .notParsed m' := by
  intro budget
  induction budget with
  | zero =>
    intro m m' h
    cases hc : code[m.pc]? with
    | none => rw [run_of_none _ _ hc] at h; cases h
    | some c => rw [run_zero _ hc] at h; cases h
  | succ budget ih =>
    intro m m' h
    cases hc : code[m.pc]? with
    | none => rw [run_of_none _ _ hc] at h; cases h
    | some c =>
      rw [run_succ _ _ hc] at h
      cases hstep : step code c m with
      | ok a m₁ => rw [hstep] at h; exact ih m₁ m' h
      | error e m₁ => rw [hstep] at h; cases h

end Machine

/-! ## Runs of a program -/

namespace Program

variable {p : Program}

/-- The counter is at a command, or right behind the last one. -/
def InCode (p : Program) : Prop := p.pc ≤ p.size

theorem run_code (p : Program) : p.run.program.code = p.code := by
  obtain ⟨m, hm⟩ := p.run_program
  rw [hm]
  rfl

theorem run_of_not_parsed (hp : p.parsed = false) :
    p.run = { result := .error .notParsed, strokes := [], log := [], program := p } := by
  rw [run, if_neg (by simp [hp])]

theorem inCode_jump (p : Program) (target : Nat) : (p.jump target).InCode :=
  Nat.min_le_right target p.code.length

theorem InCode.push (h : p.InCode) (c : CodeLine) : (p.push c).InCode := by
  have hsize : (p.push c).size = p.size + 1 := List.length_append
  have hpc : (p.push c).pc = p.pc := rfl
  unfold InCode at h ⊢
  omega

theorem run_pc_le (hp : p.parsed = true) : p.run.program.pc ≤ p.size :=
  (passes_run hp).pc_le

theorem InCode.run (h : p.InCode) : p.run.program.InCode := by
  cases hp : p.parsed with
  | true =>
    unfold InCode size
    rw [run_code]
    exact run_pc_le hp
  | false =>
    rw [run_of_not_parsed hp]
    exact h

/-- A run is refused exactly if the program was not parsed. -/
theorem run_eq_notParsed_iff : p.run.result = .error .notParsed ↔ p.parsed = false := by
  constructor
  · intro h
    cases hp : p.parsed with
    | true => exact absurd ((run_eq_error_iff hp).1 ⟨h, rfl⟩) (Machine.run_ne_notParsed _ _ _ _)
    | false => rfl
  · intro hp
    rw [run_of_not_parsed hp]

/-- A result other than a refusal comes from a program that was parsed. -/
theorem parsed_of_result {r : Except RunError Nat} (h : p.run.result = r)
    (hr : r ≠ .error .notParsed) : p.parsed = true := by
  by_contra hp
  exact hr (h ▸ run_eq_notParsed_iff.2 (by simpa using hp))

/-- Where the counter is when a run has stopped. -/
structure Stops (p : Program) : Prop where
  code : p.run.program.code = p.code
  /-- A run that completes has come to the end of the code. -/
  completed : ∀ {n : Nat}, p.run.result = .ok n → p.run.program.pc = p.size
  /-- A run that fails stops at the command that failed. -/
  failed : ∀ {pos line : Nat} {cause : CommandError},
    p.run.result = .error (.failed pos line cause) →
    p.run.program.pc = pos ∧ pos < p.size ∧ ∃ c, p.code[pos]? = some c ∧ c.line = line
  /-- A run that is cut off stops at the command that it does not come to. -/
  cutOff : ∀ {limit pos : Nat}, p.run.result = .error (.limitExceeded limit pos) →
    p.run.program.pc = pos ∧ pos < p.size ∧ limit = p.limit
  /-- A program that may not run stays as it was, and nothing is drawn or noted. -/
  refused : (p.run.result = .error .notParsed ↔ p.parsed = false) ∧
    (p.run.result = .error .notParsed →
      p.run.program = p ∧ p.run.strokes = [] ∧ p.run.log = [])

theorem pc_of_completed {n : Nat} (h : p.run.result = .ok n) : p.run.program.pc = p.size := by
  have hp : p.parsed = true := parsed_of_result h (by simp)
  obtain ⟨-, -, hout⟩ := (run_eq_ok hp).1 ⟨h, rfl⟩
  have hge : p.size ≤ p.run.program.pc := List.getElem?_eq_none_iff.1 hout
  exact Nat.le_antisymm (run_pc_le hp) hge

theorem pc_of_failed {pos line : Nat} {cause : CommandError}
    (h : p.run.result = .error (.failed pos line cause)) :
    p.run.program.pc = pos ∧ pos < p.size ∧ ∃ c, p.code[pos]? = some c ∧ c.line = line := by
  have hp : p.parsed = true := parsed_of_result h (by simp)
  obtain ⟨m, c, -, hc, rfl, hline, hstep⟩ := run_failed hp h
  exact ⟨Machine.pc_of_step_error hstep, (List.getElem?_eq_some_iff.1 hc).1, c, hc, hline⟩

theorem pc_of_cutOff {limit pos : Nat} (h : p.run.result = .error (.limitExceeded limit pos)) :
    p.run.program.pc = pos ∧ pos < p.size ∧ limit = p.limit := by
  have hp : p.parsed = true := parsed_of_result h (by simp)
  have hrun := (run_eq_error_iff hp).1 ⟨h, rfl⟩
  obtain ⟨hlimit, -, hpc, hlt⟩ := Machine.run_eq_limitExceeded.1 hrun
  exact ⟨hpc, hlt, hlimit⟩

theorem stops (p : Program) : p.Stops where
  code := p.run_code
  completed := pc_of_completed
  failed := pc_of_failed
  cutOff := pc_of_cutOff
  refused := by
    refine ⟨run_eq_notParsed_iff, fun h => ?_⟩
    rw [run_of_not_parsed (run_eq_notParsed_iff.1 h)]
    exact ⟨rfl, rfl, rfl⟩

end Program

/-! ## Histories -/

namespace Session

theorem inCode_prepare {s : Session} (h : s.program.InCode) (c : Command) :
    (final ((prepare c).run s)).program.InCode := by
  rw [run_prepare]
  cases c.prepare.run s.program.store <;> exact h

theorem inCode_readLine {s : Session} (h : s.program.InCode) (text : String) (line : Nat) :
    (final ((readLine text line).run s)).program.InCode := by
  cases hread : (readLine text line).run s with
  | ok r s' =>
    rcases readLine_eq_ok.1 hread with
      ⟨-, -, rfl⟩ | ⟨l, req, c, store, books, -, -, -, -, -, -, rfl⟩
    · exact h
    · have hstore : (s.program.setStore store).InCode := h
      exact hstore.push _
  | error e s' =>
    have hs : s' = s := readLine_atomic _ _ _ _ _ hread
    rw [hs]
    exact h

theorem inCode_readScript (source : String) (s : Session) :
    (final ((readScript source).run s)).program.InCode := by
  have hreset : s.reset.program.InCode := Nat.le_refl 0
  have hread := readLines_induct (P := fun s => s.program.InCode)
    (fun text line _ h => inCode_readLine h text line) (Text.lines source.toList) 0 hreset
  rw [run_readScript]
  dsimp only
  split <;> exact hread

/-- The step: no action takes the counter out of the code. -/
theorem inCode_perform {s : Session} (h : s.program.InCode) (a : Action) :
    (a.perform s).program.InCode := by
  cases a with
  | readLine text line => exact inCode_readLine h text line
  | readScript source => exact inCode_readScript source s
  | push c => exact h.push c
  | announce c => exact inCode_prepare h c
  | jump target => exact s.program.inCode_jump target
  | advance => exact s.program.inCode_jump _
  | reset => exact Nat.le_refl 0
  | run => exact h.run
  | update u => exact h
  | markParsed => exact h
  | setLimit limit => exact h

/-- The history: the counter is in the code. -/
theorem inCode_afterAll (history : List Action) {s : Session} (h : s.program.InCode) :
    (afterAll history s).program.InCode := by
  induction history generalizing s with
  | nil => exact h
  | cons a history ih => exact ih (inCode_perform h a)

/-- The counter of a session is always in the code, and a run leaves it where its result says: at
the end, at the command that failed or at the next one. -/
theorem counter_afterAll (history : List Action) :
    (afterAll history {}).program.pc ≤ (afterAll history {}).program.size ∧
      (afterAll history {}).program.Stops :=
  ⟨inCode_afterAll history (Nat.le_refl 0), Program.stops _⟩

/-- A loop without a start: the run fails where it stands, and a jump past the end is cut short. -/
example :
    let s := afterAll [.push ⟨.draw .clear, 3, "clear"⟩, .push ⟨.endWhile, 4, "end-while"⟩,
      .jump 9, .markParsed] {}
    s.program.pc = 2 ∧ s.program.run.program.pc = 1 ∧ s.program.stopsAt 1 = true := by
  decide +kernel

end Session

end PenScript
