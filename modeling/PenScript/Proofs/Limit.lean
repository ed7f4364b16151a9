import PenScript.Proofs.Drawing

/-!
# The limit cuts runs off and does nothing else

* `Machine.strokes_prefix` : along a run, the drawing only grows;
* `Machine.run_of_steps` : a run goes on from the states that it passes;
* `Machine.run_eq_limitExceeded` : a run is cut off exactly if as many commands succeed as it may
  execute, and another one follows;
* `Program.limit_cutsOff` : the main result.
-/

namespace PenScript

/-! ## The drawing -/

namespace Machine

variable {code : List CodeLine} {m m₁ m' : Machine} {n : Nat}

/-- The step: a command adds to the drawing, if it changes it at all. -/
theorem Tries.strokes_prefix (h : Tries code m m') : m.strokes.toList <+: m'.strokes.toList := by
  obtain ⟨l, hl, hok | ⟨e, herror⟩⟩ := h
  · obtain ⟨made, -, hstrokes, -⟩ := makes_of_step hok
    rw [hstrokes]
    exact List.prefix_append _ _
  · have hsame := (canvas_of_step_error herror).1
    simp [hsame]

/-- The run: the drawing only grows. -/
theorem strokes_prefix (h : Steps (Tries code) n m m') :
    m.strokes.toList <+: m'.strokes.toList := by
  induction h with
  | refl m => exact List.prefix_rfl
  | cons h hs ih => exact h.strokes_prefix.trans ih

/-! ## Runs with more and with less budget -/

/-- A run goes on from the states that it passes. -/
theorem run_of_steps (limit budget : Nat) (h : Steps (Step code) n m m') :
    run code limit (n + budget) m = run code limit budget m' := by
  induction h with
  | refl m => rw [Nat.zero_add]
  | @cons n m m₁ m' h hs ih =>
    obtain ⟨c, hc, hstep⟩ := h
    rw [Nat.add_right_comm, run_succ _ _ hc, hstep]
    exact ih

/-- A run is cut off exactly if its whole budget is spent and there is a command to come. -/
theorem run_eq_limitExceeded {limit l pos : Nat} : ∀ {budget : Nat} {m : Machine},
    run code limit budget m = .error (.limitExceeded l pos) m' ↔
      l = limit ∧ Steps (Step code) budget m m' ∧ m'.pc = pos ∧ pos < code.length := by
  intro budget
  induction budget with
  | zero =>
    intro m
    rw [Steps.zero_iff]
    cases hc : code[m.pc]? with
    | none =>
      rw [run_of_none _ _ hc]
      constructor
      · intro h
        cases h
      · rintro ⟨-, rfl, rfl, hlt⟩
        rw [List.getElem?_eq_none_iff] at hc
        omega
    | some c =>
      rw [run_zero _ hc]
      have hlt : m.pc < code.length := (List.getElem?_eq_some_iff.1 hc).1
      constructor
      · intro h
        cases h
        exact ⟨rfl, rfl, rfl, hlt⟩
      · rintro ⟨rfl, rfl, rfl, -⟩
        rfl
  | succ budget ih =>
    intro m
    cases hc : code[m.pc]? with
    | none =>
      rw [run_of_none _ _ hc]
      constructor
      · intro h
        cases h
      · rintro ⟨-, hs, -⟩
        exact absurd (hs.eq_zero (not_step_of_none hc)).1 (Nat.succ_ne_zero budget)
    | some c =>
      rw [run_succ _ _ hc]
      cases hstep : step code c m with
      | ok a m₁ =>
        rw [ih]
        have hfirst : Step code m m₁ := ⟨c, hc, hstep⟩
        constructor
        · rintro ⟨hl, hs, hrest⟩
          exact ⟨hl, .cons hfirst hs, hrest⟩
        · rintro ⟨hl, hs, hrest⟩
          cases hs with
          | cons h hs =>
            obtain rfl := hfirst.unique h
            exact ⟨hl, hs, hrest⟩
      | error e m₁ =>
        constructor
        · intro h
          cases h
        · rintro ⟨-, hs, -⟩
          cases hs with
          | cons h hs =>
            obtain ⟨c', hc', h'⟩ := h
            cases hc.symm.trans hc'
            rw [hstep] at h'
            cases h'

/-- A run that fails at a command fails there with a larger limit as well. -/
theorem run_failed_of_le {limit limit' pos line : Nat} {e : CommandError} (hle : limit ≤ limit')
    (h : run code limit limit m = .error (.failed pos line e) m') :
    run code limit' limit' m = .error (.failed pos line e) m' := by
  obtain ⟨k, hk, m₁, c, hs, hc, rfl, rfl, hstep⟩ := run_failed limit limit m h
  obtain ⟨rest, hrest⟩ : ∃ rest, limit' = k + (rest + 1) := ⟨limit' - k - 1, by omega⟩
  have hgoesOn : run code limit' limit' m = run code limit' (rest + 1) m₁ := by
    rw [hrest]
    exact run_of_steps _ _ hs
  rw [hgoesOn, run_succ _ _ hc, hstep]

end Machine

namespace Program

variable {p : Program} {limit limit' : Nat}

/-- A run that was not cut off is the same under a larger limit, but for that limit. -/
theorem run_setLimit_of_ok (hp : p.parsed = true) (hle : limit ≤ limit') {n : Nat}
    (h : (p.setLimit limit).run.result = .ok n) :
    n ≤ limit ∧ (p.setLimit limit').run = { (p.setLimit limit).run with
      program := (p.setLimit limit).run.program.setLimit limit' } := by
  have hp₁ : (p.setLimit limit).parsed = true := hp
  have hp₂ : (p.setLimit limit').parsed = true := hp
  have hrun := (run_eq_ok_iff hp₁).1 ⟨h, rfl⟩
  obtain ⟨hn, hs, hout⟩ := Machine.run_limit_eq_ok.1 hrun
  have hrun' : Machine.run (p.setLimit limit').code (p.setLimit limit').limit
      (p.setLimit limit').limit {} = .ok n (p.setLimit limit).run.program.machine :=
    Machine.run_limit_eq_ok.2 ⟨Nat.le_trans hn hle, hs, hout⟩
  refine ⟨hn, ?_⟩
  rw [run_of_ok hp₂ hrun', run_of_ok hp₁ hrun]
  rfl

theorem run_setLimit_of_failed (hp : p.parsed = true) (hle : limit ≤ limit') {pos line : Nat}
    {e : CommandError} (h : (p.setLimit limit).run.result = .error (.failed pos line e)) :
    (p.setLimit limit').run = { (p.setLimit limit).run with
      program := (p.setLimit limit).run.program.setLimit limit' } := by
  have hp₁ : (p.setLimit limit).parsed = true := hp
  have hp₂ : (p.setLimit limit').parsed = true := hp
  have hrun := (run_eq_error_iff hp₁).1 ⟨h, rfl⟩
  have hrun' : Machine.run (p.setLimit limit').code (p.setLimit limit').limit
      (p.setLimit limit').limit {} = .error (.failed pos line e)
        (p.setLimit limit).run.program.machine := Machine.run_failed_of_le hle hrun
  rw [run_of_error hp₂ hrun', run_of_error hp₁ hrun]
  rfl

theorem run_strokes (hp : p.parsed = true) : p.run.strokes = p.run.program.machine.strokes.toList := by
  cases h : Machine.run p.code p.limit p.limit {} with
  | ok n m => rw [run_of_ok hp h]; rfl
  | error e m => rw [run_of_error hp h]; rfl

/-- A run that is cut off has spent its limit, and a run with a larger one goes on from there. -/
theorem run_setLimit_of_limitExceeded (hp : p.parsed = true) (hle : limit ≤ limit') {l pos : Nat}
    (h : (p.setLimit limit).run.result = .error (.limitExceeded l pos)) :
    l = limit ∧ Steps (Machine.Step p.code) limit {} (p.setLimit limit).run.program.machine ∧
      (p.setLimit limit).run.program.pc = pos ∧ pos < p.code.length ∧
      Machine.run p.code limit' limit' {} =
        Machine.run p.code limit' (limit' - limit) (p.setLimit limit).run.program.machine := by
  have hp₁ : (p.setLimit limit).parsed = true := hp
  have hrun := (run_eq_error_iff hp₁).1 ⟨h, rfl⟩
  obtain ⟨hl, hs, hpc, hlt⟩ := Machine.run_eq_limitExceeded.1 hrun
  refine ⟨hl, hs, hpc, hlt, ?_⟩
  have hsum : limit' = limit + (limit' - limit) := by omega
  calc Machine.run p.code limit' limit' {}
      = Machine.run p.code limit' (limit + (limit' - limit)) {} := by rw [← hsum]
    _ = Machine.run p.code limit' (limit' - limit) (p.setLimit limit).run.program.machine :=
        Machine.run_of_steps _ _ hs

/-- What a run draws before it is cut off comes first in a longer run. -/
theorem strokes_prefix_of_limitExceeded (hp : p.parsed = true) (hle : limit ≤ limit') {l pos : Nat}
    (h : (p.setLimit limit).run.result = .error (.limitExceeded l pos)) :
    (p.setLimit limit).run.strokes <+: (p.setLimit limit').run.strokes := by
  have hp₁ : (p.setLimit limit).parsed = true := hp
  have hp₂ : (p.setLimit limit').parsed = true := hp
  obtain ⟨-, -, -, -, hgoesOn⟩ := run_setLimit_of_limitExceeded hp hle h
  have hmachine : (p.setLimit limit').run.program.machine =
      Attempt.final (Machine.run p.code limit' limit' {}) := run_machine hp₂
  rw [run_strokes hp₁, run_strokes hp₂, hmachine, hgoesOn]
  have htries : ∃ n, Steps (Machine.Tries p.code) n (p.setLimit limit).run.program.machine
      (Attempt.final (Machine.run p.code limit' (limit' - limit)
        (p.setLimit limit).run.program.machine)) := Machine.run_tries _ _ _
  obtain ⟨n, hn⟩ := htries
  exact Machine.strokes_prefix hn

/-- A program that executes more commands than its limit allows for is cut off. -/
theorem run_setLimit_of_steps (hp : p.parsed = true) {m : Machine}
    (h : Steps (Machine.Step p.code) (limit + 1) {} m) :
    ∃ pos, (p.setLimit limit).run.result = .error (.limitExceeded limit pos) := by
  have hp' : (p.setLimit limit).parsed = true := hp
  obtain ⟨m, hm, c, hc, -⟩ := h.exists_last
  have hlt : m.pc < p.code.length := (List.getElem?_eq_some_iff.1 hc).1
  have hrun : Machine.run (p.setLimit limit).code (p.setLimit limit).limit (p.setLimit limit).limit
      {} = .error (.limitExceeded limit m.pc) m :=
    Machine.run_eq_limitExceeded.2 ⟨rfl, hm, rfl, hlt⟩
  exact ⟨m.pc, ((run_eq_error_iff hp').2 hrun).1⟩

/-- A program that needs some commands to complete is cut off if it may execute one less. -/
theorem run_setLimit_pred (hp : p.parsed = true) {n : Nat}
    (h : (p.setLimit limit).run.result = .ok (n + 1)) :
    ∃ pos, (p.setLimit n).run.result = .error (.limitExceeded n pos) := by
  have hp' : (p.setLimit limit).parsed = true := hp
  obtain ⟨-, hs, -⟩ := (run_eq_ok hp').1 ⟨h, rfl⟩
  exact run_setLimit_of_steps hp hs

/-- The limit cuts runs off and does nothing else: a run that is cut off is the first part of the
run with a larger limit. -/
theorem limit_cutsOff (hp : p.parsed = true) (hle : limit ≤ limit') :
    (∀ n, (p.setLimit limit).run.result = .ok n →
      n ≤ limit ∧ (p.setLimit limit').run = { (p.setLimit limit).run with
        program := (p.setLimit limit).run.program.setLimit limit' }) ∧
    (∀ pos line e, (p.setLimit limit).run.result = .error (.failed pos line e) →
      (p.setLimit limit').run = { (p.setLimit limit).run with
        program := (p.setLimit limit).run.program.setLimit limit' }) ∧
    (∀ l pos, (p.setLimit limit).run.result = .error (.limitExceeded l pos) →
      (l = limit ∧ Steps (Machine.Step p.code) limit {} (p.setLimit limit).run.program.machine ∧
        (p.setLimit limit).run.program.pc = pos ∧ pos < p.code.length ∧
        Machine.run p.code limit' limit' {} =
          Machine.run p.code limit' (limit' - limit) (p.setLimit limit).run.program.machine) ∧
      (p.setLimit limit).run.strokes <+: (p.setLimit limit').run.strokes) ∧
    ∀ n, (p.setLimit limit).run.result = .ok (n + 1) →
      (p.setLimit (n + 1)).run.result = .ok (n + 1) ∧
      ∃ pos, (p.setLimit n).run.result = .error (.limitExceeded n pos) := by
  refine ⟨fun n => run_setLimit_of_ok hp hle, fun pos line e => run_setLimit_of_failed hp hle,
    fun l pos h => ⟨run_setLimit_of_limitExceeded hp hle h,
      strokes_prefix_of_limitExceeded hp hle h⟩, fun n h => ⟨?_, run_setLimit_pred hp h⟩⟩
  have hp₁ : (p.setLimit limit).parsed = true := hp
  have hp₂ : (p.setLimit (n + 1)).parsed = true := hp
  obtain ⟨-, hs, hout⟩ := (run_eq_ok hp₁).1 ⟨h, rfl⟩
  exact ((run_eq_ok hp₂).2 ⟨Nat.le_refl _, hs, hout⟩).1

/-- Two circles, in a loop that executes eleven commands. -/
def circles : Program where
  code :=
    [⟨.draw .clear, 0, "clear"⟩,
      ⟨.declare ⟨.int, "i", some "0", false⟩, 1, "int i = 0"⟩,
      ⟨.whileDo "i < 2", 2, "while i < 2"⟩,
      ⟨.declare ⟨.int, "i", some "i + 1", true⟩, 3, "i = i + 1"⟩,
      ⟨.draw (.circle "i"), 4, "circle i"⟩,
      ⟨.endWhile, 5, "end-while"⟩]
  parsed := true

/-- The run is cut off before the position. -/
def cutOffAt (p : Program) (pos : Nat) : Bool :=
  match p.run.result with
  | .error (.limitExceeded _ found) => found == pos
  | _ => false

theorem limit_cutsOff_circles : ∃ l m, (circles.setLimit 6).run.result = .error (.limitExceeded l 2) ∧
    (circles.setLimit 6).run.strokes = [.clear, .circle 1 false] ∧
    (circles.setLimit 6).run.strokes <+: (circles.setLimit 20).run.strokes ∧
    l = 6 ∧ Steps (Machine.Step circles.code) 6 {} m ∧ m.pc = 2 ∧
    Machine.run circles.code 20 20 {} = Machine.run circles.code 20 14 m ∧
    (circles.setLimit 20).run.result = .ok 11 ∧ (circles.setLimit 11).run.result = .ok 11 ∧
    ∃ pos, (circles.setLimit 10).run.result = .error (.limitExceeded 10 pos) := by
  have hcut : (circles.setLimit 6).cutOffAt 2 = true := by decide +kernel
  have hdone : (circles.setLimit 20).run.result.toOption = some 11 := by decide +kernel
  obtain ⟨l, hl⟩ : ∃ l, (circles.setLimit 6).run.result = .error (.limitExceeded l 2) := by
    unfold cutOffAt at hcut
    split at hcut
    · rename_i l found hrun
      rw [hrun, beq_iff_eq.1 hcut]
      exact ⟨l, rfl⟩
    · cases hcut
  have hresult : (circles.setLimit 20).run.result = .ok 11 := by
    cases h : (circles.setLimit 20).run.result with
    | ok n => rw [h] at hdone; cases hdone; rfl
    | error e => rw [h] at hdone; cases hdone
  obtain ⟨-, -, hexceeded, -⟩ := limit_cutsOff (p := circles) rfl (show 6 ≤ 20 by decide)
  obtain ⟨⟨rfl, hs, hpc, -, hgoesOn⟩, hstrokes⟩ := hexceeded _ _ hl
  obtain ⟨-, -, -, hexact⟩ := limit_cutsOff (p := circles) rfl (Nat.le_refl 20)
  obtain ⟨hok, hpred⟩ := hexact 10 hresult
  exact ⟨6, _, hl, by decide +kernel, hstrokes, rfl, hs, hpc, hgoesOn, hresult, hok, hpred⟩

end Program

end PenScript
