import PenScript.Program
import PenScript.Proofs.Attempt

/-!
# Runs as sequences of steps

* `Steps R n a b` : `n` steps of the relation `R` lead from `a` to `b`;
* `Machine.Step code m m'` : the command at the counter succeeds and takes `m` to `m'`;
* `Machine.Reached code m` : a run from the blank machine gets to `m`;
* `Machine.Tries code m m'` : the command at the counter takes `m` to `m'`, whether it succeeds or
  fails; `Machine.Passes code m` : a run from the blank machine passes through `m` or stops in it;
* `Machine.run_eq_ok`, `Machine.run_failed` : what a run gives, in terms of steps;
* `Program.run_eq_ok`, `Program.run_failed` : the same for a program;
* `Machine.meets`, `Machine.holdsWhile` : checks of a run that are made by running, and what they
  show (`Machine.exists_of_meets`, `Machine.exists_of_holdsWhile`).
-/

namespace PenScript

/-- Steps one after the other, `n` of them. -/
inductive Steps {σ : Type} (R : σ → σ → Prop) : Nat → σ → σ → Prop
  | refl (a : σ) : Steps R 0 a a
  | cons {n : Nat} {a b c : σ} (h : R a b) (hs : Steps R n b c) : Steps R (n + 1) a c

namespace Steps

variable {σ τ : Type} {R : σ → σ → Prop} {S : τ → τ → Prop} {a b c : σ} {n k : Nat}

theorem single (h : R a b) : Steps R 1 a b := .cons h (.refl b)

theorem zero_iff : Steps R 0 a b ↔ b = a := by
  constructor
  · rintro ⟨⟩; rfl
  · rintro rfl; exact .refl _

theorem trans (h : Steps R n a b) (h' : Steps R k b c) : Steps R (n + k) a c := by
  induction h with
  | refl a => rwa [Nat.zero_add]
  | cons h hs ih =>
    rw [Nat.add_right_comm]
    exact .cons h (ih h')

theorem snoc (h : Steps R n a b) (h' : R b c) : Steps R (n + 1) a c := h.trans (single h')

theorem exists_last (h : Steps R (n + 1) a c) : ∃ b, Steps R n a b ∧ R b c := by
  induction n generalizing a with
  | zero =>
    cases h with
    | cons h hs =>
      rw [zero_iff] at hs
      exact ⟨a, .refl a, hs ▸ h⟩
  | succ n ih =>
    cases h with
    | cons h hs =>
      obtain ⟨b, hb, hlast⟩ := ih hs
      exact ⟨b, .cons h hb, hlast⟩

/-- The first steps of a sequence. -/
theorem exists_take (h : Steps R n a c) (hk : k ≤ n) : ∃ b, Steps R k a b := by
  induction h generalizing k with
  | refl a => exact ⟨a, Nat.le_zero.1 hk ▸ .refl a⟩
  | @cons n a b c h hs ih =>
    cases k with
    | zero => exact ⟨a, .refl a⟩
    | succ k =>
      obtain ⟨d, hd⟩ := ih (Nat.le_of_succ_le_succ hk)
      exact ⟨d, .cons h hd⟩

/-- From a state that makes no step, there is only the empty sequence. -/
theorem eq_zero (h : Steps R n a b) (ha : ∀ c, ¬ R a c) : n = 0 ∧ b = a := by
  cases h with
  | refl => exact ⟨rfl, rfl⟩
  | cons h hs => exact absurd h (ha _)

/-- A property of the start that every step keeps is one of the end. -/
theorem induct {P : σ → Prop} (hstep : ∀ {a b}, P a → R a b → P b) (h : Steps R n a b)
    (ha : P a) : P b := by
  induction h with
  | refl a => exact ha
  | cons h hs ih => exact ih (hstep ha h)

theorem mono {R' : σ → σ → Prop} (hR : ∀ {a b}, R a b → R' a b) (h : Steps R n a b) :
    Steps R' n a b := by
  induction h with
  | refl a => exact .refl a
  | cons h hs ih => exact .cons (hR h) ih

/-- Steps of a view that come from steps. -/
theorem exists_of_map {f : σ → τ} (hf : ∀ {a v}, S (f a) v → ∃ b, R a b ∧ f b = v) {v w : τ}
    (h : Steps S n v w) : ∀ {a}, f a = v → ∃ b, Steps R n a b ∧ f b = w := by
  induction h with
  | refl v =>
    intro a ha
    exact ⟨a, .refl a, ha⟩
  | cons h hs ih =>
    rintro a rfl
    obtain ⟨b, hab, hb⟩ := hf h
    obtain ⟨c, hbc, hc⟩ := ih hb
    exact ⟨c, .cons hab hbc, hc⟩

end Steps

namespace Machine

theorem step_eq (code : List CodeLine) (c : CodeLine) (m : Machine) :
    step code c m = match (c.command.execute code m.pc).run (m.noteExecute c) with
      | .ok flow m => .ok () (m.moveTo code.length flow)
      | .error e m => .error e m := rfl

theorem execute_of_step {code : List CodeLine} {c : CodeLine} {m m' : Machine}
    (h : step code c m = .ok () m') : ∃ flow m₁,
      (c.command.execute code m.pc).run (m.noteExecute c) = .ok flow m₁ ∧
        m' = m₁.moveTo code.length flow := by
  rw [step_eq] at h
  split at h
  · rename_i flow m₁ hexec
    cases h
    exact ⟨flow, m₁, hexec, rfl⟩
  · cases h

theorem execute_of_step_error {code : List CodeLine} {c : CodeLine} {m m' : Machine}
    {e : CommandError} (h : step code c m = .error e m') :
    (c.command.execute code m.pc).run (m.noteExecute c) = .error e m' := by
  rw [step_eq] at h
  split at h
  · cases h
  · rename_i hexec
    cases h
    exact hexec

/-- Nothing of the last run is left, so that all runs start in one state. -/
theorem restart_eq (m : Machine) : m.restart = {} := rfl

/-- The command at the counter succeeds. -/
def Step (code : List CodeLine) (m m' : Machine) : Prop :=
  ∃ c, code[m.pc]? = some c ∧ step code c m = .ok () m'

variable {code : List CodeLine} {m m₁ m' : Machine} {n : Nat}

theorem Step.unique (h : Step code m m₁) (h' : Step code m m') : m₁ = m' := by
  obtain ⟨c, hc, hs⟩ := h
  obtain ⟨c', hc', hs'⟩ := h'
  cases hc.symm.trans hc'
  cases hs.symm.trans hs'
  rfl

/-- A machine that has left the code makes no step. -/
theorem not_step_of_none (hm : code[m.pc]? = none) : ∀ m', ¬ Step code m m' := by
  rintro m' ⟨c, hc, -⟩
  rw [hm] at hc
  cases hc

/-- A run from the blank machine gets to this one. -/
def Reached (code : List CodeLine) (m : Machine) : Prop := ∃ n, Steps (Step code) n {} m

theorem Reached.step (h : Reached code m) (hs : Step code m m') : Reached code m' := by
  obtain ⟨n, hn⟩ := h
  exact ⟨n + 1, hn.snoc hs⟩

/-- A property of the blank machine that every step from a reached one keeps. -/
theorem Reached.induct {P : Machine → Prop} (h : Reached code m) (h₀ : P {})
    (hstep : ∀ {m m'}, Reached code m → P m → Step code m m' → P m') : P m := by
  obtain ⟨n, hn⟩ := h
  have hall : Reached code m ∧ P m :=
    hn.induct (P := fun m => Reached code m ∧ P m)
      (fun hm hs => ⟨hm.1.step hs, hstep hm.1 hm.2 hs⟩) ⟨⟨0, .refl _⟩, h₀⟩
  exact hall.2

/-- The command at the counter is executed, and succeeds or fails. -/
def Tries (code : List CodeLine) (m m' : Machine) : Prop :=
  ∃ c, code[m.pc]? = some c ∧ (step code c m = .ok () m' ∨ ∃ e, step code c m = .error e m')

/-- A run from the blank machine passes through this one, or stops in it. -/
def Passes (code : List CodeLine) (m : Machine) : Prop := ∃ n, Steps (Tries code) n {} m

theorem Step.eq_of_tries (h : Step code m m₁) (h' : Tries code m m') : m' = m₁ := by
  obtain ⟨c, hc, hok⟩ := h
  obtain ⟨c', hc', htry⟩ := h'
  cases hc.symm.trans hc'
  rw [hok] at htry
  rcases htry with h | ⟨e, h⟩
  · cases h
    rfl
  · cases h

theorem not_tries_of_none (hm : code[m.pc]? = none) : ∀ m', ¬ Tries code m m' := by
  rintro m' ⟨c, hc, -⟩
  rw [hm] at hc
  cases hc

/-! ## The run with a limit -/

theorem run_succ (limit budget : Nat) {c : CodeLine} (hc : code[m.pc]? = some c) :
    run code limit (budget + 1) m = match step code c m with
      | .ok () m' => run code limit budget m'
      | .error e m' => .error (.failed m.pc c.line e) m' := by
  rw [run.eq_def]
  dsimp only
  generalize code[m.pc]? = d at hc ⊢
  subst hc
  rfl

theorem run_of_none (limit budget : Nat) (hm : code[m.pc]? = none) :
    run code limit budget m = .ok (limit - budget) m := by
  rw [run.eq_def]
  simp only [hm]

theorem run_zero (limit : Nat) {c : CodeLine} (hc : code[m.pc]? = some c) :
    run code limit 0 m = .error (.limitExceeded limit m.pc) m := by
  rw [run.eq_def]
  simp only [hc]

theorem run_eq_ok_of_none (limit budget : Nat) (hm : code[m.pc]? = none) :
    run code limit budget m = .ok n m' ↔
      ∃ k ≤ budget, n = limit - (budget - k) ∧ Steps (Step code) k m m' ∧ code[m'.pc]? = none := by
  rw [run_of_none _ _ hm]
  constructor
  · rintro ⟨⟩
    exact ⟨0, Nat.zero_le _, rfl, .refl _, hm⟩
  · rintro ⟨k, -, rfl, hs, -⟩
    obtain ⟨rfl, rfl⟩ := hs.eq_zero (not_step_of_none hm)
    rfl

/-- A run succeeds exactly if few enough steps lead out of the code. -/
theorem run_eq_ok (limit : Nat) : ∀ (budget : Nat) (m : Machine),
    run code limit budget m = .ok n m' ↔
      ∃ k ≤ budget, n = limit - (budget - k) ∧ Steps (Step code) k m m' ∧ code[m'.pc]? = none := by
  intro budget
  induction budget with
  | zero =>
    intro m
    cases hc : code[m.pc]? with
    | none => exact run_eq_ok_of_none limit 0 hc
    | some c =>
      rw [run_zero _ hc]
      simp only [reduceCtorEq, false_iff]
      rintro ⟨k, hk, -, hs, hout⟩
      obtain rfl := Nat.le_zero.1 hk
      rw [Steps.zero_iff.1 hs, hc] at hout
      cases hout
  | succ budget ih =>
    intro m
    cases hc : code[m.pc]? with
    | none => exact run_eq_ok_of_none limit (budget + 1) hc
    | some c =>
      rw [run_succ _ _ hc]
      cases hstep : step code c m with
      | ok a m₁ =>
        rw [ih]
        constructor
        · rintro ⟨k, hk, rfl, hs, hout⟩
          exact ⟨k + 1, by omega, by omega, .cons ⟨c, hc, hstep⟩ hs, hout⟩
        · rintro ⟨k, hk, hn, hs, hout⟩
          cases hs with
          | refl => rw [hc] at hout; cases hout
          | cons h hs =>
            obtain rfl := Step.unique ⟨c, hc, hstep⟩ h
            exact ⟨_, by omega, by omega, hs, hout⟩
      | error e m₁ =>
        simp only [reduceCtorEq, false_iff]
        rintro ⟨k, hk, hn, hs, hout⟩
        cases hs with
        | refl => rw [hc] at hout; cases hout
        | cons h hs =>
          obtain ⟨c', hc', h'⟩ := h
          cases hc.symm.trans hc'
          rw [hstep] at h'
          cases h'

theorem run_limit_eq_ok {limit : Nat} : run code limit limit m = .ok n m' ↔
    n ≤ limit ∧ Steps (Step code) n m m' ∧ code[m'.pc]? = none := by
  rw [run_eq_ok]
  constructor
  · rintro ⟨k, hk, rfl, hs, hout⟩
    have : limit - (limit - k) = k := by omega
    rw [this]
    exact ⟨hk, hs, hout⟩
  · rintro ⟨hn, hs, hout⟩
    exact ⟨n, hn, by omega, hs, hout⟩

/-- A run executes commands, of which the last one may fail. -/
theorem run_tries (limit : Nat) : ∀ (budget : Nat) (m : Machine),
    ∃ n, Steps (Tries code) n m (Attempt.final (run code limit budget m)) := by
  intro budget
  induction budget with
  | zero =>
    intro m
    refine ⟨0, Steps.zero_iff.2 ?_⟩
    cases hc : code[m.pc]? with
    | none => rw [run_of_none _ _ hc, Attempt.final]
    | some c => rw [run_zero _ hc, Attempt.final]
  | succ budget ih =>
    intro m
    cases hc : code[m.pc]? with
    | none => exact ⟨0, Steps.zero_iff.2 (by rw [run_of_none _ _ hc, Attempt.final])⟩
    | some c =>
      rw [run_succ _ _ hc]
      cases hstep : step code c m with
      | ok a m₁ =>
        obtain ⟨n, hn⟩ := ih m₁
        exact ⟨n + 1, .cons ⟨c, hc, .inl hstep⟩ hn⟩
      | error e m₁ => exact ⟨1, .single ⟨c, hc, .inr ⟨e, hstep⟩⟩⟩

/-- A run that fails has come to a command that fails. -/
theorem run_failed (limit : Nat) {pos line : Nat} {e : CommandError} :
    ∀ (budget : Nat) (m : Machine), run code limit budget m = .error (.failed pos line e) m' →
      ∃ k < budget, ∃ m₁ c, Steps (Step code) k m m₁ ∧ code[m₁.pc]? = some c ∧ m₁.pc = pos ∧
        c.line = line ∧ step code c m₁ = .error e m' := by
  intro budget
  induction budget with
  | zero =>
    intro m h
    cases hc : code[m.pc]? with
    | none => rw [run_of_none _ _ hc] at h; cases h
    | some c => rw [run_zero _ hc] at h; cases h
  | succ budget ih =>
    intro m h
    cases hc : code[m.pc]? with
    | none => rw [run_of_none _ _ hc] at h; cases h
    | some c =>
      rw [run_succ _ _ hc] at h
      cases hstep : step code c m with
      | ok a m₁ =>
        rw [hstep] at h
        obtain ⟨k, hk, m₂, d, hs, hrest⟩ := ih m₁ h
        exact ⟨k + 1, by omega, m₂, d, .cons ⟨c, hc, hstep⟩ hs, hrest⟩
      | error e' m₁ =>
        rw [hstep] at h
        cases h
        exact ⟨0, Nat.succ_pos _, m, c, .refl _, hc, rfl, rfl, hstep⟩

/-! ## Checking by running -/

/-- The machine behind the command at the counter, if it succeeds. -/
def next? (code : List CodeLine) (m : Machine) : Option Machine :=
  match code[m.pc]? with
  | none => none
  | some c =>
    match step code c m with
    | .ok () m' => some m'
    | .error .. => none

theorem next?_eq_some : next? code m = some m' ↔ Step code m m' := by
  unfold next? Step
  cases code[m.pc]? with
  | none => simp
  | some c =>
    cases h : step code c m with
    | ok u m₁ => simp [h]
    | error e m₁ => simp [h]

variable {fuel : Nat} {goal inside : Machine → Bool} {test : Nat → Machine → Bool}

/-- The run comes to a state that is a goal. -/
def meets (code : List CodeLine) (goal : Machine → Bool) : Nat → Machine → Bool
  | 0, m => goal m
  | fuel + 1, m => goal m || (next? code m).any (meets code goal fuel)

theorem exists_of_meets (h : meets code goal fuel m = true) :
    ∃ n m', Steps (Step code) n m m' ∧ goal m' = true := by
  induction fuel generalizing m with
  | zero => exact ⟨0, m, .refl m, h⟩
  | succ fuel ih =>
    rw [meets, Bool.or_eq_true, Option.any_eq_true] at h
    rcases h with h | ⟨m₁, hnext, h⟩
    · exact ⟨0, m, .refl m, h⟩
    · obtain ⟨n, m', hsteps, hgoal⟩ := ih h
      exact ⟨n + 1, m', .cons (next?_eq_some.1 hnext) hsteps, hgoal⟩

/-- The run leaves the states that are inside, and until then they pass the test. -/
def holdsWhile (code : List CodeLine) (inside : Machine → Bool) (test : Nat → Machine → Bool) :
    Nat → Machine → Bool
  | 0, _ => false
  | fuel + 1, m => !inside m ||
      test fuel m && (next? code m).all (holdsWhile code inside test fuel)

theorem exists_of_holdsWhile (h : holdsWhile code inside test fuel m = true)
    (hm' : Steps (fun m m' => Step code m m' ∧ inside m = true) n m m') (hin : inside m' = true) :
    ∃ fuel, test fuel m' = true := by
  induction hm' generalizing fuel with
  | refl m =>
    cases fuel with
    | zero => cases h
    | succ fuel =>
      simp only [holdsWhile, hin, Bool.not_true, Bool.false_or, Bool.and_eq_true] at h
      exact ⟨fuel, h.1⟩
  | @cons n m m₁ m' hstep _ ih =>
    cases fuel with
    | zero => cases h
    | succ fuel =>
      simp only [holdsWhile, hstep.2, Bool.not_true, Bool.false_or, Bool.and_eq_true,
        next?_eq_some.2 hstep.1, Option.all_some] at h
      exact ih h.2 hin

end Machine

namespace Program

variable {p : Program} (hp : p.parsed = true)
include hp

theorem run_of_ok {n : Nat} {m : Machine} (h : Machine.run p.code p.limit p.limit {} = .ok n m) :
    p.run = {
      result := .ok n
      strokes := m.strokes.toList
      log := (m.log.push (.completed n m.store.size)).toList
      program := p.stoppedAt m } := by
  rw [run, if_pos hp, Machine.restart_eq, h]

theorem run_of_error {e : RunError} {m : Machine}
    (h : Machine.run p.code p.limit p.limit {} = .error e m) :
    p.run = {
      result := .error e
      strokes := m.strokes.toList
      log := m.log.toList
      program := p.stoppedAt m } := by
  rw [run, if_pos hp, Machine.restart_eq, h]

theorem run_eq_ok_iff {n : Nat} {m : Machine} :
    p.run.result = .ok n ∧ p.run.program.machine = m ↔
      Machine.run p.code p.limit p.limit {} = .ok n m := by
  constructor
  · rintro ⟨hresult, rfl⟩
    cases h : Machine.run p.code p.limit p.limit {} with
    | ok k m =>
      rw [run_of_ok hp h] at hresult ⊢
      cases hresult
      rfl
    | error e m =>
      rw [run_of_error hp h] at hresult
      cases hresult
  · intro h
    rw [run_of_ok hp h]
    exact ⟨rfl, rfl⟩

theorem run_eq_error_iff {e : RunError} {m : Machine} :
    p.run.result = .error e ∧ p.run.program.machine = m ↔
      Machine.run p.code p.limit p.limit {} = .error e m := by
  constructor
  · rintro ⟨hresult, rfl⟩
    cases h : Machine.run p.code p.limit p.limit {} with
    | ok k m =>
      rw [run_of_ok hp h] at hresult
      cases hresult
    | error e m =>
      rw [run_of_error hp h] at hresult ⊢
      cases hresult
      rfl
  · intro h
    rw [run_of_error hp h]
    exact ⟨rfl, rfl⟩

theorem run_machine :
    p.run.program.machine = Attempt.final (Machine.run p.code p.limit p.limit {}) := by
  cases h : Machine.run p.code p.limit p.limit {} with
  | ok k m => rw [run_of_ok hp h]; rfl
  | error e m => rw [run_of_error hp h]; rfl

/-- A program stops in a state that its run passes. -/
theorem passes_run : Machine.Passes p.code p.run.program.machine := by
  rw [run_machine hp]
  exact Machine.run_tries p.limit p.limit {}

/-- A program succeeds exactly if its limit allows for the steps that lead out of its code. -/
theorem run_eq_ok {n : Nat} {m : Machine} :
    p.run.result = .ok n ∧ p.run.program.machine = m ↔
      n ≤ p.limit ∧ Steps (Machine.Step p.code) n {} m ∧ p.code[m.pc]? = none := by
  rw [run_eq_ok_iff hp, Machine.run_limit_eq_ok]

/-- A program that fails has come to a command that fails, and keeps what that command leaves. -/
theorem run_failed {pos line : Nat} {e : CommandError}
    (h : p.run.result = .error (.failed pos line e)) :
    ∃ m c, Machine.Reached p.code m ∧ p.code[m.pc]? = some c ∧ m.pc = pos ∧ c.line = line ∧
      Machine.step p.code c m = .error e p.run.program.machine := by
  have hrun := (run_eq_error_iff hp).1 ⟨h, rfl⟩
  obtain ⟨k, -, m, c, hs, hc, hpos, hline, hstep⟩ := Machine.run_failed _ _ _ hrun
  exact ⟨m, c, ⟨k, hs⟩, hc, hpos, hline, hstep⟩

end Program

end PenScript
