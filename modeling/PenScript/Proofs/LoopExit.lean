import Mathlib.Data.Int.GCD
import Mathlib.Tactic.LinearCombination
import Mathlib.Tactic.Ring
import PenScript.Proofs.Rounds

/-!
# When a counted loop comes to its exit

A loop over whole numbers adds its step with wraparound, and tests with the exact order.

* `LoopRun.held k` : what the variable holds after `k` steps; `LoopRun.Stops k` : the test fails then;
* `LoopRun.Escapes` : some number past the last value differs from the first one by a multiple of the
  largest power of two in the step. Exactly then the test fails at some time
  (`LoopRun.Escapes.of_stops`, `LoopRun.Escapes.exists_first`);
* `LoopRun.Path` : commands in one execution of the loop, those of the methods that it calls included;
  `LoopRun.SparesVariable`, `LoopRun.Completes` : what is asked of the iterations in it;
* `LoopRun.AtLoop`, `LoopRun.InLap` : where the run is between two tests; `LoopRun.InLap.step` : what a
  step in an iteration does;
* `LoopRun.Laps` : iterations one after the other, and what they show about the test
  (`LoopRun.Laps.spec`);
* `Session.endless_atLargest` : a loop that is never left;
* `Session.Accepted.loopExit` : the main result.
-/

namespace PenScript

namespace LoopRun

variable {r : LoopRun} {k : Nat} {i : Int64}

/-! ## The numbers that the variable comes to -/

/-- What the variable holds after `k` steps. -/
def held (r : LoopRun) : Nat → Int64
  | 0 => r.first
  | k + 1 => r.held k + r.stride

/-- The test fails with what the variable holds after `k` steps. -/
def Stops (r : LoopRun) (k : Nat) : Prop :=
  CountedLoop.goesOn (.int (r.held k)) r.bounds = .ok false

/-- The number is past the last value, in the direction of the steps. -/
def Beyond (r : LoopRun) (i : Int64) : Prop := if r.stride > 0 then r.last < i else i < r.last

instance (r : LoopRun) : DecidablePred r.Beyond := fun i =>
  inferInstanceAs (Decidable (if r.stride > 0 then r.last < i else i < r.last))

/-- The largest power of two that divides the step. -/
def grain (r : LoopRun) : Int := Int.gcd r.stride.toInt (2 ^ 64)

/-- A number past the last value is a multiple of the grain away from the first one. -/
def Escapes (r : LoopRun) : Prop :=
  ∃ i : Int64, r.Beyond i ∧ r.grain ∣ i.toInt - r.first.toInt

theorem stops_iff : r.Stops k ↔ r.Beyond (r.held k) := by
  unfold Stops Beyond
  rw [goesOn_int]
  split <;> simp [Int64.not_le]

theorem goesOn_of_not_stops (h : ¬ r.Stops k) :
    CountedLoop.goesOn (.int (r.held k)) r.bounds = .ok true := by
  unfold Stops at h
  rw [goesOn_int] at h ⊢
  generalize (if r.stride > 0 then decide (r.held k ≤ r.last) else decide (r.held k ≥ r.last)) =
    more at h ⊢
  cases more
  exacts [absurd rfl h, rfl]

theorem toInt_held (r : LoopRun) (k : Nat) : (r.held k).toInt = (r.value k).bmod (2 ^ 64) := by
  induction k with
  | zero => simp [held, value]
  | succ k ih => rw [held, Int64.toInt_add, ih, value_succ, Int.bmod_add_bmod]

theorem grain_dvd_held (r : LoopRun) (k : Nat) : r.grain ∣ (r.held k).toInt - r.first.toInt := by
  have hwrap : r.grain ∣ (r.held k).toInt - r.value k := by
    rw [toInt_held]
    exact dvd_trans (Int.gcd_dvd_right ..) Int.dvd_bmod_sub_self
  have hsteps : r.grain ∣ r.value k - r.first.toInt := by
    have : r.value k - r.first.toInt = k * r.stride.toInt := by
      unfold value
      omega
    rw [this]
    exact Dvd.dvd.mul_left (Int.gcd_dvd_left ..) _
  have hsum := Int.dvd_add hwrap hsteps
  rwa [show (r.held k).toInt - r.value k + (r.value k - r.first.toInt) =
    (r.held k).toInt - r.first.toInt by omega] at hsum

/-- Every number on the grid of the grain is come to, before the steps have gone around. -/
theorem exists_held_eq (h : r.grain ∣ i.toInt - r.first.toInt) : ∃ k < 2 ^ 64, r.held k = i := by
  obtain ⟨q, hq⟩ := h
  have hbezout := Int.gcd_eq_gcd_ab r.stride.toInt (2 ^ 64)
  set x := Int.gcdA r.stride.toInt (2 ^ 64) * q with hx
  set y := Int.gcdB r.stride.toInt (2 ^ 64) * q with hy
  have hdiff : i.toInt - r.first.toInt = r.stride.toInt * x + 2 ^ 64 * y := by
    rw [hq, grain, hbezout, hx, hy]
    ring
  have hpos := Int.emod_nonneg x (show (2 : Int) ^ 64 ≠ 0 by decide)
  have hlt := Int.emod_lt_of_pos x (show (0 : Int) < 2 ^ 64 by decide)
  refine ⟨(x % 2 ^ 64).toNat, by omega, Int64.toInt_inj.1 ?_⟩
  have hvalue : r.value (x % 2 ^ 64).toNat =
      i.toInt + 2 ^ 64 * (-(x / 2 ^ 64 * r.stride.toInt) - y) := by
    have hx' := Int.emod_add_mul_ediv x (2 ^ 64)
    have hx'' : x % 2 ^ 64 = x - 2 ^ 64 * (x / 2 ^ 64) := by omega
    unfold value
    rw [Int.toNat_of_nonneg hpos, hx'']
    linear_combination -hdiff
  rw [toInt_held, hvalue, show (2 : Int) ^ 64 = ((2 ^ 64 : Nat) : Int) by norm_num,
    Int.add_mul_bmod_self_left]
  exact Int64.toInt_bmod i

theorem Escapes.of_stops (h : r.Stops k) : r.Escapes :=
  ⟨r.held k, stops_iff.1 h, r.grain_dvd_held k⟩

/-- The first time that the test fails. -/
theorem Escapes.exists_first (h : r.Escapes) :
    ∃ k < 2 ^ 64, r.Stops k ∧ ∀ j < k, ¬ r.Stops j := by
  classical
  obtain ⟨i, hbeyond, hdvd⟩ := h
  obtain ⟨k, hk, rfl⟩ := exists_held_eq hdvd
  have hex : ∃ k, r.Stops k := ⟨k, stops_iff.2 hbeyond⟩
  refine ⟨Nat.find hex, ?_, Nat.find_spec hex, fun j hj => Nat.find_min hex hj⟩
  exact Nat.lt_of_le_of_lt (Nat.find_min' hex (stops_iff.2 hbeyond)) hk

/-- Counted in whole steps from the first value, some number is at most one step past the last. -/
theorem exists_past (hne : r.stride ≠ 0) : ∃ x, r.stride.toInt ∣ x - r.first.toInt ∧
    (0 < r.stride.toInt ∧ r.last.toInt < x ∧ x ≤ r.last.toInt + r.stride.toInt ∨
      r.stride.toInt < 0 ∧ r.last.toInt + r.stride.toInt ≤ x ∧ x < r.last.toInt) := by
  have hne' := stride_toInt_ne hne
  by_cases hpos : 0 < r.stride.toInt
  · have hnonneg := Int.emod_nonneg (r.last.toInt - r.first.toInt) hne'
    have hlt := Int.emod_lt_of_pos (r.last.toInt - r.first.toInt) hpos
    have hdvd := Int.dvd_self_sub_emod (x := r.last.toInt - r.first.toInt) (m := r.stride.toInt)
    refine ⟨r.last.toInt - (r.last.toInt - r.first.toInt) % r.stride.toInt + r.stride.toInt, ?_,
      .inl ⟨hpos, by omega, by omega⟩⟩
    have hsum := Int.dvd_add hdvd (Int.dvd_refl r.stride.toInt)
    rwa [sub_right_comm, sub_add_eq_add_sub] at hsum
  · have hnonneg := Int.emod_nonneg (r.first.toInt - r.last.toInt) hne'
    have hlt := Int.emod_lt_of_neg (r.first.toInt - r.last.toInt) (show r.stride.toInt < 0 by omega)
    have hdvd := Int.dvd_self_sub_emod (x := r.first.toInt - r.last.toInt) (m := r.stride.toInt)
    refine ⟨r.last.toInt + (r.first.toInt - r.last.toInt) % r.stride.toInt + r.stride.toInt, ?_,
      .inr ⟨by omega, by omega, by omega⟩⟩
    have hsum := Int.dvd_sub (Int.dvd_refl r.stride.toInt) hdvd
    rwa [show r.stride.toInt - (r.first.toInt - r.last.toInt -
      (r.first.toInt - r.last.toInt) % r.stride.toInt) = r.last.toInt +
      (r.first.toInt - r.last.toInt) % r.stride.toInt + r.stride.toInt - r.first.toInt by omega]
      at hsum

/-- If the last value and one step more is in range, the steps do not jump over the exit. -/
theorem escapes_of_fits (hne : r.stride ≠ 0) (h : Fits (r.last.toInt + r.stride.toInt)) :
    r.Escapes := by
  have hlast := r.last.le_toInt
  have hlast' := r.last.toInt_lt
  obtain ⟨x, hdvd, hpast⟩ := exists_past hne
  unfold Fits at h
  have hx : (Int64.ofInt x).toInt = x := Int64.toInt_ofInt_of_le (by omega) (by omega)
  refine ⟨Int64.ofInt x, ?_, ?_⟩
  · unfold Beyond
    rcases hpast with ⟨hpos, hlt, -⟩ | ⟨hneg, -, hlt⟩
    · have hpos' : r.stride > 0 := Int64.lt_iff_toInt_lt.2 hpos
      rwa [if_pos hpos', Int64.lt_iff_toInt_lt, hx]
    · have hneg' : ¬ r.stride > 0 := fun hpos => by
        have := Int64.lt_iff_toInt_lt.1 hpos
        simp at this
        omega
      rwa [if_neg hneg', Int64.lt_iff_toInt_lt, hx]
  · rw [hx]
    exact Int.dvd_trans (Int.gcd_dvd_left ..) hdvd

end LoopRun

/-! ## One execution of a loop -/

/-- Of the counter and the open calls, the one above the calls `rest` is in the loop or at its ends. -/
def Machine.InLoop (start stop : Nat) (rest : List Nat) (m : Machine) : Prop :=
  ∃ q, q :: rest <:+ m.pc :: m.calls ∧ start ≤ q ∧ q ≤ stop

/-- A step in an execution of the loop. -/
def Machine.StepInLoop (code : List CodeLine) (start stop : Nat) (rest : List Nat)
    (m m' : Machine) : Prop := Step code m m' ∧ InLoop start stop rest m

namespace LoopRun

/-- In the execution of the loop that starts in `m`, `n` commands lead to `a`. -/
def Path (r : LoopRun) (code : List CodeLine) (m : Machine) (n : Nat) (a : Machine) : Prop :=
  Steps (Machine.StepInLoop code r.start r.stop m.calls) n m a

/-- No command that is executed in an iteration, in the body or in what it calls, writes the
variable. -/
def SparesVariable (r : LoopRun) (code : List CodeLine) (m : Machine) : Prop :=
  ∀ {n a c}, r.Path code m n a → Machine.InIteration r.start r.stop m.calls a →
    commandAt code a.pc = some c → c.target? code a.pc ≠ some r.loop.var

/-- From every iteration that is begun, the run comes to its end. -/
def Completes (r : LoopRun) (code : List CodeLine) (m : Machine) : Prop :=
  ∀ {n a}, r.Path code m n a → a.pc = r.start + 1 → a.calls = m.calls →
    ∃ j b, Steps (Machine.Step code) j a b ∧ b.pc = r.stop ∧ b.calls = m.calls

/-- `k` iterations one after the other, of `n` commands: each goes from the loop into the body, stays
in it or in what it calls until it comes to the end, and goes back to the loop. -/
inductive Laps (r : LoopRun) (code : List CodeLine) (m : Machine) : Nat → Nat → Machine → Prop
  | none : Laps r code m 0 0 m
  | lap {k n j : Nat} {a a₁ b c : Machine} (h : Laps r code m k n a)
      (hbegin : Machine.Step code a a₁) (hpc : a₁.pc = r.start + 1)
      (hbody : Steps (Machine.StepIn code r.start r.stop m.calls) j a₁ b)
      (hend : b.pc = r.stop ∧ b.calls = m.calls) (hback : Machine.Step code b c) :
      Laps r code m (k + 1) (n + (j + 2)) c

/-- The loop as if it were entered with what the variable holds after `k` steps. -/
def after (r : LoopRun) (k : Nat) : LoopRun := { r with first := r.held k }

/-- The run is at the loop, and the test will be made after `k` steps. -/
def AtLoop (r : LoopRun) (m : Machine) (k : Nat) (a : Machine) : Prop :=
  a.pc = r.start ∧ a.calls = m.calls ∧ (r.after k).Ready 0 a

/-- The run is in the iteration that begins after `k` steps. -/
def InLap (r : LoopRun) (code : List CodeLine) (m : Machine) (k : Nat) (a : Machine) : Prop :=
  Machine.Around code r.start m.calls a ∧ (r.after k).Runs 0 a

section Execution

variable {r : LoopRun} {k n j : Nat} {code : List CodeLine} {t : BlockTree} {m a b : Machine}
  {mid : Option Nat}

theorem toInt_held_eq (r : LoopRun) (k : Nat) : (r.held k).toInt = (r.after k).value 0 := by
  simp [after, value]

theorem rounds_after_pos (hne : r.stride ≠ 0) (h : ¬ r.Stops k) : 0 < (r.after k).rounds := by
  have hgoesOn := (goesOn_eq (r := r.after k) hne (r.toInt_held_eq k)).symm.trans
    (goesOn_of_not_stops h)
  simpa using hgoesOn

theorem rounds_after_eq_zero (hne : r.stride ≠ 0) (h : r.Stops k) : (r.after k).rounds = 0 := by
  have hgoesOn := (goesOn_eq (r := r.after k) hne (r.toInt_held_eq k)).symm.trans h
  simpa using hgoesOn

theorem Path.reached (h : r.Path code m n a) (hm : Machine.Reached code m) :
    Machine.Reached code a :=
  h.induct (P := Machine.Reached code) (fun hm hs => hm.step hs.1) hm

theorem AtLoop.zero (h : r.Enters code m) : r.AtLoop m 0 m := ⟨h.pc, rfl, h.ready⟩

variable (hs : Spans code .forLoop r.start mid r.stop)
include hs

theorem AtLoop.inLoop (h : r.AtLoop m k a) : a.InLoop r.start r.stop m.calls :=
  ⟨r.start, Machine.suffix_frame.2 (.inl ⟨h.1.symm, h.2.1.symm⟩), Nat.le_refl _,
    Nat.le_of_lt hs.lt⟩

theorem InLap.inLoop (h : r.InLap code m k a) : a.InLoop r.start r.stop m.calls := by
  obtain ⟨⟨q, hq, hin⟩, -⟩ := h
  exact ⟨q, hq, Nat.le_of_lt (lt_of_mem_inner hin),
    hs.le_stop_of_mem_opens ((List.takeWhile_prefix _).subset hin)⟩

variable (hc : commandAt code r.start = some (.countTo r.loop)) (hne : r.stride ≠ 0)
include hc hne

/-- While the test succeeds, it leads into an iteration. -/
theorem AtLoop.exists_begin (h : r.AtLoop m k a) (hk : ¬ r.Stops k) :
    ∃ b, Machine.Step code a b ∧ b.pc = r.start + 1 ∧ b.calls = m.calls ∧ r.InLap code m k b := by
  obtain ⟨hpc, hcalls, hready⟩ := h
  obtain ⟨b, hstep, hpc', hruns⟩ :=
    Ready.exists_begin (r := r.after k) hc hpc hne hready (rounds_after_pos hne hk)
  have hpc' : b.pc = r.start + 1 := hpc'
  have hcalls' : b.calls = m.calls := (hstep.cases_of_loop hs hpc).1.trans hcalls
  refine ⟨b, hstep, hpc', hcalls', ⟨b.pc, Machine.suffix_frame.2 (.inl ⟨rfl, hcalls'.symm⟩), ?_⟩,
    hruns⟩
  rw [hpc', inner_of_cons hs.opens_succ_start hs.loopAt.methodAt_eq_false]
  exact List.mem_cons_self

/-- When the test fails, it leads behind the end. -/
theorem AtLoop.exists_leave (h : r.AtLoop m k a) (hk : r.Stops k) :
    ∃ b, Machine.Step code a b ∧ b.pc = r.stop + 1 ∧ b.calls = m.calls ∧
      b.Holds r.loop.var (r.held k).toInt ∧ b.loops[r.start]? = none := by
  obtain ⟨hpc, hcalls, hready⟩ := h
  have hzero := rounds_after_eq_zero hne hk
  rw [← hzero] at hready
  obtain ⟨b, hstep, hpc', hholds, hgone⟩ :=
    Ready.exists_leave (r := r.after k) hs hc hpc hne hready
  rw [hzero, ← toInt_held_eq] at hholds
  exact ⟨b, hstep, hpc', (hstep.cases_of_loop hs hpc).1.trans hcalls, hholds, hgone⟩

omit hne in
/-- From the end of an iteration the run goes back to the loop, one step further. -/
theorem InLap.exists_back (h : r.InLap code m k a) (hpc : a.pc = r.stop)
    (hcalls : a.calls = m.calls) : ∃ b, Machine.Step code a b ∧ r.AtLoop m (k + 1) b := by
  obtain ⟨-, ⟨i, hget, hi⟩, hloops⟩ := h
  have hheld : i = r.held k := Int64.toInt_inj.1 (hi.trans (r.toInt_held_eq k).symm)
  obtain ⟨b, hstep, hpc', hcalls', hget', hloops'⟩ := LoopRun.exists_back hs hc hget hloops hpc
  have hruns : (r.after (k + 1)).Runs 0 b := by
    refine ⟨⟨r.held (k + 1), ?_, r.toInt_held_eq (k + 1)⟩, hloops'⟩
    rw [held, ← hheld]
    exact hget'
  exact ⟨b, hstep, hpc', hcalls'.trans hcalls, hruns.ready⟩

variable (hn : Nested code t) (hm : Machine.Reached code m) (hspares : r.SparesVariable code m)
include hn hm hspares

omit hne in
/-- The step: in an iteration, the variable and the bounds stay as they are, until the run goes back
from the end to the loop. -/
theorem InLap.step (ha : r.Path code m n a) (h : r.InLap code m k a) (hstep : Machine.Step code a b) :
    a.InIteration r.start r.stop m.calls ∧ r.InLap code m k b ∨
      (a.pc = r.stop ∧ a.calls = m.calls) ∧ r.AtLoop m (k + 1) b := by
  have hreached := ha.reached hm
  by_cases hend : a.pc = r.stop ∧ a.calls = m.calls
  · obtain ⟨b', hstep', hat⟩ := h.exists_back hs hc hend.1 hend.2
    rw [hstep'.unique hstep] at hat
    exact .inr ⟨hend, hat⟩
  · obtain ⟨haround, ⟨i, hget, hi⟩, hloops⟩ := h
    have hin : a.InIteration r.start r.stop m.calls := by
      obtain ⟨q, hq, hp⟩ := haround
      refine .of_inner hs hq hp ?_
      rintro rfl
      rcases Machine.suffix_frame.1 hq with ⟨hpc, hcalls⟩ | hq
      · exact hend ⟨hpc.symm, hcalls.symm⟩
      · exact (hreached.site_ne hn hs (hq.subset List.mem_cons_self)).2 rfl
    -- The loop writes the variable, so it is not come to again.
    have hpc : a.pc ≠ r.start := by
      intro hpc
      have hc' : commandAt code a.pc = some (.countTo r.loop) := by rw [hpc, hc]
      exact hspares ha hin hc' rfl
    have hkeeps := hstep.get?_eq fun c hc => hspares ha hin hc
    have hloops' := (hstep.loops_of_ne hn hreached hpc).trans hloops
    rcases hstep.around hn hs hreached hpc haround with haround | ⟨hpc', hcalls, -, -⟩
    · exact .inl ⟨hin, haround, ⟨i, hkeeps.trans hget, hi⟩, hloops'⟩
    · exact absurd ⟨hpc', hcalls⟩ hend

omit hne in
/-- The run: from an iteration that completes, the run comes to its end without leaving it. -/
theorem InLap.exists_end (ha : r.Path code m n a) (h : r.InLap code m k a)
    (hsteps : Steps (Machine.Step code) j a b) (hb : b.pc = r.stop ∧ b.calls = m.calls) :
    ∃ i n' a', Steps (Machine.StepIn code r.start r.stop m.calls) i a a' ∧
      (a'.pc = r.stop ∧ a'.calls = m.calls) ∧ r.InLap code m k a' ∧ r.Path code m n' a' := by
  induction hsteps generalizing n with
  | refl a => exact ⟨0, n, a, .refl a, hb, h, ha⟩
  | @cons j a a₁ b hstep hsteps ih =>
    rcases h.step hs hc hn hm hspares ha hstep with ⟨hin, h₁⟩ | ⟨hend, -⟩
    · obtain ⟨i, n', a', hbody, hrest⟩ := ih (ha.snoc ⟨hstep, h.inLoop hs⟩) h₁ hb
      exact ⟨i + 1, n', a', .cons ⟨hstep, hin⟩ hbody, hrest⟩
    · exact ⟨0, n, a, .refl a, hend, h, ha⟩

omit hne in
/-- The run, seen from its end: an iteration goes on as long as the run has not come to its end. -/
theorem InLap.induct (ha : r.Path code m n a) (h : r.InLap code m k a)
    (hbody : Steps (Machine.StepIn code r.start r.stop m.calls) j a b) :
    r.InLap code m k b ∧ r.Path code m (n + j) b := by
  induction hbody generalizing n with
  | refl a => exact ⟨h, ha⟩
  | @cons j a a₁ b hstep hbody ih =>
    rcases h.step hs hc hn hm hspares ha hstep.1 with ⟨-, h₁⟩ | ⟨⟨hpc, hcalls⟩, -⟩
    · rw [show n + (j + 1) = n + 1 + j by omega]
      exact ih (ha.snoc ⟨hstep.1, h.inLoop hs⟩) h₁
    · obtain ⟨q, hq, hlt, hlt'⟩ := hstep.2
      rcases Machine.suffix_frame.1 hq with ⟨rfl, -⟩ | hq
      · omega
      · rw [hcalls] at hq
        exact absurd hq.length_le (by simp)

/-- Iterations are made only while the test succeeds, and take the variable one step further. -/
theorem Laps.spec (henters : r.Enters code m) (h : r.Laps code m k n a) :
    r.Path code m n a ∧ r.AtLoop m k a ∧ (∀ j < k, ¬ r.Stops j) ∧ 2 * k ≤ n := by
  induction h with
  | none => exact ⟨.refl m, .zero henters, nofun, Nat.le_refl _⟩
  | @lap k n j a a₁ b c h hbegin hpc hbody hend hback ih =>
    obtain ⟨hpath, hat, htests, hcount⟩ := ih
    have htest : ¬ r.Stops k := by
      intro hstops
      obtain ⟨b', hleave, hpc', -⟩ := hat.exists_leave hs hc hne hstops
      rw [hleave.unique hbegin, hpc] at hpc'
      have := hs.lt
      omega
    obtain ⟨b', hbegin', -, -, hlap⟩ := hat.exists_begin hs hc hne htest
    rw [hbegin'.unique hbegin] at hlap
    obtain ⟨hlap', hpath'⟩ :=
      hlap.induct hs hc hn hm hspares (hpath.snoc ⟨hbegin, hat.inLoop hs⟩) hbody
    obtain ⟨c', hback', hat'⟩ := hlap'.exists_back hs hc hend.1 hend.2
    rw [hback'.unique hback] at hat'
    refine ⟨?_, hat', fun i hi => ?_, by omega⟩
    · have hpath'' := hpath'.snoc ⟨hback, hlap'.inLoop hs⟩
      rwa [show n + 1 + j + 1 = n + (j + 2) by omega] at hpath''
    · rcases Nat.lt_or_eq_of_le (Nat.le_of_lt_succ hi) with hi | rfl
      exacts [htests i hi, htest]

/-- If the iterations complete, there are as many as the test allows for. -/
theorem Completes.exists_laps (hcompletes : r.Completes code m) (henters : r.Enters code m)
    (hk : ∀ j < k, ¬ r.Stops j) : ∃ n a, r.Laps code m k n a := by
  induction k with
  | zero => exact ⟨0, m, .none⟩
  | succ k ih =>
    obtain ⟨n, a, hlaps⟩ := ih fun j hj => hk j (Nat.lt_succ_of_lt hj)
    obtain ⟨hpath, hat, -, -⟩ := hlaps.spec hs hc hne hn hm hspares henters
    obtain ⟨a₁, hbegin, hpc, hcalls, hlap⟩ := hat.exists_begin hs hc hne (hk k (Nat.lt_succ_self k))
    have hpath₁ : r.Path code m (n + 1) a₁ := hpath.snoc ⟨hbegin, hat.inLoop hs⟩
    obtain ⟨j, b, hsteps, hb⟩ := hcompletes hpath₁ hpc hcalls
    obtain ⟨i, n', b', hbody, hend, hlap', hpath'⟩ :=
      hlap.exists_end hs hc hn hm hspares hpath₁ hsteps hb
    obtain ⟨c, hback, -⟩ := hlap'.exists_back hs hc hend.1 hend.2
    exact ⟨_, c, .lap hlaps hbegin hpc hbody hend hback⟩

/-- If the test never fails, the run is at the loop or in an iteration all the time. -/
theorem exists_path (henters : r.Enters code m) (htests : ∀ k, ¬ r.Stops k)
    (h : Steps (Machine.Step code) n m a) :
    r.Path code m n a ∧ ∃ k, r.AtLoop m k a ∨ r.InLap code m k a := by
  induction n generalizing a with
  | zero =>
    obtain rfl := Steps.zero_iff.1 h
    exact ⟨.refl a, 0, .inl (.zero henters)⟩
  | succ n ih =>
    obtain ⟨b, hb, hstep⟩ := h.exists_last
    obtain ⟨hpath, k, hat | hlap⟩ := ih hb
    · obtain ⟨a', hbegin, -, -, hlap⟩ := hat.exists_begin hs hc hne (htests k)
      rw [hbegin.unique hstep] at hlap
      exact ⟨hpath.snoc ⟨hstep, hat.inLoop hs⟩, k, .inr hlap⟩
    · refine ⟨hpath.snoc ⟨hstep, hlap.inLoop hs⟩, ?_⟩
      rcases hlap.step hs hc hn hm hspares hpath hstep with ⟨-, hlap⟩ | ⟨-, hat⟩
      exacts [⟨k, .inr hlap⟩, ⟨k + 1, .inl hat⟩]

end Execution

/-! ## The main result -/

/-- The loop that `m` enters makes `k` iterations and is left. -/
structure LeavesAfter (r : LoopRun) (code : List CodeLine) (m : Machine) (k : Nat) : Prop where
  lt : k < 2 ^ 64
  /-- The test succeeds before each of the iterations, and fails behind the last. -/
  test : ∀ j ≤ k, CountedLoop.goesOn (.int (r.held j)) r.bounds = .ok (decide (j < k))
  /-- No run makes more iterations. -/
  atMost : ∀ {j n a}, r.Laps code m j n a → j ≤ k
  /-- If the iterations complete, the run goes on behind the loop. -/
  leaves : r.Completes code m → ∃ n a m', r.Laps code m k n a ∧ Machine.Step code a m' ∧
    m'.pc = r.stop + 1 ∧ m'.calls = m.calls ∧ m'.Holds r.loop.var (r.held k).toInt ∧
    m'.loops[r.start]? = none ∧
    ∀ limit budget, Machine.run code limit (n + 1 + budget) m = Machine.run code limit budget m'

/-- The loop that `m` enters is never left. -/
structure Endless (r : LoopRun) (p : Program) (m : Machine) : Prop where
  test : ∀ k, CountedLoop.goesOn (.int (r.held k)) r.bounds = .ok true
  /-- A run stays in the loop. -/
  stays : ∀ {n a}, Steps (Machine.Step p.code) n m a → a.InLoop r.start r.stop m.calls
  /-- If the iterations complete, no limit is large enough. -/
  cutOff : r.Completes p.code m → ∀ limit, ∃ pos,
    (p.setLimit limit).run.result = .error (.limitExceeded limit pos)

section Accepted

variable {r : LoopRun} {source : String} {s₀ s : Session} {m : Machine}

/-- The loop that is entered stands where its end is found. -/
theorem Enters.exists_spans {code : List CodeLine} {t : BlockTree} (hn : Nested code t)
    (h : r.Enters code m) : ∃ mid, Spans code .forLoop r.start mid r.stop := by
  obtain ⟨mid, stop, hs⟩ := hn.exists_spans_of_start h.command rfl
  obtain ⟨mid', hend⟩ := h.stop
  obtain ⟨rfl, rfl⟩ : mid = mid' ∧ stop = r.stop := by simpa using hs.findEnd_eq.symm.trans hend
  exact ⟨mid, hs⟩

variable (h : Session.Accepted source s₀ s) (henters : r.Enters s.program.code m)
  (hspares : r.SparesVariable s.program.code m)
include h henters hspares

theorem Escapes.exists_leavesAfter (hescapes : r.Escapes) :
    ∃ k, r.LeavesAfter s.program.code m k := by
  obtain ⟨t, hn, -⟩ := h.exists_tree
  obtain ⟨mid, hs⟩ := henters.exists_spans hn
  obtain ⟨k, hk, hstops, hfirst⟩ := hescapes.exists_first
  have hspec {j n a} (hlaps : r.Laps s.program.code m j n a) :=
    hlaps.spec hs henters.command henters.stride_ne hn henters.reached hspares henters
  refine ⟨k, hk, fun j hj => ?_, fun hlaps => ?_, fun hcompletes => ?_⟩
  · rcases Nat.lt_or_eq_of_le hj with hj | rfl
    · rw [goesOn_of_not_stops (hfirst j hj), decide_eq_true hj]
    · rw [hstops, decide_eq_false (Nat.lt_irrefl j)]
  · obtain ⟨-, -, htests, -⟩ := hspec hlaps
    exact Nat.le_of_not_lt fun hlt => htests k hlt hstops
  · obtain ⟨n, a, hlaps⟩ := hcompletes.exists_laps hs henters.command henters.stride_ne hn
      henters.reached hspares henters hfirst
    obtain ⟨hpath, hat, -, -⟩ := hspec hlaps
    obtain ⟨m', hleave, hpc, hcalls, hholds, hgone⟩ :=
      hat.exists_leave hs henters.command henters.stride_ne hstops
    refine ⟨n, a, m', hlaps, hleave, hpc, hcalls, hholds, hgone, fun limit budget => ?_⟩
    have hsteps : Steps (Machine.Step s.program.code) n m a := hpath.mono fun h => h.1
    exact Machine.run_of_steps limit budget (hsteps.snoc hleave)

theorem endless_of_not_escapes (hescapes : ¬ r.Escapes) : r.Endless s.program m := by
  obtain ⟨t, hn, -⟩ := h.exists_tree
  obtain ⟨mid, hs⟩ := henters.exists_spans hn
  have htests : ∀ k, ¬ r.Stops k := fun k hstops => hescapes (.of_stops hstops)
  refine ⟨fun k => goesOn_of_not_stops (htests k), fun hsteps => ?_, fun hcompletes limit => ?_⟩
  · obtain ⟨-, k, hat | hlap⟩ := exists_path hs henters.command henters.stride_ne hn henters.reached
      hspares henters htests hsteps
    exacts [hat.inLoop hs, hlap.inLoop hs]
  · -- So many iterations take more commands than the limit allows for.
    obtain ⟨n, a, hlaps⟩ := hcompletes.exists_laps (k := limit + 1) hs henters.command
      henters.stride_ne hn henters.reached hspares henters fun j _ => htests j
    obtain ⟨hpath, -, -, hcount⟩ := hlaps.spec hs henters.command henters.stride_ne hn
      henters.reached hspares henters
    have hsteps : Steps (Machine.Step s.program.code) n m a := hpath.mono fun h => h.1
    obtain ⟨n₀, hm⟩ := henters.reached
    obtain ⟨b, hb⟩ := (hm.trans hsteps).exists_take (show limit + 1 ≤ n₀ + n by omega)
    exact Program.run_setLimit_of_steps h.parsed_eq_true hb

end Accepted

end LoopRun

/-! ## Checking by running -/

namespace LoopRun

variable {r : LoopRun} {code : List CodeLine} {m : Machine} {fuel : Nat}

/-- The command that is not in a call is between two positions. -/
def bottomWithin (low high : Nat) (m : Machine) : Bool :=
  ((m.pc :: m.calls).getLast?).any fun q => low ≤ q && q ≤ high

theorem bottomWithin_of_suffix {low high q : Nat} (hq : [q] <:+ m.pc :: m.calls) (hlow : low ≤ q)
    (hhigh : q ≤ high) : bottomWithin low high m = true := by
  unfold bottomWithin
  rw [List.singleton_suffix_iff_getLast?_eq_some.1 hq]
  simp [hlow, hhigh]

/-- In one state of a loop outside calls: an iteration that begins comes to its end, and the variable
is not written in it. -/
def soundAt (r : LoopRun) (code : List CodeLine) (fuel : Nat) (m : Machine) : Bool :=
  (!(m.pc == r.start + 1 && m.calls.isEmpty) ||
      Machine.meets code (fun b => b.pc == r.stop && b.calls.isEmpty) fuel m) &&
    (!bottomWithin (r.start + 1) (r.stop - 1) m ||
      (commandAt code m.pc).bind (·.target? code m.pc) != some r.loop.var)

/-- If the run shows it, the iterations complete and do not write the variable. -/
theorem sound_of_holdsWhile (hcalls : m.calls = []) (hlt : r.start < r.stop)
    (h : Machine.holdsWhile code (bottomWithin r.start r.stop) (r.soundAt code) fuel m = true) :
    r.Completes code m ∧ r.SparesVariable code m := by
  have hsound {n a} (ha : r.Path code m n a) (hin : bottomWithin r.start r.stop a = true) :
      ∃ fuel, r.soundAt code fuel a = true := by
    refine Machine.exists_of_holdsWhile h (ha.mono fun {a b} hstep => ⟨hstep.1, ?_⟩) hin
    obtain ⟨q, hq, hlow, hhigh⟩ := hstep.2
    rw [hcalls] at hq
    exact bottomWithin_of_suffix hq hlow hhigh
  constructor
  · intro n a ha hpc hempty
    rw [hcalls] at hempty
    have hframe : [a.pc] <:+ a.pc :: a.calls := by simp [hempty]
    obtain ⟨fuel, hsound⟩ := hsound ha (bottomWithin_of_suffix hframe (by omega) (by omega))
    have hmeets : Machine.meets code (fun b => b.pc == r.stop && b.calls.isEmpty) fuel a = true := by
      simpa [hpc, hempty] using (Bool.and_eq_true_iff.1 hsound).1
    obtain ⟨j, b, hsteps, hgoal⟩ := Machine.exists_of_meets hmeets
    refine ⟨j, b, hsteps, ?_⟩
    rw [hcalls]
    simpa using hgoal
  · intro n a c ha hin hc htarget
    obtain ⟨q, hq, hlow, hhigh⟩ := hin
    rw [hcalls] at hq
    obtain ⟨fuel, hsound⟩ := hsound ha (bottomWithin_of_suffix hq (by omega) (by omega))
    have hbody := bottomWithin_of_suffix hq (show r.start + 1 ≤ q by omega)
      (show q ≤ r.stop - 1 by omega)
    simpa [hbody, hc, htarget] using (Bool.and_eq_true_iff.1 hsound).2

end LoopRun

/-- A counted loop over whole numbers whose iterations do not write its variable is left after a
fixed number of them if its values come to one past the last, and never otherwise. -/
theorem Session.Accepted.loopExit {source : String} {s₀ s : Session} (h : Accepted source s₀ s)
    {r : LoopRun} {m : Machine} (henters : r.Enters s.program.code m)
    (hspares : r.SparesVariable s.program.code m) :
    (r.Escapes → ∃ k, r.LeavesAfter s.program.code m k) ∧
      (¬ r.Escapes → r.Endless s.program m) ∧
      (LoopRun.Fits (r.last.toInt + r.stride.toInt) → r.Escapes) :=
  ⟨LoopRun.Escapes.exists_leavesAfter h henters hspares,
    LoopRun.endless_of_not_escapes h henters hspares,
    LoopRun.escapes_of_fits henters.stride_ne⟩

/-- A loop that calls a method, and whose variable wraps around twice before it is past the end. -/
def Session.wrapping : String :=
  "method m\nclear\nend method\nfor i = 2305843009213693952 to 4611686018427387904 " ++
    "step 6917529027641081856\ncall m\nend for"

/-- The loop of `wrapping`. -/
def LoopRun.wrapping : LoopRun where
  loop := ⟨"i", "2305843009213693952", "4611686018427387904", some "6917529027641081856"⟩
  start := 3
  stop := 5
  first := 2305843009213693952
  last := 4611686018427387904
  stride := 6917529027641081856

/-- The code of `wrapping`. -/
def Session.wrappingCode : List CodeLine :=
  [⟨.method "m", 0, "method m"⟩, ⟨.draw .clear, 1, "clear"⟩, ⟨.endMethod, 2, "end-method"⟩,
    ⟨.countTo LoopRun.wrapping.loop, 3,
      "for i = 2305843009213693952 to 4611686018427387904 step 6917529027641081856"⟩,
    ⟨.call "m", 4, "call m"⟩, ⟨.endFor, 5, "end-for"⟩]

theorem Session.loopExit_wrapping : ∃ s m, Accepted wrapping {} s ∧
    LoopRun.wrapping.Enters s.program.code m ∧ LoopRun.wrapping.SparesVariable s.program.code m ∧
    LoopRun.wrapping.Completes s.program.code m ∧ LoopRun.wrapping.Escapes ∧ ∃ n a m',
      LoopRun.wrapping.Laps s.program.code m 6 n a ∧ Machine.Step s.program.code a m' ∧
      m'.pc = 6 ∧ m'.Holds "i" 6917529027641081856 ∧ m'.loops[3]? = none := by
  obtain ⟨s, hs, hcode⟩ := exists_accepted wrapping (fun p => p.code == wrappingCode)
    (by decide +kernel)
  rw [beq_iff_eq] at hcode
  -- The machine behind the header of the method is the one that enters the loop.
  have hentry : (Machine.next? wrappingCode {}).any (fun m => decide (m.pc = 3 ∧ m.calls = [] ∧
      m.loops[3]? = none ∧ m.store.get? "i" = none ∧
      (Formula.evaluateAs m.store .int "2305843009213693952").toOption =
        some (.int 2305843009213693952) ∧
      (Formula.evaluateAs m.store .int "4611686018427387904").toOption =
        some (.int 4611686018427387904) ∧
      (Formula.evaluateAs m.store .int "6917529027641081856").toOption =
        some (.int 6917529027641081856)) &&
      Machine.holdsWhile wrappingCode (LoopRun.bottomWithin 3 5)
        (LoopRun.wrapping.soundAt wrappingCode) 60 m) = true := by
    decide +kernel
  obtain ⟨m, hnext, htest⟩ := (Option.any_eq_true _ _).1 hentry
  rw [Bool.and_eq_true, decide_eq_true_eq] at htest
  obtain ⟨⟨hpc, hcalls, hidle, hvar, hfirst, hlast, hstride⟩, hsound⟩ := htest
  obtain ⟨hcompletes, hspares⟩ :=
    LoopRun.sound_of_holdsWhile (r := LoopRun.wrapping) hcalls (by decide) hsound
  have henters : LoopRun.wrapping.Enters wrappingCode m :=
    { reached := ⟨1, .single (Machine.next?_eq_some.1 hnext)⟩
      pc := hpc
      command := rfl
      stop := ⟨none, by decide⟩
      idle := hidle
      var := .inl hvar
      first := Attempt.toOption_eq_some.1 hfirst
      last := Attempt.toOption_eq_some.1 hlast
      stride := Attempt.toOption_eq_some.1 hstride
      stride_ne := by decide }
  rw [← hcode] at henters hspares hcompletes
  have hescapes : LoopRun.wrapping.Escapes := ⟨6917529027641081856, by decide, by decide⟩
  obtain ⟨k, hleaves⟩ := (hs.loopExit henters hspares).1 hescapes
  -- The test tells how many iterations there are.
  have hk : k = 6 := by
    have hearlier : ∀ j < 6, ¬ LoopRun.wrapping.Beyond (LoopRun.wrapping.held j) := by decide
    have hlater : LoopRun.wrapping.Stops 6 := LoopRun.stops_iff.2 (by decide)
    have hstops : LoopRun.wrapping.Stops k := by
      simpa [LoopRun.Stops] using hleaves.test k (Nat.le_refl k)
    refine Nat.le_antisymm (Nat.le_of_not_lt fun hlt => ?_) (Nat.le_of_not_lt fun hlt => ?_)
    · have htest := (hleaves.test 6 (Nat.le_of_lt hlt)).symm.trans hlater
      simp [hlt] at htest
    · exact hearlier k hlt (LoopRun.stops_iff.1 hstops)
  subst hk
  obtain ⟨n, a, m', hlaps, hleave, hpc', -, hholds, hgone, -⟩ := hleaves.leaves hcompletes
  exact ⟨s, m, hs, henters, hspares, hcompletes, hescapes, n, a, m', hlaps, hleave, hpc', hholds,
    hgone⟩

/-- A loop over one number, the largest. -/
def Session.atLargest : String :=
  "for i = 9223372036854775807 to 9223372036854775807\nend for"

/-- The loop of `atLargest`. -/
def LoopRun.atLargest : LoopRun where
  loop := ⟨"i", "9223372036854775807", "9223372036854775807", none⟩
  start := 0
  stop := 1
  first := 9223372036854775807
  last := 9223372036854775807
  stride := 1

/-- The variable wraps around, since no number is past the largest one. -/
theorem Session.endless_atLargest : ∃ s, Accepted atLargest {} s ∧
    LoopRun.atLargest.Enters s.program.code {} ∧
    LoopRun.atLargest.SparesVariable s.program.code {} ∧
    LoopRun.atLargest.Completes s.program.code {} ∧
    (∀ k, CountedLoop.goesOn (.int (LoopRun.atLargest.held k)) LoopRun.atLargest.bounds = .ok true) ∧
    ∀ limit, ∃ pos, (s.program.setLimit limit).run.result = .error (.limitExceeded limit pos) := by
  obtain ⟨s, hs, hcode⟩ := exists_accepted atLargest (fun p => p.code ==
    [⟨.countTo LoopRun.atLargest.loop, 0, "for i = 9223372036854775807 to 9223372036854775807"⟩,
      ⟨.endFor, 1, "end-for"⟩]) (by decide +kernel)
  rw [beq_iff_eq] at hcode
  have henters : LoopRun.atLargest.Enters s.program.code {} :=
    { reached := ⟨0, .refl _⟩
      pc := rfl
      command := by rw [hcode]; rfl
      stop := ⟨none, by rw [hcode]; rfl⟩
      idle := by simp
      var := .inl (Store.get?_empty _)
      first := Attempt.toOption_eq_some.1 (by decide +kernel)
      last := Attempt.toOption_eq_some.1 (by decide +kernel)
      stride := rfl
      stride_ne := by decide }
  have hspares : LoopRun.atLargest.SparesVariable s.program.code {} := by
    rintro n a c - ⟨q, -, hlow, hhigh⟩
    exact absurd hhigh (Nat.not_lt.2 hlow)
  have hcompletes : LoopRun.atLargest.Completes s.program.code {} :=
    fun {n a} _ hpc hcalls => ⟨0, a, .refl a, hpc, hcalls⟩
  have hescapes : ¬ LoopRun.atLargest.Escapes := by
    rintro ⟨i, hbeyond, -⟩
    have hlt : (9223372036854775807 : Int64) < i := hbeyond
    have hle := i.toInt_le
    rw [Int64.lt_iff_toInt_lt] at hlt
    exact absurd hlt (Int.not_lt.2 hle)
  have hendless := LoopRun.endless_of_not_escapes hs henters hspares hescapes
  exact ⟨s, hs, henters, hspares, hcompletes, hendless.test, hendless.cutOff hcompletes⟩

end PenScript
