import Mathlib.Tactic.Linarith
import PenScript.Proofs.Limit
import PenScript.Proofs.Reentry

/-!
# How often a counted loop runs

* `LoopRun` is a counted loop with its ends in the code and whole numbers as its bounds;
  `LoopRun.rounds` says how often it runs, `LoopRun.value k` what its variable is in round `k`;
* `LoopRun.goesOn_eq` : the test of the loop succeeds exactly before that many rounds;
* `LoopRun.Enters`, `LoopRun.Calm` : the loop is entered with these bounds, and its body calls
  nothing, completes and does not write the variable;
* `LoopRun.Ready r k m` : the next test of the loop is made with the value of round `k`;
  `LoopRun.Runs r k m` : round `k` is on;
* `LoopRun.Round`, `LoopRun.Rounds` : one round, and rounds one after the other;
* `LoopRun.calm_of_holdsWhile` : a run of the loop shows whether its body is calm;
* `Session.Accepted.iterationLaw` : the main result.
-/

namespace PenScript

/-- A counted loop from `start` to `stop`, entered with whole numbers as its bounds. -/
structure LoopRun where
  loop : CountedLoop
  start : Nat
  stop : Nat
  first : Int64
  last : Int64
  stride : Int64

namespace LoopRun

/-- The value of the variable in a round. -/
def value (r : LoopRun) (k : Nat) : Int := r.first.toInt + k * r.stride.toInt

/-- How often the loop runs. -/
def rounds (r : LoopRun) : Nat := (Int.fdiv (r.last.toInt - r.first.toInt) r.stride.toInt + 1).toNat

/-- What the machine keeps of the loop while it runs. -/
def bounds (r : LoopRun) : LoopBounds := ⟨.int r.last, .int r.stride⟩

/-! ## The values -/

variable {r : LoopRun} {k : Nat}

theorem value_succ (r : LoopRun) (k : Nat) : r.value (k + 1) = r.value k + r.stride.toInt := by
  unfold value
  push_cast
  rw [Int.add_mul, Int.one_mul, Int.add_assoc]

theorem stride_toInt_ne (h : r.stride ≠ 0) : r.stride.toInt ≠ 0 := by
  intro hzero
  exact h (Int64.toInt_inj.1 hzero)

/-- Upwards, the rounds are those in which the last value is not passed. -/
theorem lt_rounds_iff_of_pos (h : 0 < r.stride.toInt) :
    k < r.rounds ↔ r.value k ≤ r.last.toInt := by
  rw [rounds, Int.lt_toNat, Int.lt_add_one_iff, Int.fdiv_eq_ediv_of_nonneg _ (Int.le_of_lt h),
    Int.le_ediv_iff_mul_le h, value]
  omega

/-- Downwards, the same. -/
theorem lt_rounds_iff_of_neg (h : r.stride.toInt < 0) :
    k < r.rounds ↔ r.last.toInt ≤ r.value k := by
  have hpos : 0 < -r.stride.toInt := by omega
  rw [rounds, Int.lt_toNat, Int.lt_add_one_iff, ← Int.neg_fdiv_neg,
    Int.fdiv_eq_ediv_of_nonneg _ (Int.le_of_lt hpos), Int.le_ediv_iff_mul_le hpos, value,
    Int.mul_neg]
  omega

/-- The test compares with the last value, in the direction of the steps. -/
theorem goesOn_int (r : LoopRun) (i : Int64) : CountedLoop.goesOn (.int i) r.bounds =
    .ok (if r.stride > 0 then decide (i ≤ r.last) else decide (i ≥ r.last)) := by
  unfold CountedLoop.goesOn bounds Value.isPositive
  by_cases hpos : r.stride > 0 <;> simp [hpos]

/-- The test of the loop succeeds exactly before all rounds are done. -/
theorem goesOn_eq (h : r.stride ≠ 0) {i : Int64} (hi : i.toInt = r.value k) :
    CountedLoop.goesOn (.int i) r.bounds = .ok (decide (k < r.rounds)) := by
  rw [goesOn_int]
  by_cases hpos : r.stride > 0
  · have hpos' : 0 < r.stride.toInt := Int64.lt_iff_toInt_lt.1 hpos
    simp only [hpos, if_true, lt_rounds_iff_of_pos hpos', ← hi, Int64.le_iff_toInt_le]
  · have hneg : r.stride.toInt < 0 := by
      have hne := stride_toInt_ne h
      have hle : ¬ 0 < r.stride.toInt := fun hlt => hpos (Int64.lt_iff_toInt_lt.2 hlt)
      omega
    simp only [hpos, if_false, lt_rounds_iff_of_neg hneg, ← hi, ge_iff_le, Int64.le_iff_toInt_le]

/-- The number fits into a variable. -/
def Fits (x : Int) : Prop := -2 ^ 63 ≤ x ∧ x < 2 ^ 63

/-- If the value behind the last round fits, so do those before. -/
theorem fits_value (h : Fits (r.value r.rounds)) (hk : k ≤ r.rounds) : Fits (r.value k) := by
  have hfirst := r.first.le_toInt
  have hfirst' := r.first.toInt_lt
  have hkn : (k : Int) ≤ r.rounds := by exact_mod_cast hk
  have hk0 : (0 : Int) ≤ k := Int.natCast_nonneg k
  unfold Fits value at *
  by_cases hpos : 0 ≤ r.stride.toInt
  · have hge := mul_nonneg hk0 hpos
    have hle := mul_le_mul_of_nonneg_right hkn hpos
    constructor <;> linarith
  · have hneg : r.stride.toInt ≤ 0 := by omega
    have hle := mul_nonpos_of_nonneg_of_nonpos hk0 hneg
    have hge := mul_le_mul_of_nonpos_right hkn hneg
    constructor <;> linarith

theorem toInt_add_stride {i : Int64} (hi : i.toInt = r.value k) (h : Fits (r.value (k + 1))) :
    (i + r.stride).toInt = r.value (k + 1) := by
  obtain ⟨hge, hlt⟩ := h
  rw [value_succ] at hge hlt ⊢
  rw [Int64.toInt_add, hi]
  exact Int.bmod_eq_of_le (by omega) (by omega)

end LoopRun

/-- The variable holds the whole number. -/
def Machine.Holds (m : Machine) (name : String) (x : Int) : Prop :=
  ∃ i : Int64, m.store.get? name = some (.int i) ∧ i.toInt = x

/-- A step from a position between the two, or from one of them. -/
def Machine.StepWithin (code : List CodeLine) (start stop : Nat) (m m' : Machine) : Prop :=
  Step code m m' ∧ start ≤ m.pc ∧ m.pc ≤ stop

namespace LoopRun

/-- The run comes to the loop, which does not run, and its bounds come out as whole numbers. -/
structure Enters (r : LoopRun) (code : List CodeLine) (m : Machine) : Prop where
  reached : Machine.Reached code m
  pc : m.pc = r.start
  command : commandAt code r.start = some (.countTo r.loop)
  stop : ∃ mid, Block.findEnd (markers code) r.start .forLoop = .ok ⟨mid, r.stop⟩
  idle : m.loops[r.start]? = none
  var : m.store.get? r.loop.var = none ∨ ∃ i, m.store.get? r.loop.var = some (.int i)
  first : Formula.evaluateAs m.store .int r.loop.start = .ok (.int r.first)
  last : Formula.evaluateAs m.store .int r.loop.stop = .ok (.int r.last)
  stride : match r.loop.step with
    | some formula => Formula.evaluateAs m.store .int formula = .ok (.int r.stride)
    | none => r.stride = 1
  stride_ne : r.stride ≠ 0

/-- In this execution of the loop, which starts in `m`, the body is as good as one could wish. -/
structure Calm (r : LoopRun) (code : List CodeLine) (m : Machine) : Prop where
  /-- It calls no method. -/
  calls : ∀ q name, r.start < q → q < r.stop → commandAt code q ≠ some (.call name)
  /-- Whenever it is begun, the run comes to its end. -/
  completes : ∀ {n a}, Steps (Machine.StepWithin code r.start r.stop) n m a → a.pc = r.start + 1 →
    ∃ j b, Steps (Machine.Step code) j a b ∧ b.pc = r.stop
  /-- No command that is executed in it writes the variable. -/
  spares : ∀ {n a c}, Steps (Machine.StepWithin code r.start r.stop) n m a → r.start < a.pc →
    a.pc < r.stop → commandAt code a.pc = some c → c.target? code a.pc ≠ some r.loop.var

/-- Round `k` is on: the variable has its value, and the machine keeps the bounds. -/
def Runs (r : LoopRun) (k : Nat) (m : Machine) : Prop :=
  m.Holds r.loop.var (r.value k) ∧ m.loops[r.start]? = some r.bounds

/-- A step inside the body in round `k`. -/
def BodyStep (r : LoopRun) (code : List CodeLine) (k : Nat) (m m' : Machine) : Prop :=
  Machine.Step code m m' ∧ (r.start < m.pc ∧ m.pc < r.stop) ∧ r.Runs k m

/-- Round `k`, of `n` commands: from the loop into the body, through it, and from its end back. -/
def Round (r : LoopRun) (code : List CodeLine) (k n : Nat) (m m' : Machine) : Prop :=
  ∃ j a b, n = j + 2 ∧ m.pc = r.start ∧ Machine.Step code m a ∧ a.pc = r.start + 1 ∧
    Steps (r.BodyStep code k) j a b ∧ (b.pc = r.stop ∧ r.Runs k b) ∧ Machine.Step code b m' ∧
    m'.pc = r.start

/-- The first `k` rounds, of `n` commands. -/
inductive Rounds (r : LoopRun) (code : List CodeLine) (m : Machine) : Nat → Nat → Machine → Prop
  | none : Rounds r code m 0 0 m
  | round {k n n' : Nat} {a b : Machine} (h : Rounds r code m k n a) (hr : r.Round code k n' a b) :
      Rounds r code m (k + 1) (n + n') b

/-! ## The commands of the loop -/

/-- The next test of the loop is made with the value of round `k`: it is the one that the loop is
entered with, or the variable has it. -/
def Ready (r : LoopRun) (k : Nat) (m : Machine) : Prop :=
  ∃ (i : Int64) (s : Scene), i.toInt = r.value k ∧
    (r.loop.head m.loops[r.start]?).onScene.run m.scene = .ok (.int i, r.bounds) s ∧
    s.store.get? r.loop.var = some (.int i)

section Commands

variable {r : LoopRun} {k : Nat} {code : List CodeLine} {m : Machine}

theorem Enters.type_eq (h : r.Enters code m) : r.loop.type m.store = .int := by
  unfold CountedLoop.type
  rcases h.var with hnone | ⟨i, hi⟩
  · rw [hnone]
    rfl
  · rw [hi]
    rfl

theorem Enters.run_stride (h : r.Enters code m) :
    (r.loop.stride .int).run m = .ok (.int r.stride) m := by
  have hstride := h.stride
  unfold CountedLoop.stride
  cases hstep : r.loop.step with
  | some formula =>
    rw [hstep] at hstride
    exact Exec.run_compute_ok.2 ⟨hstride, rfl⟩
  | none =>
    rw [hstep] at hstride
    rw [hstride]
    rfl

/-- The variable is bound to the first value. -/
theorem Enters.run_settle (h : r.Enters code m) :
    (r.loop.settle (.int r.first) (.int r.last) (.int r.stride)).run m = .ok (.int r.first, r.bounds)
      { m with store := m.store.insert r.loop.var (.int r.first) } := by
  have hzero : (Exec.convert (Value.int r.stride).isZero).run m = .ok false m := by
    refine Exec.run_convert_ok.2 ⟨?_, rfl⟩
    simp [Value.isZero, h.stride_ne]
  have hdeclare : (Store.declare r.loop.var (.int r.first)).run m.store =
      .ok () (m.store.insert r.loop.var (.int r.first)) := by
    refine Store.declare_ok.2 ⟨fun t ht => .inl ?_, rfl⟩
    rcases h.var with hnone | ⟨i, hi⟩
    · rw [Store.type?, hnone] at ht
      cases ht
    · rw [Store.type?_of_get? hi] at ht
      cases ht
      rfl
  have hupdate : (Exec.update (Store.declare r.loop.var (.int r.first))).run m =
      .ok () { m with store := m.store.insert r.loop.var (.int r.first) } := by
    rw [Exec.run_update, hdeclare]
  unfold CountedLoop.settle
  rw [Attempt.run_bind_ok hzero]
  exact Attempt.run_bind_ok hupdate

theorem Enters.run_enter (h : r.Enters code m) : r.loop.enter.run m = .ok (.int r.first, r.bounds)
    { m with store := m.store.insert r.loop.var (.int r.first) } := by
  have hfirst : (Exec.compute (Formula.evaluateAs · .int r.loop.start)).run m =
      .ok (.int r.first) m := Exec.run_compute_ok.2 ⟨h.first, rfl⟩
  have hlast : (Exec.compute (Formula.evaluateAs · .int r.loop.stop)).run m =
      .ok (.int r.last) m := Exec.run_compute_ok.2 ⟨h.last, rfl⟩
  rw [CountedLoop.enter_eq, Attempt.run_bind_ok (EStateM.run_get m)]
  dsimp only
  rw [h.type_eq, Attempt.run_bind_ok hfirst, Attempt.run_bind_ok hlast,
    Attempt.run_bind_ok h.run_stride]
  exact h.run_settle

theorem Enters.ready (h : r.Enters code m) : r.Ready 0 m := by
  have hhead := r.loop.enter_local.onScene_ok h.run_enter
  have hget : (m.store.insert r.loop.var (.int r.first)).get? r.loop.var = some (.int r.first) := by
    rw [Store.get?_insert, if_pos rfl]
  rw [Ready, h.idle]
  exact ⟨r.first, _, by simp [value], hhead, hget⟩

theorem Runs.ready (h : r.Runs k m) : r.Ready k m := by
  obtain ⟨⟨i, hget, hi⟩, hloops⟩ := h
  refine ⟨i, m.scene, hi, ?_, hget⟩
  rw [hloops]
  exact (r.loop.head_local _).onScene_ok (CountedLoop.run_head hget)

variable {mid : Option Nat} (hs : Spans code .forLoop r.start mid r.stop)
  (hc : commandAt code r.start = some (.countTo r.loop))

section Test

variable (hpc : m.pc = r.start) (hne : r.stride ≠ 0)
include hc hpc hne

/-- A test before all rounds are done leads into the body. -/
theorem Ready.exists_begin (h : r.Ready k m) (hk : k < r.rounds) :
    ∃ a, Machine.Step code m a ∧ a.pc = r.start + 1 ∧ r.Runs k a := by
  obtain ⟨i, s, hi, hhead, hget⟩ := h
  rw [← hpc] at hc hhead
  have hgoesOn : CountedLoop.goesOn (.int i) r.bounds = .ok true := by
    rw [goesOn_eq hne hi, decide_eq_true hk]
  obtain ⟨a, hstep, hview⟩ := Machine.step_of_gives hc (Command.gives_countTo hhead hgoesOn)
  have hpc' : a.pc = m.pc + 1 := congrArg View.pc hview
  have hloops : a.loops[m.pc]? = some r.bounds :=
    (congrFun (congrArg View.loops hview) m.pc).trans (Function.update_self ..)
  have hstore : a.store = s.store := congrArg (fun v : View => v.scene.store) hview
  rw [hpc] at hpc' hloops
  exact ⟨a, hstep, hpc', ⟨i, by rw [hstore, hget], hi⟩, hloops⟩

include hs

/-- The test when all rounds are done leads behind the end. -/
theorem Ready.exists_leave (h : r.Ready r.rounds m) :
    ∃ a, Machine.Step code m a ∧ a.pc = r.stop + 1 ∧ a.Holds r.loop.var (r.value r.rounds) ∧
      a.loops[r.start]? = none := by
  obtain ⟨i, s, hi, hhead, hget⟩ := h
  rw [← hpc] at hc hhead hs
  have hgoesOn : CountedLoop.goesOn (.int i) r.bounds = .ok false := by
    rw [goesOn_eq hne hi, decide_eq_false (Nat.lt_irrefl _)]
  obtain ⟨a, hstep, hview⟩ :=
    Machine.step_of_gives hc (Command.gives_countTo_skip hhead hgoesOn hs)
  rw [View.moved_goto _ hs.lt_length] at hview
  have hloops : a.loops[m.pc]? = none :=
    (congrFun (congrArg View.loops hview) m.pc).trans (Function.update_self ..)
  have hstore : a.store = s.store := congrArg (fun v : View => v.scene.store) hview
  rw [hpc] at hloops
  exact ⟨a, hstep, congrArg View.pc hview, ⟨i, by rw [hstore, hget], hi⟩, hloops⟩

end Test

include hs hc

/-- From the end of the loop the run goes back to the loop, and the step is added to the variable. -/
theorem exists_back {i : Int64} (hget : m.store.get? r.loop.var = some (.int i))
    (hloops : m.loops[r.start]? = some r.bounds) (hpc : m.pc = r.stop) :
    ∃ a, Machine.Step code m a ∧ a.pc = r.start ∧ a.calls = m.calls ∧
      a.store.get? r.loop.var = some (.int (i + r.stride)) ∧ a.loops[r.start]? = some r.bounds := by
  have hforward : (r.loop.forward r.bounds).run m =
      .ok () { m with store := m.store.insert r.loop.var (.int (i + r.stride)) } :=
    CountedLoop.run_forward hget rfl rfl
  rw [← hpc] at hs
  have hend : commandAt code m.pc = some .endFor := hs.stop_command (o := .countTo r.loop) rfl
  obtain ⟨a, hstep, hview⟩ := Machine.step_of_gives hend (Command.gives_endFor hs hc hloops
    ((r.loop.forward_local r.bounds).onScene_ok hforward))
  rw [View.moved_goto _ (Nat.le_of_lt (Nat.lt_trans hs.lt hs.lt_length))] at hview
  have hstore : a.store = m.store.insert r.loop.var (.int (i + r.stride)) :=
    congrArg (fun v : View => v.scene.store) hview
  refine ⟨a, hstep, congrArg View.pc hview, congrArg View.calls hview, ?_,
    (congrFun (congrArg View.loops hview) r.start).trans hloops⟩
  rw [hstore, Store.get?_insert, if_pos rfl]

/-- From the end of a round the run goes back to the loop, with the variable one step further. -/
theorem Runs.exists_back (h : r.Runs k m) (hpc : m.pc = r.stop) (hfits : Fits (r.value (k + 1))) :
    ∃ a, Machine.Step code m a ∧ a.pc = r.start ∧ r.Ready (k + 1) a := by
  obtain ⟨⟨i, hget, hi⟩, hloops⟩ := h
  obtain ⟨a, hstep, hpc', -, hget', hloops'⟩ := LoopRun.exists_back hs hc hget hloops hpc
  exact ⟨a, hstep, hpc', Runs.ready ⟨⟨_, hget', toInt_add_stride hi hfits⟩, hloops'⟩⟩

end Commands

/-! ## The body -/

section Body

variable {r : LoopRun} {k n j : Nat} {code : List CodeLine} {t : BlockTree} {m a b : Machine}
  {mid : Option Nat}

theorem reached_of_within (h : Steps (Machine.StepWithin code r.start r.stop) n m a)
    (hm : Machine.Reached code m) : Machine.Reached code a :=
  h.induct (P := Machine.Reached code) (fun hm hs => hm.step hs.1) hm

variable (hn : Nested code t) (hs : Spans code .forLoop r.start mid r.stop)
  (hcalm : r.Calm code m) (hm : Machine.Reached code m)
include hn hs hcalm hm

/-- The step: the run stays in the body until it comes to its end, and the round goes on. -/
theorem Calm.step (ha : Steps (Machine.StepWithin code r.start r.stop) n m a)
    (hin : r.start ∈ inner code a.pc) (hlt : a.pc < r.stop) (hruns : r.Runs k a)
    (h : Machine.Step code a b) : r.start ∈ inner code b.pc ∧ r.Runs k b := by
  have hreached := reached_of_within ha hm
  have hstart := lt_of_mem_inner hin
  have hcalls : b.calls = a.calls := by
    rcases h.calls_cases hn hreached with hcalls | ⟨-, -, name, hc⟩ | ⟨site, -, hend, -⟩
    · exact hcalls
    · exact absurd hc (hcalm.calls a.pc name hstart hlt)
    · rw [hend] at hin
      cases hin
  have hne : a.pc ≠ r.start := Nat.ne_of_gt hstart
  refine ⟨?_, ?_⟩
  · rcases (h.inner_of_calls_eq hn hreached hcalls hs.loopAt hne).2 hin with hin | ⟨-, mid', hs'⟩
    · exact hin
    · have hstop := (hs.unique_of_start hs').2
      omega
  · obtain ⟨⟨i, hget, hi⟩, hloops⟩ := hruns
    have hkeeps := h.get?_eq fun c hc => hcalm.spares ha hstart hlt hc
    exact ⟨⟨i, hkeeps.trans hget, hi⟩, (h.loops_of_ne hn hreached hne).trans hloops⟩

/-- The run: from inside the body the run comes to its end, and the round is on all the time. -/
theorem Calm.exists_stop (ha : Steps (Machine.StepWithin code r.start r.stop) n m a)
    (hin : r.start ∈ inner code a.pc) (hruns : r.Runs k a) (h : Steps (Machine.Step code) j a b)
    (hb : b.pc = r.stop) : ∃ i n' a', Steps (r.BodyStep code k) i a a' ∧ a'.pc = r.stop ∧
      r.Runs k a' ∧ Steps (Machine.StepWithin code r.start r.stop) n' m a' := by
  induction h generalizing n with
  | refl a => exact ⟨0, n, a, .refl a, hb, hruns, ha⟩
  | @cons j a a₁ b h hsteps ih =>
    have hle := hs.le_stop_of_mem_opens ((List.takeWhile_prefix _).subset hin)
    have hstart := lt_of_mem_inner hin
    rcases Nat.lt_or_eq_of_le hle with hlt | heq
    · obtain ⟨hin₁, hruns₁⟩ := hcalm.step hn hs hm ha hin hlt hruns h
      have ha₁ := ha.snoc ⟨h, Nat.le_of_lt hstart, hle⟩
      obtain ⟨i, n', a', hbody, hrest⟩ := ih ha₁ hin₁ hruns₁ hb
      exact ⟨i + 1, n', a', .cons ⟨h, ⟨hstart, hlt⟩, hruns⟩ hbody, hrest⟩
    · exact ⟨0, n, a, .refl a, heq, hruns, ha⟩

/-- The step: a test before all rounds are done begins a round, behind which the next test comes. -/
theorem Calm.exists_round (hc : commandAt code r.start = some (.countTo r.loop))
    (hne : r.stride ≠ 0) (hfits : Fits (r.value r.rounds)) (hk : k < r.rounds)
    (ha : Steps (Machine.StepWithin code r.start r.stop) n m a) (hpc : a.pc = r.start)
    (hready : r.Ready k a) : ∃ i n' b, r.Round code k i a b ∧
      Steps (Machine.StepWithin code r.start r.stop) n' m b ∧ b.pc = r.start ∧
      r.Ready (k + 1) b := by
  have hlt := hs.lt
  obtain ⟨a₁, hbegin, hpc₁, hruns₁⟩ := hready.exists_begin hc hpc hne hk
  have ha₁ := ha.snoc ⟨hbegin, by omega, by omega⟩
  have hin₁ : r.start ∈ inner code a₁.pc := by
    rw [hpc₁, inner_of_cons hs.opens_succ_start hs.loopAt.methodAt_eq_false]
    exact List.mem_cons_self
  obtain ⟨j, b, hsteps, hb⟩ := hcalm.completes ha₁ hpc₁
  obtain ⟨i, n', a₂, hbody, hpc₂, hruns₂, ha₂⟩ :=
    hcalm.exists_stop hn hs hm ha₁ hin₁ hruns₁ hsteps hb
  obtain ⟨c, hback, hpc₃, hready₃⟩ := hruns₂.exists_back hs hc hpc₂ (fits_value hfits hk)
  exact ⟨i + 2, n' + 1, c,
    ⟨i, a₁, a₂, rfl, hpc, hbegin, hpc₁, hbody, ⟨hpc₂, hruns₂⟩, hback, hpc₃⟩,
    ha₂.snoc ⟨hback, by omega, by omega⟩, hpc₃, hready₃⟩

/-- The run: as many rounds are made as the bounds say. -/
theorem Calm.exists_rounds (henters : r.Enters code m) (hfits : Fits (r.value r.rounds))
    (hk : k ≤ r.rounds) : ∃ n n' a, r.Rounds code m k n a ∧
      Steps (Machine.StepWithin code r.start r.stop) n' m a ∧ a.pc = r.start ∧ r.Ready k a := by
  induction k with
  | zero => exact ⟨0, 0, m, .none, .refl m, henters.pc, henters.ready⟩
  | succ k ih =>
    obtain ⟨n, n', a, hrounds, ha, hpc, hready⟩ := ih (Nat.le_of_succ_le hk)
    obtain ⟨i, n'', b, hround, hrest⟩ := hcalm.exists_round hn hs hm henters.command
      henters.stride_ne hfits hk ha hpc hready
    exact ⟨n + i, n'', b, .round hrounds hround, hrest⟩

end Body

end LoopRun

/-! ## Checking by running -/

namespace LoopRun

variable {r : LoopRun} {code : List CodeLine} {m : Machine} {fuel : Nat}

/-- What `Calm` asks of one state of the run. -/
def calmAt (r : LoopRun) (code : List CodeLine) (fuel : Nat) (m : Machine) : Bool :=
  (m.pc != r.start + 1 || Machine.meets code (·.pc == r.stop) fuel m) &&
    (m.pc == r.start || m.pc == r.stop ||
      (commandAt code m.pc).bind (·.target? code m.pc) != some r.loop.var)

/-- The run is in the loop or at one of its ends. -/
def within (r : LoopRun) (m : Machine) : Bool := decide (r.start ≤ m.pc ∧ m.pc ≤ r.stop)

/-- If the run shows it, the body is calm. -/
theorem calm_of_holdsWhile (hlt : r.start < r.stop)
    (hcalls : ∀ q name, r.start < q → q < r.stop → commandAt code q ≠ some (.call name))
    (h : Machine.holdsWhile code r.within (r.calmAt code) fuel m = true) : r.Calm code m := by
  have hcalm {n a} (ha : Steps (Machine.StepWithin code r.start r.stop) n m a)
      (hin : r.start ≤ a.pc ∧ a.pc ≤ r.stop) : ∃ fuel, r.calmAt code fuel a = true :=
    Machine.exists_of_holdsWhile h (ha.mono fun hstep => ⟨hstep.1, decide_eq_true hstep.2⟩)
      (decide_eq_true hin)
  refine ⟨hcalls, fun {n a} ha hpc => ?_, fun {n a c} ha hstart hstop hc htarget => ?_⟩
  · obtain ⟨fuel, hcalm⟩ := hcalm ha (by omega)
    have hmeets : Machine.meets code (·.pc == r.stop) fuel a = true := by
      simpa [hpc] using (Bool.and_eq_true_iff.1 hcalm).1
    obtain ⟨j, b, hsteps, hb⟩ := Machine.exists_of_meets hmeets
    exact ⟨j, b, hsteps, beq_iff_eq.1 hb⟩
  · obtain ⟨fuel, hcalm⟩ := hcalm ha (by omega)
    have hne := Nat.ne_of_gt hstart
    have hne' := Nat.ne_of_lt hstop
    simpa [hne, hne', hc, htarget] using (Bool.and_eq_true_iff.1 hcalm).2

end LoopRun

/-! ## The main result -/

namespace LoopRun

theorem Round.steps {r : LoopRun} {code : List CodeLine} {k n : Nat} {m m' : Machine}
    (h : r.Round code k n m m') : Steps (Machine.Step code) n m m' := by
  obtain ⟨j, a, b, rfl, -, hbegin, -, hbody, -, hback, -⟩ := h
  have hsteps : Steps (Machine.Step code) j a b := hbody.mono fun h => h.1
  exact .cons hbegin (hsteps.snoc hback)

theorem Rounds.steps {r : LoopRun} {code : List CodeLine} {k n : Nat} {m m' : Machine}
    (h : r.Rounds code m k n m') : Steps (Machine.Step code) n m m' := by
  induction h with
  | none => exact .refl m
  | round h hr ih => exact ih.trans hr.steps

end LoopRun

/-- A counted loop that is entered with whole numbers as its bounds makes as many rounds as they
say, round `k` with the variable `k` steps from the first value. -/
theorem Session.Accepted.iterationLaw {source : String} {s₀ s : Session} (h : Accepted source s₀ s)
    {r : LoopRun} {m : Machine} (henters : r.Enters s.program.code m)
    (hcalm : r.Calm s.program.code m) (hfits : LoopRun.Fits (r.value r.rounds)) :
    ∃ n a m', r.Rounds s.program.code m r.rounds n a ∧ Machine.Step s.program.code a m' ∧
      m'.pc = r.stop + 1 ∧ m'.Holds r.loop.var (r.value r.rounds) ∧ m'.loops[r.start]? = none ∧
      ∀ limit budget, Machine.run s.program.code limit (n + 1 + budget) m =
        Machine.run s.program.code limit budget m' := by
  obtain ⟨t, hn, -⟩ := h.exists_tree
  obtain ⟨mid, stop, hs⟩ := hn.exists_spans_of_start henters.command rfl
  obtain ⟨mid', hend⟩ := henters.stop
  obtain ⟨rfl, rfl⟩ : mid = mid' ∧ stop = r.stop := by
    simpa using hs.findEnd_eq.symm.trans hend
  obtain ⟨n, -, a, hrounds, -, hpc, hready⟩ :=
    hcalm.exists_rounds hn hs henters.reached henters hfits (Nat.le_refl _)
  obtain ⟨m', hleave, hpc', hholds, hgone⟩ :=
    hready.exists_leave hs henters.command hpc henters.stride_ne
  refine ⟨n, a, m', hrounds, hleave, hpc', hholds, hgone, fun limit budget => ?_⟩
  exact Machine.run_of_steps limit budget (hrounds.steps.snoc hleave)

/-- A loop whose last value is near the largest number, and whose body changes the variable that the
bounds were computed from. -/
def Session.nearLargest : String :=
  "int e = 9223372036854775805\nfor i = e - 7 to e step 3\ne = 0\n" ++
    "for j = 3 to 1 step -2\nclear\nend for\nend for"

/-- The code of `nearLargest`. -/
def Session.nearLargestCode : List CodeLine :=
  [⟨.declare ⟨.int, "e", some "9223372036854775805", false⟩, 0, "int e = 9223372036854775805"⟩,
    ⟨.countTo ⟨"i", "e - 7", "e", some "3"⟩, 1, "for i = e - 7 to e step 3"⟩,
    ⟨.declare ⟨.int, "e", some "0", true⟩, 2, "e = 0"⟩,
    ⟨.countTo ⟨"j", "3", "1", some "-2"⟩, 3, "for j = 3 to 1 step -2"⟩,
    ⟨.draw .clear, 4, "clear"⟩, ⟨.endFor, 5, "end-for"⟩, ⟨.endFor, 6, "end-for"⟩]

/-- The outer loop of `nearLargest`. -/
def LoopRun.nearLargest : LoopRun :=
  ⟨⟨"i", "e - 7", "e", some "3"⟩, 1, 6, 9223372036854775798, 9223372036854775805, 3⟩

theorem Session.iterationLaw_nearLargest : ∃ s m, Accepted nearLargest {} s ∧
    LoopRun.nearLargest.Enters s.program.code m ∧ LoopRun.nearLargest.Calm s.program.code m ∧
    LoopRun.Fits (LoopRun.nearLargest.value 3) ∧ ∃ n a m',
      LoopRun.nearLargest.Rounds s.program.code m 3 n a ∧ Machine.Step s.program.code a m' ∧
      m'.pc = 7 ∧ m'.Holds "i" 9223372036854775807 ∧ m'.loops[1]? = none := by
  obtain ⟨s, hs, hcode⟩ := exists_accepted nearLargest
    (fun p => p.code == nearLargestCode) (by decide +kernel)
  rw [beq_iff_eq] at hcode
  -- The machine behind the first command is the one that enters the loop.
  have hentry : (Machine.next? nearLargestCode {}).any (fun m => decide (m.pc = 1 ∧
      m.loops[1]? = none ∧ m.store.get? "i" = none ∧
      (Formula.evaluateAs m.store .int "e - 7").toOption = some (.int 9223372036854775798) ∧
      (Formula.evaluateAs m.store .int "e").toOption = some (.int 9223372036854775805) ∧
      (Formula.evaluateAs m.store .int "3").toOption = some (.int 3)) &&
      Machine.holdsWhile nearLargestCode LoopRun.nearLargest.within
        (LoopRun.nearLargest.calmAt nearLargestCode) 40 m) = true := by
    decide +kernel
  obtain ⟨m, hnext, htest⟩ := (Option.any_eq_true _ _).1 hentry
  rw [Bool.and_eq_true, decide_eq_true_eq] at htest
  obtain ⟨⟨hpc, hidle, hvar, hfirst, hlast, hstride⟩, hcalm⟩ := htest
  have henters : LoopRun.nearLargest.Enters nearLargestCode m :=
    { reached := ⟨1, .single (Machine.next?_eq_some.1 hnext)⟩
      pc := hpc
      command := by decide
      stop := ⟨none, by decide⟩
      idle := hidle
      var := .inl hvar
      first := Attempt.toOption_eq_some.1 hfirst
      last := Attempt.toOption_eq_some.1 hlast
      stride := Attempt.toOption_eq_some.1 hstride
      stride_ne := by decide }
  have hcalls : ∀ q name, 1 < q → q < 6 → commandAt nearLargestCode q ≠ some (.call name) := by
    intro q name _ hq hc
    have hnone : ∀ q < 6, (commandAt nearLargestCode q).all (·.keyword != .call) := by decide
    have hall := hnone q hq
    rw [hc] at hall
    cases hall
  have hcalm' : LoopRun.nearLargest.Calm nearLargestCode m :=
    LoopRun.calm_of_holdsWhile (by decide) hcalls hcalm
  have hfits : LoopRun.Fits (LoopRun.nearLargest.value LoopRun.nearLargest.rounds) := by
    unfold LoopRun.Fits
    decide +kernel
  rw [← hcode] at henters hcalm'
  obtain ⟨n, a, m', hrounds, hleave, hpc', hholds, hgone, -⟩ := hs.iterationLaw henters hcalm' hfits
  exact ⟨s, m, hs, henters, hcalm', hfits, n, a, m', hrounds, hleave, hpc', hholds, hgone⟩

end PenScript
