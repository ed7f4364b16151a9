import PenScript.Proofs.CallDiscipline
import PenScript.Proofs.LoopEntry

/-!
# Counted loops in methods that call themselves

The bounds of a loop are kept by its position, so that a call that comes to the loop again shares
them with the iteration that it is called from.

* `Machine.InIteration start stop rest m` : of the counter and the open calls, the one above the calls
  `rest` is in the body of the loop; `Machine.StepIn` is a step from such a state;
* `Machine.Began code start rest m` : an iteration has just begun;
* `Machine.Reached.exists_iteration` : a run that is in a loop has begun an iteration of it and has
  been in that iteration since;
* `Machine.Reenters` : in an iteration, a call from the body has come to the loop again;
* `Machine.Lost` : the bounds are gone, or will be when the calls above `rest` have returned, which
  every step of the iteration keeps (`Lost.step`);
* `Session.loop_lost` : a script whose run fails so;
* `Session.Accepted.loopReentry` : the main result.
-/

namespace PenScript

namespace Machine

/-- Of the counter and the open calls, the one above the calls `rest` is in the body of the loop. -/
def InIteration (start stop : Nat) (rest : List Nat) (m : Machine) : Prop :=
  ∃ q, q :: rest <:+ m.pc :: m.calls ∧ start < q ∧ q < stop

/-- A step in an iteration of the loop. -/
def StepIn (code : List CodeLine) (start stop : Nat) (rest : List Nat) (m m' : Machine) : Prop :=
  Step code m m' ∧ InIteration start stop rest m

/-- The run has just gone into the body of the loop, with the calls `rest` open. -/
def Began (code : List CodeLine) (start : Nat) (rest : List Nat) (m : Machine) : Prop :=
  ∃ m₀, Reached code m₀ ∧ m₀.pc = start ∧ m₀.calls = rest ∧ Step code m₀ m ∧ m.pc = start + 1 ∧
    m.calls = rest

/-- On the way from `m₁` to `m`, which is all in one iteration of the loop, the run comes to the loop
again while a call from the body is open. -/
def Reenters (code : List CodeLine) (start stop : Nat) (rest : List Nat) (m₁ m : Machine) : Prop :=
  ∃ m₂ i j site, Steps (StepIn code start stop rest) i m₁ m₂ ∧ m₂.pc = start ∧
    (start < site ∧ site < stop ∧ site :: rest <:+ m₂.calls) ∧
    Steps (StepIn code start stop rest) j m₂ m

/-- The loop is around the counter or an open call, with the calls `rest` below. -/
def Around (code : List CodeLine) (start : Nat) (rest : List Nat) (m : Machine) : Prop :=
  ∃ q, q :: rest <:+ m.pc :: m.calls ∧ start ∈ inner code q

section Frames

variable {code : List CodeLine} {t : BlockTree} {m m' : Machine} {p e : Nat} {mid : Option Nat}
  {rest : List Nat}

theorem suffix_frame {q : Nat} : q :: rest <:+ m.pc :: m.calls ↔
    (q = m.pc ∧ rest = m.calls) ∨ q :: rest <:+ m.calls := by
  rw [List.suffix_cons_iff, List.cons.injEq]

/-- A loop around a position other than its end. -/
theorem InIteration.of_inner {q : Nat} (hs : Spans code .forLoop p mid e)
    (hq : q :: rest <:+ m.pc :: m.calls) (hp : p ∈ inner code q) (hne : q ≠ e) :
    InIteration p e rest m := by
  have hle := hs.le_stop_of_mem_opens ((List.takeWhile_prefix _).subset hp)
  exact ⟨q, hq, lt_of_mem_inner hp, by omega⟩

/-- If the counter is at a loop in one of its iterations, a call from the body is open. -/
theorem InIteration.exists_site (h : InIteration p e rest m) (hm : m.pc = p) :
    ∃ site, p < site ∧ site < e ∧ site :: rest <:+ m.calls := by
  obtain ⟨q, hq, hlt, hlt'⟩ := h
  rcases suffix_frame.1 hq with ⟨rfl, -⟩ | hq
  · omega
  · exact ⟨q, hlt, hlt', hq⟩

/-- A step from a loop goes into its body, with bounds at hand, or behind its end, without. -/
theorem Step.cases_of_loop (hs : Spans code .forLoop p mid e) (h : Step code m m')
    (hm : m.pc = p) : m'.calls = m.calls ∧
      (m'.pc = p + 1 ∧ m'.loops[p]? ≠ none ∨ m'.pc = e + 1 ∧ m'.loops[p]? = none) := by
  subst hm
  obtain ⟨l, hl⟩ := hs.countTo_command
  obtain ⟨x, b, s, -, ⟨-, hview⟩ | ⟨-, hview⟩⟩ := h.eq_of_countTo hl hs
  · have hloops : m'.loops[m.pc]? = some b :=
      (congrFun (congrArg View.loops hview) m.pc).trans (Function.update_self ..)
    refine ⟨congrArg View.calls hview, .inl ⟨congrArg View.pc hview, ?_⟩⟩
    simp [hloops]
  · have hloops : m'.loops[m.pc]? = none :=
      (congrFun (congrArg View.loops hview) m.pc).trans (Function.update_self ..)
    exact ⟨congrArg View.calls hview, .inr ⟨congrArg View.pc hview, hloops⟩⟩

theorem Step.pc_of_loopEnd (hs : Spans code .forLoop p mid e) (h : Step code m m')
    (hm : m.pc = e) : m'.pc = p := by
  subst hm
  obtain ⟨l, hl⟩ := hs.countTo_command
  obtain ⟨b, s, -, -, hview⟩ := h.eq_of_endFor hl hs
  exact congrArg View.pc hview

variable (hn : Nested code t) (hm : Reached code m) (h : Step code m m')
include hn hm h

/-- A step leaves the calls as they were, opens one, or closes one. -/
theorem Step.calls_cases : m'.calls = m.calls ∨
    (m'.calls = m.pc :: m.calls ∧ inner code m'.pc = [] ∧
      ∃ name, commandAt code m.pc = some (.call name)) ∨
    ∃ site, m.calls = site :: m'.calls ∧ inner code m.pc = [] ∧
      inner code m'.pc = inner code site := by
  have hchain := Chain.of_reached hn hm
  cases (h.transition hn).motion with
  | inside hcalls => exact .inl hcalls
  | enter hcalls => exact .inl hcalls
  | leave hcalls => exact .inl hcalls
  | again hcalls => exact .inl hcalls
  | @call name header hc hh hcalls hloops hpc =>
    have hheader := commandAt_of_findMethod? hh
    have hinner := inner_of_cons_method (opens_start hheader rfl)
      (methodAt_eq_true.2 ⟨name, hheader⟩)
    rw [← hpc] at hinner
    exact .inr (.inl ⟨hcalls, hinner, name, hc⟩)
  | @back _ site _ hspan hcalls hloops hpc =>
    have hcalls : m.calls = site :: m'.calls := hcalls
    have hpc : m'.pc = min (site + 1) code.length := hpc
    rw [hcalls] at hchain
    refine .inr (.inr ⟨site, hcalls, ?_, ?_⟩)
    · exact inner_of_cons_method hspan.opens_stop_eq hspan.methodAt_eq_true
    · rw [hpc, hchain.back.2]
  | outside hspan hcalls => exact absurd hcalls (hchain.calls_ne_nil hspan)

/-- A step that opens and closes no call, from elsewhere than a loop, does not go into its body, and
leaves the body only from its end, back to the loop. -/
theorem Step.inner_of_calls_eq (hcalls : m'.calls = m.calls) (hp : LoopAt code p)
    (hne : m.pc ≠ p) : (p ∈ inner code m'.pc → p ∈ inner code m.pc) ∧
      (p ∈ inner code m.pc → p ∈ inner code m'.pc ∨
        m'.pc = p ∧ ∃ mid, Spans code .forLoop p mid m.pc) := by
  have hchain := Chain.of_reached hn hm
  cases (h.transition hn).motion with
  | inside _ _ _ _ hin => exact ⟨(hin p hp).1, fun hmem => .inl ((hin p hp).2 hmem)⟩
  | enter _ _ hpc ho =>
    have hinner : inner code m'.pc = m.pc :: inner code m.pc :=
      inner_of_cons ho hpc.methodAt_eq_false
    rw [hinner, List.mem_cons]
    exact ⟨fun hmem => hmem.resolve_left fun heq => hne heq.symm, fun hmem => .inl (.inr hmem)⟩
  | leave _ _ _ ho =>
    have hinner : inner code m'.pc = inner code m.pc := inner_congr ho
    rw [hinner]
    exact ⟨id, .inl⟩
  | again _ _ hspan =>
    have hinner : inner code m.pc = m'.pc :: inner code m'.pc :=
      inner_of_cons hspan.opens_stop_eq hspan.loopAt.methodAt_eq_false
    rw [hinner, List.mem_cons]
    refine ⟨.inr, fun hmem => hmem.symm.imp_right ?_⟩
    rintro rfl
    exact ⟨rfl, _, hspan⟩
  | call _ _ hopen =>
    have hlength := congrArg List.length (hcalls.symm.trans hopen)
    simp at hlength
  | back _ hclose =>
    have hlength := congrArg List.length (hclose.symm.trans hcalls.symm)
    simp at hlength
  | outside hspan hnil => exact absurd hnil (hchain.calls_ne_nil hspan)

/-- Only a step from a loop changes its bounds. -/
theorem Step.loops_of_ne (hne : m.pc ≠ p) : m'.loops[p]? = m.loops[p]? := by
  have hsame : m'.view.loops = m.view.loops → m'.loops[p]? = m.loops[p]? :=
    fun hloops => congrFun hloops p
  cases (h.transition hn).motion with
  | inside _ hloops => exact hsame hloops
  | enter _ hloops => exact (congrFun hloops p).trans (Function.update_of_ne hne.symm ..)
  | leave _ hloops => exact (congrFun hloops p).trans (Function.update_of_ne hne.symm ..)
  | again _ hloops => exact hsame hloops
  | call _ _ _ hloops => exact hsame hloops
  | back _ _ hloops => exact hsame hloops
  | outside hspan hnil => exact absurd hnil ((Chain.of_reached hn hm).calls_ne_nil hspan)

end Frames

/-! ## Iterations -/

theorem StepIn.reached {code : List CodeLine} {start stop n : Nat} {rest : List Nat}
    {m m' : Machine} (h : Steps (StepIn code start stop rest) n m m') (hm : Reached code m) :
    Reached code m' :=
  h.induct (P := Reached code) (fun hm hs => hm.step hs.1) hm

section Iteration

variable {code : List CodeLine} {t : BlockTree} {m m₁ m' : Machine} {p e n : Nat}
  {mid : Option Nat} {rest : List Nat} (hn : Nested code t) (hs : Spans code .forLoop p mid e)
include hn hs

/-- An open call stands at neither end of a loop. -/
theorem Reached.site_ne (hm : Reached code m) {site : Nat} (hsite : site ∈ m.calls) :
    site ≠ p ∧ site ≠ e := by
  obtain ⟨b, -, -, hb, -⟩ := (Chain.of_reached hn hm).leads hn site hsite
  obtain ⟨l, hl⟩ := hs.countTo_command
  constructor
  · rintro rfl
    cases hb.symm.trans hl
  · rintro rfl
    cases hb.symm.trans (hs.stop_command (o := .countTo l) rfl)

/-- The step: what is in a loop has just gone into its body, or was in the same iteration before. -/
theorem Around.of_step (hm : Reached code m) (h : Step code m m') (ha : Around code p rest m') :
    (m.pc = p ∧ m.calls = rest ∧ m'.pc = p + 1 ∧ m'.calls = rest) ∨
      (Around code p rest m ∧ InIteration p e rest m) := by
  have hin : ∀ {q}, q :: rest <:+ m.pc :: m.calls → p ∈ inner code q → q ≠ e →
      Around code p rest m ∧ InIteration p e rest m :=
    fun hq hp hne => ⟨⟨_, hq, hp⟩, .of_inner hs hq hp hne⟩
  have hsite : ∀ {q}, q :: rest <:+ m.calls → p ∈ inner code q →
      Around code p rest m ∧ InIteration p e rest m := by
    intro q hq hp
    have hne := (hm.site_ne hn hs (hq.subset List.mem_cons_self)).2
    exact hin (suffix_frame.2 (.inr hq)) hp hne
  obtain ⟨q, hq, hp⟩ := ha
  rcases h.calls_cases hn hm with hcalls | ⟨hcalls, hinner, name, hc⟩ | ⟨site, hcalls, -, hinner⟩
  · rcases suffix_frame.1 hq with ⟨rfl, hrest⟩ | hq
    · have hback : m.pc ≠ e := by
        intro hpc
        rw [h.pc_of_loopEnd hs hpc] at hp
        exact Nat.lt_irrefl p (lt_of_mem_inner hp)
      by_cases hpc : m.pc = p
      · obtain ⟨-, ⟨hpc', -⟩ | ⟨hpc', -⟩⟩ := h.cases_of_loop hs hpc
        · exact .inl ⟨hpc, (hrest.trans hcalls).symm, hpc', hrest.symm⟩
        · rw [hpc', inner_congr hs.opens_succ_stop] at hp
          exact absurd (lt_of_mem_inner hp) (Nat.lt_irrefl p)
      · have hp' := (h.inner_of_calls_eq hn hm hcalls hs.loopAt hpc).1 hp
        exact .inr (hin (suffix_frame.2 (.inl ⟨rfl, hrest.trans hcalls⟩)) hp' hback)
    · rw [hcalls] at hq
      exact .inr (hsite hq hp)
  · rcases suffix_frame.1 hq with ⟨rfl, -⟩ | hq
    · rw [hinner] at hp
      cases hp
    · rw [hcalls] at hq
      rcases suffix_frame.1 hq with ⟨rfl, hrest⟩ | hq'
      · refine .inr (hin hq hp ?_)
        rintro rfl
        obtain ⟨l, -⟩ := hs.countTo_command
        cases hc.symm.trans (hs.stop_command (o := .countTo l) rfl)
      · exact .inr (hsite hq' hp)
  · rcases suffix_frame.1 hq with ⟨rfl, hrest⟩ | hq
    · rw [hinner] at hp
      exact .inr (hsite (by simp only [hcalls, hrest, List.suffix_rfl]) hp)
    · exact .inr (hsite (by rw [hcalls]; exact hq.trans (List.suffix_cons _ _)) hp)

/-- The run: what is in a loop has begun an iteration, and has been in it since. -/
theorem Reached.exists_iteration (hm : Reached code m) (ha : Around code p rest m) :
    ∃ m₁ n, Began code p rest m₁ ∧ Steps (StepIn code p e rest) n m₁ m := by
  refine hm.induct (P := fun m => Around code p rest m →
    ∃ m₁ n, Began code p rest m₁ ∧ Steps (StepIn code p e rest) n m₁ m) ?_ ?_ ha
  · rintro ⟨q, hq, hp⟩
    rcases suffix_frame.1 hq with ⟨rfl, -⟩ | hq
    · cases hp
    · cases List.suffix_nil.1 hq
  · intro m m' hm ih hstep ha
    rcases Around.of_step hn hs hm hstep ha with ⟨hpc, hcalls, hpc', hcalls'⟩ | ⟨ha, hin⟩
    · exact ⟨m', 0, ⟨m, hm, hpc, hcalls, hstep, hpc', hcalls'⟩, .refl _⟩
    · obtain ⟨m₁, n, hbegan, hsteps⟩ := ih ha
      exact ⟨m₁, n + 1, hbegan, hsteps.snoc ⟨hstep, hin⟩⟩

omit hn in
theorem Began.loops_ne_none (h : Began code p rest m) : m.loops[p]? ≠ none := by
  obtain ⟨m₀, -, hpc, -, hstep, hpc', -⟩ := h
  have hlt := hs.lt
  obtain ⟨-, ⟨-, hloops⟩ | ⟨hout, -⟩⟩ := hstep.cases_of_loop hs hpc
  · exact hloops
  · omega

omit hn hs in
theorem Began.reached (h : Began code p rest m) : Reached code m := by
  obtain ⟨m₀, hm₀, -, -, hstep, -⟩ := h
  exact hm₀.step hstep

omit hs in
/-- In an iteration in which the run does not come to the loop again, the bounds stay. -/
theorem loops_or_reenters (hsteps : Steps (StepIn code p e rest) n m m') (hm : Reached code m) :
    m'.loops[p]? = m.loops[p]? ∨ Reenters code p e rest m m' := by
  induction hsteps with
  | refl m => exact .inl rfl
  | @cons n m m₁ m' h hsteps ih =>
    by_cases hpc : m.pc = p
    · obtain ⟨site, hsite⟩ := h.2.exists_site hpc
      exact .inr ⟨m, 0, n + 1, site, .refl m, hpc, hsite, .cons h hsteps⟩
    · rcases ih (hm.step h.1) with hloops | ⟨m₂, i, j, site, hi, hpc₂, hsite, hj⟩
      · exact .inl (hloops.trans (h.1.loops_of_ne hn hm hpc))
      · exact .inr ⟨m₂, i + 1, j, site, .cons h hi, hpc₂, hsite, hj⟩

/-- The bounds of the loop are gone, or an activation above the calls `rest` is in the loop or at it,
and will take them away. -/
def Lost (code : List CodeLine) (p : Nat) (rest : List Nat) (m : Machine) : Prop :=
  m.loops[p]? = none ∨ ∃ q above, q :: above <:+ m.pc :: m.calls ∧ rest.length < above.length ∧
    (p ∈ inner code q ∨ q = p)

/-- A step from elsewhere than the loop leads out of an iteration only from its end, back to the
loop. -/
theorem Step.around (hm : Reached code m) (h : Step code m m') (hne : m.pc ≠ p)
    (ha : Around code p rest m) : Around code p rest m' ∨
      m.pc = e ∧ m.calls = rest ∧ m'.pc = p ∧ m'.calls = rest := by
  obtain ⟨q, hq, hp⟩ := ha
  rcases h.calls_cases hn hm with hcalls | ⟨hcalls, -, -⟩ | ⟨site, hcalls, hend, hinner⟩
  · rcases suffix_frame.1 hq with ⟨rfl, hrest⟩ | hq
    · rcases (h.inner_of_calls_eq hn hm hcalls hs.loopAt hne).2 hp with hin | ⟨hpc, mid', hs'⟩
      · exact .inl ⟨m'.pc, suffix_frame.2 (.inl ⟨rfl, hrest.trans hcalls.symm⟩), hin⟩
      · exact .inr ⟨(hs.unique_of_start hs').2.symm, hrest.symm, hpc, hcalls.trans hrest.symm⟩
    · rw [← hcalls] at hq
      exact .inl ⟨q, suffix_frame.2 (.inr hq), hp⟩
  · rw [← hcalls] at hq
    exact .inl ⟨q, suffix_frame.2 (.inr hq), hp⟩
  · rcases suffix_frame.1 hq with ⟨rfl, -⟩ | hq
    · -- a method ends outside all its loops
      rw [hend] at hp
      cases hp
    · rw [hcalls, List.suffix_cons_iff, List.cons.injEq] at hq
      rcases hq with ⟨rfl, hrest⟩ | hq
      · rw [← hinner] at hp
        exact .inl ⟨m'.pc, suffix_frame.2 (.inl ⟨rfl, hrest⟩), hp⟩
      · exact .inl ⟨q, suffix_frame.2 (.inr hq), hp⟩

/-- What is in a loop stays in it or comes back to it, but for a step from the loop itself. -/
theorem Step.stays (hm : Reached code m) (h : Step code m m') (hne : m.pc ≠ p) {q : Nat}
    {above : List Nat} (hq : q :: above <:+ m.pc :: m.calls) (hp : p ∈ inner code q ∨ q = p) :
    ∃ q', q' :: above <:+ m'.pc :: m'.calls ∧ (p ∈ inner code q' ∨ q' = p) := by
  have hp' : p ∈ inner code q := by
    refine hp.resolve_right ?_
    rintro rfl
    rcases suffix_frame.1 hq with ⟨heq, -⟩ | hq
    · exact hne heq.symm
    · exact (hm.site_ne hn hs (hq.subset List.mem_cons_self)).1 rfl
  rcases h.around hn hs hm hne ⟨q, hq, hp'⟩ with ⟨q', hq', hin⟩ | ⟨-, -, hpc, hcalls⟩
  · exact ⟨q', hq', .inl hin⟩
  · exact ⟨p, suffix_frame.2 (.inl ⟨hpc.symm, hcalls.symm⟩), .inr rfl⟩

/-- The step: an activation that is in the loop or at it leaves only with the bounds gone. -/
theorem Lost.step (hm : Reached code m) (h : StepIn code p e rest m m')
    (hl : Lost code p rest m) : Lost code p rest m' := by
  obtain ⟨h, hin⟩ := h
  by_cases hpc : m.pc = p
  · obtain ⟨hcalls, ⟨hpc', -⟩ | ⟨-, hgone⟩⟩ := h.cases_of_loop hs hpc
    · obtain ⟨site, -, -, hsite⟩ := hin.exists_site hpc
      refine .inr ⟨m'.pc, m'.calls, List.suffix_rfl, ?_, .inl ?_⟩
      · rw [hcalls]
        exact hsite.length_le
      · rw [hpc', inner_of_cons hs.opens_succ_start hs.loopAt.methodAt_eq_false]
        exact List.mem_cons_self
    · exact .inl hgone
  · rcases hl with hgone | ⟨q, above, hq, hdeep, hp⟩
    · exact .inl ((h.loops_of_ne hn hm hpc).trans hgone)
    · obtain ⟨q', hq', hp'⟩ := h.stays hn hs hm hpc hq hp
      exact .inr ⟨q', above, hq', hdeep, hp'⟩

omit hn hs in
/-- When the calls above have returned, the bounds are gone. -/
theorem Lost.loops_eq_none (h : Lost code p rest m) (hcalls : m.calls = rest) :
    m.loops[p]? = none := by
  rcases h with hgone | ⟨q, above, hq, hdeep, -⟩
  · exact hgone
  · have hlength := hq.length_le
    rw [hcalls, List.length_cons, List.length_cons] at hlength
    omega

/-- If a call from the body comes to the loop again, the bounds are gone at the end of the
iteration. -/
theorem Reenters.loops_eq_none (h : Reenters code p e rest m₁ m) (hm₁ : Reached code m₁)
    (hcalls : m.calls = rest) : m.loops[p]? = none := by
  obtain ⟨m₂, i, j, site, hi, hpc₂, ⟨-, -, hsite⟩, hj⟩ := h
  have hlost : Lost code p rest m₂ :=
    .inr ⟨m₂.pc, m₂.calls, List.suffix_rfl, hsite.length_le, .inr hpc₂⟩
  have hend : Reached code m ∧ Lost code p rest m :=
    hj.induct (P := fun m => Reached code m ∧ Lost code p rest m)
      (fun hm hstep => ⟨hm.1.step hstep.1, hm.2.step hn hs hm.1 hstep⟩) ⟨StepIn.reached hi hm₁, hlost⟩
  exact hend.2.loops_eq_none hcalls

/-- At the end of a loop, the loop is around the counter. -/
theorem exists_iteration_of_stop (hm : Reached code m) (hpc : m.pc = e) :
    ∃ m₁ n, Began code p m.calls m₁ ∧ Steps (StepIn code p e m.calls) n m₁ m := by
  refine hm.exists_iteration hn hs ⟨m.pc, List.suffix_rfl, ?_⟩
  rw [hpc, inner_of_cons hs.opens_stop_eq hs.loopAt.methodAt_eq_false]
  exact List.mem_cons_self

/-- At the end of an iteration, the bounds are gone exactly if a call from the body has come to the
loop again. -/
theorem loops_eq_none_iff (hbegan : Began code p m.calls m₁)
    (hsteps : Steps (StepIn code p e m.calls) n m₁ m) :
    m.loops[p]? = none ↔ Reenters code p e m.calls m₁ m := by
  constructor
  · intro hgone
    refine (loops_or_reenters hn hsteps hbegan.reached).resolve_left fun hloops => ?_
    exact hbegan.loops_ne_none hs (hloops ▸ hgone)
  · intro h
    exact h.loops_eq_none hn hs hbegan.reached rfl

end Iteration

section Stop

variable {code : List CodeLine} {m : Machine} {p : Nat} {mid : Option Nat} {l : CountedLoop}

/-- The end of a loop fails for want of bounds exactly if they are gone. -/
theorem loops_eq_none_iff_notRunning (hs : Spans code .forLoop p mid m.pc)
    (hl : commandAt code p = some (.countTo l)) : m.loops[p]? = none ↔
      ∃ c m', code[m.pc]? = some c ∧ step code c m = .error (.notRunning l.var) m' := by
  have hcommand : commandAt code m.pc = some .endFor := hs.stop_command (o := .countTo l) rfl
  obtain ⟨c, hc, hend⟩ := commandAt_eq_some.1 hcommand
  constructor
  · intro hgone
    have hadvance : (l.advance p).run (m.noteExecute c) =
        .error (.notRunning l.var) (m.noteExecute c) := by
      have hnone : (m.noteExecute c).view.loops p = none := hgone
      rw [l.run_advance, hnone]
    refine ⟨c, m.noteExecute c, hc, ?_⟩
    rw [step_eq, hend, Command.run_endFor hs hl, Attempt.run_bind_error hadvance]
  · rintro ⟨c', m', hc', hstep⟩
    cases hc.symm.trans hc'
    have hexec := execute_of_step_error hstep
    rw [hend] at hexec
    exact ((Command.endFor_error (m := m.noteExecute c) hs hl hexec).resolve_left
      fun hvalues => hvalues trivial).1

end Stop

end Machine

/-! ## The main result -/

/-- A call in the body of the loop leads to the method that the loop is in. -/
def Recurs (code : List CodeLine) (start stop : Nat) : Prop :=
  ∃ site callee name, start < site ∧ site < stop ∧ commandAt code site = some (.call callee) ∧
    InBody code name start ∧ Relation.ReflTransGen (Calls code) callee name

theorem Machine.Reenters.recurs {code : List CodeLine} {t : BlockTree} (hn : Nested code t)
    {start stop : Nat} {rest : List Nat} {m₁ m : Machine} (hm₁ : Reached code m₁)
    (h : Reenters code start stop rest m₁ m) : Recurs code start stop := by
  obtain ⟨m₂, i, j, site, hi, hpc, ⟨hlt, hlt', hsite⟩, -⟩ := h
  have hchain := Chain.of_reached hn (StepIn.reached hi hm₁)
  obtain ⟨callee, header, name, hcallee, hmethod, hname, hpath⟩ :=
    hchain.leads hn site (hsite.subset List.mem_cons_self)
  rw [hpc] at hmethod
  exact ⟨site, callee, name, hlt, hlt', hcallee, hn.inBody_of_methodOf hmethod hname, hpath⟩

/-- Loops keep their bounds until they are done, unless a call from the body comes to them again. -/
structure LoopReentry (p : Program) : Prop where
  /-- When the end of a loop is executed, the run has been in one iteration of the loop since it went
  into the body. The bounds are gone exactly if meanwhile a call from the body has come to the loop
  again; and exactly then the command fails, since the loop does not run. -/
  stop : ∀ {m : Machine}, Machine.Reached p.code m → commandAt p.code m.pc = some .endFor →
    ∃ start l m₁ n, Block.findStart (markers p.code) m.pc .forLoop = .ok start ∧
      commandAt p.code start = some (.countTo l) ∧ Machine.Began p.code start m.calls m₁ ∧
      Steps (Machine.StepIn p.code start m.pc m.calls) n m₁ m ∧
      (m.loops[start]? = none ↔ Machine.Reenters p.code start m.pc m.calls m₁ m) ∧
      (m.loops[start]? = none ↔ ∃ c m', p.code[m.pc]? = some c ∧
        Machine.step p.code c m = .error (.notRunning l.var) m')
  /-- A run that fails since a loop does not run stops at the end of a loop with a call in its body
  that leads, directly or through others, to the method that the loop is in. -/
  run : ∀ {limit pos line : Nat} {var : String},
    (p.setLimit limit).run.result = .error (.failed pos line (.notRunning var)) →
    ∃ start l, Block.findStart (markers p.code) pos .forLoop = .ok start ∧
      commandAt p.code start = some (.countTo l) ∧ l.var = var ∧ Recurs p.code start pos

/-- In every accepted script, loops keep their bounds unless a call from the body comes to them
again. -/
theorem Session.Accepted.loopReentry {source : String} {s₀ s : Session} (h : Accepted source s₀ s) :
    LoopReentry s.program := by
  obtain ⟨t, hn, -⟩ := h.exists_tree
  constructor
  · intro m hm hc
    obtain ⟨p, mid, hs⟩ := hn.exists_spans_of_stop hc rfl
    obtain ⟨l, hl⟩ := hs.countTo_command
    obtain ⟨m₁, n, hbegan, hsteps⟩ := Machine.exists_iteration_of_stop hn hs hm rfl
    exact ⟨p, l, m₁, n, hs.findStart_eq, hl, hbegan, hsteps,
      Machine.loops_eq_none_iff hn hs hbegan hsteps, Machine.loops_eq_none_iff_notRunning hs hl⟩
  · intro limit pos line var hrun
    have hparsed : (s.program.setLimit limit).parsed = true := h.parsed_eq_true
    obtain ⟨m, c, hm, hc, rfl, -, hstep⟩ := Program.run_failed hparsed hrun
    have hcommand : commandAt s.program.code (m.noteExecute c).pc = some c.command :=
      commandAt_eq_some.2 ⟨c, hc, rfl⟩
    obtain ⟨p, mid, l, hs, hl, hgone, hvar⟩ := (Command.execute_error hn
      (fun _ _ hp => h.call_declared hp) hcommand
      (Machine.execute_of_step_error hstep)).resolve_left fun hvalues => hvalues trivial
    obtain ⟨m₁, n, hbegan, hsteps⟩ := Machine.exists_iteration_of_stop hn hs hm rfl
    have hreenters := (Machine.loops_eq_none_iff hn hs hbegan hsteps).1 hgone
    cases hvar
    exact ⟨p, l, hs.findStart_eq, hl, rfl, hreenters.recurs hn hbegan.reached⟩

/-- The body of a loop calls the method that the loop is in, once. -/
def Session.reentered : String :=
  "int n = 0\nmethod m\nfor i = 1 to 2\nn = n + 1\nif n < 2\ncall m\nend if\nend for\n" ++
    "end method\ncall m"

/-- The run fails at the position, since a loop with the variable does not run. -/
def Program.losesLoop (p : Program) (pos : Nat) (var : String) : Bool :=
  match p.run.result with
  | .error (.failed found _ (.notRunning v)) => found == pos && v == var
  | _ => false

theorem Program.losesLoop_iff {p : Program} {pos : Nat} {var : String} :
    p.losesLoop pos var = true ↔
      ∃ line, p.run.result = .error (.failed pos line (.notRunning var)) := by
  unfold losesLoop
  constructor
  · intro h
    split at h
    · rename_i found line v hrun
      obtain ⟨rfl, rfl⟩ : found = pos ∧ v = var := by simpa using h
      exact ⟨line, hrun⟩
    · cases h
  · rintro ⟨line, hrun⟩
    simp [hrun]

/-- The inner activation leaves the loop and takes the bounds away that the outer one needs at the
end of its iteration. -/
theorem Session.loop_lost : ∃ s, Accepted reentered {} s ∧ ∃ line,
    (s.program.setLimit 50).run.result = .error (.failed 7 line (.notRunning "i")) := by
  obtain ⟨s, hs, hlost⟩ := exists_accepted reentered
    (fun p => (p.setLimit 50).losesLoop 7 "i") (by decide +kernel)
  exact ⟨s, hs, Program.losesLoop_iff.1 hlost⟩

theorem Session.loopReentry_reentered : ∃ s, Accepted reentered {} s ∧ LoopReentry s.program ∧
    (s.program.setLimit 50).losesLoop 7 "i" = true ∧
    ∃ start, Block.findStart (markers s.program.code) 7 .forLoop = .ok start ∧
      Recurs s.program.code start 7 := by
  obtain ⟨s, hs, hlost⟩ := exists_accepted reentered
    (fun p => (p.setLimit 50).losesLoop 7 "i") (by decide +kernel)
  have hreentry := hs.loopReentry
  obtain ⟨line, hrun⟩ := Program.losesLoop_iff.1 hlost
  obtain ⟨start, l, hstart, -, -, hrecurs⟩ := hreentry.run hrun
  exact ⟨s, hs, hreentry, hlost, start, hstart, hrecurs⟩

end PenScript
