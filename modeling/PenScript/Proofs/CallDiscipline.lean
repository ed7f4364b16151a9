import Mathlib.Data.List.Chain
import PenScript.Proofs.Accepted
import PenScript.Proofs.CallStack

/-!
# Calls return to where they came from

* `InBody code name i` : the position is behind the start of the method and not behind its end;
  `Nested.inBody_of_methodOf`, `Nested.not_inBody_of_methodOf` : in terms of the blocks around it;
* `Serves code pos site` : a call stands at `site`, and `pos` is in the body of the method it names;
* `Machine.StepAbove code calls m m'` : a step after which these calls are still open;
* `Chain.isChain`, `Chain.outside` : the stack of calls, read from the counter outwards;
* `Machine.StepAbove.returns` : the step that takes a call off the stack goes behind that call;
* `Session.Accepted.callDiscipline` : the main result.
-/

namespace PenScript

/-! ## Bodies of methods -/

/-- The position is in the body of the method: behind its start, up to its end. -/
def InBody (code : List CodeLine) (name : String) (i : Nat) : Prop :=
  ∃ p extent, commandAt code p = some (.method name) ∧
    Block.findEnd (markers code) p .method = .ok extent ∧ p < i ∧ i ≤ extent.stop

section Opens

variable {code : List CodeLine} {i : Nat}

/-- Inside the commands of a tree, one is still in the blocks that one was in before it. -/
theorem Placed.opens_suffix {t : BlockTree} {pos : Nat} (h : Placed code pos t) (hle : pos ≤ i)
    (hlt : i ≤ pos + t.size) : opens code pos <:+ opens code i := by
  induction t generalizing pos with
  | nil =>
    rw [BlockTree.size_nil] at hlt
    obtain rfl : i = pos := by omega
    exact List.suffix_rfl
  | plain c hc rest ih =>
    obtain ⟨hcommand, hrest⟩ := plain_iff.1 h
    rw [BlockTree.size_plain] at hlt
    by_cases h1 : i = pos
    · exact h1 ▸ List.suffix_rfl
    · rw [← opens_plain hcommand hc]
      exact ih hrest (by omega) (by omega)
  | block o body rest ihb ihr =>
    have hspan := Spans.block h
    obtain ⟨-, hbody, -, hrest⟩ := block_iff.1 h
    rw [BlockTree.size_block] at hlt
    by_cases h1 : i = pos
    · exact h1 ▸ List.suffix_rfl
    by_cases h2 : i ≤ pos + 1 + body.size
    · have hinner := ihb hbody (by omega) h2
      rw [hspan.opens_succ_start] at hinner
      exact (List.suffix_cons pos _).trans hinner
    · rw [← hspan.opens_succ_stop]
      exact ihr hrest (by omega) (by omega)
  | branch g body other rest ihb iho ihr =>
    have hspan := Spans.branch h
    obtain ⟨-, hbody, -, hother, -, hrest⟩ := branch_iff.1 h
    rw [BlockTree.size_branch] at hlt
    by_cases h1 : i = pos
    · exact h1 ▸ List.suffix_rfl
    by_cases h2 : i ≤ pos + 1 + body.size
    · have hinner := ihb hbody (by omega) h2
      rw [hspan.opens_succ_start] at hinner
      exact (List.suffix_cons pos _).trans hinner
    by_cases h3 : i ≤ pos + body.size + 2 + other.size
    · have hinner := iho hother (by omega) h3
      rw [hspan.opens_succ_middle] at hinner
      exact (List.suffix_cons pos _).trans hinner
    · rw [← hspan.opens_succ_stop]
      exact ihr hrest (by omega) (by omega)

/-- What stands between the start and the end of a block is in the block. -/
theorem Spans.mem_opens {k : Block.Kind} {p e : Nat} {mid : Option Nat} (h : Spans code k p mid e)
    (hlt : p < i) (hle : i ≤ e) : p ∈ opens code i := by
  have hstart := h.opens_succ_start
  have hhead : p ∈ p :: opens code p := List.mem_cons_self
  cases h with
  | @block o body rest _ hp =>
    have hbody := (Placed.block_iff.1 hp).2.1
    have hinner := hbody.opens_suffix hlt (by omega)
    rw [hstart] at hinner
    exact hinner.subset hhead
  | @branch g body other rest _ hp =>
    have hmiddle := (Spans.branch hp).opens_succ_middle
    obtain ⟨-, hbody, -, hother, -, -⟩ := Placed.branch_iff.1 hp
    by_cases h1 : i ≤ p + 1 + body.size
    · have hinner := hbody.opens_suffix hlt h1
      rw [hstart] at hinner
      exact hinner.subset hhead
    · have hinner := hother.opens_suffix (i := i) (by omega) (by omega)
      rw [hmiddle] at hinner
      exact hinner.subset hhead

variable {t : BlockTree} (hn : Nested code t)
include hn

theorem Nested.inBody_of_methodOf {header : Nat} {name : String}
    (hm : methodOf code i = some header) (hc : commandAt code header = some (.method name)) :
    InBody code name i := by
  have hmem : header ∈ opens code i := List.mem_of_find?_eq_some hm
  obtain ⟨mid, e, hs⟩ := hn.exists_spans_of_start hc rfl
  exact ⟨header, ⟨mid, e⟩, hc, hs.findEnd_eq, lt_of_mem_opens hmem, hs.le_stop_of_mem_opens hmem⟩

theorem Nested.not_inBody_of_methodOf (hm : methodOf code i = none) (name : String) :
    ¬ InBody code name i := by
  rintro ⟨p, extent, hc, hend, hlt, hle⟩
  obtain ⟨mid, e, hs⟩ := hn.exists_spans_of_start hc rfl
  obtain rfl : ⟨mid, e⟩ = extent := Except.ok.inj (hs.findEnd_eq.symm.trans hend)
  have hmem := hs.mem_opens hlt hle
  exact List.find?_eq_none.1 hm p hmem hs.methodAt_eq_true

end Opens

/-! ## The stack of calls -/

/-- A call stands at `site`, and the position is in the body of the method that it names. -/
def Serves (code : List CodeLine) (pos site : Nat) : Prop :=
  ∃ name, commandAt code site = some (.call name) ∧ InBody code name pos

namespace Chain

variable {code : List CodeLine} {t : BlockTree} {pc : Nat} {calls : List Nat}

/-- From the counter outwards, each call has called the method that the one before is in. -/
theorem isChain (hn : Nested code t) (h : Chain code pc calls) :
    (pc :: calls).IsChain (Serves code) := by
  induction h with
  | top hm => exact List.isChain_singleton _
  | call hm hc hh hrest ih =>
    have hbody := hn.inBody_of_methodOf hm (commandAt_of_findMethod? hh)
    exact List.isChain_cons_cons.2 ⟨⟨_, hc, hbody⟩, ih⟩

/-- The outermost call, or the counter if there is none, is in no method. -/
theorem outside (hn : Nested code t) (h : Chain code pc calls) (name : String) :
    ¬ InBody code name ((pc :: calls).getLast (List.cons_ne_nil pc calls)) := by
  induction h with
  | top hm => exact hn.not_inBody_of_methodOf hm name
  | call hm hc hh hrest ih => rwa [List.getLast_cons_cons]

end Chain

namespace Machine

variable {code : List CodeLine} {t : BlockTree} {m m₁ m₂ m₃ : Machine} {calls : List Nat}

/-- A step after which the given calls are still open. -/
def StepAbove (code : List CodeLine) (calls : List Nat) (m m' : Machine) : Prop :=
  Step code m m' ∧ calls <:+ m'.calls

theorem StepAbove.reached {n : Nat} (h : Steps (StepAbove code calls) n m m₁)
    (hm : Reached code m) (hcalls : calls <:+ m.calls) : Reached code m₁ ∧ calls <:+ m₁.calls :=
  h.induct (P := fun m => Reached code m ∧ calls <:+ m.calls)
    (fun hm hs => ⟨hm.1.step hs.1, hs.2⟩) ⟨hm, hcalls⟩

/-- A step closes at most the innermost call, and only at the end of a method, and then goes on
behind that call. -/
theorem Step.closes (hn : Nested code t) (hm : Reached code m) (h : Step code m m₁)
    (hcalls : calls <:+ m.calls) (hgone : ¬ calls <:+ m₁.calls) :
    ∃ site, commandAt code m.pc = some .endMethod ∧ calls = site :: m₁.calls ∧
      m₁.pc = min (site + 1) code.length := by
  have hkept : m₁.calls = m.calls → False := fun heq => hgone (heq ▸ hcalls)
  cases (h.transition hn).motion with
  | inside hsame => exact (hkept hsame).elim
  | enter hsame => exact (hkept hsame).elim
  | leave hsame => exact (hkept hsame).elim
  | again hsame => exact (hkept hsame).elim
  | call hc hh hpush =>
    have hpush : m₁.calls = m.pc :: m.calls := hpush
    rw [hpush] at hgone
    exact absurd (hcalls.trans (List.suffix_cons _ _)) hgone
  | @back p site mid hs hpop hloops hpc =>
    have hpop : m.calls = site :: m₁.calls := hpop
    rw [hpop, List.suffix_cons_iff] at hcalls
    exact ⟨site, hs.stop_command (o := .method "") rfl, hcalls.resolve_right hgone, hpc⟩
  | outside hs hempty => exact absurd hempty ((Chain.of_reached hn hm).calls_ne_nil hs)

/-- At the end of a method a call is open, and the run goes on right behind it. -/
theorem Reached.exists_return (hn : Nested code t) (hm : Reached code m)
    (hc : commandAt code m.pc = some .endMethod) :
    ∃ site rest, m.calls = site :: rest ∧
      ∃ m₁, Step code m m₁ ∧ m₁.pc = site + 1 ∧ m₁.calls = rest := by
  obtain ⟨p, mid, hs⟩ := hn.exists_spans_of_stop hc rfl
  have hchain := Chain.of_reached hn hm
  obtain ⟨site, rest, hcalls⟩ := List.exists_cons_of_ne_nil (hchain.calls_ne_nil hs)
  rw [hcalls] at hchain
  cases hchain with
  | call hbody hsite hh hrest =>
    obtain ⟨m₁, hstep, hview⟩ := step_of_gives hc (Command.gives_endMethod_back hcalls)
    rw [View.moved_goto _ (lt_length_of_commandAt hsite)] at hview
    exact ⟨site, rest, hcalls, m₁, hstep, congrArg View.pc hview, congrArg View.calls hview⟩

/-- When a call that was open all the time is closed, the run goes on right behind it, with the
calls that were open before it. -/
theorem StepAbove.returns {n : Nat} {name : String} (hn : Nested code t) (hm : Reached code m)
    (hc : commandAt code m.pc = some (.call name)) (hcall : Step code m m₁)
    (hcalls : m₁.calls = m.pc :: m.calls)
    (hbody : Steps (StepAbove code (m.pc :: m.calls)) n m₁ m₂) (hstep : Step code m₂ m₃)
    (hgone : ¬ m.pc :: m.calls <:+ m₃.calls) :
    commandAt code m₂.pc = some .endMethod ∧ m₃.pc = m.pc + 1 ∧ m₃.calls = m.calls := by
  obtain ⟨hm₂, hopen⟩ := reached hbody (hm.step hcall) (hcalls ▸ List.suffix_rfl)
  obtain ⟨site, hend, heq, hpc⟩ := hstep.closes hn hm₂ hopen hgone
  obtain ⟨rfl, hrest⟩ := List.cons.inj heq
  rw [Nat.min_eq_left (lt_length_of_commandAt hc)] at hpc
  exact ⟨hend, hpc, hrest.symm⟩

end Machine

/-! ## The main result -/

/-- Calls are stacked in the order of the bodies that they stand in, and each returns right behind
itself. -/
structure CallDiscipline (p : Program) : Prop where
  /-- From the counter outwards, each position is in the body of the method that the next one calls;
  the last one is in no body. -/
  stack : ∀ {m : Machine}, Machine.Reached p.code m →
    (m.pc :: m.calls).IsChain (Serves p.code) ∧
      ∀ name, ¬ InBody p.code name ((m.pc :: m.calls).getLast (List.cons_ne_nil _ _))
  /-- When the end of a method is executed, a call is open, and the run goes on right behind the
  innermost one. -/
  stop : ∀ {m : Machine}, Machine.Reached p.code m → commandAt p.code m.pc = some .endMethod →
    ∃ site rest, m.calls = site :: rest ∧
      ∃ m₁, Machine.Step p.code m m₁ ∧ m₁.pc = site + 1 ∧ m₁.calls = rest
  /-- A call opens, and is closed by the end of a method, from where the run goes on right behind the
  call, with the calls that were open before it. -/
  back : ∀ {m m₁ m₂ m₃ : Machine} {n : Nat} {name : String}, Machine.Reached p.code m →
    commandAt p.code m.pc = some (.call name) → Machine.Step p.code m m₁ →
    m₁.calls = m.pc :: m.calls ∧
      (Steps (Machine.StepAbove p.code m₁.calls) n m₁ m₂ → Machine.Step p.code m₂ m₃ →
        ¬ m₁.calls <:+ m₃.calls →
        commandAt p.code m₂.pc = some .endMethod ∧ m₃.pc = m.pc + 1 ∧ m₃.calls = m.calls)
  /-- A run that succeeds leaves no call open. -/
  finish : ∀ {limit n : Nat}, (p.setLimit limit).run.result = .ok n →
    (p.setLimit limit).run.program.machine.calls = []

/-- Every accepted script keeps the discipline of calls. -/
theorem Session.Accepted.callDiscipline {source : String} {s₀ s : Session}
    (h : Accepted source s₀ s) : CallDiscipline s.program := by
  obtain ⟨t, hn, -⟩ := h.exists_tree
  refine ⟨?_, ?_, ?_, ?_⟩
  · intro m hm
    have hchain := Chain.of_reached hn hm
    exact ⟨hchain.isChain hn, hchain.outside hn⟩
  · intro m hm hc
    exact hm.exists_return hn hc
  · intro m m₁ m₂ m₃ n name hm hc hcall
    obtain ⟨header, hh⟩ := Option.isSome_iff_exists.1 (h.call_declared hc)
    have hheader := lt_length_of_commandAt (commandAt_of_findMethod? hh)
    have hview := hcall.eq_of_gives_goto hc (Command.gives_call hh) hheader
    have hcalls : m₁.calls = m.pc :: m.calls := congrArg View.calls hview
    refine ⟨hcalls, fun hbody hstep hgone => ?_⟩
    rw [hcalls] at hbody hgone
    exact Machine.StepAbove.returns hn hm hc hcall hcalls hbody hstep hgone
  · intro limit n hrun
    have hparsed : (s.program.setLimit limit).parsed = true := h.parsed_eq_true
    obtain ⟨-, hsteps, hout⟩ := (Program.run_eq_ok hparsed).1 ⟨hrun, rfl⟩
    exact (Chain.of_reached hn ⟨n, hsteps⟩).eq_nil_of_le hn (List.getElem?_eq_none_iff.1 hout)

/-- A method that calls itself, declared inside a conditional. -/
def Session.countdown : String :=
  "int n = 3\nif n > 0\nmethod down\nn = n - 1\nif n > 0\ncall down\nend if\nend method\n" ++
    "call down\nend if"

theorem Session.callDiscipline_countdown :
    ∃ s, Accepted countdown {} s ∧ CallDiscipline s.program := by
  obtain ⟨s, hs, -⟩ := exists_accepted countdown (fun _ => true) (by decide +kernel)
  exact ⟨s, hs, hs.callDiscipline⟩

end PenScript
