import Mathlib.Logic.Relation
import PenScript.Proofs.CallStack
import PenScript.Proofs.Matching

/-!
# Counted loops are entered and left in order

* `Calls code a b` : the body of the method `a` calls `b`; `Acyclic code` : no method calls itself,
  directly or through others;
* `Chain.methodOf_ne` : in acyclic code the counter is in another method than each call that has not
  returned;
* `Kept code came v` : the loops that run are those that the counter and the open calls are in, and
  perhaps the one at the counter;
* `Kept.motion` : every step keeps this, and the loop at the counter runs only if the step came from
  its end;
* `Session.Accepted.loopDiscipline` : the main result.
-/

namespace PenScript

/-! ## The graph of calls -/

/-- The body of a method calls another method. -/
def Calls (code : List CodeLine) (a b : String) : Prop :=
  ∃ p q extent, commandAt code p = some (.method a) ∧
    Block.findEnd (markers code) p .method = .ok extent ∧ p < q ∧ q < extent.stop ∧
    commandAt code q = some (.call b)

/-- No method calls itself, directly or through others. -/
def Acyclic (code : List CodeLine) : Prop := ∀ name, ¬ Relation.TransGen (Calls code) name name

theorem acyclic_of_rank {code : List CodeLine} (rank : String → Nat)
    (h : ∀ a b, Calls code a b → rank b < rank a) : Acyclic code := by
  have hpath : ∀ {a b}, Relation.TransGen (Calls code) a b → rank b < rank a := by
    intro a b hab
    induction hab with
    | single hab => exact h _ _ hab
    | tail _ hbc ih => exact Nat.lt_trans (h _ _ hbc) ih
  exact fun name hname => Nat.lt_irrefl _ (hpath hname)

section Graph

variable {code : List CodeLine} {t : BlockTree} (hn : Nested code t)
include hn

/-- A call inside a method is an edge of the graph. -/
theorem Nested.calls_of_methodOf {site header : Nat} {b : String}
    (hc : commandAt code site = some (.call b)) (hm : methodOf code site = some header) :
    ∃ a, commandAt code header = some (.method a) ∧ Calls code a b := by
  obtain ⟨a, ha⟩ := methodAt_eq_true.1 (List.find?_some hm)
  have hmem : header ∈ opens code site := List.mem_of_find?_eq_some hm
  obtain ⟨mid, e, hs⟩ := hn.exists_spans_of_start ha rfl
  have hne : site ≠ e := by
    rintro rfl
    cases hc.symm.trans (hs.stop_command (o := .method a) rfl)
  have hle := hs.le_stop_of_mem_opens hmem
  exact ⟨a, ha, header, site, ⟨mid, e⟩, ha, hs.findEnd_eq, lt_of_mem_opens hmem, by
    show site < e
    omega, hc⟩

/-- What an open call calls leads to the method of the counter in the graph of calls. -/
theorem Chain.leads {pc : Nat} {calls : List Nat} (h : Chain code pc calls) :
    ∀ site ∈ calls, ∃ b header name, commandAt code site = some (.call b) ∧
      methodOf code pc = some header ∧ commandAt code header = some (.method name) ∧
      Relation.ReflTransGen (Calls code) b name := by
  induction h with
  | top hm =>
    intro site hsite
    cases hsite
  | @call pc site header name rest hm hc hh hrest ih =>
    intro other hother
    have hname := commandAt_of_findMethod? hh
    rcases List.mem_cons.1 hother with rfl | hother
    · exact ⟨name, header, name, hc, hm, hname, .refl⟩
    · -- what the other call calls leads to the method of this one, which calls the next
      obtain ⟨b, header', name', hb, hm', hname', hpath⟩ := ih other hother
      obtain ⟨a, ha, hcalls⟩ := hn.calls_of_methodOf hc hm'
      cases hname'.symm.trans ha
      exact ⟨b, header, name, hb, hm, hname, hpath.tail hcalls⟩

/-- The method of an open call leads to the method of the counter in the graph of calls. -/
theorem Chain.transGen {pc : Nat} {calls : List Nat} (h : Chain code pc calls) :
    ∀ site ∈ calls, ∃ header name, methodOf code pc = some header ∧
      commandAt code header = some (.method name) ∧
      ∀ outer, methodOf code site = some outer →
        ∃ a, commandAt code outer = some (.method a) ∧ Relation.TransGen (Calls code) a name := by
  intro site hsite
  obtain ⟨b, header, name, hb, hm, hname, hpath⟩ := h.leads hn site hsite
  refine ⟨header, name, hm, hname, fun outer houter => ?_⟩
  obtain ⟨a, ha, hcalls⟩ := hn.calls_of_methodOf hb houter
  exact ⟨a, ha, .head' hcalls hpath⟩

/-- In acyclic code the counter is in another method than each open call. -/
theorem Chain.methodOf_ne (hacyclic : Acyclic code) {pc site : Nat} {calls : List Nat}
    (h : Chain code pc calls) (hsite : site ∈ calls) : methodOf code pc ≠ methodOf code site := by
  intro heq
  obtain ⟨header, name, hm, hname, hedge⟩ := h.transGen hn site hsite
  obtain ⟨a, ha, hpath⟩ := hedge header (heq ▸ hm)
  cases hname.symm.trans ha
  exact hacyclic name hpath

/-- Neither the counter nor an open call is in a block that starts at the counter. -/
theorem Chain.not_mem_inner (hacyclic : Acyclic code) {pc : Nat} {calls : List Nat}
    (h : Chain code pc calls) :
    ¬ (pc ∈ inner code pc ∨ ∃ site ∈ calls, pc ∈ inner code site) := by
  rintro (hmem | ⟨site, hsite, hmem⟩)
  · exact Nat.lt_irrefl _ (lt_of_mem_inner hmem)
  · exact h.methodOf_ne hn hacyclic hsite (methodOf_eq_of_mem_inner hmem)

end Graph

/-! ## The loops that run -/

/-- The loops that run are those that the counter and the open calls are in, and the one at the
counter if the run has come back to it. -/
def Kept (code : List CodeLine) (came : Prop) (v : View) : Prop :=
  ∀ p, v.loops p ≠ none ↔ LoopAt code p ∧
    (came ∧ p = v.pc ∨ p ∈ inner code v.pc ∨ ∃ site ∈ v.calls, p ∈ inner code site)

namespace Kept

variable {code : List CodeLine} {v v' : View} {came : Prop}

theorem blank : Kept code False {} := by
  intro p
  simp [inner, opens]

/-- Away from the start of a loop, there is nothing to come back to. -/
theorem of_not_loopAt (h : Kept code came v) (hpc : ¬ LoopAt code v.pc) : Kept code False v := by
  intro p
  rw [h p]
  refine and_congr_right fun hp => or_congr_left ?_
  have hne : p ≠ v.pc := by
    rintro rfl
    exact hpc hp
  simp [hne]

theorem enter {b : LoopBounds} (h : Kept code came v) (hcalls : v'.calls = v.calls)
    (hloops : v'.loops = Function.update v.loops v.pc (some b)) (hpc : LoopAt code v.pc)
    (ho : opens code v'.pc = v.pc :: opens code v.pc) : Kept code False v' := by
  intro p
  rw [hloops, hcalls, inner_of_cons ho hpc.methodAt_eq_false]
  by_cases hp : p = v.pc
  · subst hp
    simp [hpc]
  · rw [Function.update_of_ne hp, h p]
    simp [hp]

theorem leave (h : Kept code came v) (hcalls : v'.calls = v.calls)
    (hloops : v'.loops = Function.update v.loops v.pc none)
    (ho : opens code v'.pc = opens code v.pc)
    (hout : ¬ (v.pc ∈ inner code v.pc ∨ ∃ site ∈ v.calls, v.pc ∈ inner code site)) :
    Kept code False v' := by
  intro p
  rw [hloops, hcalls, inner_congr ho]
  by_cases hp : p = v.pc
  · subst hp
    simp only [Function.update_self, ne_eq, not_true_eq_false, false_and, false_or, false_iff]
    exact fun hmem => hout hmem.2
  · rw [Function.update_of_ne hp, h p]
    simp [hp]

theorem again {mid : Option Nat} (h : Kept code came v) (hcalls : v'.calls = v.calls)
    (hloops : v'.loops = v.loops) (hs : Spans code .forLoop v'.pc mid v.pc) :
    Kept code True v' := by
  intro p
  rw [hloops, hcalls, h.of_not_loopAt hs.not_loopAt_stop p,
    inner_of_cons hs.opens_stop_eq hs.loopAt.methodAt_eq_false]
  simp [or_assoc]

theorem call {name : String} {header : Nat} (h : Kept code came v)
    (hc : commandAt code v.pc = some (.call name)) (hh : findMethod? code name = some header)
    (hcalls : v'.calls = v.pc :: v.calls) (hloops : v'.loops = v.loops)
    (hpc : v'.pc = header + 1) : Kept code False v' := by
  have hheader := commandAt_of_findMethod? hh
  intro p
  rw [hloops, hcalls, hpc, h.of_not_loopAt (not_loopAt hc fun l hl => by cases hl) p,
    inner_of_cons_method (opens_start hheader rfl) (methodAt_eq_true.2 ⟨name, hheader⟩)]
  simp

theorem back {p site : Nat} {mid : Option Nat} (h : Kept code came v)
    (hchain : Chain code v.pc v.calls) (hs : Spans code .method p mid v.pc)
    (hcalls : v.calls = site :: v'.calls) (hloops : v'.loops = v.loops)
    (hpc : v'.pc = min (site + 1) code.length) : Kept code False v' := by
  rw [hcalls] at hchain
  intro p
  rw [hloops, hpc, hchain.back.2, h.of_not_loopAt hs.not_loopAt_stop p, hcalls,
    inner_of_cons_method hs.opens_stop_eq hs.methodAt_eq_true]
  simp

/-- Every step keeps the account of the loops that run. The loop at the counter runs only if the
step came from its end. -/
theorem motion {t : BlockTree} (hn : Nested code t) (hacyclic : Acyclic code)
    (hchain : Chain code v.pc v.calls) (h : Kept code came v) (hm : Motion code v v') :
    Kept code False v' ∨ ∃ mid, Spans code .forLoop v'.pc mid v.pc ∧ Kept code True v' := by
  cases hm with
  | inside hcalls hloops hpc hm hin =>
    left
    intro p
    rw [hloops, hcalls, h.of_not_loopAt hpc p]
    exact and_congr_right fun hp => by simp [hin p hp]
  | enter hcalls hloops hpc ho => exact .inl (h.enter hcalls hloops hpc ho)
  | leave hcalls hloops hpc ho =>
    exact .inl (h.leave hcalls hloops ho (hchain.not_mem_inner hn hacyclic))
  | again hcalls hloops hs => exact .inr ⟨_, hs, h.again hcalls hloops hs⟩
  | call hc hh hcalls hloops hpc => exact .inl (h.call hc hh hcalls hloops hpc)
  | back hs hcalls hloops hpc => exact .inl (h.back hchain hs hcalls hloops hpc)
  | outside hs hcalls => exact absurd hcalls (hchain.calls_ne_nil hs)

theorem of_reached {t : BlockTree} (hn : Nested code t) (hacyclic : Acyclic code) {m : Machine}
    (h : Machine.Reached code m) : ∃ came, Kept code came m.view := by
  refine h.induct (P := fun m => ∃ came, Kept code came m.view) ⟨False, ?_⟩ ?_
  · rw [Machine.view_empty]
    exact blank
  · rintro m m' hm ⟨came, hkept⟩ hs
    rcases hkept.motion hn hacyclic (.of_reached hn hm) (hs.transition hn).motion with
      hkept | ⟨mid, -, hkept⟩
    · exact ⟨False, hkept⟩
    · exact ⟨True, hkept⟩

end Kept

/-- The run comes to the machine, but not by the jump from the end of the loop at its counter. -/
def Machine.Arrived (code : List CodeLine) (m : Machine) : Prop :=
  m = {} ∨ ∃ m₀, Reached code m₀ ∧ Step code m₀ m ∧
    ¬ (commandAt code m₀.pc = some .endFor ∧
      Block.findStart (markers code) m₀.pc .forLoop = .ok m.pc)

theorem Machine.Arrived.reached {code : List CodeLine} {m : Machine} (h : Arrived code m) :
    Reached code m := by
  rcases h with rfl | ⟨m₀, hm₀, hs, -⟩
  · exact ⟨0, .refl _⟩
  · exact hm₀.step hs

section Run

variable {code : List CodeLine} {t : BlockTree} (hn : Nested code t) (hacyclic : Acyclic code)
  {m : Machine}
include hn hacyclic

/-- A loop that the run comes to otherwise than from its end does not run. -/
theorem Machine.Arrived.loops_eq_none (h : Arrived code m) : m.loops[m.pc]? = none := by
  have hkept : Kept code False m.view := by
    rcases h with rfl | ⟨m₀, hm₀, hs, hend⟩
    · rw [Machine.view_empty]
      exact .blank
    · obtain ⟨came, hkept₀⟩ := Kept.of_reached hn hacyclic hm₀
      rcases hkept₀.motion hn hacyclic (.of_reached hn hm₀) (hs.transition hn).motion with
        hkept | ⟨mid, hspans, -⟩
      · exact hkept
      · obtain ⟨l, hl⟩ := hspans.countTo_command
        exact absurd ⟨hspans.stop_command (o := .countTo l) rfl, hspans.findStart_eq⟩ hend
  by_contra hrunning
  obtain ⟨-, ⟨hfalse, -⟩ | hmem⟩ := (hkept m.pc).1 hrunning
  · exact hfalse
  · exact (Chain.of_reached hn h.reached).not_mem_inner hn hacyclic hmem

/-- The loop whose end the counter is at runs. -/
theorem Machine.Reached.loops_ne_none (h : Reached code m) {p : Nat} {mid : Option Nat}
    (hs : Spans code .forLoop p mid m.pc) : m.loops[p]? ≠ none := by
  obtain ⟨came, hkept⟩ := Kept.of_reached hn hacyclic h
  refine (hkept p).2 ⟨hs.loopAt, .inr (.inl ?_)⟩
  rw [Machine.view_pc, inner_of_cons hs.opens_stop_eq hs.loopAt.methodAt_eq_false]
  exact List.mem_cons_self

/-- A run that has left the code leaves no loop running. -/
theorem Machine.Reached.loops_eq_none (h : Reached code m) (hm : code[m.pc]? = none) (p : Nat) :
    m.loops[p]? = none := by
  have hopens := hn.opens_of_le (List.getElem?_eq_none_iff.1 hm)
  have hcalls : m.calls = [] :=
    (Chain.of_reached hn h).eq_nil_of_le hn (List.getElem?_eq_none_iff.1 hm)
  obtain ⟨came, hkept⟩ := Kept.of_reached hn hacyclic h
  by_contra hrunning
  obtain ⟨⟨l, hl⟩, ⟨-, rfl⟩ | hmem | ⟨site, hsite, -⟩⟩ := (hkept p).1 hrunning
  · rw [commandAt, Machine.view_pc, hm] at hl
    cases hl
  · rw [Machine.view_pc, inner, hopens] at hmem
    cases hmem
  · rw [Machine.view_calls, hcalls] at hsite
    cases hsite

end Run

/-! ## The main result -/

/-- Counted loops are entered afresh, run until they are done, and are all done at the end. -/
structure LoopDiscipline (p : Program) : Prop where
  /-- When the end of a loop is executed, the loop runs. -/
  stop : ∀ {m : Machine}, Machine.Reached p.code m → commandAt p.code m.pc = some .endFor →
    ∃ start bounds, Block.findStart (markers p.code) m.pc .forLoop = .ok start ∧
      m.loops[start]? = some bounds
  /-- No run fails over a loop that does not run. -/
  run : ∀ {limit pos line : Nat} {cause : CommandError},
    (p.setLimit limit).run.result = .error (.failed pos line cause) →
    ∀ var, cause ≠ .notRunning var
  /-- A loop that is reached otherwise than from its end does not run, and a step from there computes
  its bounds anew. -/
  entry : ∀ {m : Machine} {l : CountedLoop}, Machine.Arrived p.code m →
    commandAt p.code m.pc = some (.countTo l) →
    m.loops[m.pc]? = none ∧ ∀ {m' : Machine}, Machine.Step p.code m m' →
      ∃ start bounds, l.enter.onScene.run m.scene = .ok (start, bounds) m'.scene ∧
        ((CountedLoop.goesOn start bounds = .ok true ∧ m'.loops[m.pc]? = some bounds) ∨
          (CountedLoop.goesOn start bounds = .ok false ∧ m'.loops[m.pc]? = none))
  /-- A run that succeeds leaves no loop running. -/
  finish : ∀ {limit n : Nat}, (p.setLimit limit).run.result = .ok n →
    (p.setLimit limit).run.program.running = []

/-- An accepted script in which no method calls itself keeps the discipline of loops. -/
theorem Session.Accepted.loopDiscipline {source : String} {s₀ s : Session}
    (h : Accepted source s₀ s) (hacyclic : Acyclic s.program.code) : LoopDiscipline s.program := by
  obtain ⟨t, hn, -⟩ := h.exists_tree
  refine ⟨?_, ?_, ?_, ?_⟩
  · intro m hm hc
    obtain ⟨p, mid, hs⟩ := hn.exists_spans_of_stop hc rfl
    obtain ⟨bounds, hbounds⟩ := Option.ne_none_iff_exists'.1 (hm.loops_ne_none hn hacyclic hs)
    exact ⟨p, bounds, hs.findStart_eq, hbounds⟩
  · rintro limit pos line cause hrun var rfl
    rcases h.run_error hrun with hvalues | ⟨m, p, mid, l, hm, hs, -, hgone, -⟩
    · exact hvalues trivial
    · exact hm.loops_ne_none hn hacyclic hs hgone
  · intro m l hm hc
    have hnone := hm.loops_eq_none hn hacyclic
    refine ⟨hnone, fun {m'} hstep => ?_⟩
    obtain ⟨mid, e, hs⟩ := hn.exists_spans_of_start hc rfl
    obtain ⟨start, bounds, scene, hhead, hview⟩ := hstep.eq_of_countTo hc hs
    rw [Machine.view_loops, Machine.view_pc, hnone] at hhead
    rcases hview with ⟨hg, hview⟩ | ⟨hg, hview⟩
    · obtain rfl : m'.scene = scene := congrArg View.scene hview
      have hloops := congrFun (congrArg View.loops hview) m.pc
      exact ⟨start, bounds, hhead, .inl ⟨hg, hloops.trans (Function.update_self ..)⟩⟩
    · obtain rfl : m'.scene = scene := congrArg View.scene hview
      have hloops := congrFun (congrArg View.loops hview) m.pc
      exact ⟨start, bounds, hhead, .inr ⟨hg, hloops.trans (Function.update_self ..)⟩⟩
  · intro limit n hrun
    have hparsed : (s.program.setLimit limit).parsed = true := h.parsed_eq_true
    obtain ⟨-, hsteps, hout⟩ := (Program.run_eq_ok hparsed).1 ⟨hrun, rfl⟩
    have hnone := Machine.Reached.loops_eq_none hn hacyclic ⟨n, hsteps⟩ hout
    refine List.eq_nil_iff_forall_not_mem.2 fun p hp => ?_
    rw [Program.running, Std.TreeMap.mem_keys, Std.TreeMap.mem_iff_isSome_getElem?, hnone p] at hp
    cases hp

/-- A loop in a method that is called in a loop of another method. -/
def Session.loopsInMethods : String :=
  "method inner\nfor i = 1 to 2\nclear\nend for\nend method\n" ++
    "method outer\nfor j = 1 to 2\ncall inner\nend for\nend method\ncall outer"

/-- The commands of `loopsInMethods`. -/
def Session.loopsInMethodsCommands : List Command :=
  [.method "inner", .countTo ⟨"i", "1", "2", none⟩, .draw .clear, .endFor, .endMethod,
    .method "outer", .countTo ⟨"j", "1", "2", none⟩, .call "inner", .endFor, .endMethod,
    .call "outer"]

theorem Session.acyclic_loopsInMethods {code : List CodeLine}
    (h : code.map CodeLine.command = loopsInMethodsCommands) : Acyclic code := by
  refine acyclic_of_rank (fun name => if name = "outer" then 1 else 0) ?_
  rintro a b ⟨p, q, extent, hp, hend, hpq, hqe, hq⟩
  rw [commandAt_eq_getElem?, h] at hp hq
  rw [markers_eq_map, h] at hend
  have hheader : ∀ p < 11, (loopsInMethodsCommands[p]?.bind Command.declared?).isSome →
      p = 0 ∨ p = 5 := by decide
  have hcall : ∀ q < 11, loopsInMethodsCommands[q]?.any (fun c => c.keyword == .call) →
      q = 7 ∨ q = 10 := by decide
  have hp' := hheader p (List.getElem?_eq_some_iff.1 hp).1 (by rw [hp]; rfl)
  have hq' := hcall q (List.getElem?_eq_some_iff.1 hq).1 (by rw [hq]; rfl)
  rcases hp' with rfl | rfl
  · obtain rfl : ⟨none, 4⟩ = extent := Except.ok.inj (Eq.trans (by decide) hend)
    rcases hq' with rfl | rfl
    · exact absurd hqe (by decide)
    · exact absurd hqe (by decide)
  · obtain rfl : ⟨none, 9⟩ = extent := Except.ok.inj (Eq.trans (by decide) hend)
    rcases hq' with rfl | rfl
    · cases hp
      cases hq
      decide
    · exact absurd hqe (by decide)

theorem Session.loopDiscipline_loopsInMethods :
    ∃ s, Accepted loopsInMethods {} s ∧ Acyclic s.program.code ∧ LoopDiscipline s.program := by
  obtain ⟨s, hs, hcode⟩ := exists_accepted loopsInMethods
    (fun p => p.code.map CodeLine.command == loopsInMethodsCommands) (by decide +kernel)
  have hacyclic := acyclic_loopsInMethods (beq_iff_eq.1 hcode)
  exact ⟨s, hs, hacyclic, hs.loopDiscipline hacyclic⟩

end PenScript
