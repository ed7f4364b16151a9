import Mathlib.Data.List.TakeWhile
import PenScript.Proofs.Transition

/-!
# Blocks around the counter and the stack of calls

* `opens code i` lists the starts of the blocks that position `i` is in, innermost first;
* `methodOf code i` is the innermost method that the position is in, `inner code i` lists the blocks
  inside it;
* `Motion code v v'` sorts the transitions by what they do to these: most stay among the same loops
  of the same method;
* `Chain code pc calls` : the counter is in the method of the innermost call, that call in the method
  of the next one, and so on; every transition keeps this (`Chain.motion`).
-/

namespace PenScript

/-- The starts of the blocks that a position is in, innermost first. -/
def opens (code : List CodeLine) : Nat → List Nat
  | 0 => []
  | i + 1 =>
    match (commandAt code i).bind Command.marker? with
    | some ⟨_, .start⟩ => i :: opens code i
    | some ⟨_, .stop⟩ => (opens code i).tail
    | _ => opens code i

section Opens

variable {code : List CodeLine} {i p : Nat} {c : Command} {k : Block.Kind}

theorem opens_plain (hc : commandAt code i = some c) (hm : c.marker? = none) :
    opens code (i + 1) = opens code i := by
  rw [opens, hc, Option.bind_some, hm]

theorem opens_start (hc : commandAt code i = some c) (hm : c.marker? = some ⟨k, .start⟩) :
    opens code (i + 1) = i :: opens code i := by
  rw [opens, hc, Option.bind_some, hm]

theorem opens_middle (hc : commandAt code i = some c) (hm : c.marker? = some ⟨k, .middle⟩) :
    opens code (i + 1) = opens code i := by
  rw [opens, hc, Option.bind_some, hm]

theorem opens_stop (hc : commandAt code i = some c) (hm : c.marker? = some ⟨k, .stop⟩) :
    opens code (i + 1) = (opens code i).tail := by
  rw [opens, hc, Option.bind_some, hm]

/-- A position is in what the one before is in, but perhaps for a block that starts or ends. -/
theorem opens_succ (code : List CodeLine) (i : Nat) :
    opens code (i + 1) = i :: opens code i ∨ opens code (i + 1) = (opens code i).tail ∨
      opens code (i + 1) = opens code i := by
  rw [opens]
  split
  · exact .inl rfl
  · exact .inr (.inl rfl)
  · exact .inr (.inr rfl)

theorem lt_of_mem_opens (h : p ∈ opens code i) : p < i := by
  induction i with
  | zero => cases h
  | succ i ih =>
    rcases opens_succ code i with hsucc | hsucc | hsucc
    · rw [hsucc, List.mem_cons] at h
      rcases h with rfl | h
      · exact Nat.lt_succ_self p
      · exact Nat.lt_succ_of_lt (ih h)
    · rw [hsucc] at h
      exact Nat.lt_succ_of_lt (ih (List.mem_of_mem_tail h))
    · rw [hsucc] at h
      exact Nat.lt_succ_of_lt (ih h)

/-- Behind a block in the list come those that its start is in. -/
theorem eq_opens_of_suffix {rest : List Nat} (h : p :: rest <:+ opens code i) :
    rest = opens code p := by
  induction i with
  | zero => cases List.suffix_nil.1 h
  | succ i ih =>
    rcases opens_succ code i with hsucc | hsucc | hsucc
    · rw [hsucc, List.suffix_cons_iff, List.cons.injEq] at h
      rcases h with ⟨rfl, h⟩ | h
      · exact h
      · exact ih h
    · rw [hsucc] at h
      exact ih (h.trans (List.tail_suffix _))
    · rw [hsucc] at h
      exact ih h

/-- Behind a tree one is in the blocks that one was in before it. -/
theorem Placed.opens_eq {t : BlockTree} {pos : Nat} (h : Placed code pos t) :
    opens code (pos + t.size) = opens code pos := by
  induction t generalizing pos with
  | nil => rfl
  | plain c hc rest ih =>
    obtain ⟨hcommand, hrest⟩ := plain_iff.1 h
    rw [BlockTree.size_plain, ← Nat.add_assoc, Nat.add_right_comm, ih hrest,
      opens_plain hcommand hc]
  | block o body rest ihb ihr =>
    obtain ⟨hstart, hbody, hstop, hrest⟩ := block_iff.1 h
    rw [BlockTree.size_block,
      show pos + (body.size + rest.size + 2) = pos + body.size + 2 + rest.size by omega, ihr hrest,
      opens_stop hstop o.stop_marker?, Nat.add_right_comm pos, ihb hbody,
      opens_start hstart o.command_marker?, List.tail_cons]
  | branch g body other rest ihb iho ihr =>
    obtain ⟨hstart, hbody, hmiddle, hother, hstop, hrest⟩ := branch_iff.1 h
    rw [BlockTree.size_branch,
      show pos + (body.size + other.size + rest.size + 3) =
        pos + body.size + other.size + 3 + rest.size by omega, ihr hrest,
      opens_stop hstop rfl, Nat.add_right_comm (pos + body.size), iho hother,
      opens_middle hmiddle rfl, Nat.add_right_comm pos, ihb hbody, opens_start hstart rfl,
      List.tail_cons]

end Opens

namespace Spans

variable {code : List CodeLine} {k : Block.Kind} {p e : Nat} {mid : Option Nat}

theorem opens_succ_start (h : Spans code k p mid e) : opens code (p + 1) = p :: opens code p := by
  obtain ⟨o, ho, -, -⟩ := h.start_command
  exact opens_start ho o.command_marker?

theorem opens_stop_eq (h : Spans code k p mid e) : opens code e = p :: opens code p := by
  have hstart := h.opens_succ_start
  cases h with
  | block h =>
    rw [Nat.add_right_comm, (Placed.block_iff.1 h).2.1.opens_eq, hstart]
  | branch h =>
    obtain ⟨-, hbody, hmiddle, hother, -, -⟩ := Placed.branch_iff.1 h
    rw [Nat.add_right_comm, hother.opens_eq, opens_middle hmiddle rfl, Nat.add_right_comm,
      hbody.opens_eq, hstart]

theorem opens_succ_stop (h : Spans code k p mid e) : opens code (e + 1) = opens code p := by
  obtain ⟨o, -, -, he⟩ := h.start_command
  rw [opens_stop he o.stop_marker?, h.opens_stop_eq, List.tail_cons]

theorem opens_middle_eq {q : Nat} (h : Spans code k p (some q) e) :
    opens code q = p :: opens code p := by
  have hstart := h.opens_succ_start
  cases h with
  | branch h => rw [Nat.add_right_comm, (Placed.branch_iff.1 h).2.1.opens_eq, hstart]

theorem opens_succ_middle {q : Nat} (h : Spans code k p (some q) e) :
    opens code (q + 1) = p :: opens code p := by
  rw [opens_middle h.middle_command.1 rfl, h.opens_middle_eq]

/-- What is in a block stands between its start and its end. -/
theorem le_stop_of_mem_opens (h : Spans code k p mid e) {i : Nat} (hi : p ∈ opens code i) :
    i ≤ e := by
  by_contra hlt
  obtain ⟨n, rfl⟩ := Nat.exists_eq_add_of_lt (Nat.lt_of_not_le hlt)
  clear hlt
  induction n with
  | zero =>
    rw [Nat.add_zero, h.opens_succ_stop] at hi
    exact Nat.lt_irrefl p (lt_of_mem_opens hi)
  | succ n ih =>
    have hlt := h.lt
    rw [show e + (n + 1) + 1 = e + n + 1 + 1 by omega] at hi
    rcases PenScript.opens_succ code (e + n + 1) with hsucc | hsucc | hsucc
    · rw [hsucc, List.mem_cons] at hi
      rcases hi with hi | hi
      · omega
      · exact ih hi
    · rw [hsucc] at hi
      exact ih (List.mem_of_mem_tail hi)
    · rw [hsucc] at hi
      exact ih hi

end Spans

/-- Behind well nested code one is in no block. -/
theorem Nested.opens_of_le {code : List CodeLine} {t : BlockTree} (h : Nested code t) {i : Nat}
    (hi : code.length ≤ i) : opens code i = [] := by
  induction i, hi using Nat.le_induction with
  | base =>
    have := h.placed.opens_eq
    rwa [Nat.zero_add, h.size_eq] at this
  | succ i hi ih =>
    rw [opens, commandAt, List.getElem?_eq_none hi]
    exact ih

/-! ## Methods and the blocks inside them -/

/-- A method starts at the position. -/
def methodAt (code : List CodeLine) (p : Nat) : Bool :=
  match commandAt code p with
  | some (.method _) => true
  | _ => false

/-- The innermost method that a position is in. -/
def methodOf (code : List CodeLine) (i : Nat) : Option Nat := (opens code i).find? (methodAt code)

/-- The blocks that a position is in, inside its method. -/
def inner (code : List CodeLine) (i : Nat) : List Nat :=
  (opens code i).takeWhile fun p => !methodAt code p

section Inner

variable {code : List CodeLine} {i j p : Nat}

theorem methodAt_eq_true : methodAt code p = true ↔ ∃ name, commandAt code p = some (.method name) := by
  unfold methodAt
  split
  · rename_i name h
    exact ⟨fun _ => ⟨name, h⟩, fun _ => rfl⟩
  · rename_i h
    constructor
    · intro h'
      cases h'
    · rintro ⟨name, hname⟩
      exact absurd hname (h name)

theorem methodOf_congr (h : opens code i = opens code j) : methodOf code i = methodOf code j := by
  rw [methodOf, methodOf, h]

theorem inner_congr (h : opens code i = opens code j) : inner code i = inner code j := by
  rw [inner, inner, h]

theorem methodOf_of_cons (h : opens code i = p :: opens code j) (hp : methodAt code p = false) :
    methodOf code i = methodOf code j := by
  rw [methodOf, h, List.find?_cons_of_neg (by simp [hp]), methodOf]

theorem inner_of_cons (h : opens code i = p :: opens code j) (hp : methodAt code p = false) :
    inner code i = p :: inner code j := by
  rw [inner, h, List.takeWhile_cons_of_pos (by simp [hp]), inner]

theorem methodOf_of_cons_method (h : opens code i = p :: opens code j)
    (hp : methodAt code p = true) : methodOf code i = some p := by
  rw [methodOf, h, List.find?_cons_of_pos hp]

theorem inner_of_cons_method (h : opens code i = p :: opens code j) (hp : methodAt code p = true) :
    inner code i = [] := by
  rw [inner, h, List.takeWhile_cons_of_neg (by simp [hp])]

theorem lt_of_mem_inner (h : p ∈ inner code i) : p < i :=
  lt_of_mem_opens ((List.takeWhile_prefix _).subset h)

/-- A block inside a method starts in that method. -/
theorem methodOf_eq_of_mem_inner (h : p ∈ inner code i) : methodOf code p = methodOf code i := by
  obtain ⟨before, after, hsplit⟩ := List.append_of_mem h
  have hopens := List.takeWhile_append_dropWhile (p := fun p => !methodAt code p) (l := opens code i)
  rw [← inner, hsplit, List.append_assoc, List.cons_append] at hopens
  have hrest := eq_opens_of_suffix ⟨before, hopens⟩
  rw [hrest] at hopens
  have hnone : ∀ q ∈ before ++ [p], ¬ methodAt code q = true := by
    intro q hq
    have hmem : q ∈ inner code i := by
      rw [hsplit]
      rcases List.mem_append.1 hq with hq | hq
      · exact List.mem_append_left _ hq
      · exact List.mem_append_right _ (List.mem_singleton.1 hq ▸ List.mem_cons_self)
    simpa using List.mem_takeWhile_imp hmem
  calc methodOf code p
      = ((before ++ [p]).find? (methodAt code)).or (methodOf code p) := by
        rw [List.find?_eq_none.2 hnone, Option.none_or]
    _ = methodOf code i := by
        rw [methodOf, methodOf, ← hopens, ← List.find?_append, List.append_assoc,
          List.singleton_append]

end Inner

/-! ## What transitions do to the counter, the calls and the loops -/

/-- A counted loop starts at the position. -/
def LoopAt (code : List CodeLine) (p : Nat) : Prop := ∃ l, commandAt code p = some (.countTo l)

theorem LoopAt.methodAt_eq_false {code : List CodeLine} {p : Nat} (h : LoopAt code p) :
    methodAt code p = false := by
  obtain ⟨l, hl⟩ := h
  rw [methodAt, hl]

theorem not_loopAt {code : List CodeLine} {p : Nat} {c : Command} (hc : commandAt code p = some c)
    (hne : ∀ l, c ≠ .countTo l) : ¬ LoopAt code p := by
  rintro ⟨l, hl⟩
  exact hne l (Option.some_inj.1 (hc.symm.trans hl))

namespace Spans

variable {code : List CodeLine} {k : Block.Kind} {p e : Nat} {mid : Option Nat}

theorem loopAt (h : Spans code .forLoop p mid e) : LoopAt code p := h.countTo_command

theorem methodAt_eq_true (h : Spans code .method p mid e) : methodAt code p = true :=
  PenScript.methodAt_eq_true.2 h.method_command

theorem not_loopAt_start (h : Spans code k p mid e) (hk : k ≠ .forLoop) : ¬ LoopAt code p := by
  obtain ⟨o, ho, rfl, -⟩ := h.start_command
  refine not_loopAt ho fun l hl => hk ?_
  cases o with
  | countTo l => rfl
  | _ => cases hl

theorem methodAt_eq_false (h : Spans code k p mid e) (hk : k ≠ .method) :
    methodAt code p = false := by
  obtain ⟨o, ho, rfl, -⟩ := h.start_command
  rw [methodAt, ho]
  cases o with
  | method name => exact absurd rfl hk
  | _ => rfl

theorem not_loopAt_stop (h : Spans code k p mid e) : ¬ LoopAt code e := by
  obtain ⟨o, -, -, he⟩ := h.start_command
  refine not_loopAt he fun l hl => ?_
  cases o <;> cases hl

end Spans

/-- The transitions by what they do to the counter, the calls and the loops. -/
inductive Motion (code : List CodeLine) : View → View → Prop
  /-- The counter stays in its method, among the same loops. -/
  | inside {v v' : View} (hcalls : v'.calls = v.calls) (hloops : v'.loops = v.loops)
      (hpc : ¬ LoopAt code v.pc) (hm : methodOf code v'.pc = methodOf code v.pc)
      (hin : ∀ p, LoopAt code p → (p ∈ inner code v'.pc ↔ p ∈ inner code v.pc)) :
      Motion code v v'
  /-- Into the body of a loop. -/
  | enter {v v' : View} {b : LoopBounds} (hcalls : v'.calls = v.calls)
      (hloops : v'.loops = Function.update v.loops v.pc (some b)) (hpc : LoopAt code v.pc)
      (ho : opens code v'.pc = v.pc :: opens code v.pc) : Motion code v v'
  /-- Past the end of a loop. -/
  | leave {v v' : View} (hcalls : v'.calls = v.calls)
      (hloops : v'.loops = Function.update v.loops v.pc none) (hpc : LoopAt code v.pc)
      (ho : opens code v'.pc = opens code v.pc) : Motion code v v'
  /-- From the end of a loop back to its start. -/
  | again {v v' : View} {mid : Option Nat} (hcalls : v'.calls = v.calls)
      (hloops : v'.loops = v.loops) (hs : Spans code .forLoop v'.pc mid v.pc) : Motion code v v'
  | call {v v' : View} {name : String} {header : Nat} (hc : commandAt code v.pc = some (.call name))
      (hh : findMethod? code name = some header) (hcalls : v'.calls = v.pc :: v.calls)
      (hloops : v'.loops = v.loops) (hpc : v'.pc = header + 1) : Motion code v v'
  | back {v v' : View} {p site : Nat} {mid : Option Nat} (hs : Spans code .method p mid v.pc)
      (hcalls : v.calls = site :: v'.calls) (hloops : v'.loops = v.loops)
      (hpc : v'.pc = min (site + 1) code.length) : Motion code v v'
  /-- The end of a method without a call. -/
  | outside {v v' : View} {p : Nat} {mid : Option Nat} (hs : Spans code .method p mid v.pc)
      (hcalls : v.calls = []) : Motion code v v'

namespace Motion

variable {code : List CodeLine} {v v' : View}

/-- Nothing is entered or left. -/
theorem inside_of_eq (hcalls : v'.calls = v.calls) (hloops : v'.loops = v.loops)
    (hpc : ¬ LoopAt code v.pc) (ho : opens code v'.pc = opens code v.pc) : Motion code v v' :=
  .inside hcalls hloops hpc (methodOf_congr ho) fun p _ => by rw [inner_congr ho]

/-- A block that is neither a method nor a loop is entered. -/
theorem inside_of_push {q : Nat} (hcalls : v'.calls = v.calls) (hloops : v'.loops = v.loops)
    (hpc : ¬ LoopAt code v.pc) (ho : opens code v'.pc = q :: opens code v.pc)
    (hq : methodAt code q = false) (hloop : ¬ LoopAt code q) : Motion code v v' := by
  refine .inside hcalls hloops hpc (methodOf_of_cons ho hq) fun p hp => ?_
  rw [inner_of_cons ho hq, List.mem_cons]
  exact ⟨fun h => h.resolve_left fun heq => hloop (heq ▸ hp), .inr⟩

/-- A block that is neither a method nor a loop is left. -/
theorem inside_of_pop {q : Nat} (hcalls : v'.calls = v.calls) (hloops : v'.loops = v.loops)
    (hpc : ¬ LoopAt code v.pc) (ho : opens code v.pc = q :: opens code v'.pc)
    (hq : methodAt code q = false) (hloop : ¬ LoopAt code q) : Motion code v v' := by
  refine .inside hcalls hloops hpc (methodOf_of_cons ho hq).symm fun p hp => ?_
  rw [inner_of_cons ho hq, List.mem_cons]
  exact ⟨.inr, fun h => h.resolve_left fun heq => hloop (heq ▸ hp)⟩

end Motion

/-- Every transition is a motion. -/
theorem Transition.motion {code : List CodeLine} {v v' : View} (h : Transition code v v') :
    Motion code v v' := by
  cases h with
  | work hc hx hs =>
    have hm := Command.marker?_of_work? hx
    exact .inside_of_eq rfl rfl (not_loopAt hc fun l hl => by rw [hl] at hm; cases hm)
      (opens_plain hc hm)
  | call hc hh => exact .call hc hh rfl rfl rfl
  | back hs hcalls => exact .back hs hcalls rfl rfl
  | outside hs hcalls => exact .outside hs hcalls
  | declared hs =>
    exact .inside_of_eq rfl rfl (hs.not_loopAt_start (by decide)) hs.opens_succ_stop
  | yes hc hs hg =>
    have hloop := hs.not_loopAt_start (by decide)
    exact .inside_of_push rfl rfl hloop hs.opens_succ_start (hs.methodAt_eq_false (by decide)) hloop
  | @no g mid e hc hs hg =>
    have hloop := hs.not_loopAt_start (by decide)
    cases mid with
    | none => exact .inside_of_eq rfl rfl hloop hs.opens_succ_stop
    | some q =>
      exact .inside_of_push rfl rfl hloop hs.opens_succ_middle (hs.methodAt_eq_false (by decide))
        hloop
  | orElse hs =>
    refine .inside_of_pop rfl rfl (not_loopAt hs.middle_command.1 fun l hl => by cases hl) ?_
      (hs.methodAt_eq_false (by decide)) (hs.not_loopAt_start (by decide))
    rw [hs.opens_middle_eq, hs.opens_succ_stop]
  | endIf hs =>
    refine .inside_of_pop rfl rfl hs.not_loopAt_stop ?_ (hs.methodAt_eq_false (by decide))
      (hs.not_loopAt_start (by decide))
    rw [hs.opens_stop_eq, hs.opens_succ_stop]
  | again hc hs hg =>
    have hloop := hs.not_loopAt_start (by decide)
    exact .inside_of_push rfl rfl hloop hs.opens_succ_start (hs.methodAt_eq_false (by decide)) hloop
  | enough hc hs hg =>
    exact .inside_of_eq rfl rfl (hs.not_loopAt_start (by decide)) hs.opens_succ_stop
  | endWhile hs =>
    exact .inside_of_pop rfl rfl hs.not_loopAt_stop hs.opens_stop_eq
      (hs.methodAt_eq_false (by decide)) (hs.not_loopAt_start (by decide))
  | count hc hs hh hg => exact .enter rfl rfl hs.loopAt hs.opens_succ_start
  | past hc hs hh hg => exact .leave rfl rfl hs.loopAt hs.opens_succ_stop
  | endFor hs hc hb hf => exact .again rfl rfl hs

/-! ## The chain of calls -/

/-- The counter is in the method that the innermost call has called, that call is in the method that
the next one has called, and so on; the outermost is in no method. -/
inductive Chain (code : List CodeLine) : Nat → List Nat → Prop
  | top {pc : Nat} (hm : methodOf code pc = none) : Chain code pc []
  | call {pc site header : Nat} {name : String} {rest : List Nat}
      (hm : methodOf code pc = some header) (hc : commandAt code site = some (.call name))
      (hh : findMethod? code name = some header) (hrest : Chain code site rest) :
      Chain code pc (site :: rest)

namespace Chain

variable {code : List CodeLine} {pc pc' : Nat} {calls : List Nat}

theorem congr (h : Chain code pc calls) (hm : methodOf code pc' = methodOf code pc) :
    Chain code pc' calls := by
  cases h with
  | top h => exact .top (hm.trans h)
  | call h hc hh hrest => exact .call (hm.trans h) hc hh hrest

/-- Behind the call that a method returns to, the rest of the chain holds. -/
theorem back {site : Nat} {rest : List Nat} (h : Chain code pc (site :: rest)) :
    Chain code (min (site + 1) code.length) rest ∧
      inner code (min (site + 1) code.length) = inner code site := by
  cases h with
  | call hm hc hh hrest =>
    have hopens := opens_plain hc rfl
    rw [Nat.min_eq_left (lt_length_of_commandAt hc)]
    exact ⟨hrest.congr (methodOf_congr hopens), inner_congr hopens⟩

/-- At the end of a method, there is a call to return to. -/
theorem calls_ne_nil {p : Nat} {mid : Option Nat} (h : Chain code pc calls)
    (hs : Spans code .method p mid pc) : calls ≠ [] := by
  rintro rfl
  cases h with
  | top hm =>
    rw [methodOf_of_cons_method hs.opens_stop_eq hs.methodAt_eq_true] at hm
    cases hm

/-- Behind the code, no call is open. -/
theorem eq_nil_of_le {t : BlockTree} (hn : Nested code t) (h : Chain code pc calls)
    (hpc : code.length ≤ pc) : calls = [] := by
  cases h with
  | top hm => rfl
  | call hm hc hh hrest =>
    rw [methodOf, hn.opens_of_le hpc] at hm
    cases hm

/-- Every step keeps the chain. -/
theorem motion {v v' : View} (h : Chain code v.pc v.calls) (hm : Motion code v v') :
    Chain code v'.pc v'.calls := by
  cases hm with
  | inside hcalls hloops hpc hm hin => rw [hcalls]; exact h.congr hm
  | enter hcalls hloops hpc ho =>
    rw [hcalls]
    exact h.congr (methodOf_of_cons ho hpc.methodAt_eq_false)
  | leave hcalls hloops hpc ho => rw [hcalls]; exact h.congr (methodOf_congr ho)
  | again hcalls hloops hs =>
    rw [hcalls]
    exact h.congr (methodOf_of_cons hs.opens_stop_eq hs.loopAt.methodAt_eq_false).symm
  | @call name header hc hh hcalls hloops hpc =>
    rw [hcalls, hpc]
    have hheader := commandAt_of_findMethod? hh
    exact .call (methodOf_of_cons_method (opens_start hheader rfl)
      (methodAt_eq_true.2 ⟨name, hheader⟩)) hc hh h
  | back hs hcalls hloops hpc =>
    rw [hcalls] at h
    rw [hpc]
    exact h.back.1
  | outside hs hcalls => exact absurd hcalls (h.calls_ne_nil hs)

/-- Every machine that a run of well nested code gets to has its calls in a chain. -/
theorem of_reached {t : BlockTree} (hn : Nested code t) {m : Machine}
    (h : Machine.Reached code m) : Chain code m.pc m.calls := by
  refine h.induct (P := fun m => Chain code m.pc m.calls) (.top rfl) ?_
  intro m m' _ hm hs
  have hview : Chain code m.view.pc m.view.calls := hm
  exact hview.motion (hs.transition hn).motion

end Chain

end PenScript
