import PenScript.Proofs.Accepted
import PenScript.Proofs.Transition

/-!
# Structured execution

* `Structured.State` is what a script works on: the scene, and the bounds of each counted loop that
  runs, by its place in the script;
* `Structured.Runs root pos t s n s'` : executing the tree `t`, which stands at `pos` in the script
  with the tree `root`, takes `s` to `s'` by `n` commands. There is no counter, no jump and no stack
  of calls: the rules follow the blocks;
* `Structured.Runs.steps` : the machine follows every derivation, with as many steps;
* `Structured.exists_runs` : a run of the machine that leaves the code passes through a derivation for
  each tree that it comes to;
* `Session.Accepted.run_eq_ok_iff_runs` : the machine succeeds exactly if there is a derivation.
-/

namespace PenScript

/-- The body of the method with a name, in a tree that stands at a position, and where it stands. -/
def BlockTree.methodBody? (name : String) : BlockTree → Nat → Option (Nat × BlockTree)
  | nil, _ => none
  | plain _ _ rest, pos => rest.methodBody? name (pos + 1)
  | block o body rest, pos =>
    if o = .method name then some (pos + 1, body)
    else (body.methodBody? name (pos + 1)).or (rest.methodBody? name (pos + body.size + 2))
  | branch _ body other rest, pos =>
    ((body.methodBody? name (pos + 1)).or (other.methodBody? name (pos + body.size + 2))).or
      (rest.methodBody? name (pos + body.size + other.size + 3))

section MethodBody

variable {code : List CodeLine} {name : String} {q : Nat} {body : BlockTree}

theorem BlockTree.methodBody?_isSome {t : BlockTree} (h : name ∈ t.methodNames) (pos : Nat) :
    (t.methodBody? name pos).isSome := by
  induction t generalizing pos with
  | nil => cases h
  | plain c hc rest ih => exact ih h _
  | block o inner rest ihb ihr =>
    rw [methodBody?]
    split
    · rfl
    · rename_i ho
      simp only [methodNames, List.mem_append] at h
      rw [Option.isSome_or, Bool.or_eq_true]
      rcases h with h | h | h
      · cases o with
        | method other => exact absurd (by rw [List.mem_singleton.1 h]) ho
        | _ => cases h
      · exact .inl (ihb h _)
      · exact .inr (ihr h _)
  | branch g inner other rest ihb iho ihr =>
    simp only [methodNames, List.mem_append] at h
    rw [methodBody?, Option.isSome_or, Option.isSome_or, Bool.or_eq_true, Bool.or_eq_true]
    rcases h with h | h | h
    · exact .inl (.inl (ihb h _))
    · exact .inl (.inr (iho h _))
    · exact .inr (ihr h _)

/-- The body that is found stands in the code between its header and its end. -/
theorem Placed.of_methodBody? {t : BlockTree} {pos : Nat} (h : Placed code pos t)
    (hbody : t.methodBody? name pos = some (q, body)) :
    ∃ header rest, q = header + 1 ∧ Placed code header (.block (.method name) body rest) := by
  induction t generalizing pos with
  | nil => cases hbody
  | plain c hc rest ih => exact ih (plain_iff.1 h).2 hbody
  | block o inner rest ihb ihr =>
    obtain ⟨-, hinner, -, hrest⟩ := block_iff.1 h
    rw [BlockTree.methodBody?] at hbody
    split at hbody
    · rename_i ho
      cases hbody
      exact ⟨pos, rest, rfl, ho ▸ h⟩
    · rcases Option.or_eq_some_iff.1 hbody with hbody | ⟨-, hbody⟩
      · exact ihb hinner hbody
      · exact ihr hrest hbody
  | branch g inner other rest ihb iho ihr =>
    obtain ⟨-, hinner, -, hother, -, hrest⟩ := branch_iff.1 h
    rw [BlockTree.methodBody?] at hbody
    rcases Option.or_eq_some_iff.1 hbody with hbody | ⟨-, hbody⟩
    · rcases Option.or_eq_some_iff.1 hbody with hbody | ⟨-, hbody⟩
      · exact ihb hinner hbody
      · exact iho hother hbody
    · exact ihr hrest hbody

variable {root : BlockTree} (hn : Nested code root) (hnames : root.methodNames.Nodup)
include hn hnames

/-- The body of a method stands behind the header that calls go to. -/
theorem Nested.findMethod?_of_methodBody? (hbody : root.methodBody? name 0 = some (q, body)) :
    ∃ header rest, q = header + 1 ∧ findMethod? code name = some header ∧
      Placed code header (.block (.method name) body rest) := by
  obtain ⟨header, rest, hq, hplaced⟩ := hn.placed.of_methodBody? hbody
  exact ⟨header, rest, hq, hn.findMethod?_eq hnames (Placed.block_iff.1 hplaced).1, hplaced⟩

theorem Nested.methodBody?_of_findMethod? {header : Nat}
    (h : findMethod? code name = some header) :
    ∃ body, root.methodBody? name 0 = some (header + 1, body) := by
  have hcommand := commandAt_of_findMethod? h
  have hmem : name ∈ root.methodNames := by
    rw [root.methodNames_eq, ← hn, List.mem_filterMap]
    rw [commandAt_eq_getElem?] at hcommand
    exact ⟨_, List.mem_of_getElem? hcommand, rfl⟩
  obtain ⟨⟨q, body⟩, hbody⟩ := Option.isSome_iff_exists.1 (root.methodBody?_isSome hmem 0)
  obtain ⟨header', rest, rfl, hfind, -⟩ := hn.findMethod?_of_methodBody? hnames hbody
  cases h.symm.trans hfind
  exact ⟨body, hbody⟩

end MethodBody

namespace Structured

/-- What a script works on: the scene, and the bounds of each counted loop that runs. -/
@[ext] structure State where
  scene : Scene := {}
  loops : Nat → Option LoopBounds := fun _ => none

/-- Executing a tree that stands at `pos` takes a state to another by a number of commands. -/
inductive Runs (root : BlockTree) : Nat → BlockTree → State → Nat → State → Prop
  | nil {pos : Nat} {s : State} : Runs root pos .nil s 0 s
  | work {pos : Nat} {c : Command} {h : c.marker? = none} {rest : BlockTree} {x : Exec Unit}
      {s s' : State} {scene : Scene} {n : Nat} (hx : c.work? = some x)
      (hs : x.onScene.run s.scene = .ok () scene)
      (hrest : Runs root (pos + 1) rest { s with scene := scene } n s') :
      Runs root pos (.plain c h rest) s (n + 1) s'
  /-- A call runs the body of the method once. -/
  | call {pos q : Nat} {name : String} {h : (Command.call name).marker? = none}
      {body rest : BlockTree} {s s₁ s' : State} {k n : Nat}
      (hm : root.methodBody? name 0 = some (q, body)) (hbody : Runs root q body s k s₁)
      (hrest : Runs root (pos + 1) rest s₁ n s') :
      Runs root pos (.plain (.call name) h rest) s (k + n + 2) s'
  /-- A declaration of a method that is reached in sequence does nothing. -/
  | method {pos : Nat} {name : String} {body rest : BlockTree} {s s' : State} {n : Nat}
      (hrest : Runs root (pos + body.size + 2) rest s n s') :
      Runs root pos (.block (.method name) body rest) s (n + 1) s'
  | ifTrue {pos : Nat} {g : String} {body rest : BlockTree} {s s₁ s' : State} {k n : Nat}
      (hg : Formula.condition s.scene.store g = true) (hbody : Runs root (pos + 1) body s k s₁)
      (hrest : Runs root (pos + body.size + 2) rest s₁ n s') :
      Runs root pos (.block (.ifThen g) body rest) s (k + n + 2) s'
  | ifFalse {pos : Nat} {g : String} {body rest : BlockTree} {s s' : State} {n : Nat}
      (hg : Formula.condition s.scene.store g = false)
      (hrest : Runs root (pos + body.size + 2) rest s n s') :
      Runs root pos (.block (.ifThen g) body rest) s (n + 1) s'
  | branchTrue {pos : Nat} {g : String} {body other rest : BlockTree} {s s₁ s' : State} {k n : Nat}
      (hg : Formula.condition s.scene.store g = true) (hbody : Runs root (pos + 1) body s k s₁)
      (hrest : Runs root (pos + body.size + other.size + 3) rest s₁ n s') :
      Runs root pos (.branch g body other rest) s (k + n + 2) s'
  | branchFalse {pos : Nat} {g : String} {body other rest : BlockTree} {s s₁ s' : State} {k n : Nat}
      (hg : Formula.condition s.scene.store g = false)
      (hother : Runs root (pos + body.size + 2) other s k s₁)
      (hrest : Runs root (pos + body.size + other.size + 3) rest s₁ n s') :
      Runs root pos (.branch g body other rest) s (k + n + 2) s'
  /-- The condition is tested again before every iteration. -/
  | whileTrue {pos : Nat} {g : String} {body rest : BlockTree} {s s₁ s' : State} {k n : Nat}
      (hg : Formula.condition s.scene.store g = true) (hbody : Runs root (pos + 1) body s k s₁)
      (hagain : Runs root pos (.block (.whileDo g) body rest) s₁ n s') :
      Runs root pos (.block (.whileDo g) body rest) s (k + n + 2) s'
  | whileFalse {pos : Nat} {g : String} {body rest : BlockTree} {s s' : State} {n : Nat}
      (hg : Formula.condition s.scene.store g = false)
      (hrest : Runs root (pos + body.size + 2) rest s n s') :
      Runs root pos (.block (.whileDo g) body rest) s (n + 1) s'
  /-- A loop that does not run computes its bounds, one that runs has them. They are kept for the
  body; where they are gone at its end, there is no rule. -/
  | forMore {pos : Nat} {l : CountedLoop} {body rest : BlockTree} {s s₁ s' : State} {k n : Nat}
      {x : Value} {b b₁ : LoopBounds} {scene scene₁ : Scene}
      (hh : (l.head (s.loops pos)).onScene.run s.scene = .ok (x, b) scene)
      (hg : CountedLoop.goesOn x b = .ok true)
      (hbody : Runs root (pos + 1) body ⟨scene, Function.update s.loops pos (some b)⟩ k s₁)
      (hb : s₁.loops pos = some b₁) (hf : (l.forward b₁).onScene.run s₁.scene = .ok () scene₁)
      (hagain : Runs root pos (.block (.countTo l) body rest) { s₁ with scene := scene₁ } n s') :
      Runs root pos (.block (.countTo l) body rest) s (k + n + 2) s'
  | forDone {pos : Nat} {l : CountedLoop} {body rest : BlockTree} {s s' : State} {n : Nat}
      {x : Value} {b : LoopBounds} {scene : Scene}
      (hh : (l.head (s.loops pos)).onScene.run s.scene = .ok (x, b) scene)
      (hg : CountedLoop.goesOn x b = .ok false)
      (hrest : Runs root (pos + body.size + 2) rest ⟨scene, Function.update s.loops pos none⟩ n s') :
      Runs root pos (.block (.countTo l) body rest) s (n + 1) s'

/-- The machine that works on a state, with its counter and its calls. -/
def State.view (s : State) (pos : Nat) (calls : List Nat) : View := ⟨s.scene, calls, pos, s.loops⟩

/-- A block that is entered by one step and left by another. -/
theorem steps_around {code : List CodeLine} {a b c d e : View} {k n : Nat}
    (hfirst : Transition code a b) (hbody : Steps (Transition code) k b c)
    (hlast : Transition code c d) (hrest : Steps (Transition code) n d e) :
    Steps (Transition code) (k + n + 2) a e :=
  .cons hfirst (hbody.trans (.cons hlast hrest))

section Steps

variable {code : List CodeLine} {root : BlockTree} (hn : Nested code root)
  (hnames : root.methodNames.Nodup)
include hn hnames

/-- The machine follows a derivation: it gets from the start of the tree to its end. -/
theorem Runs.steps {pos stop : Nat} {t : BlockTree} {s s' : State} {n : Nat}
    (h : Runs root pos t s n s') (ht : Placed code pos t) (hstop : stop = pos + t.size)
    (calls : List Nat) : Steps (Transition code) n (s.view pos calls) (s'.view stop calls) := by
  induction h generalizing stop calls with
  | nil => rw [hstop]; exact .refl _
  | work hx hs hrest ih =>
    obtain ⟨hc, hplaced⟩ := Placed.plain_iff.1 ht
    rw [BlockTree.size_plain] at hstop
    exact .cons (.work hc hx hs) (ih hplaced (by omega) calls)
  | @call pos q name _ body rest s s₁ s' k n hm hbody hrest ihb ihr =>
    obtain ⟨hc, hplaced⟩ := Placed.plain_iff.1 ht
    rw [BlockTree.size_plain] at hstop
    obtain ⟨header, more, rfl, hfind, hmethod⟩ := hn.findMethod?_of_methodBody? hnames hm
    -- the body runs with the call on the stack, and its end goes back behind the call
    have hreturn : Transition code (s₁.view (header + body.size + 1) (pos :: calls))
        (s₁.view (pos + 1) calls) := by
      have hback := Transition.back (v := s₁.view (header + body.size + 1) (pos :: calls))
        (.block hmethod) rfl
      rw [Nat.min_eq_left (lt_length_of_commandAt hc)] at hback
      exact hback
    exact steps_around (.call hc hfind)
      (ihb (Placed.block_iff.1 hmethod).2.1 (by omega) (pos :: calls)) hreturn
      (ihr hplaced (by omega) calls)
  | method hrest ih =>
    rw [BlockTree.size_block] at hstop
    exact .cons (.declared (.block ht)) (ih (Placed.block_iff.1 ht).2.2.2 (by omega) calls)
  | ifTrue hg hbody hrest ihb ihr =>
    obtain ⟨hc, hinner, -, houter⟩ := Placed.block_iff.1 ht
    rw [BlockTree.size_block] at hstop
    exact steps_around (.yes hc (.block ht) hg) (ihb hinner (Nat.add_right_comm _ _ _) calls)
      (.endIf (.block ht)) (ihr houter (by omega) calls)
  | ifFalse hg hrest ih =>
    obtain ⟨hc, -, -, houter⟩ := Placed.block_iff.1 ht
    rw [BlockTree.size_block] at hstop
    exact .cons (.no hc (.block ht) hg) (ih houter (by omega) calls)
  | branchTrue hg hbody hrest ihb ihr =>
    obtain ⟨hc, hinner, -, -, -, houter⟩ := Placed.branch_iff.1 ht
    rw [BlockTree.size_branch] at hstop
    exact steps_around (.yes hc (.branch ht) hg) (ihb hinner (Nat.add_right_comm _ _ _) calls)
      (.orElse (.branch ht)) (ihr houter (by omega) calls)
  | branchFalse hg hother hrest iho ihr =>
    obtain ⟨hc, -, -, hinner, -, houter⟩ := Placed.branch_iff.1 ht
    rw [BlockTree.size_branch] at hstop
    exact steps_around (.no hc (.branch ht) hg) (iho hinner (Nat.add_right_comm _ _ _) calls)
      (.endIf (.branch ht)) (ihr houter (by omega) calls)
  | whileTrue hg hbody hagain ihb iha =>
    obtain ⟨hc, hinner, -, -⟩ := Placed.block_iff.1 ht
    exact steps_around (.again hc (.block ht) hg) (ihb hinner (Nat.add_right_comm _ _ _) calls)
      (.endWhile (.block ht)) (iha ht hstop calls)
  | whileFalse hg hrest ih =>
    obtain ⟨hc, -, -, houter⟩ := Placed.block_iff.1 ht
    rw [BlockTree.size_block] at hstop
    exact .cons (.enough hc (.block ht) hg) (ih houter (by omega) calls)
  | forMore hh hg hbody hb hf hagain ihb iha =>
    obtain ⟨hc, hinner, -, -⟩ := Placed.block_iff.1 ht
    exact steps_around (.count hc (.block ht) hh hg) (ihb hinner (Nat.add_right_comm _ _ _) calls)
      (.endFor (.block ht) hc hb hf) (iha ht hstop calls)
  | forDone hh hg hrest ih =>
    obtain ⟨hc, -, -, houter⟩ := Placed.block_iff.1 ht
    rw [BlockTree.size_block] at hstop
    exact .cons (.past hc (.block ht) hh hg) (ih houter (by omega) calls)

end Steps

/-! ## From the machine to derivations -/

/-- From a machine with the view, `N` steps lead to the machine `fin`. -/
def Ends (code : List CodeLine) (fin : Machine) (N : Nat) (v : View) : Prop :=
  ∃ m, m.view = v ∧ Steps (Machine.Step code) N m fin

section Ends

variable {code : List CodeLine} {fin : Machine} (hfin : code[fin.pc]? = none) {N : Nat} {v : View}
  (h : Ends code fin N v)
include hfin h

/-- A machine at a command has a step to make before it leaves the code. -/
theorem Ends.exists_step {c : Command} (hc : commandAt code v.pc = some c) :
    ∃ N' m m', N = N' + 1 ∧ m.view = v ∧ Machine.Step code m m' ∧ Ends code fin N' m'.view := by
  obtain ⟨m, rfl, hs⟩ := h
  cases hs with
  | refl =>
    rw [commandAt, Machine.view_pc, hfin] at hc
    cases hc
  | cons hstep hs => exact ⟨_, m, _, rfl, rfl, hstep, _, rfl, hs⟩

theorem Ends.next {c : Command} {v' : View} (hc : commandAt code v.pc = some c)
    (hg : c.Gives code v .next v') :
    ∃ N', N = N' + 1 ∧ Ends code fin N' { v' with pc := v'.pc + 1 } := by
  obtain ⟨N', m, m', rfl, rfl, hstep, hends⟩ := h.exists_step hfin hc
  rw [hstep.eq_of_gives hc hg] at hends
  exact ⟨N', rfl, hends⟩

theorem Ends.goto {c : Command} {v' : View} {target : Nat} (hc : commandAt code v.pc = some c)
    (hg : c.Gives code v (.goto target) v') (hle : target ≤ code.length) :
    ∃ N', N = N' + 1 ∧ Ends code fin N' { v' with pc := target } := by
  obtain ⟨N', m, m', rfl, rfl, hstep, hends⟩ := h.exists_step hfin hc
  rw [hstep.eq_of_gives_goto hc hg hle] at hends
  exact ⟨N', rfl, hends⟩

theorem Ends.work {c : Command} {x : Exec Unit} (hc : commandAt code v.pc = some c)
    (hx : c.work? = some x) : ∃ N' s, N = N' + 1 ∧ x.onScene.run v.scene = .ok () s ∧
      Ends code fin N' { v with scene := s, pc := v.pc + 1 } := by
  obtain ⟨N', m, m', rfl, rfl, hstep, hends⟩ := h.exists_step hfin hc
  obtain ⟨s, hs, hview⟩ := hstep.eq_of_work hc hx
  rw [hview] at hends
  exact ⟨N', s, rfl, hs, hends⟩

theorem Ends.call {name : String} (hc : commandAt code v.pc = some (.call name)) :
    ∃ N' header, N = N' + 1 ∧ findMethod? code name = some header ∧
      Ends code fin N' { v with calls := v.pc :: v.calls, pc := header + 1 } := by
  cases hh : findMethod? code name with
  | none =>
    obtain ⟨N', m, m', -, rfl, hstep, -⟩ := h.exists_step hfin hc
    exact absurd hstep (Machine.not_step_of_rejects hc (Command.rejects_call hh))
  | some header =>
    obtain ⟨N', rfl, hends⟩ := h.goto hfin hc (Command.gives_call hh)
      (lt_length_of_commandAt (commandAt_of_findMethod? hh))
    exact ⟨N', header, rfl, rfl, hends⟩

theorem Ends.countTo {l : CountedLoop} {mid : Option Nat} {e : Nat}
    (hc : commandAt code v.pc = some (.countTo l)) (hs : Spans code .forLoop v.pc mid e) :
    ∃ N' x b s, N = N' + 1 ∧ (l.head (v.loops v.pc)).onScene.run v.scene = .ok (x, b) s ∧
      ((CountedLoop.goesOn x b = .ok true ∧ Ends code fin N' { v with
          scene := s, loops := Function.update v.loops v.pc (some b), pc := v.pc + 1 }) ∨
        (CountedLoop.goesOn x b = .ok false ∧ Ends code fin N' { v with
          scene := s, loops := Function.update v.loops v.pc none, pc := e + 1 })) := by
  obtain ⟨N', m, m', rfl, rfl, hstep, hends⟩ := h.exists_step hfin hc
  obtain ⟨x, b, s, hh, ⟨hg, hview⟩ | ⟨hg, hview⟩⟩ := hstep.eq_of_countTo hc hs
  · rw [hview] at hends
    exact ⟨N', x, b, s, rfl, hh, .inl ⟨hg, hends⟩⟩
  · rw [hview] at hends
    exact ⟨N', x, b, s, rfl, hh, .inr ⟨hg, hends⟩⟩

theorem Ends.endFor {l : CountedLoop} {p : Nat} {mid : Option Nat}
    (hl : commandAt code p = some (.countTo l)) (hs : Spans code .forLoop p mid v.pc) :
    ∃ N' b s, N = N' + 1 ∧ v.loops p = some b ∧ (l.forward b).onScene.run v.scene = .ok () s ∧
      Ends code fin N' { v with scene := s, pc := p } := by
  obtain ⟨N', m, m', rfl, rfl, hstep, hends⟩ :=
    h.exists_step hfin (hs.stop_command (o := .countTo l) rfl)
  obtain ⟨b, s, hb, hf, hview⟩ := hstep.eq_of_endFor hl hs
  rw [hview] at hends
  exact ⟨N', b, s, rfl, hb, hf, hends⟩

end Ends

section Follows

variable {code : List CodeLine} {root : BlockTree} {fin : Machine}

/-- A run of `N` steps from the start of the tree to the machine `fin` passes through the end of
the tree, and what it does before is a derivation. -/
def Follows (code : List CodeLine) (root : BlockTree) (fin : Machine) (N pos : Nat) (t : BlockTree) :
    Prop :=
  ∀ (stop : Nat) (s : State) (calls : List Nat), stop = pos + t.size →
    Ends code fin N (s.view pos calls) →
    ∃ n k s', N = n + k ∧ Runs root pos t s n s' ∧ Ends code fin k (s'.view stop calls)

variable (hfin : code[fin.pc]? = none) {N pos : Nat}
  (ih : ∀ {k}, k < N → ∀ {pos t}, Placed code pos t → Follows code root fin k pos t)
include hfin ih

theorem follows_work {c : Command} {hc : c.marker? = none} {rest : BlockTree} {x : Exec Unit}
    (hx : c.work? = some x) (ht : Placed code pos (.plain c hc rest)) :
    Follows code root fin N pos (.plain c hc rest) := by
  intro stop s calls hstop h
  obtain ⟨hcommand, hplaced⟩ := Placed.plain_iff.1 ht
  rw [BlockTree.size_plain] at hstop
  obtain ⟨N₁, scene, rfl, hs, h₁⟩ := h.work hfin hcommand hx
  obtain ⟨n, k, s', rfl, hrest, hlast⟩ :=
    ih (by omega) hplaced stop ⟨scene, s.loops⟩ calls (by omega) h₁
  exact ⟨n + 1, k, s', by omega, .work hx hs hrest, hlast⟩

theorem follows_call {name : String} {hc : (Command.call name).marker? = none} {rest : BlockTree}
    (hn : Nested code root) (hnames : root.methodNames.Nodup)
    (ht : Placed code pos (.plain (.call name) hc rest)) :
    Follows code root fin N pos (.plain (.call name) hc rest) := by
  intro stop s calls hstop h
  obtain ⟨hcommand, hplaced⟩ := Placed.plain_iff.1 ht
  rw [BlockTree.size_plain] at hstop
  obtain ⟨N₁, header, rfl, hfind, h₁⟩ := h.call hfin hcommand
  obtain ⟨body, hm⟩ := hn.methodBody?_of_findMethod? hnames hfind
  obtain ⟨header', more, hheader, -, hmethod⟩ := hn.findMethod?_of_methodBody? hnames hm
  obtain rfl : header = header' := Nat.succ.inj hheader
  obtain ⟨-, hinner, hend, -⟩ := Placed.block_iff.1 hmethod
  obtain ⟨n₁, k₁, s₁, rfl, hbody, h₂⟩ :=
    ih (by omega) hinner (header + body.size + 1) s (pos :: calls) (by omega) h₁
  obtain ⟨N₂, rfl, h₃⟩ := h₂.goto hfin hend (Command.gives_endMethod_back rfl)
    (lt_length_of_commandAt hcommand)
  obtain ⟨n₂, k₂, s₂, rfl, hrest, hlast⟩ := ih (by omega) hplaced stop s₁ calls (by omega) h₃
  exact ⟨n₁ + n₂ + 2, k₂, s₂, by omega, .call hm hbody hrest, hlast⟩

theorem follows_method {name : String} {body rest : BlockTree}
    (ht : Placed code pos (.block (.method name) body rest)) :
    Follows code root fin N pos (.block (.method name) body rest) := by
  intro stop s calls hstop h
  obtain ⟨hcommand, -, -, houter⟩ := Placed.block_iff.1 ht
  rw [BlockTree.size_block] at hstop
  have hs := Spans.block ht
  obtain ⟨N₁, rfl, h₁⟩ := h.goto hfin hcommand (Command.gives_method hs) hs.lt_length
  obtain ⟨n, k, s', rfl, hrest, hlast⟩ := ih (by omega) houter stop s calls (by omega) h₁
  exact ⟨n + 1, k, s', by omega, .method hrest, hlast⟩

theorem follows_if {g : String} {body rest : BlockTree}
    (ht : Placed code pos (.block (.ifThen g) body rest)) :
    Follows code root fin N pos (.block (.ifThen g) body rest) := by
  intro stop s calls hstop h
  obtain ⟨hcommand, hinner, hend, houter⟩ := Placed.block_iff.1 ht
  rw [BlockTree.size_block] at hstop
  have hs := Spans.block ht
  cases hg : Formula.condition s.scene.store g with
  | true =>
    obtain ⟨N₁, rfl, h₁⟩ := h.next hfin hcommand (Command.gives_ifThen hg)
    obtain ⟨n₁, k₁, s₁, rfl, hbody, h₂⟩ :=
      ih (by omega) hinner (pos + body.size + 1) s calls (by omega) h₁
    obtain ⟨N₂, rfl, h₃⟩ := h₂.next hfin hend Command.gives_endIf
    obtain ⟨n₂, k₂, s₂, rfl, hrest, hlast⟩ := ih (by omega) houter stop s₁ calls (by omega) h₃
    exact ⟨n₁ + n₂ + 2, k₂, s₂, by omega, .ifTrue hg hbody hrest, hlast⟩
  | false =>
    obtain ⟨N₁, rfl, h₁⟩ := h.goto hfin hcommand (Command.gives_ifThen_skip hg hs) hs.lt_length
    obtain ⟨n, k, s', rfl, hrest, hlast⟩ := ih (by omega) houter stop s calls (by omega) h₁
    exact ⟨n + 1, k, s', by omega, .ifFalse hg hrest, hlast⟩

theorem follows_branch {g : String} {body other rest : BlockTree}
    (ht : Placed code pos (.branch g body other rest)) :
    Follows code root fin N pos (.branch g body other rest) := by
  intro stop s calls hstop h
  obtain ⟨hcommand, hinner, hmiddle, hother, hend, houter⟩ := Placed.branch_iff.1 ht
  rw [BlockTree.size_branch] at hstop
  have hs := Spans.branch ht
  cases hg : Formula.condition s.scene.store g with
  | true =>
    obtain ⟨N₁, rfl, h₁⟩ := h.next hfin hcommand (Command.gives_ifThen hg)
    obtain ⟨n₁, k₁, s₁, rfl, hbody, h₂⟩ :=
      ih (by omega) hinner (pos + body.size + 1) s calls (by omega) h₁
    obtain ⟨N₂, rfl, h₃⟩ := h₂.goto hfin hmiddle (Command.gives_orElse hs) hs.lt_length
    obtain ⟨n₂, k₂, s₂, rfl, hrest, hlast⟩ := ih (by omega) houter stop s₁ calls (by omega) h₃
    exact ⟨n₁ + n₂ + 2, k₂, s₂, by omega, .branchTrue hg hbody hrest, hlast⟩
  | false =>
    obtain ⟨N₁, rfl, h₁⟩ := h.goto hfin hcommand (Command.gives_ifThen_skip hg hs)
      (lt_length_of_commandAt hmiddle)
    obtain ⟨n₁, k₁, s₁, rfl, hsecond, h₂⟩ :=
      ih (by omega) hother (pos + body.size + other.size + 2) s calls (by omega) h₁
    obtain ⟨N₂, rfl, h₃⟩ := h₂.next hfin hend Command.gives_endIf
    obtain ⟨n₂, k₂, s₂, rfl, hrest, hlast⟩ := ih (by omega) houter stop s₁ calls (by omega) h₃
    exact ⟨n₁ + n₂ + 2, k₂, s₂, by omega, .branchFalse hg hsecond hrest, hlast⟩

theorem follows_while {g : String} {body rest : BlockTree}
    (ht : Placed code pos (.block (.whileDo g) body rest)) :
    Follows code root fin N pos (.block (.whileDo g) body rest) := by
  intro stop s calls hstop h
  obtain ⟨hcommand, hinner, hend, houter⟩ := Placed.block_iff.1 ht
  have hs := Spans.block ht
  cases hg : Formula.condition s.scene.store g with
  | true =>
    obtain ⟨N₁, rfl, h₁⟩ := h.next hfin hcommand (Command.gives_whileDo hg)
    obtain ⟨n₁, k₁, s₁, rfl, hbody, h₂⟩ :=
      ih (by omega) hinner (pos + body.size + 1) s calls (by omega) h₁
    obtain ⟨N₂, rfl, h₃⟩ := h₂.goto hfin hend (Command.gives_endWhile hs)
      (Nat.le_of_lt (lt_length_of_commandAt hcommand))
    -- the same loop again, with fewer steps to the end
    obtain ⟨n₂, k₂, s₂, rfl, hagain, hlast⟩ := ih (by omega) ht stop s₁ calls hstop h₃
    exact ⟨n₁ + n₂ + 2, k₂, s₂, by omega, .whileTrue hg hbody hagain, hlast⟩
  | false =>
    rw [BlockTree.size_block] at hstop
    obtain ⟨N₁, rfl, h₁⟩ := h.goto hfin hcommand (Command.gives_whileDo_skip hg hs) hs.lt_length
    obtain ⟨n, k, s', rfl, hrest, hlast⟩ := ih (by omega) houter stop s calls (by omega) h₁
    exact ⟨n + 1, k, s', by omega, .whileFalse hg hrest, hlast⟩

theorem follows_for {l : CountedLoop} {body rest : BlockTree}
    (ht : Placed code pos (.block (.countTo l) body rest)) :
    Follows code root fin N pos (.block (.countTo l) body rest) := by
  intro stop s calls hstop h
  obtain ⟨hcommand, hinner, -, houter⟩ := Placed.block_iff.1 ht
  have hs := Spans.block ht
  obtain ⟨N₁, x, b, scene, rfl, hh, ⟨hg, h₁⟩ | ⟨hg, h₁⟩⟩ := h.countTo hfin hcommand hs
  · obtain ⟨n₁, k₁, s₁, rfl, hbody, h₂⟩ := ih (by omega) hinner (pos + body.size + 1)
      ⟨scene, Function.update s.loops pos (some b)⟩ calls (by omega) h₁
    obtain ⟨N₂, b₁, scene₁, rfl, hb, hf, h₃⟩ := h₂.endFor hfin hcommand hs
    obtain ⟨n₂, k₂, s₂, rfl, hagain, hlast⟩ :=
      ih (by omega) ht stop ⟨scene₁, s₁.loops⟩ calls hstop h₃
    exact ⟨n₁ + n₂ + 2, k₂, s₂, by omega, .forMore hh hg hbody hb hf hagain, hlast⟩
  · rw [BlockTree.size_block] at hstop
    obtain ⟨n, k, s', rfl, hrest, hlast⟩ := ih (by omega) houter stop
      ⟨scene, Function.update s.loops pos none⟩ calls (by omega) h₁
    exact ⟨n + 1, k, s', by omega, .forDone hh hg hrest, hlast⟩

end Follows

/-- A run that leaves the code follows every tree that it comes to. -/
theorem exists_runs {code : List CodeLine} {root : BlockTree} {fin : Machine}
    (hn : Nested code root) (hnames : root.methodNames.Nodup) (hfin : code[fin.pc]? = none)
    (N : Nat) : ∀ {pos t}, Placed code pos t → Follows code root fin N pos t := by
  -- every construct runs its parts with fewer steps to the end
  induction N using Nat.strongRecOn with
  | ind N ih =>
    intro pos t ht
    have ih' : ∀ {k}, k < N → ∀ {pos t}, Placed code pos t → Follows code root fin k pos t :=
      fun hk => ih _ hk
    cases t with
    | nil =>
      intro stop s calls hstop h
      exact ⟨0, N, s, (Nat.zero_add N).symm, .nil, hstop ▸ h⟩
    | plain c hc rest =>
      rcases Command.work?_or_call hc with ⟨x, hx⟩ | ⟨name, rfl⟩
      · exact follows_work hfin ih' hx ht
      · exact follows_call hfin ih' hn hnames ht
    | block o body rest =>
      cases o with
      | ifThen g => exact follows_if hfin ih' ht
      | whileDo g => exact follows_while hfin ih' ht
      | countTo l => exact follows_for hfin ih' ht
      | method name => exact follows_method hfin ih' ht
    | branch g body other rest => exact follows_branch hfin ih' ht

end Structured

/-- The part of the machine that structured execution works on. -/
def Machine.state (m : Machine) : Structured.State := ⟨m.scene, fun p => m.loops[p]?⟩

theorem Machine.state_eq_of_view {m : Machine} {s : Structured.State} {pos : Nat} {calls : List Nat}
    (h : m.view = s.view pos calls) : m.state = s :=
  Structured.State.ext (congrArg View.scene h) (congrArg View.loops h)

open Structured in
/-- The machine leaves well nested code after `n` steps exactly if the tree of the code runs by `n`
commands, and they agree on the state. -/
theorem Nested.steps_iff_runs {code : List CodeLine} {t : BlockTree} (hn : Nested code t)
    (hnames : t.methodNames.Nodup) {n : Nat} {final : State} :
    (∃ m, Steps (Machine.Step code) n {} m ∧ code[m.pc]? = none ∧ m.state = final) ↔
      Runs t 0 t {} n final := by
  have hout : code[code.length]? = none := List.getElem?_eq_none (Nat.le_refl _)
  constructor
  · rintro ⟨m, hsteps, hm, rfl⟩
    obtain ⟨k, j, s', rfl, hruns, m₁, hview, hlast⟩ :=
      exists_runs hn hnames hm n hn.placed code.length {} [] (by rw [hn.size_eq, Nat.zero_add])
        ⟨{}, Machine.view_empty, hsteps⟩
    -- behind the tree there is no command left
    have hpc : m₁.pc = code.length := by rw [← m₁.view_pc, hview]; rfl
    obtain ⟨rfl, rfl⟩ := hlast.eq_zero (Machine.not_step_of_none (hpc ▸ hout))
    rw [Machine.state_eq_of_view hview]
    exact hruns
  · intro hruns
    have hsteps : Steps (Transition code) n (({} : State).view 0 []) (final.view code.length []) :=
      hruns.steps hn hnames hn.placed (by rw [hn.size_eq, Nat.zero_add]) []
    obtain ⟨m, hm, hview⟩ := hsteps.exists_of_map (f := Machine.view) Transition.exists_step
      (a := {}) Machine.view_empty
    have hpc : m.pc = code.length := by rw [← m.view_pc, hview]; rfl
    exact ⟨m, hm, by rw [hpc]; exact hout, Machine.state_eq_of_view hview⟩

open Structured in
/-- The run of an accepted script by counter, jumps and calls succeeds exactly if the structured
execution of its tree ends within the limit, and both leave the same state. -/
theorem Session.Accepted.run_eq_ok_iff_runs {source : String} {s₀ s : Session}
    (h : Accepted source s₀ s) :
    (∃ t, Nested s.program.code t) ∧
      ∀ t, Nested s.program.code t → ∀ (limit n : Nat) (final : State),
        ((s.program.setLimit limit).run.result = .ok n ∧
            (s.program.setLimit limit).run.program.machine.state = final) ↔
          n ≤ limit ∧ Runs t 0 t {} n final := by
  obtain ⟨t₀, hn₀, -, hnames₀⟩ := h.exists_tree
  refine ⟨⟨t₀, hn₀⟩, fun t hn limit n final => ?_⟩
  have hnames : t.methodNames.Nodup := by
    rwa [t.methodNames_eq, ← hn, hn₀, ← t₀.methodNames_eq]
  have hparsed : (s.program.setLimit limit).parsed = true := h.parsed_eq_true
  rw [← hn.steps_iff_runs hnames]
  constructor
  · rintro ⟨hresult, hstate⟩
    obtain ⟨hle, hsteps, hm⟩ := (Program.run_eq_ok hparsed).1 ⟨hresult, rfl⟩
    exact ⟨hle, _, hsteps, hm, hstate⟩
  · rintro ⟨hle, m, hsteps, hm, hstate⟩
    obtain ⟨hresult, hmachine⟩ := (Program.run_eq_ok hparsed).2 ⟨hle, hsteps, hm⟩
    exact ⟨hresult, by rw [hmachine]; exact hstate⟩

/-- A method that is called twice. -/
def Session.calledTwice : String := "method m\nclear\nend method\ncall m\ncall m"

open Structured in
theorem Session.runs_calledTwice : ∃ s t final, Accepted calledTwice {} s ∧
    Nested s.program.code t ∧ Runs t 0 t {} 7 final := by
  obtain ⟨s, hs, hrun⟩ := exists_accepted calledTwice
    (fun p => (p.setLimit 10).run.result.toOption == some 7) (by decide +kernel)
  obtain ⟨⟨t, ht⟩, hiff⟩ := hs.run_eq_ok_iff_runs
  have hresult : (s.program.setLimit 10).run.result = .ok 7 := by
    cases h : (s.program.setLimit 10).run.result with
    | error e => simp [h, Except.toOption] at hrun
    | ok n => simpa [h, Except.toOption] using hrun
  exact ⟨s, t, _, hs, ht, ((hiff t ht 10 7 _).1 ⟨hresult, rfl⟩).2⟩

end PenScript
