import Mathlib.Logic.Basic
import PenScript.Proofs.Attempt
import PenScript.Proofs.BlockTree
import PenScript.Script.Session

/-!
# The bookkeeping accepts exactly the block grammar

* `Track.commands` keeps the books for a sequence of commands;
* `Track.command_opening`, `Track.command_orElse`, `Track.command_stop` : when one command is
  accepted, and what the books are then;
* `Track.commands_tree` : the sequence of a tree is accepted exactly if its methods are apart and
  `Fresh`, and leaves the open blocks as they were;
* `Track.completes_of_commands` : a sequence after which no block is open closes the open blocks one
  after the other, with a tree before each end;
* `Track.accepts_iff_derivable` : the main result.
-/

namespace PenScript

namespace Track

/-- Keeps the books for commands in order. -/
def commands : List CodeLine → Track Unit
  | [] => pure ()
  | c :: rest => do
    command c.command c.line
    commands rest

theorem commands_nil (b b' : Bookkeeping) : (commands []).run b = .ok () b' ↔ b' = b := by
  rw [commands, EStateM.run_pure]
  simp [eq_comm]

theorem commands_cons {c : CodeLine} {code : List CodeLine} {b b' : Bookkeeping} :
    (commands (c :: code)).run b = .ok () b' ↔
      ∃ b₁, (command c.command c.line).run b = .ok () b₁ ∧ (commands code).run b₁ = .ok () b' := by
  rw [commands, Attempt.run_bind_eq_ok]
  constructor
  · rintro ⟨⟨⟩, b₁, h₁, h₂⟩
    exact ⟨b₁, h₁, h₂⟩
  · rintro ⟨b₁, h₁, h₂⟩
    exact ⟨(), b₁, h₁, h₂⟩

theorem commands_append {code more : List CodeLine} {b b' : Bookkeeping} :
    (commands (code ++ more)).run b = .ok () b' ↔
      ∃ b₁, (commands code).run b = .ok () b₁ ∧ (commands more).run b₁ = .ok () b' := by
  induction code generalizing b with
  | nil => simp [commands_nil]
  | cons c code ih =>
    rw [List.cons_append, commands_cons]
    simp only [ih, commands_cons]
    constructor
    · rintro ⟨b₁, h₁, b₂, h₂, h₃⟩
      exact ⟨b₂, ⟨b₁, h₁, h₂⟩, h₃⟩
    · rintro ⟨b₂, ⟨b₁, h₁, h₂⟩, h₃⟩
      exact ⟨b₁, h₁, b₂, h₂, h₃⟩

/-! ## One command -/

/-- Methods with these names may be declared: the names are new, and no method is open. -/
def Fresh (names : List String) (b : Bookkeeping) : Prop :=
  names.Nodup ∧ ∀ name ∈ names, name ∉ b.methods ∧ ∀ x ∈ b.blocks, x.kind ≠ .method

theorem command_plain {c : Command} (h : c.marker? = none) (line : Nat) (b b' : Bookkeeping) :
    (command c line).run b = .ok () b' ↔ b' = b := by
  rw [command, h]
  exact commands_nil b b'

theorem start_method (name : String) (line : Nat) (b : Bookkeeping) :
    (start .method (.method name) line).run b =
      if b.blocks.any (·.kind == .method) then .error (.nestedMethod name) b
      else if b.methods.contains name then .error (.duplicateMethod name) b
      else .ok () ⟨⟨.method, line, false⟩ :: b.blocks, name :: b.methods⟩ := by
  rw [start, EStateM.run_bind, EStateM.run_get]
  dsimp only
  by_cases hopen : b.blocks.any (·.kind == .method) = true
  · rw [if_pos hopen, if_pos hopen]
    rfl
  · rw [if_neg hopen, if_neg hopen, EStateM.run_bind, EStateM.run_get]
    dsimp only
    by_cases hknown : b.methods.contains name = true
    · rw [if_pos hknown, if_pos hknown]
      rfl
    · rw [if_neg hknown, if_neg hknown]
      rfl

theorem start_of_not_method {c : Command} (h : ∀ name, c ≠ .method name) (k : Block.Kind)
    (line : Nat) (b : Bookkeeping) :
    (start k c line).run b = .ok () ⟨⟨k, line, false⟩ :: b.blocks, b.methods⟩ := by
  unfold start
  split
  · rename_i name
    exact absurd rfl (h name)
  · rfl

theorem command_opening (o : Opening) (line : Nat) (b b' : Bookkeeping) :
    (command o.command line).run b = .ok () b' ↔
      Fresh o.declared b ∧
        b' = ⟨⟨o.kind, line, false⟩ :: b.blocks, o.declared ++ b.methods⟩ := by
  have hmarker : command o.command line = start o.kind o.command line := by
    rw [command, o.command_marker?]
  rw [hmarker]
  cases o with
  | method name =>
    rw [Opening.kind, Opening.command, start_method]
    have hopen : b.blocks.any (·.kind == .method) = true ↔ ∃ x ∈ b.blocks, x.kind = .method := by
      simp
    have hknown : b.methods.contains name = true ↔ name ∈ b.methods := by simp
    simp only [hopen, hknown, Fresh, Opening.declared, List.mem_singleton, forall_eq,
      List.singleton_append]
    split
    · rename_i h
      obtain ⟨x, hx, hk⟩ := h
      simp only [reduceCtorEq, false_iff]
      exact fun h' => h'.1.2.2 x hx hk
    · rename_i h
      split
      · rename_i hn
        simp [hn]
      · rename_i hn
        constructor
        · rintro ⟨⟩
          exact ⟨⟨by simp, hn, fun x hx hk => h ⟨x, hx, hk⟩⟩, rfl⟩
        · rintro ⟨-, rfl⟩
          rfl
  | ifThen g | whileDo g | countTo l =>
    rw [start_of_not_method (by simp [Opening.command])]
    simp [Fresh, Opening.declared, eq_comm]

theorem middle_of_cons {b : Bookkeeping} {block : OpenBlock} {rest : List OpenBlock}
    (h : b.blocks = block :: rest) (k : Block.Kind) :
    (middle k).run b =
      if block.kind ≠ k then .error .elseOutsideIf b
      else if block.hasElse then .error .secondElse b
      else .ok () { b with blocks := { block with hasElse := true } :: rest } := by
  rw [middle, EStateM.run_bind, EStateM.run_get]
  dsimp only
  rw [h]
  dsimp only
  by_cases hk : block.kind ≠ k
  · rw [if_pos hk, if_pos hk]
    rfl
  · rw [if_neg hk, if_neg hk]
    by_cases he : block.hasElse = true
    · rw [if_pos he, if_pos he]
      rfl
    · rw [if_neg he, if_neg he]
      rfl

theorem command_orElse (line : Nat) (b b' : Bookkeeping) :
    (command .orElse line).run b = .ok () b' ↔
      ∃ block rest, b.blocks = block :: rest ∧ block.kind = .conditional ∧ block.hasElse = false ∧
        b' = { b with blocks := { block with hasElse := true } :: rest } := by
  have hmarker : command .orElse line = middle .conditional := rfl
  rw [hmarker]
  cases hb : b.blocks with
  | nil => simp [middle, hb]
  | cons block rest =>
    rw [middle_of_cons hb]
    constructor
    · intro h
      split at h
      · cases h
      split at h
      · cases h
      · rename_i hk he
        cases h
        exact ⟨block, rest, rfl, not_not.1 hk, by simpa using he, rfl⟩
    · rintro ⟨block', rest', heq, hk, he, rfl⟩
      cases heq
      rw [if_neg (not_not.2 hk), if_neg (by simp [he])]

theorem stop_of_cons {b : Bookkeeping} {block : OpenBlock} {rest : List OpenBlock}
    (h : b.blocks = block :: rest) (k : Block.Kind) :
    (stop k).run b =
      if block.kind ≠ k then .error (.mismatchedEnd k.endKeyword block.kind.endKeyword) b
      else .ok () { b with blocks := rest } := by
  rw [stop, EStateM.run_bind, EStateM.run_get]
  dsimp only
  rw [h]
  dsimp only
  by_cases hk : block.kind ≠ k
  · rw [if_pos hk, if_pos hk]
    rfl
  · rw [if_neg hk, if_neg hk]
    rfl

theorem command_stop (o : Opening) (line : Nat) (b b' : Bookkeeping) :
    (command o.stop line).run b = .ok () b' ↔
      ∃ block rest, b.blocks = block :: rest ∧ block.kind = o.kind ∧
        b' = { b with blocks := rest } := by
  have hmarker : command o.stop line = stop o.kind := by
    rw [command, o.stop_marker?]
  rw [hmarker]
  cases hb : b.blocks with
  | nil => simp [stop, hb]
  | cons block rest =>
    rw [stop_of_cons hb]
    constructor
    · intro h
      split at h
      · cases h
      · rename_i hk
        cases h
        exact ⟨block, rest, rfl, not_not.1 hk, rfl⟩
    · rintro ⟨block', rest', heq, hk, rfl⟩
      cases heq
      rw [if_neg (not_not.2 hk)]

/-! ## The sequence of a tree -/

theorem fresh_nil (b : Bookkeeping) : Fresh [] b := ⟨List.nodup_nil, by simp⟩

theorem fresh_append {xs ys : List String} {b : Bookkeeping} :
    Fresh (xs ++ ys) b ↔ Fresh xs b ∧ Fresh ys { b with methods := xs.reverse ++ b.methods } := by
  simp only [Fresh, List.nodup_append, List.mem_append, List.mem_reverse, not_or]
  constructor
  · rintro ⟨⟨hx, hy, hne⟩, hnew⟩
    refine ⟨⟨hx, fun n hn => hnew n (.inl hn)⟩, hy, fun n hn => ?_⟩
    exact ⟨⟨fun hn' => hne n hn' n hn rfl, (hnew n (.inr hn)).1⟩, (hnew n (.inr hn)).2⟩
  · rintro ⟨⟨hx, hxn⟩, hy, hyn⟩
    refine ⟨⟨hx, hy, fun m hm n hn hmn => (hyn n hn).1.1 (hmn ▸ hm)⟩, fun n hn => ?_⟩
    rcases hn with hn | hn
    · exact hxn n hn
    · exact ⟨(hyn n hn).1.2, (hyn n hn).2⟩

theorem fresh_push {names methods : List String} {x : OpenBlock} {blocks : List OpenBlock} :
    Fresh names ⟨x :: blocks, methods⟩ ↔
      (x.kind = .method → names = []) ∧ Fresh names ⟨blocks, methods⟩ := by
  simp only [Fresh, List.mem_cons, forall_eq_or_imp]
  constructor
  · rintro ⟨hd, h⟩
    exact ⟨fun hk => List.eq_nil_iff_forall_not_mem.2 fun n hn => (h n hn).2.1 hk, hd,
      fun n hn => ⟨(h n hn).1, (h n hn).2.2⟩⟩
  · rintro ⟨hk, hd, h⟩
    refine ⟨hd, fun n hn => ⟨(h n hn).1, fun hm => ?_, (h n hn).2⟩⟩
    rw [hk hm] at hn
    exact List.not_mem_nil hn

/-- The books `b` after the sequence of a tree. -/
def after (t : BlockTree) (b : Bookkeeping) : Bookkeeping :=
  { b with methods := t.methodNames.reverse ++ b.methods }

/-- The sequence of a tree is accepted exactly if its methods are apart and fresh. It leaves the open
blocks as they were. -/
theorem commands_tree (t : BlockTree) : ∀ {code : List CodeLine} {b b' : Bookkeeping},
    Nested code t →
    ((commands code).run b = .ok () b' ↔ (t.Apart ∧ Fresh t.methodNames b) ∧ b' = after t b) := by
  induction t with
  | nil =>
    intro code b b' hcode
    rw [List.map_eq_nil_iff.1 hcode, commands_nil]
    simp [BlockTree.Apart, BlockTree.methodNames, fresh_nil, after]
  | plain c hc rest ih =>
    intro code b b' hcode
    obtain ⟨l, more, rfl, rfl, hmore⟩ := List.map_eq_cons_iff.1 hcode
    rw [commands_cons]
    simp only [command_plain hc, exists_eq_left, ih hmore]
    rfl
  | block o body rest ihb ihr =>
    intro code b b' hcode
    obtain ⟨l, more, rfl, hl, hmore⟩ := List.map_eq_cons_iff.1 hcode
    obtain ⟨inner, tail, rfl, hinner, htail⟩ := List.map_eq_append_iff.1 hmore
    obtain ⟨z, outer, rfl, hz, houter⟩ := List.map_eq_cons_iff.1 htail
    rw [commands_cons]
    simp only [commands_append, commands_cons, hl, hz, command_opening, command_stop, ihb hinner,
      ihr houter]
    simp only [BlockTree.Apart, BlockTree.methodNames, fresh_append, o.declared_reverse]
    constructor
    · rintro ⟨b₁, ⟨hnew, rfl⟩, b₂, ⟨⟨hba, hbf⟩, rfl⟩, b₃, ⟨x, xs, hx, -, rfl⟩, ⟨hra, hrf⟩, rfl⟩
      cases hx
      obtain ⟨hmethod, hbf⟩ := fresh_push.1 hbf
      exact ⟨⟨⟨hmethod, hba, hra⟩, hnew, hbf, hrf⟩, by simp [after, BlockTree.methodNames]⟩
    · rintro ⟨⟨⟨hmethod, hba, hra⟩, hnew, hbf, hrf⟩, rfl⟩
      refine ⟨_, ⟨hnew, rfl⟩, _, ⟨⟨hba, fresh_push.2 ⟨hmethod, hbf⟩⟩, rfl⟩, _,
        ⟨_, _, rfl, rfl, rfl⟩, ⟨hra, hrf⟩, ?_⟩
      simp [after, BlockTree.methodNames]
  | branch g body other rest ihb iho ihr =>
    intro code b b' hcode
    obtain ⟨l, more, rfl, hl, hmore⟩ := List.map_eq_cons_iff.1 hcode
    obtain ⟨inner, tail, rfl, hinner, htail⟩ := List.map_eq_append_iff.1 hmore
    obtain ⟨y, more', rfl, hy, hmore'⟩ := List.map_eq_cons_iff.1 htail
    obtain ⟨second, tail', rfl, hsecond, htail'⟩ := List.map_eq_append_iff.1 hmore'
    obtain ⟨z, outer, rfl, hz, houter⟩ := List.map_eq_cons_iff.1 htail'
    have hstart := command_opening (.ifThen g) l.line
    have hstop := command_stop (.ifThen g) z.line
    simp only [Opening.command, Opening.stop, Opening.kind, Opening.declared] at hstart hstop
    rw [commands_cons]
    simp only [commands_append, commands_cons, hl, hy, hz, hstart, hstop, command_orElse,
      ihb hinner, iho hsecond, ihr houter]
    simp only [BlockTree.Apart, BlockTree.methodNames, fresh_append]
    constructor
    · rintro ⟨b₁, ⟨-, rfl⟩, b₂, ⟨⟨hba, hbf⟩, rfl⟩, b₃, ⟨x, xs, hx, -, -, rfl⟩, b₄, ⟨⟨hoa, hof⟩, rfl⟩,
        b₅, ⟨x', xs', hx', -, rfl⟩, ⟨hra, hrf⟩, rfl⟩
      cases hx
      cases hx'
      exact ⟨⟨⟨hba, hoa, hra⟩, (fresh_push.1 hbf).2, (fresh_push.1 hof).2, hrf⟩,
        by simp [after, BlockTree.methodNames]⟩
    · rintro ⟨⟨⟨hba, hoa, hra⟩, hbf, hof, hrf⟩, rfl⟩
      refine ⟨_, ⟨fresh_nil b, rfl⟩, _, ⟨⟨hba, fresh_push.2 ⟨by simp, hbf⟩⟩, rfl⟩, _,
        ⟨_, _, rfl, rfl, rfl, rfl⟩, _, ⟨⟨hoa, fresh_push.2 ⟨by simp, hof⟩⟩, rfl⟩, _,
        ⟨_, _, rfl, rfl, rfl⟩, ⟨hra, hrf⟩, ?_⟩
      simp [after, BlockTree.methodNames]

/-! ## Sequences that close all blocks -/

/-- The commands close the open blocks one after the other, each after the sequence of a tree; a
conditional without a middle may get one on the way. -/
def Completes : List OpenBlock → List Command → Prop
  | [], cs => ∃ t : BlockTree, cs = t.commands
  | block :: blocks, cs =>
    (∃ (t : BlockTree) (o : Opening) (rest : List Command), block.kind = o.kind ∧
      cs = t.commands ++ o.stop :: rest ∧ Completes blocks rest) ∨
    (block.kind = .conditional ∧ block.hasElse = false ∧
      ∃ (t other : BlockTree) (rest : List Command),
        cs = t.commands ++ .orElse :: (other.commands ++ .endIf :: rest) ∧ Completes blocks rest)

/-- Something that can stand before any tree can stand before any completion. -/
theorem Completes.prepend {blocks : List OpenBlock} {cs : List Command} (h : Completes blocks cs)
    (f : BlockTree → BlockTree) (ds : List Command)
    (hf : ∀ t, (f t).commands = ds ++ t.commands) : Completes blocks (ds ++ cs) := by
  cases blocks with
  | nil =>
    obtain ⟨t, rfl⟩ := h
    exact ⟨f t, (hf t).symm⟩
  | cons block blocks =>
    rcases h with ⟨t, o, rest, hk, rfl, hrest⟩ | ⟨hk, he, t, other, rest, rfl, hrest⟩
    · exact .inl ⟨f t, o, rest, hk, by rw [hf, List.append_assoc], hrest⟩
    · exact .inr ⟨hk, he, f t, other, rest, by rw [hf, List.append_assoc], hrest⟩

theorem completes_of_commands (code : List CodeLine) : ∀ {b b' : Bookkeeping},
    (commands code).run b = .ok () b' → b'.blocks = [] →
    Completes b.blocks (code.map CodeLine.command) := by
  induction code with
  | nil =>
    intro b b' h hb'
    rw [(commands_nil b b').1 h] at hb'
    rw [hb']
    exact ⟨.nil, rfl⟩
  | cons l code ih =>
    intro b b' h hb'
    obtain ⟨b₁, h₁, h₂⟩ := commands_cons.1 h
    have hrest := ih h₂ hb'
    rw [List.map_cons]
    cases hm : l.command.marker? with
    | none =>
      rw [(command_plain hm _ _ _).1 h₁] at hrest
      exact hrest.prepend (.plain l.command hm) [l.command] fun _ => rfl
    | some m =>
      obtain ⟨k, role⟩ := m
      cases role with
      | start =>
        obtain ⟨o, ho, rfl⟩ := Opening.exists_of_marker? hm
        rw [← ho] at h₁ ⊢
        obtain ⟨-, rfl⟩ := (command_opening o _ _ _).1 h₁
        -- the block just opened is closed first, and then stands in front of the rest
        rcases hrest with ⟨t, o', rest, hk, hcs, hrest⟩ | ⟨hk, -, t, other, rest, hcs, hrest⟩
        · have hstop : o.stop = o'.stop := Opening.stop_eq_of_kind hk
          have := hrest.prepend (.block o t) (o.command :: (t.commands ++ [o.stop]))
            fun r => by simp [BlockTree.commands]
          rw [hcs, ← hstop]
          simpa using this
        · obtain ⟨g, rfl⟩ : ∃ g, o = .ifThen g := by
            cases o <;> simp_all [Opening.kind]
          have := hrest.prepend (.branch g t other)
            (.ifThen g :: (t.commands ++ .orElse :: (other.commands ++ [.endIf])))
            fun r => by simp [BlockTree.commands]
          rw [hcs]
          simpa [Opening.command] using this
      | middle =>
        obtain ⟨hc, rfl⟩ := Command.eq_orElse_of_marker? hm
        rw [hc] at h₁ ⊢
        obtain ⟨block, blocks, hb, hk, he, rfl⟩ := (command_orElse _ _ _).1 h₁
        rcases hrest with ⟨t, o, rest, ho, hcs, hrest⟩ | ⟨-, he', -⟩
        · rw [hb, hcs]
          have hstop : o.stop = .endIf := by
            rw [Opening.stop_eq_of_kind (show o.kind = (Opening.ifThen "").kind from ho ▸ hk)]
            rfl
          exact .inr ⟨hk, he, .nil, t, rest, by rw [hstop]; rfl, hrest⟩
        · cases he'
      | stop =>
        obtain ⟨o, ho, rfl⟩ := Opening.exists_stop_of_marker? hm
        rw [← ho] at h₁ ⊢
        obtain ⟨block, blocks, hb, hk, rfl⟩ := (command_stop o _ _ _).1 h₁
        rw [hb]
        exact .inl ⟨.nil, o, _, hk, rfl, hrest⟩

/-! ## The grammar -/

theorem exists_tree_of_commands {code : List CodeLine} {b : Bookkeeping}
    (h : (commands code).run {} = .ok () b) (hb : b.blocks = []) :
    ∃ t, Nested code t ∧ t.Apart ∧ t.methodNames.Nodup := by
  obtain ⟨t, ht⟩ := completes_of_commands code h hb
  obtain ⟨⟨hapart, hfresh⟩, -⟩ := (commands_tree t ht).1 h
  exact ⟨t, ht, hapart, hfresh.1⟩

/-- A sequence of commands is accepted with no block left open exactly if it is the sequence of a
tree in which no method stands inside another and no two methods have the same name. -/
theorem accepts_iff_derivable (code : List CodeLine) :
    (∃ b, (commands code).run {} = .ok () b ∧ b.blocks = []) ↔
      ∃ t : BlockTree, t.commands = code.map CodeLine.command ∧ t.Apart ∧ t.methodNames.Nodup := by
  constructor
  · rintro ⟨b, h, hb⟩
    obtain ⟨t, ht, hapart, hnames⟩ := exists_tree_of_commands h hb
    exact ⟨t, ht.symm, hapart, hnames⟩
  · rintro ⟨t, ht, hapart, hnames⟩
    have hfresh : Fresh t.methodNames {} := ⟨hnames, fun _ _ => ⟨by simp, by simp⟩⟩
    exact ⟨after t {}, (commands_tree t ht.symm).2 ⟨⟨hapart, hfresh⟩, rfl⟩, rfl⟩

end Track

end PenScript
