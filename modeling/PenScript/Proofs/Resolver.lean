import PenScript.Proofs.BlockTree

/-!
# Searching well nested code

The searches for the end and the start of a block pass over a whole tree (`scanEnd_tree`,
`scanStart_tree`), so from a block that is placed in the code they find its own parts:

* `Placed.findEnd_block`, `Placed.findStart_block` : a block without a middle;
* `Placed.findEnd_branch`, `Placed.findEnd_middle`, `Placed.findStart_branch` : a conditional with
  two branches.

`Spans code k p mid e` puts this together: a block starts at `p`, has its middle at `mid` and ends at
`e`. In well nested code every start, middle and end belongs to such a block
(`Nested.exists_spans_of_start`, `Nested.exists_spans_of_middle`, `Nested.exists_spans_of_stop`).
-/

namespace PenScript

namespace Block

variable {k : Kind} {d pos : Nat} {mid : Option Nat} {rest : List (Option Marker)}

/-- One item of the search for an end. -/
theorem scanEnd_cons (item : Option Marker) : scanEnd k d mid pos (item :: rest) =
    if item = some ⟨k, .start⟩ then scanEnd k (d + 1) mid (pos + 1) rest
    else if item = some ⟨k, .middle⟩ ∧ d = 0 then
      scanEnd k d (mid.or (some pos)) (pos + 1) rest
    else if item = some ⟨k, .stop⟩ then
      if d = 0 then some ⟨mid, pos⟩ else scanEnd k (d - 1) mid (pos + 1) rest
    else scanEnd k d mid (pos + 1) rest := by
  cases d with
  | zero => rfl
  | succ d => rfl

theorem scanEnd_start : scanEnd k d mid pos (some ⟨k, .start⟩ :: rest) =
    scanEnd k (d + 1) mid (pos + 1) rest := by
  rw [scanEnd_cons, if_pos rfl]

theorem scanEnd_stop_succ : scanEnd k (d + 1) mid pos (some ⟨k, .stop⟩ :: rest) =
    scanEnd k d mid (pos + 1) rest := by
  rw [scanEnd_cons, if_neg (by simp), if_neg (by simp), if_pos rfl, if_neg d.succ_ne_zero,
    Nat.add_sub_cancel]

theorem scanEnd_stop_zero : scanEnd k 0 mid pos (some ⟨k, .stop⟩ :: rest) = some ⟨mid, pos⟩ := by
  rw [scanEnd_cons, if_neg (by simp), if_neg (by simp), if_pos rfl, if_pos rfl]

theorem scanEnd_middle_succ : scanEnd k (d + 1) mid pos (some ⟨k, .middle⟩ :: rest) =
    scanEnd k (d + 1) mid (pos + 1) rest := by
  rw [scanEnd_cons, if_neg (by simp), if_neg (by simp), if_neg (by simp)]

theorem scanEnd_middle_zero : scanEnd k 0 none pos (some ⟨k, .middle⟩ :: rest) =
    scanEnd k 0 (some pos) (pos + 1) rest := by
  rw [scanEnd_cons, if_neg (by simp), if_pos ⟨rfl, rfl⟩, Option.none_or]

theorem scanEnd_none : scanEnd k d mid pos (none :: rest) = scanEnd k d mid (pos + 1) rest := by
  rw [scanEnd_cons, if_neg (by simp), if_neg (by simp), if_neg (by simp)]

theorem scanEnd_other {m : Marker} (h : m.kind ≠ k) :
    scanEnd k d mid pos (some m :: rest) = scanEnd k d mid (pos + 1) rest := by
  have hne : ∀ r, some m ≠ some (⟨k, r⟩ : Marker) := by
    intro r hr
    exact h (by rw [Option.some.inj hr])
  rw [scanEnd_cons, if_neg (hne _), if_neg (fun h' => hne _ h'.1), if_neg (hne _)]

/-- The search for an end passes over a tree. -/
theorem scanEnd_tree (t : BlockTree) (k : Kind) : ∀ (d : Nat) (mid : Option Nat) (pos : Nat)
    (rest : List (Option Marker)),
    scanEnd k d mid pos (t.commands.map Command.marker? ++ rest) =
      scanEnd k d mid (pos + t.size) rest := by
  induction t with
  | nil => intro d mid pos rest; rfl
  | plain c hc r ih =>
    intro d mid pos rest
    rw [BlockTree.commands, List.map_cons, hc, List.cons_append, scanEnd_none, ih,
      BlockTree.size_plain, Nat.add_right_comm, Nat.add_assoc]
  | block o body r ihb ihr =>
    intro d mid pos rest
    rw [BlockTree.commands, List.map_cons, List.map_append, List.map_cons, o.command_marker?,
      o.stop_marker?, List.cons_append, List.append_assoc, List.cons_append]
    rw [BlockTree.size_block]
    -- a block of the same kind goes one level down and up again, any other is passed over
    by_cases hk : o.kind = k
    · subst hk
      rw [scanEnd_start, ihb, scanEnd_stop_succ, ihr]
      congr 1; omega
    · rw [scanEnd_other hk, ihb, scanEnd_other hk, ihr]
      congr 1; omega
  | branch g body other r ihb iho ihr =>
    intro d mid pos rest
    simp only [BlockTree.commands, List.map_cons, List.map_append, Command.marker?,
      List.cons_append, List.append_assoc]
    rw [BlockTree.size_branch]
    by_cases hk : Kind.conditional = k
    · subst hk
      rw [scanEnd_start, ihb, scanEnd_middle_succ, iho, scanEnd_stop_succ, ihr]
      congr 1; omega
    · rw [scanEnd_other hk, ihb, scanEnd_other hk, iho, scanEnd_other hk, ihr]
      congr 1; omega

/-- One item of the search for a start. -/
theorem scanStart_cons (item : Option Marker) : scanStart k d (item :: rest) =
    if item = some ⟨k, .stop⟩ then scanStart k (d + 1) rest
    else if item = some ⟨k, .start⟩ then
      if d = 0 then some rest.length else scanStart k (d - 1) rest
    else scanStart k d rest := by
  cases d with
  | zero => rfl
  | succ d => rfl

theorem scanStart_stop : scanStart k d (some ⟨k, .stop⟩ :: rest) = scanStart k (d + 1) rest := by
  rw [scanStart_cons, if_pos rfl]

theorem scanStart_start_succ :
    scanStart k (d + 1) (some ⟨k, .start⟩ :: rest) = scanStart k d rest := by
  rw [scanStart_cons, if_neg (by simp), if_pos rfl, if_neg d.succ_ne_zero, Nat.add_sub_cancel]

theorem scanStart_start_zero :
    scanStart k 0 (some ⟨k, .start⟩ :: rest) = some rest.length := by
  rw [scanStart_cons, if_neg (by simp), if_pos rfl, if_pos rfl]

theorem scanStart_middle :
    scanStart k d (some ⟨k, .middle⟩ :: rest) = scanStart k d rest := by
  rw [scanStart_cons, if_neg (by simp), if_neg (by simp)]

theorem scanStart_none : scanStart k d (none :: rest) = scanStart k d rest := by
  rw [scanStart_cons, if_neg (by simp), if_neg (by simp)]

theorem scanStart_other {m : Marker} (h : m.kind ≠ k) :
    scanStart k d (some m :: rest) = scanStart k d rest := by
  have hne : ∀ r, some m ≠ some (⟨k, r⟩ : Marker) := by
    intro r hr
    exact h (by rw [Option.some.inj hr])
  rw [scanStart_cons, if_neg (hne _), if_neg (hne _)]

/-- The search for a start passes over a tree. -/
theorem scanStart_tree (t : BlockTree) (k : Kind) : ∀ (d : Nat) (rest : List (Option Marker)),
    scanStart k d ((t.commands.map Command.marker?).reverse ++ rest) = scanStart k d rest := by
  induction t with
  | nil => intro d rest; rfl
  | plain c hc r ih =>
    intro d rest
    rw [BlockTree.commands, List.map_cons, hc, List.reverse_cons, List.append_assoc, ih,
      List.singleton_append, scanStart_none]
  | block o body r ihb ihr =>
    intro d rest
    simp only [BlockTree.commands, List.map_cons, List.map_append, o.command_marker?,
      o.stop_marker?, List.reverse_cons, List.reverse_append, List.append_assoc,
      List.cons_append, List.nil_append]
    rw [ihr]
    by_cases hk : o.kind = k
    · subst hk
      rw [scanStart_stop, ihb, scanStart_start_succ]
    · rw [scanStart_other hk, ihb, scanStart_other hk]
  | branch g body other r ihb iho ihr =>
    intro d rest
    simp only [BlockTree.commands, List.map_cons, List.map_append, Command.marker?,
      List.reverse_cons, List.reverse_append, List.append_assoc,
      List.cons_append, List.nil_append]
    rw [ihr]
    by_cases hk : Kind.conditional = k
    · subst hk
      rw [scanStart_stop, iho, scanStart_middle, ihb, scanStart_start_succ]
    · rw [scanStart_other hk, iho, scanStart_other hk, ihb, scanStart_other hk]

end Block

/-! ## Blocks placed in the code -/

theorem markers_eq_map (code : List CodeLine) :
    markers code = (code.map CodeLine.command).map Command.marker? := by
  rw [markers, List.map_map]
  rfl

/-- What follows a tree that is placed in the code. -/
theorem Placed.drop_markers {code : List CodeLine} {pos : Nat} {t : BlockTree}
    (h : Placed code pos t) : (markers code).drop pos =
      t.commands.map Command.marker? ++ (markers code).drop (pos + t.size) := by
  obtain ⟨more, hmore⟩ := h
  rw [markers_eq_map, ← List.map_drop, ← hmore, List.map_append, ← List.drop_drop, ← List.map_drop, ← hmore,
    List.map_append, BlockTree.size, List.drop_left' (List.length_map _)]

theorem drop_markers_of_commandAt {code : List CodeLine} {pos : Nat} {c : Command}
    (h : commandAt code pos = some c) :
    (markers code).drop pos = c.marker? :: (markers code).drop (pos + 1) := by
  obtain ⟨l, hl, rfl⟩ := commandAt_eq_some.1 h
  obtain ⟨hlt, rfl⟩ := List.getElem?_eq_some_iff.1 hl
  have hlt' : pos < (markers code).length := by rw [markers, List.length_map]; exact hlt
  rw [List.drop_eq_getElem_cons hlt']
  simp [markers]

theorem take_markers_of_commandAt {code : List CodeLine} {pos : Nat} {c : Command}
    (h : commandAt code pos = some c) :
    (markers code).take (pos + 1) = (markers code).take pos ++ [c.marker?] := by
  obtain ⟨l, hl, rfl⟩ := commandAt_eq_some.1 h
  rw [List.take_add_one]
  simp [markers, hl]

theorem Placed.take_markers {code : List CodeLine} {pos : Nat} {t : BlockTree}
    (h : Placed code pos t) : (markers code).take (pos + t.size) =
      (markers code).take pos ++ t.commands.map Command.marker? := by
  rw [List.take_add, h.drop_markers, BlockTree.size, List.take_left' (List.length_map _)]

namespace Placed

variable {code : List CodeLine} {pos : Nat}

/-- A block without a middle ends behind its body. -/
theorem findEnd_block {o : Opening} {body rest : BlockTree} (h : Placed code pos (.block o body rest)) :
    Block.findEnd (markers code) pos o.kind = .ok ⟨none, pos + body.size + 1⟩ := by
  obtain ⟨-, hbody, hstop, -⟩ := block_iff.1 h
  have hscan : Block.findEnd? (markers code) pos o.kind = some ⟨none, pos + body.size + 1⟩ := by
    rw [Block.findEnd?, hbody.drop_markers, Block.scanEnd_tree, Nat.add_right_comm,
      drop_markers_of_commandAt hstop, o.stop_marker?, Block.scanEnd_stop_zero]
  rw [Block.findEnd, hscan]

/-- From the end of a block, its start is found. -/
theorem findStart_block {o : Opening} {body rest : BlockTree}
    (h : Placed code pos (.block o body rest)) :
    Block.findStart (markers code) (pos + body.size + 1) o.kind = .ok pos := by
  obtain ⟨hstart, hbody, -, -⟩ := block_iff.1 h
  have hscan : Block.findStart? (markers code) (pos + body.size + 1) o.kind = some pos := by
    rw [Block.findStart?, Nat.add_right_comm, hbody.take_markers, List.reverse_append,
      Block.scanStart_tree, take_markers_of_commandAt hstart, List.reverse_append,
      o.command_marker?, List.reverse_singleton, List.singleton_append, Block.scanStart_start_zero,
      List.length_reverse, List.length_take, markers, List.length_map]
    have := lt_length_of_commandAt hstart
    congr 1; omega
  rw [Block.findStart, hscan]

/-- A conditional with two branches has its middle behind the first and its end behind the second. -/
theorem findEnd_branch {g : String} {body other rest : BlockTree}
    (h : Placed code pos (.branch g body other rest)) :
    Block.findEnd (markers code) pos .conditional =
      .ok ⟨some (pos + body.size + 1), pos + body.size + other.size + 2⟩ := by
  obtain ⟨-, hbody, hmiddle, hother, hstop, -⟩ := branch_iff.1 h
  have hscan : Block.findEnd? (markers code) pos .conditional =
      some ⟨some (pos + body.size + 1), pos + body.size + other.size + 2⟩ := by
    rw [Block.findEnd?, hbody.drop_markers, Block.scanEnd_tree, Nat.add_right_comm,
      drop_markers_of_commandAt hmiddle, Command.marker?, Block.scanEnd_middle_zero,
      hother.drop_markers, Block.scanEnd_tree]
    rw [show pos + body.size + 2 + other.size = pos + body.size + other.size + 2 by omega,
      drop_markers_of_commandAt hstop, Command.marker?, Block.scanEnd_stop_zero]
  rw [Block.findEnd, hscan]

/-- From the middle of a conditional, its end is found. -/
theorem findEnd_middle {g : String} {body other rest : BlockTree}
    (h : Placed code pos (.branch g body other rest)) :
    Block.findEnd (markers code) (pos + body.size + 1) .conditional =
      .ok ⟨none, pos + body.size + other.size + 2⟩ := by
  obtain ⟨-, -, -, hother, hstop, -⟩ := branch_iff.1 h
  have hscan : Block.findEnd? (markers code) (pos + body.size + 1) .conditional =
      some ⟨none, pos + body.size + other.size + 2⟩ := by
    rw [Block.findEnd?, hother.drop_markers, Block.scanEnd_tree]
    rw [show pos + body.size + 2 + other.size = pos + body.size + other.size + 2 by omega,
      drop_markers_of_commandAt hstop, Command.marker?, Block.scanEnd_stop_zero]
  rw [Block.findEnd, hscan]

/-- From the end of a conditional with two branches, its start is found. -/
theorem findStart_branch {g : String} {body other rest : BlockTree}
    (h : Placed code pos (.branch g body other rest)) :
    Block.findStart (markers code) (pos + body.size + other.size + 2) .conditional = .ok pos := by
  obtain ⟨hstart, hbody, hmiddle, hother, -, -⟩ := branch_iff.1 h
  have hscan : Block.findStart? (markers code) (pos + body.size + other.size + 2) .conditional =
      some pos := by
    rw [Block.findStart?,
      show pos + body.size + other.size + 2 = pos + body.size + 2 + other.size by omega,
      hother.take_markers, List.reverse_append, Block.scanStart_tree,
      take_markers_of_commandAt hmiddle, List.reverse_append, Command.marker?,
      List.reverse_singleton, List.singleton_append, Block.scanStart_middle]
    rw [Nat.add_right_comm, hbody.take_markers, List.reverse_append, Block.scanStart_tree,
      take_markers_of_commandAt hstart, List.reverse_append, Command.marker?,
      List.reverse_singleton, List.singleton_append, Block.scanStart_start_zero,
      List.length_reverse, List.length_take, markers, List.length_map]
    have := lt_length_of_commandAt hstart
    congr 1; omega
  rw [Block.findStart, hscan]

end Placed

/-! ## The blocks of well nested code -/

/-- A block of kind `k` that is placed in the code starts at `p`, has its middle at `mid` and ends
at `e`. -/
inductive Spans (code : List CodeLine) : Block.Kind → Nat → Option Nat → Nat → Prop
  | block {o : Opening} {body rest : BlockTree} {p : Nat} (h : Placed code p (.block o body rest)) :
      Spans code o.kind p none (p + body.size + 1)
  | branch {g : String} {body other rest : BlockTree} {p : Nat}
      (h : Placed code p (.branch g body other rest)) :
      Spans code .conditional p (some (p + body.size + 1)) (p + body.size + other.size + 2)

namespace Spans

variable {code : List CodeLine} {k : Block.Kind} {p e : Nat} {mid : Option Nat}

theorem findEnd_eq (h : Spans code k p mid e) :
    Block.findEnd (markers code) p k = .ok ⟨mid, e⟩ := by
  cases h with
  | block h => exact h.findEnd_block
  | branch h => exact h.findEnd_branch

theorem findStart_eq (h : Spans code k p mid e) :
    Block.findStart (markers code) e k = .ok p := by
  cases h with
  | block h => exact h.findStart_block
  | branch h => exact h.findStart_branch

theorem findEnd_middle_eq {q : Nat} (h : Spans code k p (some q) e) :
    Block.findEnd (markers code) q .conditional = .ok ⟨none, e⟩ := by
  cases h with
  | branch h => exact h.findEnd_middle

theorem start_command (h : Spans code k p mid e) :
    ∃ o : Opening, commandAt code p = some o.command ∧ o.kind = k ∧
      commandAt code e = some o.stop := by
  cases h with
  | @block o body rest _ h =>
    obtain ⟨hp, -, he, -⟩ := Placed.block_iff.1 h
    exact ⟨o, hp, rfl, he⟩
  | @branch g body other rest _ h =>
    obtain ⟨hp, -, -, -, he, -⟩ := Placed.branch_iff.1 h
    exact ⟨.ifThen g, hp, rfl, he⟩

/-- The lines at which a block starts and ends. -/
theorem exists_lines (h : Spans code k p mid e) :
    ∃ start stop, code[p]? = some start ∧ code[e]? = some stop := by
  obtain ⟨o, hp, -, he⟩ := h.start_command
  obtain ⟨start, hstart, -⟩ := commandAt_eq_some.1 hp
  obtain ⟨stop, hstop, -⟩ := commandAt_eq_some.1 he
  exact ⟨start, stop, hstart, hstop⟩

theorem stop_command (h : Spans code k p mid e) {o : Opening} (ho : o.kind = k) :
    commandAt code e = some o.stop := by
  obtain ⟨o', -, ho', he⟩ := h.start_command
  rw [he, Opening.stop_eq_of_kind (ho'.trans ho.symm)]

theorem countTo_command (h : Spans code .forLoop p mid e) :
    ∃ l, commandAt code p = some (.countTo l) := by
  obtain ⟨o, ho, hk, -⟩ := h.start_command
  cases o with
  | countTo l => exact ⟨l, ho⟩
  | _ => cases hk

theorem method_command (h : Spans code .method p mid e) :
    ∃ name, commandAt code p = some (.method name) := by
  obtain ⟨o, ho, hk, -⟩ := h.start_command
  cases o with
  | method name => exact ⟨name, ho⟩
  | _ => cases hk

theorem middle_command {q : Nat} (h : Spans code k p (some q) e) :
    commandAt code q = some .orElse ∧ k = .conditional := by
  cases h with
  | branch h => exact ⟨(Placed.branch_iff.1 h).2.2.1, rfl⟩

theorem lt (h : Spans code k p mid e) : p < e := by
  cases h with
  | block h => omega
  | branch h => omega

theorem middle_lt {q : Nat} (h : Spans code k p (some q) e) : p < q ∧ q < e := by
  cases h with
  | branch h => omega

theorem getD_le (h : Spans code k p mid e) : mid.getD e ≤ e := by
  cases mid with
  | none => exact Nat.le_refl e
  | some q => exact Nat.le_of_lt h.middle_lt.2

theorem lt_length (h : Spans code k p mid e) : e < code.length := by
  obtain ⟨o, -, -, he⟩ := h.start_command
  exact lt_length_of_commandAt he

theorem kind_eq {k' : Block.Kind} {mid' : Option Nat} {e' : Nat} (h : Spans code k p mid e)
    (h' : Spans code k' p mid' e') : k = k' := by
  obtain ⟨o, ho, rfl, -⟩ := h.start_command
  obtain ⟨o', ho', rfl, -⟩ := h'.start_command
  have hcommand : o.command = o'.command := Option.some_inj.1 (ho.symm.trans ho')
  have := congrArg Command.marker? hcommand
  simpa using this

theorem unique_of_start {mid' : Option Nat} {e' : Nat} (h : Spans code k p mid e)
    (h' : Spans code k p mid' e') : mid = mid' ∧ e = e' := by
  have := h.findEnd_eq.symm.trans h'.findEnd_eq
  simpa using this

end Spans

section Nested

variable {code : List CodeLine} {t : BlockTree} (hn : Nested code t)
include hn

/-- A command with a part in a block has it in one that is placed in the code. -/
theorem Nested.exists_spans {q : Nat} {c : Command} (hq : commandAt code q = some c)
    {m : Block.Marker} (hm : c.marker? = some m) :
    match m.role with
    | .start => ∃ mid e, Spans code m.kind q mid e
    | .middle => ∃ p e, Spans code m.kind p (some q) e
    | .stop => ∃ p mid, Spans code m.kind p mid q := by
  cases hn.part (lt_length_of_commandAt hq) with
  | @plain d hd rest h =>
    rw [(Placed.plain_iff.1 h).1] at hq
    cases hq
    rw [hd] at hm
    cases hm
  | @start o body rest h =>
    rw [(Placed.block_iff.1 h).1] at hq
    cases hq
    rw [o.command_marker?] at hm
    cases hm
    exact ⟨_, _, .block h⟩
  | @stop p o body rest h hp =>
    subst hp
    rw [(Placed.block_iff.1 h).2.2.1] at hq
    cases hq
    rw [o.stop_marker?] at hm
    cases hm
    exact ⟨p, none, .block h⟩
  | fork h =>
    rw [(Placed.branch_iff.1 h).1] at hq
    cases hq
    cases hm
    exact ⟨_, _, .branch h⟩
  | @middle p g body other rest h hp =>
    subst hp
    rw [(Placed.branch_iff.1 h).2.2.1] at hq
    cases hq
    cases hm
    exact ⟨p, _, .branch h⟩
  | @join p g body other rest h hp =>
    subst hp
    rw [(Placed.branch_iff.1 h).2.2.2.2.1] at hq
    cases hq
    cases hm
    exact ⟨p, _, .branch h⟩

theorem Nested.exists_spans_of_start {p : Nat} {c : Command} {k : Block.Kind}
    (hp : commandAt code p = some c) (hc : c.marker? = some ⟨k, .start⟩) :
    ∃ mid e, Spans code k p mid e := hn.exists_spans hp hc

theorem Nested.exists_spans_of_stop {e : Nat} {c : Command} {k : Block.Kind}
    (he : commandAt code e = some c) (hc : c.marker? = some ⟨k, .stop⟩) :
    ∃ p mid, Spans code k p mid e := hn.exists_spans he hc

theorem Nested.exists_spans_of_middle {q : Nat} {c : Command} {k : Block.Kind}
    (hq : commandAt code q = some c) (hc : c.marker? = some ⟨k, .middle⟩) :
    ∃ p e, Spans code k p (some q) e := hn.exists_spans hq hc

end Nested

end PenScript
