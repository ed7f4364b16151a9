import Mathlib.Logic.ExistsUnique
import PenScript.Proofs.Accepted
import PenScript.Proofs.Failure

/-!
# The search for blocks agrees with the bookkeeping

* `Track.Books code i b` : the books are `b` when the first `i` commands have been read;
* `Spans.books` : what the books are around a block that is placed in the code;
* `Session.Closes`, `Session.Divides` : reading the command at a position takes the entry of a block
  off the open blocks, or notes a middle on it;
* `Session.Matching` : in terms of these, what the searches for ends and starts find, that calls find
  their method, and that no run fails over either; `Session.Accepted.matching` is the main result.
-/

namespace PenScript

namespace Track

variable {code : List CodeLine} {i : Nat} {b b' : Bookkeeping}

/-- The books when the first commands of a code have been read. -/
def Books (code : List CodeLine) (i : Nat) (b : Bookkeeping) : Prop :=
  (commands (code.take i)).run {} = .ok () b

theorem Books.unique (h : Books code i b) (h' : Books code i b') : b = b' := by
  cases h.symm.trans h'
  rfl

theorem books_succ {c : CodeLine} (hc : code[i]? = some c) :
    Books code (i + 1) b' ↔ ∃ b, Books code i b ∧ (command c.command c.line).run b = .ok () b' := by
  rw [Books, List.take_add_one, hc, Option.toList_some, commands_append]
  simp only [commands_cons, commands_nil]
  constructor
  · rintro ⟨b, hb, b₁, hc, rfl⟩
    exact ⟨b, hb, hc⟩
  · rintro ⟨b, hb, hc⟩
    exact ⟨b, hb, b', hc, rfl⟩

/-- The commands of a tree leave the open blocks as they were. -/
theorem Books.blocks_tree {t : BlockTree} (ht : Placed code i t) (h : Books code i b)
    (h' : Books code (i + t.size) b') : b'.blocks = b.blocks := by
  rw [Books, List.take_add, commands_append] at h'
  obtain ⟨b₁, h₁, h₂⟩ := h'
  obtain rfl := Books.unique h h₁
  have hnested : Nested ((code.drop i).take t.size) t := by
    rw [Nested, List.map_take, List.map_drop, BlockTree.size]
    exact (List.prefix_iff_eq_take.1 ht).symm
  obtain ⟨-, rfl⟩ := (commands_tree t hnested).1 h₂
  rfl

theorem Books.exists_of_le {n : Nat} (h : Books code n b) (hi : i ≤ n) : ∃ b', Books code i b' := by
  obtain ⟨k, rfl⟩ := Nat.exists_eq_add_of_le hi
  rw [Books, List.take_add, commands_append] at h
  obtain ⟨b₁, h₁, -⟩ := h
  exact ⟨b₁, h₁⟩

/-- The command at a position takes the books to the next ones. -/
theorem Books.command {c : CodeLine} (hc : code[i]? = some c) (h : Books code i b)
    (h' : Books code (i + 1) b') : (command c.command c.line).run b = .ok () b' := by
  obtain ⟨b₁, h₁, hrun⟩ := (books_succ hc).1 h'
  rwa [h.unique h₁]

theorem Books.blocks_start {c : CodeLine} {o : Opening} (hc : code[i]? = some c)
    (ho : c.command = o.command) (h : Books code i b) (h' : Books code (i + 1) b') :
    b'.blocks = ⟨o.kind, c.line, false⟩ :: b.blocks := by
  have hrun := h.command hc h'
  rw [ho] at hrun
  obtain ⟨-, rfl⟩ := (command_opening o _ _ _).1 hrun
  rfl

theorem Books.blocks_middle {c : CodeLine} {x : OpenBlock} {rest : List OpenBlock}
    (hc : code[i]? = some c) (ho : c.command = .orElse) (h : Books code i b)
    (hx : b.blocks = x :: rest) (h' : Books code (i + 1) b') :
    x.hasElse = false ∧ b'.blocks = { x with hasElse := true } :: rest := by
  have hrun := h.command hc h'
  rw [ho] at hrun
  obtain ⟨y, ys, hy, -, he, rfl⟩ := (command_orElse _ _ _).1 hrun
  cases hx.symm.trans hy
  exact ⟨he, rfl⟩

theorem Books.blocks_stop {c : CodeLine} {o : Opening} {x : OpenBlock} {rest : List OpenBlock}
    (hc : code[i]? = some c) (ho : c.command = o.stop) (h : Books code i b)
    (hx : b.blocks = x :: rest) (h' : Books code (i + 1) b') : b'.blocks = rest := by
  have hrun := h.command hc h'
  rw [ho] at hrun
  obtain ⟨y, ys, hy, -, rfl⟩ := (command_stop o _ _ _).1 hrun
  cases hx.symm.trans hy
  rfl

/-- A command that takes an entry off the open blocks is the end of a block. -/
theorem exists_stop_of_pop {c : Command} {line : Nat} {x : OpenBlock}
    (h : (command c line).run b = .ok () b') (hx : b.blocks = x :: b'.blocks) :
    ∃ o : Opening, c = o.stop := by
  have hlength := congrArg List.length hx
  rw [List.length_cons] at hlength
  cases hm : c.marker? with
  | none =>
    rw [(command_plain hm _ _ _).1 h] at hlength
    omega
  | some m =>
    obtain ⟨k, role⟩ := m
    cases role with
    | start =>
      obtain ⟨o, rfl, -⟩ := Opening.exists_of_marker? hm
      obtain ⟨-, rfl⟩ := (command_opening o _ _ _).1 h
      rw [List.length_cons] at hlength
      omega
    | middle =>
      obtain ⟨rfl, -⟩ := Command.eq_orElse_of_marker? hm
      obtain ⟨y, ys, hy, -, -, rfl⟩ := (command_orElse _ _ _).1 h
      rw [hy, List.length_cons, List.length_cons] at hlength
      omega
    | stop =>
      obtain ⟨o, rfl, -⟩ := Opening.exists_stop_of_marker? hm
      exact ⟨o, rfl⟩

/-- A command that notes a middle on an open block is a middle. -/
theorem eq_orElse_of_mark {c : Command} {line : Nat} {x : OpenBlock} {rest : List OpenBlock}
    (h : (command c line).run b = .ok () b') (hx : b.blocks = x :: rest) (he : x.hasElse = false)
    (hx' : b'.blocks = { x with hasElse := true } :: rest) : c = .orElse := by
  have hlength : b'.blocks.length = b.blocks.length := by
    rw [hx, hx', List.length_cons, List.length_cons]
  cases hm : c.marker? with
  | none =>
    rw [(command_plain hm _ _ _).1 h, hx, List.cons.injEq] at hx'
    have := congrArg OpenBlock.hasElse hx'.1
    rw [he] at this
    cases this
  | some m =>
    obtain ⟨k, role⟩ := m
    cases role with
    | start =>
      obtain ⟨o, rfl, -⟩ := Opening.exists_of_marker? hm
      obtain ⟨-, rfl⟩ := (command_opening o _ _ _).1 h
      rw [List.length_cons] at hlength
      omega
    | middle => exact (Command.eq_orElse_of_marker? hm).1
    | stop =>
      obtain ⟨o, rfl, -⟩ := Opening.exists_stop_of_marker? hm
      obtain ⟨y, ys, hy, -, rfl⟩ := (command_stop o _ _ _).1 h
      rw [hy, List.length_cons] at hlength
      exact absurd hlength (Nat.ne_of_lt (Nat.lt_succ_self _))

end Track

open Track in
/-- The books around a block: its entry lies on the blocks that were open before, until it ends. -/
theorem Spans.books {code : List CodeLine} {k : Block.Kind} {p e : Nat} {mid : Option Nat}
    (h : Spans code k p mid e) {c : CodeLine} (hc : code[p]? = some c) {b b' : Bookkeeping}
    (hb : Books code p b) (hb' : Books code (e + 1) b') :
    (∃ b₁, Books code e b₁ ∧ b₁.blocks = ⟨k, c.line, mid.isSome⟩ :: b.blocks) ∧
      b'.blocks = b.blocks ∧
      ∀ q, mid = some q →
        (∃ b₁, Books code q b₁ ∧ b₁.blocks = ⟨k, c.line, false⟩ :: b.blocks) ∧
        ∃ b₂, Books code (q + 1) b₂ ∧ b₂.blocks = ⟨k, c.line, true⟩ :: b.blocks := by
  cases h with
  | @block o body rest _ h =>
    obtain ⟨hstart, hbody, hstop, -⟩ := Placed.block_iff.1 h
    obtain ⟨l, hl, ho⟩ := commandAt_eq_some.1 hstart
    cases hc.symm.trans hl
    obtain ⟨l', hl', ho'⟩ := commandAt_eq_some.1 hstop
    obtain ⟨b₁, hb₁⟩ := hb'.exists_of_le (i := p + 1) (by omega)
    obtain ⟨b₂, hb₂⟩ := hb'.exists_of_le (i := p + body.size + 1) (by omega)
    have hblocks : b₂.blocks = ⟨o.kind, c.line, false⟩ :: b.blocks := by
      rw [hb₁.blocks_tree hbody (by rwa [Nat.add_right_comm]), hb.blocks_start hc ho hb₁]
    exact ⟨⟨b₂, hb₂, hblocks⟩, hb₂.blocks_stop hl' ho' hblocks hb', by simp⟩
  | @branch g body other rest _ h =>
    obtain ⟨hstart, hbody, hmiddle, hother, hstop, -⟩ := Placed.branch_iff.1 h
    obtain ⟨l, hl, ho⟩ := commandAt_eq_some.1 hstart
    cases hc.symm.trans hl
    obtain ⟨l₁, hl₁, ho₁⟩ := commandAt_eq_some.1 hmiddle
    obtain ⟨l₂, hl₂, ho₂⟩ := commandAt_eq_some.1 hstop
    obtain ⟨b₁, hb₁⟩ := hb'.exists_of_le (i := p + 1) (by omega)
    obtain ⟨b₂, hb₂⟩ := hb'.exists_of_le (i := p + body.size + 1) (by omega)
    obtain ⟨b₃, hb₃⟩ := hb'.exists_of_le (i := p + body.size + 2) (by omega)
    obtain ⟨b₄, hb₄⟩ := hb'.exists_of_le (i := p + body.size + other.size + 2) (by omega)
    have hfirst : b₂.blocks = ⟨.conditional, c.line, false⟩ :: b.blocks := by
      rw [hb₁.blocks_tree hbody (by rwa [Nat.add_right_comm]),
        hb.blocks_start (o := .ifThen g) hc ho hb₁]
      rfl
    have hmid : b₃.blocks = ⟨.conditional, c.line, true⟩ :: b.blocks :=
      (hb₂.blocks_middle hl₁ ho₁ hfirst hb₃).2
    have hsecond : b₄.blocks = ⟨.conditional, c.line, true⟩ :: b.blocks := by
      rw [hb₃.blocks_tree hother (by rwa [Nat.add_right_comm]), hmid]
    refine ⟨⟨b₄, hb₄, hsecond⟩, hb₄.blocks_stop (o := .ifThen g) hl₂ ho₂ hsecond hb', ?_⟩
    rintro q ⟨⟩
    exact ⟨⟨b₂, hb₂, hfirst⟩, b₃, hb₃, hmid⟩

namespace Session

/-! ## Entries of open blocks -/

variable {source : String} {s₀ s : Session}

/-- Reading the command at `e` takes the entry of the block that starts at `p` off the open blocks.
The line of its start tells the entry from others. -/
def Closes (source : String) (s₀ s : Session) (p e : Nat) : Prop :=
  ∃ start stop x, s.program.code[p]? = some start ∧ s.program.code[e]? = some stop ∧
    x.line = start.line ∧
    (after source s₀ stop.line).books.blocks =
      x :: (after source s₀ (stop.line + 1)).books.blocks

/-- Reading the command at `q` notes a middle on the entry of the block that starts at `p`. -/
def Divides (source : String) (s₀ s : Session) (p q : Nat) : Prop :=
  ∃ start middle x rest, s.program.code[p]? = some start ∧ s.program.code[q]? = some middle ∧
    x.line = start.line ∧ x.hasElse = false ∧
    (after source s₀ middle.line).books.blocks = x :: rest ∧
    (after source s₀ (middle.line + 1)).books.blocks = { x with hasElse := true } :: rest

namespace Accepted

variable (h : Accepted source s₀ s)
include h

theorem books {i : Nat} {c : CodeLine} (hc : s.program.code[i]? = some c) :
    Track.Books s.program.code i (after source s₀ c.line).books ∧
      Track.Books s.program.code (i + 1) (after source s₀ (c.line + 1)).books := by
  obtain ⟨hcode, hrun⟩ := h.after_line hc
  have hbooks : Track.Books s.program.code i (after source s₀ c.line).books := by
    rw [Track.Books, ← hcode]
    exact h.track_after c.line
  exact ⟨hbooks, (Track.books_succ hc).2 ⟨_, hbooks, hrun⟩⟩

/-- A line has at most one command. -/
theorem eq_of_line_eq {i j : Nat} {c d : CodeLine} (hc : s.program.code[i]? = some c)
    (hd : s.program.code[j]? = some d) (hline : c.line = d.line) : i = j := by
  have hi := (List.getElem?_eq_some_iff.1 hc).1
  have hj := (List.getElem?_eq_some_iff.1 hd).1
  have htake := (h.after_line hc).1.symm.trans (hline ▸ (h.after_line hd).1)
  have := congrArg List.length htake
  rw [List.length_take, List.length_take] at this
  omega

section Spans

variable {k : Block.Kind} {p e : Nat} {mid : Option Nat} (hs : Spans s.program.code k p mid e)
include hs

/-- The entry of a block is on top when its end is read, which takes it off. -/
theorem blocks_stop {start stop : CodeLine} (hp : s.program.code[p]? = some start)
    (he : s.program.code[e]? = some stop) :
    (after source s₀ stop.line).books.blocks =
      ⟨k, start.line, mid.isSome⟩ :: (after source s₀ (stop.line + 1)).books.blocks := by
  obtain ⟨⟨b₁, hb₁, hblocks⟩, hout, -⟩ := hs.books hp (h.books hp).1 (h.books he).2
  rw [(h.books he).1.unique hb₁, hblocks, hout]

/-- The entry of a block is on top when its middle is read, which is noted on it. -/
theorem blocks_middle {q : Nat} (hq : mid = some q) {start middle : CodeLine}
    (hp : s.program.code[p]? = some start) (hm : s.program.code[q]? = some middle) :
    (after source s₀ middle.line).books.blocks =
        ⟨k, start.line, false⟩ :: (after source s₀ start.line).books.blocks ∧
      (after source s₀ (middle.line + 1)).books.blocks =
        ⟨k, start.line, true⟩ :: (after source s₀ start.line).books.blocks := by
  obtain ⟨-, stop, -, he⟩ := hs.exists_lines
  obtain ⟨-, -, hmid⟩ := hs.books hp (h.books hp).1 (h.books he).2
  obtain ⟨⟨b₁, hb₁, hfirst⟩, b₂, hb₂, hsecond⟩ := hmid q hq
  rw [(h.books hm).1.unique hb₁, (h.books hm).2.unique hb₂]
  exact ⟨hfirst, hsecond⟩

end Spans

/-- The one command that closes a block is the one at its end. -/
theorem closes_iff {k : Block.Kind} {p e e' : Nat} {mid : Option Nat}
    (hs : Spans s.program.code k p mid e) : Closes source s₀ s p e' ↔ e' = e := by
  obtain ⟨t, hn, -⟩ := h.exists_tree
  constructor
  · rintro ⟨start, stop, x, hp, he', hline, hpop⟩
    obtain ⟨o, ho⟩ := Track.exists_stop_of_pop (h.after_line he').2 hpop
    have hcommand := commandAt_eq_some.2 ⟨stop, he', ho⟩
    obtain ⟨p', mid', hs'⟩ := hn.exists_spans_of_stop hcommand o.stop_marker?
    -- the entry on top is that of the block that ends here, and its line is that of the start
    obtain ⟨start', -, hp', -⟩ := hs'.exists_lines
    have htop := (h.blocks_stop hs' hp' he').symm.trans hpop
    rw [List.cons.injEq] at htop
    rw [← htop.1] at hline
    obtain rfl := h.eq_of_line_eq hp' hp hline
    obtain rfl := hs.kind_eq hs'
    exact (hs'.unique_of_start hs).2
  · rintro rfl
    obtain ⟨start, stop, hp, he⟩ := hs.exists_lines
    exact ⟨start, stop, _, hp, he, rfl, h.blocks_stop hs hp he⟩

/-- The one command that is noted as the middle of a block is its middle. -/
theorem divides_iff {k : Block.Kind} {p e q : Nat} {mid : Option Nat}
    (hs : Spans s.program.code k p mid e) : Divides source s₀ s p q ↔ mid = some q := by
  obtain ⟨t, hn, -⟩ := h.exists_tree
  constructor
  · rintro ⟨start, middle, x, rest, hp, hq, hline, helse, hbefore, hafter⟩
    have ho := Track.eq_orElse_of_mark (h.after_line hq).2 hbefore helse hafter
    have hcommand := commandAt_eq_some.2 ⟨middle, hq, ho⟩
    obtain ⟨p', e', hs'⟩ := hn.exists_spans_of_middle hcommand rfl
    obtain ⟨start', -, hp', -⟩ := hs'.exists_lines
    have htop := (h.blocks_middle hs' rfl hp' hq).1.symm.trans hbefore
    rw [List.cons.injEq] at htop
    rw [← htop.1] at hline
    obtain rfl := h.eq_of_line_eq hp' hp hline
    obtain rfl := hs.kind_eq hs'
    exact (hs.unique_of_start hs').1
  · rintro rfl
    obtain ⟨start, -, hp, -⟩ := hs.exists_lines
    obtain ⟨middle, hq, -⟩ := commandAt_eq_some.1 hs.middle_command.1
    obtain ⟨hbefore, hafter⟩ := h.blocks_middle hs rfl hp hq
    exact ⟨start, middle, _, _, hp, hq, rfl, rfl, hbefore, hafter⟩

/-- A run of an accepted script fails over values, or at the end of a loop that does not run. -/
theorem run_error {limit pos line : Nat} {cause : CommandError}
    (hrun : (s.program.setLimit limit).run.result = .error (.failed pos line cause)) :
    ¬ cause.OfControl ∨ ∃ m p mid l, Machine.Reached s.program.code m ∧
      Spans s.program.code .forLoop p mid m.pc ∧ commandAt s.program.code p = some (.countTo l) ∧
      m.loops[p]? = none ∧ cause = .notRunning l.var := by
  obtain ⟨t, hn, -⟩ := h.exists_tree
  obtain ⟨m, c, hm, hc, -, -, hstep⟩ :=
    Program.run_failed (p := s.program.setLimit limit) h.parsed_eq_true hrun
  have hexec := Machine.execute_of_step_error hstep
  have hcommand : commandAt s.program.code (m.noteExecute c).pc = some c.command :=
    commandAt_eq_some.2 ⟨c, hc, rfl⟩
  exact (Command.execute_error hn (fun _ _ hp => h.call_declared hp) hcommand hexec).imp_right
    fun ⟨p, mid, l, hrest⟩ => ⟨m, p, mid, l, hm, hrest⟩

end Accepted

/-! ## The main result -/

/-- The search for blocks agrees with the bookkeeping that the reader did for an accepted script,
and no run of it fails for want of a block or a method. -/
structure Matching (source : String) (s₀ s : Session) : Prop where
  /-- A block start pushes an entry. The search for the end finds the command that takes the entry
  off, with the middle that was noted on it, and the search from there finds the start. -/
  start : ∀ {p : Nat} {c : CodeLine} {k : Block.Kind}, s.program.code[p]? = some c →
    c.command.marker? = some ⟨k, .start⟩ →
    (after source s₀ (c.line + 1)).books.blocks =
        ⟨k, c.line, false⟩ :: (after source s₀ c.line).books.blocks ∧
      ∃ extent, Block.findEnd (markers s.program.code) p k = .ok extent ∧
        (∀ e, Closes source s₀ s p e ↔ e = extent.stop) ∧
        (∀ q, Divides source s₀ s p q ↔ extent.middle = some q) ∧
        Block.findStart (markers s.program.code) extent.stop k = .ok p
  /-- From a middle, the search finds the end of the conditional that it was noted on. -/
  middle : ∀ {q : Nat}, commandAt s.program.code q = some .orElse →
    ∃ p extent, Divides source s₀ s p q ∧ Closes source s₀ s p extent.stop ∧
      Block.findEnd (markers s.program.code) q .conditional = .ok extent
  /-- A call names one method. -/
  call : ∀ {q : Nat} {name : String}, commandAt s.program.code q = some (.call name) →
    ∃! header, commandAt s.program.code header = some (.method name)
  /-- No run fails for want of a block or a method. -/
  run : ∀ {limit pos line : Nat} {cause : CommandError},
    (s.program.setLimit limit).run.result = .error (.failed pos line cause) →
    (∀ missing, cause ≠ .unmatched missing) ∧ ∀ name, cause ≠ .unknownMethod name

/-- In every accepted script, the search for blocks agrees with the bookkeeping. -/
theorem Accepted.matching (h : Accepted source s₀ s) : Matching source s₀ s := by
  obtain ⟨t, hn, -, hnames⟩ := h.exists_tree
  refine ⟨?_, ?_, ?_, ?_⟩
  · intro p c k hp hc
    have hcommand := commandAt_eq_some.2 ⟨c, hp, rfl⟩
    obtain ⟨mid, e, hs⟩ := hn.exists_spans_of_start hcommand hc
    obtain ⟨o, ho, rfl⟩ := Opening.exists_of_marker? hc
    exact ⟨(h.books hp).1.blocks_start hp ho.symm (h.books hp).2, ⟨mid, e⟩, hs.findEnd_eq,
      fun _ => h.closes_iff hs, fun _ => h.divides_iff hs, hs.findStart_eq⟩
  · intro q hq
    obtain ⟨p, e, hs⟩ := hn.exists_spans_of_middle hq rfl
    exact ⟨p, ⟨none, e⟩, (h.divides_iff hs).2 rfl, (h.closes_iff hs).2 rfl, hs.findEnd_middle_eq⟩
  · intro q name hq
    obtain ⟨header, hheader⟩ := Option.isSome_iff_exists.1 (h.call_declared hq)
    exact ⟨header, commandAt_of_findMethod? hheader,
      fun _ hother => hn.method_unique hnames hother (commandAt_of_findMethod? hheader)⟩
  · intro limit pos line cause hrun
    constructor
    all_goals
      rintro missing rfl
      rcases h.run_error hrun with hvalues | ⟨m, p, mid, l, -, -, -, -, hcause⟩
      · exact hvalues trivial
      · cases hcause

/-- A conditional in a loop in a method, which is called. -/
def nestedBlocks : String :=
  "method m\nfor i = 1 to 3\nif i > 1\nclear\nelse\nend if\nend for\nend method\ncall m"

theorem matching_nestedBlocks :
    ∃ s, Accepted nestedBlocks {} s ∧ Matching nestedBlocks {} s := by
  obtain ⟨s, hs, -⟩ := exists_accepted nestedBlocks (fun _ => true) (by decide +kernel)
  exact ⟨s, hs, hs.matching⟩

end Session

end PenScript
