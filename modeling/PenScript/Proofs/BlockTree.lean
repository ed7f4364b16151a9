import PenScript.Command.Basic

/-!
# Block trees

* `Opening` is a command that starts a block, `Opening.stop` the command that ends it;
* `BlockTree` is a derivation of the block grammar: a sequence of plain commands, blocks and
  conditionals with two branches; `BlockTree.commands` is the sequence that it derives;
* `BlockTree.methodNames` lists the methods in it, `BlockTree.Apart` says that none stands inside
  another;
* `Placed code pos t` : the commands of `t` stand in the code from position `pos` on;
* `Part code q` : what a position of a well nested code belongs to (`Placed.part`);
* `Nested code t` : the code is the sequence of `t`; methods with names of their own are then found
  by name (`Nested.findMethod?_eq`).
-/

namespace PenScript

/-- A command that starts a block. -/
inductive Opening where
  | ifThen (condition : String)
  | whileDo (condition : String)
  | countTo (l : CountedLoop)
  | method (name : String)
deriving Repr, DecidableEq

namespace Opening

/-- The kind of the block. -/
def kind : Opening → Block.Kind
  | ifThen _ => .conditional
  | whileDo _ => .whileLoop
  | countTo _ => .forLoop
  | method _ => .method

/-- The command. -/
def command : Opening → Command
  | ifThen condition => .ifThen condition
  | whileDo condition => .whileDo condition
  | countTo l => .countTo l
  | method name => .method name

/-- The command that ends the block. -/
def stop : Opening → Command
  | ifThen _ => .endIf
  | whileDo _ => .endWhile
  | countTo _ => .endFor
  | method _ => .endMethod

/-- The method that is declared, if there is one. -/
def declared : Opening → List String
  | method name => [name]
  | _ => []

@[simp] theorem command_marker? (o : Opening) : o.command.marker? = some ⟨o.kind, .start⟩ := by
  cases o <;> rfl

@[simp] theorem stop_marker? (o : Opening) : o.stop.marker? = some ⟨o.kind, .stop⟩ := by
  cases o <;> rfl

@[simp] theorem declared_reverse (o : Opening) : o.declared.reverse = o.declared := by
  cases o <;> rfl

theorem exists_of_marker? {c : Command} {k : Block.Kind} (h : c.marker? = some ⟨k, .start⟩) :
    ∃ o : Opening, o.command = c ∧ o.kind = k := by
  cases c with
  | ifThen g => exact ⟨.ifThen g, rfl, by simpa [Command.marker?, kind] using h⟩
  | whileDo g => exact ⟨.whileDo g, rfl, by simpa [Command.marker?, kind] using h⟩
  | countTo l => exact ⟨.countTo l, rfl, by simpa [Command.marker?, kind] using h⟩
  | method name => exact ⟨.method name, rfl, by simpa [Command.marker?, kind] using h⟩
  | _ => simp [Command.marker?] at h

theorem exists_stop_of_marker? {c : Command} {k : Block.Kind} (h : c.marker? = some ⟨k, .stop⟩) :
    ∃ o : Opening, o.stop = c ∧ o.kind = k := by
  cases c with
  | endIf => exact ⟨.ifThen "", rfl, by simpa [Command.marker?, kind] using h⟩
  | endWhile => exact ⟨.whileDo "", rfl, by simpa [Command.marker?, kind] using h⟩
  | endFor => exact ⟨.countTo ⟨"", "", "", none⟩, rfl, by simpa [Command.marker?, kind] using h⟩
  | endMethod => exact ⟨.method "", rfl, by simpa [Command.marker?, kind] using h⟩
  | _ => simp [Command.marker?] at h

theorem stop_eq_of_kind {o o' : Opening} (h : o.kind = o'.kind) : o.stop = o'.stop := by
  cases o <;> cases o' <;> first | rfl | cases h

end Opening

theorem Command.eq_orElse_of_marker? {c : Command} {k : Block.Kind}
    (h : c.marker? = some ⟨k, .middle⟩) : c = .orElse ∧ k = .conditional := by
  cases c <;> simp_all [Command.marker?]

/-- A derivation of the block grammar. -/
inductive BlockTree where
  | nil
  | plain (c : Command) (h : c.marker? = none) (rest : BlockTree)
  | block (o : Opening) (body rest : BlockTree)
  | branch (condition : String) (body other rest : BlockTree)

namespace BlockTree

/-- The commands in order. -/
def commands : BlockTree → List Command
  | nil => []
  | plain c _ rest => c :: rest.commands
  | block o body rest => o.command :: (body.commands ++ o.stop :: rest.commands)
  | branch condition body other rest =>
    .ifThen condition ::
      (body.commands ++ .orElse :: (other.commands ++ .endIf :: rest.commands))

/-- The number of commands. -/
def size (t : BlockTree) : Nat := t.commands.length

/-- The names of the methods at any depth, in order. -/
def methodNames : BlockTree → List String
  | nil => []
  | plain _ _ rest => rest.methodNames
  | block o body rest => o.declared ++ (body.methodNames ++ rest.methodNames)
  | branch _ body other rest => body.methodNames ++ (other.methodNames ++ rest.methodNames)

/-- No method stands inside another one, at any depth. -/
def Apart : BlockTree → Prop
  | nil => True
  | plain _ _ rest => rest.Apart
  | block o body rest => (o.kind = .method → body.methodNames = []) ∧ body.Apart ∧ rest.Apart
  | branch _ body other rest => body.Apart ∧ other.Apart ∧ rest.Apart

@[simp] theorem size_nil : nil.size = 0 := rfl

@[simp] theorem size_plain (c : Command) (h : c.marker? = none) (rest : BlockTree) :
    (plain c h rest).size = rest.size + 1 := rfl

@[simp] theorem size_block (o : Opening) (body rest : BlockTree) :
    (block o body rest).size = body.size + rest.size + 2 := by
  simp only [size, commands, List.length_cons, List.length_append]
  omega

@[simp] theorem size_branch (g : String) (body other rest : BlockTree) :
    (branch g body other rest).size = body.size + other.size + rest.size + 3 := by
  simp only [size, commands, List.length_cons, List.length_append]
  omega

end BlockTree

/-! ## Placement -/

/-- The command at a position. -/
def commandAt (code : List CodeLine) (pos : Nat) : Option Command :=
  (code[pos]?).map CodeLine.command

theorem commandAt_eq_getElem? (code : List CodeLine) (pos : Nat) :
    commandAt code pos = (code.map CodeLine.command)[pos]? := by
  rw [commandAt, List.getElem?_map]

theorem commandAt_eq_some {code : List CodeLine} {pos : Nat} {c : Command} :
    commandAt code pos = some c ↔ ∃ l, code[pos]? = some l ∧ l.command = c := by
  rw [commandAt, Option.map_eq_some_iff]

theorem lt_length_of_commandAt {code : List CodeLine} {pos : Nat} {c : Command}
    (h : commandAt code pos = some c) : pos < code.length := by
  obtain ⟨l, hl, -⟩ := commandAt_eq_some.1 h
  exact (List.getElem?_eq_some_iff.1 hl).1

/-- The commands stand in the code from a position on. -/
def Stands (code : List CodeLine) (pos : Nat) (cs : List Command) : Prop :=
  cs <+: (code.map CodeLine.command).drop pos

theorem stands_nil (code : List CodeLine) (pos : Nat) : Stands code pos [] := List.nil_prefix

theorem stands_cons {code : List CodeLine} {pos : Nat} {c : Command} {cs : List Command} :
    Stands code pos (c :: cs) ↔ commandAt code pos = some c ∧ Stands code (pos + 1) cs := by
  rw [Stands, Stands, commandAt_eq_getElem?, ← List.drop_drop]
  cases h : (code.map CodeLine.command).drop pos with
  | nil =>
    have : (code.map CodeLine.command)[pos]? = none := by
      rw [List.drop_eq_nil_iff] at h
      exact List.getElem?_eq_none h
    simp [this]
  | cons d ds =>
    have : (code.map CodeLine.command)[pos]? = some d := by
      rw [← List.head?_drop, h, List.head?_cons]
    rw [this, List.cons_prefix_cons, List.drop_one, List.tail_cons, Option.some_inj, eq_comm]

theorem stands_append {code : List CodeLine} {pos : Nat} {cs ds : List Command} :
    Stands code pos (cs ++ ds) ↔ Stands code pos cs ∧ Stands code (pos + cs.length) ds := by
  induction cs generalizing pos with
  | nil => simp [stands_nil]
  | cons c cs ih =>
    rw [List.cons_append, stands_cons, stands_cons, ih, List.length_cons, and_assoc,
      show pos + 1 + cs.length = pos + (cs.length + 1) by omega]

/-- The commands of a tree stand in the code from a position on. -/
def Placed (code : List CodeLine) (pos : Nat) (t : BlockTree) : Prop := Stands code pos t.commands

namespace Placed

variable {code : List CodeLine} {pos : Nat}

theorem plain_iff {c : Command} {h : c.marker? = none} {rest : BlockTree} :
    Placed code pos (.plain c h rest) ↔
      commandAt code pos = some c ∧ Placed code (pos + 1) rest := stands_cons

theorem block_iff {o : Opening} {body rest : BlockTree} :
    Placed code pos (.block o body rest) ↔
      commandAt code pos = some o.command ∧ Placed code (pos + 1) body ∧
        commandAt code (pos + body.size + 1) = some o.stop ∧
        Placed code (pos + body.size + 2) rest := by
  rw [Placed, BlockTree.commands, stands_cons, stands_append, stands_cons]
  rw [show pos + 1 + body.commands.length = pos + body.size + 1 by rw [BlockTree.size]; omega]
  rfl

theorem branch_iff {g : String} {body other rest : BlockTree} :
    Placed code pos (.branch g body other rest) ↔
      commandAt code pos = some (.ifThen g) ∧ Placed code (pos + 1) body ∧
        commandAt code (pos + body.size + 1) = some .orElse ∧
        Placed code (pos + body.size + 2) other ∧
        commandAt code (pos + body.size + other.size + 2) = some .endIf ∧
        Placed code (pos + body.size + other.size + 3) rest := by
  rw [Placed, BlockTree.commands, stands_cons, stands_append, stands_cons, stands_append,
    stands_cons]
  rw [show pos + 1 + body.commands.length = pos + body.size + 1 by rw [BlockTree.size]; omega,
    show pos + body.size + 1 + 1 + other.commands.length = pos + body.size + other.size + 2 by
      simp only [BlockTree.size]; omega]
  rfl

end Placed

/-! ## The parts of a well nested code -/

/-- What a position of the code belongs to: a plain command, or the start, the middle or the end of
a block that is placed in the code. -/
inductive Part (code : List CodeLine) (q : Nat) : Prop
  | plain {c : Command} {h : c.marker? = none} {rest : BlockTree}
      (hp : Placed code q (.plain c h rest))
  | start {o : Opening} {body rest : BlockTree} (hp : Placed code q (.block o body rest))
  | stop {p : Nat} {o : Opening} {body rest : BlockTree} (hp : Placed code p (.block o body rest))
      (hq : q = p + body.size + 1)
  | fork {g : String} {body other rest : BlockTree} (hp : Placed code q (.branch g body other rest))
  | middle {p : Nat} {g : String} {body other rest : BlockTree}
      (hp : Placed code p (.branch g body other rest)) (hq : q = p + body.size + 1)
  | join {p : Nat} {g : String} {body other rest : BlockTree}
      (hp : Placed code p (.branch g body other rest)) (hq : q = p + body.size + other.size + 2)

theorem Placed.part {code : List CodeLine} {t : BlockTree} {pos q : Nat} (h : Placed code pos t)
    (hle : pos ≤ q) (hlt : q < pos + t.size) : Part code q := by
  induction t generalizing pos with
  | nil => simp at hlt; omega
  | plain c hc rest ih =>
    rw [BlockTree.size_plain] at hlt
    by_cases hq : q = pos
    · exact .plain (hq ▸ h)
    · exact ih (plain_iff.1 h).2 (by omega) (by omega)
  | block o body rest ihb ihr =>
    rw [BlockTree.size_block] at hlt
    obtain ⟨-, hbody, -, hrest⟩ := block_iff.1 h
    -- the position is the start, inside the body, the end, or behind the block
    by_cases h1 : q = pos
    · exact .start (h1 ▸ h)
    by_cases h2 : q < pos + body.size + 1
    · exact ihb hbody (by omega) (by omega)
    by_cases h3 : q = pos + body.size + 1
    · exact .stop h h3
    · exact ihr hrest (by omega) (by omega)
  | branch g body other rest ihb iho ihr =>
    rw [BlockTree.size_branch] at hlt
    obtain ⟨-, hbody, -, hother, -, hrest⟩ := branch_iff.1 h
    by_cases h1 : q = pos
    · exact .fork (h1 ▸ h)
    by_cases h2 : q < pos + body.size + 1
    · exact ihb hbody (by omega) (by omega)
    by_cases h3 : q = pos + body.size + 1
    · exact .middle h h3
    by_cases h4 : q < pos + body.size + other.size + 2
    · exact iho hother (by omega) (by omega)
    by_cases h5 : q = pos + body.size + other.size + 2
    · exact .join h h5
    · exact ihr hrest (by omega) (by omega)

/-- A code that is the sequence of a tree. -/
def Nested (code : List CodeLine) (t : BlockTree) : Prop :=
  code.map CodeLine.command = t.commands

theorem Nested.placed {code : List CodeLine} {t : BlockTree} (h : Nested code t) :
    Placed code 0 t := ⟨[], by rw [List.append_nil, List.drop_zero, h]⟩

theorem Nested.size_eq {code : List CodeLine} {t : BlockTree} (h : Nested code t) :
    t.size = code.length := by
  rw [BlockTree.size, ← h, List.length_map]

/-- Every position of a well nested code has its part. -/
theorem Nested.part {code : List CodeLine} {t : BlockTree} (h : Nested code t) {q : Nat}
    (hq : q < code.length) : Part code q :=
  h.placed.part (Nat.zero_le q) (by rw [h.size_eq]; omega)

/-! ## Methods -/

/-- The method that a command declares, if it does. -/
def Command.declared? : Command → Option String
  | method name => some name
  | _ => none

theorem BlockTree.methodNames_eq (t : BlockTree) :
    t.methodNames = t.commands.filterMap Command.declared? := by
  have hopening : ∀ (o : Opening) (cs : List Command),
      (o.command :: cs).filterMap Command.declared? =
        o.declared ++ cs.filterMap Command.declared? := by
    intro o cs
    cases o <;> rfl
  have hstop : ∀ (o : Opening) (cs : List Command),
      (o.stop :: cs).filterMap Command.declared? = cs.filterMap Command.declared? := by
    intro o cs
    cases o <;> rfl
  induction t with
  | nil => rfl
  | plain c h rest ih =>
    rw [methodNames, commands, ih, List.filterMap_cons_none]
    cases c <;> first | rfl | cases h
  | block o body rest ihb ihr =>
    rw [methodNames, commands, ihb, ihr, hopening, List.filterMap_append, hstop]
  | branch g body other rest ihb iho ihr =>
    rw [methodNames, commands, ihb, iho, ihr, List.filterMap_cons_none rfl, List.filterMap_append,
      List.filterMap_cons_none rfl, List.filterMap_append, List.filterMap_cons_none rfl]

/-- Methods with names of their own: one position for each. -/
theorem Nested.method_unique {code : List CodeLine} {t : BlockTree} (h : Nested code t)
    (hnames : t.methodNames.Nodup) {p q : Nat} {name : String}
    (hp : commandAt code p = some (.method name)) (hq : commandAt code q = some (.method name)) :
    p = q := by
  rw [t.methodNames_eq, List.Nodup, List.pairwise_filterMap, ← h, List.pairwise_iff_getElem] at hnames
  rw [commandAt_eq_getElem?] at hp hq
  obtain ⟨hp, hpe⟩ := List.getElem?_eq_some_iff.1 hp
  obtain ⟨hq, hqe⟩ := List.getElem?_eq_some_iff.1 hq
  rcases Nat.lt_trichotomy p q with hlt | heq | hlt
  · exact absurd rfl (hnames p q hp hq hlt name (by rw [hpe]; rfl) name (by rw [hqe]; rfl))
  · exact heq
  · exact absurd rfl (hnames q p hq hp hlt name (by rw [hqe]; rfl) name (by rw [hpe]; rfl))

/-- A method is found exactly if one of that name is declared. -/
theorem isSome_findMethod? {code : List CodeLine} {name : String} :
    (findMethod? code name).isSome = true ↔ Command.method name ∈ code.map (·.command) := by
  unfold findMethod?
  simp

theorem commandAt_of_findMethod? {code : List CodeLine} {name : String} {p : Nat}
    (h : findMethod? code name = some p) : commandAt code p = some (.method name) := by
  obtain ⟨hlt, hp, -⟩ := List.findIdx?_eq_some_iff_getElem.1 h
  exact commandAt_eq_some.2 ⟨_, List.getElem?_eq_getElem hlt, by simpa using hp⟩

theorem Nested.findMethod?_eq {code : List CodeLine} {t : BlockTree} (h : Nested code t)
    (hnames : t.methodNames.Nodup) {p : Nat} {name : String}
    (hp : commandAt code p = some (.method name)) : findMethod? code name = some p := by
  obtain ⟨l, hl, hcommand⟩ := commandAt_eq_some.1 hp
  have hsome : (findMethod? code name).isSome := by
    rw [isSome_findMethod?]
    exact List.mem_map.2 ⟨l, List.mem_of_getElem? hl, hcommand⟩
  obtain ⟨header, hheader⟩ := Option.isSome_iff_exists.1 hsome
  rw [hheader, h.method_unique hnames hp (commandAt_of_findMethod? hheader)]

end PenScript
