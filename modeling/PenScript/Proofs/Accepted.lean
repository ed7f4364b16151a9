import PenScript.Proofs.Bookkeeping

/-!
# Scripts that are accepted

* `Session.after source s₀ j` is the session when the first `j` lines of a script have been read;
* `Prepare.commands` announces a sequence of commands;
* `Session.readLine_eq_ok` : a line adds one command, announces it and keeps the books for it, or
  does nothing;
* `Session.Accepted source s₀ s` : the script is accepted and gives the session `s`, which
  `Session.accepted_iff` spells out;
* `Session.Accepted.after_line` : what the session is just before the line of a command, and just
  behind it;
* `Session.Accepted.exists_tree`, `Session.Accepted.prepared`, `Session.Accepted.call_declared`.
-/

namespace PenScript

/-! ## Commands in order -/

namespace Prepare

/-- Announces commands in order. -/
def commands (code : List CodeLine) : Prepare Unit := code.forM (·.command.prepare)

theorem commands_cons {c : CodeLine} {code : List CodeLine} {s s' : Store} :
    (commands (c :: code)).run s = .ok () s' ↔
      ∃ s₁, c.command.prepare.run s = .ok () s₁ ∧ (commands code).run s₁ = .ok () s' := by
  rw [commands, List.forM_eq_forM, List.forM_cons, Attempt.run_bind_eq_ok]
  exact ⟨fun ⟨⟨⟩, h⟩ => h, fun h => ⟨(), h⟩⟩

theorem commands_append {code more : List CodeLine} {s s' : Store} :
    (commands (code ++ more)).run s = .ok () s' ↔
      ∃ s₁, (commands code).run s = .ok () s₁ ∧ (commands more).run s₁ = .ok () s' := by
  rw [commands, List.forM_eq_forM, List.forM_append, Attempt.run_bind_eq_ok]
  exact ⟨fun ⟨⟨⟩, h⟩ => h, fun h => ⟨(), h⟩⟩

end Prepare

namespace Session

/-! ## One line -/

theorem run_prepare (c : Command) (s : Session) :
    (prepare c).run s = match c.prepare.run s.program.store with
      | .ok () store => .ok () { s with program := s.program.setStore store }
      | .error e store => .error (.command e) { s with program := s.program.setStore store } := rfl

theorem run_prepare_eq_ok {c : Command} {s s' : Session} :
    (prepare c).run s = .ok () s' ↔ ∃ store, c.prepare.run s.program.store = .ok () store ∧
      s' = { s with program := s.program.setStore store } := by
  rw [run_prepare]
  constructor
  · intro h
    split at h
    · rename_i store hstore
      cases h
      exact ⟨store, hstore, rfl⟩
    · cases h
  · rintro ⟨store, hstore, rfl⟩
    rw [hstore]

theorem run_track (c : Command) (line : Nat) (s : Session) :
    (track c line).run s = match (Track.command c line).run s.books with
      | .ok () books => .ok () { s with books := books }
      | .error e books => .error e { s with books := books } := rfl

theorem run_track_eq_ok {c : Command} {line : Nat} {s s' : Session} :
    (track c line).run s = .ok () s' ↔ ∃ books,
      (Track.command c line).run s.books = .ok () books ∧ s' = { s with books := books } := by
  rw [run_track]
  constructor
  · intro h
    split at h
    · rename_i books hbooks
      cases h
      exact ⟨books, hbooks, rfl⟩
    · cases h
  · rintro ⟨books, hbooks, rfl⟩
    rw [hbooks]

theorem run_lift_eq_ok {ε α : Type} {f : ε → ScriptError} {r : Except ε α} {a : α}
    {s s' : Session} : (lift f r).run s = .ok a s' ↔ r = .ok a ∧ s' = s := by
  cases r with
  | ok b =>
    constructor
    · rintro ⟨⟩
      exact ⟨rfl, rfl⟩
    · rintro ⟨h, rfl⟩
      cases h
      rfl
  | error e =>
    constructor
    · rintro ⟨⟩
    · rintro ⟨⟨⟩, -⟩

/-- The session with one more command. -/
def enlist (s : Session) (c : CodeLine) (store : Store) (books : Bookkeeping) : Session :=
  { program := (s.program.setStore store).push c
    books := books
    log := s.log.push (.parsed c.line c.text) }

/-- A line is read if it has no command, or if its command can be announced and fits the open
blocks. -/
theorem readLine_eq_ok {text : String} {line : Nat} {r : Option Nat} {s s' : Session} :
    (readLine text line).run s = .ok r s' ↔
      (ScriptLine.read? text line = none ∧ r = none ∧ s' = s) ∨
      ∃ l req c store books, ScriptLine.read? text line = some l ∧
        request l s.program.store = .ok req ∧ req.command = .ok c ∧
        c.prepare.run s.program.store = .ok () store ∧
        (Track.command c line).run s.books = .ok () books ∧ r = some s.program.size ∧
        s' = s.enlist ⟨c, line, req.text⟩ store books := by
  unfold readLine
  cases hl : ScriptLine.read? text line with
  | none =>
    constructor
    · rintro ⟨⟩
      exact .inl ⟨rfl, rfl, rfl⟩
    · rintro (⟨-, rfl, rfl⟩ | ⟨l, -, -, -, -, hl', -⟩)
      · rfl
      · cases hl'
  | some l =>
    constructor
    · intro h
      obtain ⟨_, _, hget, hr⟩ := Attempt.run_bind_eq_ok.1 h
      cases hget
      obtain ⟨req, s₁, h₁, hc⟩ := Attempt.run_bind_eq_ok.1 hr
      obtain ⟨hreq, rfl⟩ := run_lift_eq_ok.1 h₁
      obtain ⟨c, s₂, h₂, hp⟩ := Attempt.run_bind_eq_ok.1 hc
      obtain ⟨hcommand, rfl⟩ := run_lift_eq_ok.1 h₂
      obtain ⟨⟨⟩, s₃, h₃, ht⟩ := Attempt.run_bind_eq_ok.1 hp
      obtain ⟨store, hstore, rfl⟩ := run_prepare_eq_ok.1 h₃
      obtain ⟨⟨⟩, s₄, h₄, hpush⟩ := Attempt.run_bind_eq_ok.1 ht
      obtain ⟨books, hbooks, rfl⟩ := run_track_eq_ok.1 h₄
      cases hpush
      exact .inr ⟨l, req, c, store, books, rfl, hreq, hcommand, hstore, hbooks, rfl, rfl⟩
    · rintro (⟨hl', -⟩ | ⟨l', req, c, store, books, hl', hreq, hcommand, hstore, hbooks, rfl, rfl⟩)
      · cases hl'
      · cases hl'
        dsimp only
        have htrack : (track c line).run { s with program := s.program.setStore store } =
            .ok () { s with program := s.program.setStore store, books := books } :=
          run_track_eq_ok.2 ⟨books, hbooks, rfl⟩
        rw [Attempt.run_bind_ok (EStateM.run_get s),
          Attempt.run_bind_ok (run_lift_eq_ok.2 ⟨hreq, rfl⟩),
          Attempt.run_bind_ok (run_lift_eq_ok.2 ⟨hcommand, rfl⟩),
          Attempt.run_bind_ok (run_prepare_eq_ok.2 ⟨store, hstore, rfl⟩),
          Attempt.run_bind_ok htrack]
        rfl

theorem readLine_ok {text : String} {line : Nat} {r : Option Nat} {s s' : Session}
    (h : (readLine text line).run s = .ok r s') :
    s' = s ∨ ∃ c : CodeLine, c.line = line ∧ s'.program.code = s.program.code ++ [c] ∧
      c.command.prepare.run s.program.store = .ok () s'.program.store ∧
      (Track.command c.command c.line).run s.books = .ok () s'.books := by
  rcases readLine_eq_ok.1 h with
    ⟨-, -, rfl⟩ | ⟨l, req, c, store, books, -, -, -, hstore, hbooks, -, rfl⟩
  · exact .inl rfl
  · exact .inr ⟨⟨c, line, req.text⟩, rfl, rfl, hstore, hbooks⟩

/-! ## All lines -/

theorem readLines_cons (text : List Char) (rest : List (List Char)) (line : Nat) (s : Session) :
    readLines (text :: rest) line s = match (readLine (String.ofList text) line).run s with
      | .ok _ s => readLines rest (line + 1) s
      | .error e s =>
        (⟨line, e⟩ :: (readLines rest (line + 1) s).1, (readLines rest (line + 1) s).2) := rfl

theorem readLines_cons_nil {text : List Char} {rest : List (List Char)} {line : Nat}
    {s s' : Session} (h : readLines (text :: rest) line s = ([], s')) :
    ∃ r s₁, (readLine (String.ofList text) line).run s = .ok r s₁ ∧
      readLines rest (line + 1) s₁ = ([], s') := by
  rw [readLines_cons] at h
  split at h
  · rename_i r s₁ h₁
    exact ⟨r, s₁, h₁, h⟩
  · cases h

/-- Lines without an error add commands, announce them and keep the books for them in order. -/
theorem readLines_nil (ls : List (List Char)) : ∀ {line : Nat} {s s' : Session},
    readLines ls line s = ([], s') →
    ∃ added, s'.program.code = s.program.code ++ added ∧
      (Prepare.commands added).run s.program.store = .ok () s'.program.store ∧
      (Track.commands added).run s.books = .ok () s'.books := by
  induction ls with
  | nil =>
    intro line s s' h
    cases h
    exact ⟨[], by simp, rfl, (Track.commands_nil _ _).2 rfl⟩
  | cons text ls ih =>
    intro line s s' h
    obtain ⟨r, s₁, h₁, h₂⟩ := readLines_cons_nil h
    obtain ⟨added, hcode, hprepare, htrack⟩ := ih h₂
    rcases readLine_ok h₁ with rfl | ⟨c, -, hc, hstore, hbooks⟩
    · exact ⟨added, hcode, hprepare, htrack⟩
    · exact ⟨c :: added, by rw [hcode, hc, List.append_assoc]; rfl,
        Prepare.commands_cons.2 ⟨s₁.program.store, hstore, hprepare⟩,
        Track.commands_cons.2 ⟨s₁.books, hbooks, htrack⟩⟩

/-- If all lines are without an error, so are the first ones. -/
theorem readLines_take (ls : List (List Char)) : ∀ {line : Nat} {s s' : Session},
    readLines ls line s = ([], s') → ∀ j, (readLines (ls.take j) line s).1 = [] := by
  induction ls with
  | nil =>
    intro line s s' h j
    rw [List.take_nil]
    rfl
  | cons text ls ih =>
    intro line s s' h j
    obtain ⟨r, s₁, h₁, h₂⟩ := readLines_cons_nil h
    cases j with
    | zero => rfl
    | succ j =>
      rw [List.take_succ_cons, readLines_cons, h₁]
      exact ih h₂ j

/-- Lines without an error: each command was added by the line whose number it has. -/
theorem readLines_line (ls : List (List Char)) : ∀ {line : Nat} {s s' : Session},
    readLines ls line s = ([], s') → ∀ {i : Nat} {c : CodeLine},
    s.program.code.length ≤ i → s'.program.code[i]? = some c → ∃ j, c.line = line + j ∧
      (readLines (ls.take j) line s).2.program.code = s'.program.code.take i ∧
      (Track.command c.command c.line).run (readLines (ls.take j) line s).2.books =
        .ok () (readLines (ls.take (j + 1)) line s).2.books := by
  induction ls with
  | nil =>
    intro line s s' h i c hi hc
    cases h
    rw [List.getElem?_eq_none hi] at hc
    cases hc
  | cons text ls ih =>
    intro line s s' h i c hi hc
    obtain ⟨r, s₁, h₁, h₂⟩ := readLines_cons_nil h
    have htake : ∀ j, readLines ((text :: ls).take (j + 1)) line s =
        readLines (ls.take j) (line + 1) s₁ := by
      intro j
      rw [List.take_succ_cons, readLines_cons, h₁]
    obtain ⟨added, hcode, -⟩ := readLines_nil ls h₂
    -- the command is either the one of the first line, or one of a later line
    have hlater : s₁.program.code.length ≤ i → ∃ j, c.line = line + j ∧
        (readLines ((text :: ls).take j) line s).2.program.code = s'.program.code.take i ∧
        (Track.command c.command c.line).run (readLines ((text :: ls).take j) line s).2.books =
          .ok () (readLines ((text :: ls).take (j + 1)) line s).2.books := by
      intro hi₁
      obtain ⟨j, hj, hpre, htrack⟩ := ih h₂ hi₁ hc
      exact ⟨j + 1, by omega, by rw [htake, hpre], by rw [htake, htake, htrack]⟩
    rcases readLine_ok h₁ with rfl | ⟨d, hd, hc₁, -, hbooks⟩
    · exact hlater hi
    · by_cases hlt : s₁.program.code.length ≤ i
      · exact hlater hlt
      · rw [hc₁, List.length_append, List.length_singleton] at hlt
        have hi₀ : i = s.program.code.length := by omega
        rw [hcode, hc₁, hi₀, List.append_assoc, List.getElem?_append_right (Nat.le_refl _)] at hc
        simp only [Nat.sub_self, List.singleton_append, List.getElem?_cons_zero,
          Option.some.injEq] at hc
        subst hc
        refine ⟨0, by rw [hd]; rfl, ?_, ?_⟩
        · rw [hcode, hc₁, hi₀, List.append_assoc, List.take_left' rfl]
          rfl
        · rw [htake]
          exact hbooks

/-! ## The whole script -/

theorem run_readScript (source : String) (s : Session) :
    (readScript source).run s =
      let read := readLines (Text.lines source.toList) 0 s.reset
      let faults := read.1 ++ unclosed read.2.books ++ undeclaredCalls read.2.program.code
      let s := { read.2 with books := { read.2.books with blocks := [] } }
      if faults.isEmpty then
        .ok () { s with
          program := s.program.markParsed
          log := s.log.push (.programParsed s.program.size) }
      else .error faults { s with log := s.log.push (.parsingFailed faults.length) } := rfl

/-- The session when the first `j` lines of a script have been read. -/
def after (source : String) (s₀ : Session) (j : Nat) : Session :=
  (readLines ((Text.lines source.toList).take j) 0 s₀.reset).2

/-- The script is accepted in a session and gives another one. -/
def Accepted (source : String) (s₀ s : Session) : Prop := (readScript source).run s₀ = .ok () s

theorem ofScript_eq (source : String) :
    Program.ofScript source = match (readScript source).run {} with
      | .ok () s => .ok s.program
      | .error faults _ => .error faults := rfl

/-- A script that gives a program is accepted. A test of the program is one of the session. -/
theorem exists_accepted (source : String) (test : Program → Bool)
    (h : (Program.ofScript source).toOption.any test = true) :
    ∃ s, Accepted source {} s ∧ test s.program = true := by
  rw [ofScript_eq] at h
  cases hread : (readScript source).run {} with
  | ok a s =>
    rw [hread] at h
    exact ⟨s, hread, h⟩
  | error faults s =>
    rw [hread] at h
    cases h

/-- No call is at fault exactly if every call names a method that some command declares. -/
theorem undeclaredCalls_eq_nil {code : List CodeLine} : undeclaredCalls code = [] ↔
    ∀ name, Command.call name ∈ code.map (·.command) →
      Command.method name ∈ code.map (·.command) := by
  have hfind : ∀ name, (findMethod? code name).isNone = true ↔
      Command.method name ∉ code.map (·.command) := by
    intro name
    rw [← isSome_findMethod?]
    simp
  unfold undeclaredCalls
  rw [List.filterMap_eq_nil_iff]
  constructor
  · intro h name hname
    obtain ⟨c, hc, hcall⟩ := List.mem_map.1 hname
    have hnone := h c hc
    rw [hcall] at hnone
    dsimp only at hnone
    refine Decidable.byContradiction fun hmethod => ?_
    rw [if_pos ((hfind name).2 hmethod)] at hnone
    cases hnone
  · intro h c hc
    split
    · rename_i name hcall
      have hmethod := h name (List.mem_map.2 ⟨c, hc, hcall⟩)
      rw [if_neg (fun hnone => (hfind name).1 hnone hmethod)]
    · rfl

/-- A script is accepted exactly if no line has an error, no block is left open, and every call names
a method that is declared. -/
theorem accepted_iff {source : String} {s₀ s : Session} : Accepted source s₀ s ↔ ∃ s₁,
    readLines (Text.lines source.toList) 0 s₀.reset = ([], s₁) ∧ s₁.books.blocks = [] ∧
      undeclaredCalls s₁.program.code = [] ∧
      s = { program := s₁.program.markParsed, books := s₁.books,
            log := s₁.log.push (.programParsed s₁.program.size) } := by
  rw [Accepted, run_readScript]
  dsimp only
  generalize readLines (Text.lines source.toList) 0 s₀.reset = read
  obtain ⟨faults, s₁⟩ := read
  have hunclosed : unclosed s₁.books = [] ↔ s₁.books.blocks = [] := by simp [unclosed]
  constructor
  · intro h
    split at h
    · rename_i hempty
      simp only [List.isEmpty_iff, List.append_eq_nil_iff, hunclosed] at hempty
      obtain ⟨⟨rfl, hblocks⟩, hcalls⟩ := hempty
      cases h
      refine ⟨s₁, rfl, hblocks, hcalls, ?_⟩
      rw [← hblocks]
    · cases h
  · rintro ⟨s₂, hread, hblocks, hcalls, rfl⟩
    cases hread
    rw [if_pos (by simp [hunclosed.2 hblocks, hcalls]), ← hblocks]

namespace Accepted

variable {source : String} {s₀ s : Session}

/-- What there is to know of a script that is accepted. -/
theorem elim (h : Accepted source s₀ s) : ∃ s₁,
    readLines (Text.lines source.toList) 0 s₀.reset = ([], s₁) ∧
      s.program = s₁.program.markParsed ∧ s₁.books.blocks = [] ∧
      undeclaredCalls s₁.program.code = [] := by
  obtain ⟨s₁, hread, hblocks, hcalls, rfl⟩ := accepted_iff.1 h
  exact ⟨s₁, hread, rfl, hblocks, hcalls⟩

theorem parsed_eq_true (h : Accepted source s₀ s) : s.program.parsed = true := by
  obtain ⟨s₁, -, hprogram, -⟩ := h.elim
  rw [hprogram]
  rfl

/-- The code of the script is that of a tree. -/
theorem exists_tree (h : Accepted source s₀ s) :
    ∃ t, Nested s.program.code t ∧ t.Apart ∧ t.methodNames.Nodup := by
  obtain ⟨s₁, hread, hprogram, hblocks, -⟩ := h.elim
  obtain ⟨added, hcode, -, htrack⟩ := readLines_nil _ hread
  have hcode' : s.program.code = added := by rw [hprogram]; exact hcode
  rw [hcode']
  exact Track.exists_tree_of_commands htrack hblocks

/-- The variables are those that the commands announce. -/
theorem prepared (h : Accepted source s₀ s) :
    (Prepare.commands s.program.code).run .empty = .ok () s.program.store := by
  obtain ⟨s₁, hread, hprogram, -, -⟩ := h.elim
  obtain ⟨added, hcode, hprepare, -⟩ := readLines_nil _ hread
  have hcode' : s.program.code = added := by rw [hprogram]; exact hcode
  rw [hcode', hprogram]
  exact hprepare

/-- Every call names a method that is declared. -/
theorem call_declared (h : Accepted source s₀ s) {p : Nat} {name : String}
    (hp : commandAt s.program.code p = some (.call name)) :
    (findMethod? s.program.code name).isSome := by
  obtain ⟨s₁, -, hprogram, -, hcalls⟩ := h.elim
  have hcode : s.program.code = s₁.program.code := by rw [hprogram]; rfl
  rw [hcode] at hp ⊢
  obtain ⟨l, hl, hcall⟩ := commandAt_eq_some.1 hp
  rw [isSome_findMethod?]
  exact undeclaredCalls_eq_nil.1 hcalls name (List.mem_map.2 ⟨l, List.mem_of_getElem? hl, hcall⟩)

/-- The books of the session keep pace with its code. -/
theorem track_after (h : Accepted source s₀ s) (j : Nat) :
    (Track.commands (after source s₀ j).program.code).run {} = .ok () (after source s₀ j).books := by
  obtain ⟨s₁, hread, -, -, -⟩ := h.elim
  obtain ⟨added, hcode, -, htrack⟩ := readLines_nil _ (Prod.ext (readLines_take _ hread j) rfl)
  have hcode' : (after source s₀ j).program.code = added := hcode
  rw [hcode']
  exact htrack

/-- The session just before the line of a command holds the commands before it, and the line keeps
the books for the command. -/
theorem after_line (h : Accepted source s₀ s) {i : Nat} {c : CodeLine}
    (hc : s.program.code[i]? = some c) :
    (after source s₀ c.line).program.code = s.program.code.take i ∧
      (Track.command c.command c.line).run (after source s₀ c.line).books =
        .ok () (after source s₀ (c.line + 1)).books := by
  obtain ⟨s₁, hread, hprogram, -, -⟩ := h.elim
  have hcode : s.program.code = s₁.program.code := by rw [hprogram]; rfl
  rw [hcode] at hc ⊢
  obtain ⟨j, hj, hpre, htrack⟩ := readLines_line _ hread (Nat.zero_le i) hc
  rw [Nat.zero_add] at hj
  rw [hj] at htrack ⊢
  exact ⟨hpre, htrack⟩

end Accepted

end Session

end PenScript
