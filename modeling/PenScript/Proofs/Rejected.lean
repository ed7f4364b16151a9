import PenScript.Proofs.Accepted
import PenScript.Proofs.Operations
import PenScript.Proofs.StoreTypes

/-!
# A line that is rejected leaves no trace

* `Command.prepare_atomic` : a command that cannot be announced leaves the store as it was;
* `Track.command_atomic` : a command that does not fit the open blocks leaves the books as they
  were;
* `Track.prepare_eq_pure` : such a command announces nothing, so that there is nothing to take back;
* `Session.readLine_atomic` : a line that is rejected leaves the session as it was;
* `Session.Blanks source blanked i bad` : one script is the other with line `i` made blank;
* `Session.rejected_traceless` : the main result.
-/

namespace PenScript

open Attempt (Reads Atomic)

/-! ## Announcing a command -/

theorem Command.prepare_atomic (c : Command) : Atomic c.prepare := by
  have hdeclare : ∀ name v, Atomic (Prepare.update (Store.declare name v)) :=
    fun name v => Prepare.atomic_update (Store.declare_atomic name v)
  cases c with
  | declare d =>
    show Atomic d.prepare
    unfold Declaration.prepare
    split
    · exact (Reads.bind (Prepare.asks_ask _).reads fun _ => .pure _).atomic
    · exact hdeclare _ _
  | array d => exact hdeclare _ _
  | peek p =>
    refine .bind (Prepare.asks_ask _).reads fun elem => .bind .get fun s => ?_
    cases s.get? p.dest with
    | some old => exact (Reads.bind (Prepare.asks_ask _).reads fun _ => .pure _).atomic
    | none => exact hdeclare _ _
  | poke p => exact (Reads.bind (Prepare.asks_ask _).reads fun _ => .pure _).atomic
  | countTo l =>
    refine .bind .get fun s => ?_
    split
    · exact (Reads.pure _).atomic
    · exact (Reads.pure _).atomic
    · exact (Reads.throw _).atomic
    · exact hdeclare _ _
  | _ => exact (Reads.pure _).atomic

/-! ## Keeping the books -/

namespace Track

theorem start_atomic (o : Opening) (line : Nat) : Atomic (start o.kind o.command line) := by
  intro b e b' h
  cases o with
  | method name =>
    rw [Opening.kind, Opening.command, start_method] at h
    split at h
    · cases h
      rfl
    split at h
    · cases h
      rfl
    · cases h
  | ifThen g | whileDo g | countTo l =>
    rw [start_of_not_method (by simp [Opening.command])] at h
    cases h

theorem middle_atomic (k : Block.Kind) : Atomic (middle k) := by
  intro b e b' h
  cases hb : b.blocks with
  | nil =>
    rw [middle, Attempt.run_bind_ok (EStateM.run_get b), hb] at h
    cases h
    rfl
  | cons block rest =>
    rw [middle_of_cons hb] at h
    split at h
    · cases h
      rfl
    split at h
    · cases h
      rfl
    · cases h

theorem stop_atomic (k : Block.Kind) : Atomic (stop k) := by
  intro b e b' h
  cases hb : b.blocks with
  | nil =>
    rw [stop, Attempt.run_bind_ok (EStateM.run_get b), hb] at h
    cases h
    rfl
  | cons block rest =>
    rw [stop_of_cons hb] at h
    split at h
    · cases h
      rfl
    · cases h

theorem command_atomic (c : Command) (line : Nat) : Atomic (command c line) := by
  unfold command
  split
  · exact (Reads.pure _).atomic
  · rename_i k hm
    obtain ⟨o, rfl, rfl⟩ := Opening.exists_of_marker? hm
    exact start_atomic o line
  · exact middle_atomic _
  · exact stop_atomic _

/-- A command that does not fit the open blocks is one that announces nothing. -/
theorem prepare_eq_pure {c : Command} {line : Nat} {b b' : Bookkeeping} {e : ScriptError}
    (h : (command c line).run b = .error e b') : c.prepare = pure () := by
  cases c with
  | declare d => cases h
  | array d => cases h
  | peek p => cases h
  | poke p => cases h
  | countTo l => cases h
  | _ => rfl

end Track

/-! ## Reading a line -/

namespace Session

variable {s s' : Session} {line : Nat} {e : ScriptError}

theorem lift_reads {ε α : Type} (f : ε → ScriptError) (r : Except ε α) : Reads (lift f r) := by
  cases r with
  | ok a => exact .pure a
  | error e => exact .throw _

/-- A command that cannot be announced, or does not fit the open blocks, is not added, and leaves
the session as it was. -/
theorem enlist_atomic (c : CodeLine) : Atomic (do
    prepare c.command
    track c.command c.line
    return some (← push c)) := by
  intro s e s' h
  rcases Attempt.run_bind_eq_error.1 h with hprepare | ⟨⟨⟩, s₁, hprepare, hrest⟩
  · rw [run_prepare] at hprepare
    split at hprepare
    · cases hprepare
    · rename_i store hrun
      cases hprepare
      rw [c.command.prepare_atomic _ _ _ hrun]
      rfl
  rcases Attempt.run_bind_eq_error.1 hrest with htrack | ⟨⟨⟩, s₂, -, hpush⟩
  · rw [run_track] at htrack
    split at htrack
    · cases htrack
    · rename_i books hrun
      cases htrack
      -- the store is as before, for such a command announces nothing
      rw [run_prepare, Track.prepare_eq_pure hrun] at hprepare
      cases hprepare
      rw [Track.command_atomic _ _ _ _ _ hrun]
      rfl
  · cases hpush

theorem readLine_atomic (text : String) (line : Nat) : Atomic (readLine text line) := by
  unfold readLine
  split
  · exact (Reads.pure _).atomic
  · rename_i l hl
    exact .bind .get fun s => .bind (lift_reads _ _) fun r => .bind (lift_reads _ _) fun c =>
      enlist_atomic ⟨c, line, r.text⟩

/-! ## Reading all lines -/

theorem readLines_append (before after : List (List Char)) : ∀ (line : Nat) (s : Session),
    readLines (before ++ after) line s =
      ((readLines before line s).1 ++
          (readLines after (line + before.length) (readLines before line s).2).1,
        (readLines after (line + before.length) (readLines before line s).2).2) := by
  induction before with
  | nil =>
    intro line s
    rfl
  | cons text before ih =>
    intro line s
    rw [List.cons_append, readLines_cons, readLines_cons, List.length_cons,
      show line + (before.length + 1) = line + 1 + before.length by omega]
    split
    · exact ih _ _
    · rw [ih]
      rfl

theorem readLines_blank {blank : List Char} (h : ScriptLine.read? (String.ofList blank) line = none)
    (rest : List (List Char)) (s : Session) :
    readLines (blank :: rest) line s = readLines rest (line + 1) s := by
  have hrun : (readLine (String.ofList blank) line).run s = .ok none s := by
    rw [readLine, h]
    rfl
  rw [readLines_cons, hrun]

theorem readLines_rejected {bad : List Char}
    (h : (readLine (String.ofList bad) line).run s = .error e s') (rest : List (List Char)) :
    readLines (bad :: rest) line s =
      (⟨line, e⟩ :: (readLines rest (line + 1) s).1, (readLines rest (line + 1) s).2) := by
  rw [readLines_cons, h]
  dsimp only
  rw [readLine_atomic _ _ _ _ _ h]

/-- One script is the other with line `i`, which reads `bad`, made blank. -/
def Blanks (source blanked : String) (i : Nat) (bad : List Char) : Prop :=
  ∃ before blank rest, before.length = i ∧ Text.lines source.toList = before ++ bad :: rest ∧
    Text.lines blanked.toList = before ++ blank :: rest ∧
    ScriptLine.read? (String.ofList blank) i = none

/-- The faults that are reported for a script. -/
def faults (source : String) (s₀ : Session) : List ScriptFault :=
  match (readScript source).run s₀ with
  | .ok _ _ => []
  | .error faults _ => faults

theorem faults_eq (source : String) (s₀ : Session) :
    faults source s₀ = (readLines (Text.lines source.toList) 0 s₀.reset).1 ++
      unclosed (readLines (Text.lines source.toList) 0 s₀.reset).2.books ++
      undeclaredCalls (readLines (Text.lines source.toList) 0 s₀.reset).2.program.code := by
  rw [faults, run_readScript]
  dsimp only
  by_cases hempty : ((readLines (Text.lines source.toList) 0 s₀.reset).1 ++
      unclosed (readLines (Text.lines source.toList) 0 s₀.reset).2.books ++
      undeclaredCalls (readLines (Text.lines source.toList) 0 s₀.reset).2.program.code).isEmpty
  · rw [if_pos hempty]
    exact (List.isEmpty_iff.1 hempty).symm
  · rw [if_neg hempty]

/-- A rejected line between others adds its fault, and that is all it does. -/
theorem readLines_append_rejected {before : List (List Char)} {bad : List Char}
    (h : (readLine (String.ofList bad) (line + before.length)).run (readLines before line s).2 =
      .error e s') (rest : List (List Char)) :
    let read := readLines before line s
    let later := readLines rest (line + before.length + 1) read.2
    readLines (before ++ bad :: rest) line s =
      (read.1 ++ ⟨line + before.length, e⟩ :: later.1, later.2) := by
  rw [readLines_append, readLines_rejected h]

theorem readLines_append_blank {before : List (List Char)} {blank : List Char}
    (h : ScriptLine.read? (String.ofList blank) (line + before.length) = none)
    (rest : List (List Char)) :
    let read := readLines before line s
    let later := readLines rest (line + before.length + 1) read.2
    readLines (before ++ blank :: rest) line s = (read.1 ++ later.1, later.2) := by
  rw [readLines_append, readLines_blank h]

/-- A rejected line leaves the session as it was. In a script it is worth a blank line: the session
is the same after every number of lines, and its own fault is all that is reported more. -/
theorem rejected_traceless :
    (∀ {text : String} {line : Nat} {s s' : Session} {e : ScriptError},
      (readLine text line).run s = .error e s' → s' = s) ∧
    ∀ {source blanked : String} {i : Nat} {bad : List Char} {s₀ s' : Session} {e : ScriptError},
      Blanks source blanked i bad →
      (readLine (String.ofList bad) i).run (after source s₀ i) = .error e s' →
      (∀ j, after source s₀ j = after blanked s₀ j) ∧
      ∃ earlier later, faults source s₀ = earlier ++ ⟨i, e⟩ :: later ∧
        faults blanked s₀ = earlier ++ later := by
  refine ⟨fun h => readLine_atomic _ _ _ _ _ h, ?_⟩
  rintro source blanked _ bad s₀ s' e ⟨before, blank, rest, rfl, hsource, hblanked, hblank⟩ hbad
  have hafter : after source s₀ before.length = (readLines before 0 s₀.reset).2 := by
    rw [after, hsource, List.take_left' rfl]
  rw [hafter, ← Nat.zero_add before.length] at hbad
  rw [← Nat.zero_add before.length] at hblank
  have hrejected := readLines_append_rejected hbad
  have hblank' := fun rest => readLines_append_blank (s := s₀.reset) hblank rest
  constructor
  · intro j
    rw [after, after, hsource, hblanked]
    rcases Nat.lt_or_ge before.length j with hj | hj
    · -- behind the line
      obtain ⟨k, rfl⟩ := Nat.exists_eq_add_of_lt hj
      rw [Nat.add_assoc, List.take_length_add_append, List.take_length_add_append,
        List.take_succ_cons, List.take_succ_cons, hrejected, hblank']
    · rw [List.take_append_of_le_length hj, List.take_append_of_le_length hj]
  · rw [faults_eq, faults_eq, hsource, hblanked, hrejected, hblank', Nat.zero_add]
    exact ⟨_, _, by simp only [List.append_assoc, List.cons_append]; rfl,
      by simp only [List.append_assoc]⟩

/-- A loop in a branch, and an end of the branch that comes too early. -/
def crossing : String := "if true\nfor x = 1 to 2\nend if\nend for\nend if"

theorem rejected_traceless_crossing :
    let blanked := "if true\nfor x = 1 to 2\n\nend for\nend if"
    Blanks crossing blanked 2 "end if".toList ∧
    ∃ e s', (readLine "end if" 2).run (after crossing {} 2) = .error e s' ∧
      s' = after crossing {} 2 ∧ (∀ j, after crossing {} j = after blanked {} j) ∧
      ∃ earlier later, faults crossing {} = earlier ++ ⟨2, e⟩ :: later ∧
        faults blanked {} = earlier ++ later := by
  intro blanked
  have hblanks : Blanks crossing blanked 2 "end if".toList :=
    ⟨["if true".toList, "for x = 1 to 2".toList], [], ["end for".toList, "end if".toList], rfl,
      by decide +kernel, by decide +kernel, by decide +kernel⟩
  have hrejected : ((readLine "end if" 2).run (after crossing {} 2) matches .error _ _) = true := by
    decide +kernel
  cases hread : (readLine "end if" 2).run (after crossing {} 2) with
  | ok r s' => simp [hread] at hrejected
  | error e s' =>
    exact ⟨hblanks, e, s', rfl, rejected_traceless.1 hread, rejected_traceless.2 hblanks hread⟩

end Session

end PenScript
