import Mathlib.Logic.Function.Iterate
import PenScript.Proofs.Rejected
import PenScript.Proofs.Steps

/-!
# What came before makes no difference

* `Session.withPast log s` : the session with earlier entries in its log;
* `Session.readScript_withPast` : reading a script does not look at the log;
* `Session.readScript_eq` : nor at anything else in the session but the limit;
* `Session.Action` lists what can be done with a session, `Session.afterAll h s` is the session when
  a history has been done;
* `Session.limit_afterAll` : only an action that sets the limit changes it;
* `Program.run_congr`, `Program.run_rerun` : a run depends on the code and the limit only;
* `Session.historyIndependent` : the main result.
-/

namespace PenScript

open Attempt (Commutes final mapFinal)

namespace Session

/-! ## The log is written and not read -/

/-- The session with earlier entries in its log. -/
def withPast (log : Array Event) (s : Session) : Session := { s with log := log ++ s.log }

theorem lift_commutes {ε α : Type} (log : Array Event) (f : ε → ScriptError) (r : Except ε α) :
    Commutes (withPast log) (lift f r) := by
  cases r with
  | ok a => exact .pure _ a
  | error e => exact .throw _ _

theorem prepare_commutes (log : Array Event) (c : Command) :
    Commutes (withPast log) (prepare c) := by
  intro s
  have hstore : (withPast log s).program.store = s.program.store := rfl
  rw [run_prepare, run_prepare, hstore]
  cases c.prepare.run s.program.store <;> rfl

theorem track_commutes (log : Array Event) (c : Command) (line : Nat) :
    Commutes (withPast log) (track c line) := by
  intro s
  have hbooks : (withPast log s).books = s.books := rfl
  rw [run_track, run_track, hbooks]
  cases (Track.command c line).run s.books <;> rfl

theorem run_push (c : CodeLine) (s : Session) : (push c).run s = .ok s.program.size
    { s with program := s.program.push c, log := s.log.push (.parsed c.line c.text) } := rfl

theorem push_commutes (log : Array Event) (c : CodeLine) : Commutes (withPast log) (push c) := by
  intro s
  have hlog : (log ++ s.log).push (.parsed c.line c.text) =
      log ++ s.log.push (.parsed c.line c.text) := Array.append_push.symm
  rw [run_push, run_push]
  unfold withPast
  simp only [mapFinal, hlog]

theorem readLine_commutes (log : Array Event) (text : String) (line : Nat) :
    Commutes (withPast log) (readLine text line) := by
  unfold readLine
  split
  · exact .pure _ _
  · refine .get_bind (fun s => ?_) fun s => rfl
    refine .bind (lift_commutes log _ _) fun r => .bind (lift_commutes log _ _) fun c => ?_
    exact .bind (prepare_commutes log c) fun _ => .bind (track_commutes log c line) fun _ =>
      .bind (push_commutes log _) fun _ => .pure _ _

theorem readLines_withPast (log : Array Event) (ls : List (List Char)) : ∀ (line : Nat) (s : Session),
    readLines ls line (withPast log s) =
      ((readLines ls line s).1, withPast log (readLines ls line s).2) := by
  induction ls with
  | nil =>
    intro line s
    rfl
  | cons text ls ih =>
    intro line s
    have hline := readLine_commutes log (String.ofList text) line s
    rw [readLines_cons, readLines_cons, hline]
    cases (readLine (String.ofList text) line).run s with
    | ok r s₁ => exact ih (line + 1) s₁
    | error e s₁ =>
      unfold mapFinal
      dsimp only
      rw [ih]

theorem readScript_withPast (log : Array Event) (source : String) :
    Commutes (withPast log) (readScript source) := by
  intro s
  have hreset : (withPast log s).reset = withPast log s.reset := rfl
  rw [run_readScript, run_readScript, hreset, readLines_withPast]
  generalize readLines (Text.lines source.toList) 0 s.reset = read
  have hpush : ∀ e, (log ++ read.2.log).push e = log ++ read.2.log.push e :=
    fun e => Array.append_push.symm
  unfold withPast
  dsimp only
  split <;> simp only [mapFinal, hpush]

/-! ## Reading a script starts afresh -/

/-- A session in which nothing has been done but to set the limit. -/
def fresh (limit : Nat) : Session := { program := { limit := limit } }

/-- Of the session in which a script is read, only the limit matters. -/
theorem readScript_eq (source : String) (s : Session) : (readScript source).run s =
    mapFinal (withPast s.log) ((readScript source).run (fresh s.program.limit)) := by
  have hreset : s.reset = withPast s.log (fresh s.program.limit).reset := by
    unfold withPast
    rw [show (fresh s.program.limit).reset.log = #[] from rfl, Array.append_empty]
    rfl
  have hagain : (withPast s.log (fresh s.program.limit)).reset = s.reset := hreset.symm
  rw [← readScript_withPast, run_readScript, run_readScript, hagain]

/-! ## Histories -/

/-- What can be done with a session. -/
inductive Action where
  | readLine (text : String) (line : Nat)
  | readScript (source : String)
  | push (c : CodeLine)
  | announce (c : Command)
  | update (u : Store.Update Unit)
  | jump (target : Nat)
  | advance
  | markParsed
  | reset
  | setLimit (limit : Nat)
  | run

/-- The session behind an action, whether it succeeds or fails. -/
def Action.perform (a : Action) (s : Session) : Session :=
  match a with
  | readLine text line => final ((Session.readLine text line).run s)
  | readScript source => final ((Session.readScript source).run s)
  | push c => { s with program := s.program.push c }
  | announce c => final ((prepare c).run s)
  | update u => { s with program := s.program.setStore (final (u.run s.program.store)) }
  | jump target => { s with program := s.program.jump target }
  | advance => { s with program := s.program.advance }
  | markParsed => { s with program := s.program.markParsed }
  | reset => { s with program := s.program.reset }
  | setLimit limit => { s with program := s.program.setLimit limit }
  | run => { s with program := s.program.run.program }

/-- The session behind a history. -/
def afterAll (history : List Action) (s : Session) : Session :=
  history.foldl (fun s a => a.perform s) s

/-- The limit behind an action. -/
def Action.limit (limit : Nat) : Action → Nat
  | setLimit limit' => limit'
  | _ => limit

theorem limit_prepare (c : Command) (s : Session) :
    (final ((prepare c).run s)).program.limit = s.program.limit := by
  rw [run_prepare]
  cases c.prepare.run s.program.store <;> rfl

theorem limit_readLine (text : String) (line : Nat) (s : Session) :
    (final ((readLine text line).run s)).program.limit = s.program.limit := by
  cases h : (readLine text line).run s with
  | ok r s' =>
    rcases readLine_eq_ok.1 h with ⟨-, -, rfl⟩ | ⟨l, req, c, store, books, -, -, -, -, -, -, rfl⟩
    · rfl
    · rfl
  | error e s' =>
    have hs : s' = s := readLine_atomic _ _ _ _ _ h
    rw [hs, final]

/-- A property of sessions that every line keeps, whether it is read or rejected, is kept by the lines
of a script. -/
theorem readLines_induct {P : Session → Prop}
    (hline : ∀ (text : String) (line : Nat) {s : Session}, P s →
      P (final ((readLine text line).run s)))
    (ls : List (List Char)) (line : Nat) {s : Session} (h : P s) : P (readLines ls line s).2 := by
  induction ls generalizing line s with
  | nil => exact h
  | cons text ls ih =>
    have hfirst := hline (String.ofList text) line h
    rw [readLines_cons]
    cases hread : (readLine (String.ofList text) line).run s with
    | ok r s₁ =>
      rw [hread] at hfirst
      exact ih (line + 1) hfirst
    | error e s₁ =>
      rw [hread] at hfirst
      exact ih (line + 1) hfirst

theorem limit_readLines (ls : List (List Char)) (line : Nat) (s : Session) :
    (readLines ls line s).2.program.limit = s.program.limit :=
  readLines_induct (P := fun s' => s'.program.limit = s.program.limit)
    (fun text line s' h => (limit_readLine text line s').trans h) ls line rfl

theorem limit_readScript (source : String) (s : Session) :
    (final ((readScript source).run s)).program.limit = s.program.limit := by
  have hread := limit_readLines (Text.lines source.toList) 0 s.reset
  rw [run_readScript]
  dsimp only
  split <;> exact hread

/-- The step: only an action that sets the limit changes it. -/
theorem limit_perform (a : Action) (s : Session) :
    (a.perform s).program.limit = a.limit s.program.limit := by
  cases a with
  | readLine text line => exact limit_readLine text line s
  | readScript source => exact limit_readScript source s
  | announce c => exact limit_prepare c s
  | run =>
    show s.program.run.program.limit = s.program.limit
    unfold Program.run
    split
    · split <;> rfl
    · rfl
  | _ => rfl

/-- The run: the limit is the one that was set last. -/
theorem limit_afterAll (history : List Action) (s : Session) :
    (afterAll history s).program.limit = history.foldl Action.limit s.program.limit := by
  induction history generalizing s with
  | nil => rfl
  | cons a history ih =>
    have hrest := ih (a.perform s)
    rw [limit_perform] at hrest
    exact hrest

end Session

/-! ## Runs -/

namespace Program

/-- A run does not depend on the state that an earlier one left. -/
theorem run_stoppedAt {p : Program} (hp : p.parsed = true) (m : Machine) :
    (p.stoppedAt m).run = p.run := by
  have hp' : (p.stoppedAt m).parsed = true := hp
  cases h : Machine.run p.code p.limit p.limit {} with
  | ok n m₁ =>
    rw [run_of_ok hp h, run_of_ok hp' h]
    rfl
  | error e m₁ =>
    rw [run_of_error hp h, run_of_error hp' h]
    rfl

/-- A run depends on the code and the limit. -/
theorem run_congr {p q : Program} (hp : p.parsed = true) (hq : q.parsed = true)
    (hcode : q.code = p.code) (hlimit : q.limit = p.limit) : q.run = p.run := by
  have hstopped : q = p.stoppedAt q.machine := by
    unfold stoppedAt
    rw [← hcode, ← hlimit, hp, ← hq]
  rw [hstopped]
  exact run_stoppedAt hp q.machine

/-- A run leaves the program with its code, and as ready to run. -/
theorem run_program (p : Program) : ∃ m, p.run.program = p.stoppedAt m := by
  unfold run
  split
  · split
    · exact ⟨_, rfl⟩
    · exact ⟨_, rfl⟩
  · exact ⟨p.machine, rfl⟩

/-- Runs one after the other, each from where the last one stopped, are the same. -/
theorem run_rerun {p : Program} (hp : p.parsed = true) (n : Nat) :
    ((fun q => q.run.program)^[n] p).run = p.run := by
  induction n generalizing p with
  | zero => rfl
  | succ n ih =>
    obtain ⟨m, hm⟩ := p.run_program
    have hparsed : (p.stoppedAt m).parsed = true := hp
    rw [Function.iterate_succ_apply, hm, ih hparsed, run_stoppedAt hp]

end Program

/-- Reading a script gives what it gives in a fresh session with the limit that was set last, and
runs depend on nothing but the code and the limit. -/
theorem Session.historyIndependent (history : List Action) (s₀ : Session) :
    (∀ source, (readScript source).run (afterAll history s₀) =
      match (readScript source).run (fresh (history.foldl Action.limit s₀.program.limit)) with
      | .ok () s => .ok () { s with log := (afterAll history s₀).log ++ s.log }
      | .error faults s => .error faults { s with log := (afterAll history s₀).log ++ s.log }) ∧
    ((afterAll history s₀).program.parsed = true →
      (∀ q : Program, q.parsed = true → q.code = (afterAll history s₀).program.code →
        q.limit = (afterAll history s₀).program.limit → q.run = (afterAll history s₀).program.run) ∧
      ∀ n, ((fun q => q.run.program)^[n] (afterAll history s₀).program).run =
        (afterAll history s₀).program.run) := by
  refine ⟨fun source => ?_, fun hp => ⟨fun q hq hcode hlimit => ?_, Program.run_rerun hp⟩⟩
  · rw [readScript_eq, limit_afterAll]
    cases (readScript source).run (fresh (history.foldl Action.limit s₀.program.limit)) <;> rfl
  · exact Program.run_congr hp hq hcode hlimit

/-- A run fails in a loop of a method, and a block is opened behind that. -/
def Session.stoppedInside : List Session.Action :=
  [.setLimit 40,
    .readScript "method m\nfor i = 1 to 3\nfill on\ncircle i - 2\nend for\nend method\ncall m",
    .run, .readLine "if true" 7]

theorem Session.historyIndependent_stoppedInside : ∃ s, s = afterAll stoppedInside {} ∧
    (s.program.running = [1] ∧ s.program.machine.calls = [6] ∧ s.program.machine.fill = true ∧
      s.program.pc = 3 ∧ s.books.blocks.length = 1 ∧ s.program.parsed = true) ∧
    ((readScript "clear").run s = match (readScript "clear").run (fresh 40) with
      | .ok () t => .ok () { t with log := s.log ++ t.log }
      | .error faults t => .error faults { t with log := s.log ++ t.log }) ∧
    (s.program.stoppedAt {}).run = s.program.run ∧ s.program.run.program.run = s.program.run := by
  obtain ⟨hread, hruns⟩ := historyIndependent stoppedInside {}
  have hlimit : stoppedInside.foldl Action.limit ({} : Session).program.limit = 40 := rfl
  have hstopped : (afterAll stoppedInside {}).program.running = [1] ∧
      (afterAll stoppedInside {}).program.machine.calls = [6] ∧
      (afterAll stoppedInside {}).program.machine.fill = true ∧
      (afterAll stoppedInside {}).program.pc = 3 ∧
      (afterAll stoppedInside {}).books.blocks.length = 1 ∧
      (afterAll stoppedInside {}).program.parsed = true := by decide +kernel
  rw [hlimit] at hread
  generalize afterAll stoppedInside {} = s at hread hruns hstopped
  obtain ⟨hother, hagain⟩ := hruns hstopped.2.2.2.2.2
  have hparsed : (s.program.stoppedAt {}).parsed = true := hstopped.2.2.2.2.2
  exact ⟨s, rfl, hstopped, hread "clear", hother _ hparsed rfl rfl, hagain 1⟩

end PenScript
