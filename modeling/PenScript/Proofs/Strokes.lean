import PenScript.Proofs.Counter

/-!
# The drawing of a run

* `Turn` is a command that was executed, with the variables that it met and the stroke that it made;
* `filling cs` : what the last command for filling among `cs` has turned it to;
* `Machine.Recorded code turns m` : a run from the blank machine gets to `m` in these turns;
* `Recorded.fill_eq`, `Recorded.strokes_eq` : the fill flag and the drawing, in terms of the turns;
* `Recorded.faithful` : every turn makes what its command makes of the values of its arguments then;
* `Program.Drawn p turns m`, `Program.faithfulDrawing` : the main result.
-/

namespace PenScript

/-- A command that was executed, with the variables that it met and the stroke that it made. -/
structure Turn where
  command : Command
  store : Store
  made : Option Stroke

/-- What the last command for filling has turned it to; it is off at first. -/
def filling (cs : List Command) : Bool := (cs.filterMap Command.fills?).getLast?.getD false

theorem filling_concat (cs : List Command) (c : Command) :
    filling (cs ++ [c]) = c.fills?.getD (filling cs) := by
  unfold filling
  cases h : c.fills? with
  | none => simp [List.filterMap_append, h]
  | some on => simp [List.filterMap_append, h]

namespace Machine

/-- Commands that succeed one after the other, from the blank machine on. -/
inductive Recorded (code : List CodeLine) : List Turn → Machine → Prop
  | blank : Recorded code [] {}
  | turn {turns : List Turn} {m m' : Machine} {l : CodeLine} {made : Option Stroke}
      (h : Recorded code turns m) (hl : code[m.pc]? = some l) (hstep : step code l m = .ok () m')
      (hmade : m'.strokes.toList = m.strokes.toList ++ made.toList) :
      Recorded code (turns ++ [⟨l.command, m.store, made⟩]) m'

variable {code : List CodeLine} {turns : List Turn} {m m' : Machine} {n : Nat}

/-- A command succeeds after those that have been recorded. -/
theorem Recorded.exists_turn (h : Recorded code turns m) (hs : Step code m m') :
    ∃ t, Recorded code (turns ++ [t]) m' := by
  obtain ⟨l, hl, hstep⟩ := hs
  obtain ⟨made, -, hmade, -⟩ := makes_of_step hstep
  exact ⟨_, h.turn hl hstep hmade⟩

theorem exists_recorded (h : Steps (Step code) n {} m) :
    ∃ turns, turns.length = n ∧ Recorded code turns m := by
  induction n generalizing m with
  | zero =>
    rw [Steps.zero_iff.1 h]
    exact ⟨[], rfl, .blank⟩
  | succ n ih =>
    obtain ⟨m₁, hm₁, hlast⟩ := h.exists_last
    obtain ⟨turns, rfl, hturns⟩ := ih hm₁
    obtain ⟨t, ht⟩ := hturns.exists_turn hlast
    exact ⟨turns ++ [t], by simp, ht⟩

/-- The fill flag is what the last command for filling has turned it to. -/
theorem Recorded.fill_eq (h : Recorded code turns m) :
    m.fill = filling (turns.map Turn.command) := by
  induction h with
  | blank => rfl
  | turn _ _ hstep _ ih =>
    obtain ⟨-, -, -, hfill⟩ := makes_of_step hstep
    rw [List.map_append, List.map_singleton, filling_concat, ← ih, hfill]

/-- The drawing holds what the turns have made, in order. -/
theorem Recorded.strokes_eq (h : Recorded code turns m) :
    m.strokes.toList = turns.filterMap Turn.made := by
  induction h with
  | blank => rfl
  | @turn turns m m' l made _ _ _ hmade ih =>
    rw [hmade, ih, List.filterMap_append]
    cases made <;> rfl

/-- What a step adds to the drawing is what its command makes. -/
theorem makes_of_strokes_eq {l : CodeLine} {made : Option Stroke} (h : step code l m = .ok () m')
    (hmade : m'.strokes.toList = m.strokes.toList ++ made.toList) :
    l.command.Makes m.store m.fill made := by
  obtain ⟨made', hmakes, hmade', -⟩ := makes_of_step h
  have hsame : made'.toList = made.toList := List.append_cancel_left (hmade'.symm.trans hmade)
  have : made' = made := by
    cases made <;> cases made' <;> simp_all
  rwa [← this]

/-- Every turn makes what its command makes of the values that its arguments have then, filled if
the last command for filling before it has turned that on. -/
theorem Recorded.faithful (h : Recorded code turns m) {before after : List Turn} {t : Turn}
    (ht : turns = before ++ t :: after) :
    t.command.Makes t.store (filling (before.map Turn.command)) t.made := by
  induction h generalizing after with
  | blank => simp at ht
  | @turn turns m m' l made hturns hl hstep hmade ih =>
    rcases List.eq_nil_or_concat' after with rfl | ⟨after, last, rfl⟩
    · -- It is the last turn, and what was before it has set the flag.
      obtain ⟨rfl, hlast⟩ := List.append_inj' ht rfl
      cases hlast
      rw [← hturns.fill_eq]
      exact makes_of_strokes_eq hstep hmade
    · rw [← List.cons_append, ← List.append_assoc] at ht
      exact ih (List.append_inj' ht rfl).1

end Machine

namespace Program

variable {p : Program} {n : Nat} {m : Machine}

/-- The run stops after `n` commands have succeeded, at the machine `m`. If it stops because of a
command that fails, then this is the next one. -/
def StopsAfter (p : Program) (n : Nat) (m : Machine) : Prop :=
  match p.run.result with
  | .ok steps => n = steps ∧ p.run.program.machine = m
  | .error .notParsed => n = 0
  | .error (.limitExceeded limit _) => n = limit ∧ p.run.program.machine = m
  | .error (.failed pos line cause) => m.pc = pos ∧ ∃ c, p.code[pos]? = some c ∧ c.line = line ∧
      Machine.step p.code c m = .error cause p.run.program.machine

/-- What a program has drawn when its run stops. -/
structure Drawn (p : Program) (turns : List Turn) (m : Machine) : Prop where
  /-- The turns are the commands that have succeeded, each of which has made at most one stroke. -/
  recorded : Machine.Recorded p.code turns m
  /-- No other command has been executed, but for the one that failed. -/
  stops : p.StopsAfter turns.length m
  /-- The drawing holds what the turns have made, and nothing of a command that failed. -/
  strokes : p.run.strokes = turns.filterMap Turn.made
  /-- A turn has made what its command makes of the values that its arguments had then, filled if
  the last command for filling before it has turned that on. -/
  faithful : ∀ before t after, turns = before ++ t :: after →
    t.command.Makes t.store (filling (before.map Turn.command)) t.made

/-- Where a run stops, and what it has drawn until then. -/
theorem exists_stopsAfter (p : Program) :
    ∃ n m, p.StopsAfter n m ∧ Steps (Machine.Step p.code) n {} m ∧
      p.run.strokes = m.strokes.toList := by
  unfold StopsAfter
  cases hresult : p.run.result with
  | ok steps =>
    have hp : p.parsed = true := parsed_of_result hresult (by simp)
    obtain ⟨-, hs, -⟩ := (run_eq_ok hp).1 ⟨hresult, rfl⟩
    exact ⟨steps, _, ⟨rfl, rfl⟩, hs, run_strokes hp⟩
  | error e =>
    cases e with
    | notParsed =>
      have hp := run_eq_notParsed_iff.1 hresult
      exact ⟨0, {}, rfl, .refl _, congrArg Run.strokes (run_of_not_parsed hp)⟩
    | limitExceeded limit pos =>
      have hp : p.parsed = true := parsed_of_result hresult (by simp)
      have hrun := (run_eq_error_iff hp).1 ⟨hresult, rfl⟩
      obtain ⟨rfl, hs, -⟩ := Machine.run_eq_limitExceeded.1 hrun
      exact ⟨p.limit, _, ⟨rfl, rfl⟩, hs, run_strokes hp⟩
    | failed pos line cause =>
      have hp : p.parsed = true := parsed_of_result hresult (by simp)
      obtain ⟨m, c, ⟨n, hs⟩, hc, rfl, rfl, hstep⟩ := run_failed hp hresult
      refine ⟨n, m, ⟨rfl, c, hc, rfl, hstep⟩, hs, ?_⟩
      rw [run_strokes hp, (Machine.canvas_of_step_error hstep).1]

/-- The drawing of a run holds the strokes of the commands that have succeeded, in order, each made
of the values that its arguments had when it was executed. -/
theorem faithfulDrawing (p : Program) : ∃ turns m, p.Drawn turns m := by
  obtain ⟨n, m, hstops, hs, hstrokes⟩ := p.exists_stopsAfter
  obtain ⟨turns, rfl, hturns⟩ := Machine.exists_recorded hs
  exact ⟨turns, m, hturns, hstops, hstrokes.trans hturns.strokes_eq, fun _ _ _ => hturns.faithful⟩

/-- The last command fails, since a channel is at most 255. -/
example : Run.strokes (run
    { code :=
        [⟨.draw (.pen "0" "2*100" "255"), 0, "pen 0 2*100 255"⟩, ⟨.draw (.fill true), 1, "fill on"⟩,
          ⟨.draw (.circle "7 / 2"), 2, "circle 7 / 2"⟩, ⟨.draw (.fill false), 3, "fill off"⟩,
          ⟨.draw (.rectangle "0" "4294967295"), 4, "rectangle 0 4294967295"⟩,
          ⟨.draw (.pen "0" "0" "256"), 5, "pen 0 0 256"⟩]
      parsed := true }) = [.pen 0 200 255, .circle 3 true, .rectangle 0 4294967295 false] := by
  decide +kernel

end Program

end PenScript
