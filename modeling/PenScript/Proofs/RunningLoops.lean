import PenScript.Proofs.StoreTyping

/-!
# Counted loops that run

Everything here holds of any code, well nested or not.

* `Command.execute_loops` : only a counted loop changes the bounds that the machine keeps, and only
  its own (`CountedLoop.execute_loops_of_ne`, `CountedLoop.loops_of_execute`);
* `LoopBounds.Typed s name b` : the variable is a number, the bounds are of its type, and the step is
  not zero. A step of a run keeps this, whatever it does (`LoopBounds.Typed.persists`);
* `Machine.LoopsTyped code m` : the bounds of every loop that runs are such;
* `Command.run_endFor_of_running`, `CountedLoop.run_execute_of_running` : a loop with such bounds takes
  its step and is tested without fail;
* `Program.runningLoops` : the main result.
-/

namespace PenScript

open Attempt (final)
open Exec (Keeps)

/-! ## What commands do to the loops -/

namespace CountedLoop

variable {l : CountedLoop} {code : List CodeLine} {pos q : Nat} {m : Machine} {b : LoopBounds}

theorem advance_loops (l : CountedLoop) (start : Nat) : Keeps Machine.loops (l.advance start) := by
  unfold advance
  refine .get_bind fun m => ?_
  cases m.loops[start]? with
  | none => exact .of_reads (.throw _)
  | some bounds => exact .of_local (l.forward_local bounds) fun _ _ => rfl

theorem head_loops (l : CountedLoop) (cached : Option LoopBounds) :
    Keeps Machine.loops (l.head cached) :=
  .of_local (l.head_local cached) fun _ _ => rfl

theorem test_loops_of_ne (hq : q ≠ pos) (l : CountedLoop) (code : List CodeLine) (v : Value)
    (bounds : LoopBounds) : Keeps (fun m => m.loops[q]?) (l.test code pos v bounds) := by
  refine .bind (.of_reads (Exec.asks_convert _).reads) fun more => ?_
  cases more with
  | true =>
    refine .bind (.modify fun m => ?_) fun _ => .pure _
    rw [Std.TreeMap.getElem?_insert]
    simp [hq.symm]
  | false =>
    refine .bind (.modify fun m => ?_) fun _ => .bind (.resolve _) fun _ =>
      .bind (.modify fun _ => rfl) fun _ => .pure _
    rw [Std.TreeMap.getElem?_erase]
    simp [hq.symm]

/-- A loop changes no bounds but its own. -/
theorem execute_loops_of_ne (hq : q ≠ pos) (l : CountedLoop) (code : List CodeLine) :
    Keeps (fun m => m.loops[q]?) (l.execute code pos) :=
  keeps_execute fun cached => .bind (.of_local (l.head_local cached) fun _ _ => rfl) fun r =>
    test_loops_of_ne hq l code r.1 r.2

/-- What the test of a loop leaves: the bounds at its position, if it goes on, and the others. -/
theorem loops_of_test {v : Value} {bounds : LoopBounds}
    (h : (final ((l.test code pos v bounds).run m)).loops[q]? = some b) :
    m.loops[q]? = some b ∨ q = pos ∧ b = bounds := by
  by_cases hq : q = pos
  · subst hq
    unfold test at h
    cases hg : goesOn v bounds with
    | error e =>
      rw [hg] at h
      exact .inl h
    | ok more =>
      rw [hg] at h
      cases more with
      | true =>
        have hinsert : (m.loops.insert q bounds)[q]? = some b := h
        rw [Std.TreeMap.getElem?_insert_self] at hinsert
        cases hinsert
        exact .inr ⟨rfl, rfl⟩
      | false =>
        have herase : (m.loops.erase q)[q]? = some b := by
          cases hend : Block.findEnd (markers code) q .forLoop with
          | ok extent =>
            rw [hend] at h
            exact h
          | error e =>
            rw [hend] at h
            exact h
        rw [Std.TreeMap.getElem?_erase_self] at herase
        cases herase
  · have hkeeps := (test_loops_of_ne hq l code v bounds).final_eq m
    exact .inl (hkeeps ▸ h)

/-- Bounds that are there when a loop has been executed were there before, or are those that it has
been tested with. -/
theorem loops_of_execute (h : (final ((l.execute code pos).run m)).loops[q]? = some b) :
    m.loops[q]? = some b ∨ q = pos ∧ ∃ v m₁, (l.head m.loops[pos]?).run m = .ok (v, b) m₁ ∧
      (final ((l.execute code pos).run m)).store = m₁.store := by
  rw [l.run_execute, Machine.view_loops] at h ⊢
  cases hhead : (l.head m.loops[pos]?).run m with
  | error e m₁ =>
    rw [Attempt.run_bind_error hhead] at h
    have hloops : m₁.loops = m.loops := (l.head_loops _).error hhead
    rw [← hloops]
    exact .inl h
  | ok r m₁ =>
    rw [Attempt.run_bind_ok hhead] at h ⊢
    obtain ⟨v, bounds⟩ := r
    have hloops : m₁.loops = m.loops := (l.head_loops _).ok hhead
    rcases loops_of_test h with hold | ⟨hq, rfl⟩
    · rw [← hloops]
      exact .inl hold
    · refine .inr ⟨hq, v, m₁, rfl, ?_⟩
      exact (test_keeps (fun _ _ => rfl) (fun _ _ => rfl) l code pos v b).final_eq m₁

end CountedLoop

/-- Only counted loops change the bounds of loops. -/
theorem Command.execute_loops {c : Command} (hc : ∀ l, c ≠ .countTo l) (code : List CodeLine)
    (pos : Nat) : Keeps Machine.loops (c.execute code pos) := by
  have hwork : ∀ {x}, c.work? = some x → Keeps Machine.loops (c.execute code pos) := fun hx =>
    keeps_of_work? hx (fun _ _ => rfl) code pos
  cases c with
  | declare d => exact hwork rfl
  | array d => exact hwork rfl
  | peek p => exact hwork rfl
  | poke p => exact hwork rfl
  | draw d => exact hwork rfl
  | countTo l => exact absurd rfl (hc l)
  | endFor =>
    refine .bind (.resolve _) fun start => ?_
    dsimp only
    split
    · exact .bind (CountedLoop.advance_loops _ start) fun _ => .pure _
    · exact .pure _
  | _ => exact execute_keeps (fun _ _ => rfl) (fun _ _ => rfl) rfl code pos

/-! ## Bounds that fit their variable -/

/-- The variable is a number, the bounds are of its type, and the step is not zero. -/
def LoopBounds.Typed (s : Store) (name : String) (b : LoopBounds) : Prop :=
  ∃ t : VarType, t.IsNumber ∧ s.type? name = some t ∧ b.stop.type = t ∧ b.step.type = t ∧
    b.step.isZero = .ok false

namespace CountedLoop

variable {l : CountedLoop} {m m' : Machine} {v : Value} {b : LoopBounds}

theorem settle_isZero {start stop step : Value}
    (h : (l.settle start stop step).run m = .ok (v, b) m') : b.step.isZero = .ok false := by
  obtain ⟨-, hb, -⟩ := settle_ok h
  obtain ⟨zero, m₁, hzero, h₁⟩ := Attempt.run_bind_eq_ok.1 h
  obtain ⟨hstep, rfl⟩ := Exec.run_convert_ok.1 hzero
  cases zero with
  | true => cases h₁
  | false => rw [hb, hstep]

theorem enter_isZero (h : l.enter.run m = .ok (v, b) m') : b.step.isZero = .ok false := by
  rw [enter_eq, Attempt.run_bind_ok (EStateM.run_get m)] at h
  obtain ⟨start, m₁, -, h₁⟩ := Attempt.run_bind_eq_ok.1 h
  obtain ⟨stop, m₂, -, h₂⟩ := Attempt.run_bind_eq_ok.1 h₁
  obtain ⟨step, m₃, -, h₃⟩ := Attempt.run_bind_eq_ok.1 h₂
  exact settle_isZero h₃

/-- A loop that is entered has bounds that fit its variable. -/
theorem enter_typed (h : l.enter.run m = .ok (v, b) m') : b.Typed m'.store l.var := by
  obtain ⟨hv, hstop, hstep, hdeclare⟩ := enter_ok h
  obtain ⟨-, hstore⟩ := Store.declare_ok.1 hdeclare
  refine ⟨l.type m.store, l.type_isNumber m.store, ?_, hstop, hstep, enter_isZero h⟩
  rw [hstore, Store.type?_insert_self, hv]

end CountedLoop

namespace LoopBounds.Typed

variable {s s' : Store} {name : String} {b : LoopBounds} {v : Value}

/-- The type of a number stays. -/
theorem persists (h : b.Typed s name) (hs : s.Persists s') : b.Typed s' name := by
  obtain ⟨t, hnumber, ht, hrest⟩ := h
  obtain ⟨t', ht', rfl | ⟨harray, -⟩⟩ := hs name t ht
  · exact ⟨t', hnumber, ht', hrest⟩
  · rcases hnumber with rfl | rfl <;> cases harray

theorem type_eq (h : b.Typed s name) (hv : s.get? name = some v) :
    v.type.IsNumber ∧ b.stop.type = v.type ∧ b.step.type = v.type := by
  obtain ⟨t, hnumber, ht, hstop, hstep, -⟩ := h
  rw [Store.type?_of_get? hv, Option.some.injEq] at ht
  rw [ht]
  exact ⟨hnumber, hstop, hstep⟩

theorem exists_get? (h : b.Typed s name) : ∃ v, s.get? name = some v := by
  obtain ⟨t, -, ht, -⟩ := h
  obtain ⟨v, hv, -⟩ := Option.map_eq_some_iff.1 ht
  exact ⟨v, hv⟩

/-- The test of the loop has an answer. -/
theorem exists_goesOn (h : b.Typed s name) (hv : s.get? name = some v) :
    ∃ more, CountedLoop.goesOn v b = .ok more := by
  obtain ⟨hnumber, hstop, hstep⟩ := h.type_eq hv
  exact CountedLoop.exists_goesOn hnumber rfl hstop hstep

end LoopBounds.Typed

/-- The sum of two numbers of one type is of that type. -/
theorem Value.exists_add {v w : Value} (hv : v.type.IsNumber) (hw : w.type = v.type) :
    ∃ u, v.add w = .ok u ∧ u.type = v.type := by
  cases v with
  | int m =>
    cases w <;> cases hw
    exact ⟨_, rfl, rfl⟩
  | real x =>
    cases w <;> cases hw
    exact ⟨_, rfl, rfl⟩
  | _ => rcases hv with hv | hv <;> cases hv

/-! ## Runs -/

namespace Machine

variable {code : List CodeLine} {m m' : Machine}

/-- Every loop that runs is a counted loop of the code, with bounds that fit its variable. -/
def LoopsTyped (code : List CodeLine) (m : Machine) : Prop :=
  ∀ p b, m.loops[p]? = some b → ∃ l, commandAt code p = some (.countTo l) ∧ b.Typed m.store l.var

@[simp] theorem loops_moveTo (m : Machine) (size : Nat) (flow : Flow) :
    (m.moveTo size flow).loops = m.loops := by
  cases flow <;> rfl

/-- A command that is tried leaves the store and the loops that its execution leaves. -/
theorem Tries.exists_final (h : Tries code m m') : ∃ c, code[m.pc]? = some c ∧
    m'.store = (final ((c.command.execute code m.pc).run (m.noteExecute c))).store ∧
    m'.loops = (final ((c.command.execute code m.pc).run (m.noteExecute c))).loops := by
  obtain ⟨c, hc, hok | ⟨e, herror⟩⟩ := h
  · obtain ⟨flow, m₁, hexec, rfl⟩ := execute_of_step hok
    exact ⟨c, hc, by rw [hexec]; simp [final], by rw [hexec]; simp [final]⟩
  · have hexec := execute_of_step_error herror
    exact ⟨c, hc, by rw [hexec]; rfl, by rw [hexec]; rfl⟩

/-- The step: the bounds of the other loops still fit, since their variables keep their types, and
those of a loop that is executed fit anew. -/
theorem LoopsTyped.tries (hm : LoopsTyped code m) (h : Tries code m m') : LoopsTyped code m' := by
  obtain ⟨_, -, hwrites⟩ := h.writes
  have hpersists : m.store.Persists m'.store := .of_retypes hwrites.retypes
  obtain ⟨c, hc, hstore, hloops⟩ := h.exists_final
  intro p b hb
  have hold : m.loops[p]? = some b →
      ∃ l, commandAt code p = some (.countTo l) ∧ b.Typed m'.store l.var := by
    intro hb
    obtain ⟨l, hl, htyped⟩ := hm p b hb
    exact ⟨l, hl, htyped.persists hpersists⟩
  rw [hloops] at hb
  by_cases hcount : ∃ l, c.command = .countTo l
  · obtain ⟨l, hl⟩ := hcount
    have hcommand : commandAt code m.pc = some (.countTo l) :=
      commandAt_eq_some.2 ⟨c, hc, hl⟩
    rw [hl] at hb hstore
    rcases CountedLoop.loops_of_execute hb with hb | ⟨rfl, v, m₁, hhead, hstore₁⟩
    · exact hold hb
    · cases hcached : m.loops[m.pc]? with
      | some bounds =>
        -- a loop that runs already is tested with the bounds that it has
        have hhead' : (l.head (some bounds)).run (m.noteExecute c) = .ok (v, b) m₁ := by
          rw [← hcached]
          exact hhead
        obtain ⟨w, m₂, -, hpure⟩ := Attempt.run_bind_eq_ok.1 hhead'
        cases hpure
        exact hold hcached
      | none =>
        have henter : l.enter.run (m.noteExecute c) = .ok (v, b) m₁ := by
          have hhead' : (l.head m.loops[m.pc]?).run (m.noteExecute c) = .ok (v, b) m₁ := hhead
          rw [hcached] at hhead'
          exact hhead'
        refine ⟨l, hcommand, ?_⟩
        rw [hstore]
        show b.Typed (final ((l.execute code m.pc).run (m.noteExecute c))).store l.var
        rw [hstore₁]
        exact CountedLoop.enter_typed henter
  · have hkeeps : Keeps Machine.loops (c.command.execute code m.pc) :=
      Command.execute_loops (fun l hl => hcount ⟨l, hl⟩) code m.pc
    rw [hkeeps.final_eq] at hb
    exact hold hb

/-- The run: the bounds of every loop that runs fit its variable. -/
theorem Passes.loopsTyped (h : Passes code m) : LoopsTyped code m := by
  obtain ⟨n, hn⟩ := h
  refine hn.induct (P := LoopsTyped code) (fun hm htries => hm.tries htries) ?_
  intro p b hb
  simp at hb

end Machine

/-! ## Steps and tests that do not fail -/

section Running

variable {l : CountedLoop} {code : List CodeLine} {m : Machine} {b : LoopBounds} {v w : Value}
  {start : Nat}

/-- The end of a loop that runs takes the variable a step further and goes back to the loop. -/
theorem Command.run_endFor_of_running {pos : Nat}
    (hstart : Block.findStart (markers code) pos .forLoop = .ok start)
    (hl : commandAt code start = some (.countTo l)) (hb : m.loops[start]? = some b)
    (hv : m.store.get? l.var = some v) (hadd : v.add b.step = .ok w) (hw : w.type = v.type) :
    (Command.endFor.execute code pos).run m =
      .ok (.goto start) { m with store := m.store.insert l.var w } := by
  have hadvance : (l.advance start).run m = .ok () { m with store := m.store.insert l.var w } := by
    rw [l.run_advance, Machine.view_loops, hb]
    exact CountedLoop.run_forward hv hadd hw
  rw [commandAt] at hl
  rw [execute, executeEndFor, Attempt.run_bind_ok (Exec.run_resolve_ok hstart m)]
  dsimp only
  rw [hl]
  exact Attempt.run_bind_ok hadvance

/-- A loop that runs goes on, leaves, or fails for want of its end, as its test says. -/
theorem CountedLoop.run_execute_of_running (code : List CodeLine) (hb : m.loops[start]? = some b)
    (hv : m.store.get? l.var = some v) {more : Bool} (hg : goesOn v b = .ok more) :
    (l.execute code start).run m = if more then
        .ok .next { m with loops := m.loops.insert start b }
      else (do
        let extent ← Exec.resolve (Block.findEnd (markers code) start .forLoop)
        Exec.note (.loopDone start l.var)
        return .goto (extent.stop + 1) : Exec Flow).run
          { m with loops := m.loops.erase start } := by
  rw [l.run_execute, Machine.view_loops, hb, Attempt.run_bind_ok (run_head hv), test, hg]
  cases more <;> rfl

end Running

/-- The variable and the bounds of a loop that runs are numbers of one type and its step is not
zero, so neither its test nor its end fails for their sake. -/
theorem Program.runningLoops (p : Program) :
    (p.parsed = true → ∀ limit, Machine.Passes p.code (p.setLimit limit).run.program.machine) ∧
    ∀ {m start b}, Machine.Passes p.code m → m.loops[start]? = some b →
      ∃ l v w, commandAt p.code start = some (.countTo l) ∧ m.store.get? l.var = some v ∧
        (v.type = .int ∨ v.type = .real) ∧ b.stop.type = v.type ∧ b.step.type = v.type ∧
        b.step.isZero = .ok false ∧
        (∃ more, CountedLoop.goesOn v b = .ok more ∧
          (more = true → ∃ m', (l.execute p.code start).run m = .ok .next m') ∧
          ∀ {e m'}, (l.execute p.code start).run m = .error e m' → more = false ∧
            ∃ missing, Block.findEnd (markers p.code) start .forLoop = .error missing ∧
              e = .unmatched missing) ∧
        v.add b.step = .ok w ∧ w.type = v.type ∧
        (Store.assign l.var w).run m.store = .ok () (m.store.insert l.var w) ∧
        (∃ more, CountedLoop.goesOn w b = .ok more) ∧
        ∀ {pos}, Block.findStart (markers p.code) pos .forLoop = .ok start →
          (Command.endFor.execute p.code pos).run m =
            .ok (.goto start) { m with store := m.store.insert l.var w } := by
  refine ⟨fun hp limit => ?_, fun {m start b} hm hb => ?_⟩
  · have hrun : (p.setLimit limit).parsed = true := hp
    exact Program.passes_run hrun
  · obtain ⟨l, hl, htyped⟩ := hm.loopsTyped start b hb
    obtain ⟨v, hv⟩ := htyped.exists_get?
    obtain ⟨hnumber, hstop, hstep⟩ := htyped.type_eq hv
    obtain ⟨w, hadd, hw⟩ := Value.exists_add hnumber hstep
    obtain ⟨more, hmore⟩ := htyped.exists_goesOn hv
    obtain ⟨-, -, -, -, -, hzero⟩ := htyped
    have hassign : (Store.assign l.var w).run m.store = .ok () (m.store.insert l.var w) :=
      Store.assign_ok.2 ⟨by rw [Store.type?_of_get? hv, hw], rfl⟩
    have htest : ∃ more, CountedLoop.goesOn w b = .ok more :=
      CountedLoop.exists_goesOn hnumber hw hstop hstep
    have hexecute := CountedLoop.run_execute_of_running p.code hb hv hmore
    refine ⟨l, v, w, hl, hv, hnumber, hstop, hstep, hzero, ⟨more, hmore, ?_, ?_⟩, hadd, hw, hassign,
      htest, fun hstart => Command.run_endFor_of_running hstart hl hb hv hadd hw⟩
    · rintro rfl
      exact ⟨_, hexecute⟩
    · intro e m' herror
      rw [hexecute] at herror
      cases more with
      | true => cases herror
      | false =>
        refine ⟨rfl, ?_⟩
        cases hend : Block.findEnd (markers p.code) start .forLoop with
        | ok extent =>
          rw [hend] at herror
          cases herror
        | error missing =>
          rw [hend] at herror
          cases herror
          exact ⟨missing, rfl, rfl⟩

/-- Two loops over one variable cross a conditional, and the variable is declared anew and read from
an array while they run. -/
def Program.crossingLoops : Program where
  code :=
    [⟨.array ⟨.int, "a", "2"⟩, 0, "array int a 2"⟩,
      ⟨.countTo ⟨"i", "9", "1", some "-2"⟩, 1, "for i = 9 to 1 step -2"⟩,
      ⟨.declare ⟨.int, "i", some "i + 5", false⟩, 2, "int i = i + 5"⟩,
      ⟨.countTo ⟨"i", "i", "20", none⟩, 3, "for i = i to 20"⟩,
      ⟨.ifThen "true", 4, "if true"⟩,
      ⟨.peek ⟨"i", "a", "1"⟩, 5, "peek i = a 1"⟩,
      ⟨.endFor, 6, "end-for"⟩]
  parsed := true

theorem Program.runningLoops_crossingLoops : ∃ m w, Machine.Passes crossingLoops.code m ∧
    m.loops[1]? = some ⟨.int 1, .int (-2)⟩ ∧ m.loops[3]? = some ⟨.int 20, .int 1⟩ ∧
    m.store.get? "i" = some (.int 0) ∧ (Value.int 0).add (.int 1) = .ok w ∧
    (Command.endFor.execute crossingLoops.code 6).run m =
      .ok (.goto 3) { m with store := m.store.insert "i" w } := by
  obtain ⟨hruns, hrunning⟩ := runningLoops crossingLoops
  have hm := hruns rfl 6
  generalize heq : (crossingLoops.setLimit 6).run.program.machine = m at hm
  have hloops : m.loops[1]? = some ⟨.int 1, .int (-2)⟩ ∧ m.loops[3]? = some ⟨.int 20, .int 1⟩ ∧
      m.store.get? "i" = some (.int 0) := by
    rw [← heq]
    decide +kernel
  obtain ⟨houter, hinner, hvar⟩ := hloops
  obtain ⟨l, v, w, hl, hv, -, -, -, -, -, hadd, -, -, -, hend⟩ := hrunning hm hinner
  obtain rfl : l = ⟨"i", "i", "20", none⟩ := by
    have hcommand : commandAt crossingLoops.code 3 = some (.countTo ⟨"i", "i", "20", none⟩) := rfl
    cases hcommand.symm.trans hl
    rfl
  cases hvar.symm.trans hv
  exact ⟨m, w, hm, houter, hinner, hvar, hadd, hend rfl⟩

end PenScript
