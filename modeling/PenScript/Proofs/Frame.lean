import PenScript.Proofs.Atomic

/-!
# What commands leave alone

* `Store.AgreeOff name s s'` : the stores differ at most in one variable;
* `Command.target? code pos c` : the one variable that a command can write;
* `Command.Spares code pos c part` : a part of the machine in which nothing can be seen of the log,
  the calls, the loops, the target and, for a drawing command, the drawing;
* `Command.Spares.keeps` : the command leaves such a part as it was, whether it succeeds or fails and
  in any code. So no command moves the counter itself (`Command.execute_pc`) and one that fails
  leaves it in place (`Machine.pc_of_step_error`), only drawing commands draw
  (`Command.execute_strokes`), and no variable but the target changes (`Command.execute_get?`,
  `Machine.Step.get?_eq`).
-/

namespace PenScript

open Attempt (final)

namespace Store

/-- All variables but one are the same. -/
def AgreeOff (name : String) (s s' : Store) : Prop := ∀ other ≠ name, s'.get? other = s.get? other

theorem AgreeOff.rfl {name : String} {s : Store} : AgreeOff name s s := fun _ _ => Eq.refl _

theorem agreeOff_insert (name : String) (v : Value) (s : Store) :
    AgreeOff name s (s.insert name v) := by
  intro other hne
  rw [get?_insert, if_neg hne.symm]

theorem agreeOff_declare (name : String) (v : Value) (s : Store) :
    AgreeOff name s (final ((declare name v).run s)) := by
  cases h : (declare name v).run s with
  | ok a s' =>
    rw [(declare_ok.1 h).2]
    exact agreeOff_insert name v s
  | error e s' =>
    rw [declare_atomic _ _ _ _ _ h]
    exact .rfl

theorem agreeOff_assign (name : String) (v : Value) (s : Store) :
    AgreeOff name s (final ((assign name v).run s)) := by
  cases h : (assign name v).run s with
  | ok a s' =>
    rw [(assign_ok.1 h).2]
    exact agreeOff_insert name v s
  | error e s' =>
    rw [assign_atomic _ _ _ _ _ h]
    exact .rfl

theorem agreeOff_poke (name : String) (i : Int64) (v : Value) (s : Store) :
    AgreeOff name s (final ((poke name i v).run s)) := by
  cases h : (poke name i v).run s with
  | ok a s' =>
    obtain ⟨cells, hcells, -, rfl⟩ := poke_ok.1 h
    intro other hne
    rw [final, get?_writeElement hcells, if_neg hne.symm]
  | error e s' =>
    rw [poke_atomic _ _ _ _ _ _ h]
    exact .rfl

end Store

/-! ## Operations that write one variable -/

/-- Nothing can be seen of the variable in a part of the machine. -/
def Machine.Blind {γ : Type} (part : Machine → γ) (name : String) : Prop :=
  ∀ m s, Store.AgreeOff name m.store s → part { m with store := s } = part m

open Exec (Keeps asks_compute asks_ask asks_convert)

section Blind

variable {γ : Type} {part : Machine → γ}

theorem Exec.Keeps.update {α : Type} {name : String} {u : Store.Update α}
    (hpart : Machine.Blind part name) (hu : ∀ s, Store.AgreeOff name s (final (u.run s))) :
    Keeps part (Exec.update u) where
  ok {m a m'} h := by
    have hagree := hu m.store
    rw [run_update] at h
    split at h <;> cases h
    rename_i s hrun
    rw [hrun] at hagree
    exact hpart m s hagree
  error {m e m'} h := by
    have hagree := hu m.store
    rw [run_update] at h
    split at h <;> cases h
    rename_i s hrun
    rw [hrun] at hagree
    exact hpart m s hagree

theorem Exec.Keeps.declare {name : String} (hpart : Machine.Blind part name) (v : Value) :
    Keeps part (Exec.update (Store.declare name v)) :=
  .update hpart (Store.agreeOff_declare name v)

theorem Exec.Keeps.assign {name : String} (hpart : Machine.Blind part name) (v : Value) :
    Keeps part (Exec.update (Store.assign name v)) :=
  .update hpart (Store.agreeOff_assign name v)

theorem Declaration.execute_keeps {d : Declaration} (hpart : Machine.Blind part d.name) :
    Keeps part d.execute := by
  have hwrite : ∀ v, Keeps part (if d.update then Exec.update (Store.assign d.name v)
      else Exec.update (Store.declare d.name v)) := by
    intro v
    split
    · exact .assign hpart v
    · exact .declare hpart v
  unfold Declaration.execute
  dsimp only
  split
  · exact .bind (.of_reads (asks_compute _).reads) hwrite
  · exact .bind (.pure _) hwrite

theorem ArrayDeclaration.execute_keeps {d : ArrayDeclaration} (hpart : Machine.Blind part d.name) :
    Keeps part d.execute :=
  .bind (.of_reads (asks_compute _).reads) fun _ => .bind (.of_reads (asks_convert _).reads) fun _ =>
    .declare hpart _

theorem Peek.execute_keeps {p : Peek} (hpart : Machine.Blind part p.dest) :
    Keeps part p.execute := by
  refine .bind (.of_reads (asks_compute _).reads) fun i => .bind (.of_reads (asks_ask _).reads) fun v =>
    .get_bind fun m => ?_
  cases m.store.get? p.dest with
  | some old => exact .bind (.of_reads (asks_ask _).reads) fun _ => .assign hpart _
  | none => exact .declare hpart _

theorem Poke.execute_keeps {p : Poke} (hpart : Machine.Blind part p.array) :
    Keeps part p.execute := by
  refine .bind (.of_reads (asks_compute _).reads) fun i =>
    .bind (.of_reads (asks_ask _).reads) fun elem => ?_
  cases elem with
  | real | int =>
    exact .bind (.of_reads (asks_compute _).reads) fun v =>
      .update hpart (Store.agreeOff_poke p.array i v)

theorem Drawing.execute_keeps
    (hpart : ∀ m fill strokes, part { m with fill := fill, strokes := strokes } = part m)
    (d : Drawing) : Keeps part d.execute where
  ok h := by
    obtain ⟨fill, made, rfl⟩ := execute_ok h
    exact hpart _ fill _
  error h := by rw [d.execute_atomic _ _ _ h]

namespace CountedLoop

variable {l : CountedLoop} (hpart : Machine.Blind part l.var)
include hpart

theorem settle_keeps (start stop step : Value) : Keeps part (l.settle start stop step) := by
  refine .bind (.of_reads (asks_convert _).reads) fun zero => ?_
  cases zero with
  | true =>
    exact .bind (.of_reads (.throw _)) fun _ => .bind (.declare hpart _) fun _ => .pure _
  | false => exact .bind (.declare hpart _) fun _ => .pure _

theorem head_keeps (cached : Option LoopBounds) : Keeps part (l.head cached) := by
  cases cached with
  | some bounds => exact .bind (.of_reads (asks_ask _).reads) fun _ => .pure _
  | none =>
    rw [head, enter_eq]
    exact .get_bind fun m => .bind (.of_reads (asks_compute _).reads) fun start =>
      .bind (.of_reads (asks_compute _).reads) fun stop =>
        .bind (.of_reads (l.stride_reads _)) fun step => settle_keeps hpart start stop step

theorem execute_keeps (hlog : ∀ m log, part { m with log := log } = part m)
    (hloops : ∀ m loops, part { m with loops := loops } = part m) (code : List CodeLine)
    (pos : Nat) : Keeps part (l.execute code pos) :=
  keeps_execute fun cached =>
    .bind (head_keeps hpart cached) fun r => test_keeps hlog hloops l code pos r.1 r.2

theorem advance_keeps (start : Nat) : Keeps part (l.advance start) := by
  refine .get_bind fun m => ?_
  cases m.loops[start]? with
  | none => exact .of_reads (.throw _)
  | some bounds =>
    exact .bind (.of_reads (asks_ask _).reads) fun _ => .bind (.of_reads (asks_convert _).reads) fun _ =>
      .assign hpart _

end CountedLoop

end Blind

/-! ## All commands -/

namespace Command

/-- The variable of the counted loop whose end stands at the position. -/
def endedVar? (code : List CodeLine) (pos : Nat) : Option String :=
  match Block.findStart (markers code) pos .forLoop with
  | .error _ => none
  | .ok start =>
    match commandAt code start with
    | some (countTo l) => some l.var
    | _ => none

/-- The variable that the command writes at a position of the code. -/
def target? (code : List CodeLine) (pos : Nat) : Command → Option String
  | declare d => some d.name
  | array d => some d.name
  | peek p => some p.dest
  | poke p => some p.array
  | countTo l => some l.var
  | endFor => endedVar? code pos
  | _ => none

/-- Nothing can be seen in a part of the machine of what the command does at the position. -/
structure Spares {γ : Type} (code : List CodeLine) (pos : Nat) (c : Command) (part : Machine → γ) :
    Prop where
  log : ∀ m log, part { m with log := log } = part m
  calls : ∀ m calls, part { m with calls := calls } = part m
  loops : ∀ m loops, part { m with loops := loops } = part m
  target : ∀ name, c.target? code pos = some name → Machine.Blind part name
  drawing : ∀ d, c = .draw d →
    ∀ m fill strokes, part { m with fill := fill, strokes := strokes } = part m

variable {γ : Type} {part : Machine → γ} {c : Command} {code : List CodeLine} {pos : Nat}

theorem Spares.endFor (h : Spares code pos .endFor part) : Keeps part (executeEndFor code pos) := by
  have htarget : ∀ name, endedVar? code pos = some name → Machine.Blind part name := h.target
  unfold executeEndFor
  unfold endedVar? at htarget
  cases hstart : Block.findStart (markers code) pos .forLoop with
  | error e => exact .of_reads (Attempt.Reads.throw (CommandError.unmatched e))
  | ok start =>
    rw [hstart] at htarget
    show Keeps part (pure start >>= _)
    rw [pure_bind]
    dsimp only [commandAt] at htarget ⊢
    split
    · rename_i l hl
      rw [hl] at htarget
      exact .bind (CountedLoop.advance_keeps (htarget _ rfl) start) fun _ => .pure _
    · exact .pure _

/-- A command leaves every part of the machine as it was that it spares. -/
theorem Spares.keeps (h : Spares code pos c part) : Keeps part (c.execute code pos) := by
  cases c with
  | declare d => exact .bind (Declaration.execute_keeps (h.target _ rfl)) fun _ => .pure _
  | array d => exact .bind (ArrayDeclaration.execute_keeps (h.target _ rfl)) fun _ => .pure _
  | peek p => exact .bind (Peek.execute_keeps (h.target _ rfl)) fun _ => .pure _
  | poke p => exact .bind (Poke.execute_keeps (h.target _ rfl)) fun _ => .pure _
  | draw d => exact .bind (Drawing.execute_keeps (h.drawing d rfl) d) fun _ => .pure _
  | countTo l => exact CountedLoop.execute_keeps (h.target _ rfl) h.log h.loops code pos
  | endFor => exact h.endFor
  | _ => exact execute_keeps h.log h.calls rfl code pos

/-- No command moves the counter itself. -/
theorem execute_pc (c : Command) (code : List CodeLine) (pos : Nat) :
    Keeps Machine.pc (c.execute code pos) :=
  Spares.keeps ⟨fun _ _ => rfl, fun _ _ => rfl, fun _ _ => rfl, fun _ _ _ _ _ => rfl,
    fun _ _ _ _ _ => rfl⟩

/-- Only drawing commands draw. -/
theorem execute_strokes (hc : ∀ d, c ≠ .draw d) (code : List CodeLine) (pos : Nat) :
    Keeps Machine.strokes (c.execute code pos) :=
  Spares.keeps ⟨fun _ _ => rfl, fun _ _ => rfl, fun _ _ => rfl, fun _ _ _ _ _ => rfl,
    fun d hd => absurd hd (hc d)⟩

/-- No variable changes but the target. -/
theorem execute_get? {name : String} (hc : c.target? code pos ≠ some name) :
    Keeps (fun m => m.store.get? name) (c.execute code pos) :=
  Spares.keeps ⟨fun _ _ => rfl, fun _ _ => rfl, fun _ _ => rfl,
    fun _ htarget _ _ hagree => hagree name fun heq => hc (heq ▸ htarget),
    fun _ _ _ _ _ => rfl⟩

end Command

/-- A step changes no variable but the target of its command. -/
theorem Machine.Step.get?_eq {code : List CodeLine} {m m' : Machine} {name : String}
    (h : Step code m m')
    (hc : ∀ c, commandAt code m.pc = some c → c.target? code m.pc ≠ some name) :
    m'.store.get? name = m.store.get? name := by
  obtain ⟨l, hl, hstep⟩ := h
  obtain ⟨flow, m₁, hexec, rfl⟩ := execute_of_step hstep
  have htarget := hc l.command (commandAt_eq_some.2 ⟨l, hl, rfl⟩)
  have hkeeps : m₁.store.get? name = (m.noteExecute l).store.get? name :=
    (Command.execute_get? htarget).ok hexec
  rw [store_moveTo]
  exact hkeeps

/-- A command that fails leaves the counter at itself. -/
theorem Machine.pc_of_step_error {code : List CodeLine} {c : CodeLine} {m m' : Machine}
    {e : CommandError} (h : step code c m = .error e m') : m'.pc = m.pc := by
  have hkeeps : m'.pc = (m.noteExecute c).pc :=
    (c.command.execute_pc code m.pc).error (execute_of_step_error h)
  exact hkeeps

end PenScript
