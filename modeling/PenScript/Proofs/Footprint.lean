import PenScript.Proofs.Copying
import PenScript.Proofs.Drawing
import PenScript.Proofs.RunningLoops

/-!
# What a command can change

Everything here holds of any code, well nested or not, and of commands that fail as of those that
succeed.

* `Poke.Reaches p s s'` : at most the element at the index of `p` is another one;
* `Command.Footprint code pos c m m'` : all that the command can have changed at the position;
* `Machine.commandFootprint` : the main result.
-/

namespace PenScript

open Attempt (final)
open Exec (Keeps)

/-! ## Elements of arrays -/

/-- The array is as it was but for the element at the index, which is counted from zero. -/
def Poke.Reaches (p : Poke) (s s' : Store) : Prop :=
  s'.get? p.array = s.get? p.array ∨
    ∃ cells cells' i, Formula.int s p.index = .ok i ∧ s.get? p.array = some (.array cells) ∧
      s'.get? p.array = some (.array cells') ∧ cells'.elem = cells.elem ∧
      cells'.size = cells.size ∧ ∀ k : Nat, (k : Int) ≠ i.toInt → cells'.get? k = cells.get? k

theorem Poke.reaches_of_execute {p : Poke} {m m' : Machine} (h : p.execute.run m = .ok () m') :
    p.Reaches m.store m'.store := by
  obtain ⟨i, m₁, hi, h₁⟩ := Attempt.run_bind_eq_ok.1 h
  obtain ⟨hindex, rfl⟩ := Exec.run_compute_ok.1 hi
  obtain ⟨elem, m₂, helem, h₂⟩ := Attempt.run_bind_eq_ok.1 h₁
  obtain ⟨-, rfl⟩ := Exec.run_ask_ok.1 helem
  have hwrite : ∃ v, (Store.poke p.array i v).run m.store = .ok () m'.store := by
    cases elem with
    | real | int =>
      obtain ⟨v, m₃, hv, h₃⟩ := Attempt.run_bind_eq_ok.1 h₂
      obtain ⟨-, rfl⟩ := Exec.run_compute_ok.1 hv
      exact ⟨v, Exec.run_update_ok h₃⟩
  obtain ⟨v, hv⟩ := hwrite
  obtain ⟨cells, hcells, haccepts, -⟩ := Store.poke_ok.1 hv
  refine .inr ⟨cells, cells.write i.toInt.toNat v, i, hindex, hcells, Store.get?_poke_self hv hcells,
    Cells.elem_write .., Cells.size_write .., fun k hk => Cells.get?_write_of_ne ?_ cells v⟩
  have hlow : 0 ≤ i.toInt := (Cells.accepts_eq_ok.1 haccepts).1
  omega

theorem Poke.reaches_final (p : Poke) (code : List CodeLine) (pos : Nat) (m : Machine) :
    p.Reaches m.store (final (((Command.poke p).execute code pos).run m)).store := by
  rw [Command.execute_of_work? (c := .poke p) rfl]
  cases h : p.execute.run m with
  | ok a m' =>
    rw [Attempt.run_bind_ok h]
    exact reaches_of_execute h
  | error e m' =>
    rw [Attempt.run_bind_error h, final, p.execute_atomic _ _ _ h]
    exact .inl rfl

/-! ## All commands -/

namespace Command

/-- What a command at a position of the code can have changed. -/
structure Footprint (code : List CodeLine) (pos : Nat) (c : Command) (m m' : Machine) : Prop where
  /-- No variable is another but the target. -/
  target : ∀ name, c.target? code pos ≠ some name → m'.store.get? name = m.store.get? name
  /-- A `poke` has written no element but the one at its index. -/
  element : ∀ p, c = .poke p → p.Reaches m.store m'.store
  /-- The bounds of a loop are others only if it has been executed itself. -/
  bounds : ∀ q, m'.loops[q]? ≠ m.loops[q]? → q = pos ∧ ∃ l, c = .countTo l
  /-- Commands of conditionals, of loops with a condition and of methods have changed no variable,
  and neither the drawing nor the fill flag. -/
  steering : c.steers = true → m'.scene = m.scene
  /-- Nor have others changed the drawing or the fill flag, unless they draw. -/
  canvas : (∀ d, c ≠ .draw d) → m'.strokes = m.strokes ∧ m'.fill = m.fill
  /-- Commands on variables and the drawing have not touched the calls. -/
  calls : c.work?.isSome = true → m'.calls = m.calls

variable {c : Command} {code : List CodeLine} {pos : Nat} {m m' : Machine}

theorem execute_bounds {q : Nat} (hq : ∀ l, c = .countTo l → q ≠ pos) (code : List CodeLine) :
    Keeps (fun m => m.loops[q]?) (c.execute code pos) := by
  by_cases hc : ∃ l, c = .countTo l
  · obtain ⟨l, rfl⟩ := hc
    exact CountedLoop.execute_loops_of_ne (hq l rfl) l code
  · have hloops := execute_loops (fun l hl => hc ⟨l, hl⟩) code pos
    exact ⟨fun h => by rw [hloops.ok h], fun h => by rw [hloops.error h]⟩

theorem footprint_execute (c : Command) (code : List CodeLine) (pos : Nat) (m : Machine) :
    c.Footprint code pos m (final ((c.execute code pos).run m)) where
  target name hname := (execute_get? hname).final_eq m
  element p hp := by
    subst hp
    exact p.reaches_final code pos m
  bounds q hq := by
    by_contra hown
    exact hq ((execute_bounds (fun l hl heq => hown ⟨heq, l, hl⟩) code).final_eq m)
  steering hc := (execute_keeps (fun _ _ => rfl) (fun _ _ => rfl) hc code pos).final_eq m
  canvas hc := ⟨(execute_strokes hc code pos).final_eq m, (execute_fill hc code pos).final_eq m⟩
  calls hc := by
    obtain ⟨x, hx⟩ := Option.isSome_iff_exists.1 hc
    exact (keeps_of_work? hx (fun _ _ => rfl) code pos).final_eq m

/-- The footprint has nothing to do with the log and the counter. -/
theorem Footprint.moveTo (h : c.Footprint code pos m m') (size : Nat) (flow : Flow) :
    c.Footprint code pos m (m'.moveTo size flow) := by
  cases flow with
  | next => exact ⟨h.target, h.element, h.bounds, h.steering, h.canvas, h.calls⟩
  | goto target => exact ⟨h.target, h.element, h.bounds, h.steering, h.canvas, h.calls⟩

theorem Footprint.of_noteExecute {l : CodeLine} (h : c.Footprint code pos (m.noteExecute l) m') :
    c.Footprint code pos m m' :=
  ⟨h.target, h.element, h.bounds, h.steering, h.canvas, h.calls⟩

/-- Commands on variables and the drawing do not jump. -/
theorem flow_of_work? {x : Exec Unit} {flow : Flow} (hx : c.work? = some x)
    (h : (c.execute code pos).run m = .ok flow m') : flow = .next := by
  rw [execute_of_work? hx] at h
  obtain ⟨a, m₁, -, hflow⟩ := Attempt.run_bind_eq_ok.1 h
  cases hflow
  rfl

end Command

namespace Machine

variable {code : List CodeLine} {l : CodeLine} {m m' : Machine}

theorem footprint_step (code : List CodeLine) (l : CodeLine) (m : Machine) :
    l.command.Footprint code m.pc m (final (step code l m)) := by
  have hexec := l.command.footprint_execute code m.pc (m.noteExecute l)
  rw [step_eq]
  cases hrun : (l.command.execute code m.pc).run (m.noteExecute l) with
  | ok flow m₁ =>
    rw [hrun] at hexec
    exact (hexec.of_noteExecute).moveTo code.length flow
  | error e m₁ =>
    rw [hrun] at hexec
    exact hexec.of_noteExecute

/-- After a command on variables or the drawing, the run goes on behind it. -/
theorem pc_of_step {x : Exec Unit} (hx : l.command.work? = some x) (h : step code l m = .ok () m') :
    m'.pc = m.pc + 1 := by
  obtain ⟨flow, m₁, hexec, rfl⟩ := execute_of_step h
  have hpc : m₁.pc = (m.noteExecute l).pc := (Command.execute_pc _ code m.pc).ok hexec
  rw [Command.flow_of_work? hx hexec]
  show m₁.pc + 1 = m.pc + 1
  rw [hpc]
  rfl

/-- Every command, whether it succeeds or fails, writes only what it names. -/
theorem commandFootprint (code : List CodeLine) (l : CodeLine) (m : Machine) :
    (∀ pos, l.command.Footprint code pos m (final ((l.command.execute code pos).run m))) ∧
      l.command.Footprint code m.pc m (final (step code l m)) ∧
      (l.command.work?.isSome = true →
        (∀ m', step code l m = .ok () m' → m'.pc = m.pc + 1) ∧
        ∀ e m', step code l m = .error e m' → m'.pc = m.pc) := by
  refine ⟨fun pos => l.command.footprint_execute code pos m, footprint_step code l m, fun hc => ?_⟩
  obtain ⟨x, hx⟩ := Option.isSome_iff_exists.1 hc
  exact ⟨fun m' h => pc_of_step hx h, fun e m' h => pc_of_step_error h⟩

end Machine

end PenScript
