import Mathlib.Logic.Function.Basic
import PenScript.Proofs.Operations
import PenScript.Proofs.Resolver
import PenScript.Proofs.Steps

/-!
# What a step can do

* `View` is the machine without its log, with its loops by position (`Machine.view`);
* `Command.Gives code c v flow v'` : at every machine with the view `v`, the command succeeds;
* `Transition code v v'` lists what a step can do in well nested code: every jump goes to a part of
  the block that the counter is in, into a method that is called, or back behind a call;
* `Machine.Step.transition`, `Transition.exists_step` : the transitions are exactly the steps of the
  machine, seen without the log.
-/

namespace PenScript

/-- The machine without its log. -/
@[ext] structure View where
  scene : Scene := {}
  calls : List Nat := []
  pc : Nat := 0
  loops : Nat → Option LoopBounds := fun _ => none

/-- The view with the counter moved. -/
def View.moved (v : View) (size : Nat) : Flow → View
  | .next => { v with pc := v.pc + 1 }
  | .goto target => { v with pc := min target size }

theorem View.moved_goto (v : View) {size target : Nat} (h : target ≤ size) :
    v.moved size (.goto target) = { v with pc := target } := by
  rw [moved, Nat.min_eq_left h]

namespace Machine

/-- What there is to see of the machine but its log. -/
def view (m : Machine) : View := ⟨m.scene, m.calls, m.pc, fun p => m.loops[p]?⟩

@[simp] theorem view_calls (m : Machine) : m.view.calls = m.calls := rfl

@[simp] theorem view_pc (m : Machine) : m.view.pc = m.pc := rfl

@[simp] theorem view_loops (m : Machine) (p : Nat) : m.view.loops p = m.loops[p]? := rfl

@[simp] theorem view_moveTo (m : Machine) (size : Nat) (flow : Flow) :
    (m.moveTo size flow).view = m.view.moved size flow := by
  cases flow <;> rfl

@[simp] theorem view_empty : ({} : Machine).view = {} := by
  refine View.ext rfl rfl rfl (funext fun p => ?_)
  simp

theorem view_insert (m : Machine) (p : Nat) (b : LoopBounds) :
    ({ m with loops := m.loops.insert p b } : Machine).view =
      { m.view with loops := Function.update m.view.loops p (some b) } := by
  refine View.ext rfl rfl rfl (funext fun q => ?_)
  simp [Function.update_apply, Std.TreeMap.getElem?_insert, eq_comm (a := q)]

theorem view_erase (m : Machine) (p : Nat) :
    ({ m with loops := m.loops.erase p } : Machine).view =
      { m.view with loops := Function.update m.view.loops p none } := by
  refine View.ext rfl rfl rfl (funext fun q => ?_)
  simp [Function.update_apply, Std.TreeMap.getElem?_erase, eq_comm (a := q)]

end Machine

/-! ## Commands on views -/

namespace Exec

theorem run_resolve_ok {α : Type} {r : Except Block.Missing α} {a : α} (h : r = .ok a)
    (m : Machine) : (resolve r).run m = .ok a m := by
  rw [h]
  rfl

/-- A guard never fails, and changes nothing but the log. -/
theorem exists_run_guard (g : String) (m : Machine) :
    ∃ m₁, (guard g).run m = .ok (Formula.condition m.view.scene.store g) m₁ ∧
      m₁.view = m.view := by
  have hstore : m.view.scene.store = m.store := rfl
  rw [guard, Attempt.run_bind_ok (EStateM.run_get m), hstore, Formula.condition]
  cases Formula.boolean m.store g with
  | ok b => exact ⟨m, rfl, rfl⟩
  | error e => exact ⟨_, rfl, rfl⟩

end Exec

namespace CountedLoop

/-- The value and the bounds that a loop is tested with: those at hand if it runs. -/
def head (l : CountedLoop) : Option LoopBounds → Exec (Value × LoopBounds)
  | some bounds => do return (← Exec.ask (·.lookup l.var), bounds)
  | none => l.enter

/-- The variable takes its step. -/
def forward (l : CountedLoop) (bounds : LoopBounds) : Exec Unit := do
  let v ← Exec.ask (·.lookup l.var)
  let next ← Exec.convert (v.add bounds.step)
  Exec.update (Store.assign l.var next)

theorem head_local (l : CountedLoop) (cached : Option LoopBounds) : Exec.Local (l.head cached) := by
  cases cached with
  | some bounds => exact .bind (.ask _) fun _ => .pure _
  | none => exact l.enter_local

theorem forward_local (l : CountedLoop) (bounds : LoopBounds) : Exec.Local (l.forward bounds) :=
  .bind (.ask _) fun _ => .bind (.convert _) fun _ => .update _

/-- The test of a loop, and what follows from it. -/
def test (l : CountedLoop) (code : List CodeLine) (pos : Nat) (v : Value) (bounds : LoopBounds) :
    Exec Flow := do
  if ← Exec.convert (goesOn v bounds) then
    modify fun m => { m with loops := m.loops.insert pos bounds }
    return .next
  else
    modify fun m => { m with loops := m.loops.erase pos }
    let extent ← Exec.resolve (Block.findEnd (markers code) pos .forLoop)
    Exec.note (.loopDone pos l.var)
    return .goto (extent.stop + 1)

theorem run_execute (l : CountedLoop) (code : List CodeLine) (pos : Nat) (m : Machine) :
    (l.execute code pos).run m =
      (l.head (m.view.loops pos) >>= fun r => l.test code pos r.1 r.2).run m := by
  rw [execute, Attempt.run_bind_ok (EStateM.run_get m), Machine.view_loops]
  cases m.loops[pos]? with
  | some bounds =>
    rw [head, bind_assoc]
    rfl
  | none => rfl

theorem run_advance (l : CountedLoop) (start : Nat) (m : Machine) :
    (l.advance start).run m = match m.view.loops start with
      | none => .error (.notRunning l.var) m
      | some bounds => (l.forward bounds).run m := by
  rw [advance, Attempt.run_bind_ok (EStateM.run_get m), Machine.view_loops]
  cases m.loops[start]? <;> rfl

end CountedLoop

namespace Command

/-- What a command does that only works on the scene. -/
def work? : Command → Option (Exec Unit)
  | declare d => some d.execute
  | array d => some d.execute
  | peek p => some p.execute
  | poke p => some p.execute
  | draw d => some d.execute
  | _ => none

variable {code : List CodeLine} {c : Command} {x : Exec Unit}

theorem work?_or_call (h : c.marker? = none) : (∃ x, c.work? = some x) ∨ ∃ name, c = .call name := by
  cases c with
  | call name => exact .inr ⟨name, rfl⟩
  | declare d => exact .inl ⟨_, rfl⟩
  | array d => exact .inl ⟨_, rfl⟩
  | peek p => exact .inl ⟨_, rfl⟩
  | poke p => exact .inl ⟨_, rfl⟩
  | draw d => exact .inl ⟨_, rfl⟩
  | _ => cases h

theorem marker?_of_work? (h : c.work? = some x) : c.marker? = none := by
  cases c <;> first | rfl | cases h

theorem local_of_work? (h : c.work? = some x) : x.Local := by
  cases c with
  | declare d => cases h; exact d.execute_local
  | array d => cases h; exact d.execute_local
  | peek p => cases h; exact p.execute_local
  | poke p => cases h; exact p.execute_local
  | draw d => cases h; exact d.execute_local
  | _ => cases h

theorem execute_of_work? (h : c.work? = some x) (pos : Nat) :
    c.execute code pos = (do x; return .next) := by
  cases c <;> first | cases h; rfl | cases h

/-- At every machine with the view, the command succeeds, says where to go on and leaves a view. -/
def Gives (code : List CodeLine) (c : Command) (v : View) (flow : Flow) (v' : View) : Prop :=
  ∀ m, m.view = v → ∃ m₁, (c.execute code v.pc).run m = .ok flow m₁ ∧ m₁.view = v'

/-- At every machine with the view, the command fails. -/
def Rejects (code : List CodeLine) (c : Command) (v : View) : Prop :=
  ∀ m, m.view = v → ∃ e m₁, (c.execute code v.pc).run m = .error e m₁

variable {v : View} {s : Scene} {p e : Nat} {mid : Option Nat}

theorem gives_work (hc : c.work? = some x) (hs : x.onScene.run v.scene = .ok () s) :
    Gives code c v .next { v with scene := s } := by
  rintro m rfl
  rw [execute_of_work? hc, Attempt.run_bind_ok ((local_of_work? hc).ok hs)]
  exact ⟨_, rfl, rfl⟩

theorem rejects_work {err : CommandError} (hc : c.work? = some x)
    (hs : x.onScene.run v.scene = .error err s) : Rejects code c v := by
  rintro m rfl
  rw [execute_of_work? hc, Attempt.run_bind_error ((local_of_work? hc).error hs)]
  exact ⟨_, _, rfl⟩

theorem gives_ifThen {g : String} (hg : Formula.condition v.scene.store g = true) :
    Gives code (.ifThen g) v .next v := by
  rintro m rfl
  obtain ⟨m₁, hrun, hview⟩ := Exec.exists_run_guard g m
  rw [execute, executeIf, Attempt.run_bind_ok hrun, if_pos hg]
  exact ⟨m₁, rfl, hview⟩

theorem gives_ifThen_skip {g : String} (hg : Formula.condition v.scene.store g = false)
    (hs : Spans code .conditional v.pc mid e) :
    Gives code (.ifThen g) v (.goto (mid.getD e + 1)) v := by
  rintro m rfl
  obtain ⟨m₁, hrun, hview⟩ := Exec.exists_run_guard g m
  rw [execute, executeIf, Attempt.run_bind_ok hrun, if_neg (Bool.eq_false_iff.1 hg),
    Attempt.run_bind_ok (Exec.run_resolve_ok hs.findEnd_eq m₁)]
  exact ⟨_, rfl, hview⟩

theorem gives_orElse (hs : Spans code .conditional p (some v.pc) e) :
    Gives code .orElse v (.goto (e + 1)) v := by
  rintro m rfl
  rw [execute, executeElse, Attempt.run_bind_ok (Exec.run_resolve_ok hs.findEnd_middle_eq m)]
  exact ⟨m, rfl, rfl⟩

theorem gives_endIf : Gives code .endIf v .next v := fun m hm => ⟨m, rfl, hm⟩

theorem gives_whileDo {g : String} (hg : Formula.condition v.scene.store g = true) :
    Gives code (.whileDo g) v .next v := by
  rintro m rfl
  obtain ⟨m₁, hrun, hview⟩ := Exec.exists_run_guard g m
  rw [execute, executeWhile, Attempt.run_bind_ok hrun, if_pos hg]
  exact ⟨m₁, rfl, hview⟩

theorem gives_whileDo_skip {g : String} (hg : Formula.condition v.scene.store g = false)
    (hs : Spans code .whileLoop v.pc mid e) : Gives code (.whileDo g) v (.goto (e + 1)) v := by
  rintro m rfl
  obtain ⟨m₁, hrun, hview⟩ := Exec.exists_run_guard g m
  rw [execute, executeWhile, Attempt.run_bind_ok hrun, if_neg (Bool.eq_false_iff.1 hg),
    Attempt.run_bind_ok (Exec.run_resolve_ok hs.findEnd_eq m₁)]
  exact ⟨_, rfl, hview⟩

theorem gives_endWhile (hs : Spans code .whileLoop p mid v.pc) :
    Gives code .endWhile v (.goto p) v := by
  rintro m rfl
  rw [execute, executeEndWhile, Attempt.run_bind_ok (Exec.run_resolve_ok hs.findStart_eq m)]
  exact ⟨m, rfl, rfl⟩

theorem gives_method {name : String} (hs : Spans code .method v.pc mid e) :
    Gives code (.method name) v (.goto (e + 1)) v := by
  rintro m rfl
  rw [execute, executeMethod, Attempt.run_bind_ok (Exec.run_resolve_ok hs.findEnd_eq m)]
  exact ⟨m, rfl, rfl⟩

theorem gives_endMethod (hcalls : v.calls = []) : Gives code .endMethod v .next v := by
  rintro m rfl
  rw [execute, executeEndMethod, Attempt.run_bind_ok (EStateM.run_get m), show m.calls = [] from hcalls]
  exact ⟨m, rfl, rfl⟩

theorem gives_endMethod_back {site : Nat} {rest : List Nat} (hcalls : v.calls = site :: rest) :
    Gives code .endMethod v (.goto (site + 1)) { v with calls := rest } := by
  rintro m rfl
  rw [execute, executeEndMethod, Attempt.run_bind_ok (EStateM.run_get m),
    show m.calls = site :: rest from hcalls]
  exact ⟨_, rfl, rfl⟩

theorem gives_call {name : String} {header : Nat} (hh : findMethod? code name = some header) :
    Gives code (.call name) v (.goto (header + 1)) { v with calls := v.pc :: v.calls } := by
  rintro m rfl
  rw [execute, executeCall, hh]
  exact ⟨_, rfl, rfl⟩

theorem rejects_call {name : String} (hh : findMethod? code name = none) :
    Rejects code (.call name) v := by
  rintro m rfl
  rw [execute, executeCall, hh]
  exact ⟨_, _, rfl⟩

section Loop

variable {l : CountedLoop} {x : Value} {b : LoopBounds}

theorem gives_countTo (hh : (l.head (v.loops v.pc)).onScene.run v.scene = .ok (x, b) s)
    (hg : CountedLoop.goesOn x b = .ok true) :
    Gives code (.countTo l) v .next
      { v with scene := s, loops := Function.update v.loops v.pc (some b) } := by
  rintro m rfl
  rw [execute, l.run_execute, Attempt.run_bind_ok ((l.head_local _).ok hh), CountedLoop.test, hg]
  exact ⟨_, rfl, (m.withScene s).view_insert m.pc b⟩

theorem gives_countTo_skip (hh : (l.head (v.loops v.pc)).onScene.run v.scene = .ok (x, b) s)
    (hg : CountedLoop.goesOn x b = .ok false) (hs : Spans code .forLoop v.pc mid e) :
    Gives code (.countTo l) v (.goto (e + 1))
      { v with scene := s, loops := Function.update v.loops v.pc none } := by
  rintro m rfl
  rw [execute, l.run_execute, Attempt.run_bind_ok ((l.head_local _).ok hh), CountedLoop.test, hg,
    hs.findEnd_eq]
  exact ⟨_, rfl, (m.withScene s).view_erase m.pc⟩

theorem rejects_countTo_head {err : CommandError}
    (hh : (l.head (v.loops v.pc)).onScene.run v.scene = .error err s) :
    Rejects code (.countTo l) v := by
  rintro m rfl
  rw [execute, l.run_execute, Attempt.run_bind_error ((l.head_local _).error hh)]
  exact ⟨_, _, rfl⟩

theorem rejects_countTo_test {err : ValueError}
    (hh : (l.head (v.loops v.pc)).onScene.run v.scene = .ok (x, b) s)
    (hg : CountedLoop.goesOn x b = .error err) : Rejects code (.countTo l) v := by
  rintro m rfl
  rw [execute, l.run_execute, Attempt.run_bind_ok ((l.head_local _).ok hh), CountedLoop.test, hg]
  exact ⟨_, _, rfl⟩

theorem run_endFor {pos : Nat} (hs : Spans code .forLoop p mid pos)
    (hl : commandAt code p = some (.countTo l)) (m : Machine) :
    (execute .endFor code pos).run m = (l.advance p >>= fun _ => pure (.goto p)).run m := by
  rw [execute, executeEndFor, Attempt.run_bind_ok (Exec.run_resolve_ok hs.findStart_eq m)]
  rw [commandAt] at hl
  rw [hl]

variable (hs : Spans code .forLoop p mid v.pc) (hl : commandAt code p = some (.countTo l))
include hs hl

theorem gives_endFor (hb : v.loops p = some b)
    (hf : (l.forward b).onScene.run v.scene = .ok () s) :
    Gives code .endFor v (.goto p) { v with scene := s } := by
  rintro m rfl
  have hadvance : (l.advance p).run m = .ok () (m.withScene s) := by
    rw [l.run_advance, hb]
    exact (l.forward_local b).ok hf
  rw [run_endFor hs hl, Attempt.run_bind_ok hadvance]
  exact ⟨_, rfl, rfl⟩

theorem rejects_endFor_gone (hb : v.loops p = none) : Rejects code .endFor v := by
  rintro m rfl
  have hadvance : (l.advance p).run m = .error (.notRunning l.var) m := by
    rw [l.run_advance, hb]
  rw [run_endFor hs hl, Attempt.run_bind_error hadvance]
  exact ⟨_, _, rfl⟩

theorem rejects_endFor_forward {err : CommandError} (hb : v.loops p = some b)
    (hf : (l.forward b).onScene.run v.scene = .error err s) : Rejects code .endFor v := by
  rintro m rfl
  have hadvance : (l.advance p).run m = .error err (m.withScene s) := by
    rw [l.run_advance, hb]
    exact (l.forward_local b).error hf
  rw [run_endFor hs hl, Attempt.run_bind_error hadvance]
  exact ⟨_, _, rfl⟩

end Loop

end Command

/-! ## Transitions -/

/-- What a step of the machine can do in well nested code. -/
inductive Transition (code : List CodeLine) : View → View → Prop
  | work {v : View} {c : Command} {x : Exec Unit} {s : Scene} (hc : commandAt code v.pc = some c)
      (hx : c.work? = some x) (hs : x.onScene.run v.scene = .ok () s) :
      Transition code v { v with scene := s, pc := v.pc + 1 }
  | call {v : View} {name : String} {header : Nat} (hc : commandAt code v.pc = some (.call name))
      (hh : findMethod? code name = some header) :
      Transition code v { v with calls := v.pc :: v.calls, pc := header + 1 }
  | back {v : View} {p site : Nat} {mid : Option Nat} {rest : List Nat}
      (hs : Spans code .method p mid v.pc) (hcalls : v.calls = site :: rest) :
      Transition code v { v with calls := rest, pc := min (site + 1) code.length }
  | outside {v : View} {p : Nat} {mid : Option Nat} (hs : Spans code .method p mid v.pc)
      (hcalls : v.calls = []) : Transition code v { v with pc := v.pc + 1 }
  | declared {v : View} {mid : Option Nat} {e : Nat} (hs : Spans code .method v.pc mid e) :
      Transition code v { v with pc := e + 1 }
  | yes {v : View} {g : String} {mid : Option Nat} {e : Nat}
      (hc : commandAt code v.pc = some (.ifThen g)) (hs : Spans code .conditional v.pc mid e)
      (hg : Formula.condition v.scene.store g = true) : Transition code v { v with pc := v.pc + 1 }
  | no {v : View} {g : String} {mid : Option Nat} {e : Nat}
      (hc : commandAt code v.pc = some (.ifThen g)) (hs : Spans code .conditional v.pc mid e)
      (hg : Formula.condition v.scene.store g = false) :
      Transition code v { v with pc := mid.getD e + 1 }
  | orElse {v : View} {p e : Nat} (hs : Spans code .conditional p (some v.pc) e) :
      Transition code v { v with pc := e + 1 }
  | endIf {v : View} {p : Nat} {mid : Option Nat} (hs : Spans code .conditional p mid v.pc) :
      Transition code v { v with pc := v.pc + 1 }
  | again {v : View} {g : String} {mid : Option Nat} {e : Nat}
      (hc : commandAt code v.pc = some (.whileDo g)) (hs : Spans code .whileLoop v.pc mid e)
      (hg : Formula.condition v.scene.store g = true) : Transition code v { v with pc := v.pc + 1 }
  | enough {v : View} {g : String} {mid : Option Nat} {e : Nat}
      (hc : commandAt code v.pc = some (.whileDo g)) (hs : Spans code .whileLoop v.pc mid e)
      (hg : Formula.condition v.scene.store g = false) : Transition code v { v with pc := e + 1 }
  | endWhile {v : View} {p : Nat} {mid : Option Nat} (hs : Spans code .whileLoop p mid v.pc) :
      Transition code v { v with pc := p }
  | count {v : View} {l : CountedLoop} {mid : Option Nat} {e : Nat} {x : Value} {b : LoopBounds}
      {s : Scene} (hc : commandAt code v.pc = some (.countTo l)) (hs : Spans code .forLoop v.pc mid e)
      (hh : (l.head (v.loops v.pc)).onScene.run v.scene = .ok (x, b) s)
      (hg : CountedLoop.goesOn x b = .ok true) :
      Transition code v
        { v with scene := s, loops := Function.update v.loops v.pc (some b), pc := v.pc + 1 }
  | past {v : View} {l : CountedLoop} {mid : Option Nat} {e : Nat} {x : Value} {b : LoopBounds}
      {s : Scene} (hc : commandAt code v.pc = some (.countTo l)) (hs : Spans code .forLoop v.pc mid e)
      (hh : (l.head (v.loops v.pc)).onScene.run v.scene = .ok (x, b) s)
      (hg : CountedLoop.goesOn x b = .ok false) :
      Transition code v
        { v with scene := s, loops := Function.update v.loops v.pc none, pc := e + 1 }
  | endFor {v : View} {l : CountedLoop} {p : Nat} {mid : Option Nat} {b : LoopBounds} {s : Scene}
      (hs : Spans code .forLoop p mid v.pc) (hc : commandAt code p = some (.countTo l))
      (hb : v.loops p = some b) (hf : (l.forward b).onScene.run v.scene = .ok () s) :
      Transition code v { v with scene := s, pc := p }

namespace Machine

variable {code : List CodeLine} {m m' : Machine} {c : Command}

theorem step_of_gives {flow : Flow} {v : View} (hc : commandAt code m.pc = some c)
    (h : c.Gives code m.view flow v) :
    ∃ m', Step code m m' ∧ m'.view = v.moved code.length flow := by
  obtain ⟨l, hl, rfl⟩ := commandAt_eq_some.1 hc
  obtain ⟨m₁, hrun, rfl⟩ := h (m.noteExecute l) rfl
  refine ⟨m₁.moveTo code.length flow, ⟨l, hl, ?_⟩, m₁.view_moveTo _ flow⟩
  have heq : l.command.execute code m.pc (m.noteExecute l) = .ok flow m₁ := hrun
  rw [step, heq]

theorem not_step_of_rejects (hc : commandAt code m.pc = some c) (h : c.Rejects code m.view) :
    ¬ Step code m m' := by
  rintro ⟨l, hl, hstep⟩
  obtain ⟨l', hl', rfl⟩ := commandAt_eq_some.1 hc
  cases hl.symm.trans hl'
  obtain ⟨e, m₁, hrun⟩ := h (m.noteExecute l) rfl
  have heq : l.command.execute code m.pc (m.noteExecute l) = .error e m₁ := hrun
  rw [step, heq] at hstep
  cases hstep

/-- A step that is known from what its command gives. -/
theorem Step.eq_of_gives {flow : Flow} {v : View} (h : Step code m m')
    (hc : commandAt code m.pc = some c) (hg : c.Gives code m.view flow v) :
    m'.view = v.moved code.length flow := by
  obtain ⟨m₁, hstep, hview⟩ := step_of_gives hc hg
  rw [h.unique hstep, hview]

theorem Step.eq_of_gives_goto {target : Nat} {v : View} (h : Step code m m')
    (hc : commandAt code m.pc = some c) (hg : c.Gives code m.view (.goto target) v)
    (hle : target ≤ code.length) : m'.view = { v with pc := target } := by
  rw [h.eq_of_gives hc hg, v.moved_goto hle]

theorem Step.eq_of_work {x : Exec Unit} (h : Step code m m') (hc : commandAt code m.pc = some c)
    (hx : c.work? = some x) : ∃ s, x.onScene.run m.view.scene = .ok () s ∧
      m'.view = { m.view with scene := s, pc := m.view.pc + 1 } := by
  cases hs : x.onScene.run m.view.scene with
  | ok a s => exact ⟨s, rfl, h.eq_of_gives hc (Command.gives_work hx hs)⟩
  | error e s => exact absurd h (not_step_of_rejects hc (Command.rejects_work hx hs))

theorem Step.eq_of_countTo {l : CountedLoop} {mid : Option Nat} {e : Nat} (h : Step code m m')
    (hc : commandAt code m.pc = some (.countTo l)) (hs : Spans code .forLoop m.pc mid e) :
    ∃ x b s, (l.head (m.view.loops m.view.pc)).onScene.run m.view.scene = .ok (x, b) s ∧
      ((CountedLoop.goesOn x b = .ok true ∧ m'.view = { m.view with
          scene := s, loops := Function.update m.view.loops m.view.pc (some b),
          pc := m.view.pc + 1 }) ∨
        (CountedLoop.goesOn x b = .ok false ∧ m'.view = { m.view with
          scene := s, loops := Function.update m.view.loops m.view.pc none, pc := e + 1 })) := by
  cases hh : (l.head (m.view.loops m.view.pc)).onScene.run m.view.scene with
  | error err s => exact absurd h (not_step_of_rejects hc (Command.rejects_countTo_head hh))
  | ok r s =>
    obtain ⟨x, b⟩ := r
    refine ⟨x, b, s, rfl, ?_⟩
    cases hg : CountedLoop.goesOn x b with
    | error err => exact absurd h (not_step_of_rejects hc (Command.rejects_countTo_test hh hg))
    | ok more =>
      cases more with
      | true => exact .inl ⟨rfl, h.eq_of_gives hc (Command.gives_countTo hh hg)⟩
      | false =>
        exact .inr ⟨rfl, h.eq_of_gives_goto hc (Command.gives_countTo_skip hh hg hs) hs.lt_length⟩

theorem Step.eq_of_endFor {l : CountedLoop} {p : Nat} {mid : Option Nat} (h : Step code m m')
    (hl : commandAt code p = some (.countTo l)) (hs : Spans code .forLoop p mid m.pc) :
    ∃ b s, m.view.loops p = some b ∧ (l.forward b).onScene.run m.view.scene = .ok () s ∧
      m'.view = { m.view with scene := s, pc := p } := by
  have hc : commandAt code m.pc = some .endFor := hs.stop_command (o := .countTo l) rfl
  cases hb : m.view.loops p with
  | none => exact absurd h (not_step_of_rejects hc (Command.rejects_endFor_gone hs hl hb))
  | some b =>
    cases hf : (l.forward b).onScene.run m.view.scene with
    | error err s =>
      exact absurd h (not_step_of_rejects hc (Command.rejects_endFor_forward hs hl hb hf))
    | ok a s =>
      exact ⟨b, s, rfl, hf, h.eq_of_gives_goto hc (Command.gives_endFor hs hl hb hf)
        (Nat.le_of_lt (Nat.lt_trans hs.lt hs.lt_length))⟩

end Machine

/-- Every transition is a step of the machine. -/
theorem Transition.exists_step {code : List CodeLine} {m : Machine} {v : View}
    (h : Transition code m.view v) : ∃ m', Machine.Step code m m' ∧ m'.view = v := by
  have hjump : ∀ {c : Command} {target : Nat} {v : View}, commandAt code m.pc = some c →
      c.Gives code m.view (.goto target) v → target ≤ code.length →
      ∃ m', Machine.Step code m m' ∧ m'.view = { v with pc := target } := by
    intro c target v hc hg hle
    rw [← v.moved_goto hle]
    exact Machine.step_of_gives hc hg
  cases h with
  | work hc hx hs =>
    exact Machine.step_of_gives hc (Command.gives_work hx hs)
  | call hc hh =>
    have hlt := (List.findIdx?_eq_some_iff_getElem.1 hh).1
    exact hjump hc (Command.gives_call hh) hlt
  | back hs hcalls =>
    exact Machine.step_of_gives (hs.stop_command (o := .method "") rfl)
      (Command.gives_endMethod_back hcalls)
  | outside hs hcalls =>
    exact Machine.step_of_gives (hs.stop_command (o := .method "") rfl)
      (Command.gives_endMethod hcalls)
  | declared hs =>
    obtain ⟨name, hc⟩ := hs.method_command
    exact hjump hc (Command.gives_method hs) hs.lt_length
  | yes hc hs hg =>
    exact Machine.step_of_gives hc (Command.gives_ifThen hg)
  | no hc hs hg =>
    exact hjump hc (Command.gives_ifThen_skip hg hs)
      (Nat.lt_of_le_of_lt hs.getD_le hs.lt_length)
  | orElse hs =>
    exact hjump hs.middle_command.1 (Command.gives_orElse hs) hs.lt_length
  | endIf hs =>
    exact Machine.step_of_gives (hs.stop_command (o := .ifThen "") rfl) Command.gives_endIf
  | again hc hs hg =>
    exact Machine.step_of_gives hc (Command.gives_whileDo hg)
  | enough hc hs hg =>
    exact hjump hc (Command.gives_whileDo_skip hg hs) hs.lt_length
  | endWhile hs =>
    exact hjump (hs.stop_command (o := .whileDo "") rfl) (Command.gives_endWhile hs)
      (Nat.le_of_lt (Nat.lt_trans hs.lt hs.lt_length))
  | count hc hs hh hg =>
    exact Machine.step_of_gives hc (Command.gives_countTo hh hg)
  | past hc hs hh hg =>
    exact hjump hc (Command.gives_countTo_skip hh hg hs) hs.lt_length
  | @endFor l _ _ _ _ hs hc hb hf =>
    exact hjump (hs.stop_command (o := .countTo l) rfl) (Command.gives_endFor hs hc hb hf)
      (Nat.le_of_lt (Nat.lt_trans hs.lt hs.lt_length))

namespace Machine

variable {code : List CodeLine} {m m' : Machine}

/-- Every step of the machine in well nested code is one of the transitions. -/
theorem Step.transition {t : BlockTree} (hn : Nested code t) (h : Step code m m') :
    Transition code m.view m'.view := by
  obtain ⟨c, hc⟩ : ∃ c, commandAt code m.pc = some c := by
    obtain ⟨l, hl, -⟩ := h
    exact ⟨l.command, commandAt_eq_some.2 ⟨l, hl, rfl⟩⟩
  have hwork : ∀ {x}, c.work? = some x → Transition code m.view m'.view := by
    intro x hx
    obtain ⟨s, hs, hview⟩ := h.eq_of_work hc hx
    rw [hview]
    exact .work hc hx hs
  cases c with
  | declare d => exact hwork rfl
  | array d => exact hwork rfl
  | peek p => exact hwork rfl
  | poke p => exact hwork rfl
  | draw d => exact hwork rfl
  | call name =>
    cases hh : findMethod? code name with
    | none => exact absurd h (not_step_of_rejects hc (Command.rejects_call hh))
    | some header =>
      rw [h.eq_of_gives_goto hc (Command.gives_call hh) (List.findIdx?_eq_some_iff_getElem.1 hh).1]
      exact .call hc hh
  | ifThen g =>
    obtain ⟨mid, e, hs⟩ := hn.exists_spans_of_start hc rfl
    cases hg : Formula.condition m.view.scene.store g with
    | true =>
      rw [h.eq_of_gives hc (Command.gives_ifThen hg)]
      exact .yes hc hs hg
    | false =>
      rw [h.eq_of_gives_goto hc (Command.gives_ifThen_skip hg hs)
        (Nat.lt_of_le_of_lt hs.getD_le hs.lt_length)]
      exact .no hc hs hg
  | orElse =>
    obtain ⟨p, e, hs⟩ := hn.exists_spans_of_middle hc rfl
    rw [h.eq_of_gives_goto hc (Command.gives_orElse hs) hs.lt_length]
    exact .orElse hs
  | endIf =>
    obtain ⟨p, mid, hs⟩ := hn.exists_spans_of_stop hc rfl
    rw [h.eq_of_gives hc Command.gives_endIf]
    exact .endIf hs
  | whileDo g =>
    obtain ⟨mid, e, hs⟩ := hn.exists_spans_of_start hc rfl
    cases hg : Formula.condition m.view.scene.store g with
    | true =>
      rw [h.eq_of_gives hc (Command.gives_whileDo hg)]
      exact .again hc hs hg
    | false =>
      rw [h.eq_of_gives_goto hc (Command.gives_whileDo_skip hg hs) hs.lt_length]
      exact .enough hc hs hg
  | endWhile =>
    obtain ⟨p, mid, hs⟩ := hn.exists_spans_of_stop hc rfl
    rw [h.eq_of_gives_goto hc (Command.gives_endWhile hs)
      (Nat.le_of_lt (Nat.lt_trans hs.lt hs.lt_length))]
    exact .endWhile hs
  | countTo l =>
    obtain ⟨mid, e, hs⟩ := hn.exists_spans_of_start hc rfl
    obtain ⟨x, b, s, hh, ⟨hg, hview⟩ | ⟨hg, hview⟩⟩ := h.eq_of_countTo hc hs
    · rw [hview]
      exact .count hc hs hh hg
    · rw [hview]
      exact .past hc hs hh hg
  | endFor =>
    obtain ⟨p, mid, hs⟩ := hn.exists_spans_of_stop hc rfl
    obtain ⟨l, hl⟩ := hs.countTo_command
    obtain ⟨b, s, hb, hf, hview⟩ := h.eq_of_endFor hl hs
    rw [hview]
    exact .endFor hs hl hb hf
  | method name =>
    obtain ⟨mid, e, hs⟩ := hn.exists_spans_of_start hc rfl
    rw [h.eq_of_gives_goto hc (Command.gives_method hs) hs.lt_length]
    exact .declared hs
  | endMethod =>
    obtain ⟨p, mid, hs⟩ := hn.exists_spans_of_stop hc rfl
    cases hcalls : m.view.calls with
    | nil =>
      rw [h.eq_of_gives hc (Command.gives_endMethod hcalls)]
      exact .outside hs hcalls
    | cons site rest =>
      rw [h.eq_of_gives hc (Command.gives_endMethod_back hcalls)]
      exact .back hs hcalls

end Machine

end PenScript
