import PenScript.Machine.Execute
import PenScript.Report

/-!
# Programs and their runs

* `Program` is the code with the state that its last run left;
* `Machine.step` executes one command;
* `Machine.run` executes commands until the code ends, one fails, or a limit is reached;
* `Machine.restart` clears what the last run left, and `Program.run` starts from there.
-/

namespace PenScript

/-- Why a run did not reach the end of its program. -/
inductive RunError where
  | notParsed
  | limitExceeded (limit position : Nat)
  | failed (position line : Nat) (cause : CommandError)
deriving Repr

namespace RunError

/-- The words for the error. -/
def message (p : Paint) : RunError → String
  | notParsed => p.error ++ " program can't run: it wasn't parsed successfully"
  | limitExceeded limit position =>
    p.error ++ " execution limit of " ++ toString limit ++ " commands exceeded at command #" ++
      toString position ++ ", possible infinite loop"
  | failed _ _ cause => cause.message p

/-- The words for the error, with the place of the command that failed. -/
def report (p : Paint) : RunError → String
  | failed position line cause => Report.atCommand position line (cause.message p)
  | e => e.message p

end RunError

namespace Machine

/-- Moves to the next command, or to the target of a jump, which is noted. -/
def moveTo (m : Machine) (size : Nat) : Flow → Machine
  | .next => { m with pc := m.pc + 1 }
  | .goto target =>
    let target := min target size
    { m with log := m.log.push (.jump m.pc target), pc := target }

/-- Notes that a command is executed. -/
def noteExecute (m : Machine) (c : CodeLine) : Machine :=
  { m with log := m.log.push (.execute m.pc c.line c.text) }

/-- Executes a command of the code that stands at the counter. -/
def step (code : List CodeLine) (c : CodeLine) (m : Machine) :
    EStateM.Result CommandError Machine Unit :=
  match c.command.execute code m.pc (m.noteExecute c) with
  | .ok flow m => .ok () (m.moveTo code.length flow)
  | .error e m => .error e m

/-- Executes commands until the counter leaves the code, with `budget` commands left of `limit`.
The result is the number of commands executed. -/
def run (code : List CodeLine) (limit : Nat) :
    Nat → Machine → EStateM.Result RunError Machine Nat
  | budget, m =>
    match code[m.pc]? with
    | none => .ok (limit - budget) m
    | some c =>
      match budget with
      | 0 => .error (.limitExceeded limit m.pc) m
      | budget + 1 =>
        let pc := m.pc
        match step code c m with
        | .ok () m => run code limit budget m
        | .error e m => .error (.failed pc c.line e) m

/-- Forgets the last run, part by part: the variables, the calls that have not returned, the fill
flag, the bounds of every loop and the counter; the drawing and the log start anew. -/
def restart (m : Machine) : Machine :=
  { m with
    store := .empty
    calls := []
    fill := false
    loops := {}
    pc := 0
    strokes := #[]
    log := #[] }

end Machine

/-- Code, and the state that its last run or the reading of its source left. -/
structure Program where
  code : List CodeLine := []
  parsed : Bool := false
  limit : Nat := 50000
  machine : Machine := {}

/-- What a run gives: the number of commands executed or an error, the drawing, the log, and the
program with its state after the run. -/
structure Run where
  result : Except RunError Nat
  strokes : List Stroke
  log : List Event
  program : Program

namespace Program

instance : Inhabited Program := ⟨{}⟩

/-- The variables. -/
def store (p : Program) : Store := p.machine.store

/-- The position of the next command. -/
def pc (p : Program) : Nat := p.machine.pc

/-- The number of commands. -/
def size (p : Program) : Nat := p.code.length

/-- The texts of the commands, one a line. -/
def listing (p : Program) : String := "\n".intercalate (p.code.map (·.text))

/-- The positions of the counted loops that run. -/
def running (p : Program) : List Nat := p.machine.loops.keys

/-- Takes the code away, with the state that it left; the limit stays. -/
def reset (p : Program) : Program :=
  { p with code := [], parsed := false, machine := p.machine.restart }

/-- Adds a command behind the others. -/
def push (p : Program) (c : CodeLine) : Program := { p with code := p.code ++ [c] }

/-- Allows the program to run. -/
def markParsed (p : Program) : Program := { p with parsed := true }

/-- Changes how many commands a run may execute. -/
def setLimit (p : Program) (limit : Nat) : Program := { p with limit := limit }

/-- Replaces the variables. -/
def setStore (p : Program) (s : Store) : Program :=
  { p with machine := { p.machine with store := s } }

/-- Moves the counter, at most to the end of the code. -/
def jump (p : Program) (target : Nat) : Program :=
  { p with machine := { p.machine with pc := min target p.code.length } }

/-- Moves the counter one command further. -/
def advance (p : Program) : Program := p.jump (p.pc + 1)

/-- The program with the state in which a run stopped. -/
def stoppedAt (p : Program) (m : Machine) : Program := { p with machine := m }

/-- Runs the program, whatever state it was in. One that was not parsed does not run. -/
def run (p : Program) : Run :=
  if p.parsed then
    match Machine.run p.code p.limit p.limit p.machine.restart with
    | .ok steps m =>
      { result := .ok steps
        strokes := m.strokes.toList
        log := (m.log.push (.completed steps m.store.size)).toList
        program := p.stoppedAt m }
    | .error e m =>
      { result := .error e
        strokes := m.strokes.toList
        log := m.log.toList
        program := p.stoppedAt m }
  else { result := .error .notParsed, strokes := [], log := [], program := p }

end Program

end PenScript
