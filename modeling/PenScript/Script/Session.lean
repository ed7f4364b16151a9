import PenScript.Program
import PenScript.Script.Error
import PenScript.Script.Line

/-!
# Reading scripts

* `Session` is a program with the bookkeeping of the reader: the blocks that are open and the
  methods that are declared;
* `Session.readLine` adds the command of one line;
* `Session.readScript` reads a whole script and collects the errors of all its lines.
-/

namespace PenScript

/-- A block that was started and not ended yet. -/
structure OpenBlock where
  kind : Block.Kind
  line : Nat
  hasElse : Bool
deriving Repr, DecidableEq

/-- The blocks that are open, innermost first, and the names of the methods. -/
structure Bookkeeping where
  blocks : List OpenBlock := []
  methods : List String := []
deriving Repr, DecidableEq

/-- A program and the reader that fills it. -/
structure Session where
  program : Program := {}
  books : Bookkeeping := {}
  log : Array Event := #[]

instance : Inhabited Session := ⟨{}⟩

/-- An operation on the bookkeeping that may fail. -/
abbrev Track := EStateM ScriptError Bookkeeping

namespace Track

/-- A block starts. Methods do not nest, and have names of their own. -/
def start (kind : Block.Kind) (c : Command) (line : Nat) : Track Unit := do
  match c with
  | .method name =>
    if (← get).blocks.any (·.kind == .method) then throw (.nestedMethod name)
    if (← get).methods.contains name then throw (.duplicateMethod name)
    modify fun b => { b with methods := name :: b.methods }
  | _ => pure ()
  modify fun b => { b with blocks := ⟨kind, line, false⟩ :: b.blocks }

/-- The innermost block gets its middle. -/
def middle (kind : Block.Kind) : Track Unit := do
  match (← get).blocks with
  | [] => throw .elseOutsideIf
  | block :: rest =>
    if block.kind ≠ kind then throw .elseOutsideIf
    if block.hasElse then throw .secondElse
    modify fun b => { b with blocks := { block with hasElse := true } :: rest }

/-- The innermost block ends. -/
def stop (kind : Block.Kind) : Track Unit := do
  match (← get).blocks with
  | [] => throw (.strayEnd kind.endKeyword)
  | block :: rest =>
    if block.kind ≠ kind then throw (.mismatchedEnd kind.endKeyword block.kind.endKeyword)
    modify fun b => { b with blocks := rest }

/-- Keeps the books for a command. -/
def command (c : Command) (line : Nat) : Track Unit :=
  match c.marker? with
  | none => pure ()
  | some ⟨kind, .start⟩ => start kind c line
  | some ⟨kind, .middle⟩ => middle kind
  | some ⟨kind, .stop⟩ => stop kind

end Track

/-- An operation of the reader that may fail. -/
abbrev Reading := EStateM ScriptError Session

namespace Session

/-- What a line asks for: its keyword and parameters, and whether it changes a variable. -/
structure Request where
  keyword : Keyword
  params : String
  update : Bool
deriving Repr, DecidableEq

/-- The name that a text assigns to, if it has the form of an assignment. -/
def assigned? (text : List Char) : Option String := do
  let (name, _) ← splitAssignment? text
  let name := Text.trim name
  if name.isEmpty || Text.hasBlank name then none else some (String.ofList name)

/-- The request of a line. One that starts with no keyword may assign to a variable, which is a
declaration of its type that changes it. -/
def request (l : ScriptLine) (s : Store) : Except ScriptError Request :=
  match Keyword.ofWord? l.keyword with
  | some k => .ok ⟨k, l.params, false⟩
  | none =>
    match assigned? l.text.toList with
    | none => .error (.unknownCommand l.keyword)
    | some name =>
      match (s.get? name).map Value.type with
      | none => .error (.undeclaredVariable name)
      | some (.array _) => .error (.arrayAssignment name)
      | some t => .ok ⟨t.declaredBy, l.text, true⟩

/-- The command of a request. -/
def Request.command (r : Request) : Except CommandError Command := do
  let c ← Command.configure r.keyword r.params
  return if r.update then c.asUpdate else c

/-- The text of a request in listings. -/
def Request.text (r : Request) : String :=
  if r.update then r.params
  else if r.params.isEmpty then r.keyword.word
  else r.keyword.word ++ " " ++ r.params

/-- Announces a command in the store of the program. -/
def prepare (c : Command) : Reading Unit := fun s =>
  match c.prepare s.program.store with
  | .ok () store => .ok () { s with program := s.program.setStore store }
  | .error e store => .error (.command e) { s with program := s.program.setStore store }

/-- Keeps the books for a command. -/
def track (c : Command) (line : Nat) : Reading Unit := fun s =>
  match Track.command c line s.books with
  | .ok () books => .ok () { s with books := books }
  | .error e books => .error e { s with books := books }

/-- Adds a command to the program and gives its position. -/
def push (c : CodeLine) : Reading Nat := do
  let position := (← get).program.size
  modify fun s =>
    { s with program := s.program.push c, log := s.log.push (.parsed c.line c.text) }
  return position

/-- A result as a step of the reader. -/
def lift (f : ε → ScriptError) (r : Except ε α) : Reading α :=
  match r with
  | .ok a => pure a
  | .error e => throw (f e)

/-- Reads one line. Gives the position of its command, or nothing if it has none. -/
def readLine (text : String) (line : Nat) : Reading (Option Nat) := do
  match ScriptLine.read? text line with
  | none => return none
  | some l =>
    let r ← lift id (request l (← get).program.store)
    let c ← lift .command r.command
    prepare c
    track c line
    return some (← push ⟨c, line, r.text⟩)

/-- Reads lines from a number on, and gives the errors in order. -/
def readLines : List (List Char) → Nat → Session → List ScriptFault × Session
  | [], _, s => ([], s)
  | text :: rest, line, s =>
    match readLine (String.ofList text) line s with
    | .ok _ s => readLines rest (line + 1) s
    | .error e s =>
      let (faults, s) := readLines rest (line + 1) s
      (⟨line, e⟩ :: faults, s)

/-- The blocks that are still open, outermost first. -/
def unclosed (books : Bookkeeping) : List ScriptFault :=
  books.blocks.reverse.map fun b =>
    ⟨b.line, .unclosedBlock b.kind.startKeyword b.kind.endKeyword⟩

/-- The calls of methods that the code does not declare. -/
def undeclaredCalls (code : List CodeLine) : List ScriptFault :=
  code.filterMap fun c =>
    match c.command with
    | .call name =>
      if (findMethod? code name).isNone then some ⟨c.line, .undeclaredMethod name⟩ else none
    | _ => none

/-- No code, a blank state and empty books. -/
def reset (s : Session) : Session := { s with program := s.program.reset, books := {} }

/-- Reads a whole script in place of the program. The program can run if there is no error. -/
def readScript (source : String) : EStateM (List ScriptFault) Session Unit := fun s =>
  let (faults, s) := readLines (Text.lines source.toList) 0 s.reset
  let faults := faults ++ unclosed s.books ++ undeclaredCalls s.program.code
  let s := { s with books := { s.books with blocks := [] } }
  if faults.isEmpty then
    .ok () { s with
      program := s.program.markParsed
      log := s.log.push (.programParsed s.program.size) }
  else .error faults { s with log := s.log.push (.parsingFailed faults.length) }

end Session

/-- The program of a script. -/
def Program.ofScript (source : String) : Except (List ScriptFault) Program :=
  match Session.readScript source {} with
  | .ok () s => .ok s.program
  | .error faults _ => .error faults

end PenScript
