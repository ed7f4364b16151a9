import PenScript.Text.Integer

/-!
# The options of the command line

`Options.parse` reads the arguments. An option has a long name and a letter; letters can be joined,
and a value follows as the next argument or behind the name, with or without `=`. Arguments are taken
in order, and the first that does not fit decides.
-/

namespace PenScript.Console

/-- What the command line asks for. -/
structure Options where
  file : Option String := none
  list : Bool := false
  test : Option String := none
  maxSteps : Option Nat := none
  dump : Bool := false
  verbose : Nat := 0
deriving Repr, DecidableEq

/-- How many commands a run may execute when the options do not say. -/
def defaultMaxSteps : Nat := 50000

/-- Why the arguments are not options to run with. -/
inductive Refusal where
  | usage
  | version
  | help
deriving Repr, DecidableEq

/-- The options that take a value. -/
inductive ValueOption where
  | file
  | test
  | maxSteps
deriving Repr, DecidableEq

/-- The options that take none. -/
inductive Flag where
  | list
  | dump
  | verbose
  | version
  | help
deriving Repr, DecidableEq

/-- An option. -/
inductive Name where
  | flag (f : Flag)
  | value (v : ValueOption)
deriving Repr, DecidableEq

/-- The option of a long name. -/
def Name.ofLong? (s : String) : Option Name :=
  match s with
  | "file" => some (.value .file)
  | "test" => some (.value .test)
  | "max-steps" => some (.value .maxSteps)
  | "list" => some (.flag .list)
  | "dump" => some (.flag .dump)
  | "verbose" => some (.flag .verbose)
  | "version" => some (.flag .version)
  | "help" => some (.flag .help)
  | _ => none

/-- The option of a letter. -/
def Name.ofLetter? (c : Char) : Option Name :=
  match c with
  | 'f' => some (.value .file)
  | 't' => some (.value .test)
  | 'm' => some (.value .maxSteps)
  | 'l' => some (.flag .list)
  | 'd' => some (.flag .dump)
  | 'v' => some (.flag .verbose)
  | 'V' => some (.flag .version)
  | 'h' => some (.flag .help)
  | _ => none

/-- A number of steps: digits with an optional plus sign, at most 64 bits. -/
def readSteps? (s : List Char) : Option Nat :=
  let digits := match s with
    | '+' :: rest => rest
    | s => s
  (Text.readNat? 10 digits).filter (· < UInt64.size)

namespace Options

/-- The option with its value. It is given at most once. -/
def setValue (o : Options) (v : ValueOption) (s : List Char) : Except Refusal Options :=
  match v with
  | .file =>
    if o.file.isSome then .error .usage else .ok { o with file := some (String.ofList s) }
  | .test =>
    if o.test.isSome then .error .usage else .ok { o with test := some (String.ofList s) }
  | .maxSteps =>
    if o.maxSteps.isSome then .error .usage
    else
      match readSteps? s with
      | some n => .ok { o with maxSteps := some n }
      | none => .error .usage

/-- The flag set. Only the verbosity can be given again. -/
def setFlag (o : Options) (f : Flag) : Except Refusal Options :=
  match f with
  | .list => if o.list then .error .usage else .ok { o with list := true }
  | .dump => if o.dump then .error .usage else .ok { o with dump := true }
  | .verbose => .ok { o with verbose := o.verbose + 1 }
  | .version => .error .version
  | .help => .error .help

/-- Joined letters. An option with a value takes the rest of them, or waits for the next argument if
there is no rest. -/
def letters (o : Options) : List Char → Except Refusal (Options × Option ValueOption)
  | [] => .ok (o, none)
  | c :: rest =>
    match Name.ofLetter? c with
    | none => .error .usage
    | some (.flag f) => do (← o.setFlag f).letters rest
    | some (.value v) =>
      match rest with
      | [] => .ok (o, some v)
      | '=' :: s => do return (← o.setValue v s, none)
      | s => do return (← o.setValue v s, none)

/-- A long name, with a value behind `=` or not. -/
def long (o : Options) (s : List Char) : Except Refusal (Options × Option ValueOption) :=
  let name := String.ofList (s.takeWhile (· ≠ '='))
  match Name.ofLong? name, s.dropWhile (· ≠ '=') with
  | none, _ => .error .usage
  | some (.flag f), [] => do return (← o.setFlag f, none)
  | some (.flag _), _ :: _ => .error .usage
  | some (.value v), [] => .ok (o, some v)
  | some (.value v), _ :: value => do return (← o.setValue v value, none)

/-- Reads the arguments, while an option may wait for its value. Behind `--` nothing may follow. -/
def parseFrom : Options → Option ValueOption → List (List Char) → Except Refusal Options
  | o, none, [] => .ok o
  | _, some _, [] => .error .usage
  | o, none, ['-', '-'] :: rest => if rest.isEmpty then .ok o else .error .usage
  | _, some _, ['-', '-'] :: _ => .error .usage
  | o, none, ('-' :: '-' :: name) :: rest => do
    let (o, waiting) ← o.long name
    parseFrom o waiting rest
  | o, none, ('-' :: c :: cs) :: rest => do
    let (o, waiting) ← o.letters (c :: cs)
    parseFrom o waiting rest
  | _, none, _ :: _ => .error .usage
  | _, some _, ('-' :: _ :: _) :: _ => .error .usage
  | o, some v, value :: rest => do parseFrom (← o.setValue v value) none rest

/-- The options of the arguments. -/
def parse (args : List String) : Except Refusal Options :=
  parseFrom {} none (args.map String.toList)

/-- How many commands a run may execute. -/
def limit (o : Options) : Nat := o.maxSteps.getD defaultMaxSteps

end Options

end PenScript.Console
