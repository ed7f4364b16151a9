import PenScript.Console.FileTree
import PenScript.Console.Options
import PenScript.Script.Session

/-!
# The command line

`Console.run` is the whole program as a function: from its arguments and the files it can see to its
output and exit code.
-/

namespace PenScript.Console

/-- The code that the program ends with, what it prints, and what it complains of. -/
structure Outcome where
  exitCode : Nat
  output : String
  complaint : String := ""
deriving Repr, DecidableEq

/-- Why there is nothing to run. -/
inductive ConsoleError where
  | openFile (path : String) (cause : FileError)
  | listScripts (cause : FileError)
  | nothingToRun
deriving Repr, DecidableEq

/-- The words for the error. -/
def ConsoleError.message (p : Paint) : ConsoleError → String
  | openFile path cause => p.error ++ " opening script file " ++ path ++ ": " ++ cause.message
  | listScripts cause => p.error ++ " reading scripts directory: " ++ cause.message
  | nothingToRun =>
    p.error ++ " no file given, use " ++ p.word "--file" ++ " or " ++ p.word "--test"

/-- Text, one line after the other. -/
def lines (ls : List String) : String := String.join (ls.map (· ++ "\n"))

/-- A number in a column of four. -/
def column (n : Nat) : String :=
  let s := toString n
  String.ofList (List.replicate (4 - s.length) ' ') ++ s

/-- The word behind a shape that is filled. -/
def filledWord (filled : Bool) : String := if filled then " filled" else ""

/-- A stroke as a word and its details. -/
def strokeWords (p : Paint) : Stroke → String × String
  | .pen r g b => ("pen", p.apply (.color r.toNat g.toNat b.toNat) "■")
  | .moveTo x y => ("moveto", "(" ++ Text.showInt64 x ++ ", " ++ Text.showInt64 y ++ ")")
  | .drawTo x y => ("drawto", "(" ++ Text.showInt64 x ++ ", " ++ Text.showInt64 y ++ ")")
  | .rectangle w h filled =>
    ("rectangle", toString w.toNat ++ "x" ++ toString h.toNat ++ filledWord filled)
  | .circle r filled => ("circle", "r=" ++ toString r.toNat ++ filledWord filled)
  | .clear => ("clear", "")
  | .text s => ("write", s)

/-- A stroke as a line. -/
def strokeLine (p : Paint) (s : Stroke) : String :=
  let (word, details) := strokeWords p s
  "  " ++ p.word word ++ " " ++ details

/-- The commands of a program, one a line. -/
def listing (code : List CodeLine) : List String :=
  code.mapIdx fun i c => "  " ++ column i ++ " | line " ++ column (c.line + 1) ++ " | " ++ c.text

/-- How a run ended. -/
def verdict (p : Paint) (r : Run) : String :=
  match r.result with
  | .ok steps =>
    "\n" ++ p.apply .success "Done" ++ " in " ++ toString steps ++ " steps, " ++
      toString r.strokes.length ++ " drawing operations"
  | .error e => e.report p

/-- The variables, one a line. -/
def dump (p : Paint) (s : Store) : List String :=
  s.toList.map fun (name, v) => "  " ++ p.word name ++ " = " ++ v.display

/-- Reads and runs a script. Gives what is printed, and whether all went well. -/
def runSource (p : Paint) (o : Options) (source : String) : List String × Bool :=
  match Session.readScript source { program := { limit := o.limit } } with
  | .error faults _ => ([ScriptFault.report p faults], false)
  | .ok () s =>
    let r := s.program.run
    let listed := if o.list then "\nParsed commands:" :: listing s.program.code else []
    let drawn := "\nProgram output:" :: r.strokes.map (strokeLine p)
    let dumped := if o.dump then "\nVariables:" :: dump p r.program.store else []
    (listed ++ drawn ++ [verdict p r] ++ dumped, r.result.isOk)

/-- Runs a file. Gives what is printed, and whether all went well unless it could not be read. -/
def runFile (p : Paint) (o : Options) (files : FileView) (path : String) :
    List String × Except ConsoleError Bool :=
  let head := "\nReading source file " ++ p.apply .path path ++ "..."
  match files.read path with
  | .error e => ([head], .error (.openFile path e))
  | .ok source =>
    let (printed, fine) := runSource p o source
    (head :: printed, .ok fine)

/-- Runs files until one cannot be read, and counts those that failed. -/
def runFiles (p : Paint) (o : Options) (files : FileView) :
    List String → Nat → List String × Except ConsoleError Nat
  | [], failures => ([], .ok failures)
  | path :: rest, failures =>
    match runFile p o files path with
    | (printed, .error e) => (printed, .error e)
    | (printed, .ok fine) =>
      let (later, result) := runFiles p o files rest (if fine then failures else failures + 1)
      (printed ++ later, result)

/-- Where the scripts are that a test of all of them runs. -/
def scriptsDirectory : String := "scripts"

/-- Runs all scripts, in the order of their names. -/
def runAll (p : Paint) (o : Options) (files : FileView) : List String × Except ConsoleError Bool :=
  match files.list scriptsDirectory with
  | .error e => ([], .error (.listScripts e))
  | .ok names =>
    let paths := (names.mergeSort (· ≤ ·)).map (scriptsDirectory ++ "/" ++ ·)
    match runFiles p o files paths 0 with
    | (printed, .error e) => (printed, .error e)
    | (printed, .ok failures) =>
      (printed ++ ["\n" ++ toString failures ++ " failing script(s)"], .ok (failures == 0))

/-- Runs what the options ask for. A file to run wins over a test. -/
def execute (p : Paint) (o : Options) (files : FileView) :
    List String × Except ConsoleError Bool :=
  match o.file, o.test with
  | some path, _ => runFile p o files path
  | none, some "all" => runAll p o files
  | none, some path => runFile p o files path
  | none, none => ([], .error .nothingToRun)

/-- The first line of every run. -/
def banner (p : Paint) : String := "\n       --- " ++ p.apply .title "Quill" ++ " v0.1 ---"

/-- The answer to the question for the version. -/
def versionLine : String := "quill 0.1.0"

/-- How the program is called. -/
def usageLine : String := "Usage: quill [OPTIONS]"

/-- The answer to the question for help. -/
def helpLines : List String :=
  ["Interpreter for Quill scripts",
    "",
    usageLine,
    "",
    "Options:",
    "  -f, --file <FILE>            Path to the file to run",
    "  -l, --list                   Prints the parsed commands before running",
    "  -t, --test <TEST>            Test mode. If argument is 'all', it will run all files in " ++
      "scripts directory",
    "  -m, --max-steps <MAX_STEPS>  Maximum number of executed commands before a run is stopped " ++
      "[default: 50000]",
    "  -d, --dump                   Prints the variables after the run",
    "  -v, --verbose...             Log verbosity, repeat for more (-v debug, -vv trace)",
    "  -h, --help                   Print help",
    "  -V, --version                Print version"]

/-- What is printed for arguments that are not options to run with. -/
def Refusal.outcome : Refusal → Outcome
  | .usage => { exitCode := 2, output := "", complaint := lines [usageLine] }
  | .version => { exitCode := 0, output := lines [versionLine] }
  | .help => { exitCode := 0, output := lines helpLines }

/-- The outcome of a run with options. -/
def runWith (p : Paint) (o : Options) (files : FileView) : Outcome :=
  match execute p o files with
  | (printed, .ok fine) =>
    { exitCode := if fine then 0 else 1, output := lines (banner p :: printed) }
  | (printed, .error e) => { exitCode := 2, output := lines (banner p :: printed ++ [e.message p]) }

/-- The program as a function of its arguments and files. -/
def run (p : Paint) (args : List String) (files : FileView) : Outcome :=
  match Options.parse args with
  | .ok o => runWith p o files
  | .error r => r.outcome

end PenScript.Console
