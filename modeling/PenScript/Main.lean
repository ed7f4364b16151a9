import PenScript.Console.Run

/-!
# The program

Looks at the terminal and the files, and prints what `Console.run` gives.
-/

namespace PenScript.Console

/-- The error of a file, from that of the system. -/
def FileError.ofSystem : IO.Error → FileError
  | .noFileOrDirectory .. => .notFound
  | .inappropriateType _ code _ => if code = 21 then .isADirectory else .notADirectory
  | .permissionDenied _ code cause | .invalidArgument _ code cause =>
    .other (cause ++ " (os error " ++ toString code ++ ")")
  | e => .other (toString e)

/-- The text of a file. -/
def readFile (path : String) : IO (Except FileError String) := do
  try return textOf (← IO.FS.readBinFile path)
  catch e => return .error (.ofSystem e)

/-- The names of the files in a directory. -/
def listFiles (path : String) : IO (Except FileError (List String)) := do
  try
    let here ← IO.currentDir
    let entries ← (here / path).readDir
    let files ← entries.filterM fun e => return (← e.path.metadata).type == .file
    return .ok (files.toList.map (·.fileName))
  catch e => return .error (.ofSystem e)

/-- What the options can ask to read: the paths they name, and the scripts. -/
def snapshot (o : Options) : IO FileView := do
  let scripts ← listFiles scriptsDirectory
  let names := (scripts.toOption.getD []).map (scriptsDirectory ++ "/" ++ ·)
  let paths := o.file.toList ++ o.test.toList ++ (if o.test == some "all" then names else [])
  let texts ← paths.mapM fun path => return (path, ← readFile path)
  return {
    read := fun path => (texts.lookup path).getD (.error .notFound)
    list := fun path => if path = scriptsDirectory then scripts else .error .notFound }

/-- Colours can be forced and forbidden; otherwise a terminal gets them. -/
def choosePaint : IO Paint := do
  let wants := fun (v : Option String) (default : Bool) => (v.map (· != "0")).getD default
  if wants (← IO.getEnv "CLICOLOR_FORCE") false then return ⟨true⟩
  if (← IO.getEnv "NO_COLOR").isSome then return ⟨false⟩
  return ⟨wants (← IO.getEnv "CLICOLOR") true && (← (← IO.getStdout).isTty)⟩

end PenScript.Console

open PenScript.Console in
/-- Runs the program with its arguments. -/
def main (args : List String) : IO UInt32 := do
  let files ← match Options.parse args with
    | .ok o => snapshot o
    | .error _ => pure (FileTree.ofFiles []).view
  let outcome := run (← choosePaint) args files
  IO.print outcome.output
  IO.eprint outcome.complaint
  return outcome.exitCode.toUInt32
