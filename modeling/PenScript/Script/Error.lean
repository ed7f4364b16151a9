import PenScript.Command.Error
import PenScript.Report

/-!
# What can go wrong while a script is read
-/

namespace PenScript

/-- Why a line, or the whole of a script, is refused. -/
inductive ScriptError where
  | unknownCommand (keyword : String)
  | undeclaredVariable (name : String)
  | arrayAssignment (name : String)
  | elseOutsideIf
  | secondElse
  | mismatchedEnd (found expected : Keyword)
  | strayEnd (found : Keyword)
  | nestedMethod (name : String)
  | duplicateMethod (name : String)
  | unclosedBlock (start stop : Keyword)
  | undeclaredMethod (name : String)
  | command (cause : CommandError)
deriving Repr

/-- The words for the error. -/
def ScriptError.message (p : Paint) : ScriptError → String
  | unknownCommand keyword => p.error ++ " unknown command: " ++ keyword
  | undeclaredVariable name =>
    p.error ++ " assignment to undeclared variable -" ++ name ++ "-. Declare it first with " ++
      p.word "int" ++ ", " ++ p.word "real" ++ " or " ++ p.word "boolean"
  | arrayAssignment name =>
    p.error ++ " -" ++ name ++ "- is an array, its elements are set with " ++ p.word "poke"
  | elseOutsideIf =>
    p.error ++ " " ++ p.word "else" ++ " found outside of an " ++ p.word "if" ++ " block"
  | secondElse =>
    p.error ++ " second " ++ p.word "else" ++ " in the same " ++ p.word "if" ++ " block"
  | mismatchedEnd found expected =>
    p.error ++ " found " ++ p.word found.word ++ " while the open block expects " ++
      p.word expected.word
  | strayEnd found => p.error ++ " found " ++ p.word found.word ++ " without any open block"
  | nestedMethod name => p.error ++ " method -" ++ name ++ "- declared inside another method"
  | duplicateMethod name => p.error ++ " method -" ++ name ++ "- is already declared"
  | unclosedBlock start stop =>
    p.error ++ " " ++ p.word start.word ++ " block is never closed, expected " ++ p.word stop.word
  | undeclaredMethod name => p.error ++ " call to undeclared method: " ++ name
  | command cause => cause.message p

/-- An error with its line, counted from zero. -/
structure ScriptFault where
  line : Nat
  error : ScriptError
deriving Repr

/-- The report on all errors of a script. -/
def ScriptFault.report (p : Paint) (faults : List ScriptFault) : String :=
  Report.join (faults.map fun f => Report.atLine f.line (f.error.message p))

end PenScript
