import PenScript.Formula.Eval

/-!
# The log of reading and running a script

`Event` is an entry of the log, `Event.line` its text: a level, a message and the fields of it.
-/

namespace PenScript

/-- An entry of the log. Lines are counted from zero. -/
inductive Event where
  | parsed (line : Nat) (command : String)
  | parsingFailed (errors : Nat)
  | programParsed (commands : Nat)
  | execute (position line : Nat) (command : String)
  | jump (origin target : Nat)
  | guardFailed (formula : String) (error : FormulaError)
  | bodySkipped (position target : Nat)
  | loopDone (position : Nat) (var : String)
  | called (position : Nat) (method : String) (depth : Nat)
  | completed (steps bound : Nat)
deriving Repr

namespace Event

/-- A field with a number. -/
def number (name : String) (n : Nat) : String := name ++ "=" ++ toString n

/-- The text of the entry; it shows lines counted from one. -/
def line : Event → String
  | parsed line command =>
    "DEBUG parsed " ++ number "line" (line + 1) ++ " command=" ++ command
  | parsingFailed errors => "DEBUG parsing failed " ++ number "errors" errors
  | programParsed commands => "INFO program parsed " ++ number "commands" commands
  | execute position line command =>
    "TRACE execute " ++ number "at" position ++ " " ++ number "line" (line + 1) ++ " command=" ++
      command
  | jump origin target => "DEBUG jump " ++ number "from" origin ++ " " ++ number "to" target
  | guardFailed formula error =>
    "WARN guard evaluated to false expression=" ++ formula ++ " error=" ++ error.message .none
  | bodySkipped position target =>
    "DEBUG condition false, skipping body " ++ number "at" position ++ " " ++
      number "target" target
  | loopDone position var => "DEBUG loop done " ++ number "at" position ++ " var=" ++ var
  | called position method depth =>
    "DEBUG call " ++ number "at" position ++ " method=" ++ method ++ " " ++ number "depth" depth
  | completed steps bound =>
    "INFO program completed " ++ number "steps" steps ++ " " ++ number "variables" bound

end Event

end PenScript
