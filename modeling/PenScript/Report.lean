import PenScript.Text.Blank

/-!
# Messages with their place in the source

Lines are kept counted from zero and shown counted from one.
-/

namespace PenScript.Report

/-- A message about a line. -/
def atLine (line : Nat) (message : String) : String :=
  "Line: " ++ toString (line + 1) ++ "\n" ++ message

/-- A message about a command of the program and the line it stands on. -/
def atCommand (position line : Nat) (message : String) : String :=
  "Line: " ++ toString (line + 1) ++ ", command #" ++ toString position ++ "\n" ++ message

/-- The text without blanks at its ends. -/
def trimmed (s : String) : String := String.ofList (Text.trim s.toList)

/-- All messages, with an empty line between them. -/
def join (messages : List String) : String :=
  trimmed ("\n\n".intercalate (messages.map trimmed))

end PenScript.Report
