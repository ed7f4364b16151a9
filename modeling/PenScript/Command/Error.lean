import PenScript.Formula.Eval
import PenScript.Keyword
import PenScript.Block

/-!
# What can go wrong with a command

`CommandError` lists the causes, from the reading of the parameters to the execution.
-/

namespace PenScript

/-- What a drawing argument may be. -/
inductive ArgRange where
  | any
  | channel
  | nonNegative
  | positive
deriving Repr, DecidableEq

/-- The words for the range. -/
def ArgRange.words : ArgRange → String
  | any => "any integer"
  | channel => "between 0 and 255"
  | nonNegative => "zero or more"
  | positive => "strictly positive"

/-- Why parameters do not fit a command. -/
inductive ParamFault where
  | noValue
  | noName
  | noEquals (found : String)
  | usage (form : String)
  | unexpected (found : String)
  | elementType (found : String)
  | noCondition
  | noMethodName
  | methodArguments (found : String)
  | argumentCount (expected found : Nat)
  | neitherOnNorOff (found : String)
  | noRadius
  | noText
  | noClosingQuote
  | notDrawing
deriving Repr, DecidableEq

/-- The words for the fault. -/
def ParamFault.message : ParamFault → String
  | noValue => "expected an expression after '='"
  | noName => "expected a variable name"
  | noEquals found => "expected '=' after variable name, found: " ++ found
  | usage form => "expected: " ++ form
  | unexpected found => "takes no parameter, found: " ++ found
  | elementType found => "element type must be 'int' or 'real', found: " ++ found
  | noCondition => "expected a condition"
  | noMethodName => "expected a method name"
  | methodArguments found => "methods take no parameters, found: " ++ found
  | argumentCount expected found =>
    "expected " ++ toString expected ++ " arguments, found " ++ toString found
  | neitherOnNorOff found => "expected 'on' or 'off', found: " ++ found
  | noRadius => "expected a radius"
  | noText => "expected a quoted text or an expression"
  | noClosingQuote => "missing closing '\"'"
  | notDrawing => "not a drawing command"

/-- Why a word cannot name a variable or a method. -/
inductive NameFault where
  | shape
  | reserved
deriving Repr, DecidableEq

/-- The words for the fault. -/
def NameFault.message : NameFault → String
  | shape => "must start with a letter and contain only letters, digits and '_'"
  | reserved => "reserved word"

/-- Why a command is refused or fails. -/
inductive CommandError where
  | malformed (keyword : Keyword) (fault : ParamFault)
  | badName (name : String) (fault : NameFault)
  | outOfRange (keyword : Keyword) (what : String) (range : ArgRange) (found : Int64)
  | zeroStep (var : String)
  | unmatched (block : Block.Missing)
  | notRunning (var : String)
  | unknownMethod (name : String)
  | store (cause : StoreError)
  | formula (cause : FormulaError)
  | value (cause : ValueError)
deriving Repr

/-- The words for the error. -/
def CommandError.message (p : Paint) : CommandError → String
  | malformed keyword fault =>
    p.error ++ " in '" ++ keyword.word ++ "' parameters: " ++ fault.message
  | badName name fault => p.error ++ " invalid identifier -" ++ name ++ "-: " ++ fault.message
  | outOfRange keyword what range found =>
    p.error ++ " in '" ++ keyword.word ++ "': " ++ what ++ " must be " ++ range.words ++
      ", found: " ++ Text.showInt64 found
  | zeroStep var => p.error ++ " in loop over -" ++ var ++ "-: step can't be zero"
  | unmatched block =>
    p.error ++ " no matching '" ++ block.searched.word ++ "' found for '" ++ block.origin.word ++
      "' at command #" ++ toString block.position
  | notRunning var =>
    p.error ++ " 'end for' reached while the loop over -" ++ var ++ "- isn't running"
  | unknownMethod name => p.error ++ " call to undeclared method: " ++ name
  | store cause => cause.message p
  | formula cause => cause.message p
  | value cause => cause.message p

end PenScript
