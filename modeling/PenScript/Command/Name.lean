import PenScript.Command.Error
import PenScript.Text.Case
import PenScript.Text.Letter

/-!
# Names and assignments

* `checkName` says whether a word can name a variable or a method;
* `splitAssignment?` cuts a text at the `=` that assigns, not at one inside a comparison.
-/

namespace PenScript

/-- The words, besides the keywords, that name nothing. -/
def reservedWords : List String := ["end", "true", "false", "and", "or", "not", "to", "step"]

/-- Whether the word is reserved, in any case. -/
def isReserved (name : List Char) : Bool :=
  let word := String.ofList (Text.lower name)
  reservedWords.contains word || (Keyword.ofWord? word).isSome

/-- Refuses a word that cannot be a name. -/
def checkName (name : List Char) : Except CommandError Unit :=
  if !Text.isIdentifier name then .error (.badName (String.ofList name) .shape)
  else if isReserved name then .error (.badName (String.ofList name) .reserved)
  else .ok ()

/-- The characters that make a comparison of the `=` behind them. -/
def comparisonStarts : List Char := ['<', '>', '!', '=']

/-- The text before and after the first assigning `=`, with the character before the text. -/
def splitAfter (before : Char) : List Char → Option (List Char × List Char)
  | [] => none
  | c :: rest =>
    if c = '=' ∧ !comparisonStarts.contains before ∧ rest.head? ≠ some '=' then some ([], rest)
    else (splitAfter c rest).map fun (left, right) => (c :: left, right)

/-- The text before and after the first `=` that is not part of a comparison. -/
def splitAssignment? (s : List Char) : Option (List Char × List Char) := splitAfter ' ' s

end PenScript
