import PenScript.Formula.Pieces
import PenScript.Store
import PenScript.Text.Case
import PenScript.Text.Letter

/-!
# A formula with its variables filled in

`Formula.reading` is the text that is computed: every variable is replaced by its value, and the
words for the connectives by their signs. In a real context whole numbers are written as reals, so
that divisions keep their fraction.
-/

namespace PenScript.Formula

/-- The sign of a connective word, and truth values in lower case; other pieces stay. -/
def connective (piece : List Char) : List Char :=
  let word := String.ofList (Text.lower piece)
  if word = "and" ∨ word = "&" then ['&', '&']
  else if word = "or" ∨ word = "|" then ['|', '|']
  else if word = "not" then ['!']
  else if word = "true" ∨ word = "false" then word.toList
  else piece

/-- The value in a real context, where whole numbers are reals. -/
def promoted : Value → Value
  | .int n => .real (Value.realOf n)
  | v => v

/-- The text of a variable's value; names without a value and arrays have none. -/
def fillIn? (store : Store) (toReal : Bool) (name : List Char) : Option (List Char) := do
  let v ← store.get? (String.ofList name)
  let text ← (if toReal then promoted v else v).literal?
  return text.toList

/-- What is computed in place of a piece. -/
def readPiece (store : Store) (toReal : Bool) (piece : List Char) : List Char :=
  let value :=
    if Text.isIdentifier piece then fillIn? store toReal piece
    else if toReal ∧ !piece.isEmpty ∧ piece.all Char.isDigit then some (piece ++ ['.', '0'])
    else none
  value.getD (connective piece)

/-- The text that is computed for a formula. -/
def reading (store : Store) (toReal : Bool) (s : List Char) : List Char :=
  Text.unwords ((pieces s).map (readPiece store toReal))

end PenScript.Formula
