import PenScript.Text.Blank

/-!
# The pieces of a formula

A formula is cut into pieces that do not depend on its spacing.

* `Formula.split` cuts at blanks and makes every operator character a piece;
* `Formula.glue` joins the halves of a two-character operator that stand side by side;
* `Formula.pieces` also reads a lone `=` as the test for equality;
* `Formula.normalize` writes the pieces with one space between them.
-/

namespace PenScript.Formula

/-- The characters that are operators or parts of one. -/
def operators : List Char :=
  ['+', '-', '*', '/', '%', '^', '(', ')', '<', '>', '=', '!', '&', '|']

/-- Whether the character is an operator or a part of one. -/
def isOperator (c : Char) : Bool := operators.contains c

/-- A word in front of pieces, unless it is empty. -/
def addWord (word : List Char) (rest : List (List Char)) : List (List Char) :=
  if word.isEmpty then rest else word :: rest

/-- Puts a character in front of a text of which the first word, maybe empty, and the pieces after
it are known. -/
def addChar (c : Char) : List Char × List (List Char) → List Char × List (List Char)
  | (word, rest) =>
    if Text.isBlank c then ([], addWord word rest)
    else if isOperator c then ([], [c] :: addWord word rest)
    else (c :: word, rest)

/-- The words and operator characters of a text, in order. -/
def split (s : List Char) : List (List Char) :=
  let (word, rest) := s.foldr addChar ([], [])
  addWord word rest

/-- The operator that two adjacent pieces form. -/
def join? (a b : List Char) : Option (List Char) :=
  match a, b with
  | ['<'], ['='] => some ['<', '=']
  | ['>'], ['='] => some ['>', '=']
  | ['='], ['='] => some ['=', '=']
  | ['!'], ['='] => some ['!', '=']
  | ['<'], ['>'] => some ['!', '=']
  | ['&'], ['&'] => some ['&', '&']
  | ['|'], ['|'] => some ['|', '|']
  | _, _ => none

/-- Joins the halves of operators, from the left. -/
def glue : List (List Char) → List (List Char)
  | a :: b :: rest =>
    match join? a b with
    | some op => op :: glue rest
    | none => a :: glue (b :: rest)
  | rest => rest

/-- A lone `=` tests for equality. -/
def doubleEquals (piece : List Char) : List Char := if piece = ['='] then ['=', '='] else piece

/-- The pieces of a formula. -/
def pieces (s : List Char) : List (List Char) := (glue (split s)).map doubleEquals

/-- The formula with one space between its pieces. -/
def normalize (s : List Char) : List Char := Text.unwords (pieces s)

end PenScript.Formula
