import PenScript.Text.Alphabetic
import PenScript.Text.Numeric

/-!
# Letters, digits and identifiers

* `isLetter` is the Unicode property Alphabetic, `isNumber` the categories Nd, Nl and No;
* `isIdentifier` is the shape of a name: a letter or `_`, then letters, numbers and `_`.
-/

namespace PenScript.Text

/-- The characters with the Unicode property Alphabetic. -/
def isLetter (c : Char) : Bool :=
  let n := c.toNat
  if n < 0x80 then c.isAlpha else alphabetic.contains n

/-- The characters of the categories Nd, Nl and No. -/
def isNumber (c : Char) : Bool :=
  let n := c.toNat
  if n < 0x80 then c.isDigit else numeric.contains n

/-- Whether a name may start with the character. -/
def startsName (c : Char) : Bool := isLetter c || c == '_'

/-- Whether a name may go on with the character. -/
def continuesName (c : Char) : Bool := isLetter c || isNumber c || c == '_'

/-- The shape of a name. -/
def isIdentifier : List Char → Bool
  | [] => false
  | c :: rest => startsName c && rest.all continuesName

end PenScript.Text
