import PenScript.Decimal.Binary
import PenScript.Text.Integer

/-!
# Reading a real

`readReal?` reads digits with an optional point and exponent, rounding to the nearest real, and the
words for infinity and not a number in any case.
-/

namespace PenScript.Decimal

open PenScript.Text

/-- The digits at the start of a text, and the rest. -/
def spanDigits (s : List Char) : List Char × List Char :=
  (s.takeWhile Char.isDigit, s.dropWhile Char.isDigit)

/-- An exponent: nothing, or the letter, an optional sign and digits. -/
def readExponent? : List Char → Option Int
  | [] => some 0
  | c :: rest =>
    if c = 'e' || c = 'E' then
      match rest with
      | '-' :: digits => (readNat? 10 digits).map fun n => -(n : Int)
      | '+' :: digits => (readNat? 10 digits).map fun n => (n : Int)
      | digits => (readNat? 10 digits).map fun n => (n : Int)
    else none

/-- The real nearest to `m · 10 ^ e`. Powers far out of range are decided by the magnitude. -/
def ofDecimal (m : Nat) (e : Int) : Float :=
  let magnitude := (Nat.toDigits 10 m).length + e
  if m = 0 || magnitude < -400 then 0.0
  else if magnitude > 400 then 1.0 / 0.0
  else if 0 ≤ e then ofScaled (m * pow10 e.natAbs) 0
  else ofRatio m (pow10 e.natAbs)

/-- Digits with an optional point and exponent; one digit at least. -/
def readDecimal? (s : List Char) : Option Float :=
  let (whole, rest) := spanDigits s
  let (fraction, rest) :=
    match rest with
    | '.' :: rest => spanDigits rest
    | _ => ([], rest)
  if whole.isEmpty && fraction.isEmpty then none
  else do
    let m ← readNat? 10 (whole ++ fraction)
    let e ← readExponent? rest
    return ofDecimal m (e - fraction.length)

/-- A magnitude: a decimal or one of the words. -/
def readMagnitude? (s : List Char) : Option Float :=
  let word := String.ofList (s.map Char.toLower)
  if word = "inf" || word = "infinity" then some (1.0 / 0.0)
  else if word = "nan" then some nan
  else readDecimal? s

/-- A real with an optional sign. -/
def readReal? : List Char → Option Float
  | '-' :: rest => (readMagnitude? rest).map (-·)
  | '+' :: rest => readMagnitude? rest
  | rest => readMagnitude? rest

end PenScript.Decimal
