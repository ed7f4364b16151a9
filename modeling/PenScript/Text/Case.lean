import PenScript.Text.CaseIgnorable
import PenScript.Text.Cased
import PenScript.Text.LowerShifts
import PenScript.Text.UpperShifts

/-!
# Lower and upper case

`lower` and `upper` are the full Unicode mappings, which may change the number of characters. The
one mapping that looks at its neighbours is that of the capital sigma, which takes its final form
at the end of a word.
-/

namespace PenScript.Text

/-- The image of a code point outside ASCII under runs and expansions. -/
def mapCode (shifts : List CaseShift) (expansions : List (Nat × List Nat)) (n : Nat) :
    List Char :=
  match expansions.lookup n with
  | some ns => ns.map Char.ofNat
  | none =>
    match shifts.find? (·.covers n) with
    | some s => [Char.ofNat (s.apply n)]
    | none => [Char.ofNat n]

/-- The lowercase form of a character on its own. -/
def lowerChar (c : Char) : List Char :=
  if c.toNat < 0x80 then [c.toLower] else mapCode lowerShifts lowerExpansions c.toNat

/-- The uppercase form of a character. -/
def upperChar (c : Char) : List Char :=
  if c.toNat < 0x80 then [c.toUpper] else mapCode upperShifts upperExpansions c.toNat

/-- Whether a cased character comes first once the case ignorable ones are skipped. -/
def meetsCased (s : List Char) : Bool :=
  match s.dropWhile (fun c => caseIgnorable.contains c.toNat) with
  | [] => false
  | c :: _ => cased.contains c.toNat

/-- The capital sigma. -/
def capitalSigma : Char := 'Σ'

/-- Lowercase with what was read before, last character first, as context. -/
def lowerAfter : List Char → List Char → List Char
  | _, [] => []
  | before, c :: rest =>
    (if c = capitalSigma then
      [if meetsCased before && !meetsCased rest then 'ς' else 'σ']
    else lowerChar c) ++ lowerAfter (c :: before) rest

/-- The text in lower case. -/
def lower (s : List Char) : List Char := lowerAfter [] s

/-- The text in upper case. -/
def upper (s : List Char) : List Char := s.flatMap upperChar

end PenScript.Text
