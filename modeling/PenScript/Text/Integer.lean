/-!
# Whole numbers of 64 bits

* `fitInt64?` keeps an integer that a signed word of 64 bits can hold;
* `readInt64?` reads one in a given base, `showInt64` writes it in decimal.
-/

namespace PenScript.Text

/-- The word that holds `n`, if it is in range. -/
def fitInt64? (n : Int) : Option Int64 :=
  if Int64.minValue.toInt ≤ n ∧ n ≤ Int64.maxValue.toInt then some (Int64.ofInt n) else none

/-- The value of a digit below `base`, letters counting from ten in either case. -/
def digitValue? (base : Nat) (c : Char) : Option Nat :=
  let value :=
    if c.isDigit then some (c.toNat - 48)
    else if 'a' ≤ c && c ≤ 'z' then some (c.toNat - 87)
    else if 'A' ≤ c && c ≤ 'Z' then some (c.toNat - 55)
    else none
  value.filter (· < base)

/-- A run of digits that is not empty, most significant first. -/
def readNat? (base : Nat) (s : List Char) : Option Nat :=
  if s.isEmpty then none
  else s.foldlM (fun acc c => (digitValue? base c).map (base * acc + ·)) 0

/-- An optional sign and digits, if the number fits. -/
def readInt64? (base : Nat) : List Char → Option Int64
  | '-' :: digits => (readNat? base digits).bind fun n => fitInt64? (-n)
  | '+' :: digits => (readNat? base digits).bind fun n => fitInt64? n
  | digits => (readNat? base digits).bind fun n => fitInt64? n

/-- The decimal form of an integer, with a sign if it is negative. -/
def showInt (n : Int) : List Char :=
  if n < 0 then '-' :: Nat.toDigits 10 n.natAbs else Nat.toDigits 10 n.natAbs

/-- The decimal form of a word. -/
def showInt64 (n : Int64) : String := String.ofList (showInt n.toInt)

end PenScript.Text
