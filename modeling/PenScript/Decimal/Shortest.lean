import PenScript.Decimal.Binary

/-!
# The fewest digits that read back

A finite real stands for an interval: the numbers that round to it. `shortest` gives the decimal
with the fewest digits in that interval; of two with equally many the nearer one, and the larger
when both are equally near.
-/

namespace PenScript.Decimal

/-- The decimal `0.d₁d₂… · 10 ^ point`. -/
structure Digits where
  digits : List Char
  point : Int
deriving Repr, DecidableEq

/-- The ends of the interval of `b` and `b` itself, in quarters of the unit `2 ^ exponent`. Below a
power of two the neighbour is half as far. -/
structure Interval where
  low : Nat
  value : Nat
  high : Nat
  closed : Bool

/-- The interval of the numbers that round to `b`; its ends belong to it if the mantissa is even. -/
def Binary.interval (b : Binary) : Interval where
  low := 4 * b.mantissa -
    (if b.mantissa = pow2 fractionBits ∧ b.exponent > leastExponent then 1 else 2)
  value := 4 * b.mantissa
  high := 4 * b.mantissa + 2
  closed := b.mantissa % 2 = 0

/-- The fraction `(n · 2 ^ e) / 10 ^ p` as a numerator factor and a denominator. -/
def gridScale (e p : Int) : Nat × Nat :=
  (pow2 e.toNat * pow10 (-p).toNat, pow2 (-e).toNat * pow10 p.toNat)

/-- The power of ten at or below `b`, for a mantissa that is not zero. -/
def Binary.leadingPower (b : Binary) : Int :=
  let guess := (((b.mantissa.log2 : Int) + b.exponent) * 30103).fdiv 100000
  let below (k : Int) : Bool :=
    let (num, den) := gridScale b.exponent k
    b.mantissa * num < den
  if below guess then guess - 1 else if below (guess + 1) then guess else guess + 1

/-- The point of the grid `10 ^ p` in the interval that is nearest to its value. -/
def Interval.onGrid? (i : Interval) (e p : Int) : Option Nat :=
  let (num, den) := gridScale (e - 2) p
  let inside (c : Nat) : Bool :=
    if i.closed then i.low * num ≤ c * den && c * den ≤ i.high * num
    else i.low * num < c * den && c * den < i.high * num
  let c := i.value * num / den
  let rest := i.value * num % den
  match inside c, inside (c + 1) with
  | true, true => some (if 2 * rest < den then c else c + 1)
  | true, false => some c
  | false, true => some (c + 1)
  | false, false => none

/-- Digits without the zeros at their end. -/
def dropZeros (digits : List Char) : List Char := (digits.reverse.dropWhile (· == '0')).reverse

/-- The decimal `c · 10 ^ p`. -/
def Digits.ofGrid (c : Nat) (p : Int) : Digits :=
  let digits := Nat.toDigits 10 c
  ⟨dropZeros digits, digits.length + p⟩

/-- The shortest decimal that reads back as `b`, for a mantissa that is not zero. Seventeen digits
always suffice. -/
def Binary.shortest (b : Binary) : Digits :=
  let lead := b.leadingPower
  let found := (List.range 17).findSome? fun (n : Nat) =>
    let p := lead - n
    (b.interval.onGrid? b.exponent p).map (Digits.ofGrid · p)
  found.getD ⟨['0'], 1⟩

end PenScript.Decimal
