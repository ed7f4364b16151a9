/-!
# The binary form of a real

A finite real is `± mantissa · 2 ^ exponent`. `ofFloat?` reads that form off the bits, and
`remainder`, `mulAdd` and `cubeRoot` compute with it exactly before rounding once.
-/

namespace PenScript.Decimal

/-- A finite magnitude `mantissa · 2 ^ exponent`. -/
structure Binary where
  mantissa : Nat
  exponent : Int
deriving Repr, DecidableEq

/-- The power `2 ^ k`. -/
def pow2 (k : Nat) : Nat := Nat.pow 2 k

/-- The power `10 ^ k`. -/
def pow10 (k : Nat) : Nat := Nat.pow 10 k

/-- The number of fraction bits. -/
def fractionBits : Nat := 52

/-- The exponent of the smallest reals. -/
def leastExponent : Int := -1074

/-- Whether the sign bit is set, as it is for `-0.0`. -/
def isNegative (x : Float) : Bool := x.toBits.toNat ≥ pow2 63

/-- The magnitude of a finite real. -/
def Binary.ofFloat? (x : Float) : Option Binary :=
  let bits := x.toBits.toNat
  let field := bits / pow2 fractionBits % pow2 11
  let fraction := bits % pow2 fractionBits
  if field = 2047 then none
  else if field = 0 then some ⟨fraction, leastExponent⟩
  else some ⟨fraction + pow2 fractionBits, leastExponent + (field - 1 : Nat)⟩

/-- The mantissa once the exponent is brought down to `e`. -/
def Binary.scaledTo (b : Binary) (e : Int) : Nat := b.mantissa * pow2 (b.exponent - e).toNat

/-- The whole number nearest to `n / 2 ^ shift`, the even one of two that are equally near. -/
def roundShift (n : Nat) (shift : Int) : Nat :=
  let unit := pow2 shift.toNat
  let n := n * pow2 (-shift).toNat
  let q := n / unit
  let rest := n % unit
  if 2 * rest < unit then q else if 2 * rest > unit then q + 1 else q + q % 2

/-- The real nearest to `n · 2 ^ e`. -/
def ofScaled (n : Nat) (e : Int) : Float :=
  let unit := max (n.log2 + e - fractionBits) leastExponent
  (Float.ofNat (roundShift n (unit - e))).scaleB unit

/-- The real nearest to `num / den`: the quotient is computed with spare bits and a sticky last bit,
so that it is rounded once. -/
def ofRatio (num den : Nat) : Float :=
  let wide := num * pow2 (den.log2 + 66)
  let sticky := if wide % den = 0 then 0 else 1
  ofScaled (2 * (wide / den) + sticky) (-(den.log2 + 67 : Nat))

/-- The sign of `sign` given to a magnitude. -/
def withSignOf (sign magnitude : Float) : Float := if isNegative sign then -magnitude else magnitude

/-- Not a number. -/
def nan : Float := 0.0 / 0.0

/-- The remainder of the division whose quotient is cut toward zero. It has the sign of `x` and is
exact. -/
def remainder (x y : Float) : Float :=
  match Binary.ofFloat? x, Binary.ofFloat? y with
  | some a, some b =>
    if b.mantissa = 0 then nan
    else
      let e := min a.exponent b.exponent
      withSignOf x (ofScaled (a.scaledTo e % b.scaledTo e) e)
  | some _, none => if y.isNaN then nan else x
  | none, _ => nan

/-- The whole number `n` with the sign of `sign`. -/
def signed (sign : Float) (n : Nat) : Int := if isNegative sign then -n else n

/-- The real nearest to `x · y + z`, rounded once. A sum of exactly zero takes its sign from the
plain operations, which are exact then. -/
def mulAdd (x y z : Float) : Float :=
  match Binary.ofFloat? x, Binary.ofFloat? y, Binary.ofFloat? z with
  | some a, some b, some c =>
    let product : Binary := ⟨a.mantissa * b.mantissa, a.exponent + b.exponent⟩
    let e := min product.exponent c.exponent
    let sum := signed x 1 * signed y (product.scaledTo e) + signed z (c.scaledTo e)
    if sum = 0 then x * y + z
    else if sum < 0 then -ofScaled sum.natAbs e
    else ofScaled sum.natAbs e
  | _, _, _ => x * y + z

/-- Newton's steps toward the `k`-th root of `n` from above, until they stop going down. -/
def rootFrom (k n : Nat) : Nat → Nat → Nat
  | 0, guess => guess
  | fuel + 1, guess =>
    let next := ((k - 1) * guess + n / Nat.pow guess (k - 1)) / k
    if next < guess then rootFrom k n fuel next else guess

/-- The whole part of the `k`-th root. -/
def root (k n : Nat) : Nat :=
  if n = 0 then 0 else rootFrom k n (n.log2 + 2) (pow2 (n.log2 / k + 1))

/-- The real nearest to the `k`-th root of `n · 2 ^ (k · e)`: the root is computed with spare bits and
a sticky last bit, so that it is rounded once. -/
def rootScaled (k n : Nat) (e : Int) : Float :=
  let wide := n * pow2 (k * 64)
  let r := root k wide
  let sticky := if Nat.pow r k = wide then 0 else 1
  ofScaled (2 * r + sticky) (e - 65)

/-- The cube root, of the sign of `x`. -/
def cubeRoot (x : Float) : Float :=
  match Binary.ofFloat? x with
  | some a =>
    let e := a.exponent.fdiv 3
    withSignOf x (rootScaled 3 (a.scaledTo (3 * e)) e)
  | none => x

end PenScript.Decimal
