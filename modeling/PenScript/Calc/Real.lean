import PenScript.Decimal.Binary

/-!
# Functions of reals

* `hypotenuse` is a square root with one step of correction, on sides brought into a safe range;
* `logOnePlus` is the logarithm of `1 + x` for an `x` that may be small beside one: `Reduced` splits
  off the powers of two, and a polynomial gives the rest;
* `areaTanh` is the area hyperbolic tangent.

Every step is rounded as written, so the operations must keep their order.
-/

namespace PenScript.Calc

open Decimal (mulAdd)

/-- The power `2 ^ k` as a real. -/
def realPow2 (k : Int) : Float := (1.0 : Float).scaleB k

/-! ## The hypotenuse -/

/-- The hypotenuse over a longer side `a` and a shorter side `b` whose squares neither overflow nor
vanish: the root of the sum of squares, less an estimate of its error. -/
def hypotenuseNear (a b : Float) : Float :=
  let h := (a * a + b * b).sqrt
  let error :=
    if h ≤ 2.0 * b then
      let d := h - b
      a * (2.0 * d - a) + (d - 2.0 * (a - b)) * d
    else
      let d := h - a
      2.0 * d * (a - 2.0 * b) + ((4.0 * d - b) * b + d * d)
  h - error / (2.0 * h)

/-- The hypotenuse over a longer side `a` and a shorter side `b`. A side too short to be seen beside
the longer one is added to it. -/
def hypotenuseOver (a b : Float) : Float :=
  let scale := realPow2 (-600)
  let least := realPow2 (-54)
  if a > realPow2 511 then
    if b ≤ a * least then a + b else hypotenuseNear (a * scale) (b * scale) / scale
  else if b < realPow2 (-459) then
    if a ≥ b / least then a + b else hypotenuseNear (a / scale) (b / scale) * scale
  else if b ≤ a * least then a + b
  else hypotenuseNear a b

/-- The length of the hypotenuse over two sides; an infinite side decides. -/
def hypotenuse (x y : Float) : Float :=
  let a := x.abs
  let b := y.abs
  if a.isInf || b.isInf then 1.0 / 0.0
  else if a.isNaN || b.isNaN then Decimal.nan
  else if a < b then hypotenuseOver b a
  else hypotenuseOver a b

/-! ## The logarithm near one -/

/-- The real `1 + x` as `2 ^ power · (1 + excess)` with the excess between `√½ - 1` and `√2 - 1`, and
`lost` the part of `x` that rounding `1 + x` gave away, relative to the sum. -/
structure Reduced where
  power : Int
  excess : Float
  lost : Float

namespace Reduced

/-- The high half of the logarithm of two; its products with small powers are exact. -/
def logTwoHigh : Float := 6.93147180369123816490e-01

/-- What the high half of the logarithm of two lacks. -/
def logTwoLow : Float := 1.90821492927058770002e-10

/-- An `x` below this one, close to `√2 - 1`, can be its own excess. -/
def excessAbove : Float := Float.ofBits 0x3FDA827A00000000

/-- An `x` above this one, close to `√½ - 1`, can be its own excess. -/
def excessBelow : Float := Float.ofBits 0xBFD2BEC400000000

/-- A mantissa from this one on, close to `√2`, is halved. -/
def mantissaAbove : Float := Float.ofBits 0x3FF6A09E00000000

/-- Splits the powers of two off a sum `u` above zero. -/
def ofSum (u lost : Float) : Reduced :=
  match Decimal.Binary.ofFloat? u with
  | some b =>
    let power := b.exponent + Decimal.fractionBits
    let m := Decimal.ofScaled b.mantissa (-(Decimal.fractionBits : Int))
    if m < mantissaAbove then ⟨power, m - 1.0, lost⟩ else ⟨power + 1, m / 2.0 - 1.0, lost⟩
  | none => ⟨0, u, lost⟩

/-- Splits `1 + x`, for a finite `x` above `-1`. From `2 ^ 53` on the one is lost in the sum. -/
def ofOnePlus (x : Float) : Reduced :=
  if excessBelow < x && x < excessAbove then ⟨0, x, 0.0⟩
  else if x < realPow2 53 then
    let u := 1.0 + x
    ofSum u ((if u < 2.0 then x - (u - 1.0) else 1.0 - (u - x)) / u)
  else ofSum x 0.0

/-- The logarithm of the power of two plus `excess - (rest - more)`, with the lost part made good. -/
def withPower (r : Reduced) (rest more : Float) : Float :=
  let k := Float.ofInt r.power
  mulAdd k logTwoHigh (-((rest - (mulAdd k logTwoLow r.lost + more)) - r.excess))

/-- The polynomial in `z`, the square of `f / (2 + f)`, that follows the first terms. -/
def tail (z : Float) : Float :=
  let z2 := z * z
  let z4 := z2 * z2
  let low := mulAdd z 6.666666666666735130e-01
    (z2 * mulAdd z 2.857142874366239149e-01 3.999999999940941908e-01)
  let middle := mulAdd z4 (mulAdd z 1.818357216161805012e-01 2.222219843214978396e-01) low
  mulAdd (z2 * z4) (mulAdd z 1.479819860511658591e-01 1.531383769920937332e-01) middle

/-- The logarithm of the split real. A small excess needs no more than its first powers. -/
def log (r : Reduced) : Float :=
  let f := r.excess
  let half := 0.5 * f * f
  if -1.5 * realPow2 (-20) ≤ f && f < realPow2 (-20) && r.power != 0 then
    r.withPower (half * mulAdd (-0.66666666666666666) f 1.0) 0.0
  else
    let s := f / (2.0 + f)
    let more := s * (half + tail (s * s))
    if r.power = 0 then f - (half - more) else r.withPower half more

end Reduced

/-- The logarithm of `1 + x`. There is none below `-1`, and a small `x` needs only its first powers. -/
def logOnePlus (x : Float) : Float :=
  if x.isNaN || x < -1.0 then Decimal.nan
  else if x == -1.0 then -1.0 / 0.0
  else if x.isInf || x.abs < realPow2 (-54) then x
  else if x.abs < realPow2 (-29) then mulAdd (-(x * x)) 0.5 x
  else (Reduced.ofOnePlus x).log

/-- The area hyperbolic tangent. -/
def areaTanh (x : Float) : Float := 0.5 * logOnePlus (2.0 * x / (1.0 - x))

end PenScript.Calc
