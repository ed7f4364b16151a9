import PenScript.Calc.Fault
import PenScript.Calc.Real
import PenScript.Text.Blank
import PenScript.Text.Case

/-!
# The functions of the expression language

`builtin?` finds a function by its name. A function takes one value; several arguments come as a
tuple.
-/

namespace PenScript.Calc

namespace Datum

/-- The value as a real number. -/
def toReal : Datum → Except Fault Float
  | real x => .ok x
  | int n => .ok (Float.ofInt n.toInt)
  | d => .error (.notNumber d)

/-- The value as a whole number. -/
def toInt : Datum → Except Fault Int64
  | int n => .ok n
  | d => .error (.notInt d)

/-- The value as a truth value. -/
def toBool : Datum → Except Fault Bool
  | bool b => .ok b
  | d => .error (.notBool d)

/-- The value as a text. -/
def toText : Datum → Except Fault String
  | text s => .ok s
  | d => .error (.notText d)

/-- The items of a tuple. -/
def toItems : Datum → Except Fault (List Datum)
  | tuple items => .ok items
  | d => .error (.notTuple d)

/-- The items of a pair. -/
def toPair (d : Datum) : Except Fault (Datum × Datum) := do
  match ← d.toItems with
  | [a, b] => .ok (a, b)
  | _ => .error (.tupleLength 2 d)

/-- Whether an item of a tuple can be looked for. -/
def isPlain : Datum → Bool
  | text _ | int _ | real _ | bool _ => true
  | _ => false

end Datum

/-- The kinds that can be looked for in a tuple. -/
def plainKinds : List Kind := [.text, .int, .real, .bool]

/-- A function of one real. -/
def ofReal (f : Float → Float) (d : Datum) : Except Fault Datum := do
  return .real (f (← d.toReal))

/-- A test of one real. -/
def testReal (p : Float → Bool) (d : Datum) : Except Fault Datum := do
  return .bool (p (← d.toReal))

/-- A function of two reals. -/
def ofReals (f : Float → Float → Float) (d : Datum) : Except Fault Datum := do
  let (a, b) ← d.toPair
  let x ← a.toReal
  let y ← b.toReal
  return .real (f x y)

/-- A function of two whole numbers. -/
def ofInts (f : Int64 → Int64 → Int64) (d : Datum) : Except Fault Datum := do
  let (a, b) ← d.toPair
  let m ← a.toInt
  let n ← b.toInt
  return .int (f m n)

/-- A function of a text. -/
def ofText (f : List Char → List Char) (d : Datum) : Except Fault Datum := do
  return .text (String.ofList (f (← d.toText).toList))

/-- Whether the real is neither zero, nor below the least full precision, nor infinite. -/
def isNormal (x : Float) : Bool :=
  match Decimal.Binary.ofFloat? x with
  | some b => b.mantissa ≥ Decimal.pow2 Decimal.fractionBits
  | none => false

/-- The better of two reals, the second if neither is; one that is not a number loses. -/
def betterReal (better : Float → Float → Bool) (x y : Float) : Float :=
  if x.isNaN then y else if better y x then y else x

/-- The best whole number and the best real of a tuple. -/
def extremes (better : Float → Float → Bool) (betterInt : Int64 → Int64 → Bool) :
    Int64 × Float → List Datum → Except Fault (Int64 × Float)
  | best, [] => .ok best
  | (n, x), d :: rest =>
    match d with
    | .int m => extremes better betterInt (if betterInt m n then m else n, x) rest
    | .real y => extremes better betterInt (n, betterReal better x y) rest
    | d => .error (.notNumber d)

/-- The least item of a tuple of numbers; a whole number only if it is below every real. -/
def least (d : Datum) : Except Fault Datum := do
  let (n, x) ← extremes (· ≤ ·) (· < ·) (Int64.maxValue, 1.0 / 0.0) (← d.toItems)
  return if Float.ofInt n.toInt < x then .int n else .real x

/-- The greatest item of a tuple of numbers; a whole number only if it is above every real. -/
def greatest (d : Datum) : Except Fault Datum := do
  let (n, x) ← extremes (· ≥ ·) (· > ·) (Int64.minValue, -1.0 / 0.0) (← d.toItems)
  return if Float.ofInt n.toInt > x then .int n else .real x

/-- The magnitude of a number of either kind. -/
def magnitude : Datum → Except Fault Datum
  | .int n => .ok (.int n.abs)
  | .real x => .ok (.real x.abs)
  | d => .error (.notNumber d)

/-- The second or third item, as the first one says. -/
def choose (d : Datum) : Except Fault Datum := do
  match ← d.toItems with
  | [c, a, b] => return if ← c.toBool then a else b
  | _ => .error (.tupleLength 3 d)

/-- The bytes of a text, or the items of a tuple. -/
def size : Datum → Except Fault Datum
  | .text s => .ok (.int (Int64.ofNat s.utf8ByteSize))
  | .tuple items => .ok (.int (Int64.ofNat items.length))
  | d => .error (.notOneOf [.text, .tuple] d)

/-- Whether the second item is one of the first. -/
def isItem (d : Datum) : Except Fault Datum := do
  let (a, b) ← d.toPair
  let items ← a.toItems
  if b.isPlain then return .bool (items.any (·.same b))
  else throw (.notOneOf plainKinds b)

/-- Whether two tuples share an item. Each item of the second must be one that can be looked for. -/
def sharesItem (d : Datum) : Except Fault Datum := do
  let (a, b) ← d.toPair
  let items ← a.toItems
  let wanted ← b.toItems
  match wanted.find? (!·.isPlain) with
  | some w => throw (.notOneOf plainKinds w)
  | none => return .bool (wanted.any fun w => items.any (·.same w))

/-- The text after `n` bytes, if that is between two characters. -/
def dropBytes? : Nat → List Char → Option (List Char)
  | 0, s => some s
  | _ + 1, [] => none
  | n + 1, c :: rest => if c.utf8Size ≤ n + 1 then dropBytes? (n + 1 - c.utf8Size) rest else none

/-- The text of the first `n` bytes, if that ends between two characters. -/
def takeBytes? : Nat → List Char → Option (List Char)
  | 0, _ => some []
  | _ + 1, [] => none
  | n + 1, c :: rest =>
    if c.utf8Size ≤ n + 1 then (takeBytes? (n + 1 - c.utf8Size) rest).map (c :: ·) else none

/-- The bytes of a text from `start` to `stop`. -/
def byteSlice (s : String) (start stop : Int) : Except Fault String :=
  if 0 ≤ start ∧ start ≤ stop ∧ stop ≤ s.utf8ByteSize then
    match (dropBytes? start.toNat s.toList).bind (takeBytes? (stop - start).toNat) with
    | some cs => .ok (String.ofList cs)
    | none => .error .outOfBounds
  else .error .outOfBounds

/-- The part of a text between two offsets in bytes, the second its end if not given. -/
def substring (d : Datum) : Except Fault Datum := do
  match ← d.toItems with
  | [a, b] =>
    let s ← a.toText
    return .text (← byteSlice s (← b.toInt).toInt s.utf8ByteSize)
  | [a, b, c] =>
    let s ← a.toText
    let start ← b.toInt
    let stop ← c.toInt
    return .text (← byteSlice s start.toInt stop.toInt)
  | _ => .error (.tupleLengthBetween 2 3 d)

/-- A value as a text. -/
def asText : Datum → Except Fault Datum
  | .text s => .ok (.text s)
  | d => .ok (.text d.display)

/-- The function of a name. -/
def builtin? (name : String) : Option (Datum → Except Fault Datum) :=
  match name with
  | "floor" => some (ofReal Float.floor)
  | "ceil" => some (ofReal Float.ceil)
  | "round" => some (ofReal Float.round)
  | "math::ln" => some (ofReal Float.log)
  | "math::log2" => some (ofReal Float.log2)
  | "math::log10" => some (ofReal Float.log10)
  | "math::exp" => some (ofReal Float.exp)
  | "math::exp2" => some (ofReal Float.exp2)
  | "math::cos" => some (ofReal Float.cos)
  | "math::acos" => some (ofReal Float.acos)
  | "math::cosh" => some (ofReal Float.cosh)
  | "math::acosh" => some (ofReal Float.acosh)
  | "math::sin" => some (ofReal Float.sin)
  | "math::asin" => some (ofReal Float.asin)
  | "math::sinh" => some (ofReal Float.sinh)
  | "math::asinh" => some (ofReal Float.asinh)
  | "math::tan" => some (ofReal Float.tan)
  | "math::atan" => some (ofReal Float.atan)
  | "math::tanh" => some (ofReal Float.tanh)
  | "math::atanh" => some (ofReal areaTanh)
  | "math::sqrt" => some (ofReal Float.sqrt)
  | "math::cbrt" => some (ofReal Decimal.cubeRoot)
  | "math::log" => some (ofReals fun x b => x.log / b.log)
  | "math::pow" => some (ofReals Float.pow)
  | "math::atan2" => some (ofReals Float.atan2)
  | "math::hypot" => some (ofReals hypotenuse)
  | "math::is_nan" => some (testReal Float.isNaN)
  | "math::is_finite" => some (testReal Float.isFinite)
  | "math::is_infinite" => some (testReal Float.isInf)
  | "math::is_normal" => some (testReal isNormal)
  | "math::abs" => some magnitude
  | "typeof" => some fun d => .ok (.text d.kind.word)
  | "min" => some least
  | "max" => some greatest
  | "if" => some choose
  | "len" => some size
  | "contains" => some isItem
  | "contains_any" => some sharesItem
  | "str::to_lowercase" => some (ofText Text.lower)
  | "str::to_uppercase" => some (ofText Text.upper)
  | "str::trim" => some (ofText Text.trim)
  | "str::from" => some asText
  | "str::substring" => some substring
  | "bitand" => some (ofInts (· &&& ·))
  | "bitor" => some (ofInts (· ||| ·))
  | "bitxor" => some (ofInts (· ^^^ ·))
  | "shl" => some (ofInts (· <<< ·))
  | "shr" => some (ofInts (· >>> ·))
  | "bitnot" => some fun d => do return .int (~~~(← d.toInt))
  | _ => none

end PenScript.Calc
