import PenScript.Decimal.Shortest

/-!
# Reals as text

* `plain` is how scripts and expressions show a real: positional, and whole numbers without a
  point;
* `tagged` always shows that the number is a real: whole numbers end in `.0`, and very small or
  large ones have an exponent.
-/

namespace PenScript.Decimal

/-- Digits with the point in place, and `whole` after a number without a fraction. -/
def Digits.positional (d : Digits) (whole : List Char) : List Char :=
  if d.point ≤ 0 then '0' :: '.' :: List.replicate (-d.point).toNat '0' ++ d.digits
  else
    let n := d.point.toNat
    if d.digits.length ≤ n then
      d.digits ++ List.replicate (n - d.digits.length) '0' ++ whole
    else d.digits.take n ++ '.' :: d.digits.drop n

/-- One digit, the point and the others, and the power of ten. -/
def Digits.scientific (d : Digits) : List Char :=
  let power := d.point - 1
  let mark := 'e' :: (if power < 0 then ['-'] else []) ++ Nat.toDigits 10 power.natAbs
  match d.digits with
  | [] => mark
  | [c] => c :: mark
  | c :: rest => c :: '.' :: rest ++ mark

/-- A real as text, given how to write a finite magnitude. -/
def layOut (zero : List Char) (nonzero : Digits → List Char) (x : Float) : String :=
  let text :=
    match Binary.ofFloat? x with
    | some b => if b.mantissa = 0 then zero else nonzero b.shortest
    | none => if x.isNaN then ['N', 'a', 'N'] else ['i', 'n', 'f']
  String.ofList (if isNegative x && !x.isNaN then '-' :: text else text)

/-- Positional, whole numbers without a point. -/
def plain (x : Float) : String := layOut ['0'] (·.positional []) x

/-- Positional from `1e-4` to below `1e16`, whole numbers with `.0`; else with an exponent. -/
def tagged (x : Float) : String :=
  layOut ['0', '.', '0']
    (fun d => if -4 < d.point ∧ d.point ≤ 16 then d.positional ['.', '0'] else d.scientific) x

end PenScript.Decimal
