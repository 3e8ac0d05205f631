import DynamicBlocks.Number.Double

/-!
# Decimal digits of a double

Two ways to choose digits: the fewest that read back to the same double, and a set number of them. Both work
on the exact quotient. `Digits` keeps the digits as one natural number with the power of ten of the last one.
-/

set_option autoImplicit false

namespace DynamicBlocks

/-- Decimal digits: the number `value * 10 ^ exponent`. -/
structure Digits where
  /-- All digits read as one number. -/
  value : Nat
  /-- The power of ten that the last digit stands for. -/
  exponent : Int
  deriving DecidableEq

/-- The digits in order. -/
def Digits.chars (d : Digits) : List Char :=
  Nat.toDigits 10 d.value

/-- How many digits stand before the decimal point. -/
def Digits.point (d : Digits) : Int :=
  (d.chars.length : Int) + d.exponent

/-- The power of ten just above a positive quotient: `10 ^ (k - 1) ≤ num / den < 10 ^ k`. -/
def decimalPoint (num den : Nat) : Int :=
  let guess : Int := ((Nat.toDigits 10 num).length : Int) - (Nat.toDigits 10 den).length
  let scaled := scaleDown 10 num den guess
  if scaled.2 ≤ scaled.1 then guess + 1 else guess

/-- A positive quotient rounded at the power of ten `exponent`. -/
def digitsAt (num den : Nat) (exponent : Int) : Digits :=
  let scaled := scaleDown 10 num den exponent
  ⟨roundQuotient scaled.1 scaled.2, exponent⟩

/-- A positive quotient rounded to `count` digits; when rounding carries into a further place the last
digit, a zero, is dropped. -/
def digitsOf (num den count : Nat) : Digits :=
  let d := digitsAt num den (decimalPoint num den - count)
  if d.value = Nat.pow 10 count then ⟨d.value / 10, d.exponent + 1⟩ else d

/-- Whether the digits read back as the double. -/
def Digits.readsBack (x : Double) (d : Digits) : Bool :=
  Double.ofDecimal false d.value d.exponent == x

/-- The digits of `count` places just below and just above a positive quotient that read back as the
double; the nearer one if both do, and the even one at equal distance. -/
def readingBackAt (x : Double) (num den count : Nat) : Option Digits :=
  let exponent := decimalPoint num den - count
  let scaled := scaleDown 10 num den exponent
  let below : Digits := ⟨scaled.1 / scaled.2, exponent⟩
  let above : Digits := ⟨scaled.1 / scaled.2 + 1, exponent⟩
  match below.readsBack x, above.readsBack x with
  | true, true => some ⟨roundQuotient scaled.1 scaled.2, exponent⟩
  | true, false => some below
  | false, true => some above
  | false, false => none

/-- The digits without zeros at the end, of which at most `count` are taken off. -/
def Digits.dropZeros : (count : Nat) → Digits → Digits
  | 0, d => d
  | count + 1, d =>
    if d.value ≠ 0 ∧ d.value % 10 = 0 then dropZeros count ⟨d.value / 10, d.exponent + 1⟩ else d

/-- The fewest digits that read back as a positive double; seventeen always do. -/
def shortestDigits (x : Double) : Digits :=
  let num := x.ratio.1.natAbs
  let den := x.ratio.2
  match (List.range' 1 16).findSome? (readingBackAt x num den) with
  | some d => d.dropZeros 20
  | none => (digitsOf num den 17).dropZeros 20

end DynamicBlocks
