import DynamicBlocks.Number.Notation

/-!
# Rounding to places

Rounding to a number of decimal places, which is negative for tens, hundreds and so on. The value rounded is
the exact one and a tie goes to the even neighbour; the rounded double is the one nearest to the decimal
result.
-/

set_option autoImplicit false

namespace DynamicBlocks

/-- A whole number rounded to a multiple of a power of ten. A power beyond twice the number leaves zero and
is not computed. -/
def roundIntTo (n : Int) (power : Nat) : Int :=
  if (Nat.toDigits 10 n.natAbs).length + 1 < power then 0
  else
    let size : Int := (roundQuotient n.natAbs (Nat.pow 10 power) * Nat.pow 10 power : Nat)
    if n < 0 then -size else size

/-- A whole number rounded to decimal places; it has none to lose unless they are negative. -/
def roundInt (n places : Int) : Int :=
  if 0 ≤ places then n else roundIntTo n places.natAbs

/-- A finite double rounded to decimal places. Beyond 323 places nothing is lost, below -308 nothing is left,
and `none` stands for a result that no double can hold. -/
def roundDouble? (x : Double) (places : Int) : Option Double :=
  if 323 < places ∨ x.isZero then some x
  else if places < -308 then some (.finite x.isNegative 0 (-1074))
  else
    let digits := digitsAt x.ratio.1.natAbs x.ratio.2 (-places)
    let rounded := Double.ofDecimal x.isNegative digits.value digits.exponent
    if rounded.isFinite then some rounded else none

end DynamicBlocks
