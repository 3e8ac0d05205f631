/-!
# Double precision numbers

A double is a sign, a mantissa of at most 53 bits and a binary exponent, or an infinity, or not a number.
Every conversion goes through one rule: the double nearest to a quotient of naturals, a tie going to the even
mantissa. The exponent is the least that leaves 53 bits, never below -1074, so that each value has one form;
zero has the least exponent.

What is not a number equals nothing, itself included. Such a value still can be met again where it was put, and
so it keeps its origin: two of one origin are the same occurrence, though they are not equal.
-/

set_option autoImplicit false

namespace DynamicBlocks

/-- A number of double precision; a finite one is plus or minus `mantissa * 2 ^ exponent`. -/
inductive Double where
  /-- Not a number. The outcome of a calculation has no origin, for it was not put anywhere yet. -/
  | nan (origin : Option Nat)
  | infinite (negative : Bool)
  | finite (negative : Bool) (mantissa : Nat) (exponent : Int)
  deriving DecidableEq, Inhabited

/-- A quotient rounded to the nearest natural number, a tie to the even one. -/
def roundQuotient (num den : Nat) : Nat :=
  let quotient := num / den
  let rest := num % den
  if 2 * rest < den then quotient
  else if den < 2 * rest then quotient + 1
  else quotient + quotient % 2

/-- Numerator and denominator of a quotient divided by a power of the base. -/
def scaleDown (base num den : Nat) : (exponent : Int) → Nat × Nat
  | .ofNat e => (num, den * Nat.pow base e)
  | .negSucc e => (num * Nat.pow base (e + 1), den)

namespace Double

/-- The least mantissa of 53 bits. -/
def leastMantissa : Nat := 4503599627370496

/-- The exponent at which a positive quotient has a mantissa of 53 bits, or the least exponent. -/
def exponentOf (num den : Nat) : Int :=
  let guess : Int := (Nat.log2 num : Int) - (Nat.log2 den : Int) - 52
  let scaled := scaleDown 2 num den guess
  max (-1074) (if scaled.1 / scaled.2 < leastMantissa then guess - 1 else guess)

/-- The double nearest to plus or minus `num / den`; infinite beyond the greatest one. -/
def ofRatio (negative : Bool) (num den : Nat) : Double :=
  if num = 0 then .finite negative 0 (-1074)
  else
    let exponent := exponentOf num den
    let scaled := scaleDown 2 num den exponent
    let mantissa := roundQuotient scaled.1 scaled.2
    let carried := mantissa = 2 * leastMantissa
    let exponent := if carried then exponent + 1 else exponent
    if 971 < exponent then .infinite negative
    else .finite negative (if carried then leastMantissa else mantissa) exponent

def ofInt (n : Int) : Double :=
  ofRatio (decide (n < 0)) n.natAbs 1

/-- The double nearest to `digits * 10 ^ exponent`. Far outside the range of doubles the answer does not
depend on the digits, and no power is computed. -/
def ofDecimal (negative : Bool) (digits : Nat) (exponent : Int) : Double :=
  let magnitude := ((Nat.toDigits 10 digits).length : Int) + exponent
  if digits = 0 ∨ magnitude < -330 then .finite negative 0 (-1074)
  else if 400 < magnitude then .infinite negative
  else
    let scaled := scaleDown 10 digits 1 (-exponent)
    ofRatio negative scaled.1 scaled.2

def zero : Double := .finite false 0 (-1074)

/-- Whether the number is neither infinite nor not a number. -/
def isFinite : Double → Bool
  | .finite .. => true
  | _ => false

/-- Whether the sign is minus. -/
def isNegative : Double → Bool
  | .finite negative .. => negative
  | .infinite negative => negative
  | .nan _ => false

/-- The number without its sign. -/
def abs : Double → Double
  | .finite _ mantissa exponent => .finite false mantissa exponent
  | .infinite _ => .infinite false
  | .nan _ => .nan none

/-- A finite number as numerator and positive denominator; zero for the others. -/
def ratio : Double → Int × Nat
  | .finite negative mantissa exponent =>
    let scaled := scaleDown 2 mantissa 1 (-exponent)
    (if negative then -(scaled.1 : Int) else scaled.1, scaled.2)
  | _ => (0, 1)

def isWhole (x : Double) : Bool :=
  x.isFinite && x.ratio.1 % x.ratio.2 == 0

/-- The number cut toward zero. -/
def truncate (x : Double) : Int :=
  Int.tdiv x.ratio.1 x.ratio.2

/-- The greatest whole number that is not greater. -/
def floor (x : Double) : Int :=
  Int.fdiv x.ratio.1 x.ratio.2

/-- The least whole number that is not less. -/
def ceil (x : Double) : Int :=
  -Int.fdiv (-x.ratio.1) x.ratio.2

/-- The product with a natural number. -/
def scale (x : Double) (factor : Nat) : Double :=
  match x with
  | .finite negative .. => ofRatio negative (x.ratio.1.natAbs * factor) x.ratio.2
  | x => x

/-- Whether two doubles are the same number: plus and minus zero are, and not a number is none. -/
def same : Double → Double → Bool
  | .nan _, _ => false
  | _, .nan _ => false
  | .infinite a, .infinite b => a == b
  | .finite a m e, .finite b n f =>
    (Double.finite a m e).ratio.1 * (Double.finite b n f).ratio.2 ==
      (Double.finite b n f).ratio.1 * (Double.finite a m e).ratio.2
  | _, _ => false

/-- Whether two doubles are one occurrence of what is not a number. -/
def sharesOrigin : Double → Double → Bool
  | .nan (some a), .nan (some b) => a == b
  | _, _ => false

def isInt (x : Double) (n : Int) : Bool :=
  x.isFinite && x.ratio.1 == n * x.ratio.2

/-- Whether the double is smaller than the whole number `n`. -/
def isBelow (x : Double) (n : Int) : Bool :=
  match x with
  | .nan _ => false
  | .infinite negative => negative
  | x => decide (x.ratio.1 < n * x.ratio.2)

/-- Whether the double is greater than the whole number `n`. -/
def isAbove (x : Double) (n : Int) : Bool :=
  match x with
  | .nan _ => false
  | .infinite negative => !negative
  | x => decide (n * x.ratio.2 < x.ratio.1)

def isZero : Double → Bool
  | .finite _ 0 _ => true
  | _ => false

/-- Whether the first of two doubles is the smaller; never so if one is not a number. -/
def less : Double → Double → Bool
  | .nan _, _ => false
  | _, .nan _ => false
  | .infinite a, .infinite b => a && !b
  | .infinite a, .finite .. => a
  | .finite .., .infinite b => !b
  | .finite a m e, .finite b n f =>
    decide ((Double.finite a m e).ratio.1 * (Double.finite b n f).ratio.2 <
      (Double.finite b n f).ratio.1 * (Double.finite a m e).ratio.2)

end Double

end DynamicBlocks
