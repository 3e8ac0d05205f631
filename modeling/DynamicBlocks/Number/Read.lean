import DynamicBlocks.Number.Double
import DynamicBlocks.Text.Blank
import DynamicBlocks.Text.Digit

/-!
# Reading numbers

A numeral is an optional sign, digits with at most one decimal point among or around them, and an optional
exponent. A numeral without point and exponent is a whole number, one with an exponent is whole if its value
is, and all others are doubles. Digits of every script count.
-/

set_option autoImplicit false

namespace DynamicBlocks

open Text

/-- A number: a whole number of any size, or a double. -/
inductive Number where
  | int (n : Int)
  | double (x : Double)
  deriving DecidableEq, Inhabited

/-- A numeral taken apart. -/
structure Numeral where
  /-- Whether a minus sign stands in front. -/
  negative : Bool
  /-- Digits before the point. -/
  whole : List Char
  /-- Digits after the point, if there is a point. -/
  fraction : Option (List Char)
  /-- The exponent, if one is written. -/
  exponent : Option Int
  deriving DecidableEq

/-- A sign in front, as whether it is minus, and what follows. -/
def takeSign : List Char → Bool × List Char
  | '-' :: rest => (true, rest)
  | '+' :: rest => (false, rest)
  | rest => (false, rest)

/-- Digits with at most one point, at least one digit in all, and what follows. -/
def takeDecimal? (cs : List Char) : Option (List Char × Option (List Char) × List Char) :=
  let whole := cs.takeWhile isDigit
  match whole, cs.dropWhile isDigit with
  | [], '.' :: rest =>
    let fraction := rest.takeWhile isDigit
    if fraction.isEmpty then none else some ([], some fraction, rest.dropWhile isDigit)
  | [], _ => none
  | _, '.' :: rest => some (whole, some (rest.takeWhile isDigit), rest.dropWhile isDigit)
  | _, rest => some (whole, none, rest)

/-- An exponent in front, if it is complete, and what follows. -/
def takeExponent (cs : List Char) : Option Int × List Char :=
  match cs with
  | [] => (none, [])
  | mark :: rest =>
    if mark = 'e' ∨ mark = 'E' then
      let signed := takeSign rest
      let digits := signed.2.takeWhile isDigit
      if digits.isEmpty then (none, cs)
      else
        let size : Int := digitsValue digits
        (some (if signed.1 then -size else size), signed.2.dropWhile isDigit)
    else (none, cs)

/-- The longest numeral in front, and what follows. -/
def takeNumeral? (cs : List Char) : Option (Numeral × List Char) :=
  let signed := takeSign cs
  (takeDecimal? signed.2).map fun (whole, fraction, rest) =>
    let exponent := takeExponent rest
    (⟨signed.1, whole, fraction, exponent.1⟩, exponent.2)

namespace Numeral

/-- The numeral as a double. -/
def toDouble (n : Numeral) : Double :=
  let fraction := n.fraction.getD []
  Double.ofDecimal n.negative (digitsValue (n.whole ++ fraction))
    (n.exponent.getD 0 - fraction.length)

/-- The numeral as a whole number, for one without point and exponent. -/
def toInt (n : Numeral) : Int :=
  let size : Int := digitsValue n.whole
  if n.negative then -size else size

/-- The number that the numeral writes. -/
def toNumber (n : Numeral) : Number :=
  match n.fraction, n.exponent with
  | some _, _ => .double n.toDouble
  | none, some _ => if n.toDouble.isWhole then .int n.toDouble.truncate else .double n.toDouble
  | none, none => .int n.toInt

end Numeral

/-- The numeral that makes up the whole text. -/
def numeralChars? (cs : List Char) : Option Numeral :=
  match takeNumeral? cs with
  | some (numeral, []) => some numeral
  | _ => none

/-- The number that the text writes, blanks around it aside. -/
def Number.ofText? (s : String) : Option Number :=
  (numeralChars? (trimChars s.toList)).map Numeral.toNumber

/-- The double that a number in front of the text writes, blanks before it aside. -/
def leadingDouble? (s : String) : Option Double :=
  (takeNumeral? (trimFront s.toList)).map fun n => n.1.toDouble

end DynamicBlocks
