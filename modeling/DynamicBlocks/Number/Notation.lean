import DynamicBlocks.Number.Shortest

/-!
# Written numbers

How a double is laid out once its digits are chosen. Plain texts use the fewest digits that read back, stand
positional for exponents from -4 to 15 and always show a fraction or an exponent; the exponent has a sign and
at least two digits. Integers are written with all their digits: no limit on their number is assumed.
-/

set_option autoImplicit false

namespace DynamicBlocks

/-- Zeros, none for a negative count. -/
def zeros (count : Int) : List Char :=
  List.replicate count.toNat '0'

/-- An exponent with its mark, sign and at least two digits. -/
def exponentChars (exponent : Int) : List Char :=
  let digits := Nat.toDigits 10 exponent.natAbs
  'e' :: (if exponent < 0 then '-' else '+') :: zeros (2 - digits.length) ++ digits

/-- Digits laid out with `point` of them before the decimal point and at least `places` after it; a point
with nothing after it stays only if `keepPoint`. -/
def positional (chars : List Char) (point : Int) (places : Int) (keepPoint : Bool) : List Char :=
  let whole := if point ≤ 0 then ['0'] else chars.take point.toNat ++ zeros (point - chars.length)
  let fraction := if point ≤ 0 then zeros (-point) ++ chars else chars.drop point.toNat
  let fraction := fraction ++ zeros (places - fraction.length)
  if fraction.isEmpty && !keepPoint then whole else whole ++ '.' :: fraction

/-- Digits laid out with one of them before the decimal point and the power of ten behind. -/
def scientific (chars : List Char) (point : Int) (places : Int) (keepPoint : Bool) : List Char :=
  positional chars 1 places keepPoint ++ exponentChars (point - 1)

/-- Whether plain texts write a number with `point` digits before the decimal point positionally. -/
def isPositional (point : Int) : Bool :=
  decide (-4 < point) && decide (point ≤ 16)

/-- The plain text of the size of a finite double. -/
def magnitudeChars (x : Double) : List Char :=
  if x.isZero then ['0', '.', '0']
  else
    let digits := shortestDigits x.abs
    if isPositional digits.point then positional digits.chars digits.point 1 false
    else scientific digits.chars digits.point 0 false

/-- The plain text of a double. -/
def Double.text (x : Double) : String :=
  match x with
  | .nan _ => "nan"
  | .infinite negative => if negative then "-inf" else "inf"
  | .finite negative .. => String.ofList ((if negative then ['-'] else []) ++ magnitudeChars x)

def intText (n : Int) : String :=
  String.ofList ((if n < 0 then ['-'] else []) ++ Nat.toDigits 10 n.natAbs)

end DynamicBlocks
