import DynamicBlocks.Text.Ranges

/-!
# Decimal digits

Numbers may be written with the decimal digits of any script. Each script has its ten digits in a run from
zero to nine, so the table lists the zeros. Digit-like signs that are no decimal digits (superscripts,
circled digits and the like) look like digits to a test but have no value as part of a number.
-/

set_option autoImplicit false

namespace DynamicBlocks.Text

/-- The zero of each run of ten decimal digits (general category `Nd`, Unicode 14). -/
def zeroDigits : List Nat := [
  0x30, 0x660, 0x6f0, 0x7c0, 0x966, 0x9e6, 0xa66, 0xae6, 0xb66, 0xbe6,
  0xc66, 0xce6, 0xd66, 0xde6, 0xe50, 0xed0, 0xf20, 0x1040, 0x1090, 0x17e0,
  0x1810, 0x1946, 0x19d0, 0x1a80, 0x1a90, 0x1b50, 0x1bb0, 0x1c40, 0x1c50, 0xa620,
  0xa8d0, 0xa900, 0xa9d0, 0xa9f0, 0xaa50, 0xabf0, 0xff10, 0x104a0, 0x10d30, 0x11066,
  0x110f0, 0x11136, 0x111d0, 0x112f0, 0x11450, 0x114d0, 0x11650, 0x116c0, 0x11730, 0x118e0,
  0x11950, 0x11c50, 0x11d50, 0x11da0, 0x16a60, 0x16ac0, 0x16b50, 0x1d7ce, 0x1d7d8, 0x1d7e2,
  0x1d7ec, 0x1d7f6, 0x1e140, 0x1e2f0, 0x1e950, 0x1fbf0]

/-- Signs of digit type that are no decimal digits, as closed ranges in rising order. -/
def digitSignRanges : List (Nat × Nat) := [
  (0xb2, 0xb3), (0xb9, 0xb9), (0x1369, 0x1371), (0x19da, 0x19da), (0x2070, 0x2070), (0x2074, 0x2079),
  (0x2080, 0x2089), (0x2460, 0x2468), (0x2474, 0x247c), (0x2488, 0x2490), (0x24ea, 0x24ea), (0x24f5, 0x24fd),
  (0x24ff, 0x24ff), (0x2776, 0x277e), (0x2780, 0x2788), (0x278a, 0x2792), (0x10a40, 0x10a43), (0x10e60, 0x10e68),
  (0x11052, 0x1105a), (0x1f100, 0x1f10a)]

/-- The value of a decimal digit of any script. -/
def digitValue? (c : Char) : Option Nat :=
  if c.toNat < 128 then
    if 48 ≤ c.toNat ∧ c.toNat < 58 then some (c.toNat - 48) else none
  else
    (zeroDigits.find? fun start => decide (start ≤ c.toNat) && decide (c.toNat < start + 10)).map
      fun start => c.toNat - start

/-- Whether the character is a decimal digit of any script. -/
def isDigit (c : Char) : Bool :=
  (digitValue? c).isSome

/-- Whether the character is a decimal digit or another sign of digit type. -/
def isDigitSign (c : Char) : Bool :=
  isDigit c || inRanges digitSignRanges c.toNat

/-- The number that a run of decimal digits writes; other characters count as zero. -/
def digitsValue (cs : List Char) : Nat :=
  cs.foldl (fun n c => 10 * n + (digitValue? c).getD 0) 0

/-- One more digit multiplies the value by ten and adds its own. -/
theorem digitsValue_append (cs : List Char) (c : Char) :
    digitsValue (cs ++ [c]) = 10 * digitsValue cs + (digitValue? c).getD 0 := by
  simp [digitsValue, List.foldl_append]

end DynamicBlocks.Text
