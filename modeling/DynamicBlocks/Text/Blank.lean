import DynamicBlocks.Text.Ranges

/-!
# Blanks

The blank characters are the 25 of Unicode's white-space property and the four information separators
U+001C to U+001F. Texts are trimmed of them at both ends before they are read as numbers, names or arguments.
-/

set_option autoImplicit false

namespace DynamicBlocks.Text

/-- The 29 blank characters, as closed ranges in rising order. -/
def blankRanges : List (Nat × Nat) := [
  (0x9, 0xd), (0x1c, 0x20), (0x85, 0x85), (0xa0, 0xa0), (0x1680, 0x1680), (0x2000, 0x200a),
  (0x2028, 0x2029), (0x202f, 0x202f), (0x205f, 0x205f), (0x3000, 0x3000)]

def isBlank (c : Char) : Bool :=
  inRanges blankRanges c.toNat

/-- Whether the character is an information separator, a blank that stands apart from the white space. -/
def isInformationSeparator (c : Char) : Bool :=
  decide (0x1c ≤ c.toNat) && decide (c.toNat ≤ 0x1f)

/-- The characters with blanks taken off the front. -/
def trimFront (cs : List Char) : List Char :=
  cs.dropWhile isBlank

/-- The characters with blanks taken off the back. -/
def trimBack (cs : List Char) : List Char :=
  (cs.reverse.dropWhile isBlank).reverse

/-- The characters with blanks taken off both ends. -/
def trimChars (cs : List Char) : List Char :=
  trimBack (trimFront cs)

def trim (s : String) : String :=
  String.ofList (trimChars s.toList)

def isBlankText (s : String) : Bool :=
  s.toList.all isBlank

/-- What is left after trimming the front does not start with a blank. -/
theorem head_trimFront (cs : List Char) (c : Char) (h : (trimFront cs).head? = some c) :
    isBlank c = false := by
  unfold trimFront at h
  have := List.head?_dropWhile_not isBlank cs
  rw [h] at this
  simpa using this

/-- Trimming the front of a text that starts with no blank leaves it alone. -/
theorem trimFront_cons (c : Char) (cs : List Char) (h : isBlank c = false) :
    trimFront (c :: cs) = c :: cs := by
  simp [trimFront, h]

end DynamicBlocks.Text
