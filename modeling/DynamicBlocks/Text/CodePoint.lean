/-!
# Code points

A text is a sequence of code points, and a surrogate is one of them: content can hold half of a pair alone, for JSON
writes every half by its own code. A `Char` is never a surrogate. Surrogates are held by characters that stand in for
them, those 0xd0000 further on, in a plane where no character is assigned; the code points of these characters
themselves are meant nowhere.

Where texts are written by code, two surrogates that make a pair cannot be told from the character of the pair
(`combined?`). Bytes cannot be made of a text with a surrogate (`isEncodable`).
-/

set_option autoImplicit false

namespace DynamicBlocks.Text

/-- The code point that a character of a text is. -/
def codePoint (c : Char) : Nat :=
  if 0xdd800 ≤ c.toNat ∧ c.toNat < 0xde000 then c.toNat - 0xd0000 else c.toNat

/-- The character that holds a code point. -/
def ofCodePoint (code : Nat) : Char :=
  if 0xd800 ≤ code ∧ code < 0xe000 then Char.ofNat (code + 0xd0000) else Char.ofNat code

/-- Whether a character of a text is a surrogate. -/
def isSurrogate (c : Char) : Bool :=
  decide (0xd800 ≤ codePoint c) && decide (codePoint c < 0xe000)

/-- Whether bytes can be made of a text: surrogates have none. -/
def isEncodable (s : String) : Bool :=
  s.toList.all fun c => !isSurrogate c

/-- The code point of a high and a low surrogate together, unless it is that of a character that stands in for a
surrogate. -/
def combined? (high low : Nat) : Option Nat :=
  if 0xd800 ≤ high ∧ high < 0xdc00 ∧ 0xdc00 ≤ low ∧ low < 0xe000 then
    let code := 0x10000 + (high - 0xd800) * 0x400 + (low - 0xdc00)
    if 0xdd800 ≤ code ∧ code < 0xde000 then none else some code
  else none

/-- Whether a text comes before another, code point by code point. -/
def precedes (s t : String) : Bool :=
  (s.toList.map codePoint).lex (t.toList.map codePoint) fun a b => decide (a < b)

/-- Texts are ordered as the sequences of their code points are. -/
theorem precedes_iff {s t : String} : precedes s t = true ↔ s.toList.map codePoint < t.toList.map codePoint := by
  rw [precedes, List.lex_eq_true_iff_lex]
  simp only [decide_eq_true_eq]
  rfl

/-- The code point of a character is below 0x110000. -/
theorem codePoint_lt (c : Char) : codePoint c < 0x110000 := by
  have valid : c.toNat < 0xd800 ∨ 0xdfff < c.toNat ∧ c.toNat < 0x110000 := c.valid
  unfold codePoint
  split <;> omega

/-- A character is the one that holds its code point. -/
theorem ofCodePoint_codePoint (c : Char) : ofCodePoint (codePoint c) = c := by
  have valid : c.toNat < 0xd800 ∨ 0xdfff < c.toNat ∧ c.toNat < 0x110000 := c.valid
  unfold ofCodePoint codePoint
  split
  · rename_i stands
    rw [if_pos (by omega), Nat.sub_add_cancel (by omega), Char.ofNat_toNat]
  · rw [if_neg (by omega), Char.ofNat_toNat]

/-- Different characters are different code points. -/
theorem codePoint_inj {c d : Char} (same : codePoint c = codePoint d) : c = d := by
  rw [← ofCodePoint_codePoint c, same, ofCodePoint_codePoint]

/-- Two surrogates of a pair are surrogates, and their character stands in for none. -/
theorem combined?_eq_some {high low code : Nat} (pair : combined? high low = some code) :
    (0xd800 ≤ high ∧ high < 0xdc00 ∧ 0xdc00 ≤ low ∧ low < 0xe000) ∧
      code = 0x10000 + (high - 0xd800) * 0x400 + (low - 0xdc00) ∧ ¬(0xdd800 ≤ code ∧ code < 0xde000) := by
  unfold combined? at pair
  split at pair
  · rename_i surrogates
    dsimp only at pair
    split at pair
    · cases pair
    · rename_i plain
      obtain rfl := Option.some.inj pair
      exact ⟨surrogates, rfl, plain⟩
  · cases pair

end DynamicBlocks.Text
