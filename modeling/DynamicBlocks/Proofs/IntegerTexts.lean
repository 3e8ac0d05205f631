import DynamicBlocks.Expression.Literal
import DynamicBlocks.Modifier.Conversion
import DynamicBlocks.Proofs.ExpressionTexts
import DynamicBlocks.Proofs.NumberTexts

/-!
# Texts of whole numbers

A whole number written in decimal digits is read by three conversions. Taken as a number, and taken as a literal, the
text is that number again, however many digits it has. Cut to a whole number it may have a unit behind it, but it goes
by way of the nearest double: so the number comes back exactly if a double holds it, which is to say that it is a number
of 53 bits with zeros behind them (`IsHeld`). All numbers up to 2 ^ 53 are, and the next one is not.
-/

set_option autoImplicit false

namespace DynamicBlocks

open Text

/-! ## Whole numbers as doubles -/

namespace Double

/-- Whether a double holds a natural number: at most 53 bits, with as many zeros behind them as the greatest exponent
allows. -/
def IsHeld (k : Nat) : Prop :=
  ∃ mantissa exponent : Nat, mantissa < 2 * leastMantissa ∧ exponent ≤ 971 ∧ k = mantissa * 2 ^ exponent

/-- Doubles hold all numbers up to 2 ^ 53. -/
theorem isHeld_of_le {k : Nat} (few : k ≤ 2 * leastMantissa) : IsHeld k := by
  rcases Nat.lt_or_eq_of_le few with less | rfl
  · exact ⟨k, 0, less, by norm_num, by rw [pow_zero, Nat.mul_one]⟩
  · exact ⟨1, 53, by decide, by norm_num, by decide⟩

/-- Cut toward zero, a finite double is its size divided out, with its sign. -/
theorem truncate_finite (negative : Bool) (mantissa : Nat) (exponent : Int) :
    (finite negative mantissa exponent).truncate =
      if negative then -(((scaleDown 2 mantissa 1 (-exponent)).1 / (scaleDown 2 mantissa 1 (-exponent)).2 : Nat) : Int)
      else (((scaleDown 2 mantissa 1 (-exponent)).1 / (scaleDown 2 mantissa 1 (-exponent)).2 : Nat) : Int) := by
  cases negative with
  | false =>
    show Int.tdiv ((scaleDown 2 mantissa 1 (-exponent)).1 : Int) (scaleDown 2 mantissa 1 (-exponent)).2 = _
    rw [Int.ofNat_tdiv]
    rfl
  | true =>
    show Int.tdiv (-((scaleDown 2 mantissa 1 (-exponent)).1 : Int)) (scaleDown 2 mantissa 1 (-exponent)).2 = _
    rw [Int.neg_tdiv, Int.ofNat_tdiv]
    rfl

/-- A double that is a natural number is cut to that number. -/
theorem truncate_of_eq {mantissa k : Nat} {exponent : Int} (same : (mantissa : ℚ) * 2 ^ exponent = k) (negative : Bool) :
    (finite negative mantissa exponent).truncate = if negative then -(k : Int) else k := by
  have hpos := scaleDown_pos (by norm_num : 0 < 2) mantissa one_pos (-exponent)
  have hscaled := scaleDown_quotient (by norm_num : 0 < 2) mantissa 1 (-exponent)
  push_cast at hscaled
  rw [div_one, zpow_neg, div_inv_eq_mul, same, div_eq_iff (by positivity)] at hscaled
  have hnum : (scaleDown 2 mantissa 1 (-exponent)).1 = k * (scaleDown 2 mantissa 1 (-exponent)).2 := by
    exact_mod_cast hscaled
  rw [truncate_finite, hnum, Nat.mul_div_cancel _ hpos]

/-- What a double is cut to is held by a double. -/
theorem isHeld_natAbs_truncate {negative : Bool} {mantissa : Nat} {exponent : Int}
    (formed : (finite negative mantissa exponent).WellFormed) :
    IsHeld (finite negative mantissa exponent).truncate.natAbs := by
  obtain ⟨hsmall, -, hgreatest, -⟩ := formed
  have habs : (finite negative mantissa exponent).truncate.natAbs =
      (scaleDown 2 mantissa 1 (-exponent)).1 / (scaleDown 2 mantissa 1 (-exponent)).2 := by
    rw [truncate_finite]
    cases negative with
    | false => exact Int.natAbs_natCast _
    | true => exact (Int.natAbs_neg _).trans (Int.natAbs_natCast _)
  rw [habs]
  rcases le_or_gt 0 exponent with whole | fraction
  · obtain ⟨e, rfl⟩ := Int.eq_ofNat_of_zero_le whole
    refine ⟨mantissa, e, hsmall, by omega, ?_⟩
    cases e with
    | zero => simp [scaleDown]
    | succ e =>
      show mantissa * Nat.pow 2 (e + 1) / 1 = _
      rw [Nat.div_one]
      rfl
  · -- With a fraction cut off there are fewer bits than before.
    refine ⟨_, 0, lt_of_le_of_lt ?_ hsmall, by norm_num, by rw [pow_zero, Nat.mul_one]⟩
    obtain ⟨e, he⟩ := Int.eq_ofNat_of_zero_le (show 0 ≤ -exponent by omega)
    rw [he]
    exact Nat.div_le_self mantissa _

/-- A natural number that a double holds is one of the form that doubles have. -/
theorem exists_wellFormed_of_isHeld {k : Nat} (hpos : 0 < k) (held : IsHeld k) :
    ∃ (mantissa : Nat) (exponent : Int), (finite false mantissa exponent).WellFormed ∧ 0 < mantissa ∧
      (mantissa : ℚ) * 2 ^ exponent = k := by
  obtain ⟨m, e, hsmall, hgreatest, rfl⟩ := held
  have hm : 0 < m := Nat.pos_of_mul_pos_right hpos
  have hlow : 2 ^ Nat.log2 m ≤ m := Nat.log2_self_le hm.ne'
  have hhigh : m < 2 ^ (Nat.log2 m + 1) := Nat.lt_log2_self
  have hbits : Nat.log2 m ≤ 52 := by
    by_contra more
    have : 2 ^ 53 ≤ 2 ^ Nat.log2 m := Nat.pow_le_pow_right (by norm_num) (by omega)
    unfold leastMantissa at hsmall
    omega
  -- The bits are moved up until there are 53 of them, and the exponent goes down as far.
  have hshift : 2 ^ (52 - Nat.log2 m) * 2 ^ Nat.log2 m = leastMantissa := by
    rw [← pow_add, Nat.sub_add_cancel hbits]
    rfl
  refine ⟨m * 2 ^ (52 - Nat.log2 m), (e : Int) - (52 - Nat.log2 m : Nat), ⟨?_, by omega, by omega, .inl ?_⟩,
    by positivity, ?_⟩
  · calc m * 2 ^ (52 - Nat.log2 m) < 2 ^ (Nat.log2 m + 1) * 2 ^ (52 - Nat.log2 m) :=
          Nat.mul_lt_mul_of_pos_right hhigh (by positivity)
      _ = 2 * leastMantissa := by rw [← hshift, pow_succ]; ring
  · calc leastMantissa = 2 ^ Nat.log2 m * 2 ^ (52 - Nat.log2 m) := by rw [← hshift, Nat.mul_comm]
      _ ≤ m * 2 ^ (52 - Nat.log2 m) := Nat.mul_le_mul_right _ hlow
  · rw [zpow_sub₀ (by norm_num), zpow_natCast, zpow_natCast]
    push_cast
    field_simp

/-- The whole number that a double is cut to, zero for an infinity. -/
def wholePart (x : Double) : Int :=
  if x.isFinite then x.truncate else 0

/-- The double nearest to a whole number is cut to that number exactly if a double holds it. -/
theorem wholePart_ofInt_eq_iff (n : Int) : (ofInt n).wholePart = n ↔ IsHeld n.natAbs := by
  rcases Nat.eq_zero_or_pos n.natAbs with hzero | hpos
  · obtain rfl := Int.natAbs_eq_zero.mp hzero
    exact ⟨fun _ => ⟨0, 0, by decide, by norm_num, rfl⟩, fun _ => by decide +kernel⟩
  have hsign : (if decide (n < 0) then -(n.natAbs : Int) else n.natAbs) = n := by
    rcases lt_or_ge n 0 with negative | positive
    · rw [if_pos (decide_eq_true negative)]
      omega
    · rw [if_neg (by simpa using positive)]
      omega
  constructor
  · intro same
    have formed : (ofInt n).WellFormed := wellFormed_ofRatio (decide (n < 0)) n.natAbs one_pos
    unfold wholePart at same
    cases shape : ofInt n with
    | finite negative mantissa exponent =>
      rw [shape] at same formed
      have held := isHeld_natAbs_truncate formed
      rwa [show (finite negative mantissa exponent).truncate = n from same] at held
    | infinite negative =>
      rw [shape] at same
      have : (0 : Int) = n := same
      omega
    | nan origin =>
      rw [shape] at same
      have : (0 : Int) = n := same
      omega
  · intro held
    obtain ⟨mantissa, exponent, formed, some_bit, value⟩ := exists_wellFormed_of_isHeld hpos held
    have hpow : (0 : ℚ) < 2 ^ exponent := by positivity
    have rounded : ofRatio false n.natAbs 1 = .finite false mantissa exponent := by
      apply ofRatio_eq_of_near formed some_bit one_pos
      · rw [Nat.cast_one, div_one, ← value]
        apply mul_lt_mul_of_pos_right _ hpow
        split <;> linarith
      · rw [Nat.cast_one, div_one, ← value]
        exact mul_lt_mul_of_pos_right (by linarith) hpow
    have signed : ofInt n = .finite (decide (n < 0)) mantissa exponent := ofRatio_finite rounded (decide (n < 0))
    rw [signed]
    show (finite (decide (n < 0)) mantissa exponent).truncate = n
    rw [truncate_of_eq value, hsign]

/-- With an exponent that is not negative, a whole number is divided by a power of two. -/
theorem mantissaOf_of_natCast {k e : Nat} (hexponent : exponentOf k 1 = e) :
    mantissaOf k 1 = roundQuotient k (2 ^ e) := by
  unfold mantissaOf
  rw [hexponent]
  exact congrArg (roundQuotient k) (Nat.one_mul (2 ^ e))

/-- Of the whole numbers with the greatest exponent those are rounded up to the next power of two that are at least half
way from the greatest double to it. -/
theorem roundQuotient_greatest_iff {k : Nat} (below : k < 2 ^ 1024) :
    roundQuotient k (2 ^ 971) = 2 * leastMantissa ↔ 2 ^ 1024 - 2 ^ 970 ≤ k := by
  unfold roundQuotient leastMantissa
  dsimp only
  split
  · omega
  · split <;> omega

/-- The double nearest to a whole number is finite if the number is less than half way from the greatest double to the
next power of two. -/
theorem isFinite_ofInt_iff (n : Int) : (ofInt n).isFinite = true ↔ n.natAbs < 2 ^ 1024 - 2 ^ 970 := by
  show (ofRatio (decide (n < 0)) n.natAbs 1).isFinite = true ↔ _
  generalize decide (n < 0) = negative
  generalize n.natAbs = k
  rcases Nat.eq_zero_or_pos k with rfl | hpos
  · exact iff_of_true rfl (by omega)
  have hratio : (0 : ℚ) < (k : ℚ) / (1 : Nat) := by positivity
  have hexponent := exponentOf_eq hpos one_pos
  have hpower (e : Nat) : 2 ^ e ≤ k ↔ (e : Int) ≤ Int.log 2 ((k : ℚ) / (1 : Nat)) := by
    rw [← two_zpow_le_iff hratio, Nat.cast_one, div_one, zpow_natCast]
    exact_mod_cast Iff.rfl
  have hlow := hpower 1023
  have hhigh := hpower 1024
  have hfinite : (ofRatio negative k 1).isFinite = true ↔
      (mantissaOf k 1 = 2 * leastMantissa → exponentOf k 1 ≤ 970) ∧ exponentOf k 1 ≤ 971 := by
    rw [ofRatio_eq negative hpos]
    split
    · split
      · exact iff_of_false Bool.false_ne_true (by omega)
      · exact iff_of_true rfl (by omega)
    · split
      · exact iff_of_false Bool.false_ne_true (by omega)
      · exact iff_of_true rfl (by omega)
  rw [hfinite]
  rcases Nat.lt_or_ge k (2 ^ 1023) with few | many
  · have hless : exponentOf k 1 ≤ 970 := by omega
    exact iff_of_true ⟨fun _ => hless, by omega⟩ (by omega)
  rcases Nat.lt_or_ge k (2 ^ 1024) with below | above
  · have hgreatest : exponentOf k 1 = 971 := by omega
    rw [mantissaOf_of_natCast hgreatest, roundQuotient_greatest_iff below, hgreatest]
    omega
  · have hmore : 972 ≤ exponentOf k 1 := by omega
    exact iff_of_false (by omega) (by omega)

/-- Beyond 400 digits a number is greater than all doubles. -/
theorem ofRatio_of_digits {k : Nat} (many : 400 < (Nat.toDigits 10 k).length) (negative : Bool) :
    ofRatio negative k 1 = .infinite negative := by
  have hpos : 0 < k := by
    by_contra none
    obtain rfl : k = 0 := by omega
    exact absurd many (by decide)
  have hgreat : 2 ^ 1024 ≤ k := by
    calc 2 ^ 1024 ≤ 10 ^ 400 := by decide +kernel
      _ ≤ 10 ^ ((Nat.toDigits 10 k).length - 1) := Nat.pow_le_pow_right (by norm_num) (by omega)
      _ ≤ k := (length_toDigits_bounds hpos).1
  have hexponent : 971 < exponentOf k 1 := by
    have hlog : (1024 : Int) ≤ Int.log 2 ((k : ℚ) / (1 : Nat)) := by
      apply (two_zpow_le_iff (by positivity) _).mp
      rw [Nat.cast_one, div_one]
      exact_mod_cast hgreat
    rw [exponentOf_eq hpos one_pos]
    omega
  rw [ofRatio_eq negative hpos, if_pos (show 971 < exponentOf k 1 + 1 by omega), if_pos hexponent, ite_self]

/-- Digits without point and exponent are read as the double nearest to their number. -/
theorem ofDecimal_zero (negative : Bool) (k : Nat) : ofDecimal negative k 0 = ofRatio negative k 1 := by
  have some_digit : 0 < (Nat.toDigits 10 k).length := Nat.length_toDigits_pos
  unfold ofDecimal
  dsimp only
  split
  · rename_i small
    obtain rfl : k = 0 := by
      rcases small with none | tiny
      · exact none
      · omega
    rfl
  · split
    · rename_i many
      exact (ofRatio_of_digits (by omega) negative).symm
    · simp [scaleDown]

end Double

/-! ## Units behind a number -/

/-- Whether characters start with a digit of any script. -/
def startsWithDigit (cs : List Char) : Bool :=
  cs.head?.any isDigit

/-- Whether characters start with an exponent, which has at least one digit. -/
def startsWithExponent : List Char → Bool
  | [] => false
  | mark :: rest => (mark == 'e' || mark == 'E') && startsWithDigit (takeSign rest).2

/-- The characters behind a point, all of them if there is none in front. -/
def behindPoint : List Char → List Char
  | '.' :: rest => rest
  | cs => cs

/-- Whether characters behind a whole number go on with it: with a digit or an exponent, be it behind a point. -/
def goesOnNumber (unit : List Char) : Bool :=
  startsWithDigit (behindPoint unit) || startsWithExponent (behindPoint unit)

/-- A text that starts with no digit has none in front. -/
theorem takeWhile_of_noDigit {cs : List Char} (noDigit : startsWithDigit cs = false) :
    cs.takeWhile isDigit = [] ∧ cs.dropWhile isDigit = cs := by
  cases cs with
  | nil => exact ⟨rfl, rfl⟩
  | cons c cs =>
    have other : isDigit c = false := noDigit
    exact ⟨List.takeWhile_cons_of_neg (by simp [other]), List.dropWhile_cons_of_neg (by simp [other])⟩

/-- A text that starts with no exponent has none to take. -/
theorem takeExponent_of_noExponent {cs : List Char} (noExponent : startsWithExponent cs = false) :
    takeExponent cs = (none, cs) := by
  cases cs with
  | nil => rfl
  | cons mark rest =>
    unfold takeExponent
    dsimp only
    split
    · rename_i marked
      have noDigit : startsWithDigit (takeSign rest).2 = false := by
        rcases marked with rfl | rfl <;> exact noExponent
      rw [(takeWhile_of_noDigit noDigit).1]
      rfl
    · rfl

section

variable {digits : List Char} (some_digit : digits ≠ []) (digit : ∀ c ∈ digits, isDigit c = true)
include some_digit digit

/-- Digits with a point behind them are taken with the digits behind the point. -/
theorem takeDecimal?_point (rest : List Char) :
    takeDecimal? (digits ++ '.' :: rest) = some (digits, some (rest.takeWhile isDigit), rest.dropWhile isDigit) := by
  obtain ⟨c, cs, rfl⟩ := List.exists_cons_of_ne_nil some_digit
  have dotless : isDigit '.' = false := by decide
  have stops : ∀ d, ('.' :: rest).head? = some d → isDigit d = false := fun d head => by
    rw [← Option.some.inj head, dotless]
  obtain ⟨taken, left⟩ := takeWhile_of_stop digit stops
  unfold takeDecimal?
  rw [taken, left]
  rfl

/-- Digits with neither a point nor a digit behind them are taken as a whole number. -/
theorem takeDecimal?_whole {unit : List Char} (pointless : unit.head? ≠ some '.') (noDigit : startsWithDigit unit = false) :
    takeDecimal? (digits ++ unit) = some (digits, none, unit) := by
  obtain ⟨c, cs, rfl⟩ := List.exists_cons_of_ne_nil some_digit
  have stops : ∀ d, unit.head? = some d → isDigit d = false := fun d head => by
    unfold startsWithDigit at noDigit
    rw [head] at noDigit
    exact noDigit
  obtain ⟨taken, left⟩ := takeWhile_of_stop digit stops
  unfold takeDecimal?
  rw [taken, left]
  dsimp only
  split
  · rename_i empty
    cases empty
  · rename_i empty _
    cases empty
  · exact absurd rfl pointless
  · rfl

/-- Of a unit that does not go on with a number no more than a point is taken to it. -/
theorem takeDecimal?_of_unit {unit : List Char} (other : goesOnNumber unit = false) :
    ∃ fraction rest, takeDecimal? (digits ++ unit) = some (digits, fraction, rest) ∧ fraction.getD [] = [] ∧
      takeExponent rest = (none, rest) := by
  obtain ⟨noDigit, noExponent⟩ := Bool.or_eq_false_iff.mp other
  by_cases point : unit.head? = some '.'
  · obtain ⟨rest, rfl⟩ := List.head?_eq_some_iff.mp point
    obtain ⟨none_taken, all_left⟩ := takeWhile_of_noDigit (show startsWithDigit rest = false from noDigit)
    refine ⟨some [], rest, ?_, rfl, takeExponent_of_noExponent noExponent⟩
    rw [takeDecimal?_point some_digit digit, none_taken, all_left]
  · have same : behindPoint unit = unit := by
      unfold behindPoint
      split
      · exact absurd rfl point
      · rfl
    rw [same] at noDigit noExponent
    exact ⟨none, unit, takeDecimal?_whole some_digit digit point noDigit, rfl, takeExponent_of_noExponent noExponent⟩

end

/-! ## The text of a whole number -/

/-- The ten digits of ASCII are digits. -/
theorem isDigit_of_ascii {c : Char} (digit : c.isDigit = true) : isDigit c = true := by
  simp only [Char.isDigit, Bool.and_eq_true, decide_eq_true_eq] at digit
  have low : 48 ≤ c.toNat := digit.1
  have high : c.toNat ≤ 57 := digit.2
  unfold isDigit digitValue?
  rw [if_pos (by omega), if_pos ⟨low, by omega⟩]
  rfl

/-- The ten digits of ASCII are no blanks. -/
theorem isBlank_of_ascii {c : Char} (digit : c.isDigit = true) : isBlank c = false := by
  simp only [Char.isDigit, Bool.and_eq_true, decide_eq_true_eq] at digit
  have low : 48 ≤ c.toNat := digit.1
  have high : c.toNat ≤ 57 := digit.2
  have apart : ∀ range ∈ blankRanges, range.2 < 48 ∨ 57 < range.1 := by decide
  rw [Bool.eq_false_iff]
  intro blank
  obtain ⟨range, there, above, below⟩ := (inRanges_iff blankRanges c.toNat).mp blank
  have := apart range there
  omega

section

variable (n : Int)

/-- The text of an integer is its sign and its decimal digits. -/
theorem toList_intText : (intText n).toList = (if n < 0 then ['-'] else []) ++ Nat.toDigits 10 n.natAbs :=
  String.toList_ofList

/-- Every integer has digits. -/
theorem toDigits_ne_nil : Nat.toDigits 10 n.natAbs ≠ [] := by
  simp

/-- They are digits of ASCII. -/
theorem ascii_of_mem_toDigits : ∀ c ∈ Nat.toDigits 10 n.natAbs, c.isDigit = true :=
  fun _ there => Nat.isDigit_of_mem_toDigits (by norm_num) (by norm_num) there

/-- They are digits. -/
theorem isDigit_of_mem_toDigits : ∀ c ∈ Nat.toDigits 10 n.natAbs, isDigit c = true :=
  fun c there => isDigit_of_ascii (ascii_of_mem_toDigits n c there)

/-- There are no blanks in the text of an integer. -/
theorem isBlank_of_mem_intText : ∀ c ∈ (intText n).toList, isBlank c = false := by
  intro c there
  rw [toList_intText, List.mem_append] at there
  rcases there with sign | digit
  · split at sign
    · rw [List.mem_singleton.mp sign]
      decide
    · cases sign
  · exact isBlank_of_ascii (ascii_of_mem_toDigits n c digit)

/-- The text of a whole number starts with a minus sign or a digit. -/
theorem exists_cons_of_intText : ∃ c cs, (intText n).toList = c :: cs ∧ c ≠ '"' ∧ c ≠ '\'' := by
  obtain ⟨c, cs, shape⟩ := @List.exists_cons_of_ne_nil _ (intText n).toList (by rw [toList_intText]; simp)
  have there : c ∈ (intText n).toList := by simp [shape]
  refine ⟨c, cs, shape, ?_, ?_⟩ <;>
  · rintro rfl
    rw [toList_intText, List.mem_append] at there
    rcases there with sign | digit
    · split at sign
      · cases List.mem_singleton.mp sign
      · cases sign
    · cases ascii_of_mem_toDigits n _ digit

/-- The numeral in front of the text of a whole number goes as far as its digits and what is taken to them. -/
theorem takeNumeral?_of_takeDecimal? {unit rest : List Char} {fraction : Option (List Char)}
    (taken : takeDecimal? (Nat.toDigits 10 n.natAbs ++ unit) = some (Nat.toDigits 10 n.natAbs, fraction, rest))
    (ended : takeExponent rest = (none, rest)) :
    takeNumeral? ((intText n).toList ++ unit) =
      some (⟨decide (n < 0), Nat.toDigits 10 n.natAbs, fraction, none⟩, rest) := by
  have signed : takeSign ((intText n).toList ++ unit) = (decide (n < 0), Nat.toDigits 10 n.natAbs ++ unit) := by
    rw [toList_intText, List.append_assoc]
    by_cases negative : n < 0
    · rw [if_pos negative, decide_eq_true negative]
      rfl
    · rw [if_neg negative, decide_eq_false negative, List.nil_append]
      obtain ⟨c, cs, shape⟩ := List.exists_cons_of_ne_nil (toDigits_ne_nil n)
      have digit := ascii_of_mem_toDigits n c (by simp [shape])
      rw [shape, List.cons_append]
      unfold takeSign
      split
      · rename_i same
        cases (List.cons.inj same).1 ▸ digit
      · rename_i same
        cases (List.cons.inj same).1 ▸ digit
      · rfl
  unfold takeNumeral?
  rw [signed]
  dsimp only
  rw [taken, Option.map_some]
  dsimp only
  rw [ended]

/-- Taken as a number, the text of a whole number is that number. -/
theorem numberOfText?_intText : Number.ofText? (intText n) = some (.int n) := by
  have whole := @takeDecimal?_whole _ (toDigits_ne_nil n) (isDigit_of_mem_toDigits n) [] (by simp) rfl
  have taken := takeNumeral?_of_takeDecimal? n whole rfl
  rw [List.append_nil] at taken
  unfold Number.ofText? numeralChars?
  rw [trimChars_of_solid (isBlank_of_mem_intText n), taken]
  show some (Number.int (Numeral.ofInt n).toInt) = _
  rw [Numeral.toInt_ofInt]

/-- The text of a whole number is a literal, and no other one than the number. -/
theorem literal?_intText : literal? (intText n) = some (.int n) := by
  obtain ⟨c, cs, shape, double, single⟩ := exists_cons_of_intText n
  have trimmed : trim (intText n) = intText n := by
    unfold trim
    rw [trimChars_of_solid (isBlank_of_mem_intText n), String.ofList_toList]
  have filled : intText n ≠ "" := by
    intro empty
    rw [empty] at shape
    cases shape
  have unquoted : unquoted? (intText n).toList = none := by
    rw [shape]
    unfold unquoted?
    split
    · rfl
    · rfl
    · rename_i same
      obtain ⟨rfl, -⟩ := List.cons.inj same
      rw [if_neg fun quoted => quoted.1.elim double single]
  unfold literal?
  rw [trimmed]
  dsimp only
  rw [if_neg filled, unquoted]
  dsimp only
  rw [numberOfText?_intText]
  rfl

/-- The double that a whole number with a unit behind it is read as is the one nearest to the number. -/
theorem leadingDouble?_intText {unit : String} (other : goesOnNumber unit.toList = false) :
    leadingDouble? (intText n ++ unit) = some (Double.ofInt n) := by
  obtain ⟨fraction, rest, whole, bare, ended⟩ :=
    takeDecimal?_of_unit (toDigits_ne_nil n) (isDigit_of_mem_toDigits n) other
  obtain ⟨c, cs, shape, -, -⟩ := exists_cons_of_intText n
  have solid : isBlank c = false := isBlank_of_mem_intText n c (by simp [shape])
  have untrimmed : trimFront ((intText n).toList ++ unit.toList) = (intText n).toList ++ unit.toList := by
    rw [shape, List.cons_append, trimFront_cons c _ solid]
  have value : Numeral.toDouble ⟨decide (n < 0), Nat.toDigits 10 n.natAbs, fraction, none⟩ = Double.ofInt n := by
    unfold Numeral.toDouble
    rw [bare]
    dsimp only
    rw [List.append_nil, digitsValue_toDigits]
    exact Double.ofDecimal_zero _ _
  unfold leadingDouble?
  rw [String.toList_append, untrimmed, takeNumeral?_of_takeDecimal? n whole ended, Option.map_some, value]

end

/-! ## The three conversions -/

/-- Cut to a whole number, the text of a whole number with a unit behind it is the nearest double without its fraction,
and zero if that is infinite. -/
theorem toInt_intText (n : Int) {unit : String} (other : goesOnNumber unit.toList = false) :
    (Value.text (intText n ++ unit)).toInt = .ok (Double.ofInt n).wholePart := by
  have shown : (Value.text (intText n ++ unit)).display = pure (intText n ++ unit) := rfl
  unfold Value.toInt
  dsimp only
  rw [shown, pure_bind, leadingDouble?_intText n other]
  rfl

/-- The text of a whole number is that number again as a number and as a literal, and cut to a whole number, with a unit
behind it or without, exactly if a double holds the number. -/
theorem intText_converts_iff (n : Int) {unit : String} (other : goesOnNumber unit.toList = false) :
    (Value.text (intText n)).toNumber = .ok (.int n) ∧ literal? (intText n) = some (.int n) ∧
      ((Value.text (intText n ++ unit)).toInt = .ok n ↔ Double.IsHeld n.natAbs) := by
  refine ⟨?_, literal?_intText n, ?_⟩
  · show (pure ((Number.ofText? (intText n)).getD (.int 0)) : Except Failure Number) = _
    rw [numberOfText?_intText]
    rfl
  · rw [toInt_intText n other, ← Double.wholePart_ofInt_eq_iff]
    exact ⟨Except.ok.inj, congrArg _⟩

/-- The unit may look like the start of an exponent, as long as no digit follows. -/
theorem intText_converts_iff_em :
    goesOnNumber "em".toList = false ∧
      (Value.text (intText (-9007199254740992))).toNumber = .ok (.int (-9007199254740992)) ∧
      literal? (intText (-9007199254740992)) = some (.int (-9007199254740992)) ∧
      (Value.text (intText (-9007199254740992) ++ "em")).toInt = .ok (-9007199254740992) := by
  have other : goesOnNumber "em".toList = false := by decide +kernel
  obtain ⟨number, literal, cut⟩ := intText_converts_iff (-9007199254740992) other
  exact ⟨other, number, literal, cut.mpr (Double.isHeld_of_le (by decide))⟩

/-- The first number that no double holds is cut to the one before. -/
theorem toInt_intText_ne : (Value.text (intText 9007199254740993)).toInt ≠ .ok 9007199254740993 := by
  have cut : (Value.text (intText 9007199254740993)).toInt.toOption = some 9007199254740992 := by decide +kernel
  intro same
  rw [same] at cut
  cases cut

end DynamicBlocks
