import DynamicBlocks.Proofs.NearestDouble

/-!
# Digits that read back

The digits chosen for a double are read as that double again. The search for the fewest digits takes none that do not
read back, so all that is left is the case that it finds none: seventeen digits always read back, for a unit of their
last place is less than the distance to the next double.
-/

set_option autoImplicit false

namespace DynamicBlocks

open Double

/-- The power of ten below the decimal point of a quotient is not greater than the quotient. -/
theorem zpow_decimalPoint_le {num den : Nat} (hnum : 0 < num) (hden : 0 < den) :
    (10 : ℚ) ^ (decimalPoint num den - 1) ≤ (num : ℚ) / den := by
  have hd : (0 : ℚ) < den := by exact_mod_cast hden
  have hscaled := scaleDown_quotient (by norm_num : 0 < 10) num den
    (((Nat.toDigits 10 num).length : Int) - (Nat.toDigits 10 den).length)
  have hpos := scaleDown_pos (by norm_num : 0 < 10) num hden
    (((Nat.toDigits 10 num).length : Int) - (Nat.toDigits 10 den).length)
  unfold decimalPoint
  dsimp only
  generalize hguess : ((Nat.toDigits 10 num).length : Int) - (Nat.toDigits 10 den).length = guess at hscaled hpos
  split
  · rename_i above
    have hpow : (0 : ℚ) < ((10 : Nat) : ℚ) ^ guess := by positivity
    have hone : (1 : ℚ) ≤ (num : ℚ) / den / ((10 : Nat) : ℚ) ^ guess := by
      rw [← hscaled, one_le_div (by exact_mod_cast hpos)]
      exact_mod_cast above
    rw [one_le_div hpow] at hone
    rw [add_sub_cancel_right]
    exact_mod_cast hone
  · have hcount : 0 < (Nat.toDigits 10 num).length := Nat.length_toDigits_pos
    have hnum' : (10 : ℚ) ^ (((Nat.toDigits 10 num).length : Int) - 1) ≤ num := by
      have hexp : ((Nat.toDigits 10 num).length : Int) - 1 = ((Nat.toDigits 10 num).length - 1 : Nat) := by omega
      rw [hexp, zpow_natCast]
      exact_mod_cast (length_toDigits_bounds hnum).1
    have hden' : (den : ℚ) ≤ 10 ^ ((Nat.toDigits 10 den).length : Int) := by
      rw [zpow_natCast]
      exact_mod_cast (length_toDigits_bounds hden).2.le
    rw [le_div_iff₀ hd]
    calc (10 : ℚ) ^ (guess - 1) * den ≤ 10 ^ (guess - 1) * 10 ^ ((Nat.toDigits 10 den).length : Int) := by gcongr
      _ = 10 ^ (((Nat.toDigits 10 num).length : Int) - 1) := by
        rw [← zpow_add₀ (by norm_num)]
        congr 1
        omega
      _ ≤ num := hnum'

/-- Digits of a set number are at most half a unit of the last place away. -/
theorem abs_digitsOf_sub_le (num : Nat) {den count : Nat} (hden : 0 < den) (hcount : 0 < count) :
    |((digitsOf num den count).value : ℚ) * 10 ^ (digitsOf num den count).exponent - (num : ℚ) / den| ≤
      1 / 2 * 10 ^ (decimalPoint num den - count) := by
  have hat : |((digitsAt num den (decimalPoint num den - count)).value : ℚ) * 10 ^ (decimalPoint num den - count) -
      (num : ℚ) / den| ≤ 1 / 2 * 10 ^ (decimalPoint num den - count) := by
    generalize decimalPoint num den - count = exponent
    have hpow : (0 : ℚ) < 10 ^ exponent := by positivity
    have hround := abs_roundQuotient_sub_le (scaleDown 10 num den exponent).1
      (scaleDown_pos (by norm_num : 0 < 10) num hden exponent)
    have hscaled := scaleDown_quotient (by norm_num : 0 < 10) num den exponent
    rw [hscaled] at hround
    have hvalue : ((digitsAt num den exponent).value : ℚ) =
        roundQuotient (scaleDown 10 num den exponent).1 (scaleDown 10 num den exponent).2 := rfl
    have hfactor : ((digitsAt num den exponent).value : ℚ) * 10 ^ exponent - (num : ℚ) / den =
        ((digitsAt num den exponent).value - (num : ℚ) / den / ((10 : Nat) : ℚ) ^ exponent) * 10 ^ exponent := by
      push_cast
      rw [sub_mul, div_mul_cancel₀ _ hpow.ne']
    rw [hfactor, abs_mul, abs_of_pos hpow, hvalue]
    gcongr
  unfold digitsOf
  dsimp only
  split
  · rename_i carried
    have hsame : (((digitsAt num den (decimalPoint num den - count)).value / 10 : Nat) : ℚ) *
        10 ^ ((digitsAt num den (decimalPoint num den - count)).exponent + 1) =
        ((digitsAt num den (decimalPoint num den - count)).value : ℚ) * 10 ^ (decimalPoint num den - count) := by
      obtain ⟨more, rfl⟩ : ∃ more, count = more + 1 := ⟨count - 1, by omega⟩
      rw [carried, Nat.pow_eq, pow_succ, Nat.mul_div_cancel _ (by norm_num), zpow_add_one₀ (by norm_num)]
      unfold digitsAt
      push_cast
      ring
    rw [hsame]
    exact hat
  · exact hat

/-- Digits without the zeros at the end are read as the same double. -/
theorem ofDecimal_dropZeros (negative : Bool) (count : Nat) (d : Digits) :
    ofDecimal negative (d.dropZeros count).value (d.dropZeros count).exponent =
      ofDecimal negative d.value d.exponent := by
  induction count generalizing d with
  | zero => rfl
  | succ count ih =>
    unfold Digits.dropZeros
    split
    · rename_i more
      have hten : d.value / 10 * 10 = d.value := by omega
      rw [ih, ← ofDecimal_mul_ten, hten]
    · rfl

/-- Digits of so many places are taken only if they read back. -/
theorem readsBack_of_readingBackAt {x : Double} {num den count : Nat} {d : Digits}
    (found : readingBackAt x num den count = some d) : d.readsBack x = true := by
  unfold readingBackAt at found
  dsimp only at found
  split at found
  · rename_i below above
    cases found
    -- The rounded quotient is one of its two neighbours.
    unfold roundQuotient
    dsimp only
    split
    · exact below
    · split
      · exact above
      · rcases Nat.mod_two_eq_zero_or_one ((scaleDown 10 num den (decimalPoint num den - count)).1 /
          (scaleDown 10 num den (decimalPoint num den - count)).2) with even | odd
        · rw [even]
          exact below
        · rw [odd]
          exact above
  · rename_i below _
    cases found
    exact below
  · rename_i above
    cases found
    exact above
  · cases found

/-- A positive double is its mantissa times a power of two. -/
theorem Double.ratio_finite (mantissa : Nat) (exponent : Int) :
    0 < (Double.finite false mantissa exponent).ratio.2 ∧
      ((Double.finite false mantissa exponent).ratio.1.natAbs : ℚ) / (Double.finite false mantissa exponent).ratio.2 =
        mantissa * 2 ^ exponent := by
  refine ⟨scaleDown_pos (by norm_num) _ one_pos _, ?_⟩
  have hscaled := scaleDown_quotient (by norm_num : 0 < 2) mantissa 1 (-exponent)
  have hnum : (Double.finite false mantissa exponent).ratio.1.natAbs = (scaleDown 2 mantissa 1 (-exponent)).1 := rfl
  have hden : (Double.finite false mantissa exponent).ratio.2 = (scaleDown 2 mantissa 1 (-exponent)).2 := rfl
  rw [hnum, hden, hscaled]
  push_cast
  rw [div_one, zpow_neg, div_inv_eq_mul]

/-- Seventeen digits of a double read back as the double. -/
theorem ofDecimal_digitsOf {mantissa : Nat} {exponent : Int}
    (formed : (Double.finite false mantissa exponent).WellFormed) (hpos : 0 < mantissa) {num den : Nat} (hden : 0 < den)
    (size : (num : ℚ) / den = mantissa * 2 ^ exponent) :
    ofDecimal false (digitsOf num den 17).value (digitsOf num den 17).exponent = .finite false mantissa exponent := by
  have hpow : (0 : ℚ) < 2 ^ exponent := by positivity
  have hnum : 0 < num := by
    have : (0 : ℚ) < (num : ℚ) / den := size ▸ by positivity
    rw [div_pos_iff_of_pos_right (by positivity)] at this
    exact_mod_cast this
  have hpoint := zpow_decimalPoint_le hnum hden
  have herror := abs_le.mp (abs_digitsOf_sub_le num hden (by norm_num : 0 < 17))
  rw [size] at hpoint herror
  -- A unit of the last place is so small beside the double that half of it cannot reach the next one.
  have hunit : (10 : ℚ) ^ (decimalPoint num den - 1) = 10 ^ 16 * 10 ^ (decimalPoint num den - (17 : Nat)) := by
    rw [← zpow_natCast, ← zpow_add₀ (by norm_num)]
    congr 1
    push_cast
    ring
  rw [hunit] at hpoint
  generalize (10 : ℚ) ^ (decimalPoint num den - (17 : Nat)) = unit at hpoint herror
  have hsmall : (mantissa : ℚ) * 2 ^ exponent < 2 * leastMantissa * 2 ^ exponent := by
    have : (mantissa : ℚ) < 2 * leastMantissa := by exact_mod_cast formed.1
    gcongr
  unfold leastMantissa at hsmall
  apply ofDecimal_eq_of_near formed hpos
  · split
    · rename_i least
      rw [least] at hpoint herror ⊢
      unfold leastMantissa at hpoint herror ⊢
      norm_num at hpoint herror ⊢
      linarith [herror.1]
    · norm_num at hpoint hsmall herror ⊢
      linarith [herror.1]
  · norm_num at hpoint hsmall herror ⊢
    linarith [herror.2]

/-- The fewest digits that read back do read back. -/
theorem ofDecimal_shortestDigits {mantissa : Nat} {exponent : Int}
    (formed : (Double.finite false mantissa exponent).WellFormed) (hpos : 0 < mantissa) :
    ofDecimal false (shortestDigits (.finite false mantissa exponent)).value
      (shortestDigits (.finite false mantissa exponent)).exponent = .finite false mantissa exponent := by
  obtain ⟨hden, hsize⟩ := Double.ratio_finite mantissa exponent
  unfold shortestDigits
  dsimp only
  split
  · rename_i d found
    rw [ofDecimal_dropZeros]
    obtain ⟨count, -, here⟩ := List.exists_of_findSome?_eq_some found
    exact eq_of_beq (readsBack_of_readingBackAt here)
  · rw [ofDecimal_dropZeros]
    exact ofDecimal_digitsOf formed hpos hden hsize

end DynamicBlocks
