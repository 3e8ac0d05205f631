import DynamicBlocks.Number.Shortest
import Mathlib.Algebra.Order.Field.Power
import Mathlib.Data.Int.Log
import Mathlib.Data.Rat.Floor
import Mathlib.Tactic.FieldSimp
import Mathlib.Tactic.Linarith
import Mathlib.Tactic.NormNum
import Mathlib.Tactic.Positivity
import Mathlib.Tactic.Ring

/-!
# The nearest double

Every double that a calculation comes to is a quotient rounded to the nearest double. What a quotient is rounded to
depends on the quotient alone and not on how it is written (`ofRatio_congr`), and it is the double that is less than
half the way to the next one away (`ofRatio_eq_of_near`). Decimal digits with a power of ten are such quotients, so
zeros behind the digits make no difference to the double that they are read as.
-/

set_option autoImplicit false

namespace DynamicBlocks

/-! ## Quotients -/

/-- A quotient that is scaled down has a denominator still. -/
theorem scaleDown_pos {base den : Nat} (hbase : 0 < base) (num : Nat) (hden : 0 < den) (exponent : Int) :
    0 < (scaleDown base num den exponent).2 := by
  cases exponent with
  | ofNat e => exact Nat.mul_pos hden (Nat.pow_pos hbase)
  | negSucc e => exact hden

/-- Scaling down divides by a power of the base. -/
theorem scaleDown_quotient {base : Nat} (hbase : 0 < base) (num den : Nat) (exponent : Int) :
    ((scaleDown base num den exponent).1 : ℚ) / (scaleDown base num den exponent).2 =
      (num : ℚ) / den / (base : ℚ) ^ exponent := by
  cases exponent with
  | ofNat e =>
    simp only [scaleDown, Nat.pow_eq, Int.ofNat_eq_natCast, zpow_natCast]
    push_cast
    rw [div_div]
  | negSucc e =>
    have hpow : ((base : ℚ) ^ (e + 1)) ≠ 0 := by positivity
    simp only [scaleDown, Nat.pow_eq, zpow_negSucc]
    push_cast
    rw [div_inv_eq_mul]
    ring

/-- Quotients that are scaled to a common denominator keep their order. -/
theorem roundQuotient_mul_right {k : Nat} (hk : 0 < k) (num den : Nat) :
    roundQuotient (num * k) (den * k) = roundQuotient num den := by
  have hrest : num * k % (den * k) = num % den * k := Nat.mul_mod_mul_right k num den
  have hleft : 2 * (num % den * k) < den * k ↔ 2 * (num % den) < den := by
    rw [← Nat.mul_assoc]
    exact Nat.mul_lt_mul_right hk
  have hright : den * k < 2 * (num % den * k) ↔ den < 2 * (num % den) := by
    rw [← Nat.mul_assoc]
    exact Nat.mul_lt_mul_right hk
  unfold roundQuotient
  simp only [Nat.mul_div_mul_right num den hk, hrest, hleft, hright]

/-- Rounding depends on nothing but the quotient. -/
theorem roundQuotient_congr {num den num' den' : Nat} (hden : 0 < den) (hden' : 0 < den')
    (same : (num : ℚ) / den = (num' : ℚ) / den') : roundQuotient num den = roundQuotient num' den' := by
  have hcross : num * den' = num' * den := by
    rw [div_eq_div_iff (by positivity) (by positivity)] at same
    exact_mod_cast same
  calc roundQuotient num den = roundQuotient (num * den') (den * den') := (roundQuotient_mul_right hden' num den).symm
    _ = roundQuotient (num' * den) (den' * den) := by rw [hcross, Nat.mul_comm den den']
    _ = roundQuotient num' den' := roundQuotient_mul_right hden num' den'

/-- A rounded quotient is at most one half away. -/
theorem abs_roundQuotient_sub_le (num : Nat) {den : Nat} (hden : 0 < den) :
    |(roundQuotient num den : ℚ) - (num : ℚ) / den| ≤ 1 / 2 := by
  have hq : (0 : ℚ) < den := by exact_mod_cast hden
  have hsplit : (num : ℚ) / den = (num / den : Nat) + ((num % den : Nat) : ℚ) / den := by
    have hnat : (num : ℚ) = den * (num / den : Nat) + (num % den : Nat) := by
      exact_mod_cast (Nat.div_add_mod num den).symm
    rw [add_div' _ _ _ hq.ne', div_left_inj' hq.ne', hnat]
    ring
  have hrest : (0 : ℚ) ≤ ((num % den : Nat) : ℚ) / den := by positivity
  rw [hsplit, abs_le]
  unfold roundQuotient
  dsimp only
  generalize hr : num % den = rest at hrest
  split
  · rename_i hlow
    have : (rest : ℚ) / den < 1 / 2 := by
      rw [div_lt_iff₀ hq]
      have : (2 * rest : ℚ) < den := by exact_mod_cast hlow
      linarith
    constructor <;> linarith
  · split
    · rename_i hhigh
      have hup : (1 : ℚ) / 2 < (rest : ℚ) / den := by
        rw [lt_div_iff₀ hq]
        have : (den : ℚ) < 2 * rest := by exact_mod_cast hhigh
        linarith
      have hone : (rest : ℚ) / den < 1 := by
        rw [div_lt_one hq]
        exact_mod_cast hr ▸ Nat.mod_lt num hden
      push_cast
      constructor <;> linarith
    · have hhalf : (rest : ℚ) / den = 1 / 2 := by
        have : 2 * rest = den := by omega
        rw [div_eq_div_iff hq.ne' (by norm_num)]
        have : (2 * rest : ℚ) = den := by exact_mod_cast this
        linarith
      rw [hhalf]
      rcases Nat.mod_two_eq_zero_or_one (num / den) with even | odd
      · rw [even]
        push_cast
        constructor <;> linarith
      · rw [odd]
        push_cast
        constructor <;> linarith

/-- A quotient less than one half away from a natural number is rounded to it. -/
theorem roundQuotient_eq_of_near {num den n : Nat} (hden : 0 < den) (hlow : (n : ℚ) - 1 / 2 < (num : ℚ) / den)
    (hhigh : (num : ℚ) / den < n + 1 / 2) : roundQuotient num den = n := by
  have hround := abs_le.mp (abs_roundQuotient_sub_le num hden)
  have hup : (roundQuotient num den : ℚ) < n + 1 := by linarith
  have hdown : (n : ℚ) < roundQuotient num den + 1 := by linarith
  have hup' : roundQuotient num den < n + 1 := by exact_mod_cast hup
  have hdown' : n < roundQuotient num den + 1 := by exact_mod_cast hdown
  omega

namespace Double

/-- A power of two is at most a positive number exactly if its exponent is at most the binary logarithm. -/
theorem two_zpow_le_iff {r : ℚ} (hr : 0 < r) (x : Int) : 2 ^ x ≤ r ↔ x ≤ Int.log 2 r := by
  exact_mod_cast Int.zpow_le_iff_le_log (b := 2) (by norm_num) hr

/-- A positive number is below a power of two exactly if the logarithm is below the exponent. -/
theorem lt_two_zpow_iff {r : ℚ} (hr : 0 < r) (x : Int) : r < 2 ^ x ↔ Int.log 2 r < x := by
  exact_mod_cast Int.lt_zpow_iff_log_lt (b := 2) (by norm_num) hr

/-- The exponent of a positive quotient leaves 53 bits before the point, or it is the least one. -/
theorem exponentOf_eq {num den : Nat} (hnum : 0 < num) (hden : 0 < den) :
    exponentOf num den = max (-1074) (Int.log 2 ((num : ℚ) / den) - 52) := by
  have hn : (0 : ℚ) < num := by exact_mod_cast hnum
  have hd : (0 : ℚ) < den := by exact_mod_cast hden
  have hr : (0 : ℚ) < (num : ℚ) / den := by positivity
  have hnlow : (2 : ℚ) ^ (Nat.log2 num : Int) ≤ num := by
    rw [zpow_natCast]
    exact_mod_cast Nat.log2_self_le hnum.ne'
  have hnhigh : (num : ℚ) < 2 ^ ((Nat.log2 num : Int) + 1) := by
    have : num < 2 ^ (Nat.log2 num + 1) := Nat.lt_log2_self
    exact_mod_cast this
  have hdlow : (2 : ℚ) ^ (Nat.log2 den : Int) ≤ den := by
    rw [zpow_natCast]
    exact_mod_cast Nat.log2_self_le hden.ne'
  have hdhigh : (den : ℚ) < 2 ^ ((Nat.log2 den : Int) + 1) := by
    have : den < 2 ^ (Nat.log2 den + 1) := Nat.lt_log2_self
    exact_mod_cast this
  unfold exponentOf
  dsimp only
  generalize hguess : (Nat.log2 num : Int) - (Nat.log2 den : Int) - 52 = guess
  -- The quotient has 52 or 53 bits before the point once it is scaled down by the guess.
  have hlow : (2 : ℚ) ^ (guess + 51) ≤ (num : ℚ) / den := by
    rw [le_div_iff₀ hd]
    calc (2 : ℚ) ^ (guess + 51) * den ≤ 2 ^ (guess + 51) * 2 ^ ((Nat.log2 den : Int) + 1) := by gcongr
      _ = 2 ^ (Nat.log2 num : Int) := by
        rw [← zpow_add₀ (by norm_num)]
        congr 1
        omega
      _ ≤ num := hnlow
  have hhigh : (num : ℚ) / den < 2 ^ (guess + 53) := by
    rw [div_lt_iff₀ hd]
    calc (num : ℚ) < 2 ^ ((Nat.log2 num : Int) + 1) := hnhigh
      _ = 2 ^ (guess + 53) * 2 ^ (Nat.log2 den : Int) := by
        rw [← zpow_add₀ (by norm_num)]
        congr 1
        omega
      _ ≤ 2 ^ (guess + 53) * den := by gcongr
  have hscaled : ((scaleDown 2 num den guess).1 : ℚ) / (scaleDown 2 num den guess).2 =
      (num : ℚ) / den / 2 ^ guess := by
    exact_mod_cast scaleDown_quotient (by norm_num) num den guess
  have hpos := scaleDown_pos (by norm_num : 0 < 2) num hden guess
  have hpow : (0 : ℚ) < 2 ^ guess := by positivity
  have hfew : (scaleDown 2 num den guess).1 / (scaleDown 2 num den guess).2 < leastMantissa ↔
      (num : ℚ) / den < 2 ^ (guess + 52) := by
    have hleast : ((leastMantissa : Nat) : ℚ) = 2 ^ (52 : Int) := by
      unfold leastMantissa
      norm_num
    rw [Nat.div_lt_iff_lt_mul hpos, zpow_add₀ (by norm_num), ← hleast, ← div_lt_iff₀' hpow, ← hscaled,
      div_lt_iff₀ (by exact_mod_cast hpos)]
    exact_mod_cast Iff.rfl
  have hlog : Int.log 2 ((num : ℚ) / den) - 52 =
      if (scaleDown 2 num den guess).1 / (scaleDown 2 num den guess).2 < leastMantissa then guess - 1 else guess := by
    have h51 := (two_zpow_le_iff hr _).mp hlow
    have h53 := (lt_two_zpow_iff hr _).mp hhigh
    split
    · rename_i few
      have := (lt_two_zpow_iff hr _).mp (hfew.mp few)
      omega
    · rename_i many
      have := (two_zpow_le_iff hr _).mp (not_lt.mp fun below => many (hfew.mpr below))
      omega
  rw [hlog]

/-- Scaled down by its exponent a positive quotient is less than 2 ^ 53. -/
theorem quotient_lt_of_exponentOf {num den : Nat} (hnum : 0 < num) (hden : 0 < den) :
    (num : ℚ) / den / 2 ^ exponentOf num den < 2 * leastMantissa := by
  have hr : (0 : ℚ) < (num : ℚ) / den := by positivity
  rw [exponentOf_eq hnum hden, div_lt_iff₀ (by positivity)]
  calc (num : ℚ) / den < 2 ^ (Int.log 2 ((num : ℚ) / den) + 1) := by
        exact_mod_cast Int.lt_zpow_succ_log_self (b := 2) (by norm_num) ((num : ℚ) / den)
    _ ≤ 2 ^ (53 + max (-1074) (Int.log 2 ((num : ℚ) / den) - 52)) := by
        apply zpow_le_zpow_right₀ (by norm_num)
        omega
    _ = 2 * leastMantissa * 2 ^ max (-1074) (Int.log 2 ((num : ℚ) / den) - 52) := by
        rw [zpow_add₀ (by norm_num)]
        unfold leastMantissa
        norm_num

/-- Scaled down by its exponent a positive quotient is at least 2 ^ 52, unless the exponent is the least one. -/
theorem le_quotient_of_exponentOf {num den : Nat} (hnum : 0 < num) (hden : 0 < den)
    (above : -1074 < exponentOf num den) : (leastMantissa : ℚ) ≤ (num : ℚ) / den / 2 ^ exponentOf num den := by
  have hr : (0 : ℚ) < (num : ℚ) / den := by positivity
  rw [exponentOf_eq hnum hden] at above ⊢
  have hexp : max (-1074) (Int.log 2 ((num : ℚ) / den) - 52) = Int.log 2 ((num : ℚ) / den) - 52 := by omega
  rw [hexp, le_div_iff₀ (by positivity)]
  calc (leastMantissa : ℚ) * 2 ^ (Int.log 2 ((num : ℚ) / den) - 52) = 2 ^ Int.log 2 ((num : ℚ) / den) := by
        rw [zpow_sub₀ (by norm_num)]
        unfold leastMantissa
        norm_num
        ring
    _ ≤ (num : ℚ) / den := by exact_mod_cast Int.zpow_log_le_self (b := 2) (by norm_num) hr

/-- The mantissa that a quotient is rounded to. -/
def mantissaOf (num den : Nat) : Nat :=
  let scaled := scaleDown 2 num den (exponentOf num den)
  roundQuotient scaled.1 scaled.2

/-- The mantissa is at most one half away from the quotient scaled down. -/
theorem abs_mantissaOf_sub_le (num : Nat) {den : Nat} (hden : 0 < den) :
    |(mantissaOf num den : ℚ) - (num : ℚ) / den / 2 ^ exponentOf num den| ≤ 1 / 2 := by
  have hpos := scaleDown_pos (by norm_num : 0 < 2) num hden (exponentOf num den)
  have hscaled := scaleDown_quotient (by norm_num : 0 < 2) num den (exponentOf num den)
  have hround := abs_roundQuotient_sub_le (scaleDown 2 num den (exponentOf num den)).1 hpos
  rw [hscaled] at hround
  exact_mod_cast hround

/-- The mantissa is the natural number that the quotient scaled down is less than one half away from. -/
theorem mantissaOf_eq_of_near {num den n : Nat} {exponent : Int} (hden : 0 < den)
    (hexp : exponentOf num den = exponent) (hlow : ((n : ℚ) - 1 / 2) * 2 ^ exponent < (num : ℚ) / den)
    (hhigh : (num : ℚ) / den < ((n : ℚ) + 1 / 2) * 2 ^ exponent) : mantissaOf num den = n := by
  apply roundQuotient_eq_of_near (scaleDown_pos (by norm_num) num hden _)
  · rw [scaleDown_quotient (by norm_num), hexp, lt_div_iff₀ (by positivity)]
    exact_mod_cast hlow
  · rw [scaleDown_quotient (by norm_num), hexp, div_lt_iff₀ (by positivity)]
    exact_mod_cast hhigh

/-- The double nearest to a ratio: its rounded mantissa and exponent, where rounding may reach the next power of two. -/
theorem ofRatio_eq (negative : Bool) {num den : Nat} (hnum : 0 < num) :
    ofRatio negative num den =
      if mantissaOf num den = 2 * leastMantissa then
        if 971 < exponentOf num den + 1 then .infinite negative
        else .finite negative leastMantissa (exponentOf num den + 1)
      else if 971 < exponentOf num den then .infinite negative
      else .finite negative (mantissaOf num den) (exponentOf num den) := by
  unfold ofRatio mantissaOf
  rw [if_neg hnum.ne']
  dsimp only
  split <;> rfl

/-- The double nearest to a quotient depends on nothing but the quotient. -/
theorem ofRatio_congr (negative : Bool) {num den num' den' : Nat} (hden : 0 < den) (hden' : 0 < den')
    (same : (num : ℚ) / den = (num' : ℚ) / den') : ofRatio negative num den = ofRatio negative num' den' := by
  rcases Nat.eq_zero_or_pos num with rfl | hnum
  · have : num' = 0 := by
      rw [Nat.cast_zero, zero_div, eq_comm, div_eq_zero_iff] at same
      have : (num' : ℚ) = 0 := same.resolve_right (by positivity)
      exact_mod_cast this
    rw [this]
    rfl
  · have hnum' : 0 < num' := by
      have : (0 : ℚ) < (num' : ℚ) / den' := same ▸ by positivity
      rw [div_pos_iff_of_pos_right (by positivity)] at this
      exact_mod_cast this
    have hexp : exponentOf num den = exponentOf num' den' := by
      rw [exponentOf_eq hnum hden, exponentOf_eq hnum' hden', same]
    have hmantissa : mantissaOf num den = mantissaOf num' den' := by
      apply roundQuotient_congr (scaleDown_pos (by norm_num) num hden _) (scaleDown_pos (by norm_num) num' hden' _)
      rw [scaleDown_quotient (by norm_num), scaleDown_quotient (by norm_num), same, hexp]
    rw [ofRatio_eq negative hnum, ofRatio_eq negative hnum', hexp, hmantissa]

/-- The form that every double has: 53 bits, or fewer if the exponent is the least one. -/
def WellFormed : Double → Prop
  | .finite _ mantissa exponent =>
    mantissa < 2 * leastMantissa ∧ -1074 ≤ exponent ∧ exponent ≤ 971 ∧ (leastMantissa ≤ mantissa ∨ exponent = -1074)
  | _ => True

/-- Rounding yields doubles in their form. -/
theorem wellFormed_ofRatio (negative : Bool) (num : Nat) {den : Nat} (hden : 0 < den) :
    (ofRatio negative num den).WellFormed := by
  rcases Nat.eq_zero_or_pos num with rfl | hnum
  · exact ⟨by unfold leastMantissa; norm_num, le_refl _, by norm_num, .inr rfl⟩
  have hround := abs_le.mp (abs_mantissaOf_sub_le num hden)
  have hhigh : mantissaOf num den < 2 * leastMantissa + 1 := by
    have hbelow := quotient_lt_of_exponentOf hnum hden
    have : (mantissaOf num den : ℚ) < 2 * leastMantissa + 1 := by
      linarith [hround.2]
    exact_mod_cast this
  have hlow : -1074 < exponentOf num den → leastMantissa ≤ mantissaOf num den := by
    intro above
    have habove := le_quotient_of_exponentOf hnum hden above
    have : (leastMantissa : ℚ) < mantissaOf num den + 1 := by
      linarith [hround.1]
    have : leastMantissa < mantissaOf num den + 1 := by exact_mod_cast this
    omega
  have hleast : -1074 ≤ exponentOf num den := by
    rw [exponentOf_eq hnum hden]
    exact le_max_left _ _
  rw [ofRatio_eq negative hnum]
  split
  · split
    · trivial
    · refine ⟨?_, by omega, by omega, .inl (le_refl _)⟩
      unfold leastMantissa
      norm_num
  · split
    · trivial
    · refine ⟨by omega, hleast, by omega, ?_⟩
      by_cases above : -1074 < exponentOf num den
      · exact .inl (hlow above)
      · exact .inr (by omega)

/-- A quotient is rounded to a double if it is nearer to it than half the way to the next one; below the least
mantissa the next one is only half as far away. -/
theorem ofRatio_eq_of_near {negative : Bool} {mantissa : Nat} {exponent : Int}
    (formed : (finite negative mantissa exponent).WellFormed) (hpos : 0 < mantissa) {num den : Nat} (hden : 0 < den)
    (hlow : ((mantissa : ℚ) - if mantissa = leastMantissa then 1 / 4 else 1 / 2) * 2 ^ exponent < (num : ℚ) / den)
    (hhigh : (num : ℚ) / den < ((mantissa : ℚ) + 1 / 2) * 2 ^ exponent) :
    ofRatio negative num den = .finite negative mantissa exponent := by
  obtain ⟨hsmall, hleast, hgreatest, hbits⟩ := formed
  have hpow : (0 : ℚ) < 2 ^ exponent := by positivity
  have hone : (1 : ℚ) ≤ mantissa := by exact_mod_cast hpos
  have hlow' : ((mantissa : ℚ) - 1 / 2) * 2 ^ exponent < (num : ℚ) / den := by
    refine lt_of_le_of_lt ?_ hlow
    apply mul_le_mul_of_nonneg_right _ hpow.le
    split <;> linarith
  have hr : (0 : ℚ) < (num : ℚ) / den := by
    refine lt_trans ?_ hlow'
    apply mul_pos _ hpow
    linarith
  have hnum : 0 < num := by
    rw [div_pos_iff_of_pos_right (by positivity)] at hr
    exact_mod_cast hr
  have hpower (k : Nat) : (2 : ℚ) ^ ((k : Int) + exponent) = 2 ^ k * 2 ^ exponent := by
    rw [zpow_add₀ (by norm_num), zpow_natCast]
  have hleastMantissa : (leastMantissa : ℚ) = 2 ^ 52 := by
    unfold leastMantissa
    norm_num
  have hbelow : Int.log 2 ((num : ℚ) / den) < (53 : Nat) + exponent := by
    rw [← lt_two_zpow_iff hr, hpower]
    refine lt_of_lt_of_le hhigh ?_
    apply mul_le_mul_of_nonneg_right _ hpow.le
    have : (mantissa : ℚ) + 1 ≤ 2 * leastMantissa := by exact_mod_cast hsmall
    rw [hleastMantissa] at this
    linarith
  rw [ofRatio_eq negative hnum]
  by_cases haway : (2 : ℚ) ^ ((52 : Nat) + exponent) ≤ (num : ℚ) / den ∨ exponent = -1074
  · have hexp : exponentOf num den = exponent := by
      rw [exponentOf_eq hnum hden]
      rcases haway with above | least
      · have := (two_zpow_le_iff hr _).mp above
        omega
      · omega
    rw [mantissaOf_eq_of_near hden hexp hlow' hhigh, hexp, if_neg (by omega), if_neg (by omega)]
  · -- The quotient is just below the least mantissa, so it is rounded up to twice as much of half the size.
    rw [not_or, not_le, hpower, ← hleastMantissa] at haway
    have hmantissa : mantissa = leastMantissa := by
      have : ((mantissa : ℚ) - 1 / 2) < leastMantissa := lt_of_mul_lt_mul_right (hlow'.trans haway.1) hpow.le
      have : (mantissa : ℚ) < leastMantissa + 1 := by linarith
      have : mantissa < leastMantissa + 1 := by exact_mod_cast this
      rcases hbits with more | least
      · omega
      · exact absurd least haway.2
    rw [if_pos hmantissa] at hlow
    have hhalf : (2 : ℚ) ^ exponent = 2 * 2 ^ (exponent - 1) := by
      rw [zpow_sub_one₀ (by norm_num)]
      ring
    have hexp : exponentOf num den = exponent - 1 := by
      have hlog : (51 : Nat) + exponent ≤ Int.log 2 ((num : ℚ) / den) := by
        rw [← two_zpow_le_iff hr, hpower]
        refine le_trans ?_ hlow.le
        apply mul_le_mul_of_nonneg_right _ hpow.le
        rw [hmantissa, hleastMantissa]
        norm_num
      have hlog' : Int.log 2 ((num : ℚ) / den) < (52 : Nat) + exponent := by
        rw [← lt_two_zpow_iff hr, hpower, ← hleastMantissa]
        exact haway.1
      rw [exponentOf_eq hnum hden]
      omega
    have htwice : mantissaOf num den = 2 * leastMantissa := by
      rw [hmantissa, hhalf] at hlow
      rw [hhalf] at haway
      apply mantissaOf_eq_of_near hden hexp
      · push_cast
        linarith
      · push_cast
        have : (0 : ℚ) < 2 ^ (exponent - 1) := by positivity
        linarith [haway.1]
    rw [if_pos htwice, hexp, sub_add_cancel, if_neg (by omega), hmantissa]

/-! ## Decimals -/

/-- The sign is put to whatever the quotient is rounded to. -/
theorem ofRatio_finite {num den mantissa : Nat} {exponent : Int}
    (rounded : ofRatio false num den = .finite false mantissa exponent) (negative : Bool) :
    ofRatio negative num den = .finite negative mantissa exponent := by
  rcases Nat.eq_zero_or_pos num with rfl | hnum
  · cases rounded
    rfl
  · rw [ofRatio_eq _ hnum] at rounded ⊢
    split_ifs at rounded ⊢ <;> cases rounded <;> rfl

/-- The sign is no matter to the rounding of a decimal. -/
theorem ofDecimal_finite {digits mantissa : Nat} {exponent exponent' : Int}
    (rounded : ofDecimal false digits exponent = .finite false mantissa exponent') (negative : Bool) :
    ofDecimal negative digits exponent = .finite negative mantissa exponent' := by
  unfold ofDecimal at rounded ⊢
  dsimp only at rounded ⊢
  split_ifs at rounded ⊢
  · cases rounded
    rfl
  · exact ofRatio_finite rounded negative

/-- Decimal digits tell the size of a positive number. -/
theorem length_toDigits_bounds {n : Nat} (hn : 0 < n) :
    10 ^ ((Nat.toDigits 10 n).length - 1) ≤ n ∧ n < 10 ^ (Nat.toDigits 10 n).length := by
  have hlength : 0 < (Nat.toDigits 10 n).length := Nat.length_toDigits_pos
  constructor
  · by_contra hless
    rw [not_le] at hless
    rcases Nat.eq_zero_or_pos ((Nat.toDigits 10 n).length - 1) with hzero | hmore
    · rw [hzero] at hless
      omega
    · have := (Nat.length_toDigits_le_iff (by norm_num) hmore).mpr hless
      omega
  · exact (Nat.length_toDigits_le_iff (by norm_num) hlength).mp (le_refl _)

/-- Digits with a zero behind them are the same decimal one power of ten higher. -/
theorem ofDecimal_mul_ten (negative : Bool) (digits : Nat) (exponent : Int) :
    ofDecimal negative (digits * 10) exponent = ofDecimal negative digits (exponent + 1) := by
  rcases Nat.eq_zero_or_pos digits with rfl | hpos
  · simp [ofDecimal]
  have hlength : (Nat.toDigits 10 (digits * 10)).length = (Nat.toDigits 10 digits).length + 1 := by
    rw [Nat.toDigits_of_base_le (by norm_num) (by omega), List.length_append, Nat.mul_div_cancel _ (by norm_num)]
    rfl
  have hmagnitude : ((Nat.toDigits 10 (digits * 10)).length : Int) + exponent =
      (Nat.toDigits 10 digits).length + (exponent + 1) := by
    rw [hlength]
    push_cast
    ring
  have hzero : digits * 10 = 0 ↔ digits = 0 := by omega
  have hratio : ofRatio negative (scaleDown 10 (digits * 10) 1 (-exponent)).1
      (scaleDown 10 (digits * 10) 1 (-exponent)).2 =
      ofRatio negative (scaleDown 10 digits 1 (-(exponent + 1))).1 (scaleDown 10 digits 1 (-(exponent + 1))).2 := by
    apply ofRatio_congr negative (scaleDown_pos (by norm_num) _ one_pos _) (scaleDown_pos (by norm_num) _ one_pos _)
    rw [scaleDown_quotient (by norm_num), scaleDown_quotient (by norm_num)]
    have : ((10 : Nat) : ℚ) ^ (-exponent) = 10 * ((10 : Nat) : ℚ) ^ (-(exponent + 1)) := by
      push_cast
      rw [neg_add, zpow_add₀ (by norm_num), zpow_neg_one]
      ring
    rw [this]
    have hpow : ((10 : Nat) : ℚ) ^ (-(exponent + 1)) ≠ 0 := by positivity
    push_cast
    field_simp
  unfold ofDecimal
  dsimp only
  rw [hmagnitude, hratio]
  simp only [hzero]

/-- Zeros behind the digits of a decimal count for its exponent. -/
theorem ofDecimal_mul_pow (negative : Bool) (digits k : Nat) (exponent : Int) :
    ofDecimal negative (digits * 10 ^ k) exponent = ofDecimal negative digits (exponent + k) := by
  induction k generalizing exponent with
  | zero => simp
  | succ k ih =>
    rw [pow_succ, ← Nat.mul_assoc, ofDecimal_mul_ten, ih]
    congr 1
    push_cast
    ring

/-- The quotient that decimal digits with a power of ten stand for. -/
theorem scaleDown_decimal (digits : Nat) (exponent : Int) :
    ((scaleDown 10 digits 1 (-exponent)).1 : ℚ) / (scaleDown 10 digits 1 (-exponent)).2 = digits * 10 ^ exponent := by
  rw [scaleDown_quotient (by norm_num)]
  push_cast
  rw [div_one, zpow_neg, div_inv_eq_mul]

/-- Decimals of more than half a unit of a double are not so small that they are zero without calculation. -/
theorem neg_le_magnitude {digits : Nat} {exponent exponent' : Int} (hdigits : 0 < digits) (hexp : -1074 ≤ exponent)
    (hhalf : (1 / 2 : ℚ) * 2 ^ exponent < digits * 10 ^ exponent') :
    -330 ≤ ((Nat.toDigits 10 digits).length : Int) + exponent' := by
  have hpow : (0 : ℚ) < 10 ^ exponent' := by positivity
  by_contra hless
  have hupper : (digits : ℚ) * 10 ^ exponent' < 10 ^ (-330 : Int) := by
    calc (digits : ℚ) * 10 ^ exponent' < 10 ^ ((Nat.toDigits 10 digits).length : Int) * 10 ^ exponent' := by
          apply mul_lt_mul_of_pos_right _ hpow
          rw [zpow_natCast]
          exact_mod_cast (length_toDigits_bounds hdigits).2
      _ = 10 ^ (((Nat.toDigits 10 digits).length : Int) + exponent') := (zpow_add₀ (by norm_num) _ _).symm
      _ ≤ 10 ^ (-330 : Int) := zpow_le_zpow_right₀ (by norm_num) (by omega)
  have hlower : (1 / 2 : ℚ) * 2 ^ (-1074 : Int) ≤ 1 / 2 * 2 ^ exponent := by
    gcongr
    norm_num
  have htiny : (10 : ℚ) ^ (-330 : Int) < 2 ^ (-1075 : Int) := by
    have : 2 ^ 1075 < 10 ^ 330 := by decide +kernel
    rw [zpow_neg, zpow_neg]
    apply inv_strictAnti₀ (by positivity)
    exact_mod_cast this
  have hhalved : (1 / 2 : ℚ) * 2 ^ (-1074 : Int) = 2 ^ (-1075 : Int) := by
    rw [show (-1075 : Int) = -1074 - 1 from rfl, zpow_sub_one₀ (by norm_num)]
    ring
  linarith

/-- Decimals that round to a double are not so large that they are infinite without calculation. -/
theorem magnitude_le {mantissa digits : Nat} {exponent exponent' : Int}
    (formed : (finite false mantissa exponent).WellFormed) (hdigits : 0 < digits)
    (hhigh : (digits : ℚ) * 10 ^ exponent' < ((mantissa : ℚ) + 1 / 2) * 2 ^ exponent) :
    ((Nat.toDigits 10 digits).length : Int) + exponent' ≤ 400 := by
  have hpow : (0 : ℚ) < 10 ^ exponent' := by positivity
  have hcount : 0 < (Nat.toDigits 10 digits).length := Nat.length_toDigits_pos
  by_contra hmore
  have hlower : (10 : ℚ) ^ (400 : Int) ≤ digits * 10 ^ exponent' := by
    calc (10 : ℚ) ^ (400 : Int) ≤ 10 ^ ((((Nat.toDigits 10 digits).length - 1 : Nat) : Int) + exponent') :=
          zpow_le_zpow_right₀ (by norm_num) (by omega)
      _ = 10 ^ (((Nat.toDigits 10 digits).length - 1 : Nat) : Int) * 10 ^ exponent' := zpow_add₀ (by norm_num) _ _
      _ ≤ digits * 10 ^ exponent' := by
          apply mul_le_mul_of_nonneg_right _ hpow.le
          rw [zpow_natCast]
          exact_mod_cast (length_toDigits_bounds hdigits).1
  have hupper : ((mantissa : ℚ) + 1 / 2) * 2 ^ exponent ≤ 2 * leastMantissa * 2 ^ (971 : Int) := by
    have : (mantissa : ℚ) + 1 ≤ 2 * leastMantissa := by exact_mod_cast formed.1
    have := formed.2.2.1
    gcongr
    · linarith
    · norm_num
  have : (2 : ℚ) * leastMantissa * 2 ^ (971 : Int) < 10 ^ (400 : Int) := by
    have : 2 * leastMantissa * 2 ^ 971 < 10 ^ 400 := by decide +kernel
    exact_mod_cast this
  linarith

/-- Decimal digits read as a double if their number is nearer to it than half the way to the next one. -/
theorem ofDecimal_eq_of_near {mantissa digits : Nat} {exponent exponent' : Int}
    (formed : (finite false mantissa exponent).WellFormed) (hpos : 0 < mantissa)
    (hlow : ((mantissa : ℚ) - if mantissa = leastMantissa then 1 / 4 else 1 / 2) * 2 ^ exponent <
      digits * 10 ^ exponent')
    (hhigh : (digits : ℚ) * 10 ^ exponent' < ((mantissa : ℚ) + 1 / 2) * 2 ^ exponent) :
    ofDecimal false digits exponent' = .finite false mantissa exponent := by
  have hpow : (0 : ℚ) < 2 ^ exponent := by positivity
  have hpow' : (0 : ℚ) < 10 ^ exponent' := by positivity
  have hone : (1 : ℚ) ≤ mantissa := by exact_mod_cast hpos
  have hhalf : (1 / 2 : ℚ) * 2 ^ exponent < digits * 10 ^ exponent' := by
    refine lt_of_le_of_lt ?_ hlow
    apply mul_le_mul_of_nonneg_right _ hpow.le
    split <;> linarith
  have hdigits : 0 < digits := by
    have : (0 : ℚ) < digits * 10 ^ exponent' := lt_trans (by positivity) hhalf
    have : (0 : ℚ) < digits := pos_of_mul_pos_left this hpow'.le
    exact_mod_cast this
  -- The digits stand for a number of the size of a double, so none of the short cuts is taken.
  have hsmall := neg_le_magnitude hdigits formed.2.1 hhalf
  have hgreat := magnitude_le formed hdigits hhigh
  unfold ofDecimal
  dsimp only
  rw [if_neg (by omega), if_neg (by omega)]
  apply ofRatio_eq_of_near formed hpos (scaleDown_pos (by norm_num) _ one_pos _)
  · rw [scaleDown_decimal]
    exact hlow
  · rw [scaleDown_decimal]
    exact hhigh

end Double

end DynamicBlocks
