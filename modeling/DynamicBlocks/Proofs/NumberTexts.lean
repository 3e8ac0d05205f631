import DynamicBlocks.Json.Reader
import DynamicBlocks.Json.Writer
import DynamicBlocks.Proofs.ShortestDigits

/-!
# Texts of numbers

A number is written as a numeral: digits, perhaps with a point among or behind them, perhaps with an exponent. Numerals
are read as they are written, whatever follows that is no part of a numeral (`takeNumber?_chars`). The text of a whole
number is a numeral of that number, and the text of a finite double one of that double (`Double.exists_numeral`), so
numbers of different texts are different and the other way round.
-/

set_option autoImplicit false

namespace DynamicBlocks

open Double Text

/-! ## Digits -/

/-- The digits of a number have its value. -/
theorem digitsValue_toDigits (n : Nat) : digitsValue (Nat.toDigits 10 n) = n := by
  have hvalue : ∀ d, d < 10 → digitValue? (Nat.digitChar d) = some d := by decide
  induction n using Nat.strongRecOn with
  | ind n ih =>
    by_cases hless : n < 10
    · rw [Nat.toDigits_of_lt_base hless]
      simp [digitsValue, hvalue n hless]
    · rw [Nat.toDigits_of_base_le (by norm_num) (not_lt.mp hless), digitsValue_append, ih (n / 10) (by omega),
        hvalue (n % 10) (by omega), Option.getD_some]
      omega

/-- Zeros behind digits multiply their value by powers of ten. -/
theorem digitsValue_append_zeros (cs : List Char) (k : Nat) :
    digitsValue (cs ++ List.replicate k '0') = digitsValue cs * 10 ^ k := by
  have hzero : digitValue? '0' = some 0 := by decide
  induction k with
  | zero => simp
  | succ k ih =>
    rw [List.replicate_succ', ← List.append_assoc, digitsValue_append, ih, hzero, Option.getD_some, pow_succ]
    ring

/-- Zeros in front of digits leave their value as it is. -/
theorem digitsValue_zeros_append (k : Nat) (cs : List Char) :
    digitsValue (List.replicate k '0' ++ cs) = digitsValue cs := by
  have hzero : digitValue? '0' = some 0 := by decide
  induction k with
  | zero => rfl
  | succ k ih =>
    rw [← ih]
    simp [digitsValue, List.replicate_succ, hzero]

/-- The digits of a positive number start with no zero. -/
theorem toDigits_eq_cons {n : Nat} (hn : 0 < n) : ∃ c cs, Nat.toDigits 10 n = c :: cs ∧ c ≠ '0' := by
  have hdigit : ∀ d, d < 10 → 0 < d → Nat.digitChar d ≠ '0' := by decide
  induction n using Nat.strongRecOn with
  | ind n ih =>
    by_cases hless : n < 10
    · exact ⟨_, [], Nat.toDigits_of_lt_base hless, hdigit n hless hn⟩
    · obtain ⟨c, cs, hcs, hc⟩ := ih (n / 10) (by omega) (by omega)
      refine ⟨c, cs ++ [Nat.digitChar (n % 10)], ?_, hc⟩
      rw [Nat.toDigits_of_base_le (by norm_num) (not_lt.mp hless), hcs]
      rfl

/-- Zeros are digits. -/
theorem isDigit_of_mem_zeros {k : Nat} {c : Char} (hc : c ∈ List.replicate k '0') : c.isDigit = true := by
  rw [List.eq_of_mem_replicate hc]
  decide

/-! ## Numerals -/

namespace Numeral

/-- The text of a numeral. -/
def chars (n : Numeral) : List Char :=
  (if n.negative then ['-'] else []) ++ n.whole ++
    (n.fraction.elim [] fun digits => '.' :: digits) ++ n.exponent.elim [] exponentChars

/-- A numeral as JSON has it: a lone zero or no zero in front, and digits behind a point. -/
structure Plain (n : Numeral) : Prop where
  whole : n.whole = ['0'] ∨ ∃ c cs, n.whole = c :: cs ∧ c ≠ '0'
  digits : ∀ c ∈ n.whole, c.isDigit = true
  fraction : ∀ cs, n.fraction = some cs → cs ≠ [] ∧ ∀ c ∈ cs, c.isDigit = true

end Numeral

namespace Json

/-- Whether nothing of a numeral goes on in a text. -/
def EndsNumber (rest : List Char) : Prop :=
  ∀ c, rest.head? = some c → c.isDigit = false ∧ c ≠ '.' ∧ c ≠ 'e' ∧ c ≠ 'E'

/-- Digits in front of what is no digit are taken together. -/
theorem takeWhile_digits {cs rest : List Char} (digits : ∀ c ∈ cs, c.isDigit = true)
    (ends : ∀ c, rest.head? = some c → c.isDigit = false) :
    (cs ++ rest).takeWhile Char.isDigit = cs ∧ (cs ++ rest).dropWhile Char.isDigit = rest :=
  Text.takeWhile_of_stop digits ends

/-- A whole number is read up to where its digits end. -/
theorem takeWhole?_append {cs rest : List Char} (whole : cs = ['0'] ∨ ∃ c ds, cs = c :: ds ∧ c ≠ '0')
    (digits : ∀ c ∈ cs, c.isDigit = true) (ends : ∀ c, rest.head? = some c → c.isDigit = false) :
    takeWhole? (cs ++ rest) = some (cs, rest) := by
  obtain ⟨htake, hdrop⟩ := takeWhile_digits digits ends
  rcases whole with rfl | ⟨c, ds, rfl, nonzero⟩
  · rfl
  · unfold takeWhole?
    split
    · rename_i same
      exact absurd (List.cons.inj same).1 nonzero
    · dsimp only
      rw [htake, hdrop]
      rfl

/-- A point with digits behind it is read as a fraction, up to where these end. -/
theorem takeFraction_point {cs rest : List Char} (some_digit : cs ≠ []) (digits : ∀ c ∈ cs, c.isDigit = true)
    (ends : ∀ c, rest.head? = some c → c.isDigit = false) : takeFraction ('.' :: cs ++ rest) = (some cs, rest) := by
  obtain ⟨htake, hdrop⟩ := takeWhile_digits digits ends
  simp only [List.cons_append, takeFraction, htake, hdrop, List.isEmpty_eq_false_iff.mpr some_digit, Bool.false_eq_true,
    if_false]

/-- Where no point is there is no fraction. -/
theorem takeFraction_none {rest : List Char} (ends : ∀ c, rest.head? = some c → c ≠ '.') :
    takeFraction rest = (none, rest) := by
  unfold takeFraction
  split
  · exact absurd rfl (ends _ rfl)
  · rfl

/-- An exponent is read as it is written. -/
theorem takePower_exponentChars (exponent : Int) {rest : List Char}
    (ends : ∀ c, rest.head? = some c → c.isDigit = false) :
    takePower (exponentChars exponent ++ rest) = (some exponent, rest) := by
  have hdigits : ∀ c ∈ zeros (2 - (Nat.toDigits 10 exponent.natAbs).length) ++ Nat.toDigits 10 exponent.natAbs,
      c.isDigit = true := by
    intro c hc
    rcases List.mem_append.mp hc with hzero | hdigit
    · exact isDigit_of_mem_zeros hzero
    · exact Nat.isDigit_of_mem_toDigits (by norm_num) (by norm_num) hdigit
  have hvalue : digitsValue (zeros (2 - (Nat.toDigits 10 exponent.natAbs).length) ++ Nat.toDigits 10 exponent.natAbs) =
      exponent.natAbs := by
    rw [zeros, digitsValue_zeros_append, digitsValue_toDigits]
  have hsome : zeros (2 - (Nat.toDigits 10 exponent.natAbs).length) ++ Nat.toDigits 10 exponent.natAbs ≠ [] := by
    simp
  simp only [exponentChars, List.cons_append]
  generalize zeros (2 - (Nat.toDigits 10 exponent.natAbs).length) ++ Nat.toDigits 10 exponent.natAbs = digits
    at hdigits hvalue hsome
  obtain ⟨htake, hdrop⟩ := takeWhile_digits hdigits ends
  have hread (sign : Char) (negative : Bool)
      (hsign : takeSign (sign :: (digits ++ rest)) = (negative, digits ++ rest)) :
      takePower ('e' :: sign :: (digits ++ rest)) =
        (some (if negative then -(exponent.natAbs : Int) else exponent.natAbs), rest) := by
    unfold takePower
    dsimp only
    rw [if_pos (.inl rfl), hsign]
    dsimp only
    rw [htake, hdrop, hvalue, if_neg (by simpa using hsome)]
  by_cases negative : exponent < 0
  · rw [if_pos negative]
    refine (hread '-' true rfl).trans ?_
    rw [if_pos rfl, ← Int.eq_neg_natAbs_of_nonpos negative.le]
  · rw [if_neg negative]
    refine (hread '+' false rfl).trans ?_
    rw [if_neg (by decide), Int.natAbs_of_nonneg (not_lt.mp negative)]

/-- Where no letter of an exponent is there is none. -/
theorem takePower_none {rest : List Char} (ends : ∀ c, rest.head? = some c → c ≠ 'e' ∧ c ≠ 'E') :
    takePower rest = (none, rest) := by
  unfold takePower
  split
  · rfl
  · rename_i mark rest
    obtain ⟨lower, upper⟩ := ends mark rfl
    rw [if_neg (by simp [lower, upper])]

/-- A numeral is read as it is written, up to where it ends. -/
theorem takeNumber?_chars {n : Numeral} (plain : n.Plain) {rest : List Char} (ends : EndsNumber rest) :
    takeNumber? (n.chars ++ rest) =
      some (if n.fraction.isSome || n.exponent.isSome then .double n.toDouble else .int n.toInt, rest) := by
  obtain ⟨negative, whole, fraction, exponent⟩ := n
  obtain ⟨hwhole, hdigits, hfraction⟩ := plain
  dsimp only at hwhole hdigits hfraction
  -- The three parts are read one after the other, from the last to the first.
  have hpower : takePower (exponent.elim [] exponentChars ++ rest) = (exponent, rest) := by
    cases exponent with
    | none => exact takePower_none fun c hc => ⟨(ends c hc).2.2.1, (ends c hc).2.2.2⟩
    | some e => exact takePower_exponentChars e fun c hc => (ends c hc).1
  have hpoint : ∀ c, (exponent.elim [] exponentChars ++ rest).head? = some c → c.isDigit = false ∧ c ≠ '.' := by
    cases exponent with
    | none => exact fun c hc => ⟨(ends c hc).1, (ends c hc).2.1⟩
    | some e =>
      intro c hc
      obtain rfl : 'e' = c := Option.some.inj hc
      decide
  have hfrac : takeFraction (fraction.elim [] (fun digits => '.' :: digits) ++
      (exponent.elim [] exponentChars ++ rest)) = (fraction, exponent.elim [] exponentChars ++ rest) := by
    cases fraction with
    | none => exact takeFraction_none fun c hc => (hpoint c hc).2
    | some digits =>
      obtain ⟨some_digit, all⟩ := hfraction digits rfl
      exact takeFraction_point some_digit all fun c hc => (hpoint c hc).1
  have hdot : ∀ c, (fraction.elim [] (fun digits => '.' :: digits) ++
      (exponent.elim [] exponentChars ++ rest)).head? = some c → c.isDigit = false := by
    cases fraction with
    | none => exact fun c hc => (hpoint c hc).1
    | some digits =>
      intro c hc
      obtain rfl : '.' = c := Option.some.inj hc
      decide
  have htake := takeWhole?_append hwhole hdigits hdot
  simp only [Numeral.chars, List.append_assoc]
  generalize whole ++ (fraction.elim [] (fun digits => '.' :: digits) ++
    (exponent.elim [] exponentChars ++ rest)) = tail at htake
  cases negative with
  | true =>
    simp only [takeNumber?, if_true, List.cons_append, List.nil_append, htake, hfrac, hpower, Option.bind_eq_bind,
      Option.bind_some]
    split <;> rfl
  | false =>
    simp only [takeNumber?, Bool.false_eq_true, if_false, List.nil_append]
    split
    · -- A minus sign is no digit.
      cases htake
    · simp only [htake, hfrac, hpower, Option.bind_eq_bind, Option.bind_some]
      split <;> rfl

end Json

/-! ## Texts of numbers -/

namespace Numeral

/-- The numeral of a whole number. -/
def ofInt (n : Int) : Numeral :=
  ⟨decide (n < 0), Nat.toDigits 10 n.natAbs, none, none⟩

/-- A whole number has a plain decimal form. -/
theorem plain_ofInt (n : Int) : (ofInt n).Plain := by
  refine ⟨?_, fun c hc => Nat.isDigit_of_mem_toDigits (by norm_num) (by norm_num) hc, nofun⟩
  rcases Nat.eq_zero_or_pos n.natAbs with hzero | hpos
  · left
    show Nat.toDigits 10 n.natAbs = ['0']
    rw [hzero]
    rfl
  · exact .inr (toDigits_eq_cons hpos)

/-- It is written as the integer. -/
theorem chars_ofInt (n : Int) : (ofInt n).chars = (intText n).toList := by
  simp [chars, ofInt, intText]

/-- It is the integer. -/
theorem toInt_ofInt (n : Int) : (ofInt n).toInt = n := by
  unfold toInt ofInt
  dsimp only
  rw [digitsValue_toDigits]
  split
  · rename_i negative
    have : n < 0 := of_decide_eq_true negative
    omega
  · rename_i positive
    have : ¬ n < 0 := fun negative => positive (decide_eq_true negative)
    omega

end Numeral

/-- No zeros are written for a count that is not positive. -/
theorem zeros_of_nonpos {count : Int} (h : count ≤ 0) : zeros count = [] := by
  rw [zeros, Int.toNat_of_nonpos h, List.replicate_zero]

/-- Where the point stands in front of the digits, zeros stand between. -/
theorem positional_of_nonpos {chars : List Char} (some_digit : chars ≠ []) {point : Int} (h : point ≤ 0) :
    positional chars point 1 false = ['0'] ++ '.' :: (zeros (-point) ++ chars) := by
  have hlength := List.length_pos_iff.mpr some_digit
  have hlong : (1 : Int) - ((zeros (-point) ++ chars).length : Int) ≤ 0 := by
    rw [List.length_append]
    omega
  unfold positional
  simp only [h, if_true]
  rw [zeros_of_nonpos hlong, List.append_nil, if_neg (by simp [some_digit])]

/-- Where the point stands among the digits, it parts them. -/
theorem positional_of_lt {chars : List Char} {point : Nat} (some_whole : 0 < point) (h : point < chars.length)
    {places : Int} (few : places ≤ 1) :
    positional chars point places false = chars.take point ++ '.' :: chars.drop point := by
  have hlength : (chars.drop point).length = chars.length - point := List.length_drop
  have hdrop : chars.drop point ≠ [] := by
    intro none
    rw [none] at hlength
    simp only [List.length_nil] at hlength
    omega
  unfold positional
  simp only [show ¬ (point : Int) ≤ 0 by omega, if_false, Int.toNat_natCast]
  rw [zeros_of_nonpos (show (point : Int) - chars.length ≤ 0 by omega),
    zeros_of_nonpos (show places - ((chars.drop point).length : Int) ≤ 0 by omega), List.append_nil, List.append_nil,
    if_neg (by simpa using h)]

/-- Where the point stands behind the digits, zeros stand between, and one more behind the point. -/
theorem positional_of_ge {chars : List Char} {point : Nat} (some_whole : 0 < point) (h : chars.length ≤ point) :
    positional chars point 1 false = (chars ++ List.replicate (point - chars.length) '0') ++ '.' :: ['0'] := by
  unfold positional
  simp only [show ¬ (point : Int) ≤ 0 by omega, if_false, Int.toNat_natCast, List.take_of_length_le h,
    List.drop_of_length_le h]
  have hzeros : zeros ((point : Int) - chars.length) = List.replicate (point - chars.length) '0' := by
    rw [zeros]
    congr 1
    omega
  rw [hzeros]
  rfl

/-- Digits laid out around the point are a numeral of the same number. -/
theorem exists_of_positional {value : Nat} (hpos : 0 < value) (point : Int) :
    ∃ (whole fraction : List Char) (k : Nat),
      positional (Nat.toDigits 10 value) point 1 false = whole ++ '.' :: fraction ∧
      (∀ negative exponent, Numeral.Plain ⟨negative, whole, some fraction, exponent⟩) ∧
      digitsValue (whole ++ fraction) = value * 10 ^ k ∧
      point - (Nat.toDigits 10 value).length = -(fraction.length : Int) + k := by
  obtain ⟨c, cs, hchars, hnonzero⟩ := toDigits_eq_cons hpos
  have hdigits : ∀ d ∈ Nat.toDigits 10 value, d.isDigit = true :=
    fun d hd => Nat.isDigit_of_mem_toDigits (by norm_num) (by norm_num) hd
  have hvalue := digitsValue_toDigits value
  generalize Nat.toDigits 10 value = chars at hchars hdigits hvalue
  have hsome : chars ≠ [] := by simp [hchars]
  rcases le_or_gt point 0 with hnonpos | hpoint
  · refine ⟨['0'], zeros (-point) ++ chars, 0, positional_of_nonpos hsome hnonpos, fun negative exponent => ?_, ?_, ?_⟩
    · refine ⟨.inl rfl, by simp, fun ds hds => ?_⟩
      obtain rfl := Option.some.inj hds
      refine ⟨by simp [hsome], fun d hd => ?_⟩
      rcases List.mem_append.mp hd with hzero | hdigit
      · exact isDigit_of_mem_zeros hzero
      · exact hdigits d hdigit
    · have hzeros : ['0'] ++ (zeros (-point) ++ chars) = List.replicate (1 + (-point).toNat) '0' ++ chars := by
        rw [List.replicate_add, ← List.append_assoc]
        rfl
      rw [hzeros, digitsValue_zeros_append, hvalue, pow_zero, Nat.mul_one]
    · rw [List.length_append, zeros, List.length_replicate]
      omega
  · obtain ⟨p, rfl⟩ : ∃ p : Nat, point = p := ⟨point.toNat, by omega⟩
    have hp : 0 < p := by omega
    rcases lt_or_ge p chars.length with hless | hmore
    · refine ⟨chars.take p, chars.drop p, 0, positional_of_lt hp hless (le_refl _), fun negative exponent => ?_, ?_, ?_⟩
      · refine ⟨.inr ⟨c, cs.take (p - 1), ?_, hnonzero⟩, fun d hd => hdigits d (List.mem_of_mem_take hd),
          fun ds hds => ?_⟩
        · rw [hchars, List.take_cons hp]
        · obtain rfl := Option.some.inj hds
          refine ⟨?_, fun d hd => hdigits d (List.mem_of_mem_drop hd)⟩
          simpa using hless
      · rw [List.take_append_drop, hvalue, pow_zero, Nat.mul_one]
      · rw [List.length_drop]
        omega
    · refine ⟨chars ++ List.replicate (p - chars.length) '0', ['0'], p - chars.length + 1, positional_of_ge hp hmore,
        fun negative exponent => ?_, ?_, ?_⟩
      · refine ⟨.inr ⟨c, cs ++ List.replicate (p - chars.length) '0', by simp [hchars], hnonzero⟩, fun d hd => ?_,
          fun ds hds => ?_⟩
        · rcases List.mem_append.mp hd with hdigit | hzero
          · exact hdigits d hdigit
          · exact isDigit_of_mem_zeros hzero
        · obtain rfl := Option.some.inj hds
          simp
      · have hzeros : chars ++ List.replicate (p - chars.length) '0' ++ ['0'] =
            chars ++ List.replicate (p - chars.length + 1) '0' := by
          rw [List.replicate_succ', List.append_assoc]
        rw [hzeros, digitsValue_append_zeros, hvalue]
      · simp only [List.length_singleton]
        push_cast
        omega

/-- Digits laid out with one before the point are a numeral of the same number. -/
theorem exists_of_scientific {value : Nat} (hpos : 0 < value) (point : Int) :
    ∃ (whole : List Char) (fraction : Option (List Char)),
      scientific (Nat.toDigits 10 value) point 0 false =
        whole ++ fraction.elim [] (fun digits => '.' :: digits) ++ exponentChars (point - 1) ∧
      (∀ negative exponent, Numeral.Plain ⟨negative, whole, fraction, exponent⟩) ∧
      digitsValue (whole ++ fraction.getD []) = value ∧
      point - (Nat.toDigits 10 value).length = point - 1 - ((fraction.getD []).length : Int) := by
  obtain ⟨c, cs, hchars, hnonzero⟩ := toDigits_eq_cons hpos
  have hdigits : ∀ d ∈ Nat.toDigits 10 value, d.isDigit = true :=
    fun d hd => Nat.isDigit_of_mem_toDigits (by norm_num) (by norm_num) hd
  have hvalue := digitsValue_toDigits value
  generalize Nat.toDigits 10 value = chars at hchars hdigits hvalue
  subst hchars
  have hfirst : ∀ d ∈ [c], d.isDigit = true := fun d hd => hdigits d (by simp_all)
  cases cs with
  | nil =>
    refine ⟨[c], none, ?_, fun negative exponent => ⟨.inr ⟨c, [], rfl, hnonzero⟩, hfirst, nofun⟩, hvalue, by simp⟩
    simp [scientific, positional, zeros]
  | cons d ds =>
    refine ⟨[c], some (d :: ds), ?_, fun negative exponent => ⟨.inr ⟨c, [], rfl, hnonzero⟩, hfirst, fun es hes => ?_⟩,
      hvalue, ?_⟩
    · have hparted : positional (c :: d :: ds) (1 : Nat) 0 false = [c] ++ '.' :: d :: ds :=
        positional_of_lt one_pos (by simp) (by norm_num)
      rw [Nat.cast_one] at hparted
      unfold scientific
      rw [hparted]
      rfl
    · obtain rfl := Option.some.inj hes
      exact ⟨List.cons_ne_nil d ds, fun e he => hdigits e (List.mem_cons_of_mem c he)⟩
    · simp only [Option.getD_some, List.length_cons]
      push_cast
      omega

/-- The text of a finite double is a numeral that is read as the double. -/
theorem Double.exists_numeral {x : Double} (formed : x.WellFormed) (finite : x.isFinite = true) :
    ∃ n : Numeral, n.Plain ∧ n.chars = x.text.toList ∧ n.toDouble = x ∧
      (n.fraction.isSome || n.exponent.isSome) = true := by
  obtain ⟨negative, mantissa, exponent, rfl⟩ :
      ∃ negative mantissa exponent, x = .finite negative mantissa exponent := by
    cases x with
    | finite negative mantissa exponent => exact ⟨negative, mantissa, exponent, rfl⟩
    | _ => cases finite
  have htext : (Double.finite negative mantissa exponent).text.toList =
      (if negative then ['-'] else []) ++ magnitudeChars (.finite negative mantissa exponent) :=
    String.toList_ofList
  rw [htext]
  unfold magnitudeChars
  rcases Nat.eq_zero_or_pos mantissa with rfl | hpos
  · -- Zero has the least exponent.
    have hexponent : exponent = -1074 := formed.2.2.2.resolve_left (by decide)
    subst hexponent
    have hplain : Numeral.Plain ⟨negative, ['0'], some ['0'], none⟩ := by
      refine ⟨.inl rfl, by simp, fun ds hds => ?_⟩
      obtain rfl := Option.some.inj hds
      simp
    refine ⟨⟨negative, ['0'], some ['0'], none⟩, hplain, ?_, rfl, rfl⟩
    simp [Numeral.chars, isZero]
  · have hzero : (Double.finite negative mantissa exponent).isZero = false := by
      unfold isZero
      split
      · rename_i none
        cases none
        exact absurd hpos (lt_irrefl 0)
      · rfl
    have hread : ofDecimal false (shortestDigits (.finite false mantissa exponent)).value
        (shortestDigits (.finite false mantissa exponent)).exponent = .finite false mantissa exponent :=
      ofDecimal_shortestDigits formed hpos
    have habs : (Double.finite negative mantissa exponent).abs = .finite false mantissa exponent := rfl
    rw [hzero, if_neg Bool.false_ne_true, habs]
    generalize shortestDigits (.finite false mantissa exponent) = d at hread
    have hvalue : 0 < d.value := by
      by_contra hnone
      obtain hnone : d.value = 0 := by omega
      rw [hnone] at hread
      cases hread
      exact absurd hpos (lt_irrefl 0)
    have hsigned := ofDecimal_finite hread negative
    have hpoint : d.point - (Nat.toDigits 10 d.value).length = d.exponent := by
      unfold Digits.point Digits.chars
      omega
    dsimp only
    by_cases plain : isPositional d.point = true
    · obtain ⟨whole, fraction, k, htext, hplain, hdigits, hplace⟩ := exists_of_positional hvalue d.point
      refine ⟨⟨negative, whole, some fraction, none⟩, hplain _ _, ?_, ?_, rfl⟩
      · show _ = _ ++ if isPositional d.point = true then positional (Nat.toDigits 10 d.value) d.point 1 false else _
        rw [if_pos plain, htext]
        simp [Numeral.chars]
      · show ofDecimal negative (digitsValue (whole ++ fraction)) (0 - (fraction.length : Int)) = _
        rw [hdigits, ofDecimal_mul_pow, ← hsigned]
        congr 1
        omega
    · obtain ⟨whole, fraction, htext, hplain, hdigits, hplace⟩ := exists_of_scientific hvalue d.point
      refine ⟨⟨negative, whole, fraction, some (d.point - 1)⟩, hplain _ _, ?_, ?_, by simp⟩
      · show _ = _ ++ if isPositional d.point = true then _ else scientific (Nat.toDigits 10 d.value) d.point 0 false
        rw [if_neg plain, htext]
        simp [Numeral.chars]
      · show ofDecimal negative (digitsValue (whole ++ fraction.getD []))
          (d.point - 1 - ((fraction.getD []).length : Int)) = _
        rw [hdigits, ← hsigned]
        congr 1
        omega

end DynamicBlocks
