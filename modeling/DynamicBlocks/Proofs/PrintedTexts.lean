import DynamicBlocks.Proofs.JsonStrings

/-!
# Printed texts

JSON text in ASCII has neither control characters nor anything beyond ASCII: a number has its digits, sign, point and
exponent, and a string has its escapes. So no text of a number has a surrogate in it, and the NUL that is put in front
of JSON text cannot occur inside.
-/

set_option autoImplicit false

namespace DynamicBlocks

namespace Json

open Text

/-- Whether all characters of a text are characters of ASCII behind the control characters. -/
def Printed (cs : List Char) : Prop :=
  ∀ c ∈ cs, 0x20 ≤ c.toNat ∧ c.toNat < 0x7f

instance (cs : List Char) : Decidable (Printed cs) :=
  decidable_of_iff (cs.all (fun c => decide (0x20 ≤ c.toNat ∧ c.toNat < 0x7f)) = true) (by simp [Printed])

/-- In a printed text no two surrogates make a pair, for there are none. -/
theorem unpaired_of_printed {cs : List Char} (printed : Printed cs) : Unpaired cs := by
  refine List.Pairwise.isChain (List.pairwise_of_forall_mem_list fun c there d _ => ?_)
  have below := (printed c there).2
  apply combined?_of_not_high
  unfold codePoint
  split <;> omega

/-- A text is printed exactly if its parts are. -/
theorem printed_append {cs ds : List Char} : Printed (cs ++ ds) ↔ Printed cs ∧ Printed ds :=
  List.forall_mem_append

/-- Digits are printed. -/
theorem printed_toDigits {b : Nat} (great : 1 < b) (small : b ≤ 16) (n : Nat) : Printed (Nat.toDigits b n) := by
  have hdigit : ∀ d, d < 16 → 0x20 ≤ d.digitChar.toNat ∧ d.digitChar.toNat < 0x7f := by decide
  induction n using Nat.strong_induction_on with
  | _ n ih =>
    rw [Nat.toDigits_eq_if great]
    split
    · exact List.forall_mem_singleton.mpr (hdigit n (by omega))
    · have hless : n / b < n := Nat.div_lt_self (by omega) great
      have hlast : n % b < b := Nat.mod_lt n (by omega)
      exact printed_append.mpr ⟨ih (n / b) hless, List.forall_mem_singleton.mpr (hdigit (n % b) (by omega))⟩

/-- Zeros are printed. -/
theorem printed_zeros (count : Int) : Printed (zeros count) := by
  intro c there
  rw [List.eq_of_mem_replicate there]
  decide

/-- A whole number is printed. -/
theorem printed_intText (n : Int) : Printed (intText n).toList := by
  rw [intText, String.toList_ofList, printed_append]
  refine ⟨?_, printed_toDigits (by decide) (by decide) _⟩
  split
  · decide
  · exact List.forall_mem_nil _

/-- Digits with a point among them are printed. -/
theorem printed_positional {cs : List Char} (printed : Printed cs) (point places : Int) (keepPoint : Bool) :
    Printed (positional cs point places keepPoint) := by
  have hwhole : Printed (if point ≤ 0 then ['0'] else cs.take point.toNat ++ zeros (point - cs.length)) := by
    split
    · decide
    · exact printed_append.mpr ⟨fun c there => printed c (List.mem_of_mem_take there), printed_zeros _⟩
  have hfraction : Printed (if point ≤ 0 then zeros (-point) ++ cs else cs.drop point.toNat) := by
    split
    · exact printed_append.mpr ⟨printed_zeros _, printed⟩
    · exact fun c there => printed c (List.mem_of_mem_drop there)
  have hboth {whole fraction : List Char} (hw : Printed whole) (hf : Printed fraction) :
      Printed (if fraction.isEmpty && !keepPoint then whole else whole ++ '.' :: fraction) := by
    split
    · exact hw
    · exact printed_append.mpr ⟨hw, List.forall_mem_cons.mpr ⟨by decide, hf⟩⟩
  exact hboth hwhole (printed_append.mpr ⟨hfraction, printed_zeros _⟩)

/-- An exponent is printed. -/
theorem printed_exponentChars (exponent : Int) : Printed (exponentChars exponent) := by
  refine printed_append.mpr ⟨List.forall_mem_cons.mpr ⟨by decide, List.forall_mem_cons.mpr ⟨?_, printed_zeros _⟩⟩,
    printed_toDigits (by decide) (by decide) _⟩
  split <;> decide

/-- A double is printed. -/
theorem printed_doubleText (x : Double) : Printed (doubleText x).toList := by
  cases x with
  | nan origin => exact (by decide : Printed "NaN".toList)
  | infinite negative => cases negative <;> decide
  | finite negative mantissa exponent =>
    have hmagnitude : Printed (magnitudeChars (.finite negative mantissa exponent)) := by
      unfold magnitudeChars
      split
      · decide
      · dsimp only
        have hdigits : Printed (shortestDigits (Double.finite negative mantissa exponent).abs).chars :=
          printed_toDigits (by decide) (by decide) _
        split
        · exact printed_positional hdigits _ _ _
        · exact printed_append.mpr ⟨printed_positional hdigits _ _ _, printed_exponentChars _⟩
    show Printed (String.ofList _).toList
    rw [String.toList_ofList, printed_append]
    refine ⟨?_, hmagnitude⟩
    split
    · decide
    · exact List.forall_mem_nil _

/-- An escape by code is printed. -/
theorem printed_charEscape (c : Char) : Printed (charEscape c) := by
  have hunit (code : Nat) : Printed (unitEscape code) := by
    refine List.forall_mem_cons.mpr ⟨by decide, List.forall_mem_cons.mpr ⟨by decide, ?_⟩⟩
    refine printed_append.mpr ⟨fun c there => ?_, printed_toDigits (by decide) (by decide) _⟩
    rw [List.eq_of_mem_replicate there]
    decide
  unfold charEscape
  dsimp only
  split
  · exact hunit _
  · exact printed_append.mpr ⟨hunit _, hunit _⟩

/-- A string in ASCII is printed. -/
theorem printed_stringText (s : String) : Printed (stringText true s).toList := by
  have hchar (c : Char) : Printed (stringChar true c) := by
    unfold stringChar
    split
    · rename_i marked
      refine List.forall_mem_cons.mpr ⟨by decide, List.forall_mem_singleton.mpr ?_⟩
      rcases marked with rfl | rfl <;> decide
    · iterate 5
        split
        · decide
      split
      · exact printed_charEscape c
      · rename_i great
        split
        · exact printed_charEscape c
        · rename_i ascii
          rw [Bool.true_and, decide_eq_true_iff, not_le] at ascii
          exact List.forall_mem_singleton.mpr ⟨not_lt.mp great, ascii⟩
  rw [stringText, String.toList_ofList, printed_append]
  refine ⟨List.forall_mem_cons.mpr ⟨by decide, fun d there => ?_⟩, by decide⟩
  obtain ⟨c, -, hd⟩ := List.mem_flatMap.mp there
  exact hchar c d hd

/-- Printed texts with commas between are printed. -/
theorem printed_join {texts : List String} (printed : ∀ text ∈ texts, Printed text.toList) :
    Printed (Text.join ", " texts).toList := by
  induction texts with
  | nil => decide
  | cons text texts ih =>
    have hfirst := printed text List.mem_cons_self
    have hmore := ih fun other there => printed other (List.mem_cons_of_mem _ there)
    cases texts with
    | nil =>
      rw [Text.join, String.intercalate_singleton]
      exact hfirst
    | cons text' texts =>
      rw [Text.join, String.intercalate_cons_cons, String.toList_append, String.toList_append]
      exact printed_append.mpr ⟨printed_append.mpr ⟨hfirst, by decide⟩, hmore⟩

/-- A string is printed where characters beyond ASCII are written by code. -/
theorem printed_stringText_of {style : Style} (ascii : style.asciiOnly = true) (s : String) :
    Printed (stringText style.asciiOnly s).toList := by
  rw [ascii]
  exact printed_stringText s

end Json

end DynamicBlocks
