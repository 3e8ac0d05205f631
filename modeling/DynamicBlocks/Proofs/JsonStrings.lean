import DynamicBlocks.Json.Reader
import DynamicBlocks.Json.Writer
import Mathlib

/-!
# JSON strings

A string is read as it is written, whatever follows its closing quote (`takeString?_flatMap`). Every character is
written in a way of its own: as it is, as a letter behind a backslash, or by its code, in two units beyond U+FFFF. Each
way is read as the character, so reading goes through the string character by character.

There is one exception. Two surrogates of a pair that are written by code one behind the other are read as the character
of the pair, so a string with such a pair in it (`Text.Unpaired` excludes it) is written like the one in which every
pair is its character (`Text.joined`).
-/

set_option autoImplicit false

namespace DynamicBlocks

namespace Text

/-- In no place of a text the two surrogates of a pair stand behind each other. -/
def Unpaired (cs : List Char) : Prop :=
  cs.IsChain fun c d => combined? (codePoint c) (codePoint d) = none

instance (cs : List Char) : Decidable (Unpaired cs) :=
  inferInstanceAs (Decidable (cs.IsChain fun c d => combined? (codePoint c) (codePoint d) = none))

/-- Characters in which every pair of surrogates is the character of the pair. -/
def joined : List Char → List Char
  | c :: d :: cs =>
    match combined? (codePoint c) (codePoint d) with
    | some code => Char.ofNat code :: joined cs
    | none => c :: joined (d :: cs)
  | cs => cs

/-- A text in which every pair of surrogates is the character of the pair. -/
def joinedText (s : String) : String :=
  String.ofList (joined s.toList)

end Text

namespace Json

open Text

/-- A number below 2 ^ 16 has four hexadecimal digits, those in front zeros if need be. -/
theorem hexDigits_four {n : Nat} (small : n < 0x10000) :
    hexDigits 4 n = [Nat.digitChar (n / 4096), Nat.digitChar (n / 256 % 16), Nat.digitChar (n / 16 % 16),
      Nat.digitChar (n % 16)] := by
  have hstep (m : Nat) : Nat.toDigits 16 m = if m < 16 then [Nat.digitChar m] else
      Nat.toDigits 16 (m / 16) ++ [Nat.digitChar (m % 16)] := Nat.toDigits_eq_if (by norm_num)
  unfold hexDigits
  by_cases h1 : n < 16
  · have e1 : n / 4096 = 0 := by omega
    have e2 : n / 256 % 16 = 0 := by omega
    have e3 : n / 16 % 16 = 0 := by omega
    have e4 : n % 16 = n := by omega
    rw [hstep n, if_pos h1, e1, e2, e3, e4]
    rfl
  · by_cases h2 : n < 256
    · have e1 : n / 4096 = 0 := by omega
      have e2 : n / 256 % 16 = 0 := by omega
      have e3 : n / 16 % 16 = n / 16 := by omega
      rw [hstep n, if_neg h1, hstep (n / 16), if_pos (by omega), e1, e2, e3]
      rfl
    · by_cases h3 : n < 4096
      · have e1 : n / 4096 = 0 := by omega
        have e2 : n / 256 % 16 = n / 16 / 16 := by omega
        rw [hstep n, if_neg h1, hstep (n / 16), if_neg (by omega), hstep (n / 16 / 16), if_pos (by omega), e1, e2]
        rfl
      · have e1 : n / 4096 = n / 16 / 16 / 16 := by omega
        have e2 : n / 256 % 16 = n / 16 / 16 % 16 := by omega
        rw [hstep n, if_neg h1, hstep (n / 16), if_neg (by omega), hstep (n / 16 / 16), if_neg (by omega),
          hstep (n / 16 / 16 / 16), if_pos (by omega), e1, e2]
        rfl

/-- Four hexadecimal digits are read as the number that they write. -/
theorem takeUnit?_hexDigits {n : Nat} (small : n < 0x10000) (rest : List Char) :
    takeUnit? (hexDigits 4 n ++ rest) = some (n, rest) := by
  have hvalue : ∀ d, d < 16 → hexValue? (Nat.digitChar d) = some d := by decide
  rw [hexDigits_four small]
  simp only [List.cons_append, List.nil_append, takeUnit?, hvalue _ (show n / 4096 < 16 by omega),
    hvalue _ (show n / 256 % 16 < 16 by omega), hvalue _ (show n / 16 % 16 < 16 by omega),
    hvalue _ (show n % 16 < 16 by omega), Option.pure_def, Option.bind_eq_bind, Option.bind_some, Option.some.injEq,
    Prod.mk.injEq, and_true]
  omega

/-- No escape in front of a text makes a pair with a character. -/
def StandsAlone (c : Char) (rest : List Char) : Prop :=
  ∀ more low after, rest = '\\' :: 'u' :: more → takeUnit? more = some (low, after) →
    combined? (codePoint c) low = none

/-- A unit that is a character by itself is read as the character. -/
theorem takeCode?_of_single {c : Char} (small : codePoint c < 0x10000) {rest : List Char} (alone : StandsAlone c rest) :
    takeCode? (hexDigits 4 (codePoint c) ++ rest) = some (c, rest) := by
  simp only [takeCode?, takeUnit?_hexDigits small, Option.bind_eq_bind, Option.bind_some, ofCodePoint_codePoint,
    Option.pure_def]
  split
  · split
    · rename_i unit
      rw [alone _ _ _ rfl unit]
    · rfl
  · rfl

/-- A high unit with a low one behind it is read as the character that the two are. -/
theorem takeCode?_of_pair {c : Char} {high low : Nat} (pair : combined? high low = some c.toNat) (rest : List Char) :
    takeCode? (hexDigits 4 high ++ '\\' :: 'u' :: hexDigits 4 low ++ rest) = some (c, rest) := by
  have surrogates := (combined?_eq_some pair).1
  have first := takeUnit?_hexDigits (show high < 0x10000 by omega) ('\\' :: 'u' :: (hexDigits 4 low ++ rest))
  have second := takeUnit?_hexDigits (show low < 0x10000 by omega) rest
  simp only [List.append_assoc, List.cons_append, takeCode?, first, second, Option.bind_eq_bind, Option.bind_some,
    pair, Char.ofNat_toNat, Option.pure_def]

/-- Beyond U+FFFF the two units of a character make a pair. -/
theorem combined?_units {c : Char} (great : ¬ codePoint c < 0x10000) :
    combined? (0xd800 + (codePoint c - 0x10000) / 0x400) (0xdc00 + (codePoint c - 0x10000) % 0x400) =
      some c.toNat := by
  have bound := codePoint_lt c
  have same : codePoint c = c.toNat ∧ ¬(0xdd800 ≤ c.toNat ∧ c.toNat < 0xde000) := by
    unfold codePoint at great ⊢
    split at great
    · omega
    · rename_i plain
      exact ⟨if_neg plain, plain⟩
  unfold combined?
  rw [if_pos (by omega)]
  dsimp only
  rw [if_neg (by omega), Option.some.injEq]
  omega

/-- The escape of a code unit is a backslash, the letter and four hexadecimal digits. -/
theorem unitEscape_append (code : Nat) (cs : List Char) :
    unitEscape code ++ cs = '\\' :: 'u' :: (hexDigits 4 code ++ cs) := rfl

/-- An escape by code is read as the character. -/
theorem takeCode?_charEscape {c : Char} {rest : List Char} (alone : StandsAlone c rest) :
    ∃ code, charEscape c = '\\' :: 'u' :: code ∧ takeCode? (code ++ rest) = some (c, rest) := by
  unfold charEscape
  dsimp only
  split
  · rename_i small
    exact ⟨hexDigits 4 (codePoint c), rfl, takeCode?_of_single small alone⟩
  · rename_i great
    rw [unitEscape_append]
    exact ⟨_, rfl, takeCode?_of_pair (combined?_units great) rest⟩

/-- The first unit of an escape is the character, or makes a pair with nothing in front of it. -/
theorem takeUnit?_charEscape (d : Char) (rest : List Char) :
    ∃ code first after, charEscape d ++ rest = '\\' :: 'u' :: code ∧ takeUnit? code = some (first, after) ∧
      (first = codePoint d ∨ first < 0xdc00) := by
  have bound := codePoint_lt d
  have leads {unit : Nat} (small : unit < 0x10000) (which : unit = codePoint d ∨ unit < 0xdc00) (cs : List Char) :
      ∃ code first after, unitEscape unit ++ cs = '\\' :: 'u' :: code ∧ takeUnit? code = some (first, after) ∧
        (first = codePoint d ∨ first < 0xdc00) :=
    ⟨_, unit, cs, unitEscape_append unit cs, takeUnit?_hexDigits small cs, which⟩
  unfold charEscape
  dsimp only
  split
  · rename_i small
    exact leads small (.inl rfl) rest
  · rw [List.append_assoc]
    have high : 0xd800 + (codePoint d - 0x10000) / 0x400 < 0xdc00 := by omega
    exact leads (high.trans (by norm_num)) (.inr high) _

/-- What is no low surrogate makes no pair. -/
theorem combined?_of_not_low {high low : Nat} (other : low < 0xdc00 ∨ 0xe000 ≤ low) : combined? high low = none := by
  unfold combined?
  rw [if_neg (by omega)]

/-- What is no high surrogate makes no pair. -/
theorem combined?_of_not_high {high : Nat} (other : high < 0xd800 ∨ 0xdc00 ≤ high) (low : Nat) :
    combined? high low = none := by
  unfold combined?
  rw [if_neg (by omega)]

/-- A character that is no first half of a pair stands alone whatever follows. -/
theorem standsAlone_of_not_high {c : Char} (other : codePoint c < 0xd800 ∨ 0xdc00 ≤ codePoint c) (rest : List Char) :
    StandsAlone c rest :=
  fun _ low _ _ _ => combined?_of_not_high other low

/-- Every character does so where no escape follows. -/
theorem standsAlone_of_ne {c d : Char} (other : d ≠ '\\') (rest : List Char) : StandsAlone c (d :: rest) :=
  fun _ _ _ shape _ => absurd (List.cons.inj shape).1 other

/-- A character that makes no pair with the next stands alone in front of it, however the next is written. -/
theorem standsAlone_stringChar (asciiOnly : Bool) {c d : Char} (apart : combined? (codePoint c) (codePoint d) = none)
    (rest : List Char) : StandsAlone c (stringChar asciiOnly d ++ rest) := by
  have letter (e : Char) (other : e ≠ 'u') : StandsAlone c (['\\', e] ++ rest) := fun _ _ _ shape _ =>
    absurd (List.cons.inj (List.cons.inj shape).2).1 other
  have code : StandsAlone c (charEscape d ++ rest) := by
    obtain ⟨digits, first, after, shape, unit, which⟩ := takeUnit?_charEscape d rest
    intro more low behind same taken
    rw [shape, List.cons.injEq, List.cons.injEq] at same
    rw [← same.2.2, unit, Option.some.injEq, Prod.mk.injEq] at taken
    rw [← taken.1]
    rcases which with rfl | below
    · exact apart
    · exact combined?_of_not_low (.inl below)
  unfold stringChar
  split
  · rename_i special
    exact letter d (by rcases special with rfl | rfl <;> decide)
  rename_i special
  rw [not_or] at special
  iterate 5
    split
    · exact letter _ (by decide)
  split
  · exact code
  split
  · exact code
  · exact standsAlone_of_ne special.2 rest

/-- A short escape is read as its character. -/
theorem takeString?_escape {e c : Char} (read : escaped? e = some c) (other : e ≠ 'u') (steps : Nat)
    (rest : List Char) : takeString? (steps + 1) ('\\' :: e :: rest) =
      (takeString? steps rest).map fun taken => (c :: taken.1, taken.2) := by
  generalize htaken : takeString? steps rest = taken
  unfold takeString?
  rw [if_neg (by decide), if_neg (by decide), if_pos rfl]
  split
  · rename_i impossible
    cases impossible
  · rename_i same
    exact absurd (List.cons.inj same).1 other
  · rename_i same
    obtain ⟨rfl, rfl⟩ := List.cons.inj same
    rw [read, htaken]
    cases taken <;> rfl

/-- The escape of a character that stands alone is read as this character. -/
theorem takeString?_code {c : Char} {rest : List Char} (alone : StandsAlone c rest) (steps : Nat) :
    takeString? (steps + 1) (charEscape c ++ rest) =
      (takeString? steps rest).map fun taken => (c :: taken.1, taken.2) := by
  obtain ⟨code, hshape, hread⟩ := takeCode?_charEscape alone
  rw [hshape]
  show takeString? (steps + 1) ('\\' :: 'u' :: (code ++ rest)) = _
  generalize htaken : takeString? steps rest = taken
  unfold takeString?
  rw [if_neg (by decide), if_neg (by decide), if_pos rfl]
  simp only [hread, Option.bind_eq_bind, Option.bind_some, htaken]
  cases taken <;> rfl

/-- A character that needs no escape is read as itself. -/
theorem takeString?_plain {c : Char} (quote : c ≠ '"') (backslash : c ≠ '\\') (great : 0x20 ≤ c.toNat) (steps : Nat)
    (rest : List Char) : takeString? (steps + 1) (c :: rest) =
      (takeString? steps rest).map fun taken => (c :: taken.1, taken.2) := by
  generalize htaken : takeString? steps rest = taken
  unfold takeString?
  rw [if_neg quote, if_neg (by omega), if_neg backslash, htaken]
  cases taken <;> rfl

/-- A character of a string is read as it is written; where it may be written by code, it has to stand alone. -/
theorem takeString?_stringChar {asciiOnly : Bool} {c : Char} {rest : List Char}
    (alone : asciiOnly = true → StandsAlone c rest) (steps : Nat) :
    takeString? (steps + 1) (stringChar asciiOnly c ++ rest) =
      (takeString? steps rest).map fun taken => (c :: taken.1, taken.2) := by
  have hback (n : Nat) (code : c.toNat = n) : Char.ofNat n = c := by rw [← code, Char.ofNat_toNat]
  unfold stringChar
  split
  · rename_i special
    rcases special with rfl | rfl
    · exact takeString?_escape rfl (by decide) steps rest
    · exact takeString?_escape rfl (by decide) steps rest
  rename_i special
  rw [not_or] at special
  -- The ends of lines and the tab.
  iterate 3
    split
    · rename_i same
      subst same
      exact takeString?_escape rfl (by decide) steps rest
  split
  · rename_i code
    have read : escaped? 'b' = some c := congrArg some (hback 8 code)
    exact takeString?_escape read (by decide) steps rest
  split
  · rename_i code
    have read : escaped? 'f' = some c := congrArg some (hback 12 code)
    exact takeString?_escape read (by decide) steps rest
  split
  · rename_i control
    have below : codePoint c < 0xd800 := by
      unfold codePoint
      split <;> omega
    exact takeString?_code (standsAlone_of_not_high (.inl below) rest) steps
  rename_i great
  split
  · rename_i escaped
    exact takeString?_code (alone (Bool.and_eq_true_iff.mp escaped).1) steps
  · exact takeString?_plain special.1 special.2 (not_lt.mp great) steps rest

/-- A string is read as it is written, if no pair of surrogates is written by code. -/
theorem takeString?_flatMap {asciiOnly : Bool} {cs : List Char} (unpaired : asciiOnly = true → Unpaired cs)
    (rest : List Char) {steps : Nat} (enough : cs.length < steps) :
    takeString? steps (cs.flatMap (stringChar asciiOnly) ++ '"' :: rest) = some (cs, rest) := by
  induction cs generalizing steps with
  | nil =>
    obtain ⟨steps, rfl⟩ : ∃ fewer, steps = fewer + 1 := ⟨steps - 1, by simp only [List.length_nil] at enough; omega⟩
    rfl
  | cons c cs ih =>
    obtain ⟨steps, rfl⟩ : ∃ fewer, steps = fewer + 1 := ⟨steps - 1, by omega⟩
    have alone (ascii : asciiOnly = true) : StandsAlone c (cs.flatMap (stringChar asciiOnly) ++ '"' :: rest) := by
      cases cs with
      | nil => exact standsAlone_of_ne (by decide) rest
      | cons d cs =>
        rw [List.flatMap_cons, List.append_assoc]
        exact standsAlone_stringChar asciiOnly (List.isChain_cons_cons.mp (unpaired ascii)).1 _
    rw [List.flatMap_cons, List.append_assoc, takeString?_stringChar alone,
      ih (fun ascii => (unpaired ascii).tail) (by simpa using enough)]
    rfl

/-- A text is no longer than its escaped form. -/
theorem length_le_flatMap (asciiOnly : Bool) (cs : List Char) :
    cs.length ≤ (cs.flatMap (stringChar asciiOnly)).length := by
  have hone (c : Char) : 0 < (stringChar asciiOnly c).length := by
    obtain ⟨code, _, _, hshape, -, -⟩ := takeUnit?_charEscape c []
    rw [List.append_nil] at hshape
    unfold stringChar
    rw [hshape]
    split_ifs <;> exact Nat.succ_pos _
  induction cs with
  | nil => simp
  | cons c cs ih =>
    have := hone c
    rw [List.flatMap_cons, List.length_append, List.length_cons]
    omega

/-! ## Pairs of surrogates -/

/-- The character of a pair of surrogates lies beyond U+FFFF, and it is held by itself. -/
theorem codePoint_combined {high low code : Nat} (pair : combined? high low = some code) :
    0x10000 ≤ code ∧ (Char.ofNat code).toNat = code ∧ codePoint (Char.ofNat code) = code := by
  obtain ⟨surrogates, joins, plain⟩ := combined?_eq_some pair
  have valid : code.isValidChar := .inr (by omega)
  have held : (Char.ofNat code).toNat = code := by rw [Char.toNat_ofNat, if_pos valid]
  refine ⟨by omega, held, ?_⟩
  unfold codePoint
  rw [held, if_neg plain]

/-- Beyond ASCII every character is written by code. -/
theorem stringChar_of_great {c : Char} (great : 0x7f ≤ c.toNat) : stringChar true c = charEscape c := by
  have other (d : Char) (below : d.toNat < 0x7f) : c ≠ d := by
    rintro rfl
    omega
  unfold stringChar
  rw [if_neg (not_or.mpr ⟨other _ (by decide), other _ (by decide)⟩), if_neg (other _ (by decide)),
    if_neg (other _ (by decide)), if_neg (other _ (by decide)), if_neg (by omega), if_neg (by omega),
    if_neg (by omega), if_pos (Bool.and_eq_true_iff.mpr ⟨rfl, decide_eq_true great⟩)]

/-- A surrogate is written as its unit. -/
theorem stringChar_of_surrogate {c : Char} (surrogate : 0xd800 ≤ codePoint c ∧ codePoint c < 0xe000) :
    stringChar true c = unitEscape (codePoint c) := by
  have great : 0x7f ≤ c.toNat := by
    unfold codePoint at surrogate
    split at surrogate <;> omega
  rw [stringChar_of_great great, charEscape, if_pos (by omega)]

/-- The character of a pair is written like the two surrogates. -/
theorem stringChar_of_pair {c d : Char} {code : Nat} (pair : combined? (codePoint c) (codePoint d) = some code) :
    stringChar true (Char.ofNat code) = stringChar true c ++ stringChar true d := by
  obtain ⟨surrogates, joins, -⟩ := combined?_eq_some pair
  obtain ⟨great, held, same⟩ := codePoint_combined pair
  have high : stringChar true c = unitEscape (codePoint c) := stringChar_of_surrogate (by omega)
  have low : stringChar true d = unitEscape (codePoint d) := stringChar_of_surrogate (by omega)
  have first : 0xd800 + (code - 0x10000) / 0x400 = codePoint c := by omega
  have second : 0xdc00 + (code - 0x10000) % 0x400 = codePoint d := by omega
  rw [high, low, stringChar_of_great (by omega), charEscape, same, if_neg (by omega), first, second]

/-- Joining pairs changes nothing of what is written. -/
theorem flatMap_joined (cs : List Char) :
    (joined cs).flatMap (stringChar true) = cs.flatMap (stringChar true) := by
  fun_induction joined cs with
  | case1 c d cs code pair ih =>
    rw [List.flatMap_cons, ih, stringChar_of_pair pair, List.flatMap_cons, List.flatMap_cons, List.append_assoc]
  | case2 c d cs apart ih => rw [List.flatMap_cons, ih, ← List.flatMap_cons]
  | case3 cs => rfl

/-- With every pair joined no pair is left. -/
theorem unpaired_joined (cs : List Char) : Unpaired (joined cs) := by
  -- A character that made no pair with the first makes none with what the first has become.
  have behind {c : Char} {cs : List Char} (apart : ∀ d ∈ cs.head?, combined? (codePoint c) (codePoint d) = none) :
      ∀ d ∈ (joined cs).head?, combined? (codePoint c) (codePoint d) = none := by
    fun_cases joined cs with
    | case1 d e cs code pair =>
      obtain ⟨great, -, same⟩ := codePoint_combined pair
      simp only [List.head?_cons, Option.mem_some_iff, forall_eq', same]
      exact combined?_of_not_low (.inr (by omega))
    | case2 d e cs _ => exact apart
    | case3 cs => exact apart
  unfold Unpaired
  fun_induction joined cs with
  | case1 c d cs code pair ih =>
    obtain ⟨great, -, same⟩ := codePoint_combined pair
    refine List.isChain_cons.mpr ⟨fun e _ => ?_, ih⟩
    rw [same]
    exact combined?_of_not_high (.inr (by omega)) _
  | case2 c d cs apart ih =>
    exact List.isChain_cons.mpr ⟨behind (by simpa using apart), ih⟩
  | case3 cs unequal =>
    cases cs with
    | nil => exact .nil
    | cons c cs =>
      cases cs with
      | nil => exact .singleton c
      | cons d cs => exact (unequal c d cs rfl).elim

/-- A text is written like the one with every pair joined. -/
theorem stringText_joinedText (s : String) : stringText true (joinedText s) = stringText true s := by
  unfold stringText joinedText
  rw [String.toList_ofList, flatMap_joined]

/-- Without pairs there is nothing to join. -/
theorem joined_of_unpaired {cs : List Char} (unpaired : Unpaired cs) : joined cs = cs := by
  fun_induction joined cs with
  | case1 c d cs code pair ih =>
    rw [(List.isChain_cons_cons.mp unpaired).1] at pair
    cases pair
  | case2 c d cs apart ih => rw [ih unpaired.tail]
  | case3 cs => rfl

/-- In a text that holds no pairs of halves nothing is joined. -/
theorem joinedText_of_unpaired {s : String} (unpaired : Unpaired s.toList) : joinedText s = s := by
  rw [joinedText, joined_of_unpaired unpaired, String.ofList_toList]

/-- A text that has been joined holds no such pairs. -/
theorem unpaired_joinedText (s : String) : Unpaired (joinedText s).toList := by
  rw [joinedText, String.toList_ofList]
  exact unpaired_joined s.toList

end Json

end DynamicBlocks
