import DynamicBlocks.Loop.Params
import DynamicBlocks.Proofs.WrittenCalls

/-!
# References with defaults

A reference with a default is written as its name, a mark of two question marks, and the default, with any blanks around
the mark. It is read as what was written if nothing stands behind that goes on with the default
(`takeDefaulted?_chars`), and nothing else is read as one (`exists_reference_of_takeDefaulted?`).
-/

set_option autoImplicit false

namespace DynamicBlocks

open Text

/-! ## Characters -/

/-- The digits of every script are word characters. -/
theorem zeroDigits_within_wordRanges :
    ∀ start ∈ zeroDigits, start + 9 < 128 ∨ ∃ range ∈ wordRanges, range.1 ≤ start ∧ start + 9 ≤ range.2 := by
  have scanned : (zeroDigits.all fun start => (start + 9).blt 128 ||
      wordRanges.any fun range => range.1.ble start && (start + 9).ble range.2) = true := by
    decide +kernel
  simpa [Nat.blt_eq] using scanned

/-- Digits are word characters. -/
theorem isWord_of_isDigit {c : Char} (digit : isDigit c = true) : isWord c = true := by
  unfold isDigit digitValue? at digit
  unfold isWord
  split at digit
  · rename_i ascii
    rw [if_pos ascii]
    split at digit
    · rename_i between
      have number : c.isDigit = true := by
        simp only [Char.isDigit, Bool.and_eq_true, decide_eq_true_eq]
        exact ⟨between.1, Nat.le_of_lt_succ between.2⟩
      simp [isAsciiWord, Char.isAlphanum, number]
    · cases digit
  · rename_i beyond
    rw [if_neg beyond, inRanges_iff]
    rw [Option.isSome_map, List.find?_isSome] at digit
    obtain ⟨start, there, inside⟩ := digit
    simp only [Bool.and_eq_true, decide_eq_true_eq] at inside
    rcases zeroDigits_within_wordRanges start there with low | ⟨range, among, above, below⟩
    · omega
    · exact ⟨range, among, by omega, by omega⟩

/-! ## Defaults -/

/-- A default as it is written: a whole number, a decimal number, a truth value, or a text between single quotes. -/
inductive IsDefault : List Char → Prop where
  | whole {sign digits : List Char} (signed : sign = [] ∨ sign = ['-']) (some_digit : digits ≠ [])
      (digit : ∀ c ∈ digits, isDigit c = true) : IsDefault (sign ++ digits)
  | decimal {sign digits places : List Char} (signed : sign = [] ∨ sign = ['-']) (some_digit : digits ≠ [])
      (digit : ∀ c ∈ digits, isDigit c = true) (some_place : places ≠ [])
      (place : ∀ c ∈ places, isDigit c = true) : IsDefault (sign ++ digits ++ '.' :: places)
  | yes : IsDefault ['t', 'r', 'u', 'e']
  | no : IsDefault ['f', 'a', 'l', 's', 'e']
  | quoted {inner : List Char} (unquoted : '\'' ∉ inner) : IsDefault ('\'' :: inner ++ ['\''])

/-- One digit is a default. -/
theorem IsDefault.digit {c : Char} (digit : isDigit c = true) : IsDefault [c] :=
  @whole [] [c] (.inl rfl) (List.cons_ne_nil c []) (by simpa using digit)

/-- Whether a text goes on with no default in front of it: it starts with no word character and no point. -/
def EndsDefault (behind : List Char) : Prop :=
  ∀ c, behind.head? = some c → isWord c = false ∧ c ≠ '.'

/-- A default ends with the text. -/
theorem endsDefault_nil : EndsDefault [] := by
  rintro c ⟨⟩

/-- A default ends in front of a character that is neither a word character nor a point. -/
theorem endsDefault_cons {c : Char} {cs : List Char} (noWord : isWord c = false) (noPoint : c ≠ '.') :
    EndsDefault (c :: cs) := by
  rintro d ⟨⟩
  exact ⟨noWord, noPoint⟩

/-- What ends a default starts with no digit. -/
theorem EndsDefault.noDigit {behind : List Char} (ends : EndsDefault behind) (c : Char) (head : behind.head? = some c) :
    isDigit c = false := by
  refine Bool.eq_false_iff.mpr fun digit => ?_
  have word := (ends c head).1
  rw [isWord_of_isDigit digit] at word
  cases word

/-- A number whose whole part is done, with the places that follow. -/
def takePlaces (whole behind : List Char) : List Char × List Char :=
  match behind with
  | '.' :: fraction =>
    if (fraction.takeWhile isDigit).isEmpty then (whole, behind)
    else (whole ++ '.' :: fraction.takeWhile isDigit, fraction.dropWhile isDigit)
  | _ => (whole, behind)

/-- A number in front is read digit by digit. -/
theorem takeDefaultNumber?_digits {sign digits behind : List Char} (signed : sign = [] ∨ sign = ['-'])
    (some_digit : digits ≠ []) (digit : ∀ c ∈ digits, isDigit c = true)
    (stop : ∀ c, behind.head? = some c → isDigit c = false) :
    takeDefaultNumber? (sign ++ digits ++ behind) = some (takePlaces (sign ++ digits) behind) := by
  obtain ⟨whole, rest⟩ := takeWhile_of_stop digit stop
  have filled : digits.isEmpty = false := by simpa using some_digit
  unfold takeDefaultNumber?
  split
  rename_i front back read
  have parts : front = sign ∧ back = digits ++ behind := by
    rcases signed with rfl | rfl
    · obtain ⟨d, more, rfl⟩ := List.exists_cons_of_ne_nil some_digit
      split at read
      · rename_i minus
        have negative : d = '-' := (List.cons.inj minus).1
        subst negative
        exact absurd (digit '-' List.mem_cons_self) (by decide)
      · cases read
        exact ⟨rfl, rfl⟩
    · cases read
      exact ⟨rfl, rfl⟩
  obtain ⟨rfl, rfl⟩ := parts
  dsimp only
  rw [whole, rest, filled, if_neg Bool.false_ne_true]
  split
  · rename_i fraction
    by_cases places : (fraction.takeWhile isDigit).isEmpty = true
    · rw [if_pos places, takePlaces, if_pos places]
    · rw [if_neg places, takePlaces, if_neg places]
  · rename_i pointless
    unfold takePlaces
    split
    · exact absurd rfl (pointless _)
    · rfl

/-- Where no digit stands there is no number. -/
theorem takeDefaultNumber?_eq_none {c : Char} {cs : List Char} (unsigned : c ≠ '-') (noDigit : isDigit c = false) :
    takeDefaultNumber? (c :: cs) = none := by
  unfold takeDefaultNumber?
  split
  rename_i front back read
  split at read
  · rename_i minus
    exact absurd (List.cons.inj minus).1 unsigned
  · cases read
    simp [noDigit]

/-- A default in front of what does not go on with it is taken as it is. -/
theorem takeDefault?_append {literal behind : List Char} (h : IsDefault literal) (ends : EndsDefault behind) :
    takeDefault? (literal ++ behind) = some (literal, behind) := by
  unfold takeDefault?
  cases h with
  | whole signed some_digit digit =>
    rw [takeDefaultNumber?_digits signed some_digit digit ends.noDigit, Option.some_or]
    unfold takePlaces
    split
    · exact absurd rfl (ends '.' rfl).2
    · rfl
  | @decimal sign digits places signed some_digit digit some_place place =>
    obtain ⟨taken, rest⟩ := takeWhile_of_stop place ends.noDigit
    have point (c : Char) (head : ('.' :: (places ++ behind)).head? = some c) : isDigit c = false := by
      cases head
      decide
    rw [List.append_assoc, List.cons_append, takeDefaultNumber?_digits signed some_digit digit point, Option.some_or]
    simp [takePlaces, taken, rest, some_place]
  | yes =>
    rw [List.cons_append, takeDefaultNumber?_eq_none (by decide) (by decide)]
    rfl
  | no =>
    rw [List.cons_append, takeDefaultNumber?_eq_none (by decide) (by decide)]
    rfl
  | @quoted inner unquoted =>
    rw [List.append_assoc, List.cons_append, takeDefaultNumber?_eq_none (by decide) (by decide)]
    have inside : ∀ c ∈ inner, (c != '\'') = true := by
      intro c there
      simpa using fun same : c = '\'' => unquoted (same ▸ there)
    have closing (c : Char) (head : ('\'' :: behind).head? = some c) : (c != '\'') = false := by
      cases head
      rfl
    obtain ⟨taken, rest⟩ := takeWhile_of_stop inside closing
    have phrases : takePhrase? ["true".toList, "false".toList] ('\'' :: (inner ++ (['\''] ++ behind))) = none := rfl
    rw [phrases, Option.none_or, Option.none_or]
    unfold takeQuotedDefault?
    simp [taken, rest]

/-- Every number in front has a sign or none, digits, and something behind that starts with no digit. -/
theorem exists_digits_of_takeDefaultNumber? {cs : List Char} {found : List Char × List Char}
    (taken : takeDefaultNumber? cs = some found) :
    ∃ sign digits behind, cs = sign ++ digits ++ behind ∧ (sign = [] ∨ sign = ['-']) ∧ digits ≠ [] ∧
      (∀ c ∈ digits, isDigit c = true) ∧ ∀ c, behind.head? = some c → isDigit c = false := by
  unfold takeDefaultNumber? at taken
  split at taken
  rename_i sign rest read
  have signed : cs = sign ++ rest ∧ (sign = [] ∨ sign = ['-']) := by
    split at read
    · cases read
      exact ⟨rfl, .inr rfl⟩
    · cases read
      exact ⟨rfl, .inl rfl⟩
  refine ⟨sign, rest.takeWhile isDigit, rest.dropWhile isDigit, ?_, signed.2, fun empty => ?_, fun c there => ?_,
    fun c head => ?_⟩
  · rw [List.append_assoc, List.takeWhile_append_dropWhile, signed.1]
  · simp [empty] at taken
  · exact List.mem_takeWhile_imp there
  · have stopped := List.head?_dropWhile_not isDigit rest
    rw [head] at stopped
    simpa using stopped

/-- What is taken as a default is one, and stands in front. -/
theorem isDefault_of_takeDefault? {cs literal behind : List Char} (taken : takeDefault? cs = some (literal, behind)) :
    IsDefault literal ∧ cs = literal ++ behind := by
  unfold takeDefault? at taken
  rcases Option.or_eq_some_iff.mp taken with number | ⟨_, other⟩
  · obtain ⟨sign, digits, more, rfl, signed, some_digit, digit, stop⟩ := exists_digits_of_takeDefaultNumber? number
    rw [takeDefaultNumber?_digits signed some_digit digit stop] at number
    have whole : IsDefault (sign ++ digits) := .whole signed some_digit digit
    unfold takePlaces at number
    split at number
    · rename_i fraction
      split at number
      · cases number
        exact ⟨whole, rfl⟩
      · rename_i places
        cases number
        have place : ∀ c ∈ fraction.takeWhile isDigit, isDigit c = true := fun c there => List.mem_takeWhile_imp there
        refine ⟨.decimal signed some_digit digit (by simpa using places) place, ?_⟩
        simp
    · cases number
      exact ⟨whole, rfl⟩
  · rcases Option.or_eq_some_iff.mp other with phrase | ⟨_, quoted⟩
    · obtain ⟨word, there, read⟩ := List.exists_of_findSome?_eq_some phrase
      obtain ⟨rest, dropped, same⟩ := Option.map_eq_some_iff.mp read
      cases same
      refine ⟨?_, dropPhrase?_eq_some.mp dropped⟩
      simp only [List.mem_cons, List.not_mem_nil, or_false] at there
      rcases there with rfl | rfl
      · exact .yes
      · exact .no
    · clear other
      unfold takeQuotedDefault? at quoted
      split at quoted
      · rename_i rest _ _
        split at quoted
        · rename_i after closed
          cases quoted
          refine ⟨.quoted fun inside => ?_, ?_⟩
          · simpa using List.mem_takeWhile_imp inside
          · have parts := List.takeWhile_append_dropWhile (p := (· != '\'')) (l := rest)
            rw [closed] at parts
            simpa using parts.symm
        · cases quoted
      · cases quoted

/-- In front of a text an unquoted default is taken as a default, if perhaps with more of the text. -/
theorem isSome_takeDefault?_append {literal : List Char} (h : IsDefault literal) (unquoted : '\'' ∉ literal)
    (behind : List Char) : (takeDefault? (literal ++ behind)).isSome = true := by
  have number {cs : List Char} {found : List Char × List Char} (taken : takeDefaultNumber? cs = some found) :
      (takeDefault? cs).isSome = true := by
    simp [takeDefault?, taken]
  cases h with
  | @whole sign digits signed some_digit digit =>
    have split : sign ++ digits ++ behind =
        sign ++ (digits ++ behind.takeWhile isDigit) ++ behind.dropWhile isDigit := by simp
    have all : ∀ c ∈ digits ++ behind.takeWhile isDigit, isDigit c = true := by
      intro c there
      rcases List.mem_append.mp there with own | more
      · exact digit c own
      · exact List.mem_takeWhile_imp more
    have stop (c : Char) (head : (behind.dropWhile isDigit).head? = some c) : isDigit c = false := by
      have stopped := List.head?_dropWhile_not isDigit behind
      rw [head] at stopped
      simpa using stopped
    rw [split]
    exact number (takeDefaultNumber?_digits signed (by simp [some_digit]) all stop)
  | @decimal sign digits places signed some_digit digit some_place place =>
    have point (c : Char) (head : ('.' :: (places ++ behind)).head? = some c) : isDigit c = false := by
      cases head
      decide
    rw [List.append_assoc, List.cons_append]
    exact number (takeDefaultNumber?_digits signed some_digit digit point)
  | yes => rfl
  | no => rfl
  | quoted _ => exact absurd List.mem_cons_self unquoted

/-- A default between quotes says the text between them. -/
theorem defaultValue_quoted (inner : List Char) :
    defaultValue (String.ofList ('\'' :: inner ++ ['\''])) = .text (String.ofList inner) := by
  have trimmed : trimChars ('\'' :: (inner ++ ['\''])) = '\'' :: (inner ++ ['\'']) := by
    have ends : '\'' :: (inner ++ ['\'']) = '\'' :: inner ++ ['\''] := rfl
    exact trimChars_of_ends rfl (by decide) ends (by decide)
  have noNumber : takeDefaultNumber? ('\'' :: (inner ++ ['\''])) = none :=
    takeDefaultNumber?_eq_none (by decide) (by decide)
  have between : betweenQuotes? ('\'' :: (inner ++ ['\''])) = some inner := by
    have last : ('\'' :: (inner ++ ['\''])).getLast? = some '\'' := by
      rw [← List.cons_append, List.getLast?_concat]
    unfold betweenQuotes?
    rw [last]
    have inside : (inner ++ ['\'']).dropLast = inner := List.dropLast_concat
    cases inner with
    | nil => rfl
    | cons c inner =>
      rw [List.cons_append] at inside ⊢
      dsimp only
      rw [if_pos ⟨.inl rfl, rfl⟩, inside]
  have noWord {d : Char} {ds : List Char} (different : d ≠ '\'') :
      String.ofList ('\'' :: (inner ++ ['\''])) ≠ String.ofList (d :: ds) := fun same =>
    different (List.cons.inj (String.ofList_injective same)).1.symm
  have noYes : String.ofList ('\'' :: (inner ++ ['\''])) ≠ "true" := noWord (by decide)
  have noNo : String.ofList ('\'' :: (inner ++ ['\''])) ≠ "false" := noWord (by decide)
  unfold defaultValue
  dsimp only
  rw [String.toList_ofList, List.cons_append, trimmed, isWholeLiteral, isDecimalLiteral, noNumber, between,
    if_neg (by decide), if_neg noYes, if_neg noNo]

/-! ## References -/

/-- Whether characters make up a name behind its dollar sign. -/
def IsName (word : List Char) : Prop :=
  word ≠ [] ∧ ∀ c ∈ word, isWord c = true

/-- One word character is a name. -/
theorem isName_singleton {c : Char} (word : isWord c = true) : IsName [c] :=
  ⟨List.cons_ne_nil c [], by simpa using word⟩

/-- There is no dollar in a name. -/
theorem IsName.dollarless {word : List Char} (name : IsName word) : '$' ∉ word := by
  intro there
  have dollar := name.2 '$' there
  revert dollar
  decide

/-- A reference with a default, as it is written. -/
structure DefaultedReference where
  word : List Char
  /-- The blanks in front of the mark. -/
  before : List Char
  /-- The blanks behind the mark. -/
  after : List Char
  literal : List Char
  name : IsName word
  blankBefore : ∀ c ∈ before, isBlank c = true
  blankAfter : ∀ c ∈ after, isBlank c = true
  isDefault : IsDefault literal

namespace DefaultedReference

/-- The name, blanks, the mark and blanks again: all of a reference but its default. -/
def front (word before after : List Char) : List Char :=
  '$' :: (word ++ (before ++ '?' :: '?' :: after))

def chars (r : DefaultedReference) : List Char :=
  front r.word r.before r.after ++ r.literal

/-- The reference with one blank on each side of its mark. -/
def spaced {word literal : List Char} (name : IsName word) (isDefault : IsDefault literal) : DefaultedReference :=
  have blank : ∀ c ∈ [' '], isBlank c = true := by
    simp only [List.mem_singleton, forall_eq]
    decide
  ⟨word, [' '], [' '], literal, name, blank, blank, isDefault⟩

end DefaultedReference

/-- Blanks in front of what starts with none are trimmed off. -/
theorem trimFront_append {blanks cs : List Char} (blank : ∀ c ∈ blanks, isBlank c = true)
    (solid : ∀ c, cs.head? = some c → isBlank c = false) : trimFront (blanks ++ cs) = cs :=
  (takeWhile_of_stop blank solid).2

/-- Behind a dollar stands a name, then two question marks, then the default. -/
theorem takeDefaulted?_dollar (rest : List Char) :
    takeDefaulted? ('$' :: rest) =
      if (rest.takeWhile isWord).isEmpty then none
      else (dropPhrase? ['?', '?'] (trimFront (rest.dropWhile isWord))).bind fun behind =>
        (takeDefault? (trimFront behind)).map fun found => ('$' :: rest.takeWhile isWord, found.1, found.2) := by
  show (if (rest.takeWhile isWord).isEmpty then none else _) = _
  split
  · rfl
  · apply Option.bind_congr
    intro behind _
    cases takeDefault? (trimFront behind) <;> rfl

/-- Behind the name and the mark the default decides. -/
theorem takeDefaulted?_front {word before after cs : List Char} (name : IsName word)
    (blankBefore : ∀ c ∈ before, isBlank c = true) (blankAfter : ∀ c ∈ after, isBlank c = true)
    (solid : ∀ c, cs.head? = some c → isBlank c = false) :
    takeDefaulted? (DefaultedReference.front word before after ++ cs) =
      (takeDefault? cs).map fun found => ('$' :: word, found.1, found.2) := by
  have stop (c : Char) (head : (before ++ '?' :: '?' :: (after ++ cs)).head? = some c) : isWord c = false := by
    refine Bool.eq_false_iff.mpr fun isWord => ?_
    cases before with
    | nil =>
      cases head
      revert isWord
      decide
    | cons d before =>
      cases head
      have blank := blankBefore c List.mem_cons_self
      rw [isBlank_of_isWord isWord] at blank
      cases blank
  have shape : DefaultedReference.front word before after ++ cs =
      '$' :: (word ++ (before ++ '?' :: '?' :: (after ++ cs))) := by
    simp [DefaultedReference.front]
  obtain ⟨taken, rest⟩ := takeWhile_of_stop name.2 stop
  have mark : trimFront (before ++ '?' :: '?' :: (after ++ cs)) = '?' :: '?' :: (after ++ cs) :=
    trimFront_append blankBefore (by simp; decide)
  have dropped : dropPhrase? ['?', '?'] ('?' :: '?' :: (after ++ cs)) = some (after ++ cs) :=
    dropPhrase?_eq_some.mpr rfl
  have filled : word.isEmpty = false := by simpa using name.1
  rw [shape, takeDefaulted?_dollar, taken, rest, filled, if_neg Bool.false_ne_true, mark, dropped, Option.bind_some,
    trimFront_append blankAfter solid]

/-- A default starts with no blank. -/
theorem IsDefault.solid {literal : List Char} (h : IsDefault literal) (behind : List Char) (c : Char)
    (head : (literal ++ behind).head? = some c) : isBlank c = false := by
  have number {sign digits more : List Char} (signed : sign = [] ∨ sign = ['-']) (some_digit : digits ≠ [])
      (digit : ∀ c ∈ digits, isDigit c = true) (head : (sign ++ (digits ++ more)).head? = some c) :
      isBlank c = false := by
    obtain ⟨d, digits, rfl⟩ := List.exists_cons_of_ne_nil some_digit
    rcases signed with rfl | rfl
    · cases head
      exact isBlank_of_isWord (isWord_of_isDigit (digit c List.mem_cons_self))
    · cases head
      decide
  cases h with
  | whole signed some_digit digit =>
    rw [List.append_assoc] at head
    exact number signed some_digit digit head
  | decimal signed some_digit digit =>
    rw [List.append_assoc, List.append_assoc] at head
    exact number signed some_digit digit head
  | yes | no | quoted =>
    cases head
    decide

namespace DefaultedReference

variable (r : DefaultedReference) {behind : List Char}

/-- A reference in front of what does not go on with its default is read as it is written. -/
theorem takeDefaulted?_chars (ends : EndsDefault behind) :
    takeDefaulted? (r.chars ++ behind) = some ('$' :: r.word, r.literal, behind) := by
  rw [chars, List.append_assoc, takeDefaulted?_front r.name r.blankBefore r.blankAfter
    (r.isDefault.solid behind), takeDefault?_append r.isDefault ends, Option.map_some]

end DefaultedReference

/-- What is read as a reference with a default is one, and stands in front. -/
theorem exists_reference_of_takeDefaulted? {cs name literal behind : List Char}
    (taken : takeDefaulted? cs = some (name, literal, behind)) :
    ∃ r : DefaultedReference, cs = r.chars ++ behind ∧ name = '$' :: r.word ∧ literal = r.literal := by
  cases cs with
  | nil => cases taken
  | cons c rest =>
    by_cases dollar : c = '$'
    · subst dollar
      rw [takeDefaulted?_dollar] at taken
      split at taken
      · cases taken
      · rename_i filled
        obtain ⟨marked, dropped, taken⟩ := Option.bind_eq_some_iff.mp taken
        obtain ⟨⟨literal, behind⟩, read, same⟩ := Option.map_eq_some_iff.mp taken
        cases same
        obtain ⟨isDefault, default⟩ := isDefault_of_takeDefault? read
        have mark := dropPhrase?_eq_some.mp dropped
        refine ⟨⟨rest.takeWhile isWord, (rest.dropWhile isWord).takeWhile isBlank, marked.takeWhile isBlank, literal,
          ⟨by simpa using filled, fun c there => List.mem_takeWhile_imp there⟩,
          fun c there => List.mem_takeWhile_imp there, fun c there => List.mem_takeWhile_imp there, isDefault⟩,
          ?_, rfl, rfl⟩
        have word := List.takeWhile_append_dropWhile (p := isWord) (l := rest)
        have before := List.takeWhile_append_dropWhile (p := isBlank) (l := rest.dropWhile isWord)
        have after := List.takeWhile_append_dropWhile (p := isBlank) (l := marked)
        unfold trimFront at mark default
        simp only [DefaultedReference.chars, DefaultedReference.front, List.cons_append, List.append_assoc]
        rw [← default, after]
        rw [mark] at before
        rw [show '?' :: '?' :: marked = ['?', '?'] ++ marked from rfl, before, word]
    · rw [takeDefaulted?_of_ne c rest dollar] at taken
      cases taken

/-! ## Pieces -/

/-- Characters that are skipped hold no references. -/
theorem paramPiecesFrom_append (skipped cs : List Char) :
    paramPiecesFrom skipped.length (skipped ++ cs) = paramPiecesFrom 0 cs := by
  induction skipped with
  | nil => rfl
  | cons c skipped ih => exact ih

/-- Where no reference with a default starts stands a character. -/
theorem paramPiecesFrom_char {c : Char} {cs : List Char} (free : takeDefaulted? (c :: cs) = none) :
    paramPiecesFrom 0 (c :: cs) = .char c :: paramPiecesFrom 0 cs := by
  rw [paramPiecesFrom, free]

/-- A reference with a default is one piece. -/
theorem DefaultedReference.paramPiecesFrom_chars (r : DefaultedReference) {behind : List Char}
    (ends : EndsDefault behind) :
    paramPiecesFrom 0 (r.chars ++ behind) = .defaulted ('$' :: r.word) r.literal :: paramPiecesFrom 0 behind := by
  have taken := r.takeDefaulted?_chars ends
  have shape : r.chars ++ behind = '$' :: (r.chars.tail ++ behind) := rfl
  rw [shape] at taken ⊢
  have skip : (r.chars.tail ++ behind).length - behind.length = r.chars.tail.length := by simp
  rw [paramPiecesFrom, taken]
  dsimp only
  rw [skip, paramPiecesFrom_append]

end DynamicBlocks
