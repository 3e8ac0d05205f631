import DynamicBlocks.Text.Search
import Mathlib.Data.List.Basic
import Mathlib.Data.List.Infix

/-!
# Replacing in texts

Replacing goes through a text from its start: where the needle stands it is replaced and passed over, elsewhere a
character is kept. Two replacements can change places if neither needle ever touches the other, nor what comes in place
of the other (`replaceAll_comm`); then neither makes the other's needle appear or disappear, either
(`infix_replaceAll_iff`).

That a needle never touches a part (`Apart`) is said of all texts in which the part stands. It is so of two needles of
one length that have a mark in front and nowhere else, and of such a needle and a text that is without the mark and
starts with a character that the needle is without.

Cutting at one character is splitting a list at an element (`piecesFrom_eq_splitOn`), so it undoes joining by that
character (`pieces_joinWith`).
-/

set_option autoImplicit false

namespace DynamicBlocks.Text

/-! ## Replacing step by step -/

/-- A text starts with another exactly if this is a prefix of it. -/
theorem startsWith_iff {needle text : List Char} : startsWith needle text = true ↔ needle <+: text := by
  unfold startsWith
  rw [Option.isSome_iff_exists]
  constructor
  · rintro ⟨rest, h⟩
    exact ⟨rest, (dropPhrase?_eq_some.mp h).symm⟩
  · rintro ⟨rest, h⟩
    exact ⟨rest, dropPhrase?_eq_some.mpr h.symm⟩

/-- A text occurs in another exactly if it is an infix of it. -/
theorem occursIn_iff {needle text : List Char} : occursIn needle text = true ↔ needle <:+: text := by
  induction text with
  | nil => simp [occursIn]
  | cons c text ih => rw [occursIn, Bool.or_eq_true, startsWith_iff, ih, List.infix_cons_iff]

/-- There is always a first piece. -/
theorem piecesFrom_ne_nil (needle : List Char) (skip : Nat) (piece text : List Char) :
    piecesFrom needle skip piece text ≠ [] := by
  induction text generalizing skip piece with
  | nil => simp [piecesFrom]
  | cons c text ih =>
    cases skip with
    | succ skip => exact ih skip piece
    | zero =>
      unfold piecesFrom
      split
      · exact List.cons_ne_nil _ _
      · exact ih 0 (c :: piece)

/-- The piece under way stands in front of what is joined. -/
theorem joinWith_piecesFrom (needle replacement : List Char) (skip : Nat) (piece text : List Char) :
    joinWith replacement (piecesFrom needle skip piece text) =
      piece.reverse ++ joinWith replacement (piecesFrom needle skip [] text) := by
  induction text generalizing skip piece with
  | nil => simp [piecesFrom, joinWith]
  | cons c text ih =>
    cases skip with
    | succ skip => exact ih skip piece
    | zero =>
      unfold piecesFrom
      split
      · rw [joinWith_cons _ _ (piecesFrom_ne_nil _ _ _ _), joinWith_cons _ _ (piecesFrom_ne_nil _ _ _ _)]
        simp
      · rw [ih 0 (c :: piece), ih 0 [c]]
        simp

/-- Characters that are skipped are in no piece. -/
theorem piecesFrom_append (needle piece skipped text : List Char) :
    piecesFrom needle skipped.length piece (skipped ++ text) = piecesFrom needle 0 piece text := by
  induction skipped with
  | nil => rfl
  | cons c skipped ih => exact ih

section Steps

variable {needle : List Char} (replacement : List Char)

/-- Replacing is cutting the text into pieces and joining them with the replacement. -/
theorem replaceAll_eq (some_char : needle ≠ []) (text : List Char) :
    replaceAll needle replacement text = joinWith replacement (piecesFrom needle 0 [] text) := by
  unfold replaceAll pieces
  rw [if_neg (by simpa using some_char)]

/-- In an empty text nothing is replaced. -/
theorem replaceAll_nil (some_char : needle ≠ []) : replaceAll needle replacement [] = [] := by
  rw [replaceAll_eq replacement some_char]
  rfl

/-- Where the needle stands it is replaced. -/
theorem replaceAll_append (some_char : needle ≠ []) (text : List Char) :
    replaceAll needle replacement (needle ++ text) = replacement ++ replaceAll needle replacement text := by
  rw [replaceAll_eq replacement some_char, replaceAll_eq replacement some_char]
  have hstarts : startsWith needle (needle ++ text) = true := startsWith_iff.mpr (List.prefix_append _ _)
  obtain ⟨c, cs, rfl⟩ := List.exists_cons_of_ne_nil some_char
  rw [List.cons_append] at hstarts ⊢
  rw [piecesFrom, if_pos hstarts, joinWith_cons _ _ (piecesFrom_ne_nil _ _ _ _)]
  have hskip : (c :: cs).length - 1 = cs.length := rfl
  rw [hskip, piecesFrom_append]
  rfl

/-- Elsewhere a character is kept. -/
theorem replaceAll_cons (some_char : needle ≠ []) {c : Char} {text : List Char} (other : ¬needle <+: c :: text) :
    replaceAll needle replacement (c :: text) = c :: replaceAll needle replacement text := by
  rw [replaceAll_eq replacement some_char, replaceAll_eq replacement some_char]
  rw [piecesFrom, if_neg fun starts => other (startsWith_iff.mp starts), joinWith_piecesFrom]
  rfl

end Steps

/-- A needle does not stand in front where another character does. -/
theorem not_prefix_of_ne {mark c : Char} {needle text : List Char} (other : c ≠ mark) : ¬mark :: needle <+: c :: text :=
  fun starts => other (List.cons_prefix_cons.mp starts).1.symm

section Mark

variable {mark : Char} {cs : List Char} (absent : mark ∉ cs) (needle : List Char)
include absent

/-- Characters without the first one of the needle are kept. -/
theorem replaceAll_append_of_notMem (replacement text : List Char) :
    replaceAll (mark :: needle) replacement (cs ++ text) = cs ++ replaceAll (mark :: needle) replacement text := by
  induction cs with
  | nil => rfl
  | cons c cs ih =>
    rw [List.mem_cons, not_or] at absent
    rw [List.cons_append, replaceAll_cons replacement (List.cons_ne_nil _ _) (not_prefix_of_ne (Ne.symm absent.1)),
      ih absent.2, List.cons_append]

/-- Behind characters without its first one the needle is where it is without them. -/
theorem infix_append_iff_of_notMem (text : List Char) : mark :: needle <:+: cs ++ text ↔ mark :: needle <:+: text := by
  induction cs with
  | nil => rfl
  | cons c cs ih =>
    rw [List.mem_cons, not_or] at absent
    rw [List.cons_append, List.infix_cons_iff, ih absent.2]
    exact or_iff_right (not_prefix_of_ne (Ne.symm absent.1))

end Mark

/-- What holds of the empty text, of a text behind a needle and of a text behind another character holds of all
texts. -/
@[elab_as_elim]
theorem scan_induction {needle : List Char} (some_char : needle ≠ []) {motive : List Char → Prop} (nil : motive [])
    (found : ∀ text, motive text → motive (needle ++ text))
    (kept : ∀ c text, ¬needle <+: c :: text → motive text → motive (c :: text)) (text : List Char) : motive text := by
  induction hlength : text.length using Nat.strong_induction_on generalizing text with
  | _ length ih =>
    subst hlength
    cases text with
    | nil => exact nil
    | cons c text =>
      by_cases starts : needle <+: c :: text
      · obtain ⟨rest, hrest⟩ := starts
        have hshort : rest.length < (c :: text).length := by
          have hpos : 0 < needle.length := List.length_pos_iff.mpr some_char
          rw [← hrest, List.length_append]
          omega
        rw [← hrest]
        exact found rest (ih rest.length hshort rest rfl)
      · exact kept c text starts (ih text.length (Nat.lt_succ_self _) text rfl)

/-! ## Cut at one character and joined again -/

/-- A separator of one character is in none of the pieces. -/
theorem notMem_of_mem_piecesFrom {c : Char} {piece cs : List Char} (clean : c ∉ piece) :
    ∀ part ∈ piecesFrom [c] 0 piece cs, c ∉ part := by
  induction cs generalizing piece with
  | nil =>
    intro part there
    rw [List.mem_singleton.mp there, List.mem_reverse]
    exact clean
  | cons d cs ih =>
    unfold piecesFrom
    split
    · intro part there
      rcases List.mem_cons.mp there with rfl | behind
      · rw [List.mem_reverse]
        exact clean
      · exact ih List.not_mem_nil part behind
    · rename_i other
      have differs : c ≠ d := fun same => other (startsWith_iff.mpr (same ▸ List.prefix_append [c] cs))
      exact ih (not_or.mpr ⟨differs, clean⟩ ∘ List.mem_cons.mp)

/-- What is cut at a character is without it. -/
theorem notMem_of_mem_split {c : Char} {separator : String} (single : separator.toList = [c]) {text piece : String}
    (there : piece ∈ split separator text) : c ∉ piece.toList := by
  obtain ⟨cs, among, rfl⟩ := List.mem_map.mp there
  rw [single] at among
  rw [String.toList_ofList]
  exact notMem_of_mem_piecesFrom List.not_mem_nil cs among

/-- Joining pieces is what the library calls intercalating. -/
theorem joinWith_eq_intercalate (separator : List Char) (pieces : List (List Char)) :
    joinWith separator pieces = separator.intercalate pieces := by
  induction pieces with
  | nil => rfl
  | cons piece pieces ih =>
    cases pieces with
    | nil => rw [List.intercalate_singleton, joinWith]
    | cons next pieces => rw [List.intercalate_cons_cons, ← ih, joinWith]; simp

/-- A separator of one character cuts where that character is. -/
theorem piecesFrom_eq_splitOn (c : Char) (piece cs : List Char) :
    piecesFrom [c] 0 piece cs = (cs.splitOn c).modifyHead (piece.reverse ++ ·) := by
  induction cs generalizing piece with
  | nil => simp [piecesFrom, List.splitOn_eq_splitOnP]
  | cons d cs ih =>
    have starts : startsWith [c] (d :: cs) = (d == c) := by
      rw [Bool.eq_iff_iff, startsWith_iff, List.cons_prefix_cons, beq_iff_eq]
      exact ⟨fun here => here.1.symm, fun same => ⟨same.symm, List.nil_prefix⟩⟩
    rw [List.splitOn_eq_splitOnP, List.splitOnP_cons_eq_if_modifyHead, ← List.splitOn_eq_splitOnP]
    unfold piecesFrom
    rw [starts]
    split
    · show piece.reverse :: piecesFrom [c] 0 [] cs = [piece.reverse ++ []] ++ cs.splitOn c
      rw [ih [], List.append_nil, List.singleton_append]
      congr 1
      exact congrFun List.modifyHead_id _
    · rw [ih (d :: piece), List.modifyHead_modifyHead, List.reverse_cons]
      congr 1
      funext rest
      exact List.append_assoc _ _ _

/-- Pieces without the separator are cut where they were joined. -/
theorem pieces_joinWith {c : Char} {parts : List (List Char)} (some_part : parts ≠ []) (clean : ∀ part ∈ parts, c ∉ part) :
    pieces [c] (joinWith [c] parts) = parts := by
  unfold pieces
  rw [if_neg (by simp), piecesFrom_eq_splitOn, joinWith_eq_intercalate, List.splitOn_intercalate c clean some_part]
  cases parts <;> rfl

/-- A text without the separator is one piece. -/
theorem split_of_notMem {c : Char} {separator text : String} (single : separator.toList = [c]) (clean : c ∉ text.toList) :
    split separator text = [text] := by
  have whole : pieces [c] text.toList = [text.toList] :=
    pieces_joinWith (List.cons_ne_nil _ _) (List.forall_mem_singleton.mpr clean)
  unfold split
  rw [single, whole, List.map_singleton, String.ofList_toList]

/-! ## Needles that never touch a part -/

/-- Whether, wherever the part stands in a text, the needle stands before it or behind it. -/
def Apart (needle part : List Char) : Prop :=
  ∀ front back front' back', front ++ part ++ back = front' ++ needle ++ back' →
    front'.length + needle.length ≤ front.length ∨ front.length + part.length ≤ front'.length

section Apart

variable {needle part : List Char}

/-- In front of a part there is no needle that reaches into it. -/
theorem Apart.not_prefix (apart : Apart needle part) (some_char : needle ≠ []) {front back : List Char}
    (same : part = front ++ back) (some_back : back ≠ []) (text : List Char) : ¬needle <+: back ++ text := by
  rintro ⟨rest, hrest⟩
  have hpos : 0 < needle.length := List.length_pos_iff.mpr some_char
  have hback : 0 < back.length := List.length_pos_iff.mpr some_back
  have happart := apart [] text front rest (by rw [same]; simp [← hrest])
  rw [same, List.length_append, List.length_nil] at happart
  omega

/-- A part that no needle touches is kept. -/
theorem Apart.replaceAll_append (apart : Apart needle part) (some_char : needle ≠ []) (replacement text : List Char) :
    replaceAll needle replacement (part ++ text) = part ++ replaceAll needle replacement text := by
  have hmore (front back : List Char) (same : part = front ++ back) :
      replaceAll needle replacement (back ++ text) = back ++ replaceAll needle replacement text := by
    induction back generalizing front with
    | nil => rfl
    | cons c back ih =>
      have hother : ¬needle <+: c :: (back ++ text) := apart.not_prefix some_char same (List.cons_ne_nil c back) text
      rw [List.cons_append, replaceAll_cons replacement some_char hother, ih (front ++ [c]) (by simpa using same)]
      rfl
  exact hmore [] part rfl

/-- Behind a part that it does not touch the needle is where it is without the part. -/
theorem Apart.infix_append_iff (apart : Apart needle part) (some_char : needle ≠ []) (text : List Char) :
    needle <:+: part ++ text ↔ needle <:+: text := by
  constructor
  · rintro ⟨front, back, h⟩
    have hpos : 0 < needle.length := List.length_pos_iff.mpr some_char
    have happart := apart [] text front back h.symm
    rw [List.length_nil] at happart
    obtain ⟨more, rfl⟩ : part <+: front := by
      have hpart : part <+: part ++ text := List.prefix_append _ _
      have hfront : front <+: part ++ text := ⟨needle ++ back, by rw [← h, List.append_assoc]⟩
      exact List.prefix_of_prefix_length_le hpart hfront (by omega)
    exact ⟨more, back, by simpa using h⟩
  · exact fun h => h.trans (List.suffix_append part text).isInfix

/-- What comes in place of another needle does not make a needle appear behind a kept character. -/
theorem Apart.prefix_of_prefix_replaceAll {other replacement : List Char} (apart : Apart needle replacement)
    (some_char : other ≠ []) {front : List Char} (some_front : front ≠ []) {text : List Char}
    (h : needle <+: front ++ replaceAll other replacement text) : needle <+: front ++ text := by
  induction text using scan_induction some_char generalizing front with
  | nil =>
    rw [replaceAll_nil replacement some_char] at h
    exact h
  | found text =>
    rw [Text.replaceAll_append replacement some_char] at h
    obtain ⟨back, hback⟩ := h
    have hpos : 0 < front.length := List.length_pos_iff.mpr some_front
    have happart := apart front (replaceAll other replacement text) [] back (by simpa using hback.symm)
    rw [List.length_nil] at happart
    have hneedle : needle <+: front ++ (replacement ++ replaceAll other replacement text) := ⟨back, hback⟩
    have hprefix : needle <+: front :=
      List.prefix_of_prefix_length_le hneedle (List.prefix_append _ _) (by omega)
    exact hprefix.trans (List.prefix_append _ _)
  | kept c text notHere ih =>
    rw [replaceAll_cons replacement some_char notHere, List.append_cons] at h
    rw [List.append_cons]
    exact ih (by simp) h

/-- A position within the middle part is a position of this part. -/
theorem getElem?_middle (front part back : List Char) {k : Nat} (low : front.length ≤ k)
    (high : k < front.length + part.length) : (front ++ part ++ back)[k]? = part[k - front.length]? := by
  rw [List.append_assoc, List.getElem?_append_right low, List.getElem?_append_left (by omega)]

/-- Two needles of one length that have a mark in front and nowhere else do not touch. -/
theorem apart_of_marked {mark : Char} {cs ds : List Char} (absent : mark ∉ cs) (absent' : mark ∉ ds)
    (sameLength : cs.length = ds.length) (different : cs ≠ ds) : Apart (mark :: cs) (mark :: ds) := by
  intro front back front' back' same
  by_contra overlap
  simp only [List.length_cons] at overlap
  -- Whichever needle starts first, the mark of the other would be inside it.
  have hmark {needle : List Char} {front back : List Char} :
      (front ++ mark :: needle ++ back)[front.length]? = some mark := by
    rw [getElem?_middle _ _ _ (le_refl _) (by simp), Nat.sub_self]
    rfl
  rcases Nat.lt_trichotomy front.length front'.length with behind | level | before
  · have hinside := getElem?_middle front (mark :: ds) back (le_of_lt behind) (by simp; omega)
    rw [same, hmark] at hinside
    obtain ⟨k, hk⟩ : ∃ k, front'.length - front.length = k + 1 := ⟨front'.length - front.length - 1, by omega⟩
    rw [hk, List.getElem?_cons_succ] at hinside
    exact absent' (List.mem_of_getElem? hinside.symm)
  · have hparts := (List.append_inj same (by simp [level, sameLength])).1
    exact different (List.cons.inj (List.append_inj hparts level).2).2.symm
  · have hinside := getElem?_middle front' (mark :: cs) back' (le_of_lt before) (by simp; omega)
    rw [← same, hmark] at hinside
    obtain ⟨k, hk⟩ : ∃ k, front.length - front'.length = k + 1 := ⟨front.length - front'.length - 1, by omega⟩
    rw [hk, List.getElem?_cons_succ] at hinside
    exact absent (List.mem_of_getElem? hinside.symm)

/-- A needle with a mark in front does not touch a text that is without the mark and starts with no character of the
needle. -/
theorem apart_of_head {mark d : Char} {cs ds : List Char} (absent : mark ∉ d :: ds) (other : d ∉ cs) :
    Apart (mark :: cs) (d :: ds) := by
  intro front back front' back' same
  by_contra overlap
  simp only [List.length_cons] at overlap
  rcases Nat.lt_or_ge front'.length front.length with before | behind
  · have hinside := getElem?_middle front' (mark :: cs) back' (le_of_lt before) (by simp; omega)
    rw [← same, getElem?_middle _ _ _ (le_refl _) (by simp), Nat.sub_self, List.getElem?_cons_zero] at hinside
    obtain ⟨k, hk⟩ : ∃ k, front.length - front'.length = k + 1 := ⟨front.length - front'.length - 1, by omega⟩
    rw [hk, List.getElem?_cons_succ] at hinside
    exact other (List.mem_of_getElem? hinside.symm)
  · have hinside := getElem?_middle front (d :: ds) back behind (by simp; omega)
    rw [same, getElem?_middle _ _ _ (le_refl _) (by simp), Nat.sub_self, List.getElem?_cons_zero] at hinside
    exact absent (List.mem_of_getElem? hinside.symm)

end Apart

/-! ## Two replacements -/

section Two

variable {needle other replacement replacement' : List Char}

/-- A replacement makes no needle appear or disappear that touches neither what is replaced nor what comes in its
place. -/
theorem infix_replaceAll_iff (some_char : needle ≠ []) (some_char' : other ≠ []) (apart : Apart needle other)
    (apart' : Apart other needle) (apartText : Apart needle replacement) (text : List Char) :
    needle <:+: replaceAll other replacement text ↔ needle <:+: text := by
  induction text using scan_induction some_char' with
  | nil => rw [replaceAll_nil replacement some_char']
  | found text ih =>
    rw [Text.replaceAll_append replacement some_char', apartText.infix_append_iff some_char,
      apart.infix_append_iff some_char, ih]
  | kept c text notHere ih =>
    rw [replaceAll_cons replacement some_char' notHere, List.infix_cons_iff, List.infix_cons_iff, ih]
    constructor
    · rintro (here | later)
      · left
        exact apartText.prefix_of_prefix_replaceAll some_char' (List.cons_ne_nil c []) here
      · exact .inr later
    · rintro (⟨rest, hrest⟩ | later)
      · -- The needle that stands here is kept, for the other touches none of it.
        left
        have hkept := apart'.replaceAll_append some_char' replacement rest
        rw [hrest, replaceAll_cons replacement some_char' notHere] at hkept
        exact ⟨_, hkept.symm⟩
      · exact .inr later

/-- Two replacements can change places if neither needle touches the other or what comes in its place. -/
theorem replaceAll_comm (some_char : needle ≠ []) (some_char' : other ≠ []) (apart : Apart needle other)
    (apart' : Apart other needle) (apartText : Apart needle replacement') (apartText' : Apart other replacement)
    (text : List Char) :
    replaceAll needle replacement (replaceAll other replacement' text) =
      replaceAll other replacement' (replaceAll needle replacement text) := by
  induction hlength : text.length using Nat.strong_induction_on generalizing text with
  | _ length ih =>
    subst hlength
    have hshort {found rest : List Char} (some_found : found ≠ []) (same : found ++ rest = text) :
        rest.length < text.length := by
      have hpos : 0 < found.length := List.length_pos_iff.mpr some_found
      rw [← same, List.length_append]
      omega
    -- At the start stands one needle, or the other, or a character that neither replacement changes.
    by_cases starts : needle <+: text
    · obtain ⟨rest, rfl⟩ := starts
      rw [apart'.replaceAll_append some_char', Text.replaceAll_append replacement some_char,
        Text.replaceAll_append replacement some_char, apartText'.replaceAll_append some_char',
        ih rest.length (hshort some_char rfl) rest rfl]
    · by_cases starts' : other <+: text
      · obtain ⟨rest, rfl⟩ := starts'
        rw [apart.replaceAll_append some_char, Text.replaceAll_append replacement' some_char',
          Text.replaceAll_append replacement' some_char', apartText.replaceAll_append some_char,
          ih rest.length (hshort some_char' rfl) rest rfl]
      · cases text with
        | nil =>
          rw [replaceAll_nil replacement some_char, replaceAll_nil replacement' some_char',
            replaceAll_nil replacement some_char]
        | cons c rest =>
          have hone : [c] ≠ [] := List.cons_ne_nil c []
          have hkept : ¬needle <+: c :: replaceAll other replacement' rest :=
            fun h => starts (apartText.prefix_of_prefix_replaceAll some_char' hone h)
          have hkept' : ¬other <+: c :: replaceAll needle replacement rest :=
            fun h => starts' (apartText'.prefix_of_prefix_replaceAll some_char hone h)
          rw [replaceAll_cons replacement' some_char' starts', replaceAll_cons replacement some_char hkept,
            replaceAll_cons replacement some_char starts, replaceAll_cons replacement' some_char' hkept',
            ih rest.length (Nat.lt_succ_self _) rest rfl]

end Two

end DynamicBlocks.Text
