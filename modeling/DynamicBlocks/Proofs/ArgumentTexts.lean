import DynamicBlocks.Json.Reader
import DynamicBlocks.Proofs.JoinedArguments

/-!
# Texts of arguments

Values written as JSON are arguments that can be joined and split again, and so are quoted texts, names, and calls of
such arguments, which may be nested (`ArgumentText`). JSON is read character by character, and each part of it that is
taken leaves as many brackets open as it found, or one less where it is the rest of a list or of a mapping
(`Json.Crosses`).
-/

set_option autoImplicit false

namespace DynamicBlocks

open Text

/-! ## JSON -/

namespace Json

/-- Characters in front of others that lead from some open brackets to others, whatever is open around them. -/
def Crosses (opened left : Nat) (cs rest : List Char) : Prop :=
  ∃ taken, cs = taken ++ rest ∧ ∀ level, opened? (level + opened) taken = some (level + left)

namespace Crosses

variable {opened middle left : Nat} {cs ds rest : List Char}

/-- A text is crossed nowhere without a step. -/
theorem refl : Crosses opened opened cs cs :=
  ⟨[], rfl, fun _ => rfl⟩

/-- A text crossed up to a place and from there on is crossed as a whole. -/
theorem trans (front : Crosses opened middle cs ds) (behind : Crosses middle left ds rest) :
    Crosses opened left cs rest := by
  obtain ⟨first, rfl, opens⟩ := front
  obtain ⟨second, rfl, closes⟩ := behind
  exact ⟨first ++ second, (List.append_assoc ..).symm, fun level => opened?_append (opens level) (closes level)⟩

/-- Within a bracket more the same characters lead to as much more. -/
theorem succ (crosses : Crosses opened left cs rest) : Crosses (opened + 1) (left + 1) cs rest := by
  obtain ⟨taken, same, opens⟩ := crosses
  exact ⟨taken, same, fun level => opened?_succ (opens level)⟩

/-- No backslash is left where there was none. -/
theorem unescaped (crosses : Crosses opened left cs rest) (unescaped : Unescaped cs) : Unescaped rest := by
  obtain ⟨taken, rfl, _⟩ := crosses
  exact List.IsChain.right_of_append unescaped

/-- Characters that are no signs of arguments are crossed, whatever stands open. -/
theorem of_plain {taken : List Char} (plain : ∀ c ∈ taken, c ∉ argumentSigns) : Crosses opened opened (taken ++ rest) rest :=
  ⟨taken, rfl, fun level => opened?_of_plain plain (level + opened)⟩

/-- So is one such character. -/
theorem char {c : Char} (plain : c ∉ argumentSigns) : Crosses opened opened (c :: rest) rest :=
  @of_plain opened rest [c] (List.forall_mem_singleton.mpr plain)

/-- So are characters that are dropped, if no sign is among them. -/
theorem dropWhile {passes : Char → Bool} (plain : argumentSigns.all (fun sign => !passes sign) = true) :
    Crosses opened opened cs (cs.dropWhile passes) := by
  have crosses : Crosses opened opened (cs.takeWhile passes ++ cs.dropWhile passes) (cs.dropWhile passes) :=
    of_plain fun c there => notMem_of_all_not plain (List.mem_takeWhile_imp there)
  rwa [List.takeWhile_append_dropWhile] at crosses

/-- So are blanks. -/
theorem spaces : Crosses opened opened cs (skipSpaces cs) :=
  dropWhile (by decide)

/-- An opening bracket is crossed and left open. -/
theorem opening {c : Char} (isOpening : c = '(' ∨ c = '[' ∨ c = '\x7b') : Crosses opened (opened + 1) (c :: rest) rest := by
  refine ⟨[c], rfl, fun level => ?_⟩
  rcases isOpening with rfl | rfl | rfl <;> rfl

/-- A closing bracket closes the one that stands open. -/
theorem closing {c : Char} (isClosing : c = ')' ∨ c = ']' ∨ c = '\x7d') : Crosses (opened + 1) opened (c :: rest) rest := by
  refine ⟨[c], rfl, fun level => ?_⟩
  rcases isClosing with rfl | rfl | rfl <;> rfl

/-- A comma is crossed within brackets. -/
theorem comma : Crosses (opened + 1) (opened + 1) (',' :: rest) rest :=
  ⟨[','], rfl, fun _ => rfl⟩

end Crosses

/-- A code unit is taken in digits, among which there is no quote. -/
theorem takeUnit?_eq_some {cs rest : List Char} {unit : Nat} (taken : takeUnit? cs = some (unit, rest)) :
    ∃ digits, cs = digits ++ rest ∧ '"' ∉ digits := by
  have quoteless {c : Char} {n : Nat} (digit : hexValue? c = some n) : '"' ≠ c := by
    rintro rfl
    cases digit
  unfold takeUnit? at taken
  split at taken
  · rename_i a b c d behind
    obtain ⟨_, first, taken⟩ := Option.bind_eq_some_iff.mp taken
    obtain ⟨_, second, taken⟩ := Option.bind_eq_some_iff.mp taken
    obtain ⟨_, third, taken⟩ := Option.bind_eq_some_iff.mp taken
    obtain ⟨_, fourth, taken⟩ := Option.bind_eq_some_iff.mp taken
    cases taken
    refine ⟨[a, b, c, d], rfl, ?_⟩
    simp [quoteless first, quoteless second, quoteless third, quoteless fourth]
  · cases taken

/-- An escape by code takes no quote. -/
theorem takeCode?_eq_some {cs rest : List Char} {char : Char} (taken : takeCode? cs = some (char, rest)) :
    ∃ code, cs = code ++ rest ∧ '"' ∉ code := by
  obtain ⟨⟨high, behind⟩, first, coded⟩ := Option.bind_eq_some_iff.mp taken
  clear taken
  obtain ⟨digits, rfl, plain⟩ := takeUnit?_eq_some first
  have single {c : Char} (same : (c, behind) = (char, rest)) : ∃ code, digits ++ behind = code ++ rest ∧ '"' ∉ code :=
    ⟨digits, by rw [(Prod.mk.inj same).2], plain⟩
  dsimp only at coded
  split at coded
  · split at coded
    · rename_i low after second
      obtain ⟨others, rfl, plainOthers⟩ := takeUnit?_eq_some second
      split at coded
      · obtain ⟨-, rfl⟩ := Prod.mk.inj (Option.some.inj coded)
        exact ⟨digits ++ '\\' :: 'u' :: others, by simp, by simp [plain, plainOthers]⟩
      · exact single (Option.some.inj coded)
    · exact single (Option.some.inj coded)
  · exact single (Option.some.inj coded)

/-- A string goes to the first quote, if none stands behind a backslash. -/
theorem takeString?_eq_some {steps : Nat} {cs chars rest : List Char} (unescaped : Unescaped cs)
    (taken : takeString? steps cs = some (chars, rest)) : ∃ inner, cs = inner ++ '"' :: rest ∧ '"' ∉ inner := by
  induction steps generalizing cs chars with
  | zero => cases cs <;> cases taken
  | succ steps ih =>
    -- What is taken in front of the rest of the string holds no quote.
    have further {front behind others : List Char} (plain : '"' ∉ front) (shape : cs = front ++ behind)
        (taken : takeString? steps behind = some (others, rest)) : ∃ inner, cs = inner ++ '"' :: rest ∧ '"' ∉ inner := by
      obtain ⟨inner, rfl, inside⟩ := ih (List.IsChain.right_of_append (shape ▸ unescaped)) taken
      exact ⟨front ++ inner, by rw [shape, List.append_assoc], by simp [plain, inside]⟩
    unfold takeString? at taken
    cases cs with
    | nil => cases taken
    | cons c cs =>
      dsimp only at taken
      split_ifs at taken with closes control escapes
      · cases taken
        exact ⟨[], by rw [closes]; rfl, List.not_mem_nil⟩
      · obtain rfl := escapes
        split at taken
        · cases taken
        · obtain ⟨⟨char, behind⟩, coded, taken⟩ := Option.bind_eq_some_iff.mp taken
          obtain ⟨⟨others, _⟩, string, same⟩ := Option.bind_eq_some_iff.mp taken
          cases same
          obtain ⟨code, rfl, plain⟩ := takeCode?_eq_some coded
          exact @further ('\\' :: 'u' :: code) _ _ (by simp [plain]) rfl string
        · rename_i e more _
          obtain ⟨char, _, taken⟩ := Option.bind_eq_some_iff.mp taken
          obtain ⟨⟨others, _⟩, string, same⟩ := Option.bind_eq_some_iff.mp taken
          cases same
          have unquoted : e ≠ '"' := ((List.isChain_cons_cons.mp unescaped).1 rfl).1
          exact @further ['\\', e] _ _ (by simp [Ne.symm unquoted]) rfl string
      · obtain ⟨⟨others, _⟩, string, same⟩ := Option.bind_eq_some_iff.mp taken
        cases same
        exact @further [c] _ _ (by simpa using Ne.symm closes) rfl string

/-- A JSON string is crossed as quoted text. -/
theorem Crosses.string {steps opened : Nat} {cs chars rest : List Char} (unescaped : Unescaped cs)
    (taken : takeString? steps cs = some (chars, rest)) : Crosses opened opened ('"' :: cs) rest := by
  obtain ⟨inner, rfl, inside⟩ := takeString?_eq_some unescaped taken
  refine ⟨'"' :: inner ++ ['"'], by simp, fun level => opened?_quoted (.inl rfl) inside _⟩

/-- A constant of JSON is crossed. -/
theorem Crosses.constant {opened : Nat} {cs rest : List Char} {v : Value} (taken : takeConstant? cs = some (v, rest)) :
    Crosses opened opened cs rest := by
  obtain ⟨word, there, read⟩ := List.exists_of_findSome?_eq_some taken
  obtain ⟨after, found, same⟩ := Option.map_eq_some_iff.mp read
  cases same
  have plain : ∀ c ∈ word.1.toList, c ∉ argumentSigns := by
    simp only [List.mem_cons, List.not_mem_nil, or_false] at there
    rcases there with rfl | rfl | rfl | rfl | rfl | rfl <;> simp [argumentSigns]
  unfold takeWord? at found
  split at found
  · rename_i starts
    obtain ⟨behind, rfl⟩ := List.isPrefixOf_iff_prefix.mp starts
    obtain rfl := Option.some.inj found
    rw [← String.length_toList, List.drop_left]
    exact .of_plain plain
  · cases found

namespace Crosses

variable {opened : Nat}

/-- Digits are crossed. -/
theorem digits (cs : List Char) : Crosses opened opened cs (cs.dropWhile Char.isDigit) :=
  dropWhile (by decide)

/-- So is a sign. -/
theorem sign (cs : List Char) : Crosses opened opened cs (takeSign cs).2 := by
  unfold takeSign
  split
  · exact .char (by decide)
  · exact .char (by decide)
  · exact .refl

/-- So is a whole number. -/
theorem whole {cs rest digits : List Char} (taken : takeWhole? cs = some (digits, rest)) :
    Crosses opened opened cs rest := by
  unfold takeWhole? at taken
  split at taken
  · cases taken
    exact .char (by decide)
  · dsimp only at taken
    split at taken
    · cases taken
    · cases taken
      exact .digits _

/-- So is a fraction. -/
theorem fraction (cs : List Char) : Crosses opened opened cs (takeFraction cs).2 := by
  unfold takeFraction
  split
  · dsimp only
    split
    · exact .refl
    · exact (Crosses.char (by decide)).trans (.digits _)
  · exact .refl

/-- So is an exponent. -/
theorem power (cs : List Char) : Crosses opened opened cs (takePower cs).2 := by
  unfold takePower
  split
  · exact .refl
  · rename_i mark rest
    split
    · rename_i letter
      dsimp only
      split
      · exact .refl
      · have marked : Crosses opened opened (mark :: rest) rest :=
          .char (by rcases letter with rfl | rfl <;> decide)
        exact marked.trans ((sign rest).trans (.digits _))
    · exact .refl

/-- So is a number of JSON. -/
theorem number {cs rest : List Char} {v : Value} (taken : takeNumber? cs = some (v, rest)) :
    Crosses opened opened cs rest := by
  unfold takeNumber? at taken
  simp only [Option.bind_eq_bind, Option.bind_eq_some_iff] at taken
  obtain ⟨⟨digits, behind⟩, whole, taken⟩ := taken
  have signed : Crosses opened opened cs behind := by
    split at whole
    · exact (Crosses.char (by decide)).trans (.whole whole)
    · exact .whole whole
  have number : Crosses opened opened cs (takePower (takeFraction behind).2).2 :=
    signed.trans ((fraction _).trans (power _))
  split at taken <;> (cases taken; exact number)

end Crosses

/-- What is read at a depth leaves as many brackets open as it found; the rest of a list or of a mapping closes one. -/
structure CrossesAt (depth : Nat) : Prop where
  value {cs : List Char} {v : Value} {rest : List Char} (unescaped : Unescaped cs)
    (taken : takeValue? depth cs = some (v, rest)) : Crosses 0 0 cs rest
  items {cs : List Char} {items : List Value} {rest : List Char} (unescaped : Unescaped cs)
    (taken : takeItems? depth cs = some (items, rest)) : Crosses 1 0 cs rest
  members {cs : List Char} {pairs : List (Value × Value)} {rest : List Char} (unescaped : Unescaped cs)
    (taken : takeMembers? depth cs = some (pairs, rest)) : Crosses 1 0 cs rest

namespace CrossesAt

variable {depth : Nat} (below : CrossesAt depth) {cs rest : List Char} (unescaped : Unescaped cs)
include below unescaped

/-- A value of JSON is crossed, if lists and objects in it are: one step of the induction on the nesting. -/
theorem value_succ {v : Value} (taken : takeValue? (depth + 1) cs = some (v, rest)) : Crosses 0 0 cs rest := by
  unfold takeValue? at taken
  split at taken
  · cases taken
  · obtain ⟨_, string, taken⟩ := Option.bind_eq_some_iff.mp taken
    cases taken
    exact .string unescaped.of_cons string
  · rename_i inner
    have opens : Crosses 0 1 ('[' :: inner) (skipSpaces inner) := (Crosses.opening (.inr (.inl rfl))).trans .spaces
    split at taken
    · rename_i spaces
      cases taken
      rw [spaces] at opens
      exact opens.trans (.closing (.inr (.inl rfl)))
    · obtain ⟨⟨items, _⟩, read, taken⟩ := Option.bind_eq_some_iff.mp taken
      cases taken
      exact opens.trans (below.items (opens.unescaped unescaped) read)
  · rename_i inner
    have opens : Crosses 0 1 ('\x7b' :: inner) (skipSpaces inner) := (Crosses.opening (.inr (.inr rfl))).trans .spaces
    split at taken
    · rename_i spaces
      cases taken
      rw [spaces] at opens
      exact opens.trans (.closing (.inr (.inr rfl)))
    · obtain ⟨⟨pairs, _⟩, read, taken⟩ := Option.bind_eq_some_iff.mp taken
      cases taken
      exact opens.trans (below.members (opens.unescaped unescaped) read)
  · rcases Option.or_eq_some_iff.mp taken with constant | ⟨_, number⟩
    · exact .constant constant
    · exact .number number

/-- The rest of a list is crossed up to its closing bracket. -/
theorem items_succ {items : List Value} (taken : takeItems? (depth + 1) cs = some (items, rest)) : Crosses 1 0 cs rest := by
  unfold takeItems? at taken
  obtain ⟨⟨first, after⟩, read, taken⟩ := Option.bind_eq_some_iff.mp taken
  -- The item is read within the bracket of the list, which only the closing one behind the last item leaves.
  have item : Crosses 1 1 cs (skipSpaces after) := (below.value unescaped read).succ.trans .spaces
  dsimp only at taken
  split at taken
  · rename_i spaces
    cases taken
    rw [spaces] at item
    exact item.trans (.closing (.inr (.inl rfl)))
  · rename_i more spaces
    obtain ⟨⟨others, _⟩, read, taken⟩ := Option.bind_eq_some_iff.mp taken
    cases taken
    rw [spaces] at item
    have next := item.trans (Crosses.comma.trans .spaces)
    exact next.trans (below.items (next.unescaped unescaped) read)
  · cases taken

/-- The rest of an object is crossed up to its closing brace. -/
theorem members_succ {pairs : List (Value × Value)} (taken : takeMembers? (depth + 1) cs = some (pairs, rest)) :
    Crosses 1 0 cs rest := by
  unfold takeMembers? at taken
  split at taken
  · obtain ⟨⟨name, after⟩, string, taken⟩ := Option.bind_eq_some_iff.mp taken
    -- Name, colon and value stay within the brace of the mapping, as an item does within the bracket of a list.
    have named : Crosses 1 1 _ _ := (Crosses.string unescaped.of_cons string).trans .spaces
    dsimp only at named taken
    split at taken
    · rename_i more spaces
      rw [spaces] at named
      have behind := named.trans ((Crosses.char (by decide)).trans .spaces)
      obtain ⟨⟨value, after⟩, read, taken⟩ := Option.bind_eq_some_iff.mp taken
      have member := behind.trans ((below.value (behind.unescaped unescaped) read).succ.trans .spaces)
      dsimp only at taken
      split at taken
      · rename_i spaces
        cases taken
        rw [spaces] at member
        exact member.trans (.closing (.inr (.inr rfl)))
      · rename_i more spaces
        obtain ⟨⟨others, _⟩, read, taken⟩ := Option.bind_eq_some_iff.mp taken
        cases taken
        rw [spaces] at member
        have next := member.trans (Crosses.comma.trans .spaces)
        exact next.trans (below.members (next.unescaped unescaped) read)
      · cases taken
    · cases taken
  · cases taken

end CrossesAt

/-- Whatever is read leaves open what is open: an induction on the depth. -/
theorem crossesAt (depth : Nat) : CrossesAt depth := by
  induction depth with
  | zero =>
    constructor
    · intro cs v rest _ taken
      simp [takeValue?] at taken
    · intro cs items rest _ taken
      simp [takeItems?] at taken
    · intro cs pairs rest _ taken
      simp [takeMembers?] at taken
  | succ depth below =>
    exact ⟨fun unescaped taken => below.value_succ unescaped taken, fun unescaped taken => below.items_succ unescaped taken,
      fun unescaped taken => below.members_succ unescaped taken⟩

/-- A text that reads as JSON leaves nothing open. -/
theorem opened?_of_read? {text : String} {v : Value} (unescaped : Unescaped text.toList) (read : read? text = some v) :
    opened? 0 text.toList = some 0 := by
  obtain ⟨⟨w, rest⟩, taken, read⟩ := Option.bind_eq_some_iff.mp read
  dsimp only at read
  split at read
  · rename_i ends
    have front : Crosses 0 0 text.toList (skipSpaces text.toList) := .spaces
    have whole := front.trans (((crossesAt _).value (front.unescaped unescaped) taken).trans .spaces)
    rw [List.isEmpty_iff.mp ends] at whole
    obtain ⟨all, same, opens⟩ := whole
    rw [same, List.append_nil]
    exact opens 0
  · cases read

end Json

/-! ## Texts that are arguments -/

/-- Texts of arguments: names and other texts without signs, JSON, quoted texts, calls of arguments in a row, and what
follows one by a dot. -/
inductive ArgumentText : String → Prop
  | plain {text : String} (filled : text ≠ "") (trimmed : trimChars text.toList = text.toList)
      (unsigned : ∀ c ∈ text.toList, c ∉ argumentSigns) : ArgumentText text
  | json {text : String} {v : Value} (trimmed : trimChars text.toList = text.toList) (unescaped : Unescaped text.toList)
      (read : Json.read? text = some v) : ArgumentText text
  | quoted {mark : Char} (quotes : mark = '"' ∨ mark = '\'') {inner : String} (inside : mark ∉ inner.toList)
      (unescaped : Unescaped (inQuotes mark inner).toList) : ArgumentText (inQuotes mark inner)
  | call {callee : String} {args : List SpacedText} (called : ArgumentText callee)
      (arguments : ∀ arg ∈ args, ArgumentText arg.text) :
      ArgumentText (callee ++ "(" ++ ",".intercalate (args.map SpacedText.whole) ++ ")")
  | dot {front behind : String} (first : ArgumentText front) (second : ArgumentText behind) :
      ArgumentText (front ++ "." ++ behind)

/-- Without blanks around it a text starts and ends with characters that are no blanks. -/
theorem ends_of_trimmed {cs : List Char} (filled : cs ≠ []) (trimmed : trimChars cs = cs) :
    (∃ c rest, cs = c :: rest ∧ isBlank c = false) ∧ ∃ front last, cs = front ++ [last] ∧ isBlank last = false := by
  constructor
  · obtain ⟨c, rest, rfl⟩ := List.exists_cons_of_ne_nil filled
    refine ⟨c, rest, rfl, Bool.eq_false_iff.mpr fun blank => ?_⟩
    have shorter := trimChars_of_blank_around (List.forall_mem_singleton.mpr blank) (List.forall_mem_nil _) rest
    have bound := length_trimChars_le rest
    rw [List.append_nil] at shorter
    rw [← shorter, List.singleton_append, trimmed, List.length_cons] at bound
    omega
  · have split : cs.dropLast ++ [cs.getLast filled] = cs := List.dropLast_concat_getLast filled
    refine ⟨cs.dropLast, cs.getLast filled, split.symm, Bool.eq_false_iff.mpr fun blank => ?_⟩
    have shorter := @trimChars_of_blank_around [] _ (List.forall_mem_nil _) (List.forall_mem_singleton.mpr blank) cs.dropLast
    have bound := length_trimChars_le cs.dropLast
    rw [← shorter, List.nil_append, split, trimmed, List.length_dropLast] at bound
    have some_char := List.length_pos_iff.mpr filled
    omega

/-- What holds of texts, and is kept when two are joined by a comma, holds of all of them joined. -/
theorem toList_intercalate_comma {holds : List Char → Prop} (nil : holds [])
    (glue : ∀ {cs ds}, holds cs → holds ds → holds (cs ++ ',' :: ds)) {texts : List String}
    (each : ∀ text ∈ texts, holds text.toList) : holds (",".intercalate texts).toList := by
  induction texts with
  | nil => exact nil
  | cons text texts ih =>
    have first := each text List.mem_cons_self
    have others := ih fun other there => each other (List.mem_cons_of_mem text there)
    cases texts with
    | nil =>
      rw [String.intercalate_singleton]
      exact first
    | cons next texts =>
      rw [String.intercalate_cons_cons, String.toList_append, String.toList_append, List.append_assoc]
      exact glue first others

/-- Arguments in a row are closed within the brackets of a call. -/
theorem closed_joined {args : List SpacedText} (arguments : ∀ arg ∈ args, IsArgument arg.text) :
    Unescaped (",".intercalate (args.map SpacedText.whole)).toList ∧
      opened? 1 (",".intercalate (args.map SpacedText.whole)).toList = some 1 := by
  have comma : opened? 1 [','] = some 1 := rfl
  refine @toList_intercalate_comma (fun cs => Unescaped cs ∧ opened? 1 cs = some 1) ⟨List.isChain_nil, rfl⟩ ?_ _ ?_
  · rintro cs ds ⟨unescaped, closed⟩ ⟨unescapedBehind, closedBehind⟩
    exact ⟨unescaped.append_cons unescapedBehind (by decide),
      opened?_append closed (opened?_append comma closedBehind)⟩
  · intro text there
    obtain ⟨arg, among, rfl⟩ := List.mem_map.mp there
    have argument := arguments arg among
    exact ⟨SpacedText.unescaped_whole argument.unescaped, SpacedText.opened?_whole (opened?_succ argument.closed)⟩

namespace IsArgument

/-- An argument is not empty. -/
theorem chars_ne_nil {text : String} (argument : IsArgument text) : text.toList ≠ [] :=
  mt String.toList_eq_nil_iff.mp argument.filled

/-- What follows an argument and leaves no blank, no quote behind a backslash and no bracket open makes one argument
with it. -/
theorem append {text whole : String} (argument : IsArgument text) {behind : List Char}
    (chars : whole.toList = text.toList ++ behind)
    (ends : ∃ front last, behind = front ++ [last] ∧ isBlank last = false) (unescaped : Unescaped (text.toList ++ behind))
    (closed : opened? 0 behind = some 0) : IsArgument whole := by
  obtain ⟨⟨c, rest, starts, solid⟩, -⟩ := ends_of_trimmed argument.chars_ne_nil argument.trimmed
  obtain ⟨front, last, rfl, solidLast⟩ := ends
  constructor
  · exact fun empty => by simp [empty] at chars
  · rw [chars]
    exact trimChars_of_ends (by rw [starts, List.cons_append]) solid (List.append_assoc ..).symm solidLast
  · rw [chars]
    exact unescaped
  · rw [chars]
    exact opened?_append argument.closed closed

/-- A call with arguments is an argument. -/
theorem call {callee : String} {args : List SpacedText} (called : IsArgument callee)
    (arguments : ∀ arg ∈ args, IsArgument arg.text) :
    IsArgument (callee ++ "(" ++ ",".intercalate (args.map SpacedText.whole) ++ ")") := by
  obtain ⟨unescaped, closed⟩ := closed_joined arguments
  have opening : opened? 0 ['('] = some 1 := rfl
  have closing : opened? 1 [')'] = some 0 := rfl
  refine called.append ?_ ⟨'(' :: (",".intercalate (args.map SpacedText.whole)).toList, ')', rfl, by decide⟩ ?_ ?_
  · simp [String.toList_append]
  · exact called.unescaped.append_cons (unescaped.append_cons List.isChain_nil (by decide)) (by decide)
  · -- Joined arguments have their commas at level 1, which is why they are closed there and need not be outside.
    have within := opened?_append opening (opened?_append closed closing)
    exact within

/-- Two arguments with a dot between them are an argument. -/
theorem dot {front behind : String} (first : IsArgument front) (second : IsArgument behind) :
    IsArgument (front ++ "." ++ behind) := by
  obtain ⟨-, start, last, ends, solid⟩ := ends_of_trimmed second.chars_ne_nil second.trimmed
  have point : opened? 0 ['.'] = some 0 := rfl
  refine first.append ?_ ⟨'.' :: start, last, congrArg ('.' :: ·) ends, solid⟩ ?_ ?_
  · simp [String.toList_append]
  · exact first.unescaped.append_cons second.unescaped (by decide)
  · exact opened?_append point second.closed

end IsArgument

/-- The texts of arguments are arguments, however deep the calls in them are nested. -/
theorem ArgumentText.isArgument {text : String} (written : ArgumentText text) : IsArgument text := by
  induction written with
  | plain filled trimmed unsigned =>
    have other {c sign : Char} (same : c ∈ _) (among : sign ∈ argumentSigns) : c ≠ sign :=
      fun eq => unsigned c same (eq ▸ among)
    exact ⟨filled, trimmed, unescaped_of_quoteless fun c there => ⟨other there (by decide), other there (by decide)⟩,
      opened?_of_plain unsigned 0⟩
  | json trimmed unescaped read =>
    refine ⟨?_, trimmed, unescaped, Json.opened?_of_read? unescaped read⟩
    rintro rfl
    cases read
  | quoted quotes inside unescaped =>
    refine ⟨?_, trimChars_inQuotes quotes, unescaped, ?_⟩
    · intro empty
      have none_left := congrArg String.toList empty
      rw [inQuotes, String.toList_ofList] at none_left
      cases none_left
    · rw [inQuotes, String.toList_ofList]
      exact opened?_quoted quotes inside 0
  | call _ _ called arguments => exact called.call arguments
  | dot _ _ first second => exact first.dot second

/-- Splitting undoes joining: arguments that are joined by commas, with any blanks around them, are split into what was
joined; and such arguments are names, JSON, quoted texts and nested calls. -/
theorem splitArgs_intercalate :
    (∀ args : List SpacedText, (∀ arg ∈ args, IsArgument arg.text) →
      splitArgs (",".intercalate (args.map SpacedText.whole)) = args.map (·.text)) ∧
    ∀ text, ArgumentText text → IsArgument text :=
  ⟨fun _ => splitArgs_joined, fun _ => ArgumentText.isArgument⟩

/-- A number, a call with a quoted comma in its second argument, and a list with a bracket and a comma in a text. -/
def spacedArguments : List SpacedText :=
  [⟨" ", "1", "", rfl, rfl⟩, ⟨"", "at(0, 'a, b')", "  ", rfl, rfl⟩, ⟨"", "[\"),\", \x7b\x7d]", "", rfl, rfl⟩]

/-- A number, a call with two arguments and a list with a bracket and a comma in its texts are split apart. -/
theorem splitArgs_intercalate_spacedArguments :
    (∀ arg ∈ spacedArguments, IsArgument arg.text) ∧
      splitArgs " 1,at(0, 'a, b')  ,[\"),\", \x7b\x7d]" = ["1", "at(0, 'a, b')", "[\"),\", \x7b\x7d]"] := by
  have number {text : String} (filled : text ≠ "") (digits : text.toList.all Char.isDigit = true)
      (trimmed : trimChars text.toList = text.toList) : ArgumentText text :=
    .plain filled trimmed fun c there => notMem_of_all_not (by decide) (List.all_eq_true.mp digits c there)
  have callee : ArgumentText "at" := .plain (by decide) (by decide) (by simp [argumentSigns])
  have quoted : ArgumentText "'a, b'" :=
    @ArgumentText.quoted '\'' (.inr rfl) "a, b" (by decide) (unescaped_of_notMem (by decide))
  have call : ArgumentText "at(0, 'a, b')" := by
    refine @ArgumentText.call "at" [⟨"", "0", "", rfl, rfl⟩, ⟨" ", "'a, b'", "", rfl, rfl⟩] callee fun arg there => ?_
    simp only [List.mem_cons, List.not_mem_nil, or_false] at there
    rcases there with rfl | rfl
    · exact number (by decide) (by decide) (by decide)
    · exact quoted
  have read : Json.read? "[\"),\", \x7b\x7d]" = some (.list [.text "),", .map []]) := by cbv
  have json : ArgumentText "[\"),\", \x7b\x7d]" := .json (by decide) (unescaped_of_notMem (by decide)) read
  have arguments : ∀ arg ∈ spacedArguments, IsArgument arg.text := by
    intro arg there
    apply splitArgs_intercalate.2
    simp only [spacedArguments, List.mem_cons, List.not_mem_nil, or_false] at there
    rcases there with rfl | rfl | rfl
    · exact number (by decide) (by decide) (by decide)
    · exact call
    · exact json
  exact ⟨arguments, splitArgs_intercalate.1 spacedArguments arguments⟩

end DynamicBlocks
