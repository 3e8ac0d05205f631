import DynamicBlocks.Proofs.JsonStrings
import DynamicBlocks.Proofs.NumberTexts

/-!
# Reading what is written

JSON text that is written of a value is read as the value again, provided that JSON can say the value: null, truth
values, numbers, texts, lists, and mappings with texts as keys (`read?_write`). What follows a value in a text is not
touched, as long as it does not go on with a number, and so lists and mappings are read piece by piece.
-/

set_option autoImplicit false

namespace DynamicBlocks

namespace Json

open Text

/-! ## Numbers -/

/-- A numeral starts with a digit, behind the sign if there is one. -/
theorem exists_cons_of_chars {n : Numeral} (plain : n.Plain) : ∃ c cs, c.isDigit = true ∧
    (n.chars = c :: cs ∨ n.chars = '-' :: c :: cs) := by
  obtain ⟨c, cs, hwhole⟩ : ∃ c cs, n.whole = c :: cs := by
    rcases plain.whole with hzero | ⟨c, cs, hwhole, -⟩
    · exact ⟨_, _, hzero⟩
    · exact ⟨c, cs, hwhole⟩
  have hdigit := plain.digits c (by simp [hwhole])
  refine ⟨c, cs ++ (n.fraction.elim [] fun digits => '.' :: digits) ++ n.exponent.elim [] exponentChars, hdigit, ?_⟩
  cases negative : n.negative with
  | false => exact .inl (by simp [Numeral.chars, negative, hwhole])
  | true => exact .inr (by simp [Numeral.chars, negative, hwhole])

/-- A numeral is a value of its own. -/
theorem takeValue?_chars {n : Numeral} (plain : n.Plain) {rest : List Char} (ends : EndsNumber rest) (depth : Nat) :
    takeValue? (depth + 1) (n.chars ++ rest) =
      some (if n.fraction.isSome || n.exponent.isSome then .double n.toDouble else .int n.toInt, rest) := by
  have hother {c d : Char} (digit : c.isDigit = true) (other : d.isDigit = false) : d ≠ c := by
    rintro rfl
    rw [digit] at other
    cases other
  rw [← takeNumber?_chars plain ends]
  obtain ⟨c, cs, digit, hchars | hchars⟩ := exists_cons_of_chars plain
  · rw [hchars]
    have hconstant : takeConstant? (c :: (cs ++ rest)) = none := by
      simp [takeConstant?, takeWord?, hother digit (show 'n'.isDigit = false by decide),
        hother digit (show 't'.isDigit = false by decide), hother digit (show 'f'.isDigit = false by decide),
        hother digit (show 'N'.isDigit = false by decide), hother digit (show 'I'.isDigit = false by decide),
        hother digit (show '-'.isDigit = false by decide)]
    show takeValue? (depth + 1) (c :: (cs ++ rest)) = takeNumber? (c :: (cs ++ rest))
    unfold takeValue?
    split
    · rename_i impossible
      cases impossible
    · rename_i same
      exact absurd (List.cons.inj same).1 (hother digit (by decide)).symm
    · rename_i same
      exact absurd (List.cons.inj same).1 (hother digit (by decide)).symm
    · rename_i same
      exact absurd (List.cons.inj same).1 (hother digit (by decide)).symm
    · rw [hconstant, Option.none_or]
  · rw [hchars]
    have hconstant : takeConstant? ('-' :: c :: (cs ++ rest)) = none := by
      simp [takeConstant?, takeWord?, hother digit (show 'I'.isDigit = false by decide)]
    show (takeConstant? ('-' :: c :: (cs ++ rest))).or (takeNumber? ('-' :: c :: (cs ++ rest))) = _
    rw [hconstant, Option.none_or]
    rfl

end Json

mutual

/-- Whether a value is one that JSON can say: what it says is read as the value again. Mappings have texts as keys, each
once, and what is not a number is the one that reading yields. Where characters beyond ASCII are written by code, no
text has a pair of surrogates in it. -/
def Value.IsJsonIn (asciiOnly : Bool) : Value → Prop
  | .null => True
  | .bool _ => True
  | .int _ => True
  | .double x => x.WellFormed ∧ ∀ origin, x = .nan origin → origin = some 0
  | .text s => asciiOnly = true → Text.Unpaired s.toList
  | .list items => Value.AreJsonIn asciiOnly items
  | .map entries => (entries.map (·.1)).Nodup ∧ Value.AreJsonEntriesIn asciiOnly entries
  | _ => False

/-- Whether all items are values that JSON can say. -/
def Value.AreJsonIn (asciiOnly : Bool) : List Value → Prop
  | [] => True
  | item :: items => Value.IsJsonIn asciiOnly item ∧ Value.AreJsonIn asciiOnly items

/-- Whether all entries have texts as keys and values that JSON can say. -/
def Value.AreJsonEntriesIn (asciiOnly : Bool) : List (Value × Value) → Prop
  | [] => True
  | (key, value) :: entries =>
    (∃ s, key = .text s ∧ (asciiOnly = true → Text.Unpaired s.toList)) ∧ Value.IsJsonIn asciiOnly value ∧
      Value.AreJsonEntriesIn asciiOnly entries

end

/-- Whether JSON can say a value in ASCII, as it is said for comparison. -/
abbrev Value.IsJson (v : Value) : Prop := v.IsJsonIn true

variable {asciiOnly : Bool}

/-- The keys are texts. -/
theorem Value.AreJsonEntriesIn.texts : {entries : Entries} → Value.AreJsonEntriesIn asciiOnly entries →
    ∀ entry ∈ entries, ∃ s, entry.1 = .text s
  | [], _ => by simp
  | (_, _) :: _, json =>
    have ⟨s, same, _⟩ := json.1
    List.forall_mem_cons.mpr ⟨⟨s, same⟩, AreJsonEntriesIn.texts json.2.2⟩

namespace Json

open Text

/-- A number is read as it is written. -/
theorem takeValue?_intText (n : Int) {rest : List Char} (ends : EndsNumber rest) (depth : Nat) :
    takeValue? (depth + 1) ((intText n).toList ++ rest) = some (.int n, rest) := by
  rw [← Numeral.chars_ofInt, takeValue?_chars (Numeral.plain_ofInt n) ends]
  exact congrArg (fun m => some (Value.int m, rest)) (Numeral.toInt_ofInt n)

/-- The text of a double that JSON can say is read back to the double, in front of what cannot go on with it. -/
theorem takeValue?_doubleText {x : Double} (json : (Value.double x).IsJsonIn asciiOnly) {rest : List Char}
    (ends : EndsNumber rest)
    (depth : Nat) : takeValue? (depth + 1) ((doubleText x).toList ++ rest) = some (.double x, rest) := by
  obtain ⟨formed, origin⟩ := json
  cases x with
  | nan number =>
    obtain rfl := origin number rfl
    rfl
  | infinite negative => cases negative <;> rfl
  | finite negative mantissa exponent =>
    obtain ⟨n, plain, hchars, hread, more⟩ := Double.exists_numeral formed rfl
    have htext : doubleText (.finite negative mantissa exponent) =
        (Double.finite negative mantissa exponent).text := rfl
    rw [htext, ← hchars, takeValue?_chars plain ends, more, if_pos rfl, hread]

/-- A string is read up to its closing quote. -/
theorem takeString?_stringText {s : String} (unpaired : asciiOnly = true → Unpaired s.toList) (rest : List Char) :
    ∃ cs, (stringText asciiOnly s).toList ++ rest = '"' :: cs ∧
      takeString? (cs.length + 1) cs = some (s.toList, rest) := by
  refine ⟨s.toList.flatMap (stringChar asciiOnly) ++ '"' :: rest, by simp [stringText], ?_⟩
  apply takeString?_flatMap unpaired
  have := length_le_flatMap asciiOnly s.toList
  rw [List.length_append]
  omega

/-- A quote is read as the start of a text. -/
theorem takeValue?_quote (depth : Nat) (rest : List Char) : takeValue? (depth + 1) ('"' :: rest) =
    (takeString? (rest.length + 1) rest).map fun taken => (Value.text (String.ofList taken.1), taken.2) := by
  show (takeString? (rest.length + 1) rest >>= fun taken => pure (Value.text (String.ofList taken.1), taken.2)) = _
  cases takeString? (rest.length + 1) rest <;> rfl

/-- A text is read as it is written. -/
theorem takeValue?_stringText {s : String} (unpaired : asciiOnly = true → Unpaired s.toList) (rest : List Char)
    (depth : Nat) : takeValue? (depth + 1) ((stringText asciiOnly s).toList ++ rest) = some (.text s, rest) := by
  obtain ⟨cs, hshape, read⟩ := takeString?_stringText unpaired rest
  rw [hshape, takeValue?_quote, read, Option.map_some, String.ofList_toList]

/-! ## Values -/

/-- A character that is no space is not skipped. -/
theorem skipSpaces_cons {c : Char} (solid : isSpace c = false) (cs : List Char) : skipSpaces (c :: cs) = c :: cs := by
  simp [skipSpaces, solid]

/-- Where a value can be read nothing is passed over. -/
theorem skipSpaces_of_takeValue? {depth : Nat} {cs : List Char} {taken : Value × List Char}
    (read : takeValue? depth cs = some taken) : skipSpaces cs = cs := by
  cases cs with
  | nil => rfl
  | cons c cs =>
    apply skipSpaces_cons
    by_contra space
    rw [Bool.not_eq_false] at space
    obtain ⟨depth, rfl⟩ : ∃ fewer, depth = fewer + 1 := by
      cases depth with
      | zero =>
        unfold takeValue? at read
        cases read
      | succ fewer => exact ⟨fewer, rfl⟩
    have hspace : c = ' ' ∨ c = '\t' ∨ c = '\n' ∨ c = '\r' := by
      simpa [isSpace, or_assoc] using space
    rcases hspace with rfl | rfl | rfl | rfl <;> cases read

/-- An item with a closing bracket behind it is the last one. -/
theorem takeItems?_last {depth : Nat} {cs rest : List Char} {item : Value}
    (read : takeValue? depth cs = some (item, ']' :: rest)) : takeItems? (depth + 1) cs = some ([item], rest) := by
  unfold takeItems?
  rw [read]
  rfl

/-- An item with a comma behind it comes before the others. -/
theorem takeItems?_more {depth : Nat} {cs more rest : List Char} {item : Value} {items : List Value}
    (read : takeValue? depth cs = some (item, ',' :: ' ' :: more)) (others : takeItems? depth more = some (items, rest))
    (solid : skipSpaces more = more) : takeItems? (depth + 1) cs = some (item :: items, rest) := by
  unfold takeItems?
  rw [read]
  show (takeItems? depth (skipSpaces (' ' :: more)) >>= fun taken => pure (item :: taken.1, taken.2)) = _
  have hspace : skipSpaces (' ' :: more) = skipSpaces more := rfl
  rw [hspace, solid, others]
  rfl

/-- What items are read from does not start with a space. -/
theorem skipSpaces_of_takeItems? {depth : Nat} {cs : List Char} {taken : List Value × List Char}
    (read : takeItems? depth cs = some taken) : skipSpaces cs = cs := by
  cases depth with
  | zero =>
    unfold takeItems? at read
    cases read
  | succ depth =>
    unfold takeItems? at read
    cases first : takeValue? depth cs with
    | none =>
      rw [first] at read
      cases read
    | some taken => exact skipSpaces_of_takeValue? first

/-- Items in square brackets are a list. -/
theorem takeValue?_items {depth : Nat} {cs rest : List Char} {items : List Value}
    (read : takeItems? depth cs = some (items, rest)) :
    takeValue? (depth + 1) ('[' :: cs) = some (.list items, rest) := by
  unfold takeValue?
  simp only [skipSpaces_of_takeItems? read]
  split
  · cases depth with
    | zero =>
      unfold takeItems? at read
      cases read
    | succ depth =>
      cases depth with
      | zero => cases read
      | succ depth => cases read
  · rw [read]
    rfl

/-- What members are read from does not start with a space. -/
theorem skipSpaces_of_takeMembers? {depth : Nat} {cs : List Char} {taken : Entries × List Char}
    (read : takeMembers? depth cs = some taken) : skipSpaces cs = cs := by
  cases depth with
  | zero =>
    unfold takeMembers? at read
    cases read
  | succ depth =>
    unfold takeMembers? at read
    split at read
    · rfl
    · cases read

/-- A member with a closing brace behind it is the last one. -/
theorem takeMembers?_last {depth : Nat} {name : String} (unpaired : asciiOnly = true → Unpaired name.toList)
    {cs rest : List Char} {value : Value}
    (read : takeValue? depth cs = some (value, '\x7d' :: rest)) :
    takeMembers? (depth + 1) ((stringText asciiOnly name).toList ++ ':' :: ' ' :: cs) =
      some ([(.text name, value)], rest) := by
  obtain ⟨inner, hshape, name_read⟩ := takeString?_stringText unpaired (':' :: ' ' :: cs)
  have hcolon : skipSpaces (':' :: ' ' :: cs) = ':' :: ' ' :: cs := rfl
  have hspace : skipSpaces (' ' :: cs) = cs := skipSpaces_of_takeValue? read
  have hbrace : skipSpaces ('\x7d' :: rest) = '\x7d' :: rest := rfl
  rw [hshape]
  simp only [takeMembers?, name_read, read, Option.bind_eq_bind, Option.bind_some, String.ofList_toList, hcolon, hspace,
    hbrace, Option.pure_def]

/-- A member with a comma behind it comes before the others. -/
theorem takeMembers?_more {depth : Nat} {name : String} (unpaired : asciiOnly = true → Unpaired name.toList)
    {cs more rest : List Char} {value : Value}
    {entries : Entries} (read : takeValue? depth cs = some (value, ',' :: ' ' :: more))
    (others : takeMembers? depth more = some (entries, rest)) :
    takeMembers? (depth + 1) ((stringText asciiOnly name).toList ++ ':' :: ' ' :: cs) =
      some ((.text name, value) :: entries, rest) := by
  obtain ⟨inner, hshape, name_read⟩ := takeString?_stringText unpaired (':' :: ' ' :: cs)
  have hcolon : skipSpaces (':' :: ' ' :: cs) = ':' :: ' ' :: cs := rfl
  have hspace : skipSpaces (' ' :: cs) = cs := skipSpaces_of_takeValue? read
  have hcomma : skipSpaces (',' :: ' ' :: more) = ',' :: ' ' :: more := rfl
  have hspace' : skipSpaces (' ' :: more) = more := skipSpaces_of_takeMembers? others
  rw [hshape]
  simp only [takeMembers?, name_read, read, others, Option.bind_eq_bind, Option.bind_some, String.ofList_toList, hcolon,
    hspace, hcomma, hspace', Option.pure_def]

/-- Entries in braces are a mapping. -/
theorem takeValue?_members {depth : Nat} {cs rest : List Char} {entries : Entries}
    (read : takeMembers? depth cs = some (entries, rest)) :
    takeValue? (depth + 1) ('\x7b' :: cs) = some (.map (Entries.ofPairs entries), rest) := by
  unfold takeValue?
  simp only [skipSpaces_of_takeMembers? read]
  split
  · cases depth with
    | zero =>
      unfold takeMembers? at read
      cases read
    | succ depth => cases read
  · rw [read]
    rfl

/-! ## What is written is read back -/

/-- Whether what is read in front of such a text is the value, given steps enough for a text of that length. -/
def ReadsAs (v : Value) (s : String) : Prop :=
  ∀ rest, EndsNumber rest → ∀ depth, s.length < depth → takeValue? depth (s.toList ++ rest) = some (v, rest)

/-- A character that numbers do not go on with ends them. -/
theorem endsNumber_cons {c : Char} (h : c.isDigit = false ∧ c ≠ '.' ∧ c ≠ 'e' ∧ c ≠ 'E') (rest : List Char) :
    EndsNumber (c :: rest) := by
  intro d hd
  obtain rfl : c = d := Option.some.inj hd
  exact h

/-- A value is read back from a text if it is so wherever the text is followed by what ends numbers. -/
theorem ReadsAs.of_succ {v : Value} {s : String}
    (read : ∀ rest, EndsNumber rest → ∀ depth, takeValue? (depth + 1) (s.toList ++ rest) = some (v, rest)) :
    ReadsAs v s := by
  intro rest ends depth enough
  obtain ⟨depth, rfl⟩ : ∃ fewer, depth = fewer + 1 := ⟨depth - 1, by omega⟩
  exact read rest ends depth

/-- Items one after the other, with a comma and a blank between, are read together. -/
theorem takeItems?_join {items : List Value} {texts : List String} (read : List.Forall₂ ReadsAs items texts)
    (some_item : items ≠ []) (rest : List Char) {depth : Nat} (enough : (join ", " texts).length + 1 < depth) :
    takeItems? depth ((join ", " texts).toList ++ ']' :: rest) = some (items, rest) := by
  induction read generalizing depth with
  | nil => exact absurd rfl some_item
  | @cons item text items texts first others ih =>
    obtain ⟨depth, rfl⟩ : ∃ fewer, depth = fewer + 1 := ⟨depth - 1, by omega⟩
    cases others with
    | nil =>
      rw [show join ", " [text] = text from String.intercalate_singleton] at enough ⊢
      exact takeItems?_last (first _ (endsNumber_cons (by decide) rest) depth (by omega))
    | @cons next text' items texts second others =>
      have hjoin : join ", " (text :: text' :: texts) = text ++ ", " ++ join ", " (text' :: texts) :=
        String.intercalate_cons_cons
      rw [hjoin, String.length_append, String.length_append] at enough
      have hcomma : ", ".length = 2 := rfl
      have hlater : takeItems? depth ((join ", " (text' :: texts)).toList ++ ']' :: rest) =
          some (next :: items, rest) := ih (List.cons_ne_nil _ _) (by omega)
      have hshape : (join ", " (text :: text' :: texts)).toList ++ ']' :: rest =
          text.toList ++ ',' :: ' ' :: ((join ", " (text' :: texts)).toList ++ ']' :: rest) := by
        rw [hjoin]
        simp
      rw [hshape]
      exact takeItems?_more (first _ (endsNumber_cons (by decide) _) depth (by omega)) hlater
        (skipSpaces_of_takeItems? hlater)

/-- An entry with its texts. -/
def ReadsAsEntry (asciiOnly : Bool) (entry : Value × Value) (text : String) : Prop :=
  ∃ name value, entry.1 = .text name ∧ (asciiOnly = true → Unpaired name.toList) ∧
    text = stringText asciiOnly name ++ ": " ++ value ∧ ReadsAs entry.2 value

/-- Entries one after the other, with a comma and a blank between, are read together. -/
theorem takeMembers?_join {entries : Entries} {texts : List String}
    (read : List.Forall₂ (ReadsAsEntry asciiOnly) entries texts) (some_entry : entries ≠ []) (rest : List Char)
    {depth : Nat} (enough : (join ", " texts).length + 1 < depth) :
    takeMembers? depth ((join ", " texts).toList ++ '\x7d' :: rest) = some (entries, rest) := by
  induction read generalizing depth with
  | nil => exact absurd rfl some_entry
  | @cons entry text entries texts first others ih =>
    obtain ⟨depth, rfl⟩ : ∃ fewer, depth = fewer + 1 := ⟨depth - 1, by omega⟩
    obtain ⟨key, value⟩ := entry
    obtain ⟨name, written, rfl, unpaired, rfl, first⟩ := first
    cases others with
    | nil =>
      rw [show ∀ t, join ", " [t] = t from fun t => String.intercalate_singleton] at enough ⊢
      rw [String.length_append, String.length_append] at enough
      have hshape : (stringText asciiOnly name ++ ": " ++ written).toList ++ '\x7d' :: rest =
          (stringText asciiOnly name).toList ++ ':' :: ' ' :: (written.toList ++ '\x7d' :: rest) := by
        simp
      rw [hshape]
      exact takeMembers?_last unpaired (first _ (endsNumber_cons (by decide) rest) depth (by omega))
    | @cons next text' entries texts second others =>
      have hjoin : join ", " ((stringText asciiOnly name ++ ": " ++ written) :: text' :: texts) =
          stringText asciiOnly name ++ ": " ++ written ++ ", " ++ join ", " (text' :: texts) :=
        String.intercalate_cons_cons
      rw [hjoin, String.length_append, String.length_append, String.length_append, String.length_append] at enough
      have hcomma : ", ".length = 2 := rfl
      have hlater : takeMembers? depth ((join ", " (text' :: texts)).toList ++ '\x7d' :: rest) =
          some (next :: entries, rest) := ih (List.cons_ne_nil _ _) (by omega)
      have hshape : (join ", " ((stringText asciiOnly name ++ ": " ++ written) :: text' :: texts)).toList ++
          '\x7d' :: rest = (stringText asciiOnly name).toList ++ ':' :: ' ' ::
            (written.toList ++ ',' :: ' ' :: ((join ", " (text' :: texts)).toList ++ '\x7d' :: rest)) := by
        rw [hjoin]
        simp
      rw [hshape]
      exact takeMembers?_more unpaired (first _ (endsNumber_cons (by decide) _) depth (by omega)) hlater

end Json

/-- A mapping is made of its entries if they all have different texts as keys. -/
theorem Entries.ofPairs_of_nodup {entries : Entries} (texts : ∀ entry ∈ entries, ∃ s, entry.1 = .text s)
    (nodup : (entries.map (·.1)).Nodup) : Entries.ofPairs entries = entries := by
  have hmore (done more : Entries) (texts : ∀ entry ∈ more, ∃ s, entry.1 = .text s)
      (nodup : ((done ++ more).map (·.1)).Nodup) : insertAll done more = done ++ more := by
    induction more generalizing done with
    | nil => exact (List.append_nil done).symm
    | cons entry more ih =>
      obtain ⟨key, value⟩ := entry
      obtain ⟨s, rfl⟩ := texts (key, value) List.mem_cons_self
      have fresh : done.any (fun entry => entry.1.agrees (.text s)) = false := by
        rw [List.any_eq_false]
        intro entry there same
        rw [List.map_append, List.nodup_append] at nodup
        exact nodup.2.2 entry.1 (List.mem_map_of_mem there) (.text s) (by simp) (Value.agrees_text.mp same)
      have hinsert : insert done (.text s) value = done ++ [(.text s, value)] := by
        unfold insert
        rw [fresh]
        rfl
      show insertAll (insert done (.text s) value) more = _
      rw [hinsert, ih]
      · simp
      · exact fun entry there => texts entry (List.mem_cons_of_mem _ there)
      · simpa using nodup
  exact hmore [] entries texts (by simpa using nodup)

namespace Json

open Text

mutual

/-- A value that JSON can say is written, and read as it is written: an induction on the value. -/
theorem exists_write : (v : Value) → v.IsJsonIn asciiOnly →
    ∃ s, write ⟨asciiOnly, false⟩ v = .ok s ∧ ReadsAs v s
  | .null, _ => ⟨_, rfl, .of_succ fun _ _ _ => rfl⟩
  | .bool true, _ => ⟨_, rfl, .of_succ fun _ _ _ => rfl⟩
  | .bool false, _ => ⟨_, rfl, .of_succ fun _ _ _ => rfl⟩
  | .int n, _ => ⟨_, rfl, .of_succ fun _ ends depth => takeValue?_intText n ends depth⟩
  | .double _, json => ⟨_, rfl, .of_succ fun _ ends depth => takeValue?_doubleText json ends depth⟩
  | .text _, json => ⟨_, rfl, .of_succ fun rest _ depth => takeValue?_stringText json rest depth⟩
  | .list items, json => by
    obtain ⟨texts, hwrite, read⟩ := exists_writeItems items json
    refine ⟨"[" ++ join ", " texts ++ "]", ?_, fun rest _ depth enough => ?_⟩
    · unfold write
      rw [hwrite]
      rfl
    · rw [String.length_append, String.length_append] at enough
      have hone : "[".length = 1 ∧ "]".length = 1 := ⟨rfl, rfl⟩
      obtain ⟨depth, rfl⟩ : ∃ fewer, depth = fewer + 1 := ⟨depth - 1, by omega⟩
      have hshape : ("[" ++ join ", " texts ++ "]").toList ++ rest =
          '[' :: ((join ", " texts).toList ++ ']' :: rest) := by
        simp
      rw [hshape]
      by_cases empty : items = []
      · subst empty
        cases read
        rfl
      · exact takeValue?_items (takeItems?_join read empty rest (by omega))
  | .map entries, json => by
    obtain ⟨written, hwrite, read⟩ := exists_writeEntries entries json.2
    refine ⟨"\x7b" ++ join ", " (written.map fun entry => stringText asciiOnly entry.name ++ ": " ++ entry.value) ++
      "\x7d", ?_, fun rest _ depth enough => ?_⟩
    · unfold write
      rw [hwrite]
      rfl
    · generalize written.map (fun entry => stringText asciiOnly entry.name ++ ": " ++ entry.value) = texts
        at read enough ⊢
      rw [String.length_append, String.length_append] at enough
      have hone : "\x7b".length = 1 ∧ "\x7d".length = 1 := ⟨rfl, rfl⟩
      obtain ⟨depth, rfl⟩ : ∃ fewer, depth = fewer + 1 := ⟨depth - 1, by omega⟩
      have hshape : ("\x7b" ++ join ", " texts ++ "\x7d").toList ++ rest =
          '\x7b' :: ((join ", " texts).toList ++ '\x7d' :: rest) := by
        simp
      rw [hshape]
      by_cases empty : entries = []
      · subst empty
        cases read
        rfl
      · have hmembers : takeMembers? depth ((join ", " texts).toList ++ '\x7d' :: rest) = some (entries, rest) :=
          takeMembers?_join read empty rest (by omega)
        rw [takeValue?_members hmembers, Entries.ofPairs_of_nodup (Value.AreJsonEntriesIn.texts json.2) json.1]

/-- Items that JSON can say are written, and read as they are written. -/
theorem exists_writeItems : (items : List Value) → Value.AreJsonIn asciiOnly items →
    ∃ texts, writeItems ⟨asciiOnly, false⟩ items = .ok texts ∧ List.Forall₂ ReadsAs items texts
  | [], _ => ⟨[], rfl, .nil⟩
  | item :: items, json => by
    obtain ⟨text, hitem, read⟩ := exists_write item json.1
    obtain ⟨texts, hitems, others⟩ := exists_writeItems items json.2
    refine ⟨text :: texts, ?_, .cons read others⟩
    unfold writeItems
    rw [hitem, hitems]
    rfl

/-- Entries that JSON can say are written, and read as they are written. -/
theorem exists_writeEntries : (entries : List (Value × Value)) → Value.AreJsonEntriesIn asciiOnly entries →
    ∃ written, writeEntries ⟨asciiOnly, false⟩ entries = .ok written ∧ List.Forall₂ (ReadsAsEntry asciiOnly) entries
      (written.map fun entry => stringText asciiOnly entry.name ++ ": " ++ entry.value)
  | [], _ => ⟨[], rfl, .nil⟩
  | (key, value) :: entries, json => by
    obtain ⟨⟨name, rfl, unpaired⟩, hvalue, hothers⟩ := json
    obtain ⟨text, hwrite, read⟩ := exists_write value hvalue
    obtain ⟨written, hentries, others⟩ := exists_writeEntries entries hothers
    refine ⟨⟨.text name, name, text⟩ :: written, ?_, .cons ⟨name, text, rfl, unpaired, rfl, read⟩ others⟩
    unfold writeEntries
    rw [hwrite, hentries]
    rfl

end

/-- What JSON can say is read back from what is written of it. -/
theorem read?_write {v : Value} (json : v.IsJsonIn asciiOnly) :
    ∃ s, write ⟨asciiOnly, false⟩ v = .ok s ∧ read? s = some v := by
  obtain ⟨s, hwrite, read⟩ := exists_write v json
  have hread := read [] (fun c hc => nomatch hc) (s.length + 1) (Nat.lt_succ_self _)
  rw [List.append_nil] at hread
  refine ⟨s, hwrite, ?_⟩
  unfold read?
  rw [skipSpaces_of_takeValue? hread, hread]
  rfl

end Json

end DynamicBlocks
