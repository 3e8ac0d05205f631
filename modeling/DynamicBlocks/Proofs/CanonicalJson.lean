import DynamicBlocks.Proofs.PrintedTexts
import DynamicBlocks.Proofs.Rearrangement
import DynamicBlocks.Proofs.WritableValues

/-!
# What canonical JSON says

JSON text with the entries in the order of their keys is the text of another value: of what it says. There keys are the
texts that they become, entries stand in the order of the keys they had, what JSON does not know is a text, and two
surrogates of a pair are the character of the pair (`said`). Two values have the same canonical text exactly if it says
the same of both (`write_canonical_inj`), and values that JSON can say differ in what it says of them unless they are
rearranged (`said_eq_iff_rearranged`).
-/

set_option autoImplicit false

namespace DynamicBlocks

/-- Whether a key is a double only if it is a number, and a text only without pairs of surrogates. -/
structure Value.KeyFormed (key : Value) : Prop where
  double : ∀ x, key = .double x → x.WellFormed ∧ ∀ origin, x ≠ .nan origin
  text : ∀ s, key = .text s → Text.Unpaired s.toList

mutual

/-- Whether a value holds doubles in the one form they have, and mappings with each key once, none of which is not a
number. -/
def Value.WellFormed : Value → Prop
  | .double x => x.WellFormed
  | .list items => Value.AllWellFormed items
  | .map entries => (entries.map (·.1)).Nodup ∧ Value.EntriesWellFormed entries
  | _ => True

/-- Whether all items are well formed. -/
def Value.AllWellFormed : List Value → Prop
  | [] => True
  | item :: items => Value.WellFormed item ∧ Value.AllWellFormed items

/-- Whether the keys and the values of all entries are well formed. -/
def Value.EntriesWellFormed : List (Value × Value) → Prop
  | [] => True
  | (key, value) :: entries =>
    key.KeyFormed ∧ Value.WellFormed value ∧ Value.EntriesWellFormed entries

end

namespace Json

/-- The text that a key becomes, as a key of its own. -/
def saidKey (key : Value) : Value :=
  .text ((keyText key).toOption.getD "")

mutual

/-- What the canonical text of a value says. -/
def said : Value → Value
  | .null => .null
  | .bool b => .bool b
  | .int n => .int n
  | .double (.nan _) => .double (.nan (some 0))
  | .double x => .double x
  | .text s => .text (Text.joinedText s)
  | .list items => .list (saidItems items)
  | .map entries =>
    .map ((inKeyOrder (·.1) (saidEntries entries)).map fun entry => (saidKey entry.1, entry.2))
  | v => .text (Text.joinedText v.plain)

/-- What the canonical texts of items say. -/
def saidItems : List Value → List Value
  | [] => []
  | item :: items => said item :: saidItems items

/-- Entries with what the canonical texts of their values say. -/
def saidEntries : List (Value × Value) → List (Value × Value)
  | [] => []
  | (key, value) :: entries => (key, said value) :: saidEntries entries

end

/-- What JSON says of items is what it says of each of them. -/
theorem saidItems_eq_map (items : List Value) : saidItems items = items.map said := by
  induction items with
  | nil => rfl
  | cons item items ih => rw [saidItems, ih, List.map_cons]

/-- What JSON says of entries is what it says of each value under its key. -/
theorem saidEntries_eq_map (entries : Entries) :
    saidEntries entries = entries.map fun entry => (entry.1, said entry.2) := by
  induction entries with
  | nil => rfl
  | cons entry entries ih => rw [saidEntries, ih, List.map_cons]

/-- JSON says the keys as they are. -/
theorem keys_saidEntries (entries : Entries) : (saidEntries entries).map (·.1) = entries.map (·.1) := by
  rw [saidEntries_eq_map, List.map_map]
  rfl

/-! ## Keys -/

/-- A well-formed key can be put in order. -/
theorem isOrdered_of_keyFormed {key : Value} (formed : key.KeyFormed) : isOrdered key = true := by
  cases key with
  | double x =>
    cases x with
    | nan origin => exact absurd rfl ((formed.double _ rfl).2 origin)
    | _ => rfl
  | _ => rfl

/-- What two values are read as from one text is one value. -/
theorem ReadsAs.inj {v w : Value} {s : String} (first : ReadsAs v s) (second : ReadsAs w s) : v = w := by
  have hv := first [] (fun c hc => nomatch hc) (s.length + 1) (Nat.lt_succ_self _)
  have hw := second [] (fun c hc => nomatch hc) (s.length + 1) (Nat.lt_succ_self _)
  rw [hv] at hw
  exact congrArg Prod.fst (Option.some.inj hw)

/-- A key that is a number is read back from the text it becomes. -/
theorem readsAs_keyText {key : Value} (formed : key.KeyFormed) (number : key.number?.isSome) {s : String}
    (written : keyText key = .ok s) : ReadsAs key s := by
  cases key with
  | bool b =>
    obtain rfl := Except.ok.inj written
    cases b <;> exact .of_succ fun _ _ _ => rfl
  | int n =>
    obtain rfl := Except.ok.inj written
    exact .of_succ fun _ ends depth => takeValue?_intText n ends depth
  | double x =>
    obtain rfl := Except.ok.inj written
    obtain ⟨wellFormed, number⟩ := formed.double x rfl
    have json : (Value.double x).IsJson := ⟨wellFormed, fun origin same => absurd same (number origin)⟩
    exact .of_succ fun _ ends depth => takeValue?_doubleText json ends depth
  | _ => cases number

/-- Keys that can be put in order become different texts. -/
theorem keyText_inj {key other : Value} (formed : key.KeyFormed) (formed' : other.KeyFormed)
    (ordered : comparable key other = true) {s : String} (written : keyText key = .ok s)
    (written' : keyText other = .ok s) : key = other := by
  unfold comparable at ordered
  split at ordered
  · exact congrArg Value.text ((Except.ok.inj written).trans (Except.ok.inj written').symm)
  · rw [Bool.and_eq_true] at ordered
    exact (readsAs_keyText formed ordered.1 written).inj (readsAs_keyText formed' ordered.2 written')

/-- Two keys are comparable if another one is comparable to both. -/
theorem comparable_of_both {first key other : Value} (h : comparable first key = true)
    (h' : comparable first other = true) : comparable key other = true := by
  unfold comparable at h
  split at h
  · unfold comparable at h'
    split at h'
    · rfl
    · rename_i same
      simp [Value.number?] at h'
  · rename_i no_texts
    unfold comparable at h' ⊢
    simp only [Bool.and_eq_true] at h
    split at h'
    · rename_i same
      simp [Value.number?] at h
    · simp only [Bool.and_eq_true] at h'
      split
      · rfl
      · simp [h.2, h'.2]

/-- The text that a key becomes has no pair of surrogates in it. -/
theorem unpaired_of_keyText {key : Value} (formed : key.KeyFormed) {s : String} (written : keyText key = .ok s) :
    Text.Unpaired s.toList := by
  cases key with
  | text t =>
    obtain rfl := Except.ok.inj written
    exact formed.text _ rfl
  | null =>
    obtain rfl := Except.ok.inj written
    exact unpaired_of_printed (by decide)
  | bool b =>
    obtain rfl := Except.ok.inj written
    cases b <;> exact unpaired_of_printed (by decide)
  | int n =>
    obtain rfl := Except.ok.inj written
    exact unpaired_of_printed (printed_intText n)
  | double x =>
    obtain rfl := Except.ok.inj written
    exact unpaired_of_printed (printed_doubleText x)
  | list | map | loop | date | moment | object | built => cases written

/-- Keys that are all different and can be put in order with the first one become texts that are all different. -/
theorem nodup_saidKeys {keys : List Value} (nodup : keys.Nodup) (formed : ∀ key ∈ keys, key.KeyFormed)
    (written : ∀ key ∈ keys, ∃ s, keyText key = .ok s) (ordered : keys.Pairwise fun a b => comparable a b = true) :
    (keys.map saidKey).Nodup := by
  rw [List.Nodup, List.pairwise_map]
  -- Two keys in order are two texts or two numbers, and of either kind the text tells which.
  refine (nodup.and ordered).imp_of_mem fun {key other} there there' both same => ?_
  obtain ⟨s, hs⟩ := written key there
  obtain ⟨t, ht⟩ := written other there'
  have hst : s = t := by simpa [saidKey, hs, ht, Except.toOption] using same
  exact both.1 (keyText_inj (formed key there) (formed other there') both.2 hs (hst ▸ ht))

/-! ## Entries in order -/

section Order

variable {α β : Type}

/-- Keys that can be put in order are sorted by it. -/
theorem inKeyOrder_of_ordered {key : α → Value} {xs : List α} (ordered : ∀ x ∈ xs, isOrdered (key x) = true) :
    inKeyOrder key xs = xs.mergeSort fun a b => !keyLess (key b) (key a) := by
  unfold inKeyOrder
  rw [if_pos (List.all_eq_true.mpr ordered)]

/-- A run and what stands behind it are all there is. -/
theorem runBehind_append (follows : α → α → Bool) (last : α) (xs : List α) :
    (runBehind follows last xs).1 ++ (runBehind follows last xs).2 = xs := by
  induction xs generalizing last with
  | nil => rfl
  | cons x xs ih =>
    unfold runBehind
    split
    · exact congrArg (x :: ·) (ih x)
    · rfl

/-- The leading run and the rest are all there is, in another order. -/
theorem leadingRun_perm (less : α → α → Bool) (xs : List α) :
    ((leadingRun less xs).1 ++ (leadingRun less xs).2).Perm xs := by
  unfold leadingRun
  split
  · rename_i x y more
    have hshape := runBehind_append (fun a b => less b a == less y x) y more
    have hsame : (x :: y :: ((runBehind (fun a b => less b a == less y x) y more).1 ++
        (runBehind (fun a b => less b a == less y x) y more).2)).Perm (x :: y :: more) := by rw [hshape]
    dsimp only
    split
    · exact ((List.reverse_perm _).append_right _).trans hsame
    · exact hsame
  · exact List.Perm.of_eq (List.append_nil xs)

/-- Putting entries in order loses nothing and adds nothing. -/
theorem inKeyOrder_perm (key : α → Value) (xs : List α) : (inKeyOrder key xs).Perm xs := by
  unfold inKeyOrder
  split
  · exact List.mergeSort_perm _ _
  · generalize (fun a b => keyLess (key a) (key b)) = less
    have hmore (rest run : List α) : (rest.foldl (putInOrder less) run).Perm (run ++ rest) := by
      induction rest generalizing run with
      | nil => exact List.Perm.of_eq (List.append_nil run).symm
      | cons x rest ih =>
        refine (ih (putInOrder less run x)).trans ?_
        exact ((putInOrder_perm less run x).append_right rest).trans List.perm_middle.symm
    exact (hmore _ _).trans (leadingRun_perm less xs)

/-- What has the same keys is put in the same order. -/
theorem map_inKeyOrder (key : β → Value) (f : α → β) {xs : List α} (ordered : ∀ x ∈ xs, isOrdered (key (f x)) = true) :
    (inKeyOrder (fun x => key (f x)) xs).map f = inKeyOrder key (xs.map f) := by
  have hmapped : ∀ y ∈ xs.map f, isOrdered (key y) = true := by
    intro y there
    obtain ⟨x, hx, rfl⟩ := List.mem_map.mp there
    exact ordered x hx
  rw [inKeyOrder_of_ordered ordered, inKeyOrder_of_ordered hmapped]
  exact List.map_mergeSort fun _ _ _ _ => rfl

end Order

/-- Entries are sorted if all of their keys can be compared. -/
theorem sortEntries_eq_ok {entries sorted : List WrittenEntry} (h : sortEntries entries = .ok sorted) :
    entries.Pairwise (fun a b => comparable a.key b.key = true) ∧ sorted = inKeyOrder WrittenEntry.key entries := by
  cases entries with
  | nil => exact ⟨.nil, by simpa [inKeyOrder, sortEntries] using h.symm⟩
  | cons first more =>
    unfold sortEntries at h
    dsimp only at h
    split at h
    · rename_i all
      rw [List.all_eq_true] at all
      refine ⟨.cons all (List.pairwise_of_forall_mem_list fun a there b there' => ?_), (Except.ok.inj h).symm⟩
      exact comparable_of_both (all a there) (all b there')
    · cases h

/-- An entry with the texts of its key and its value. -/
def writtenOf (entry : Value × Value) : WrittenEntry :=
  ⟨entry.1, (keyText entry.1).toOption.getD "", (write .ascii entry.2).toOption.getD ""⟩

/-- Whether an entry is written, with a value that JSON can say. -/
def IsWritten (entry : Value × Value) : Prop :=
  keyText entry.1 = .ok (writtenOf entry).name ∧ write .ascii entry.2 = .ok (writtenOf entry).value ∧
    entry.2.IsJson ∧ entry.1.KeyFormed

/-- Entries under the texts that their keys become are written with the texts of the entries. -/
theorem writeEntries_saidKey {entries : Entries} (each : ∀ entry ∈ entries, IsWritten entry) :
    writeEntries .ascii (entries.map fun entry => (saidKey entry.1, entry.2)) =
      .ok (entries.map fun entry => { writtenOf entry with key := saidKey entry.1 }) := by
  induction entries with
  | nil => rfl
  | cons entry entries ih =>
    have here := each entry List.mem_cons_self
    have hname : keyText (saidKey entry.1) = .ok (writtenOf entry).name := rfl
    rw [List.map_cons, writeEntries, hname, here.2.1, ih fun other there => each other (List.mem_cons_of_mem _ there)]
    rfl

/-- Entries of a mapping that has a canonical text are a mapping that JSON can say, with that text. -/
theorem write_said_map {entries : Entries} (nodup : (entries.map (·.1)).Nodup)
    (each : ∀ entry ∈ entries, IsWritten entry) {s : String}
    (written : objectText .canonical (entries.map writtenOf) = .ok s) :
    let inOrder := (inKeyOrder (·.1) entries).map fun entry => (saidKey entry.1, entry.2)
    (Value.map inOrder).IsJson ∧ write .ascii (.map inOrder) = .ok s := by
  intro inOrder
  have hordered : ∀ entry ∈ entries, isOrdered entry.1 = true :=
    fun entry there => isOrdered_of_keyFormed (each entry there).2.2.2
  have perm : (inKeyOrder (·.1) entries).Perm entries := inKeyOrder_perm _ _
  have eachInOrder : ∀ entry ∈ inKeyOrder (·.1) entries, IsWritten entry :=
    fun entry there => each entry (perm.mem_iff.mp there)
  obtain ⟨hcomparable, htext⟩ : (entries.map (·.1)).Pairwise (fun a b => comparable a b = true) ∧
      s = "\x7b" ++ Text.join ", " ((inKeyOrder WrittenEntry.key (entries.map writtenOf)).map fun entry =>
        stringText true entry.name ++ ": " ++ entry.value) ++ "\x7d" := by
    obtain ⟨sorted, hsorted, htext⟩ := exists_of_bind_eq_ok written
    obtain ⟨hcomparable, rfl⟩ := sortEntries_eq_ok hsorted
    rw [List.pairwise_map] at hcomparable ⊢
    exact ⟨hcomparable, (Except.ok.inj htext).symm⟩
  refine ⟨⟨?_, ?_⟩, ?_⟩
  · have hkeys : inOrder.map (·.1) = ((inKeyOrder (·.1) entries).map (·.1)).map saidKey := by
      simp [inOrder]
    rw [hkeys, ((perm.map (·.1)).map saidKey).nodup_iff]
    apply nodup_saidKeys nodup
    · intro key there
      obtain ⟨entry, hentry, rfl⟩ := List.mem_map.mp there
      exact (each entry hentry).2.2.2
    · intro key there
      obtain ⟨entry, hentry, rfl⟩ := List.mem_map.mp there
      exact ⟨_, (each entry hentry).1⟩
    · exact hcomparable
  · refine Value.areJsonEntries_iff.mpr fun entry there => ?_
    obtain ⟨entry, hentry, rfl⟩ := List.mem_map.mp there
    obtain ⟨written, -, json, formed⟩ := eachInOrder entry hentry
    have unpaired := unpaired_of_keyText formed written
    exact ⟨⟨(writtenOf entry).name, rfl, unpaired⟩, json⟩
  · -- Entries are put in order by the keys they had, and that order is kept for their texts.
    rw [write, writeEntries_saidKey eachInOrder, htext, ← map_inKeyOrder WrittenEntry.key writtenOf hordered]
    simp [objectText, Style.ascii, Function.comp_def, writtenOf]

/-! ## The canonical text is the text of what it says -/

/-- A text is written like the one with its pairs joined, which JSON can say. -/
theorem textSaid (t : String) {s : String} (written : Except.ok (stringText true t) = (.ok s : Except Failure String)) :
    (Value.text (Text.joinedText t)).IsJson ∧ write .ascii (.text (Text.joinedText t)) = .ok s := by
  refine ⟨fun _ => unpaired_joinedText t, ?_⟩
  rw [← written, ← stringText_joinedText t]
  rfl

mutual

/-- The canonical text of a value is the text of a value that JSON can say. -/
theorem write_said : (v : Value) → v.WellFormed → ∀ {s : String}, write .canonical v = .ok s →
    (said v).IsJson ∧ write .ascii (said v) = .ok s
  | .null, _, _, written => ⟨trivial, written⟩
  | .bool _, _, _, written => ⟨trivial, written⟩
  | .int _, _, _, written => ⟨trivial, written⟩
  | .double (.nan _), _, _, written => ⟨⟨trivial, fun _ same => (Double.nan.inj same).symm⟩, written⟩
  | .double (.infinite _), formed, _, written => ⟨⟨formed, fun _ same => nomatch same⟩, written⟩
  | .double (.finite ..), formed, _, written => ⟨⟨formed, fun _ same => nomatch same⟩, written⟩
  | .text t, _, _, written => textSaid t written
  | .list items, formed, s, written => by
    obtain ⟨texts, hitems, htext⟩ := exists_of_bind_eq_ok written
    obtain ⟨json, hsaid⟩ := writeItems_said items formed hitems
    refine ⟨json, ?_⟩
    rw [said, write, hsaid]
    exact htext
  | .map entries, formed, s, written => by
    obtain ⟨texts, hentries, htext⟩ := exists_of_bind_eq_ok written
    obtain ⟨each, rfl⟩ := writeEntries_said entries formed.2 hentries
    rw [said]
    apply write_said_map _ each htext
    rw [keys_saidEntries]
    exact formed.1
  | .loop .., _, _, written => textSaid _ written
  | .date _, _, _, written => textSaid _ written
  | .moment _, _, _, written => textSaid _ written
  | .object .., _, _, written => textSaid _ written
  | .built .., _, _, written => textSaid _ written

/-- What JSON says of items is JSON and is written like them: the induction of `write_said` on items. -/
theorem writeItems_said : (items : List Value) → Value.AllWellFormed items → ∀ {texts : List String},
    writeItems .canonical items = .ok texts →
      Value.AreJsonIn true (saidItems items) ∧ writeItems .ascii (saidItems items) = .ok texts
  | [], _, _, written => ⟨trivial, written⟩
  | item :: items, formed, texts, written => by
    obtain ⟨text, hitem, written⟩ := exists_of_bind_eq_ok written
    obtain ⟨others, hitems, htexts⟩ := exists_of_bind_eq_ok written
    obtain ⟨json, hsaid⟩ := write_said item formed.1 hitem
    obtain ⟨jsons, hothers⟩ := writeItems_said items formed.2 hitems
    refine ⟨⟨json, jsons⟩, ?_⟩
    rw [saidItems, writeItems, hsaid, hothers]
    exact htexts

/-- What JSON says of entries is JSON and is written like them: the induction of `write_said` on entries. -/
theorem writeEntries_said : (entries : List (Value × Value)) → Value.EntriesWellFormed entries →
    ∀ {texts : List WrittenEntry}, writeEntries .canonical entries = .ok texts →
      (∀ entry ∈ saidEntries entries, IsWritten entry) ∧ (saidEntries entries).map writtenOf = texts
  | [], _, _, written => ⟨(fun _ impossible => nomatch impossible), Except.ok.inj written⟩
  | (key, value) :: entries, formed, texts, written => by
    obtain ⟨name, hname, written⟩ := exists_of_bind_eq_ok written
    obtain ⟨text, hvalue, written⟩ := exists_of_bind_eq_ok written
    obtain ⟨others, hentries, htexts⟩ := exists_of_bind_eq_ok written
    obtain ⟨json, hsaid⟩ := write_said value formed.2.1 hvalue
    obtain ⟨each, hothers⟩ := writeEntries_said entries formed.2.2 hentries
    have hwritten : writtenOf (key, said value) = ⟨key, name, text⟩ := by
      simp [writtenOf, hname, hsaid, Except.toOption]
    constructor
    · rw [saidEntries, List.forall_mem_cons]
      refine ⟨⟨?_, ?_, json, formed.1⟩, each⟩
      · rw [hwritten]
        exact hname
      · rw [hwritten]
        exact hsaid
    · rw [saidEntries, List.map_cons, hwritten, hothers]
      exact Except.ok.inj htexts

end

/-- Values have the same canonical text exactly if it says the same of both. -/
theorem write_canonical_inj {v w : Value} (formed : v.WellFormed) (formed' : w.WellFormed) {s t : String}
    (written : write .canonical v = .ok s) (written' : write .canonical w = .ok t) : s = t ↔ said v = said w := by
  obtain ⟨json, hsaid⟩ := write_said v formed written
  obtain ⟨json', hsaid'⟩ := write_said w formed' written'
  constructor
  · -- The one text is read as what it says of either value.
    rintro rfl
    obtain ⟨text, htext, read⟩ := exists_write (said v) json
    obtain ⟨text', htext', read'⟩ := exists_write (said w) json'
    obtain rfl : text = s := Except.ok.inj (htext.symm.trans hsaid)
    obtain rfl : text' = text := Except.ok.inj (htext'.symm.trans hsaid')
    exact read.inj read'
  · intro same
    rw [same, hsaid'] at hsaid
    exact (Except.ok.inj hsaid).symm

/-! ## Values that JSON can say -/

/-- An entry with a text as its key. -/
def textEntry (field : String × Value) : Value × Value :=
  (.text field.1, field.2)

/-- A field and its entry determine each other. -/
theorem textEntry_injective : Function.Injective textEntry := by
  rintro ⟨s, v⟩ ⟨t, w⟩ same
  simpa [textEntry] using same

/-- Entries with texts as keys are fields. -/
theorem exists_map_textEntry {entries : Entries} (texts : ∀ entry ∈ entries, ∃ s, entry.1 = .text s) :
    ∃ fields : List (String × Value), entries = fields.map textEntry := by
  induction entries with
  | nil => exact ⟨[], rfl⟩
  | cons entry entries ih =>
    obtain ⟨fields, rfl⟩ := ih fun other there => texts other (List.mem_cons_of_mem _ there)
    obtain ⟨s, hs⟩ := texts entry List.mem_cons_self
    exact ⟨(s, entry.2) :: fields, by rw [List.map_cons, textEntry, ← hs]⟩

/-- Texts can be put in order. -/
theorem isOrdered_textEntry {fields : List (String × Value)} :
    ∀ entry ∈ fields.map textEntry, isOrdered entry.1 = true := by
  intro entry there
  obtain ⟨field, _, rfl⟩ := List.mem_map.mp there
  rfl

/-- The code points of a name, by which names are put in order. -/
def nameCodes (field : String × Value) : List Nat :=
  field.1.toList.map Text.codePoint

/-- The code points of a name determine it. -/
theorem nameCodes_inj {field other : String × Value} (same : nameCodes field = nameCodes other) : field.1 = other.1 :=
  String.toList_inj.mp ((List.map_injective_iff.mpr fun _ _ => Text.codePoint_inj) same)

/-- The earlier name first. -/
def earlierFirst (field other : String × Value) : Bool :=
  !Text.precedes other.1 field.1

/-- The earlier of two names has the smaller code points. -/
theorem earlierFirst_iff {field other : String × Value} :
    earlierFirst field other = true ↔ nameCodes field ≤ nameCodes other := by
  rw [earlierFirst, Bool.not_eq_true', Bool.eq_false_iff, ne_eq, Text.precedes_iff]
  exact not_lt

/-- Sorted fields stand in the order of their names. -/
theorem pairwise_earlierFirst (fields : List (String × Value)) :
    (fields.mergeSort earlierFirst).Pairwise fun a b => earlierFirst a b = true := by
  apply List.pairwise_mergeSort
  · intro a b c hab hbc
    rw [earlierFirst_iff] at hab hbc ⊢
    exact hab.trans hbc
  · intro a b
    rw [Bool.or_eq_true, earlierFirst_iff, earlierFirst_iff]
    exact le_total (nameCodes a) (nameCodes b)

/-- Entries with texts as keys are put in the order of their names. -/
theorem inKeyOrder_map_textEntry (fields : List (String × Value)) :
    inKeyOrder (·.1) (fields.map textEntry) = (fields.mergeSort earlierFirst).map textEntry := by
  rw [inKeyOrder_of_ordered isOrdered_textEntry]
  refine (List.map_mergeSort (f := textEntry) fun a _ b _ => ?_).symm
  rfl

/-- Entries with texts as keys, each once, are put in one order whatever the order they are given in. -/
theorem inKeyOrder_eq_of_perm {entries others : Entries} (texts : ∀ entry ∈ entries, ∃ s, entry.1 = .text s)
    (nodup : (entries.map (·.1)).Nodup) (perm : entries.Perm others) :
    inKeyOrder (·.1) entries = inKeyOrder (·.1) others := by
  obtain ⟨fields, rfl⟩ := exists_map_textEntry texts
  obtain ⟨fields', rfl⟩ := exists_map_textEntry fun entry there => texts entry (perm.mem_iff.mpr there)
  have permFields : fields.Perm fields' := (List.map_perm_map_iff textEntry_injective).mp perm
  have hnames : (fields.map (·.1)).Nodup := by
    rw [List.map_map] at nodup
    exact List.Nodup.of_map Value.text (by simpa [List.map_map, Function.comp_def, textEntry] using nodup)
  rw [inKeyOrder_map_textEntry, inKeyOrder_map_textEntry]
  congr 1
  refine List.Perm.eq_of_pairwise (fun a b there there' hab hba => ?_) (pairwise_earlierFirst fields)
    (pairwise_earlierFirst fields') ?_
  · -- Different entries have different names, so no two of them are each before the other.
    rw [earlierFirst_iff] at hab hba
    refine List.inj_on_of_nodup_map hnames ?_ ?_ (nameCodes_inj (le_antisymm hab hba))
    · exact (List.mergeSort_perm _ _).mem_iff.mp there
    · exact permFields.mem_iff.mpr ((List.mergeSort_perm _ _).mem_iff.mp there')
  · exact ((List.mergeSort_perm _ _).trans permFields).trans (List.mergeSort_perm _ _).symm

/-- What JSON says of entries with texts as keys has texts as keys. -/
theorem texts_saidEntries {entries : Entries} (texts : ∀ entry ∈ entries, ∃ s, entry.1 = .text s) :
    ∀ entry ∈ saidEntries entries, ∃ s, entry.1 = .text s := by
  intro entry there
  rw [saidEntries_eq_map] at there
  obtain ⟨given, hgiven, rfl⟩ := List.mem_map.mp there
  exact texts given hgiven

/-- What JSON says of a mapping with texts as keys are its entries in order. -/
theorem said_map_of_texts {entries : Entries} (texts : ∀ entry ∈ entries, ∃ s, entry.1 = .text s) :
    said (.map entries) = .map (inKeyOrder (·.1) (saidEntries entries)) := by
  have hkeep : ∀ entry ∈ inKeyOrder (·.1) (saidEntries entries), (saidKey entry.1, entry.2) = entry := by
    intro entry there
    rw [(inKeyOrder_perm _ _).mem_iff] at there
    obtain ⟨s, hs⟩ := texts_saidEntries texts entry there
    exact Prod.ext (by rw [hs]; rfl) rfl
  rw [said, List.map_congr_left hkeep, List.map_id']

mutual

/-- What JSON can say is well formed. -/
theorem wellFormed_of_isJson : (v : Value) → v.IsJson → v.WellFormed
  | .null, _ => trivial
  | .bool _, _ => trivial
  | .int _, _ => trivial
  | .double _, json => json.1
  | .text _, _ => trivial
  | .list items, json => allWellFormed_of_areJson items json
  | .map entries, json => ⟨json.1, entriesWellFormed_of_areJson entries json.2⟩

/-- Items that JSON can say are well-formed: the induction of `wellFormed_of_isJson` on items. -/
theorem allWellFormed_of_areJson : (items : List Value) → Value.AreJsonIn true items → Value.AllWellFormed items
  | [], _ => trivial
  | item :: items, json => ⟨wellFormed_of_isJson item json.1, allWellFormed_of_areJson items json.2⟩

/-- Entries that JSON can say are well-formed: the induction of `wellFormed_of_isJson` on entries. -/
theorem entriesWellFormed_of_areJson :
    (entries : List (Value × Value)) → Value.AreJsonEntriesIn true entries → Value.EntriesWellFormed entries
  | [], _ => trivial
  | (key, value) :: entries, ⟨⟨s, text, unpaired⟩, json, more⟩ => by
    refine ⟨⟨fun x double => ?_, fun t same => ?_⟩, wellFormed_of_isJson value json,
      entriesWellFormed_of_areJson entries more⟩
    · rw [text] at double
      cases double
    · obtain rfl := Value.text.inj (text.symm.trans same)
      exact unpaired rfl

end

/-- What JSON can say has no key but texts, which can be put in order. -/
theorem writable_of_isJson {style : Style} {v : Value} (json : v.IsJson) : Writable style v := by
  suffices whole : v.Throughout fun v => v.IsJson → Writable style v from whole.here json
  refine Value.throughout_of_parts (fun v inside json => ?_) v
  cases v with
  | list items => exact .list fun item there => (inside item there).here (Value.areJson_iff.mp json item there)
  | map entries =>
    have each := Value.areJsonEntries_iff.mp json.2
    have texts : ∀ key ∈ entries.map (·.1), ∃ s, key = Value.text s :=
      List.forall_mem_map.mpr fun entry there => (each entry there).1.imp fun _ => And.left
    refine .map (fun entry there => .inr (.inl (texts entry.1 (List.mem_map_of_mem there)))) (fun _ => .inl texts)
      fun entry there => ?_
    exact (inside entry.2 (Value.mem_parts_of_entry there)).here (each entry there).2
  | null | bool | int | double | text | loop | date | moment | object | built => exact .other rfl rfl

/-- What JSON can say has a canonical text. -/
theorem exists_write_canonical {v : Value} (json : v.IsJson) : ∃ s, write .canonical v = .ok s :=
  (exists_write_iff .canonical v).mpr (writable_of_isJson json)

mutual

/-- What is said of a value that JSON can say is the value rearranged. -/
theorem rearranged_said : (v : Value) → v.IsJson → v.Rearranged (said v)
  | .null, _ => .refl _
  | .bool _, _ => .refl _
  | .int _, _ => .refl _
  | .double (.nan origin), json => by
    obtain rfl := json.2 origin rfl
    exact .refl _
  | .double (.infinite _), _ => .refl _
  | .double (.finite ..), _ => .refl _
  | .text s, json => by
    rw [said, joinedText_of_unpaired (json rfl)]
    exact .refl _
  | .list items, json => .items (rearranged_saidItems items json)
  | .map entries, json => by
    have texts := Value.AreJsonEntriesIn.texts json.2
    rw [said_map_of_texts texts]
    refine (Value.Rearranged.values (rearranged_saidEntries entries json.2)).trans (.perm ?_)
    exact (inKeyOrder_perm _ _).symm

/-- Items are rearranged one by one in what JSON says of them: the induction of `rearranged_said` on items. -/
theorem rearranged_saidItems : (items : List Value) → Value.AreJsonIn true items →
    List.Forall₂ Value.Rearranged items (saidItems items)
  | [], _ => .nil
  | item :: items, json => .cons (rearranged_said item json.1) (rearranged_saidItems items json.2)

/-- Entries are rearranged one by one in what JSON says of them: the induction of `rearranged_said` on entries. -/
theorem rearranged_saidEntries : (entries : List (Value × Value)) → Value.AreJsonEntriesIn true entries →
    List.Forall₂ Value.RearrangedEntry entries (saidEntries entries)
  | [], _ => .nil
  | (_, value) :: entries, json =>
    .cons ⟨rfl, rearranged_said value json.2.1⟩ (rearranged_saidEntries entries json.2.2)

end

/-- JSON says the same of rearranged values. -/
theorem said_eq_of_rearranged {v w : Value} (same : v.Rearranged w) (json : v.IsJson) : said v = said w := by
  induction same with
  | refl v => rfl
  | trans first _ ih ih' => exact (ih json).trans (ih' (first.isJson json))
  | @perm entries others order =>
    have texts := Value.AreJsonEntriesIn.texts json.2
    rw [said_map_of_texts texts, said_map_of_texts fun entry there => texts entry (order.mem_iff.mpr there)]
    congr 1
    apply inKeyOrder_eq_of_perm (texts_saidEntries texts)
    · rw [keys_saidEntries]
      exact json.1
    · rw [saidEntries_eq_map, saidEntries_eq_map]
      exact order.map _
  | item before after _ ih =>
    have hsame := ih (Value.areJson_iff.mp json _ (List.mem_append_right _ List.mem_cons_self))
    simp only [said, saidItems_eq_map, List.map_append, List.map_cons, hsame]
  | entry before after key _ ih =>
    have hsame := ih (Value.areJsonEntries_iff.mp json.2 _ (List.mem_append_right _ List.mem_cons_self)).2
    simp only [said, saidEntries_eq_map, List.map_append, List.map_cons, hsame]

/-- The same is said of values that JSON can say exactly if they are rearranged. -/
theorem said_eq_iff_rearranged {v w : Value} (json : v.IsJson) (json' : w.IsJson) :
    said v = said w ↔ v.Rearranged w := by
  constructor
  · intro same
    have first := rearranged_said v json
    rw [same] at first
    exact first.trans (rearranged_said w json').symm
  · exact fun same => said_eq_of_rearranged same json

end Json

end DynamicBlocks
