import DynamicBlocks.Proofs.TotalResolution
import DynamicBlocks.Proofs.WritableValues
import Mathlib

/-!
# What can be shown in text

A value is shown by its items if it is a list or stands for a loop reference, as JSON if it is another mapping, and by
itself else. So there are values that cannot be shown: references to what cannot be gone through, and mappings with
keys that JSON refuses. A template becomes text exactly if each of its expressions comes to a value that can be shown.
With sources of which the loop references have items this leaves the keys of mappings, and with sources of which all
keys are plain every template becomes text.
-/

set_option autoImplicit false

namespace DynamicBlocks

namespace Value

/-- A value that can be shown in text. -/
inductive Displayable : Value → Prop where
  | list {items : List Value} (each : ∀ item ∈ items, Displayable item) : Displayable (.list items)
  | reference {v : Value} {r : LoopRef} {items : List Value} (stands : LoopRef.ofValue? v = some r)
      (gone : r.items = .ok items) (each : ∀ item ∈ items, Displayable item) : Displayable v
  | mapping {entries : Entries} (plain : LoopRef.ofValue? (.map entries) = none)
      (writable : Json.Writable .readable (.map entries)) : Displayable (.map entries)
  | other {v : Value} (plain : LoopRef.ofValue? v = none) (noList : v.isList = false) (noMap : v.isMap = false) :
      Displayable v

/-! ## How values are shown -/

/-- Items are displayed one by one. -/
theorem displayItems_eq_mapM (items : List Value) : displayItems items = items.mapM display := by
  induction items with
  | nil => rfl
  | cons item items ih => rw [displayItems, List.mapM_cons, ih]

/-- So are the keys of entries. -/
theorem displayKeys_eq_mapM (entries : Entries) : displayKeys entries = (entries.map (·.1)).mapM display := by
  induction entries with
  | nil => rfl
  | cons entry entries ih => rw [displayKeys, List.map_cons, List.mapM_cons, ih]

/-- A list is displayed as its items with commas between them. -/
theorem display_list (items : List Value) : (Value.list items).display = Text.join ", " <$> items.mapM display := by
  rw [display, displayItems_eq_mapM]
  rfl

/-- A text is displayed as it is. -/
theorem display_text (s : String) : (Value.text s).display = .ok s := by
  rw [display]

/-- So are the texts of a list. -/
theorem mapM_display_texts (xs : List String) : (xs.map text).mapM display = .ok xs := by
  induction xs with
  | nil => rfl
  | cons x xs ih =>
    rw [List.map_cons, List.mapM_cons, ih, display_text]
    rfl

/-- What going through a value yields is shown item by item. -/
theorem displaySeries_eq (v : Value) :
    v.displaySeries = v.series >>= fun items => Text.join ", " <$> items.mapM display := by
  cases v with
  | list items => rw [displaySeries, displayItems_eq_mapM]; rfl
  | map entries => rw [displaySeries, displayKeys_eq_mapM]; rfl
  | text s =>
    have chars : charTexts s = (s.toList.map String.singleton).map text := by
      rw [List.map_map]
      rfl
    show _ = Text.join ", " <$> (charTexts s).mapM display
    rw [chars, mapM_display_texts]
    rfl
  | null | bool | int | double | loop | date | moment | object | built => rfl

/-- The data of a loop reference is displayed as its items with commas between them. -/
theorem displayData_eq (entries : Entries) :
    displayData entries = Text.join ", " <$> (Entries.dataItems entries).mapM display := by
  induction entries with
  | nil => rfl
  | cons entry entries ih =>
    obtain ⟨key, value⟩ := entry
    have agrees : key.agrees (.text "data") = key.same (.text "data") := by
      simp [Value.agrees, Value.sharesOrigin]
    by_cases same : key.same (.text "data") = true
    · have found : Entries.field ((key, value) :: entries) "data" = value := by
        simp [Entries.field, Entries.field?, Entries.get?, agrees, same]
      rw [Entries.dataItems, found]
      cases value with
      | list items =>
        simp only [displayData, same, if_true, displayItems_eq_mapM]
        rfl
      | null | bool | int | double | text | map | loop | date | moment | object | built =>
        simp only [displayData, same, if_true]
        rfl
    · have missed : Entries.field ((key, value) :: entries) "data" = Entries.field entries "data" := by
        simp [Entries.field, Entries.field?, Entries.get?, agrees, same]
      rw [displayData.eq_def, Entries.dataItems, missed]
      simp only [if_neg same, ih]
      rfl

/-- A value that is or stands for a reference is shown by the items of the reference. -/
theorem display_of_reference {v : Value} {r : LoopRef} (stands : LoopRef.ofValue? v = some r) :
    v.display = r.items >>= fun items => Text.join ", " <$> items.mapM display := by
  cases v with
  | loop key data =>
    cases stands
    exact displaySeries_eq data
  | map entries =>
    have marked : Entries.isLoop entries = true := by
      by_contra unmarked
      simp [LoopRef.ofValue?, unmarked] at stands
    rw [display, if_pos marked, displayData_eq, LoopRef.items, LoopRef.data_of_map stands]
    rfl
  | null | bool | int | double | text | list | date | moment | object | built => cases stands

/-- A mapping that is no loop reference is displayed as JSON. -/
theorem display_map_of_plain {entries : Entries} (plain : LoopRef.ofValue? (.map entries) = none) :
    (Value.map entries).display = Json.write .readable (.map entries) := by
  cases marked : Entries.isLoop entries with
  | true => simp [LoopRef.ofValue?, marked] at plain
  | false => rw [display, if_neg (by simp [marked])]

/-! ## Which values can be shown -/

/-- Items have a joined text exactly if each of them has one. -/
theorem exists_join_iff {items : List Value} :
    (∃ s, Text.join ", " <$> items.mapM display = .ok s) ↔ ∀ item ∈ items, ∃ s, item.display = .ok s := by
  rw [exists_map_iff, exists_mapM_iff]

/-- A value is shown exactly if nothing it is shown by has keys that JSON refuses or cannot be gone through: an
induction on the value. -/
theorem exists_display_iff (v : Value) : (∃ s, v.display = .ok s) ↔ v.Displayable := by
  suffices whole : v.Throughout fun v => (∃ s, v.display = .ok s) ↔ v.Displayable from whole.here
  refine throughout_of_parts (fun v inside => ?_) v
  cases stands : LoopRef.ofValue? v with
  | some r =>
    have item {items : List Value} (gone : r.items = .ok items) {item : Value} (there : item ∈ items) :
        (∃ s, item.display = .ok s) ↔ item.Displayable := by
      have ofText (s : String) : (∃ t, (Value.text s).display = .ok t) ↔ (Value.text s).Displayable :=
        ⟨fun _ => .other rfl rfl rfl, fun _ => ⟨s, display_text s⟩⟩
      rcases mem_parts_of_reference stands with part | none_there
      · rcases mem_parts_of_series gone there with inner | ⟨s, rfl⟩
        · exact ((inside r.data part).part inner).here
        · exact ofText s
      · rcases mem_parts_of_series gone there with inner | ⟨s, rfl⟩
        · rw [none_there] at inner
          cases inner
        · exact ofText s
    rw [display_of_reference stands]
    constructor
    · rintro ⟨s, done⟩
      obtain ⟨items, gone, done⟩ := exists_of_bind_eq_ok done
      exact .reference stands gone fun x there => (item gone there).mp (exists_join_iff.mp ⟨s, done⟩ x there)
    · intro displayable
      cases displayable with
      | reference stands' gone each =>
        obtain rfl := Option.some.inj (stands.symm.trans stands')
        rw [gone]
        exact exists_join_iff.mpr fun x there => (item gone there).mpr (each x there)
      | list => cases stands
      | mapping plain => rw [plain] at stands; cases stands
      | other plain => rw [plain] at stands; cases stands
  | none =>
    cases v with
    | list items =>
      rw [display_list, exists_join_iff]
      constructor
      · exact fun each => .list fun x there => (inside x there).here.mp (each x there)
      · intro displayable
        cases displayable with
        | list each => exact fun x there => (inside x there).here.mpr (each x there)
        | reference stands' => rw [stands'] at stands; cases stands
        | other _ noList => cases noList
    | map entries =>
      rw [display_map_of_plain stands, Json.exists_write_iff]
      constructor
      · exact .mapping stands
      · intro displayable
        cases displayable with
        | mapping _ writable => exact writable
        | reference stands' => rw [stands'] at stands; cases stands
        | other _ _ noMap => cases noMap
    | loop key data => cases stands
    | null | bool | int | double | text | date | moment | object | built =>
      exact ⟨fun _ => .other rfl rfl rfl, fun _ => ⟨_, rfl⟩⟩

/-! ## Values of which all can be shown -/

/-- A value that is no reference without items and no mapping with keys that JSON refuses. -/
def Presentable (v : Value) : Prop :=
  v.HasItems ∧ ∀ entries, v = .map entries → ∀ entry ∈ entries, entry.1.IsJsonKey

instance : Settling Presentable where
  bare v bare := by
    have hasItems : v.HasItems := Lasting.bare v bare
    refine ⟨hasItems, fun entries same entry there => ?_⟩
    subst same
    obtain ⟨nothing, _⟩ := List.append_eq_nil_iff.mp bare
    rw [List.map_eq_nil_iff.mp nothing] at there
    cases there
  list items := ⟨Lasting.list items, fun _ same => nomatch same⟩
  named entries texts := by
    refine ⟨Lasting.named entries texts, fun others same entry there => ?_⟩
    cases same
    exact .inr (.inl (texts entry there))
  rekeyed entries others keys h := by
    refine ⟨Lasting.rekeyed entries others keys h.1, fun others' same entry there => ?_⟩
    cases same
    have key : entry.1 ∈ entries.map (·.1) := keys ▸ List.mem_map_of_mem there
    obtain ⟨old, hold, same⟩ := List.mem_map.mp key
    exact same ▸ h.2 entries rfl old hold
  loop key items := ⟨Lasting.loop key items, fun _ same => nomatch same⟩
  hasItems _ h := h.1

/-- Such a value is written as JSON, as long as entries keep their order. -/
theorem Throughout.writable {v : Value} (h : v.Throughout Presentable) : Json.Writable .readable v := by
  induction h with
  | @intro v here _ ih =>
    cases v with
    | list items => exact .list ih
    | map entries =>
      exact .map (here.2 entries rfl) (fun sorts => nomatch sorts)
        fun entry there => ih entry.2 (mem_parts_of_entry there)
    | null | bool | int | double | text | loop | date | moment | object | built => exact .other rfl rfl

/-- What is presentable throughout can be shown: an induction on the value. -/
theorem Throughout.displayable {v : Value} (h : v.Throughout Presentable) : v.Displayable := by
  suffices whole : v.Throughout fun v => v.Throughout Presentable → v.Displayable from whole.here h
  refine throughout_of_parts (fun v inside h => ?_) v
  cases stands : LoopRef.ofValue? v with
  | some r =>
    obtain ⟨items, gone⟩ := h.exists_items stands
    refine .reference stands gone fun item there => ?_
    have good := (h.reference stands).series gone item there
    rcases mem_parts_of_reference stands with part | none_there
    · rcases mem_parts_of_series gone there with inner | ⟨s, rfl⟩
      · exact ((inside r.data part).part inner).here good
      · exact .other rfl rfl rfl
    · rw [LoopRef.items, none_there] at gone
      cases gone
      cases there
  | none =>
    cases v with
    | list items => exact .list fun item there => (inside item there).here (h.items item there)
    | map entries => exact .mapping stands h.writable
    | loop key data => cases stands
    | null | bool | int | double | text | date | moment | object | built => exact .other stands rfl rfl

end Value

/-! ## Templates -/

/-- A template is filled exactly if there is a text for each of its expressions. -/
theorem exists_fillTemplate_iff {text : String} {replace : String → Except Failure String} :
    (∃ s, fillTemplate text replace = .ok s) ↔
      ∀ chars, Token.expression chars ∈ tokenize text → ∃ s, replace (String.ofList chars) = .ok s := by
  rw [fillTemplate, bind_pure_comp, exists_map_iff, exists_mapM_iff]
  constructor
  · exact fun each chars there => each (.expression chars) there
  · intro each token there
    cases token with
    | literal chars => exact ⟨_, rfl⟩
    | expression chars => exact each chars there

/-- A text is shown for an outcome exactly if it is a value that can be displayed. -/
theorem exists_shown_iff {outcome : Except Failure Value} {guard : String → String} :
    (∃ s, (do let v ← outcome; let text ← v.display; pure (guard text) : Except Failure String) = .ok s) ↔
      ∃ v, outcome = .ok v ∧ v.Displayable := by
  constructor
  · rintro ⟨s, done⟩
    obtain ⟨v, hv, done⟩ := exists_of_bind_eq_ok done
    obtain ⟨text, htext, _⟩ := exists_of_bind_eq_ok done
    exact ⟨v, hv, v.exists_display_iff.mp ⟨text, htext⟩⟩
  · rintro ⟨v, rfl, displayable⟩
    obtain ⟨text, htext⟩ := v.exists_display_iff.mpr displayable
    exact ⟨guard text, by show (v.display >>= _) = _; rw [htext]; rfl⟩

/-- Against sources whose loop references are of something that can be gone through, a template becomes text exactly if
each of its expressions comes to a value that can be shown, whatever is done with the texts. It fails for a value that
cannot be, or for data that is nested deeper than it may be; only for the latter if all keys are plain. -/
theorem exists_substituteWith_iff (zone : LocalZone) (guard : String → String) {sources : List Source}
    (sound : SourcesThroughout Value.HasItems sources) (s : String) :
    ((∃ t, substituteWith guard (builtinModifiersIn zone) sources s = .ok t) ↔
      ∀ chars, Token.expression chars ∈ tokenize s →
        ∃ v, evaluate (builtinModifiersIn zone) sources (String.ofList chars) = .ok v ∧ v.Displayable) ∧
    (∀ f, substituteWith guard (builtinModifiersIn zone) sources s = .error f → f = .wrongType ∨ f = .endless) ∧
    (SourcesThroughout Value.Presentable sources →
      ∀ f, substituteWith guard (builtinModifiersIn zone) sources s = .error f → f = .endless) := by
  refine ⟨?_, ?_, fun presentable => ?_⟩
  · unfold substituteWith
    rw [exists_fillTemplate_iff]
    exact forall₂_congr fun chars _ => exists_shown_iff
  · have : HasWrongType fun f => f = .wrongType ∨ f = .endless := ⟨.inl rfl⟩
    refine OnlyFails.fillTemplate s fun source => ?_
    have keeps : (builtinModifiersIn zone).Keeps Value.HasItems := builtinModifiersIn_keeps
    have ends := Ends.evaluateAt (p := fun f => f = .wrongType ∨ f = .endless) keeps builtinModifiersIn_onlyFails sound
      (.inr rfl) dataDepth source
    exact ends.fails.bind fun v => (OnlyFails.display v).bind fun _ => .ok _
  · refine OnlyFails.fillTemplate (p := (· = .endless)) s fun source => ?_
    have keeps : (builtinModifiersIn zone).Keeps Value.Presentable := builtinModifiersIn_keeps
    have ends := Ends.evaluateAt (p := (· = .endless)) keeps builtinModifiersIn_onlyFails presentable rfl dataDepth source
    have shown : Ends (fun _ => True) (· = .endless) (do
        let v ← evaluate (builtinModifiersIn zone) sources source
        let text ← v.display
        pure (guard text)) := by
      refine ends.bind fun v hv => ?_
      obtain ⟨text, htext⟩ := v.exists_display_iff.mpr hv.displayable
      rw [htext]
      exact .ok trivial
    exact shown.fails

/-- A title, and notes by day. -/
def datedNotes : List Source :=
  [⟨.text "title", .text "Week"⟩, ⟨.text "notes", .map [(.date ⟨2024, 1, 9⟩, .int 1)]⟩]

/-- All lists in the dated notes have items. -/
theorem datedNotes_hasItems : SourcesThroughout Value.HasItems datedNotes := by
  have notes : (Value.map [(.date ⟨2024, 1, 9⟩, .int 1)]).Throughout Value.HasItems := by
    refine .map (fun _ _ same => nomatch same) ?_
    simp
  simpa [SourcesThroughout, datedNotes] using notes

/-- A text that shows the title is filled. -/
theorem exists_substituteWith_iff_datedNotes :
    SourcesThroughout Value.HasItems datedNotes ∧
      ∃ t, substituteWith Html.escape builtinModifiers datedNotes "a {title} b" = .ok t := by
  refine ⟨datedNotes_hasItems, ?_⟩
  refine (exists_substituteWith_iff .utc Html.escape datedNotes_hasItems "a {title} b").1.mpr ?_
  intro chars there
  have tokens : tokenize "a {title} b" =
      [.literal ['a', ' '], .expression "title".toList, .literal [' ', 'b']] := by cbv
  simp only [tokens, List.mem_cons, List.not_mem_nil, or_false, reduceCtorEq, false_or, Token.expression.injEq] at there
  have title : evaluate (builtinModifiersIn .utc) datedNotes "title" = .ok (.text "Week") := by cbv
  exact ⟨.text "Week", by rw [there, String.ofList_toList, title], .other rfl rfl rfl⟩

/-- A text that shows the notes fails, escaped or not. -/
theorem substitute_datedNotes :
    SourcesThroughout Value.HasItems datedNotes ∧
      substitute builtinModifiers datedNotes "a {notes} b" = .error .wrongType ∧
      substituteWith Html.escape builtinModifiers datedNotes "a {notes} b" = .error .wrongType := by
  refine ⟨datedNotes_hasItems, ?_, ?_⟩
  · cbv
  · cbv

end DynamicBlocks
