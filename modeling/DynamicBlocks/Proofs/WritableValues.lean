import DynamicBlocks.Proofs.PartsOfValues

/-!
# What can be written as JSON

Values that JSON does not know are written as texts, so nothing but a mapping can be refused, for its keys: they have to
be texts, numbers, booleans or null, and where entries are put in order they have to be comparable as well, all of them
texts or all of them numbers. `Json.Writable` says so of a value at all depths, and a value is written exactly if it is
writable.
-/

set_option autoImplicit false

namespace DynamicBlocks

/-- A function of an outcome has a value exactly if the outcome has one. -/
theorem exists_map_iff {α β : Type} {f : α → β} {outcome : Except Failure α} :
    (∃ y, f <$> outcome = .ok y) ↔ ∃ x, outcome = .ok x := by
  cases outcome with
  | error f => constructor <;> exact fun ⟨_, done⟩ => nomatch done
  | ok x => exact ⟨fun _ => ⟨x, rfl⟩, fun _ => ⟨f x, rfl⟩⟩

/-- A sequence of outcomes, one for each item, succeeds exactly if each of them does: an induction on the items. -/
theorem exists_mapM_iff {α β : Type} {f : α → Except Failure β} {items : List α} :
    (∃ results, items.mapM f = .ok results) ↔ ∀ item ∈ items, ∃ result, f item = .ok result := by
  induction items with
  | nil => exact ⟨fun _ => by simp, fun _ => ⟨[], rfl⟩⟩
  | cons item items ih =>
    rw [List.mapM_cons, List.forall_mem_cons, ← ih]
    constructor
    · rintro ⟨results, done⟩
      obtain ⟨first, hfirst, done⟩ := exists_of_bind_eq_ok done
      obtain ⟨rest, hrest, _⟩ := exists_of_bind_eq_ok done
      exact ⟨⟨first, hfirst⟩, rest, hrest⟩
    · rintro ⟨⟨first, hfirst⟩, rest, hrest⟩
      exact ⟨first :: rest, by rw [hfirst, hrest]; rfl⟩

/-- A key that JSON takes: a text, a number, a boolean, or null. -/
def Value.IsJsonKey (key : Value) : Prop :=
  key = .null ∨ (∃ s, key = .text s) ∨ key.number?.isSome = true

/-- Keys that can be put in order: all of them texts, all of them numbers, or no two. -/
def KeysSortable (keys : List Value) : Prop :=
  (∀ key ∈ keys, ∃ s, key = Value.text s) ∨ (∀ key ∈ keys, key.number?.isSome = true) ∨ keys.length ≤ 1

namespace Json

/-- A value of which all mappings, at any depth, have keys that can be written. -/
inductive Writable (style : Style) : Value → Prop where
  | list {items : List Value} (each : ∀ item ∈ items, Writable style item) : Writable style (.list items)
  | map {entries : Entries} (keys : ∀ entry ∈ entries, entry.1.IsJsonKey)
      (sortable : style.sortKeys = true → KeysSortable (entries.map (·.1)))
      (each : ∀ entry ∈ entries, Writable style entry.2) : Writable style (.map entries)
  | other {v : Value} (noList : v.isList = false) (noMap : v.isMap = false) : Writable style v

/-- A key has a text exactly if JSON allows it as a key. -/
theorem exists_keyText_iff {key : Value} : (∃ s, keyText key = .ok s) ↔ key.IsJsonKey := by
  cases key <;> simp [keyText, Value.IsJsonKey, Value.number?]

/-- Keys can be compared with the first one exactly if all of them can be sorted. -/
theorem all_comparable_iff {first : Value} {more : List Value} :
    (∀ key ∈ more, comparable first key = true) ↔ KeysSortable (first :: more) := by
  unfold KeysSortable
  constructor
  · intro all
    cases more with
    | nil => exact .inr (.inr (Nat.le_refl 1))
    | cons second more =>
      have hsecond := all second List.mem_cons_self
      by_cases text : ∃ s, first = .text s
      · obtain ⟨s, rfl⟩ := text
        refine .inl (List.forall_mem_cons.mpr ⟨⟨s, rfl⟩, fun key there => ?_⟩)
        have hkey := all key there
        cases key <;> simp [comparable, Value.number?] at hkey ⊢
      · have number (key : Value) (h : comparable first key = true) :
            first.number?.isSome = true ∧ key.number?.isSome = true := by
          unfold comparable at h
          split at h
          · exact absurd ⟨_, rfl⟩ text
          · simpa using h
        exact .inr (.inl (List.forall_mem_cons.mpr
          ⟨(number second hsecond).1, fun key there => (number key (all key there)).2⟩))
  · rintro (texts | numbers | few) key there
    · obtain ⟨s, rfl⟩ := texts first List.mem_cons_self
      obtain ⟨t, rfl⟩ := texts key (List.mem_cons_of_mem _ there)
      rfl
    · have hfirst := numbers first List.mem_cons_self
      have hkey := numbers key (List.mem_cons_of_mem _ there)
      unfold comparable
      split
      · rfl
      · simp [hfirst, hkey]
    · have none_left : more = [] := List.eq_nil_of_length_eq_zero (Nat.le_zero.mp (Nat.le_of_succ_le_succ few))
      rw [none_left] at there
      exact absurd there List.not_mem_nil

/-- Entries can be sorted exactly if their keys can be. -/
theorem exists_sortEntries_iff {entries : List WrittenEntry} :
    (∃ sorted, sortEntries entries = .ok sorted) ↔ KeysSortable (entries.map (·.key)) := by
  cases entries with
  | nil => exact ⟨fun _ => .inl (by simp), fun _ => ⟨[], rfl⟩⟩
  | cons first more =>
    have same : (∀ key ∈ more.map (·.key), comparable first.key key = true) ↔
        (more.all fun entry => comparable first.key entry.key) = true := by
      simp
    rw [List.map_cons, ← all_comparable_iff, same, sortEntries]
    cases more.all fun entry => comparable first.key entry.key <;> simp

/-- An object has a text exactly if its keys can be sorted or need not be. -/
theorem exists_objectText_iff {style : Style} {entries : List WrittenEntry} :
    (∃ s, objectText style entries = .ok s) ↔ (style.sortKeys = true → KeysSortable (entries.map (·.key))) := by
  unfold objectText
  by_cases sorts : style.sortKeys = true
  · rw [if_pos sorts, bind_pure_comp, exists_map_iff, exists_sortEntries_iff]
    exact ⟨fun sortable _ => sortable, fun sortable => sortable sorts⟩
  · rw [if_neg sorts]
    exact ⟨fun _ impossible => absurd impossible sorts, fun _ => ⟨_, rfl⟩⟩

/-- Items are written one by one. -/
theorem writeItems_eq_mapM (style : Style) (items : List Value) :
    writeItems style items = items.mapM (write style) := by
  induction items with
  | nil => rfl
  | cons item items ih => rw [writeItems, List.mapM_cons, ih]

/-- Entries can be written exactly if JSON allows their keys and their values can be written. -/
theorem exists_writeEntries_iff {style : Style} {entries : Entries} :
    (∃ written, writeEntries style entries = .ok written) ↔
      ∀ entry ∈ entries, entry.1.IsJsonKey ∧ ∃ s, write style entry.2 = .ok s := by
  induction entries with
  | nil => exact ⟨fun _ => by simp, fun _ => ⟨[], rfl⟩⟩
  | cons entry entries ih =>
    rw [writeEntries, List.forall_mem_cons, ← ih, ← exists_keyText_iff]
    constructor
    · rintro ⟨written, done⟩
      obtain ⟨name, hname, done⟩ := exists_of_bind_eq_ok done
      obtain ⟨text, htext, done⟩ := exists_of_bind_eq_ok done
      obtain ⟨rest, hrest, done⟩ := exists_of_bind_eq_ok done
      exact ⟨⟨⟨name, hname⟩, text, htext⟩, rest, hrest⟩
    · rintro ⟨⟨⟨name, hname⟩, text, htext⟩, rest, hrest⟩
      exact ⟨⟨entry.1, name, text⟩ :: rest, by rw [hname, htext, hrest]; rfl⟩

/-- Entries are written one by one, each under its key. -/
theorem keys_of_writeEntries {style : Style} {entries : Entries} {written : List WrittenEntry}
    (done : writeEntries style entries = .ok written) : written.map (·.key) = entries.map (·.1) := by
  induction entries generalizing written with
  | nil =>
    cases done
    rfl
  | cons entry entries ih =>
    obtain ⟨name, _, done⟩ := exists_of_bind_eq_ok done
    obtain ⟨text, _, done⟩ := exists_of_bind_eq_ok done
    obtain ⟨rest, hrest, done⟩ := exists_of_bind_eq_ok done
    cases done
    exact congrArg (entry.1 :: ·) (ih hrest)

/-- A value is written exactly if all mappings in it have keys that can be: an induction on the value. -/
theorem exists_write_iff (style : Style) (v : Value) : (∃ s, write style v = .ok s) ↔ Writable style v := by
  suffices whole : v.Throughout fun v => (∃ s, write style v = .ok s) ↔ Writable style v from whole.here
  refine Value.throughout_of_parts (fun v inside => ?_) v
  have plain (noList : v.isList = false) (noMap : v.isMap = false) (written : ∃ s, write style v = .ok s) :
      (∃ s, write style v = .ok s) ↔ Writable style v := ⟨fun _ => .other noList noMap, fun _ => written⟩
  cases v with
  | list items =>
    rw [write, bind_pure_comp, exists_map_iff, writeItems_eq_mapM, exists_mapM_iff]
    constructor
    · exact fun each => .list fun item there => (inside item there).here.mp (each item there)
    · intro writable
      cases writable with
      | list each => exact fun item there => (inside item there).here.mpr (each item there)
      | other noList _ => cases noList
  | map entries =>
    have value (entry : Value × Value) (there : entry ∈ entries) :
        (∃ s, write style entry.2 = .ok s) ↔ Writable style entry.2 :=
      (inside entry.2 (Value.mem_parts_of_entry there)).here
    constructor
    · rintro ⟨s, done⟩
      obtain ⟨written, hwritten, done⟩ := exists_of_bind_eq_ok (by rwa [write] at done)
      have keys := keys_of_writeEntries hwritten
      have each := exists_writeEntries_iff.mp ⟨written, hwritten⟩
      have sortable := exists_objectText_iff.mp ⟨s, done⟩
      rw [keys] at sortable
      exact .map (fun entry there => (each entry there).1) sortable
        fun entry there => (value entry there).mp (each entry there).2
    · intro writable
      cases writable with
      | map keys sortable each =>
        obtain ⟨written, hwritten⟩ := exists_writeEntries_iff.mpr fun entry there =>
          ⟨keys entry there, (value entry there).mpr (each entry there)⟩
        rw [← keys_of_writeEntries hwritten, ← exists_objectText_iff] at sortable
        obtain ⟨s, done⟩ := sortable
        exact ⟨s, by rw [write, hwritten]; exact done⟩
      | other _ noMap => cases noMap
  | null | bool | int | double | text | loop | date | moment | object | built => exact plain rfl rfl ⟨_, rfl⟩

end Json

end DynamicBlocks
