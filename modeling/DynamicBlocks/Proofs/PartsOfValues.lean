import DynamicBlocks.Expression.Literal
import DynamicBlocks.Resolve.Walk

/-!
# What holds throughout values

A value holds others: a list its items, a mapping its keys and values, a reference its data. `Value.Throughout good`
says that something holds of a value and of everything inside it, at any depth. Where it holds of what an expression
starts from it holds of all that keys, indexes and members lead to, since these are parts. It holds of what is made
anew too, provided that lists and mappings made of good values are good in turn (`Value.Lasting`).
-/

set_option autoImplicit false

namespace DynamicBlocks

/-- The values that a value holds directly. -/
def Value.parts : Value → List Value
  | .list items => items
  | .map entries => entries.map (·.1) ++ entries.map (·.2)
  | .loop _ data => [data]
  | .object _ fields => fields.map (·.2)
  | .built _ fields => fields.map (·.2)
  | _ => []

/-- The items that a mapping holds as its data. -/
def Entries.dataItems (entries : Entries) : List Value :=
  match entries.field "data" with
  | .list items => items
  | _ => []

/-- The items of a reference that a mapping stands for are those. -/
theorem LoopRef.data_of_map {entries : Entries} {r : LoopRef} (stands : ofValue? (.map entries) = some r) :
    r.data = .list entries.dataItems := by
  cases marked : Entries.isLoop entries with
  | false => simp [ofValue?, marked] at stands
  | true =>
    simp only [ofValue?, marked, if_true, Option.some.injEq] at stands
    subst stands
    unfold Entries.dataItems
    cases entries.field "data" <;> rfl

/-- Something holds of a value and of all that it holds, at any depth. -/
inductive Value.Throughout (good : Value → Prop) : Value → Prop where
  | intro {v : Value} (here : good v) (inside : ∀ w ∈ v.parts, Throughout good w) : Throughout good v

/-- What holds of values that hold nothing, of any list, and of mappings according to their keys. -/
class Value.Lasting (good : Value → Prop) : Prop where
  bare : ∀ v : Value, v.parts = [] → good v
  list : ∀ items, good (.list items)
  /-- Mappings with texts as keys are good. -/
  named : ∀ entries : Entries, (∀ entry ∈ entries, ∃ s, entry.1 = .text s) → good (.map entries)
  /-- So is a mapping with the keys of a good one. -/
  rekeyed : ∀ entries others : Entries, others.map (·.1) = entries.map (·.1) → good (.map entries) → good (.map others)
  loop : ∀ key items, good (.loop key (.list items))

namespace Value

/-! ## Going down -/

/-- A part is smaller than the value it is part of. -/
theorem sizeOf_lt_of_mem_parts {v w : Value} (part : w ∈ v.parts) : sizeOf w < sizeOf v := by
  have field {fields : List (String × Value)} (part : w ∈ fields.map (·.2)) : sizeOf w < sizeOf fields := by
    obtain ⟨⟨name, w⟩, there, rfl⟩ := List.mem_map.mp part
    have smaller := List.sizeOf_lt_of_mem there
    simp only [Prod.mk.sizeOf_spec] at smaller
    dsimp only
    omega
  cases v with
  | list items =>
    have smaller : sizeOf w < sizeOf items := List.sizeOf_lt_of_mem part
    simp only [list.sizeOf_spec]
    omega
  | map entries =>
    simp only [map.sizeOf_spec]
    rcases List.mem_append.mp part with key | value
    · obtain ⟨⟨key, value⟩, there, rfl⟩ := List.mem_map.mp key
      have smaller := List.sizeOf_lt_of_mem there
      simp only [Prod.mk.sizeOf_spec] at smaller
      dsimp only
      omega
    · obtain ⟨⟨key, value⟩, there, rfl⟩ := List.mem_map.mp value
      have smaller := List.sizeOf_lt_of_mem there
      simp only [Prod.mk.sizeOf_spec] at smaller
      dsimp only
      omega
  | loop key data =>
    obtain rfl := List.mem_singleton.mp part
    simp only [loop.sizeOf_spec]
    omega
  | object identity fields =>
    have smaller := field part
    simp only [object.sizeOf_spec]
    omega
  | built kind fields =>
    have smaller := field part
    simp only [built.sizeOf_spec]
    omega
  | null | bool | int | double | text | date | moment => cases part

/-- What going through a value yields are parts of it, and the characters of a text. -/
theorem mem_parts_of_series {v item : Value} {items : List Value} (gone : v.series = .ok items) (there : item ∈ items) :
    item ∈ v.parts ∨ ∃ s, item = .text s := by
  cases v with
  | list items =>
    cases gone
    exact .inl there
  | map entries =>
    cases gone
    exact .inl (List.mem_append_left _ there)
  | text s =>
    cases gone
    obtain ⟨c, _, rfl⟩ := List.mem_map.mp there
    exact .inr ⟨_, rfl⟩
  | null | bool | int | double | loop | date | moment | object | built => cases gone

/-- The data of a reference is part of the value, unless it is a list without items. -/
theorem mem_parts_of_reference {v : Value} {r : LoopRef} (stands : LoopRef.ofValue? v = some r) :
    r.data ∈ v.parts ∨ r.data = .list [] := by
  cases v with
  | loop key data =>
    cases stands
    exact .inl (List.mem_singleton.mpr rfl)
  | map entries =>
    rw [LoopRef.data_of_map stands, Entries.dataItems]
    split
    · rename_i items held
      cases found : Entries.field? entries "data" with
      | none => simp [Entries.field, found] at held
      | some w =>
        obtain ⟨entry, there, rfl⟩ := Option.map_eq_some_iff.mp found
        rw [Entries.field, found, Option.getD_some] at held
        have part := List.mem_map_of_mem (f := (·.2)) (List.mem_of_find?_eq_some there)
        exact .inl (held ▸ List.mem_append_right _ part)
    · exact .inr rfl
  | null | bool | int | double | text | list | date | moment | object | built => cases stands

/-- The values of entries are parts of a mapping. -/
theorem mem_parts_of_entry {entries : Entries} {entry : Value × Value} (there : entry ∈ entries) :
    entry.2 ∈ (Value.map entries).parts :=
  List.mem_append_right _ (List.mem_map_of_mem there)

/-- What holds of a value once it holds throughout its parts holds throughout every value: an induction on the size. -/
theorem throughout_of_parts {good : Value → Prop} (step : ∀ v : Value, (∀ w ∈ v.parts, w.Throughout good) → good v)
    (v : Value) : v.Throughout good := by
  induction size : sizeOf v using Nat.strongRecOn generalizing v with
  | ind n ih =>
    have inside (w : Value) (part : w ∈ v.parts) : w.Throughout good :=
      ih (sizeOf w) (size ▸ sizeOf_lt_of_mem_parts part) w rfl
    exact .intro (step v inside) inside

namespace Throughout

variable {good : Value → Prop}

/-- What holds throughout a value holds of it. -/
theorem here {v : Value} (h : v.Throughout good) : good v := by
  cases h with
  | intro here _ => exact here

/-- It holds throughout all parts of the value. -/
theorem part {v w : Value} (h : v.Throughout good) (part : w ∈ v.parts) : w.Throughout good := by
  cases h with
  | intro _ inside => exact inside w part

/-- It holds throughout the items of a list. -/
theorem items {items : List Value} (h : (Value.list items).Throughout good) : ∀ item ∈ items, item.Throughout good :=
  fun _ there => h.part there

/-- It holds throughout a mapping if it does throughout its keys and values. -/
theorem map {entries : Entries} (here : good (.map entries))
    (inside : ∀ entry ∈ entries, entry.1.Throughout good ∧ entry.2.Throughout good) :
    (Value.map entries).Throughout good := by
  refine .intro here fun w part => ?_
  rcases List.mem_append.mp part with key | value
  · obtain ⟨entry, there, rfl⟩ := List.mem_map.mp key
    exact (inside entry there).1
  · obtain ⟨entry, there, rfl⟩ := List.mem_map.mp value
    exact (inside entry there).2

/-- It holds throughout the values of a mapping. -/
theorem value {entries : Entries} (h : (Value.map entries).Throughout good) {entry : Value × Value}
    (there : entry ∈ entries) : entry.2.Throughout good :=
  h.part (mem_parts_of_entry there)

/-- It holds throughout what a reference is of. -/
theorem data {key : String} {data : Value} (h : (Value.loop key data).Throughout good) : data.Throughout good :=
  h.part (List.mem_singleton.mpr rfl)

/-- It holds throughout what stands under a key. -/
theorem get? {entries : Entries} (h : (Value.map entries).Throughout good) {key w : Value}
    (found : Entries.get? entries key = some w) : w.Throughout good := by
  obtain ⟨entry, hentry, rfl⟩ := Option.map_eq_some_iff.mp found
  exact h.value (List.mem_of_find?_eq_some hentry)

/-- It holds throughout a value that may be missing if it does throughout what stands in for it. -/
theorem getD {found : Option Value} {other : Value} (h : ∀ w, found = some w → w.Throughout good)
    (instead : other.Throughout good) : (found.getD other).Throughout good := by
  cases found with
  | none => exact instead
  | some w => exact h w rfl

/-- It holds throughout the fields of an object. -/
theorem fieldOf {fields : List (String × Value)} (h : ∀ w ∈ fields.map (·.2), w.Throughout good) {name : String}
    {w : Value} (found : fields.lookup name = some w) : w.Throughout good :=
  h w (List.mem_map_of_mem (mem_of_lookup_eq_some found))

end Throughout

/-! ## Making values -/

section

variable {good : Value → Prop} [Lasting good]

/-- What is lasting holds throughout values without parts. -/
theorem throughout_of_bare {v : Value} (bare : v.parts = []) : v.Throughout good :=
  .intro (Lasting.bare v bare) (by simp [bare])

/-- What is lasting holds of null. -/
@[simp] theorem throughout_null : Value.null.Throughout good := throughout_of_bare rfl

/-- It holds of booleans. -/
@[simp] theorem throughout_bool (b : Bool) : (Value.bool b).Throughout good := throughout_of_bare rfl

/-- It holds of integers. -/
@[simp] theorem throughout_int (n : Int) : (Value.int n).Throughout good := throughout_of_bare rfl

/-- It holds of doubles. -/
@[simp] theorem throughout_double (x : Double) : (Value.double x).Throughout good := throughout_of_bare rfl

/-- It holds of texts. -/
@[simp] theorem throughout_text (s : String) : (Value.text s).Throughout good := throughout_of_bare rfl

/-- It holds of dates. -/
@[simp] theorem throughout_date (d : Date) : (Value.date d).Throughout good := throughout_of_bare rfl

/-- It holds of moments. -/
@[simp] theorem throughout_moment (m : Moment) : (Value.moment m).Throughout good := throughout_of_bare rfl

/-- It holds of numbers. -/
@[simp] theorem throughout_ofNumber (n : Number) : (Value.ofNumber n).Throughout good := by
  cases n <;> exact throughout_of_bare rfl

/-- It holds throughout a list exactly if it does throughout the items. -/
@[simp] theorem throughout_list {items : List Value} :
    (Value.list items).Throughout good ↔ ∀ item ∈ items, item.Throughout good := by
  constructor
  · exact Throughout.items
  · exact fun each => .intro (Lasting.list items) each

/-- It holds throughout a reference to a list exactly if it does throughout the items. -/
@[simp] theorem throughout_loop_list {key : String} {items : List Value} :
    (Value.loop key (.list items)).Throughout good ↔ ∀ item ∈ items, item.Throughout good := by
  constructor
  · exact fun h => h.data.items
  · intro each
    refine .intro (Lasting.loop key items) fun w part => ?_
    obtain rfl := List.mem_singleton.mp part
    exact throughout_list.mpr each

/-- A mapping whose keys are texts. -/
theorem throughout_map_of_texts {entries : Entries} (texts : ∀ entry ∈ entries, ∃ s, entry.1 = .text s)
    (values : ∀ entry ∈ entries, entry.2.Throughout good) : (Value.map entries).Throughout good := by
  refine .map (Lasting.named entries texts) fun entry there => ⟨?_, values entry there⟩
  obtain ⟨s, hs⟩ := texts entry there
  rw [hs]
  exact throughout_text s

/-- A mapping with other values under the same keys. -/
theorem throughout_map_of_keys {entries others : Entries} (keys : others.map (·.1) = entries.map (·.1))
    (h : (Value.map entries).Throughout good) (values : ∀ entry ∈ others, entry.2.Throughout good) :
    (Value.map others).Throughout good := by
  refine .intro (Lasting.rekeyed entries others keys h.here) fun w part => ?_
  rcases List.mem_append.mp part with key | value
  · rw [keys] at key
    exact h.part (List.mem_append_left _ key)
  · obtain ⟨entry, there, rfl⟩ := List.mem_map.mp value
    exact values entry there

/-! ## Reading values -/

/-- The parts of a number hold nothing. -/
theorem throughout_numberParts (number : Number) : ∀ w ∈ (numberParts number).map (·.2), w.Throughout good := by
  cases number <;> simp [numberParts]

/-- The parts of a day hold nothing. -/
theorem throughout_dateParts (d : Date) : ∀ w ∈ (dateParts d).map (·.2), w.Throughout good := by
  simp [dateParts]

/-- The parts of a moment hold nothing. -/
theorem throughout_momentParts (m : Moment) : ∀ w ∈ (momentParts m).map (·.2), w.Throughout good := by
  unfold momentParts
  rw [List.map_append]
  refine List.forall_mem_append.mpr ⟨?_, throughout_dateParts m.date⟩
  split <;> simp

namespace Throughout

/-- What holds throughout a mapping holds throughout its fields. -/
theorem field {entries : Entries} (h : (Value.map entries).Throughout good) (name : String) :
    (Entries.field entries name).Throughout good :=
  getD (fun _ found => h.get? found) throughout_null

/-- It holds throughout the query arguments of a preset. -/
theorem presetArgs {fields : List (String × Value)} (h : ∀ w ∈ fields.map (·.2), w.Throughout good) :
    (Value.presetArgs fields).Throughout good := by
  have none_there : (Value.map []).Throughout good := throughout_map_of_texts (by simp) (by simp)
  unfold Value.presetArgs
  split
  · rename_i config found
    have hargs := (fieldOf h found).field "args"
    split
    · rename_i args same
      exact same ▸ hargs
    · exact none_there
  · exact none_there

/-- It holds throughout members. -/
theorem member? {v w : Value} (h : v.Throughout good) {name : String} (found : v.member? name = some w) :
    w.Throughout good := by
  unfold Value.member? at found
  split at found
  · cases found
  · cases v with
    | loop key data =>
      have inside : ∀ x ∈ [("key", Value.text key), ("data", data)].map (·.2), x.Throughout good := by simpa using h.data
      exact fieldOf inside found
    | date d => exact fieldOf (throughout_dateParts d) found
    | moment m => exact fieldOf (throughout_momentParts m) found
    | object identity fields => exact fieldOf (fun x part => h.part part) found
    | built kind fields =>
      have inside : ∀ x ∈ fields.map (·.2), x.Throughout good := fun x part => h.part part
      cases kind with
      | preset =>
        rcases Option.or_eq_some_iff.mp found with held | ⟨_, args⟩
        · exact fieldOf inside held
        · split at args
          · cases args
            exact presetArgs inside
          · cases args
      | block | entry | source => exact fieldOf inside found
    | null | bool | int | double | text | list | map => cases found

/-- It holds throughout what a value holds under a name. -/
theorem heldUnder {v : Value} (h : v.Throughout good) (name : String) : (v.heldUnder name).Throughout good := by
  unfold Value.heldUnder
  split
  · exact h.field name
  · refine getD (fun w found => ?_) throughout_null
    split at found
    · exact fieldOf (throughout_numberParts _) found
    · exact h.member? found

/-- It holds throughout what a step by key leads to. -/
theorem lookup? {v w : Value} (h : v.Throughout good) {name : String} (found : v.lookup? name = some w) :
    w.Throughout good := by
  cases v with
  | map entries =>
    unfold Value.lookup? at found
    cases held : Entries.field? entries name with
    | some x =>
      simp only [held, Option.some.injEq] at found
      exact found ▸ h.get? held
    | none =>
      simp only [held] at found
      obtain ⟨n, _, hget⟩ := Option.bind_eq_some_iff.mp found
      exact h.get? hget
  | list items =>
    obtain ⟨n, _, hget⟩ := Option.bind_eq_some_iff.mp found
    exact h.items w (List.mem_of_getElem? hget)
  | null | bool | int | double | text | loop | date | moment | object | built => exact h.member? found

/-- It holds throughout what a value is gone through for. -/
theorem series {v : Value} (h : v.Throughout good) {items : List Value} (gone : v.series = .ok items) :
    ∀ item ∈ items, item.Throughout good := by
  intro item there
  rcases mem_parts_of_series gone there with part | ⟨s, rfl⟩
  · exact h.part part
  · exact throughout_text s

/-- The data of the reference that a value is or stands for. -/
theorem reference {v : Value} (h : v.Throughout good) {r : LoopRef} (stands : LoopRef.ofValue? v = some r) :
    r.data.Throughout good := by
  rcases mem_parts_of_reference stands with part | none_there
  · exact h.part part
  · rw [none_there]
    exact throughout_list.mpr (by simp)

/-- It holds throughout the items that take the place of a reference. -/
theorem unwrap {v w : Value} (h : v.Throughout good) (unwrapped : v.unwrap = .ok w) : w.Throughout good := by
  unfold Value.unwrap at unwrapped
  split at unwrapped
  · rename_i r stands
    cases gone : r.items with
    | error f =>
      rw [gone] at unwrapped
      cases unwrapped
    | ok items =>
      rw [gone] at unwrapped
      cases unwrapped
      exact throughout_list.mpr ((h.reference stands).series gone)
  · cases unwrapped
    exact h

end Throughout

end

end Value

/-! ## Literals -/

section

variable {good : Value → Prop} [Value.Lasting good]

/-- Entries of which keys are texts and values are good, which is what JSON objects are made of. -/
def Entries.Reads (good : Value → Prop) (entries : Entries) : Prop :=
  ∀ entry ∈ entries, (∃ s, entry.1 = .text s) ∧ entry.2.Throughout good

omit [Value.Lasting good] in
/-- Entries that were read stay so with another one. -/
theorem Entries.Reads.insert {entries : Entries} (reads : entries.Reads good) {entry : Value × Value}
    (h : (∃ s, entry.1 = .text s) ∧ entry.2.Throughout good) : (entries.insert entry.1 entry.2).Reads good := by
  intro e there
  unfold Entries.insert at there
  split at there
  · obtain ⟨old, hold, rfl⟩ := List.mem_map.mp there
    split
    · exact ⟨(reads old hold).1, h.2⟩
    · exact reads old hold
  · rcases List.mem_append.mp there with old | new
    · exact reads e old
    · rw [List.mem_singleton.mp new]
      exact h

omit [Value.Lasting good] in
/-- Pairs that were read are read as entries. -/
theorem Entries.Reads.ofPairs {pairs : Entries} (reads : pairs.Reads good) : (Entries.ofPairs pairs).Reads good := by
  have more (done : Entries) (hdone : done.Reads good) : (done.insertAll pairs).Reads good := by
    induction pairs generalizing done with
    | nil => exact hdone
    | cons pair pairs ih =>
      have own := hdone.insert (reads pair List.mem_cons_self)
      exact ih (fun e there => reads e (List.mem_cons_of_mem pair there)) _ own
  exact more [] (by simp [Entries.Reads])

/-- What is lasting holds throughout a mapping that was read. -/
theorem Entries.Reads.throughout {entries : Entries} (reads : entries.Reads good) :
    (Value.map entries).Throughout good :=
  Value.throughout_map_of_texts (fun entry there => (reads entry there).1) fun entry there => (reads entry there).2

namespace Json

/-- What is lasting holds throughout a constant of JSON. -/
theorem throughout_of_takeConstant? {cs rest : List Char} {v : Value} (taken : takeConstant? cs = some (v, rest)) :
    v.Throughout good := by
  obtain ⟨word, there, read⟩ := List.exists_of_findSome?_eq_some taken
  obtain ⟨after, _, same⟩ := Option.map_eq_some_iff.mp read
  cases same
  simp only [List.mem_cons, List.not_mem_nil, or_false] at there
  rcases there with rfl | rfl | rfl | rfl | rfl | rfl <;> simp

/-- What is lasting holds throughout a number of JSON. -/
theorem throughout_of_takeNumber? {cs rest : List Char} {v : Value} (taken : takeNumber? cs = some (v, rest)) :
    v.Throughout good := by
  unfold takeNumber? at taken
  simp only [Option.bind_eq_bind, Option.bind_eq_some_iff] at taken
  obtain ⟨_, _, taken⟩ := taken
  split at taken <;> (cases taken; simp)

/-- Values, items and members that are read from JSON: an induction on the depth. -/
theorem throughout_of_take (depth : Nat) :
    (∀ cs v rest, takeValue? depth cs = some (v, rest) → v.Throughout good) ∧
    (∀ cs items rest, takeItems? depth cs = some (items, rest) → ∀ item ∈ items, item.Throughout good) ∧
    (∀ cs pairs rest, takeMembers? depth cs = some (pairs, rest) → Entries.Reads good pairs) := by
  induction depth with
  | zero =>
    refine ⟨fun cs v rest taken => ?_, fun cs items rest taken => ?_, fun cs pairs rest taken => ?_⟩
    · simp [takeValue?] at taken
    · simp [takeItems?] at taken
    · simp [takeMembers?] at taken
  | succ depth ih =>
    obtain ⟨values, lists, members⟩ := ih
    refine ⟨fun cs v rest taken => ?_, fun cs items rest taken => ?_, fun cs pairs rest taken => ?_⟩
    · unfold takeValue? at taken
      split at taken
      · cases taken
      · obtain ⟨_, _, taken⟩ := Option.bind_eq_some_iff.mp taken
        cases taken
        exact Value.throughout_text _
      · split at taken
        · cases taken
          simp
        · obtain ⟨⟨items, _⟩, read, taken⟩ := Option.bind_eq_some_iff.mp taken
          cases taken
          exact Value.throughout_list.mpr (lists _ items _ read)
      · split at taken
        · cases taken
          exact Entries.Reads.throughout (by simp [Entries.Reads])
        · obtain ⟨⟨pairs, _⟩, read, taken⟩ := Option.bind_eq_some_iff.mp taken
          cases taken
          exact (members _ pairs _ read).ofPairs.throughout
      · rcases Option.or_eq_some_iff.mp taken with constant | ⟨_, number⟩
        · exact throughout_of_takeConstant? constant
        · exact throughout_of_takeNumber? number
    · unfold takeItems? at taken
      obtain ⟨⟨first, after⟩, read, taken⟩ := Option.bind_eq_some_iff.mp taken
      have hfirst := values _ first after read
      dsimp only at taken
      split at taken
      · cases taken
        simpa using hfirst
      · obtain ⟨⟨others, _⟩, read, taken⟩ := Option.bind_eq_some_iff.mp taken
        cases taken
        exact List.forall_mem_cons.mpr ⟨hfirst, lists _ others _ read⟩
      · cases taken
    · unfold takeMembers? at taken
      split at taken
      · obtain ⟨⟨name, after⟩, _, taken⟩ := Option.bind_eq_some_iff.mp taken
        dsimp only at taken
        split at taken
        · obtain ⟨⟨value, after⟩, read, taken⟩ := Option.bind_eq_some_iff.mp taken
          have hfirst := values _ value after read
          dsimp only at taken
          split at taken
          · cases taken
            exact List.forall_mem_cons.mpr ⟨⟨⟨_, rfl⟩, hfirst⟩, by simp⟩
          · obtain ⟨⟨others, _⟩, read, taken⟩ := Option.bind_eq_some_iff.mp taken
            cases taken
            exact List.forall_mem_cons.mpr ⟨⟨⟨_, rfl⟩, hfirst⟩, members _ others _ read⟩
          · cases taken
        · cases taken
      · cases taken

/-- What is lasting holds throughout whatever is read as JSON. -/
theorem throughout_of_read? {s : String} {v : Value} (read : read? s = some v) : v.Throughout good := by
  obtain ⟨⟨w, rest⟩, taken, read⟩ := Option.bind_eq_some_iff.mp read
  dsimp only at read
  split at read
  · cases read
    exact (throughout_of_take _).1 _ _ rest taken
  · cases read

end Json

/-- What is lasting holds throughout a literal. -/
theorem throughout_of_literal? {text : String} {v : Value} (literal : literal? text = some v) : v.Throughout good := by
  unfold literal? at literal
  dsimp only at literal
  split at literal
  · cases literal
    simp
  · split at literal
    · cases literal
      simp
    · split at literal
      · cases literal
        simp
      · split at literal
        · cases literal
          simp
        · unfold jsonLiteral? at literal
          split at literal
          · exact Json.throughout_of_read? literal
          · cases literal

end

end DynamicBlocks
