import DynamicBlocks.Loop.Params
import Mathlib.Data.List.Induction

/-!
# Declared defaults

The defaults of a configuration are found in the order of its texts, those of a text from its start. Of the defaults of
one name the first counts, so a configuration declares for each name, in the order of the names, the first default
(`declaredDefaults_eq`).
-/

set_option autoImplicit false

namespace DynamicBlocks

/-! ## Defaults in order -/

/-- The default that a piece declares, with its name. -/
def ParamPiece.default? : ParamPiece → Option (String × String)
  | .char _ => none
  | .defaulted name literal => some (String.ofList name, String.ofList literal)

namespace Value

mutual

/-- The defaults in a value, each with its name, in the order in which they are found. -/
def defaults : Value → List (String × String)
  | .text s => (paramPieces s).filterMap ParamPiece.default?
  | .list items => defaultsOfItems items
  | .map entries => defaultsOfEntries entries
  | _ => []

def defaultsOfItems : List Value → List (String × String)
  | [] => []
  | item :: items => item.defaults ++ defaultsOfItems items

def defaultsOfEntries : List (Value × Value) → List (String × String)
  | [] => []
  | (_, value) :: entries => value.defaults ++ defaultsOfEntries entries

end

/-- The defaults declared in items one after the other are declared one after the other. -/
theorem defaultsOfItems_append (before after : List Value) :
    defaultsOfItems (before ++ after) = defaultsOfItems before ++ defaultsOfItems after := by
  induction before with
  | nil => rfl
  | cons item before ih =>
    rw [List.cons_append, defaultsOfItems, defaultsOfItems, ih, List.append_assoc]

/-- So are those declared in entries. -/
theorem defaultsOfEntries_append (before after : Entries) :
    defaultsOfEntries (before ++ after) = defaultsOfEntries before ++ defaultsOfEntries after := by
  induction before with
  | nil => rfl
  | cons entry before ih =>
    obtain ⟨key, value⟩ := entry
    rw [List.cons_append, defaultsOfEntries, defaultsOfEntries, ih, List.append_assoc]

end Value

/-! ## Entries -/

/-- Something is found under a name if there is an entry of the name. -/
theorem Entries.isSome_field?_iff {params : Entries} {name : String} :
    (field? params name).isSome = true ↔ ∃ entry ∈ params, entry.1 = .text name := by
  unfold field? get?
  rw [Option.isSome_map, List.find?_isSome]
  simp only [Value.agrees_text]

/-- A new name goes to the end. -/
theorem Entries.insert_of_absent {entries : Entries} {name : String}
    (absent : ¬(Entries.field? entries name).isSome = true) (value : Value) :
    Entries.insert entries (.text name) value = entries ++ [(.text name, value)] := by
  refine if_neg fun found => absent ?_
  obtain ⟨entry, there, agrees⟩ := List.any_eq_true.mp found
  exact Entries.isSome_field?_iff.mpr ⟨entry, there, Value.agrees_text.mp agrees⟩

/-! ## The first default of each name -/

/-- One default more, unless its name has one already. -/
def addFound (found : Entries) (default : String × String) : Entries :=
  addDefault found default.1 (defaultValue default.2)

/-- Reading a text adds the defaults that are written in it, the earlier ones first. -/
theorem addTextDefaults_eq_foldl (found : Entries) (s : String) :
    addTextDefaults found s = ((paramPieces s).filterMap ParamPiece.default?).foldl addFound found := by
  unfold addTextDefaults
  induction paramPieces s generalizing found with
  | nil => rfl
  | cons piece pieces ih => cases piece <;> exact ih _

mutual

/-- Defaults are collected one by one, in the order in which they are found. -/
theorem addDefaults_eq_foldl : (config : Value) → ∀ found : Entries,
    addDefaults found config = config.defaults.foldl addFound found
  | .text s, found => addTextDefaults_eq_foldl found s
  | .list items, found => addItemDefaults_eq_foldl items found
  | .map entries, found => addEntryDefaults_eq_foldl entries found
  | .null, _ => rfl
  | .bool _, _ => rfl
  | .int _, _ => rfl
  | .double _, _ => rfl
  | .loop .., _ => rfl
  | .date _, _ => rfl
  | .moment _, _ => rfl
  | .object .., _ => rfl
  | .built .., _ => rfl

/-- Reading items adds the defaults declared in them. -/
theorem addItemDefaults_eq_foldl : (items : List Value) → ∀ found : Entries,
    addItemDefaults found items = (Value.defaultsOfItems items).foldl addFound found
  | [], _ => rfl
  | item :: items, found => by
    rw [addItemDefaults, addDefaults_eq_foldl item, addItemDefaults_eq_foldl items, Value.defaultsOfItems,
      List.foldl_append]

/-- Reading entries adds the defaults declared in them. -/
theorem addEntryDefaults_eq_foldl : (entries : List (Value × Value)) → ∀ found : Entries,
    addEntryDefaults found entries = (Value.defaultsOfEntries entries).foldl addFound found
  | [], _ => rfl
  | (_, value) :: entries, found => by
    rw [addEntryDefaults, addDefaults_eq_foldl value, addEntryDefaults_eq_foldl entries, Value.defaultsOfEntries,
      List.foldl_append]

end

/-- The value of the first default of a name. -/
def firstDefault (defaults : List (String × String)) (name : String) : Value :=
  defaultValue ((defaults.lookup name).getD "")

/-- The first default of each name, in the order of the names. -/
def firstDefaults (defaults : List (String × String)) : Entries :=
  (defaults.map (·.1)).eraseDups.map fun name => (.text name, firstDefault defaults name)

/-- A name has a default exactly if one is declared for it. -/
theorem isSome_field?_firstDefaults (defaults : List (String × String)) (name : String) :
    (Entries.field? (firstDefaults defaults) name).isSome = true ↔ name ∈ defaults.map (·.1) := by
  rw [Entries.isSome_field?_iff]
  constructor
  · rintro ⟨entry, there, same⟩
    obtain ⟨other, among, rfl⟩ := List.mem_map.mp there
    obtain rfl := Value.text.inj same
    exact List.mem_eraseDups.mp among
  · intro among
    exact ⟨_, List.mem_map_of_mem (List.mem_eraseDups.mpr among), rfl⟩

/-- Behind other defaults a default is the first of its name only if they have none of the name. -/
theorem firstDefault_append (defaults : List (String × String)) (name literal other : String) :
    firstDefault (defaults ++ [(name, literal)]) other =
      if other ∈ defaults.map (·.1) then firstDefault defaults other
      else firstDefault [(name, literal)] other := by
  unfold firstDefault
  rw [List.lookup_append]
  split
  · rename_i among
    obtain ⟨default, there, same⟩ := List.mem_map.mp among
    have found : (defaults.lookup other).isSome = true :=
      List.lookup_isSome_iff.mpr ⟨default, there, by rw [← same]; exact beq_self_eq_true _⟩
    rw [Option.or_of_isSome found]
  · rename_i absent
    have none : defaults.lookup other = none := by
      refine List.lookup_eq_none_iff.mpr fun default there => bne_iff_ne.mpr fun same => absent ?_
      rw [same]
      exact List.mem_map_of_mem there
    rw [none, Option.none_or]

/-- A further default is kept if it is the first of its name. -/
theorem firstDefaults_append_singleton (defaults : List (String × String)) (name literal : String) :
    firstDefaults (defaults ++ [(name, literal)]) =
      if name ∈ defaults.map (·.1) then firstDefaults defaults
      else firstDefaults defaults ++ [(.text name, defaultValue literal)] := by
  have earlier : ((defaults.map (·.1)).eraseDups.map fun other =>
      (Value.text other, firstDefault (defaults ++ [(name, literal)]) other)) = firstDefaults defaults := by
    refine List.map_congr_left fun other there => ?_
    rw [firstDefault_append, if_pos (List.mem_eraseDups.mp there)]
  rw [firstDefaults, List.map_append, List.eraseDups_append, List.map_append, earlier, List.map_singleton]
  by_cases known : name ∈ defaults.map (·.1)
  · simp [List.removeAll, known]
  · have added : [name].removeAll (defaults.map (·.1)) = [name] := by simpa [List.removeAll] using known
    have own : firstDefault (defaults ++ [(name, literal)]) name = defaultValue literal := by
      rw [firstDefault_append, if_neg known]
      simp [firstDefault]
    rw [added, if_neg known, ← own]
    rfl

/-- Collecting one by one keeps the first default of each name: an induction on the defaults, the last one taken off. -/
theorem foldl_addFound (defaults : List (String × String)) : defaults.foldl addFound [] = firstDefaults defaults := by
  induction defaults using List.reverseRecOn with
  | nil => rfl
  | append_singleton defaults last ih =>
    obtain ⟨name, literal⟩ := last
    rw [List.foldl_append, ih, List.foldl_cons, List.foldl_nil, firstDefaults_append_singleton, addFound, addDefault]
    by_cases known : name ∈ defaults.map (·.1)
    · rw [if_pos ((isSome_field?_firstDefaults defaults name).mpr known), if_pos known]
    · have fresh := (isSome_field?_firstDefaults defaults name).not.mpr known
      rw [if_neg fresh, if_neg known, Entries.insert_of_absent fresh]

/-- A configuration declares the first default of each name. -/
theorem declaredDefaults_eq (config : Value) : declaredDefaults config = firstDefaults config.defaults :=
  (addDefaults_eq_foldl config []).trans (foldl_addFound config.defaults)

example : declaredDefaults (.list [.text "$a ?? 2", .text "$b ?? 3 $a ?? 1"]) =
    [(.text "$a", .int 2), (.text "$b", .int 3)] := by
  cbv

end DynamicBlocks
