import DynamicBlocks.Proofs.TotalResolution

/-!
# Loop references as lists

A loop reference stands for the list of its items wherever an expression comes to it, and so does a mapping that is
marked as one. They are replaced one at a time: before each step the value that is reached, and at the end the result.
`Value.expanded` replaces all of them at once, those within the items of others included. Following keys and indexes,
and taking, cutting, turning around or counting items, makes no difference between the two (`resolve_expanded`): each
step leads from the expanded value to the expanded next one.
-/

set_option autoImplicit false

namespace DynamicBlocks

/-! ## Expanding references -/

mutual

/-- The value with each loop reference in it, and each mapping that stands for one, replaced by the list of its items.
Keys of mappings and objects stay as they are. -/
def Value.expanded : Value → Value
  | .list items => .list (Value.expandedItems items)
  | .map entries =>
    if Entries.isLoop entries then .list (Value.expandedData entries)
    else .map (Value.expandedEntries entries)
  | .loop _ data => .list (Value.expandedSeries data)
  | v => v

/-- What going through a value yields, expanded. -/
def Value.expandedSeries : Value → List Value
  | .list items => Value.expandedItems items
  | .text s => charTexts s
  | .map entries => Value.expandedKeys entries
  | _ => []

/-- The keys of entries, expanded. -/
def Value.expandedKeys : List (Value × Value) → List Value
  | [] => []
  | (key, _) :: entries => Value.expanded key :: Value.expandedKeys entries

/-- Items, expanded. -/
def Value.expandedItems : List Value → List Value
  | [] => []
  | item :: items => Value.expanded item :: Value.expandedItems items

/-- Entries with their values expanded. -/
def Value.expandedEntries : List (Value × Value) → List (Value × Value)
  | [] => []
  | (key, value) :: entries => (key, Value.expanded value) :: Value.expandedEntries entries

/-- The items that a mapping holds as its data, expanded. -/
def Value.expandedData : List (Value × Value) → List Value
  | [] => []
  | (key, value) :: entries =>
    if key.agrees (.text "data") then
      match value with
      | .list items => Value.expandedItems items
      | _ => []
    else Value.expandedData entries

end

/-- The source with its value expanded. -/
def Source.expanded (source : Source) : Source :=
  { source with value := source.value.expanded }

/-- A node of a tree of values: a loop reference is of something that can be gone through, and objects hold nothing. -/
def Value.IsTreeNode (v : Value) : Prop :=
  v.HasItems ∧
    match v with
    | .object _ fields => fields = []
    | .built _ fields => fields = []
    | _ => True

instance : Value.Settling Value.IsTreeNode where
  bare v bare := by
    refine ⟨Value.Lasting.bare v bare, ?_⟩
    cases v <;> simp_all [Value.parts]
  list items := ⟨Value.Lasting.list items, trivial⟩
  named entries texts := ⟨Value.Lasting.named entries texts, trivial⟩
  rekeyed entries others keys h := ⟨Value.Lasting.rekeyed entries others keys h.1, trivial⟩
  loop key items := ⟨Value.Lasting.loop key items, trivial⟩
  hasItems _ h := h.1

namespace Value

/-- Expanded items are the items expanded one by one. -/
@[simp] theorem expandedItems_eq (items : List Value) : expandedItems items = items.map expanded := by
  induction items with
  | nil => rfl
  | cons item items ih => rw [expandedItems, ih, List.map_cons]

/-- Expanded keys are the keys expanded one by one. -/
@[simp] theorem expandedKeys_eq (entries : Entries) : expandedKeys entries = entries.map (·.1.expanded) := by
  induction entries with
  | nil => rfl
  | cons entry entries ih => rw [expandedKeys, ih, List.map_cons]

/-- Expanded entries are the entries with their values expanded. -/
@[simp] theorem expandedEntries_eq (entries : Entries) :
    expandedEntries entries = entries.map fun entry => (entry.1, entry.2.expanded) := by
  induction entries with
  | nil => rfl
  | cons entry entries ih => rw [expandedEntries, ih, List.map_cons]

/-- Expanded data are its items expanded. -/
@[simp] theorem expandedData_eq (entries : Entries) :
    expandedData entries = (Entries.dataItems entries).map expanded := by
  induction entries with
  | nil => rfl
  | cons entry entries ih =>
    obtain ⟨key, value⟩ := entry
    unfold expandedData Entries.dataItems Entries.field Entries.field? Entries.get?
    by_cases named : key.agrees (.text "data") = true
    · rw [if_pos named, List.find?_cons_of_pos (by exact named)]
      cases value <;> simp
    · rw [if_neg named, List.find?_cons_of_neg (by exact named)]
      exact ih

/-- A list is expanded item by item. -/
@[simp] theorem expanded_list (items : List Value) : (Value.list items).expanded = .list (items.map expanded) := by
  rw [← expandedItems_eq]
  rfl

/-- A mapping is expanded to the list of its data if it stands for a loop, and value by value else. -/
theorem expanded_map_eq (entries : Entries) :
    (Value.map entries).expanded = if Entries.isLoop entries then .list ((Entries.dataItems entries).map expanded)
      else .map (entries.map fun entry => (entry.1, entry.2.expanded)) := by
  rw [← expandedData_eq, ← expandedEntries_eq]
  rfl

/-- A mapping that stands for no loop is expanded value by value. -/
theorem expanded_map {entries : Entries} (unmarked : Entries.isLoop entries = false) :
    (Value.map entries).expanded = .map (entries.map fun entry => (entry.1, entry.2.expanded)) := by
  rw [expanded_map_eq, unmarked, if_neg Bool.false_ne_true]

/-- A mapping that stands for a loop is expanded to the list of its data. -/
theorem expanded_map_marked {entries : Entries} (marked : Entries.isLoop entries = true) :
    (Value.map entries).expanded = .list ((Entries.dataItems entries).map expanded) := by
  rw [expanded_map_eq, if_pos marked]

/-- A loop reference is expanded to what going through its data yields. -/
@[simp] theorem expanded_loop (key : String) (data : Value) :
    (Value.loop key data).expanded = .list data.expandedSeries :=
  rfl

/-- Null is expanded to itself. -/
@[simp] theorem expanded_null : Value.null.expanded = .null :=
  rfl

/-- A boolean is expanded to itself. -/
@[simp] theorem expanded_bool (b : Bool) : (Value.bool b).expanded = .bool b :=
  rfl

/-- An integer is expanded to itself. -/
@[simp] theorem expanded_int (n : Int) : (Value.int n).expanded = .int n :=
  rfl

/-- A double is expanded to itself. -/
@[simp] theorem expanded_double (x : Double) : (Value.double x).expanded = .double x :=
  rfl

/-- A text is expanded to itself. -/
@[simp] theorem expanded_text (s : String) : (Value.text s).expanded = .text s :=
  rfl

/-- A date is expanded to itself. -/
@[simp] theorem expanded_date (d : Date) : (Value.date d).expanded = .date d :=
  rfl

/-- A moment is expanded to itself. -/
@[simp] theorem expanded_moment (m : Moment) : (Value.moment m).expanded = .moment m :=
  rfl

/-- An object is expanded to itself. -/
@[simp] theorem expanded_object (self : HostObject) (fields : List (String × Value)) :
    (Value.object self fields).expanded = .object self fields :=
  rfl

/-- A built value is expanded to itself. -/
@[simp] theorem expanded_built (kind : BuiltKind) (fields : List (String × Value)) :
    (Value.built kind fields).expanded = .built kind fields :=
  rfl

/-- Only a text is expanded to a text. -/
theorem expanded_eq_text {v : Value} {s : String} : v.expanded = .text s ↔ v = .text s := by
  cases v with
  | map entries => by_cases marked : Entries.isLoop entries = true <;> simp [expanded_map_eq, marked]
  | _ => simp

/-- A reference is replaced by the list of its items, expanded in turn. -/
theorem expanded_of_reference {v : Value} {r : LoopRef} (stands : LoopRef.ofValue? v = some r) {items : List Value}
    (gone : r.items = .ok items) : v.expanded = .list (items.map expanded) := by
  cases v with
  | loop key data =>
    cases stands
    cases data with
    | list | map | text =>
      cases gone
      simp [expandedSeries, charTexts]
    | null | bool | int | double | loop | date | moment | object | built => cases gone
  | map entries =>
    have marked : Entries.isLoop entries = true := by
      by_contra unmarked
      simp [LoopRef.ofValue?, unmarked] at stands
    rw [LoopRef.items, LoopRef.data_of_map stands] at gone
    cases gone
    exact expanded_map_marked marked
  | null | bool | int | double | text | list | date | moment | object | built => cases stands

end Value

/-- The reference made of a value is expanded as the value is. -/
theorem LoopRef.expanded_toValue {v : Value} {r : LoopRef} (stands : ofValue? v = some r) :
    r.toValue.expanded = v.expanded := by
  cases v with
  | loop key data =>
    cases stands
    rfl
  | map entries =>
    have held : r.items = .ok (Entries.dataItems entries) := by
      rw [items, data_of_map stands]
      rfl
    rw [Value.expanded_of_reference stands held, Value.expanded_of_reference (ofValue?_toValue r) held]
  | null | bool | int | double | text | list | date | moment | object | built => cases stands

namespace Entries

/-- A key leads to the expanded value that it leads to. -/
theorem get?_expanded (entries : Entries) (key : Value) :
    get? (entries.map fun entry => (entry.1, entry.2.expanded)) key = (get? entries key).map Value.expanded := by
  unfold get?
  rw [List.find?_map, Option.map_map, Option.map_map]
  rfl

/-- Expanding values does not make a mapping stand for a loop, nor keep it from it. -/
theorem isLoop_expanded (entries : Entries) :
    isLoop (entries.map fun entry => (entry.1, entry.2.expanded)) = isLoop entries := by
  unfold isLoop field?
  rw [get?_expanded]
  cases get? entries (.text "prop-type") with
  | none => rfl
  | some w =>
    rw [Option.map_some]
    split
    · rename_i s same
      rw [Value.expanded_eq_text.mp (Option.some.inj same)]
    · rename_i other
      split
      · rename_i s same
        cases same
        exact absurd (congrArg some (Value.expanded_text s)) (other s)
      · rfl

end Entries

namespace Value

/-- An expanded value stands for no reference. -/
@[simp] theorem ofValue?_expanded (v : Value) : LoopRef.ofValue? v.expanded = none := by
  cases v with
  | map entries =>
    cases marked : Entries.isLoop entries with
    | true => simp [expanded_map_marked marked, LoopRef.ofValue?]
    | false => simp [expanded_map marked, LoopRef.ofValue?, Entries.isLoop_expanded, marked]
  | _ => simp [LoopRef.ofValue?]

/-- An expanded value is its own unwrapped form. -/
@[simp] theorem unwrap_expanded (v : Value) : v.expanded.unwrap = .ok v.expanded := by
  rw [Value.unwrap, ofValue?_expanded]

/-! ## Steps -/

/-- Replacing one reference by its items is part of expanding all. -/
theorem Throughout.exists_unwrap_expanded {good : Value → Prop} [Settling good] {v : Value} (h : v.Throughout good) :
    ∃ w, v.unwrap = .ok w ∧ w.Throughout good ∧ LoopRef.ofValue? w = none ∧ w.expanded = v.expanded := by
  cases stands : LoopRef.ofValue? v with
  | none => exact ⟨v, by rw [Value.unwrap, stands], h, stands, rfl⟩
  | some r =>
    obtain ⟨items, gone⟩ := h.exists_items stands
    have unwrapped : v.unwrap = .ok (.list items) := by simp [Value.unwrap, stands, gone]
    refine ⟨.list items, unwrapped, h.unwrap unwrapped, rfl, ?_⟩
    rw [expanded_list, expanded_of_reference stands gone]

/-- The parts of a day hold no references. -/
theorem expanded_dateParts (d : Date) {part : String × Value} (there : part ∈ dateParts d) :
    part.2.expanded = part.2 := by
  simp only [dateParts, List.mem_cons, List.not_mem_nil, or_false] at there
  rcases there with rfl | rfl | rfl | rfl | rfl <;> simp

/-- The parts of a moment hold no references. -/
theorem expanded_momentParts (m : Moment) {part : String × Value} (there : part ∈ momentParts m) :
    part.2.expanded = part.2 := by
  unfold momentParts at there
  rcases List.mem_append.mp there with own | day
  · rcases List.mem_append.mp own with named | zone
    · simp only [List.mem_cons, List.not_mem_nil, or_false] at named
      rcases named with rfl | rfl | rfl | rfl | rfl | rfl | rfl <;> simp
    · split at zone
      · rw [List.mem_singleton.mp zone, expanded_null]
      · cases zone
  · exact expanded_dateParts m.date day

/-- A key, an index or a member leads from the expanded value to the expanded next one. -/
theorem lookup?_expanded {v : Value} (plain : LoopRef.ofValue? v = none) (node : v.IsTreeNode) (name : String) :
    v.expanded.lookup? name = (v.lookup? name).map expanded := by
  have kept {parts : List (String × Value)} (same : ∀ part ∈ parts, part.2.expanded = part.2) :
      parts.lookup name = (parts.lookup name).map expanded := by
    cases found : parts.lookup name with
    | none => rfl
    | some value => exact congrArg some (same _ (mem_of_lookup_eq_some found)).symm
  have member (unseen : v.expanded = v) (same : v.member? name = (v.member? name).map expanded)
      (stepped : v.lookup? name = v.member? name) : v.expanded.lookup? name = (v.lookup? name).map expanded := by
    rw [unseen, stepped]
    exact same
  cases v with
  | list items =>
    rw [expanded_list]
    unfold lookup?
    cases index? name <;> simp
  | map entries =>
    have unmarked : Entries.isLoop entries = false := by
      by_contra marked
      simp [LoopRef.ofValue?, marked] at plain
    rw [expanded_map unmarked]
    unfold lookup? Entries.field?
    simp only [Entries.get?_expanded]
    cases Entries.get? entries (.text name) with
    | some value => rfl
    | none => cases index? name <;> rfl
  | loop key data => cases plain
  | date d =>
    refine member (by simp) ?_ rfl
    unfold member?
    split
    · rfl
    · exact kept fun _ part => expanded_dateParts d part
  | moment m =>
    refine member (by simp) ?_ rfl
    unfold member?
    split
    · rfl
    · exact kept fun _ part => expanded_momentParts m part
  | object identity fields =>
    obtain rfl : fields = [] := node.2
    refine member (by simp) ?_ rfl
    simp [member?]
  | built kind fields =>
    obtain rfl : fields = [] := node.2
    refine member (by simp) ?_ rfl
    have args : (presetArgs []).expanded = presetArgs [] := expanded_map rfl
    cases kind with
    | preset =>
      unfold member?
      split
      · rfl
      · by_cases named : name = "args" <;> simp [named, args]
    | block | entry | source => simp [member?]
  | null | bool | int | double | text =>
    refine member (by simp) ?_ rfl
    simp [member?]

/-- The item at an index is that of the list, mapped. -/
theorem elementAt?_map {α β : Type} (f : α → β) (items : List α) (index : Int) :
    elementAt? (items.map f) index = (elementAt? items index).map f := by
  unfold elementAt?
  simp only [List.length_map, List.getElem?_map]
  split
  · rfl
  · split <;> rfl

/-- The part of a list between bounds is that of the list, mapped. -/
theorem sliceOf_map {α β : Type} (f : α → β) (items : List α) (start : Int) (stop : Option Int) :
    sliceOf (items.map f) start stop = (sliceOf items start stop).map f := by
  unfold sliceOf
  simp only [List.length_map, List.map_drop, List.map_take]

end Value

/-- A modifier that makes of an expanded value what it makes of the value, expanded. -/
def Modifier.SeesThrough : Modifier → Prop
  | .plain run => ∀ v args, LoopRef.ofValue? v = none → run v.expanded args = Value.expanded <$> run v args
  | _ => False

namespace Modifier.SeesThrough

/-- A modifier without parameters sees through references if its function does. -/
theorem simple {run : Value → Except Failure Value}
    (h : ∀ v, LoopRef.ofValue? v = none → run v.expanded = Value.expanded <$> run v) :
    (Modifier.simple run).SeesThrough := by
  intro v args plain
  rw [map_bind]
  exact bind_congr fun _ => h v plain

/-- So does a modifier with one parameter. -/
theorem unary {name : String} {run : Value → Value → Except Failure Value}
    (h : ∀ v first, LoopRef.ofValue? v = none → run v.expanded first = Value.expanded <$> run v first) :
    (Modifier.unary name run).SeesThrough := by
  intro v args plain
  rw [map_bind]
  refine bind_congr fun given => ?_
  split
  · exact h v _ plain
  · rfl

/-- So does a modifier with two parameters. -/
theorem binary {first second : Parameter} {run : Value → Option Value → Option Value → Except Failure Value}
    (h : ∀ v a b, LoopRef.ofValue? v = none → run v.expanded a b = Value.expanded <$> run v a b) :
    (Modifier.binary first second run).SeesThrough := by
  intro v args plain
  rw [map_bind]
  refine bind_congr fun given => ?_
  split
  · exact h v _ _ plain
  · rfl

end Modifier.SeesThrough

namespace Value

variable {v : Value} (plain : LoopRef.ofValue? v = none)

include plain

/-- A value that stands for no reference is expanded in what it holds only. -/
theorem expanded_cases :
    (∃ items, v = .list items) ∨ (∃ entries, v = .map entries ∧ Entries.isLoop entries = false) ∨
      (v.expanded = v ∧ v.isList = false ∧ v.isMap = false) := by
  cases v with
  | list items => exact .inl ⟨items, rfl⟩
  | map entries =>
    refine .inr (.inl ⟨entries, rfl, ?_⟩)
    by_contra marked
    simp [LoopRef.ofValue?, marked] at plain
  | loop key data => cases plain
  | null | bool | int | double | text | date | moment | object | built =>
    exact .inr (.inr ⟨by simp, rfl, rfl⟩)

/-- An item of an expanded value is that of the value, expanded. -/
theorem element_expanded (index : Int) : v.expanded.element index = (v.element index).expanded := by
  rcases expanded_cases plain with ⟨items, rfl⟩ | ⟨entries, rfl, unmarked⟩ | ⟨same, noList, noMap⟩
  · rw [expanded_list]
    dsimp only [element]
    rw [elementAt?_map]
    cases elementAt? items index <;> simp
  · rw [expanded_map unmarked]
    simp [element]
  · rw [same]
    cases v with
    | text s =>
      dsimp only [element]
      generalize elementAt? s.toList index = found
      cases found <;> simp
    | list | map => contradiction
    | _ => simp [element]

/-- An expanded value is a sequence exactly if the value is. -/
theorem isSequence_expanded : v.expanded.isSequence = v.isSequence := by
  rcases expanded_cases plain with ⟨items, rfl⟩ | ⟨entries, rfl, unmarked⟩ | ⟨same, -, -⟩
  · rw [expanded_list]
    rfl
  · rw [expanded_map unmarked]
    rfl
  · rw [same]

/-- So is the item at an index that a value gives. -/
theorem atIndex_expanded (index : Value) : v.expanded.atIndex index = expanded <$> v.atIndex index := by
  unfold atIndex
  rw [isSequence_expanded plain]
  split
  · rw [Functor.map_map]
    simp only [element_expanded plain]
  · exact congrArg Except.ok expanded_null.symm

/-- The part of an expanded value is that of the value, expanded. -/
theorem slice_expanded (start : Int) (stop : Option Int) :
    v.expanded.slice start stop = (v.slice start stop).expanded := by
  rcases expanded_cases plain with ⟨items, rfl⟩ | ⟨entries, rfl, unmarked⟩ | ⟨same, noList, noMap⟩
  · rw [expanded_list]
    dsimp only [slice]
    rw [sliceOf_map, expanded_list]
  · rw [expanded_map unmarked]
    exact (expanded_map unmarked).symm
  · rw [same]
    cases v with
    | text s => exact (expanded_text _).symm
    | list | map => contradiction
    | _ => exact same.symm

/-- So is the part between bounds that values give. -/
theorem sliced_expanded (start stop : Option Value) :
    v.expanded.sliced start stop = expanded <$> v.sliced start stop := by
  unfold sliced
  rw [isSequence_expanded plain]
  split
  · dsimp only
    split <;> simp only [map_bind, map_pure, slice_expanded plain]
  · rfl

/-- An expanded value back to front is the value back to front, expanded. -/
theorem reversed_expanded : v.expanded.reversed = v.reversed.expanded := by
  rcases expanded_cases plain with ⟨items, rfl⟩ | ⟨entries, rfl, unmarked⟩ | ⟨same, noList, noMap⟩
  · rw [expanded_list]
    dsimp only [reversed]
    rw [← List.map_reverse, expanded_list]
  · rw [expanded_map unmarked]
    exact (expanded_map unmarked).symm
  · rw [same]
    cases v with
    | text s => exact (expanded_text _).symm
    | list | map => contradiction
    | _ => exact same.symm

/-- An expanded value is as long as the value. -/
theorem lengthOf_expanded : v.expanded.lengthOf = expanded <$> v.lengthOf := by
  have number {outcome : Except Failure Value} (counts : ∀ w, outcome = .ok w → ∃ n, w = .int n) :
      outcome = expanded <$> outcome := by
    cases outcome with
    | error f => rfl
    | ok w =>
      obtain ⟨n, rfl⟩ := counts w rfl
      exact congrArg Except.ok (expanded_int n).symm
  have counts (w : Value) (counted : v.lengthOf = .ok w) : ∃ n, w = .int n := by
    unfold lengthOf at counted
    split at counted
    · exact ⟨_, (Except.ok.inj counted).symm⟩
    · exact ⟨_, (Except.ok.inj counted).symm⟩
    · exact ⟨_, (Except.ok.inj counted).symm⟩
    · exact ⟨_, (Except.ok.inj counted).symm⟩
    · obtain ⟨text, _, made⟩ := exists_of_bind_eq_ok counted
      exact ⟨_, (Except.ok.inj made).symm⟩
  rw [← number counts]
  rcases expanded_cases plain with ⟨items, rfl⟩ | ⟨entries, rfl, unmarked⟩ | ⟨same, -, -⟩
  · rw [expanded_list]
    simp [lengthOf]
  · rw [expanded_map unmarked]
    simp [lengthOf]
  · rw [same]

end Value

/-- The modifiers that pick from a value, turn it around or count it. -/
def pickingNames : List String :=
  ["at", "first", "last", "slice", "reverse", "length"]

/-- A segment that follows a key or an index, or that picks by literals. -/
def Segment.Picks : Segment → Prop
  | .key _ => True
  | .call name args => name ∈ pickingNames ∧ ∀ argument ∈ args, (literal? argument.source).isSome = true

open Modifier.SeesThrough in
/-- The modifiers that pick are built in, and see through references. -/
theorem exists_seesThrough_of_mem_pickingNames (zone : LocalZone) {name : String} (picking : name ∈ pickingNames) :
    ∃ modifier, (builtinModifiersIn zone).get? name = some modifier ∧ modifier.SeesThrough := by
  simp only [pickingNames, List.mem_cons, List.not_mem_nil, or_false] at picking
  rcases picking with rfl | rfl | rfl | rfl | rfl | rfl
  · exact ⟨_, rfl, unary fun v index plain => Value.atIndex_expanded plain index⟩
  · exact ⟨_, rfl, simple fun v plain => congrArg Except.ok (Value.element_expanded plain 0)⟩
  · exact ⟨_, rfl, simple fun v plain => congrArg Except.ok (Value.element_expanded plain (-1))⟩
  · exact ⟨_, rfl, binary fun v start stop plain => Value.sliced_expanded plain start stop⟩
  · exact ⟨_, rfl, simple fun v plain => congrArg Except.ok (Value.reversed_expanded plain)⟩
  · exact ⟨_, rfl, simple fun v plain => Value.lengthOf_expanded plain⟩

/-! ## Expressions -/

/-- Literal arguments come to the same whatever the sources. -/
theorem exists_evaluateArgs_of_literals {good : Value → Prop} [Value.Lasting good] {args : List Argument}
    (written : ∀ argument ∈ args, (literal? argument.source).isSome = true) (nesting : Nat) :
    ∃ given : Arguments, given.Throughout good ∧
      ∀ table data sources, evaluateArgs (evaluateNested table data sources nesting) args = .ok given := by
  let worth (text : String) : Value := if nesting = 0 then .null else (literal? text).getD .null
  have each (text : String) : Ends (Value.Throughout good) (fun _ => False) (.ok (worth text)) := by
    refine .ok ?_
    dsimp only [worth]
    split
    · exact Value.throughout_null
    · exact .getD (fun _ literal => throughout_of_literal? literal) Value.throughout_null
  have evaluated (table : ModifierTable) (data : DataResolver) (sources : List Source) :
      evaluateArgs (evaluateNested table data sources nesting) args =
        evaluateArgs (fun text => .ok (worth text)) args := by
    refine evaluateArgs_congr fun argument there => ?_
    obtain ⟨v, literal⟩ := Option.isSome_iff_exists.mp (written argument there)
    cases nesting with
    | zero => rfl
    | succ nesting => simp [evaluateNested, literal, worth]
  have ends := Ends.evaluateArgs each args
  rcases ends.exists_or with ⟨given, same⟩ | ⟨_, _, impossible⟩
  · exact ⟨given, ends.gives given same, fun table data sources => (evaluated table data sources).trans same⟩
  · exact impossible.elim

/-- A call comes to a value, and the other one from the expanded value to that value expanded. -/
def Expands (call call' : Value → String → List Argument → Except Failure Value) (name : String)
    (args : List Argument) : Prop :=
  ∀ v : Value, v.Throughout Value.IsTreeNode → LoopRef.ofValue? v = none →
    ∃ next : Value, next.Throughout Value.IsTreeNode ∧ call v name args = .ok next ∧
      call' v.expanded name args = .ok next.expanded

/-- A call that picks by literals does to the expanded value what it does to the value. -/
theorem Segment.Picks.expands {name : String} {args : List Argument} (picks : (Segment.call name args).Picks)
    (zone : LocalZone) (data : DataResolver) (sources others : List Source) (nesting : Nat) :
    Expands
      (applyCall (builtinModifiersIn zone) data sources (evaluateNested (builtinModifiersIn zone) data sources nesting))
      (applyCall (builtinModifiersIn zone) data others (evaluateNested (builtinModifiersIn zone) data others nesting))
      name args := by
  intro v h plain
  obtain ⟨modifier, found, sees⟩ := exists_seesThrough_of_mem_pickingNames zone picks.1
  obtain ⟨given, hgiven, evaluated⟩ : ∃ given : Arguments, given.Throughout Value.IsTreeNode ∧
      ∀ table data sources, evaluateArgs (evaluateNested table data sources nesting) args = .ok given :=
    exists_evaluateArgs_of_literals picks.2 nesting
  have known : (name, modifier) ∈ builtinModifiersIn zone := mem_of_lookup_eq_some found
  have keeps : modifier.Keeps Value.IsTreeNode := builtinModifiersIn_keeps _ known
  have forgiving : HasForgiven fun f : Failure => f.isForgiven = true := ⟨fun _ forgiven => forgiven⟩
  have fails := builtinModifiersIn_onlyFails (p := fun f => f.isForgiven = true) _ known
  unfold applyCall
  rw [found]
  dsimp only
  rw [evaluated, evaluated]
  cases modifier with
  | plain run =>
    show ∃ next : Value, next.Throughout Value.IsTreeNode ∧ forgive v (run v given) = .ok next ∧
      forgive v.expanded (run v.expanded given) = .ok next.expanded
    rw [sees v given plain]
    cases ran : run v given with
    | ok w => exact ⟨w, keeps v given h hgiven w ran, rfl, rfl⟩
    | error f =>
      -- What the modifier fails with is forgiven, so the value stays.
      have forgiven : f.isForgiven = true := fails v given f ran
      exact ⟨v, h, by simp [forgive, forgiven], by simp [forgive, forgiven]⟩
  | _ => exact sees.elim

section

variable {call call' : Value → String → List Argument → Except Failure Value}

/-- A walk from the expanded value leads to where the walk from the value leads, expanded: an induction on the
segments. -/
theorem exists_walk_expanded {segments : List Segment}
    (each : ∀ name args, .call name args ∈ segments → Expands call call' name args) {v : Value}
    (h : v.Throughout Value.IsTreeNode) :
    ∃ reached : Option Value, (∀ w, reached = some w → w.Throughout Value.IsTreeNode) ∧
      walk call v segments = .ok reached ∧ walk call' v.expanded segments = .ok (reached.map Value.expanded) := by
  induction segments generalizing v with
  | nil =>
    refine ⟨some v, fun w same => ?_, rfl, rfl⟩
    cases same
    exact h
  | cons segment segments ih =>
    have later := fun name args there => each name args (List.mem_cons_of_mem segment there)
    obtain ⟨w, unwrapped, hw, plain, same⟩ := h.exists_unwrap_expanded
    have unwrapped' : v.expanded.unwrap = .ok w.expanded := by rw [Value.unwrap_expanded, same]
    cases segment with
    | key name =>
      have looked := Value.lookup?_expanded plain hw.here name
      rw [walk, walk, unwrapped, unwrapped']
      simp only [bind, Except.bind, looked]
      cases found : w.lookup? name with
      | none => exact ⟨none, by simp, rfl, rfl⟩
      | some next => exact ih later (hw.lookup? found)
    | call name args =>
      obtain ⟨next, hnext, called, called'⟩ := each name args List.mem_cons_self w hw plain
      rw [walk, walk, unwrapped, unwrapped']
      simp only [bind, Except.bind, called, called']
      exact ih later hnext

/-- The result of a walk, kept as a reference or not. -/
theorem exists_settle_expanded {v : Value} (h : v.Throughout Value.IsTreeNode) (keepLoop : Bool) :
    ∃ w : Value, settle keepLoop v = .ok w ∧ settle keepLoop v.expanded = .ok w.expanded := by
  cases keepLoop with
  | false =>
    obtain ⟨w, unwrapped, _, _, same⟩ := h.exists_unwrap_expanded
    exact ⟨w, unwrapped, same ▸ Value.unwrap_expanded v⟩
  | true =>
    have settled : settle true v.expanded = .ok v.expanded := by simp [settle]
    cases stands : LoopRef.ofValue? v with
    | none => exact ⟨v, by simp [settle, stands], settled⟩
    | some r => exact ⟨r.toValue, by simp [settle, stands], by rw [settled, LoopRef.expanded_toValue stands]⟩

/-- The source that is found among expanded ones is the one found, expanded. -/
theorem findSource?_expanded (name : String) (sources : List Source) :
    findSource? name (sources.map Source.expanded) = (findSource? name sources).map Value.expanded := by
  unfold findSource?
  rw [← List.map_reverse, List.find?_map, Option.map_map, Option.map_map]
  rfl

end

/-- Loop references are transparent: what an expression of keys, indexes and picking calls comes to against sources with
all references expanded is what it comes to against the sources, expanded. It always comes to a value. -/
theorem resolve_expanded (zone : LocalZone) {sources : List Source} (tree : SourcesThroughout Value.IsTreeNode sources)
    {e : Expression} (picks : ∀ segment ∈ e.segments.drop 1, segment.Picks) (keepLoop : Bool) :
    ∃ v, resolve (builtinModifiersIn zone) sources e keepLoop = .ok v ∧
      resolve (builtinModifiersIn zone) (sources.map Source.expanded) e keepLoop = .ok v.expanded := by
  unfold resolve resolveAt resolveExpression Expression.resolveWith
  rw [findSource?_expanded]
  split
  · exact ⟨.null, rfl, congrArg Except.ok Value.expanded_null.symm⟩
  · cases found : findSource? e.root sources with
    | none => exact ⟨.null, rfl, congrArg Except.ok Value.expanded_null.symm⟩
    | some v =>
      obtain ⟨source, there, rfl⟩ := Option.map_eq_some_iff.mp found
      have h := tree source (List.mem_reverse.mp (List.mem_of_find?_eq_some there))
      obtain ⟨reached, hreached, walked, walked'⟩ := exists_walk_expanded
        (fun name args there => (picks _ there).expands zone (resolveDataAt (builtinModifiersIn zone) dataDepth) sources
          (sources.map Source.expanded) e.source.length) h
      dsimp only [Option.map_some]
      rw [walked, walked']
      cases reached with
      | none => exact ⟨.null, rfl, congrArg Except.ok Value.expanded_null.symm⟩
      | some w => exact exists_settle_expanded (hreached w rfl) keepLoop

/-- A page whose posts are a reference to a mapping that stands for one, with a reference among its items. -/
def nestedPosts : List Source :=
  [⟨.text "page", .map [(.text "posts", .loop "posts" (.list [.map [(.text "prop-type", .text "loop"),
    (.text "data", .list [.loop "tags" (.list [.text "new"]), .int 5])]]))]⟩]

/-- The last of the items turned around is the reference among them. -/
theorem resolve_expanded_nestedPosts :
    SourcesThroughout Value.IsTreeNode nestedPosts ∧
      (∀ segment ∈ (Expression.ofText "page.posts.0.reverse().at(-1)").segments.drop 1, segment.Picks) ∧
      ∃ v, resolve builtinModifiers nestedPosts (.ofText "page.posts.0.reverse().at(-1)") false = .ok v ∧
        resolve builtinModifiers (nestedPosts.map Source.expanded) (.ofText "page.posts.0.reverse().at(-1)") false =
          .ok v.expanded := by
  have inner : (Value.map [(.text "prop-type", .text "loop"),
      (.text "data", .list [.loop "tags" (.list [.text "new"]), .int 5])]).Throughout Value.IsTreeNode :=
    Value.throughout_map_of_texts (by simp) (by simp)
  have tree : SourcesThroughout Value.IsTreeNode nestedPosts :=
    List.forall_mem_singleton.mpr (Value.throughout_map_of_texts (by simp) (by simpa using inner))
  have segments : (Expression.ofText "page.posts.0.reverse().at(-1)").segments =
      [.key "page", .key "posts", .key "0", .call "reverse" [], .call "at" [⟨"-1", none⟩]] := by cbv
  have written : (literal? "-1").isSome = true := by cbv
  have picks : ∀ segment ∈ (Expression.ofText "page.posts.0.reverse().at(-1)").segments.drop 1, segment.Picks := by
    simp [segments, Segment.Picks, pickingNames, written]
  exact ⟨tree, picks, resolve_expanded .utc tree picks false⟩

end DynamicBlocks
