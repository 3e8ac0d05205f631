import DynamicBlocks.Proofs.KeptValues
import DynamicBlocks.Proofs.LoopProps
import DynamicBlocks.Proofs.RememberedItems

/-!
# Types of properties

Whatever comes out of the properties of an instance is of the type that the pattern declares, and stays as it is when it
is cast to this type again, as happens when a component hands its own property on to another one. What a value is made
of is its own definition, the last one of its key, and what is given under this key. A property that takes no loop is a
function of these (`PropScope.Fits`).

A property that takes a loop asks for items, and items are remembered. While the others are evaluated something may be
remembered that the property then comes to. It is never told from what it comes to alone exactly if presets whose items
are remembered under one key find the same (`LoopService.SharesPlainItems`); presets with one identifier are such.
-/

set_option autoImplicit false

namespace DynamicBlocks

open Text

/-! ## Values of a type -/

/-- Whether a value is of the kind that a type names. Types of other names take any value. -/
def Primitive.Has : Primitive → Value → Prop
  | .string, v => ∃ s, v = .text s
  | .number, v => ∃ n, v = .ofNumber n
  | .boolean, v => ∃ b, v = .bool b
  | .array, v => (∃ items, v = .list items) ∨ ∃ entries, v = .map entries
  | .object, v => (∃ items, v = .list items) ∨ ∃ entries, v = .map entries
  | .other _, _ => True

/-- The empty value of a type is one of the type. -/
theorem Primitive.has_emptyValue (primitive : Primitive) : primitive.Has primitive.emptyValue := by
  cases primitive with
  | string => exact ⟨"", rfl⟩
  | number => exact ⟨.int 0, rfl⟩
  | boolean => exact ⟨false, rfl⟩
  | array => exact .inl ⟨[], rfl⟩
  | object => exact .inr ⟨[], rfl⟩
  | other name => trivial

/-- No empty value is null. -/
theorem Primitive.emptyValue_ne_null (primitive : Primitive) : primitive.emptyValue ≠ .null := by
  cases primitive <;> exact Value.noConfusion

namespace Value

/-- What a text means is a list or a mapping, by its JSON or else by its commas. -/
theorem collectionOf_cases (s : String) :
    (∃ items, collectionOf s = .list items) ∨ ∃ entries, collectionOf s = .map entries := by
  unfold collectionOf jsonCollection?
  split
  · split
    · exact .inl ⟨_, rfl⟩
    · exact .inr ⟨_, rfl⟩
    · exact .inl ⟨commaParts s, rfl⟩
  · exact .inl ⟨commaParts s, rfl⟩

/-- A value is made a list or a mapping, if it can be made a collection at all. -/
theorem onlyGives_toCollection (v : Value) :
    OnlyGives (fun w => (∃ items, w = .list items) ∨ ∃ entries, w = .map entries) v.toCollection := by
  unfold toCollection
  split
  · exact .ok (.inl ⟨_, rfl⟩)
  · exact .ok (.inr ⟨_, rfl⟩)
  · exact .map fun s => collectionOf_cases (trim s)

/-- Casting comes to a value of the type. -/
theorem onlyGives_cast (v : Value) (primitive : Primitive) : OnlyGives primitive.Has (v.cast primitive) := by
  unfold cast
  split
  · exact .ok primitive.has_emptyValue
  · cases primitive with
    | string => exact .map fun s => ⟨s, rfl⟩
    | number => exact .map fun n => ⟨n, rfl⟩
    | boolean => exact .ok ⟨_, rfl⟩
    | array => exact v.onlyGives_toCollection
    | object => exact v.onlyGives_toCollection
    | other name => exact .ok trivial

/-- Casting never comes to null: a type has an empty value of its own. -/
theorem ne_null_of_cast {v w : Value} {primitive : Primitive} (came : v.cast primitive = .ok w) : w ≠ .null := by
  have typed := v.onlyGives_cast primitive w came
  cases primitive with
  | string =>
    obtain ⟨s, rfl⟩ := typed
    exact Value.noConfusion
  | number =>
    obtain ⟨n, rfl⟩ := typed
    cases n <;> exact Value.noConfusion
  | boolean =>
    obtain ⟨b, rfl⟩ := typed
    exact Value.noConfusion
  | array => rcases typed with ⟨items, rfl⟩ | ⟨entries, rfl⟩ <;> exact Value.noConfusion
  | object => rcases typed with ⟨items, rfl⟩ | ⟨entries, rfl⟩ <;> exact Value.noConfusion
  | other name =>
    rintro rfl
    unfold cast at came
    split at came
    · exact absurd (Except.ok.inj came) (Primitive.other name).emptyValue_ne_null
    · rename_i filled
      rw [Except.ok.inj came] at filled
      exact filled rfl

/-- A value of a type is what it is when it is cast to the type. -/
theorem cast_of_has {v : Value} {primitive : Primitive} (typed : primitive.Has v) (filled : v ≠ .null) :
    v.cast primitive = .ok v := by
  cases primitive with
  | string =>
    obtain ⟨s, rfl⟩ := typed
    by_cases empty : s = ""
    · subst empty
      rfl
    · simp [cast, isNull, isEmptyText, empty, display]
  | number =>
    obtain ⟨n, rfl⟩ := typed
    cases n <;> rfl
  | boolean =>
    obtain ⟨b, rfl⟩ := typed
    cases b <;> rfl
  | array => rcases typed with ⟨items, rfl⟩ | ⟨entries, rfl⟩ <;> rfl
  | object => rcases typed with ⟨items, rfl⟩ | ⟨entries, rfl⟩ <;> rfl
  | other name =>
    unfold cast
    split
    · rename_i empty
      rcases Bool.or_eq_true_iff.mp empty with null | blank
      · exact absurd null (by rw [isNull_eq_false filled]; exact Bool.false_ne_true)
      · cases v with
        | text s =>
          obtain rfl : s = "" := by simpa [isEmptyText] using blank
          rfl
        | _ => cases blank
    · rfl

end Value

namespace PropScope

/-! ## Definitions and attributes of a key -/

/-- The definition that counts for a key, the last one. -/
def lastDefinition? (definitions : List PropDefinition) (key : String) : Option PropDefinition :=
  definitions.reverse.find? fun definition => definition.key = key

/-- What is given for a key: the last attribute under it that is not null. -/
def given? (attributes : List (String × Value)) (key : String) : Option Value :=
  (attributes.reverse.find? fun entry => entry.1 = key && !entry.2.isNull).map (·.2)

/-- The attribute that is given first under a key, unless it is null, is the one given. -/
theorem given?_cons (name : String) (v : Value) (attributes : List (String × Value)) (key : String) :
    given? ((name, v) :: attributes) key =
      (given? attributes key).or (if name = key && !v.isNull then some v else none) := by
  unfold given?
  rw [List.reverse_cons, List.find?_append, Option.map_or, List.find?_singleton]
  dsimp only
  congr 1
  split <;> rfl

/-- Replacing the definition of a key in place does not change what is found for another key. -/
theorem find?_replaced (known : List PropDefinition) (last : PropDefinition) (key : String) :
    (known.map fun other => if other.key = last.key then last else other).find? (fun other => other.key = key) =
      if last.key = key then (known.find? fun other => other.key = key).map fun _ => last
      else known.find? fun other => other.key = key := by
  induction known with
  | nil => simp
  | cons first known ih =>
    rw [List.map_cons, List.find?_cons, ih, List.find?_cons]
    by_cases here : last.key = key
    · by_cases same : first.key = last.key
      · simp [here, same]
      · have other : first.key ≠ key := fun there => same (there.trans here.symm)
        simp [here, other]
    · by_cases same : first.key = last.key
      · simp [here, same]
      · simp [here, same]

/-- Of the definitions that are left, one is found for each key, and that is the last. -/
theorem find?_lastOfKey (definitions : List PropDefinition) (key : String) :
    (lastOfKey definitions).find? (fun definition => definition.key = key) = lastDefinition? definitions key := by
  induction definitions using List.reverseRecOn with
  | nil => rfl
  | append_singleton definitions last ih =>
    have newest : lastDefinition? (definitions ++ [last]) key =
        if last.key = key then some last else lastDefinition? definitions key := by
      unfold lastDefinition?
      rw [List.reverse_append, List.reverse_singleton, List.singleton_append, List.find?_cons]
      split <;> simp_all
    rw [newest, lastOfKey_append]
    split
    · rename_i known
      rw [find?_replaced, ih]
      by_cases here : last.key = key
      · obtain ⟨other, there, same⟩ := List.any_eq_true.mp known
        have found : (lastDefinition? definitions key).isSome = true := by
          rw [← ih]
          exact List.find?_isSome.mpr ⟨other, there, by simpa [here] using same⟩
        obtain ⟨earlier, is⟩ := Option.isSome_iff_exists.mp found
        rw [if_pos here, if_pos here, is]
        rfl
      · rw [if_neg here, if_neg here]
    · rename_i unknown
      rw [List.find?_append, ih]
      by_cases here : last.key = key
      · have none : lastDefinition? definitions key = none := by
          rw [← ih]
          refine List.find?_eq_none.mpr fun other there same => unknown ?_
          exact List.any_eq_true.mpr ⟨other, there, by simpa [here] using same⟩
        rw [none, if_pos here]
        simp [here]
      · rw [if_neg here]
        simp [here]

/-- The keys are those that are declared, in the order in which they first are. -/
theorem map_key_lastOfKey (definitions : List PropDefinition) :
    (lastOfKey definitions).map (·.key) = (definitions.map (·.key)).eraseDups := by
  induction definitions using List.reverseRecOn with
  | nil => rfl
  | append_singleton definitions last ih =>
    have known : ((lastOfKey definitions).any fun other => other.key = last.key) = true ↔
        last.key ∈ definitions.map (·.key) := by
      rw [← List.mem_eraseDups, ← ih, List.any_eq_true, List.mem_map]
      simp only [decide_eq_true_eq]
    rw [lastOfKey_append, List.map_append, List.map_singleton]
    split
    · rename_i there
      rw [eraseDups_concat_of_mem (known.mp there), ← ih, List.map_map]
      refine List.map_congr_left fun other _ => ?_
      rw [Function.comp_apply]
      split
      · rename_i same
        exact same.symm
      · rfl
    · rename_i new
      rw [eraseDups_concat_of_notMem fun there => new (known.mpr there), List.map_append, ih]
      rfl

end PropScope

/-! ## Each value on its own -/

/-- A sequence that comes to a value has come to one on its way. -/
theorem LoopM.exists_of_bind_eq_ok {α β : Type} {action : LoopM α} {next : α → LoopM β} {s t : LoopState} {y : β}
    (done : (action >>= next) s = (.ok y, t)) : ∃ x u, action s = (.ok x, u) ∧ next x u = (.ok y, t) := by
  rw [bind_apply] at done
  rcases first : action s with ⟨outcome, u⟩
  rw [first] at done
  cases outcome with
  | error f => cases done
  | ok x => exact ⟨x, u, rfl, done⟩

/-- After an action that comes to a value comes what follows it. -/
theorem LoopM.bind_of_ok {α β : Type} {action : LoopM α} {next : α → LoopM β} {s t : LoopState} {x : α}
    (done : action s = (.ok x, t)) : (action >>= next) s = next x t := by
  rw [bind_apply, done]
  rfl

/-- An action whose value is changed. -/
theorem LoopM.map_apply {α β : Type} (f : α → β) (action : LoopM α) (s : LoopState) :
    (f <$> action) s = ((action s).1.map f, (action s).2) := by
  rw [← bind_pure_comp, bind_apply]
  rcases action s with ⟨outcome, t⟩
  cases outcome <;> rfl

namespace PropScope

variable {scope : PropScope}

/-- The value of a property by itself: of what is given for it, or else of its default. -/
def ownValue (scope : PropScope) (definition : PropDefinition) : (given : Option Value) → LoopM Value
  | some v => scope.propValue definition v
  | none => scope.defaultValue definition

/-- Something about the state that the evaluation of single properties keeps. -/
def Keeps (scope : PropScope) (holds : LoopState → Prop) : Prop :=
  ∀ definition given s, holds s → holds (scope.ownValue definition given s).2

/-- What a property keeps holds of the state behind it. -/
theorem Keeps.after {holds : LoopState → Prop} (kept : scope.Keeps holds) {definition : PropDefinition}
    {given : Option Value} {s t : LoopState} {outcome : Except Failure Value}
    (done : scope.ownValue definition given s = (outcome, t)) (before : holds s) : holds t := by
  have after := kept definition given s before
  rwa [done] at after

/-- A property that takes a loop refers to it. -/
theorem propValue_of_loop {definition : PropDefinition} (loop : definition.isLoop = true) (v : Value) :
    scope.propValue definition v = scope.loopValue v := by
  unfold propValue
  rw [loop, if_pos rfl]

/-- Any other property is cast. -/
theorem propValue_of_single {definition : PropDefinition} (single : definition.isLoop = false) (v : Value) :
    scope.propValue definition v = DynamicBlocks.ofExcept (v.cast definition.primitive) := by
  unfold propValue
  rw [single, if_neg Bool.false_ne_true]
  rfl

/-- From some state of a kind the property comes to a value by itself. -/
def ComesTo (scope : PropScope) (holds : LoopState → Prop) (definition : PropDefinition) (given : Option Value)
    (v : Value) : Prop :=
  ∃ s, holds s ∧ (scope.ownValue definition given s).1 = .ok v

/-- An attribute is passed over, for nothing is declared under its name or it is null, or else it is set. -/
theorem setGiven_cons_cases {definitions : List PropDefinition} {name : String} {v : Value}
    {attributes props set : List (String × Value)} {s t : LoopState}
    (made : scope.setGiven definitions props ((name, v) :: attributes) s = (.ok set, t)) :
    (definitions.find? (fun other => other.key = name) = none ∨ v.isNull = true) ∧
        scope.setGiven definitions props attributes s = (.ok set, t) ∨
      ∃ own w u, definitions.find? (fun other => other.key = name) = some own ∧ v.isNull = false ∧
        scope.propValue own v s = (.ok w, u) ∧
        scope.setGiven definitions (setProp props name w) attributes u = (.ok set, t) := by
  unfold setGiven at made
  cases there : definitions.find? fun other => other.key = name with
  | none =>
    rw [there] at made
    exact .inl ⟨.inl rfl, made⟩
  | some own =>
    rw [there] at made
    dsimp only at made
    cases null : v.isNull with
    | true =>
      rw [null, if_pos rfl] at made
      exact .inl ⟨.inr rfl, made⟩
    | false =>
      rw [null, if_neg Bool.false_ne_true] at made
      obtain ⟨w, u, first, made⟩ := LoopM.exists_of_bind_eq_ok made
      exact .inr ⟨own, w, u, rfl, rfl, first, made⟩

section

variable {holds : LoopState → Prop} (kept : scope.Keeps holds)
include kept

/-- Defaults are evaluated one after the other: an induction on the definitions. -/
theorem comesTo_of_defaults {definitions : List PropDefinition} {s t : LoopState} {props : List (String × Value)}
    (made : scope.defaults definitions s = (.ok props, t)) (before : holds s) :
    holds t ∧ ∀ key definition, definitions.find? (fun other => other.key = key) = some definition →
      ∃ v, props.lookup key = some v ∧ scope.ComesTo holds definition none v := by
  induction definitions generalizing s props with
  | nil =>
    obtain ⟨-, rfl⟩ := Prod.mk.inj made
    exact ⟨before, fun _ _ impossible => nomatch impossible⟩
  | cons first definitions ih =>
    obtain ⟨v, u, default, made⟩ := LoopM.exists_of_bind_eq_ok made
    obtain ⟨rest, w, others, made⟩ := LoopM.exists_of_bind_eq_ok made
    obtain ⟨same, rfl⟩ := Prod.mk.inj made
    obtain rfl := Except.ok.inj same
    have own : scope.ownValue first none s = (.ok v, u) := default
    obtain ⟨after, each⟩ := ih others (kept.after own before)
    refine ⟨after, fun key definition declared => ?_⟩
    by_cases here : first.key = key
    · rw [List.find?_cons_of_pos (by simpa using here)] at declared
      obtain rfl := Option.some.inj declared
      exact ⟨v, by rw [← here, List.lookup_cons_self], s, before, congrArg Prod.fst own⟩
    · rw [List.find?_cons_of_neg (by simpa using here)] at declared
      rw [List.lookup_cons, beq_false_of_ne (Ne.symm here)]
      exact each key definition declared

/-- Attributes are set one after the other, and the last one given for a key stays: an induction on the attributes. -/
theorem comesTo_of_setGiven {definitions : List PropDefinition} {key : String} {definition : PropDefinition}
    (declared : definitions.find? (fun other => other.key = key) = some definition)
    {attributes props set : List (String × Value)} (held : key ∈ props.map Prod.fst) {s t : LoopState}
    (made : scope.setGiven definitions props attributes s = (.ok set, t)) (before : holds s) :
    match given? attributes key with
    | some v => ∃ w, set.lookup key = some w ∧ scope.ComesTo holds definition (some v) w
    | none => set.lookup key = props.lookup key := by
  induction attributes generalizing props s with
  | nil =>
    obtain ⟨same, -⟩ := Prod.mk.inj made
    obtain rfl := Except.ok.inj same
    rfl
  | cons entry attributes ih =>
    obtain ⟨name, v⟩ := entry
    rw [given?_cons]
    rcases setGiven_cons_cases made with ⟨skips, made⟩ | ⟨own, w, u, there, filled, first, made⟩
    · have passed : (name = key && !v.isNull) = false := by
        rcases skips with undeclared | null
        · have other : name ≠ key := by
            rintro rfl
            rw [declared] at undeclared
            cases undeclared
          simp [other]
        · simp [null]
      rw [if_neg (by rw [passed]; exact Bool.false_ne_true), Option.or_none]
      exact ih held made before
    · have value : scope.ownValue own (some v) s = (.ok w, u) := first
      have heldAfter : key ∈ (setProp props name w).map Prod.fst := by
        rw [map_fst_setProp]
        exact held
      have later := ih heldAfter made (kept.after value before)
      rw [lookup_setProp held] at later
      by_cases here : name = key
      · subst here
        obtain rfl := Option.some.inj (there.symm.trans declared)
        rw [if_pos (by simp [filled])]
        cases rest : given? attributes name with
        | some last =>
          rw [rest] at later
          exact later
        | none =>
          rw [rest, if_pos rfl] at later
          exact ⟨w, later, s, before, congrArg Prod.fst value⟩
      · rw [if_neg (by simp [here]), Option.or_none]
        rw [if_neg here] at later
        exact later

end

/-- The properties that attributes are set in keep their names and their order. -/
theorem map_fst_of_setGiven {definitions : List PropDefinition} {attributes props set : List (String × Value)}
    {s t : LoopState} (made : scope.setGiven definitions props attributes s = (.ok set, t)) :
    set.map Prod.fst = props.map Prod.fst := by
  induction attributes generalizing props s with
  | nil =>
    obtain ⟨same, -⟩ := Prod.mk.inj made
    rw [← Except.ok.inj same]
  | cons entry attributes ih =>
    obtain ⟨name, v⟩ := entry
    rcases setGiven_cons_cases made with ⟨-, made⟩ | ⟨own, w, u, -, -, -, made⟩
    · exact ih made
    · rw [ih made, map_fst_setProp]

/-- The keys of the properties are those that are declared. -/
theorem map_fst_of_properties {definitions : List PropDefinition} {attributes props : List (String × Value)}
    {s t : LoopState} (made : scope.properties definitions attributes s = (.ok props, t)) :
    props.map Prod.fst = (definitions.map (·.key)).eraseDups := by
  obtain ⟨defaulted, u, before, made⟩ := LoopM.exists_of_bind_eq_ok made
  rw [map_fst_of_setGiven made, map_fst_of_defaults ⟨s, u, before⟩, map_key_lastOfKey]

/-- Each property comes to what its own definition and its own attribute come to in some state on the way. -/
theorem comesTo_of_properties {holds : LoopState → Prop} (kept : scope.Keeps holds)
    {definitions : List PropDefinition} {attributes props : List (String × Value)} {s t : LoopState}
    (made : scope.properties definitions attributes s = (.ok props, t)) (before : holds s) {key : String}
    {definition : PropDefinition} (last : lastDefinition? definitions key = some definition) :
    ∃ v, props.lookup key = some v ∧ scope.ComesTo holds definition (given? attributes key) v := by
  rw [← find?_lastOfKey] at last
  obtain ⟨defaulted, u, defaults, made⟩ := LoopM.exists_of_bind_eq_ok made
  obtain ⟨between, each⟩ := comesTo_of_defaults kept defaults before
  obtain ⟨v, there, came⟩ := each key definition last
  have held : key ∈ defaulted.map Prod.fst := List.mem_map.mpr ⟨_, mem_of_lookup_eq_some there, rfl⟩
  have set := comesTo_of_setGiven kept last held made between
  cases given : given? attributes key with
  | some g =>
    rw [given] at set
    exact set
  | none =>
    rw [given] at set
    exact ⟨v, set.trans there, came⟩

/-! ## Properties that take no loop -/

/-- What is known of the value of a property, given its definition and what is given under its key. -/
structure Fits (scope : PropScope) (definition : PropDefinition) (given : Option Value) (v : Value) : Prop where
  /-- A loop is a reference, unless its default cannot be evaluated and nothing is given in its place. -/
  reference : definition.isLoop = true → (∃ key data, v = .loop key data) ∨
    given = none ∧ refersToProps definition.default = true ∧ v = definition.primitive.emptyValue
  typed : definition.isLoop = false → definition.primitive.Has v
  /-- Any other value comes of its own definition and what is given, wherever it is evaluated. -/
  own : definition.isLoop = false → ∀ s, scope.ownValue definition given s = (.ok v, s)
  again : definition.isLoop = false → v.cast definition.primitive = .ok v
  /-- Where it is the property of a body, an expression that hands it on to a property of the same type does so. -/
  forwarded : definition.isLoop = false → LoopRef.ofValue? v = none →
    ∀ (inner : PropScope) (key : String) (other : PropDefinition), HasProp inner.sources key v →
      isKey key.toList = true → other.isLoop = false → other.primitive = definition.primitive →
      ∀ s, (DynamicBlocks.ofExcept (resolveContent inner.modifiers inner.sources
        (.text ("\x7b" ++ propText key ++ "\x7d"))) >>= inner.propValue other) s = (.ok v, s)

/-- A property that takes no loop is given or made of its default, and cast. -/
theorem ownValue_of_single {definition : PropDefinition} (single : definition.isLoop = false) (given : Option Value) :
    ∃ outcome, scope.ownValue definition given = DynamicBlocks.ofExcept outcome ∧
      ∀ v, outcome = .ok v → ∃ u : Value, u.cast definition.primitive = .ok v := by
  cases given with
  | some u => exact ⟨u.cast definition.primitive, propValue_of_single single u, fun v came => ⟨u, came⟩⟩
  | none =>
    show ∃ outcome, scope.defaultValue definition = _ ∧ _
    unfold defaultValue
    split
    · exact ⟨.ok definition.primitive.emptyValue, rfl, fun v came => ⟨.null, (Value.cast_null _).trans came⟩⟩
    · cases scope.givenDefault definition.default with
      | error f => exact ⟨.error f, rfl, fun v impossible => nomatch impossible⟩
      | ok u => exact ⟨u.cast definition.primitive, propValue_of_single single u, fun v came => ⟨u, came⟩⟩

/-- What is made of a value for a loop is a reference. -/
theorem loopValue_cases {v w : Value} {s : LoopState} (came : (scope.loopValue v s).1 = .ok w) :
    ∃ key data, w = .loop key data := by
  unfold loopValue at came
  cases is : LoopRef.ofValue? v with
  | some ref =>
    rw [is] at came
    exact ⟨ref.key, ref.data, (Except.ok.inj came).symm⟩
  | none =>
    rw [is] at came
    obtain ⟨key, u, -, made⟩ := LoopM.exists_of_bind_eq_ok (Prod.ext came rfl)
    obtain ⟨data, u, -, made⟩ := LoopM.exists_of_bind_eq_ok made
    exact ⟨key, data, (Except.ok.inj (congrArg Prod.fst made)).symm⟩

/-- Whatever comes of a definition and of what is given fits them. -/
theorem fits_of_comesTo {holds : LoopState → Prop} {definition : PropDefinition} {given : Option Value} {v : Value}
    (came : scope.ComesTo holds definition given v) : scope.Fits definition given v := by
  obtain ⟨s, -, came⟩ := came
  have single (single : definition.isLoop = false) :
      scope.ownValue definition given = DynamicBlocks.ofExcept (.ok v) ∧
        ∃ u : Value, u.cast definition.primitive = .ok v := by
    obtain ⟨outcome, settled, cast⟩ := scope.ownValue_of_single single given
    rw [settled] at came
    obtain rfl : outcome = .ok v := came
    exact ⟨settled, cast v rfl⟩
  have typed (other : definition.isLoop = false) : definition.primitive.Has v := by
    obtain ⟨u, cast⟩ := (single other).2
    exact u.onlyGives_cast _ v cast
  have again (other : definition.isLoop = false) : v.cast definition.primitive = .ok v := by
    obtain ⟨u, cast⟩ := (single other).2
    exact Value.cast_of_has (typed other) (Value.ne_null_of_cast cast)
  refine ⟨?reference, typed, fun other t => congrFun (single other).1 t, again, ?forwarded⟩
  case reference =>
    intro loop
    cases given with
    | some u =>
      have came : (scope.propValue definition u s).1 = .ok v := came
      rw [propValue_of_loop loop] at came
      exact .inl (loopValue_cases came)
    | none =>
      have came : (scope.defaultValue definition s).1 = .ok v := came
      unfold defaultValue at came
      cases refers : refersToProps definition.default with
      | true =>
        rw [refers, if_pos rfl] at came
        exact .inr ⟨rfl, rfl, (Except.ok.inj came).symm⟩
      | false =>
        rw [refers, if_neg Bool.false_ne_true] at came
        obtain ⟨u, t, -, made⟩ := LoopM.exists_of_bind_eq_ok (Prod.ext came rfl)
        rw [propValue_of_loop loop] at made
        exact .inl (loopValue_cases (congrArg Prod.fst made))
  case forwarded =>
    intro one plain inner key other holds keyed single sameType t
    have resolved : resolveContent inner.modifiers inner.sources (.text ("\x7b" ++ propText key ++ "\x7d")) = .ok v := by
      rw [resolveContent_of_standalone? (standalone?_braced keyed), String.ofList_toList, holds.evaluate_propText keyed]
      exact Engine.unwrap_of_noLoop plain
    have value : inner.propValue other v = DynamicBlocks.ofExcept (.ok v) := by
      rw [propValue_of_single single, sameType, again one]
    rw [resolved]
    exact congrFun value t

/-! ## Properties that take a loop -/

/-- How a property is evaluated: it is settled without a look at what is remembered, or it is a reference to a preset
that a text names, and the items of the preset are asked for. -/
inductive AsksOnce (scope : PropScope) : LoopM Value → Prop where
  | settled (outcome : Except Failure Value) : AsksOnce scope (DynamicBlocks.ofExcept outcome)
  | named (key text : String) (service : LoopService) (there : scope.loops = some service) :
      AsksOnce scope (Value.loop key <$> service.items (.text (withoutBraces text)) [])

/-- What comes behind an outcome asks at most once if it does so for each value. -/
theorem AsksOnce.after {α : Type} {outcome : Except Failure α} {next : α → LoopM Value}
    (each : ∀ x, scope.AsksOnce (next x)) : scope.AsksOnce (DynamicBlocks.ofExcept outcome >>= next) := by
  cases outcome with
  | error f => exact .settled (.error f)
  | ok x => exact each x

/-- The data of a loop reference in braces is asked for once. -/
theorem asksOnce_expressionData (key text : String) :
    scope.AsksOnce (Value.loop key <$> scope.expressionData (withoutBraces text)) := by
  unfold expressionData
  split
  · exact .settled (.ok (.loop key (.list [])))
  · cases knowing : scope.loopsKnowing (withoutBraces text) with
    | some loops => exact .named key text loops (Option.filter_eq_some_iff.mp knowing).1
    | none =>
      dsimp only
      rw [map_bind]
      exact .after fun listed => .settled (.ok (.loop key (.list (listed.getD (itemsOfText (withoutBraces text))))))

/-- The value of a loop property asks at most once. -/
theorem asksOnce_loopValue (v : Value) : scope.AsksOnce (scope.loopValue v) := by
  unfold loopValue
  split
  · exact .settled _
  · refine .after fun key => ?_
    show scope.AsksOnce (scope.loopData v >>= fun data => pure (.loop key data))
    rw [bind_pure_comp]
    unfold loopData
    split
    · exact .settled (.ok _)
    · exact .settled (.ok _)
    · rw [map_bind]
      exact .after fun text => asksOnce_expressionData key text

/-- The value of a given property asks at most once. -/
theorem asksOnce_propValue (definition : PropDefinition) (v : Value) : scope.AsksOnce (scope.propValue definition v) := by
  unfold propValue
  split
  · exact asksOnce_loopValue v
  · exact .settled _

/-- The value of a declared property asks at most once. -/
theorem asksOnce_ownValue (definition : PropDefinition) (given : Option Value) :
    scope.AsksOnce (scope.ownValue definition given) := by
  cases given with
  | some v => exact asksOnce_propValue definition v
  | none =>
    show scope.AsksOnce (scope.defaultValue definition)
    unfold defaultValue
    split
    · exact .settled (.ok _)
    · exact .after fun v => asksOnce_propValue definition v

end PropScope

/-! ## Items that are shared -/

namespace LoopService

/-- Whether the items of a preset for no parameters are remembered under a key. -/
def HasPlainKey (service : LoopService) (preset : LoopPreset) (key : String) : Prop :=
  service.HasKey ⟨preset, []⟩ key

/-- Whether a text that is given for a property can name a preset. -/
def NamedInProps (service : LoopService) (preset : LoopPreset) : Prop :=
  ∃ s, service.preset? (.text (PropScope.withoutBraces s)) = some preset

/-- Whether a preset finds, for no parameters, whatever is remembered for a preset under the same key. -/
def SharesPlainItems (service : LoopService) : Prop :=
  ∀ preset other key, service.NamedInProps preset → service.NamedInProps other →
    service.HasPlainKey preset key → service.HasPlainKey other key →
      (service.handlers.lookup other.type).isSome = true →
        service.found other [] ≠ .null → service.found other [] = service.found preset []

/-- Two states in which every preset that properties can name has the same items for no parameters. -/
def SamePlainItems (service : LoopService) (s t : LoopState) : Prop :=
  ∀ preset, service.NamedInProps preset → service.answer t.cache preset [] = service.answer s.cache preset []

variable (service : LoopService)

variable {service}

/-- Without parameters the answer is the one cached under the key, or else the one found. -/
theorem HasPlainKey.answer_nil {preset : LoopPreset} {key : String} (hasKey : service.HasPlainKey preset key)
    (cache : LoopCache) :
    service.answer cache preset [] = .ok ((cache.find key).1.getD (service.found preset [])) := by
  obtain ⟨text, written, rfl⟩ := hasKey
  replace written : requestText preset.id [] = .ok text := written
  unfold answer
  rw [written]
  rfl

/-- The items of a preset for no parameters are those under its key. -/
theorem HasPlainKey.items_nil {preset : LoopPreset} {key : String} (hasKey : service.HasPlainKey preset key)
    {name : Value} (meant : service.preset? name = some preset) (s : LoopState) :
    service.items name [] s =
      (.ok (service.itemsUnder key preset [] s).1, (service.itemsUnder key preset [] s).2) := by
  obtain ⟨text, written, rfl⟩ := hasKey
  replace written : requestText preset.id [] = .ok text := written
  unfold items
  rw [meant]
  dsimp only
  rw [written]

/-- Where there is a key, asking for the items of a preset under it changes nothing for another, if items are shared. -/
theorem SharesPlainItems.itemsUnder (shares : service.SharesPlainItems) {preset : LoopPreset}
    (named : service.NamedInProps preset) {key : String} (hasKey : service.HasPlainKey preset key) (s : LoopState) :
    service.SamePlainItems s (service.itemsUnder key preset [] s).2 := by
  intro other namedToo
  cases written : requestText other.id [] with
  | error f =>
    unfold answer
    rw [written]
    rfl
  | ok text =>
    have hasKeyToo : service.HasPlainKey other (service.digest text) := ⟨text, written, rfl⟩
    rw [hasKeyToo.answer_nil, hasKeyToo.answer_nil]
    rcases service.itemsUnder_cases key preset [] s with ⟨-, -, found⟩ | ⟨nothing, handled, -, set, found⟩
    · rw [found]
    · by_cases same : service.digest text = key
      · rw [same, nothing, set, Option.getD_none]
        by_cases null : service.found preset [] = .null
        · rw [null]
          rfl
        · rw [Option.filter_some, Value.isNull_eq_false null, Bool.not_false, if_pos rfl, Option.getD_some,
            shares other preset key namedToo named (same ▸ hasKeyToo) hasKey handled null]
      · rw [found _ same]

/-- Where items are shared, asking for those of one preset changes nothing for another. -/
theorem SharesPlainItems.items (shares : service.SharesPlainItems) {name : Value} {preset : LoopPreset}
    (meant : service.preset? name = some preset) (named : service.NamedInProps preset) (s : LoopState) :
    service.SamePlainItems s (service.items name [] s).2 := by
  cases written : requestText preset.id [] with
  | error f =>
    unfold LoopService.items
    rw [meant]
    dsimp only
    rw [written]
    exact fun _ _ => rfl
  | ok text =>
    have hasKey : service.HasPlainKey preset (service.digest text) := ⟨text, written, rfl⟩
    rw [hasKey.items_nil meant]
    exact shares.itemsUnder named hasKey s

end LoopService

namespace PropScope

variable {scope : PropScope}

/-- Whether whatever is remembered for a preset is found for every other that properties cannot tell from it. -/
def SharesItems (scope : PropScope) : Prop :=
  ∀ service, scope.loops = some service → service.SharesPlainItems

/-- Evaluating one property leaves all presets the items that they had, where items are shared. -/
theorem SharesItems.keeps (shares : scope.SharesItems) (s : LoopState) :
    scope.Keeps fun t => ∀ service, scope.loops = some service → service.SamePlainItems s t := by
  intro definition given t before service there
  have asks : scope.AsksOnce (scope.ownValue definition given) := asksOnce_ownValue definition given
  generalize scope.ownValue definition given = action at asks ⊢
  cases asks with
  | settled outcome => exact before service there
  | named key text service' there' =>
    obtain rfl := Option.some.inj (there'.symm.trans there)
    rw [LoopM.map_apply]
    dsimp only
    cases meant : service'.preset? (.text (withoutBraces text)) with
    | none =>
      unfold LoopService.items
      rw [meant]
      exact before service' there
    | some preset =>
      have learned := (shares service' there).items meant ⟨text, meant⟩ t
      exact fun other named => (learned other named).trans (before service' there other named)

/-- States in which presets have the same items make no difference to a property. -/
theorem ownValue_fst_of_same {s t : LoopState}
    (same : ∀ service, scope.loops = some service → service.SamePlainItems s t) (definition : PropDefinition)
    (given : Option Value) : (scope.ownValue definition given t).1 = (scope.ownValue definition given s).1 := by
  have asks : scope.AsksOnce (scope.ownValue definition given) := asksOnce_ownValue definition given
  generalize scope.ownValue definition given = action at asks ⊢
  cases asks with
  | settled outcome => rfl
  | named key text service there =>
    have items : (service.items (.text (withoutBraces text)) [] t).1 =
        (service.items (.text (withoutBraces text)) [] s).1 := by
      rw [service.items_fst, service.items_fst]
      cases meant : service.preset? (.text (withoutBraces text)) with
      | none => rfl
      | some preset => exact same service there preset ⟨text, meant⟩
    rw [LoopM.map_apply, LoopM.map_apply, items]

/-- Whether every property comes to what it comes to alone, whatever else is declared and given. -/
def OwnAlways (scope : PropScope) : Prop :=
  ∀ (sources : List Source) (definitions : List PropDefinition) (attributes props : List (String × Value))
    (s t : LoopState), { scope with sources }.properties definitions attributes s = (.ok props, t) →
    ∀ key definition, lastDefinition? definitions key = some definition →
      ∃ v, props.lookup key = some v ∧
        ({ scope with sources }.ownValue definition (given? attributes key) s).1 = .ok v

/-- A property that takes a loop and is nothing by default. -/
def loopNamed (key : String) : PropDefinition := ⟨key, .array, .text "array", .null⟩

/-- The value of the property for loop references is what loop properties are given. -/
theorem propValue_loopNamed (key : String) (v : Value) : scope.propValue (loopNamed key) v = scope.loopValue v := by
  have loop : (loopNamed key).isLoop = true := (Value.same_text "array" _).mpr rfl
  exact propValue_of_loop loop v

/-- Two properties that take loops are evaluated one after the other. -/
theorem properties_loops {v w : Value} (filled : v.isNull = false) (filledToo : w.isNull = false) :
    scope.properties [loopNamed "first", loopNamed "second"] [("first", v), ("second", w)] =
      scope.loopValue v >>= fun x => scope.loopValue w >>= fun y => pure [("first", x), ("second", y)] := by
  have default (key : String) : scope.defaultValue (loopNamed key) = pure (.loop "" (.list [])) := by
    show scope.propValue (loopNamed key) .null = _
    rw [propValue_loopNamed]
    exact loopValue_null
  have found (key : String) (there : key = "first" ∨ key = "second") :
      [loopNamed "first", loopNamed "second"].find? (fun other => other.key = key) = some (loopNamed key) := by
    rcases there with rfl | rfl <;> rfl
  have declared : lastOfKey [loopNamed "first", loopNamed "second"] = [loopNamed "first", loopNamed "second"] := rfl
  unfold properties
  rw [declared]
  unfold defaults defaults defaults
  simp only [default, pure_bind]
  unfold setGiven
  rw [found "first" (.inl rfl)]
  dsimp only
  rw [filled, if_neg Bool.false_ne_true, propValue_loopNamed]
  refine bind_congr fun x => ?_
  unfold setGiven
  rw [found "second" (.inr rfl)]
  dsimp only
  rw [filledToo, if_neg Bool.false_ne_true, propValue_loopNamed]
  rfl

/-- A text that names a preset becomes a reference to its items, where there is nothing to refer to. -/
theorem loopValue_named {service : LoopService} (asking : scope.loops = some service) (bare : scope.sources = [])
    {s : String} {preset : LoopPreset} (meant : service.preset? (.text (withoutBraces s)) = some preset) :
    scope.loopValue (.text s) = Value.loop (withoutBraces s) <$> service.items (.text (withoutBraces s)) [] := by
  have knows : service.knows (.text (withoutBraces s)) = true := by
    obtain ⟨id, is, -⟩ := Option.bind_eq_some_iff.mp meant
    rw [LoopService.knows, is]
    rfl
  have filled : withoutBraces s ≠ "" := by
    intro empty
    rw [empty] at knows
    cases knows
  have knowing : scope.loopsKnowing (withoutBraces s) = some service := by
    unfold loopsKnowing
    rw [asking, Option.filter_some, knows]
    rfl
  have key : scope.loopKey (.text s) = .ok (withoutBraces s) := by
    rw [loopKey_text, bare, List.isEmpty_nil, Bool.not_true, Bool.false_and, if_neg Bool.false_ne_true]
    rfl
  have data : scope.loopData (.text s) = service.items (.text (withoutBraces s)) [] := by
    rw [loopData_text]
    unfold expressionData
    rw [if_neg filled, knowing]
  rw [loopValue_text, key, data]
  exact pure_bind _ _

/-- Of two properties that take presets whose items are remembered under one key, the second comes to what is found for
the first. -/
theorem properties_shared {service : LoopService} (asking : scope.loops = some service) (bare : scope.sources = [])
    {one other : String} {preset preset' : LoopPreset}
    (meant : service.preset? (.text (withoutBraces one)) = some preset)
    (meant' : service.preset? (.text (withoutBraces other)) = some preset')
    {key : String} (hasKey : service.HasPlainKey preset key) (hasKey' : service.HasPlainKey preset' key)
    (handled : (service.handlers.lookup preset'.type).isSome = true) (found : service.found preset' [] ≠ .null) :
    ∃ t, scope.properties [loopNamed "first", loopNamed "second"] [("first", .text other), ("second", .text one)] .start =
      (.ok [("first", .loop (withoutBraces other) (service.found preset' [])),
        ("second", .loop (withoutBraces one) (service.found preset' []))], t) := by
  have nothing : (LoopState.start.cache.find key).1 = none := rfl
  have set : ((service.itemsUnder key preset' [] .start).2.cache.find key).1 = some (service.found preset' []) := by
    rcases service.itemsUnder_cases key preset' [] .start with ⟨alone, -⟩ | ⟨-, -, -, set, -⟩
    · rw [alone nothing] at handled
      cases handled
    · rw [set, Option.filter_some, Value.isNull_eq_false found]
      rfl
  have first : (service.itemsUnder key preset' [] .start).1 = service.found preset' [] := by
    rw [service.itemsUnder_fst, nothing, Option.getD_none]
  have taken : (scope.loopValue (.text other)) .start = (.ok (.loop (withoutBraces other) (service.found preset' [])),
      (service.itemsUnder key preset' [] .start).2) := by
    rw [loopValue_named asking bare meant', LoopM.map_apply, hasKey'.items_nil meant', first]
    rfl
  have takenToo : (scope.loopValue (.text one)) (service.itemsUnder key preset' [] .start).2 =
      (.ok (.loop (withoutBraces one) (service.found preset' [])),
        (service.itemsUnder key preset [] (service.itemsUnder key preset' [] .start).2).2) := by
    rw [loopValue_named asking bare meant, LoopM.map_apply, hasKey.items_nil meant, service.itemsUnder_fst, set]
    rfl
  refine ⟨(service.itemsUnder key preset [] (service.itemsUnder key preset' [] .start).2).2, ?_⟩
  rw [properties_loops rfl rfl, LoopM.bind_of_ok taken, LoopM.bind_of_ok takenToo]
  rfl

/-- What properties come to: whenever they come to anything, their keys are those that are declared, in the order in
which they first are, and each value fits its own definition, which is the last one of the key, and its own attribute.
It is of the type that is declared, casting it to the type leaves it as it is, and one that is no loop is a function of
that definition and that attribute. A loop comes to what it comes to alone as well, whatever else is declared and given
and whatever is remembered by then, exactly if presets whose items are remembered under one key find the same. -/
theorem properties_fit (scope : PropScope) :
    (∀ (definitions : List PropDefinition) (attributes props : List (String × Value)) (s t : LoopState),
      scope.properties definitions attributes s = (.ok props, t) →
      props.map Prod.fst = (definitions.map (·.key)).eraseDups ∧
        ∀ key definition, lastDefinition? definitions key = some definition →
          ∃ v, props.lookup key = some v ∧ scope.Fits definition (given? attributes key) v) ∧
      (scope.OwnAlways ↔ scope.SharesItems) := by
  refine ⟨fun definitions attributes props s t made => ⟨map_fst_of_properties made, fun key definition last => ?_⟩,
    fun own service asking preset other key named named' hasKey hasKey' handled found => ?_,
    fun shares sources definitions attributes props s t made key definition last => ?_⟩
  · have anything : scope.Keeps fun _ => True := fun _ _ _ _ => trivial
    obtain ⟨v, there, came⟩ := comesTo_of_properties anything made trivial last
    exact ⟨v, there, fits_of_comesTo came⟩
  · -- Two properties are enough: one for each of the presets, the other one first.
    obtain ⟨one, meant⟩ := named
    obtain ⟨two, meant'⟩ := named'
    have asked : { scope with sources := [] }.loops = some service := asking
    obtain ⟨t, made⟩ := properties_shared asked rfl meant meant' hasKey hasKey' handled found
    obtain ⟨v, there, alone⟩ := own [] _ _ _ _ _ made "second" (loopNamed "second") rfl
    have given : given? [("first", .text two), ("second", .text one)] "second" = some (.text one) := rfl
    have value : { scope with sources := [] }.ownValue (loopNamed "second") (some (.text one)) =
        { scope with sources := [] }.loopValue (.text one) := propValue_loopNamed "second" _
    rw [given, value, loopValue_named asked rfl meant, LoopM.map_apply,
      hasKey.items_nil meant, service.itemsUnder_fst] at alone
    obtain rfl := Option.some.inj there
    exact (Value.loop.inj (Except.ok.inj alone)).2.symm
  · have same : SharesItems { scope with sources } := shares
    obtain ⟨v, there, u, remembered, came⟩ := comesTo_of_properties (same.keeps s) made (fun _ _ _ _ => rfl) last
    exact ⟨v, there, (ownValue_fst_of_same remembered definition _).symm.trans came⟩

/-- Where two presets were built under one identifier. -/
def builtScope : PropScope := ⟨builtinModifiers, some .builtPosts, []⟩

/-- A size, declared twice, and posts. -/
def sizedPosts : List PropDefinition :=
  [⟨"size", .string, .null, .null⟩, loopNamed "posts", ⟨"size", .number, .null, .text "\x7bprops.scale\x7d"⟩]

/-- The size is a number, as it is declared last, and it is in front, as it is declared first. -/
theorem properties_fit_sizedPosts :
    ∃ t, builtScope.properties sizedPosts [("size", .text "3"), ("posts", .text "a")] .start =
        (.ok [("size", .int 3), ("posts", .loop "a" (.list [.int 1]))], t) ∧
      builtScope.Fits ⟨"size", .number, .null, .text "\x7bprops.scale\x7d"⟩ (some (.text "3")) (.int 3) ∧
      builtScope.Fits (loopNamed "posts") (some (.text "a")) (.loop "a" (.list [.int 1])) := by
  have came : (builtScope.properties sizedPosts [("size", .text "3"), ("posts", .text "a")] .start).1 =
      .ok [("size", .int 3), ("posts", .loop "a" (.list [.int 1]))] := by cbv
  rcases made : builtScope.properties sizedPosts [("size", .text "3"), ("posts", .text "a")] .start with ⟨outcome, t⟩
  rw [made] at came
  obtain rfl : outcome = .ok _ := came
  obtain ⟨-, each⟩ := (properties_fit builtScope).1 _ _ _ _ _ made
  obtain ⟨v, there, fits⟩ := each "size" ⟨"size", .number, .null, .text "\x7bprops.scale\x7d"⟩ rfl
  obtain ⟨w, thereToo, fitsToo⟩ := each "posts" (loopNamed "posts") rfl
  obtain rfl := Option.some.inj there
  obtain rfl := Option.some.inj thereToo
  exact ⟨t, rfl, fits, fitsToo⟩

/-- The second of two properties comes to the items of the preset that the first one names, and alone to its own. -/
theorem properties_builtPosts_ne :
    LoopService.presetsOf [(.text "a", (LoopService.builtPost 1).asBuilt),
        (.text "b", (LoopService.builtPost 2).asBuilt)] = .ok LoopService.builtPosts.presets ∧
      (∃ t, builtScope.properties [loopNamed "first", loopNamed "second"] [("first", .text "a"), ("second", .text "b")]
        .start = (.ok [("first", .loop "a" (.list [.int 1])), ("second", .loop "b" (.list [.int 1]))], t)) ∧
      (builtScope.ownValue (loopNamed "second") (some (.text "b")) .start).1 = .ok (.loop "b" (.list [.int 2])) := by
  have bareA : withoutBraces "a" = "a" := by cbv
  have bareB : withoutBraces "b" = "b" := by cbv
  have first : LoopService.builtPosts.preset? (.text (withoutBraces "a")) = some (LoopService.builtPost 1) := by
    rw [bareA]
    cbv
  have second : LoopService.builtPosts.preset? (.text (withoutBraces "b")) = some (LoopService.builtPost 2) := by
    rw [bareB]
    cbv
  have found (n : Int) : LoopService.builtPosts.found (LoopService.builtPost n) [] = .list [.int n] := by
    have data : Entries.field (LoopService.builtPost n).config "data" = .list [.int n] := by cbv
    have handler : LoopService.builtPosts.handlers.lookup (LoopService.builtPost n).type = some .data := rfl
    unfold LoopService.found
    rw [handler]
    dsimp only [LoopHandler.run]
    unfold configuredItems
    rw [data]
    rfl
  have asked : builtScope.loops = some .builtPosts := rfl
  have hasKey (n : Int) : LoopService.builtPosts.HasPlainKey (LoopService.builtPost n) "posts\x00\x7b\x7d" :=
    ⟨_, show requestText "posts" [] = .ok "posts\x00\x7b\x7d" by cbv, rfl⟩
  have shared := properties_shared asked rfl second first (hasKey 2) (hasKey 1) rfl (by simp [found])
  rw [bareA, bareB, found] at shared
  refine ⟨rfl, shared, ?_⟩
  show (builtScope.propValue (loopNamed "second") (.text "b") .start).1 = _
  rw [propValue_loopNamed, loopValue_named asked rfl second, LoopM.map_apply, (hasKey 2).items_nil second,
    LoopService.itemsUnder_fst, found, bareB]
  rfl

end PropScope

end DynamicBlocks
