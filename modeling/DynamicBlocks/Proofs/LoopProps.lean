import DynamicBlocks.Component.Props
import DynamicBlocks.Proofs.TargetValues
import DynamicBlocks.Proofs.TemplateTokens
import DynamicBlocks.Proofs.WrittenCalls

/-!
# Properties that take a loop

What an instance gives for a property is resolved where the instance stands, and for a property that takes a loop it is
then made a loop reference. The name of a preset becomes a reference with that name, whose items are those that the
preset has for no parameters. A loop reference that is itself the property of a component cannot be handed on: as an
expression it is the list of its items, and what is made of a list has items and no name.
-/

set_option autoImplicit false

namespace DynamicBlocks

open Text

/-! ## Texts without braces -/

/-- A text without braces is one literal token. -/
theorem tokensFrom_of_unbraced {c : Char} {cs : List Char} (unbraced : ∀ d ∈ c :: cs, d ≠ '\x7b') :
    tokensFrom 0 (c :: cs) = [.literal (c :: cs)] := by
  have opensNone : '\x7b' ∉ c :: cs := fun there => unbraced _ there rfl
  have read := tokensFrom_append_of_unbraced opensNone []
  rw [List.append_nil] at read
  exact read

/-- A text without braces is no lone expression. -/
theorem standalone?_of_unbraced {cs : List Char} (unbraced : ∀ d ∈ cs, d ≠ '\x7b') : standalone? cs = none :=
  standalone?_eq_none fun first => unbraced _ (List.mem_of_mem_head? first) rfl

/-- A text without braces is content that stands for itself. -/
theorem resolveContent_of_unbraced {s : String} (unbraced : ∀ d ∈ s.toList, d ≠ '\x7b') (table : ModifierTable)
    (sources : List Source) : resolveContent table sources (.text s) = .ok (.text s) := by
  have filled (replace : String → Except Failure String) (there : s ≠ "") : fillTemplate s replace = .ok s := by
    cases shape : s.toList with
    | nil => exact absurd (String.toList_eq_nil_iff.mp shape) there
    | cons c cs =>
      rw [shape] at unbraced
      unfold fillTemplate tokenize
      rw [shape, tokensFrom_of_unbraced unbraced]
      show Except.ok (String.join [String.ofList (c :: cs)]) = _
      rw [← shape, String.ofList_toList]
      simp
  unfold resolveContent resolveIn
  split
  · rfl
  · rename_i there
    unfold resolveTemplate
    rw [standalone?_of_unbraced unbraced, filled _ there]
    rfl

/-- A template that is one expression comes to what the expression does. -/
theorem resolveContent_of_standalone? {s : String} {inner : List Char} (alone : standalone? s.toList = some inner)
    (table : ModifierTable) (sources : List Source) :
    resolveContent table sources (.text s) = evaluate table sources (String.ofList inner) := by
  have filled : s ≠ "" := by
    rintro rfl
    cases alone
  unfold resolveContent resolveIn
  rw [if_neg filled]
  unfold resolveTemplate
  rw [alone]

/-! ## Expressions on properties -/

/-- The expression for a property. -/
def propText (name : String) : String :=
  "props" ++ "." ++ name

/-- The text of a prop is its name behind the root of props. -/
theorem toList_propText (name : String) :
    (propText name).toList = 'p' :: 'r' :: 'o' :: 'p' :: 's' :: '.' :: name.toList := by
  unfold propText
  rw [String.toList_append, String.toList_append]
  rfl

/-- The text of a prop is not empty. -/
theorem propText_ne_empty (name : String) : propText name ≠ "" := by
  intro empty
  have chars := toList_propText name
  rw [empty] at chars
  cases chars

/-- The text of a prop looks like one. -/
theorem contains_propText (name : String) : contains (propText name) "props." = true := by
  unfold contains
  rw [toList_propText]
  rfl

section

variable {name : String} (keyed : isKey name.toList = true)
include keyed

/-- The text of a prop leads from the props to the prop. -/
theorem segments_propText : (Expression.ofText (propText name)).segments = [.key "props", .key name] :=
  segments_key_key keyed (by decide)

/-- No brace and no quote stands in the text of a prop. -/
theorem plain_of_mem_propText : ∀ c ∈ (propText name).toList, c ≠ '\x7b' ∧ c ≠ '\x7d' ∧ c ≠ '"' ∧ c ≠ '\'' := by
  intro c there
  rw [toList_propText] at there
  simp only [List.mem_cons] at there
  rcases there with rfl | rfl | rfl | rfl | rfl | rfl | there
  · decide
  · decide
  · decide
  · decide
  · decide
  · decide
  · have plain := (plain_of_mem_key keyed c there).2
    exact ⟨ne_of_notMem_signs plain (by decide), ne_of_notMem_signs plain (by decide),
      ne_of_notMem_signs plain (by decide), ne_of_notMem_signs plain (by decide)⟩

/-- Nothing is trimmed off the text of a prop. -/
theorem trimChars_propText : trimChars (propText name).toList = (propText name).toList := by
  have trimmed := trimChars_key keyed
  obtain ⟨c, cs, shape, solid, _⟩ := exists_cons_of_isKey keyed
  rw [shape, trimChars_cons solid] at trimmed
  have kept : trimBack ("rops.".toList ++ c :: cs) = "rops.".toList ++ c :: trimBack cs :=
    trimBack_append_cons _ solid cs
  rw [toList_propText, shape, trimChars_cons (by decide)]
  show 'p' :: trimBack ("rops.".toList ++ c :: cs) = _
  rw [kept, trimmed]
  rfl

/-- The text of a prop is no literal. -/
theorem literal?_propText : literal? (propText name) = none := by
  have trimmed : trim (propText name) = propText name := by
    unfold trim
    rw [trimChars_propText keyed, String.ofList_toList]
  have unquoted : unquoted? (propText name).toList = none := by
    rw [toList_propText]
    rfl
  have number : Number.ofText? (propText name) = none := by
    unfold Number.ofText?
    rw [trimChars_propText keyed, toList_propText]
    rfl
  have truth : truth? (propText name) = none := by
    have lowered : (lower (propText name)).toList.head? = some 'p' := by
      unfold lower
      rw [toList_propText, String.toList_ofList]
      rfl
    have other {s : String} (head : s.toList.head? ≠ some 'p') : lower (propText name) ≠ s := by
      rintro rfl
      exact head lowered
    unfold truth?
    dsimp only
    rw [if_neg (other (by decide)), if_neg (other (by decide))]
  have json : jsonLiteral? (propText name) = none := by
    have unbracketed : looksLikeJson (propText name).toList = false := by
      rw [toList_propText]
      rfl
    unfold jsonLiteral?
    rw [unbracketed]
    rfl
  unfold literal?
  dsimp only
  rw [trimmed, if_neg (propText_ne_empty name), unquoted, number, truth, json]

end

/-- Sources where `props` means properties of which one has a value. -/
structure HasProp (sources : List Source) (name : String) (v : Value) : Prop where
  found : ∃ entries, findSource? "props" sources = some (.map entries) ∧ Entries.isLoop entries = false ∧
    (Value.map entries).lookup? name = some v

namespace HasProp

variable {sources : List Source} {name : String} {v : Value} (holds : HasProp sources name v)
  (keyed : isKey name.toList = true)
include holds keyed

/-- The expression for the property comes to its value, settled. -/
theorem resolveWith (keepLoop : Bool) (call : Value → String → List Argument → Except Failure Value) :
    (Expression.ofText (propText name)).resolveWith sources keepLoop call = settle keepLoop v := by
  obtain ⟨entries, found, plain, there⟩ := holds.found
  have itself : LoopRef.ofValue? (.map entries) = none := LoopRef.ofValue?_map_eq_none plain
  have walked : walk call (.map entries) [.key name] = .ok (some v) := by
    rw [Engine.walk_key call itself, there]
    rfl
  rw [Engine.resolveWith_eq (segments_propText keyed), found]
  dsimp only
  rw [walked]
  rfl

/-- The text of a prop comes to the prop, settled. -/
theorem evaluate_propText (table : ModifierTable) : evaluate table sources (propText name) = settle false v := by
  rw [evaluate_of_literal?_eq_none (literal?_propText keyed), holds.resolveWith keyed]

end HasProp

/-- The expression for a property in braces is a template from end to end. -/
theorem standalone?_braced {name : String} (keyed : isKey name.toList = true) :
    standalone? ("\x7b" ++ propText name ++ "\x7d").toList = some (propText name).toList := by
  have chars : ("\x7b" ++ propText name ++ "\x7d").toList = inBraces (propText name).toList := by
    rw [String.toList_append, String.toList_append]
    rfl
  have filled : (propText name).toList ≠ [] := by
    rw [toList_propText]
    exact List.cons_ne_nil _ _
  exact standalone?_eq_some_iff.mpr ⟨chars, filled, fillsBraces_of_plain (plain_of_mem_propText keyed)⟩

/-- Sources where `props` means properties of which one is a loop reference. -/
structure HasLoopProp (sources : List Source) (name key : String) (data : Value) : Prop where
  found : ∃ entries, findSource? "props" sources = some (.map entries) ∧ Entries.isLoop entries = false ∧
    (Value.map entries).lookup? name = some (.loop key data)

namespace HasLoopProp

variable {sources : List Source} {name key : String} {data : Value} (holds : HasLoopProp sources name key data)
  (keyed : isKey name.toList = true)
include holds keyed

/-- The expression for the property comes to the reference, or else to the list of its items. -/
theorem resolveWith (keepLoop : Bool) (call : Value → String → List Argument → Except Failure Value) :
    (Expression.ofText (propText name)).resolveWith sources keepLoop call = settle keepLoop (.loop key data) :=
  HasProp.resolveWith ⟨holds.found⟩ keyed keepLoop call

/-- The text of a prop that is a reference comes to its items. -/
theorem evaluate_propText (table : ModifierTable) : evaluate table sources (propText name) = .list <$> data.series :=
  HasProp.evaluate_propText ⟨holds.found⟩ keyed table

/-- So it does as the value of an attribute. -/
theorem valueOf_propText (engine : Engine) : engine.valueOf sources (propText name) false = .list <$> data.series := by
  unfold Engine.valueOf
  rw [resolve_ofText, holds.resolveWith keyed]
  rfl

/-- So it does in braces, as content. -/
theorem resolveContent_braced (table : ModifierTable) :
    resolveContent table sources (.text ("\x7b" ++ propText name ++ "\x7d")) = .list <$> data.series := by
  rw [resolveContent_of_standalone? (standalone?_braced keyed), String.ofList_toList, holds.evaluate_propText keyed]

end HasLoopProp

/-! ## References made of what is given -/

namespace PropScope

variable {scope : PropScope}

/-- A text without braces and blanks around it is taken as it is. -/
theorem withoutBraces_of_plain {s : String} (trimmed : trimChars s.toList = s.toList)
    (unbraced : ∀ d ∈ s.toList, d ≠ '\x7b') : withoutBraces s = s := by
  unfold withoutBraces
  rw [trimmed]
  dsimp only
  rw [standalone?_of_unbraced unbraced]
  exact String.ofList_toList

/-- The key of a loop prop given as text is the text, or what the prop in it holds. -/
theorem loopKey_text (s : String) :
    scope.loopKey (.text s) =
      if !scope.sources.isEmpty && contains (withoutBraces s) "props." then
        evaluate scope.modifiers scope.sources (withoutBraces s) >>= fun v => match v with
          | .text t => pure (if t = "" then withoutBraces s else t)
          | _ => pure (withoutBraces s)
      else pure (withoutBraces s) :=
  rfl

/-- The data of a loop prop given as text are those of its expression. -/
theorem loopData_text (s : String) : scope.loopData (.text s) = scope.expressionData (withoutBraces s) :=
  rfl

/-- A loop prop given as text is the reference of its key and data. -/
theorem loopValue_text (s : String) :
    scope.loopValue (.text s) =
      DynamicBlocks.ofExcept (scope.loopKey (.text s)) >>= fun key => Value.loop key <$> scope.loopData (.text s) :=
  rfl

/-- The name of a preset becomes a reference to it, with the items that it has for no parameters. -/
theorem loopValue_preset {p : String} {loops : LoopService} (asking : scope.loops = some loops)
    (known : loops.knows (.text p) = true) (trimmed : trimChars p.toList = p.toList)
    (unbraced : ∀ d ∈ p.toList, d ≠ '\x7b') (plain : contains p "props." = false) :
    scope.loopValue (.text p) = Value.loop p <$> loops.items (.text p) [] := by
  have filled : p ≠ "" := by
    rintro rfl
    cases known
  have knowing : scope.loopsKnowing p = some loops := by
    unfold loopsKnowing
    rw [asking, Option.filter_some, known]
    rfl
  rw [loopValue_text, loopKey_text, loopData_text, withoutBraces_of_plain trimmed unbraced, plain, Bool.and_false]
  unfold expressionData
  rw [if_neg filled, knowing]
  rfl

/-- A loop prop given as a list is a reference to it without a key. -/
theorem loopValue_list (items : List Value) : scope.loopValue (.list items) = pure (.loop "" (.list items)) := rfl

/-- Nothing becomes a reference without a name, to no items. -/
theorem loopValue_null : scope.loopValue .null = pure (.loop "" (.list [])) := by
  have bare : withoutBraces "" = "" := by cbv
  have plain : contains "" "props." = false := by cbv
  have key : scope.loopKey .null = .ok "" := by
    show (if !scope.sources.isEmpty && contains (withoutBraces "") "props." then _ else pure (withoutBraces "")) = _
    rw [bare, plain, Bool.and_false]
    rfl
  have data : scope.loopData .null = pure (.list []) := by
    show scope.expressionData (withoutBraces "") = _
    rw [bare]
    rfl
  show (DynamicBlocks.ofExcept (scope.loopKey .null) >>= fun key => Value.loop key <$> scope.loopData .null) = _
  rw [key, data]
  rfl

/-- The expression for a property that is a loop reference becomes a reference whose name is the expression. -/
theorem loopValue_propText {name key : String} {data : Value} (holds : HasLoopProp scope.sources name key data)
    (keyed : isKey name.toList = true) {loops : LoopService} (asking : scope.loops = some loops)
    (unknown : loops.knows (.text (propText name)) = false) :
    scope.loopValue (.text (propText name)) =
      DynamicBlocks.ofExcept data.series >>= fun items => pure (.loop (propText name) (.list items)) := by
  have bare : withoutBraces (propText name) = propText name :=
    withoutBraces_of_plain (trimChars_propText keyed) fun d there => (plain_of_mem_propText keyed d there).1
  have evaluated := holds.evaluate_propText keyed scope.modifiers
  have seen : scope.sources.isEmpty = false := by
    obtain ⟨entries, found, _⟩ := holds.found
    cases shape : scope.sources with
    | nil =>
      rw [shape] at found
      cases found
    | cons source sources => rfl
  have knowing : scope.loopsKnowing (propText name) = none := by
    unfold loopsKnowing
    rw [asking, Option.filter_some, unknown]
    rfl
  have listed : scope.listOf? (propText name) = some <$> data.series := by
    unfold listOf?
    rw [seen, evaluated, if_neg Bool.false_ne_true]
    cases data.series <;> rfl
  rw [loopValue_text, loopKey_text, loopData_text, bare, seen, contains_propText, evaluated]
  unfold expressionData
  rw [if_neg (propText_ne_empty name), knowing, listed, if_pos (show (!false && true) = true from rfl)]
  cases data.series <;> rfl

end PropScope

/-! ## Properties made of what is given -/

/-- Whether an action comes to a value from some state. -/
def LoopM.Yields {α : Type} (action : LoopM α) (x : α) : Prop :=
  ∃ s t, action s = (.ok x, t)

namespace LoopM

/-- Requests one after the other go on with the state that the first leaves. -/
theorem bind_apply {α β : Type} (action : LoopM α) (next : α → LoopM β) (s : LoopState) :
    (action >>= next) s = ExceptT.bindCont next (action s).1 (action s).2 :=
  rfl

/-- If requests one after the other yield something, then each of them does. -/
theorem exists_of_yields_bind {α β : Type} {action : LoopM α} {next : α → LoopM β} {y : β}
    (done : (action >>= next).Yields y) : ∃ x, action.Yields x ∧ (next x).Yields y := by
  obtain ⟨s, t, done⟩ := done
  rw [bind_apply] at done
  rcases first : action s with ⟨outcome, u⟩
  rw [first] at done
  cases outcome with
  | error f => cases done
  | ok x => exact ⟨x, ⟨s, u, first⟩, ⟨u, t, done⟩⟩

/-- A value yields itself only. -/
theorem eq_of_yields_pure {α : Type} {x y : α} (done : (pure x : LoopM α).Yields y) : x = y := by
  obtain ⟨s, t, done⟩ := done
  exact Except.ok.inj (congrArg Prod.fst done)

/-- What a function of a request yields is the function of what the request yields. -/
theorem exists_of_yields_map {α β : Type} {f : α → β} {action : LoopM α} {y : β} (done : (f <$> action).Yields y) :
    ∃ x, action.Yields x ∧ f x = y := by
  rw [← bind_pure_comp] at done
  obtain ⟨x, first, done⟩ := exists_of_yields_bind done
  exact ⟨x, first, eq_of_yields_pure done⟩

/-- A function of a request comes to the function of its value. -/
theorem fst_map {α β : Type} (f : α → β) {action : LoopM α} {s : LoopState} {x : α} (done : (action s).1 = .ok x) :
    ((f <$> action) s).1 = .ok (f x) := by
  rw [← bind_pure_comp, bind_apply, done]
  rfl

end LoopM

namespace PropScope

variable {scope : PropScope}

/-- A further definition takes the place of the last one of its key, or is put behind. -/
theorem lastOfKey_append (definitions : List PropDefinition) (last : PropDefinition) :
    lastOfKey (definitions ++ [last]) =
      if (lastOfKey definitions).any fun other => other.key = last.key then
        (lastOfKey definitions).map fun other => if other.key = last.key then last else other
      else lastOfKey definitions ++ [last] := by
  unfold lastOfKey
  rw [List.foldl_append]
  rfl

/-- Only definitions are left, and one for each key. -/
theorem mem_lastOfKey (definitions : List PropDefinition) :
    (∀ definition ∈ lastOfKey definitions, definition ∈ definitions) ∧
      ∀ definition ∈ definitions, ∃ other ∈ lastOfKey definitions, other.key = definition.key := by
  induction definitions using List.reverseRecOn with
  | nil => exact ⟨fun _ there => there, fun _ there => absurd there List.not_mem_nil⟩
  | append_singleton definitions last ih =>
    obtain ⟨among, each⟩ := ih
    rw [lastOfKey_append]
    split
    · rename_i known
      constructor
      · intro definition there
        obtain ⟨other, inside, rfl⟩ := List.mem_map.mp there
        split
        · exact List.mem_append_right definitions List.mem_cons_self
        · exact List.mem_append_left [last] (among other inside)
      · intro definition there
        have kept (other : PropDefinition) (inside : other ∈ lastOfKey definitions) :
            ∃ one ∈ (lastOfKey definitions).map fun other => if other.key = last.key then last else other,
              one.key = other.key := by
          refine ⟨_, List.mem_map_of_mem inside, ?_⟩
          split
          · rename_i same
            exact same.symm
          · rfl
        rcases List.mem_append.mp there with there | there
        · obtain ⟨other, inside, same⟩ := each definition there
          obtain ⟨one, there, again⟩ := kept other inside
          exact ⟨one, there, again.trans same⟩
        · obtain rfl := List.mem_singleton.mp there
          obtain ⟨other, inside, same⟩ := List.any_eq_true.mp known
          obtain ⟨one, there, again⟩ := kept other inside
          exact ⟨one, there, again.trans (of_decide_eq_true same)⟩
    · constructor
      · intro definition there
        rcases List.mem_append.mp there with there | there
        · exact List.mem_append_left [last] (among definition there)
        · exact List.mem_append_right definitions there
      · intro definition there
        rcases List.mem_append.mp there with there | there
        · obtain ⟨other, inside, same⟩ := each definition there
          exact ⟨other, List.mem_append_left [last] inside, same⟩
        · exact ⟨definition, List.mem_append_right _ there, rfl⟩

/-- Setting a prop leaves the keys as they are. -/
theorem map_fst_setProp (props : List (String × Value)) (key : String) (v : Value) :
    (setProp props key v).map Prod.fst = props.map Prod.fst := by
  unfold setProp
  rw [List.map_map]
  apply List.map_congr_left
  intro prop _
  rw [Function.comp_apply]
  split
  · rename_i same
    exact same.symm
  · rfl

/-- A property that is set is read back, and any other is as before. -/
theorem lookup_setProp {props : List (String × Value)} {name : String} (held : name ∈ props.map Prod.fst) (key : String)
    (v : Value) : (setProp props key v).lookup name = if key = name then some v else props.lookup name := by
  induction props with
  | nil => cases held
  | cons prop props ih =>
    obtain ⟨first, w⟩ := prop
    show List.lookup name ((if first = key then (key, v) else (first, w)) :: setProp props key v) = _
    by_cases same : first = name
    · subst same
      by_cases set : first = key
      · subst set
        rw [if_pos rfl, if_pos rfl, List.lookup_cons_self]
      · rw [if_neg set, if_neg (Ne.symm set), List.lookup_cons_self, List.lookup_cons_self]
    · have held : name ∈ props.map Prod.fst := by
        rcases List.mem_cons.mp held with first | held
        · exact absurd first.symm same
        · exact held
      have other : (name == first) = false := beq_false_of_ne (Ne.symm same)
      by_cases set : first = key
      · subst set
        rw [if_pos rfl, if_neg same, List.lookup_cons, other, List.lookup_cons, other]
        exact (ih held).trans (if_neg same)
      · rw [if_neg set, List.lookup_cons, other, List.lookup_cons, other]
        exact ih held

/-- The defaults have the keys of the definitions. -/
theorem map_fst_of_defaults {definitions : List PropDefinition} {props : List (String × Value)}
    (made : (scope.defaults definitions).Yields props) : props.map Prod.fst = definitions.map (·.key) := by
  induction definitions generalizing props with
  | nil =>
    obtain rfl := LoopM.eq_of_yields_pure made
    rfl
  | cons definition definitions ih =>
    obtain ⟨v, _, made⟩ := LoopM.exists_of_yields_bind made
    obtain ⟨rest, first, made⟩ := LoopM.exists_of_yields_bind made
    obtain rfl := LoopM.eq_of_yields_pure made
    rw [List.map_cons, List.map_cons, ih first]

/-- What is given for a property that takes a loop, always the same, is made a reference once for all: an induction on
the attributes, of which others leave the property alone. -/
theorem lookup_of_setGiven {definitions : List PropDefinition} {definition : PropDefinition} {name : String} {v : Value}
    (declared : definitions.find? (fun definition => definition.key = name) = some definition)
    (loop : definition.isLoop = true) (filled : v.isNull = false) {attributes props set : List (String × Value)}
    (held : name ∈ props.map Prod.fst) (only : ∀ w, (name, w) ∈ attributes → w = v)
    (made : (scope.setGiven definitions props attributes).Yields set) :
    ((∀ w, (name, w) ∉ attributes) ∧ set.lookup name = props.lookup name) ∨
      ∃ w, (scope.loopValue v).Yields w ∧ set.lookup name = some w := by
  induction attributes generalizing props with
  | nil =>
    obtain rfl := LoopM.eq_of_yields_pure made
    exact .inl ⟨fun w => List.not_mem_nil, rfl⟩
  | cons given attributes ih =>
    obtain ⟨key, given⟩ := given
    have only' (w : Value) (there : (name, w) ∈ attributes) : w = v := only w (List.mem_cons_of_mem _ there)
    by_cases same : key = name
    · subst same
      obtain rfl := only given List.mem_cons_self
      have step : scope.setGiven definitions props ((key, given) :: attributes) =
          scope.loopValue given >>= fun w => scope.setGiven definitions (setProp props key w) attributes := by
        rw [setGiven, declared]
        unfold propValue
        dsimp only
        rw [filled, loop]
        rfl
      rw [step] at made
      obtain ⟨w, first, made⟩ := LoopM.exists_of_yields_bind made
      have heldAfter : key ∈ (setProp props key w).map Prod.fst := by
        rw [map_fst_setProp]
        exact held
      right
      rcases ih heldAfter only' made with ⟨_, kept⟩ | again
      · rw [lookup_setProp held, if_pos rfl] at kept
        exact ⟨w, first, kept⟩
      · exact again
    · -- What comes of the rest is kept, whether the attribute sets another property or nothing.
      have rest {after : List (String × Value)} (heldAfter : name ∈ after.map Prod.fst)
          (kept : after.lookup name = props.lookup name) (made : (scope.setGiven definitions after attributes).Yields set) :
          ((∀ w, (name, w) ∉ (key, given) :: attributes) ∧ set.lookup name = props.lookup name) ∨
            ∃ w, (scope.loopValue v).Yields w ∧ set.lookup name = some w := by
        rcases ih heldAfter only' made with ⟨nowhere, unchanged⟩ | again
        · refine .inl ⟨fun w there => ?_, unchanged.trans kept⟩
          rcases List.mem_cons.mp there with here | there
          · exact same (congrArg Prod.fst here).symm
          · exact nowhere w there
        · exact .inr again
      rw [setGiven] at made
      split at made
      · exact rest held rfl made
      · split at made
        · exact rest held rfl made
        · obtain ⟨w, _, made⟩ := LoopM.exists_of_yields_bind made
          have heldAfter : name ∈ (setProp props key w).map Prod.fst := by
            rw [map_fst_setProp]
            exact held
          have kept : (setProp props key w).lookup name = props.lookup name := by
            rw [lookup_setProp held, if_neg same]
          exact rest heldAfter kept made

/-- What is given for a property that takes a loop is what the property is made of. -/
theorem lookup_of_properties {definitions : List PropDefinition} {name : String} {v : Value}
    (declared : ∃ definition ∈ definitions, definition.key = name)
    (loop : ∀ definition ∈ definitions, definition.key = name → definition.isLoop = true) (filled : v.isNull = false)
    {attributes props : List (String × Value)} (given : (name, v) ∈ attributes)
    (only : ∀ w, (name, w) ∈ attributes → w = v) (made : (scope.properties definitions attributes).Yields props) :
    ∃ w, (scope.loopValue v).Yields w ∧ props.lookup name = some w := by
  -- Of the definitions under this key the last is left, and it takes a loop as all of them do.
  obtain ⟨among, each⟩ := mem_lastOfKey definitions
  obtain ⟨definition, there, rfl⟩ := declared
  obtain ⟨last, inside, same⟩ := each definition there
  obtain ⟨found, first⟩ : ∃ found, (lastOfKey definitions).find? (fun other => other.key = definition.key) = some found :=
    Option.isSome_iff_exists.mp (List.find?_isSome.mpr ⟨last, inside, decide_eq_true same⟩)
  have key : found.key = definition.key := by
    have matched := List.find?_some first
    exact of_decide_eq_true matched
  have takesLoop := loop found (among found (List.mem_of_find?_eq_some first)) key
  obtain ⟨defaulted, before, made⟩ := LoopM.exists_of_yields_bind made
  have held : definition.key ∈ defaulted.map Prod.fst := by
    rw [map_fst_of_defaults before]
    exact List.mem_map.mpr ⟨last, inside, same⟩
  rcases lookup_of_setGiven first takesLoop filled held only made with ⟨nowhere, _⟩ | set
  · exact absurd given (nowhere v)
  · exact set

/-- Where one property is declared, which takes a loop and is nothing by default, it is what is made of what is given.
-/
theorem properties_singleton {definition : PropDefinition} (loop : definition.isLoop = true)
    (empty : definition.default = .null) {given : Value} (filled : given.isNull = false) :
    scope.properties [definition] [(definition.key, given)] =
      (fun v => [(definition.key, v)]) <$> scope.loopValue given := by
  have default : scope.defaultValue definition = pure (.loop "" (.list [])) := by
    unfold defaultValue propValue
    rw [empty, loop]
    exact loopValue_null
  have declared : lastOfKey [definition] = [definition] := rfl
  have found : [definition].find? (fun other => other.key = definition.key) = some definition := by simp
  have set (v w : Value) : setProp [(definition.key, v)] definition.key w = [(definition.key, w)] := by simp [setProp]
  have value : scope.propValue definition given = scope.loopValue given := by
    unfold propValue
    rw [loop, if_pos rfl]
  unfold properties
  rw [declared]
  unfold defaults setGiven
  dsimp only
  rw [default, found, filled, defaults]
  dsimp only
  rw [value, pure_bind, pure_bind, pure_bind, if_neg Bool.false_ne_true, ← bind_pure_comp]
  apply bind_congr
  intro v
  rw [set, setGiven]

end PropScope

end DynamicBlocks
