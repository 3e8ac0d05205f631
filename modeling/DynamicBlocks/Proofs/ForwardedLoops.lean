import DynamicBlocks.Proofs.LoopProps
import DynamicBlocks.Proofs.PresetLoops
import DynamicBlocks.Proofs.SlotSources
import DynamicBlocks.Proofs.Wrapping

/-!
# Loops handed down through components

A component may take a loop as a property and hand it on to a component in its body, and so on. In the outermost one the
property names a preset, and a loop over it asks the preset for items with whatever parameters it gives. What is handed
on is only the list that the preset came to when the properties of the outermost instance were made, for no parameters;
deeper down parameters make no difference.
-/

set_option autoImplicit false

namespace DynamicBlocks

open Text RenderM

/-! ## What an instance gives -/

/-- An instance that gives a text for a property. -/
structure Block.Gives (block : Block) (name text : String) : Prop where
  given : ∃ entries, Entries.field block.attrs "attributes" = .map entries ∧ (.text name, .text text) ∈ entries ∧
    ∀ v, (.text name, v) ∈ entries → v = .text text

/-- A pattern that declares a property as one that takes a loop. -/
structure Pattern.DeclaresLoop (pattern : Pattern) (name : String) : Prop where
  declared : ∃ definition ∈ pattern.props, definition.key = name
  loop : ∀ definition ∈ pattern.props, definition.key = name → definition.isLoop = true

/-- The outcomes of items that all have one are those of the items and no others. -/
theorem mem_of_mapM_eq_ok {α β : Type} {f : α → Except Failure β} {items : List α} {outcomes : List β}
    (done : items.mapM f = .ok outcomes) :
    (∀ x ∈ items, ∃ y ∈ outcomes, f x = .ok y) ∧ ∀ y ∈ outcomes, ∃ x ∈ items, f x = .ok y := by
  induction items generalizing outcomes with
  | nil =>
    rw [List.mapM_nil] at done
    obtain rfl := Except.ok.inj done
    exact ⟨fun x there => absurd there List.not_mem_nil, fun y there => absurd there List.not_mem_nil⟩
  | cons x items ih =>
    rw [List.mapM_cons] at done
    obtain ⟨y, first, done⟩ := exists_of_bind_eq_ok done
    obtain ⟨rest, others, done⟩ := exists_of_bind_eq_ok done
    obtain rfl := Except.ok.inj done
    obtain ⟨forth, back⟩ := ih others
    constructor
    · intro z there
      rcases List.mem_cons.mp there with rfl | there
      · exact ⟨y, List.mem_cons_self, first⟩
      · obtain ⟨w, among, same⟩ := forth z there
        exact ⟨w, List.mem_cons_of_mem y among, same⟩
    · intro z there
      rcases List.mem_cons.mp there with rfl | there
      · exact ⟨x, List.mem_cons_self, first⟩
      · obtain ⟨w, among, same⟩ := back z there
        exact ⟨w, List.mem_cons_of_mem x among, same⟩

/-- What an instance gives is resolved where it stands. -/
theorem Block.Gives.resolved {block : Block} {name text : String} (gives : block.Gives name text) {env : Environment}
    {sources : List Source} {attributes : List (String × Value)}
    (made : env.instanceAttributes sources block = .ok attributes) :
    ∃ v, env.resolveContent sources (.text text) = .ok v ∧ (name, v) ∈ attributes ∧
      ∀ w, (name, w) ∈ attributes → w = v := by
  obtain ⟨entries, field, there, only⟩ := gives.given
  have truthy : (Value.map entries).isTruthy = true := by
    cases entries with
    | nil => cases there
    | cons entry entries => rfl
  unfold Environment.instanceAttributes at made
  dsimp only at made
  rw [field, truthy] at made
  obtain ⟨given, same, made⟩ := exists_of_bind_eq_ok made
  obtain rfl := Except.ok.inj same
  obtain ⟨outcomes, each, made⟩ := exists_of_bind_eq_ok made
  obtain rfl := Except.ok.inj made
  obtain ⟨forth, back⟩ := mem_of_mapM_eq_ok each
  obtain ⟨outcome, among, done⟩ := forth _ there
  obtain ⟨v, resolved, kept⟩ := exists_of_bind_eq_ok done
  obtain rfl := Except.ok.inj kept
  refine ⟨v, resolved, List.mem_filterMap.mpr ⟨_, among, rfl⟩, fun w inside => ?_⟩
  obtain ⟨other, among, kept⟩ := List.mem_filterMap.mp inside
  obtain rfl : other = some (name, w) := kept
  obtain ⟨⟨key, x⟩, origin, done⟩ := back _ among
  cases key with
  | text key =>
    obtain ⟨u, again, kept⟩ := exists_of_bind_eq_ok done
    obtain ⟨rfl, rfl⟩ := Prod.mk.inj (Option.some.inj (Except.ok.inj kept))
    obtain rfl := only x origin
    exact Except.ok.inj (again.symm.trans resolved)
  | _ => cases done

/-- A mapping of fields has each of them under its name. -/
theorem lookup?_ofFields {fields : List (String × Value)} {name : String} {v : Value}
    (there : fields.lookup name = some v) : (Value.ofFields fields).lookup? name = some v := by
  have found : Entries.field? (fields.map fun field => (.text field.1, field.2)) name = some v := by
    induction fields with
    | nil => cases there
    | cons field fields ih =>
      obtain ⟨key, w⟩ := field
      have agrees : (Value.text key).agrees (.text name) = (key == name) := by
        simp [Value.agrees, Value.same, Value.sharesOrigin]
      unfold Entries.field? Entries.get? at ih ⊢
      rw [List.map_cons, List.find?_cons, agrees]
      rw [List.lookup_cons] at there
      by_cases same : name = key
      · subst same
        rw [beq_self_eq_true] at there ⊢
        exact there
      · rw [beq_false_of_ne same] at there
        rw [beq_false_of_ne (Ne.symm same)]
        exact ih there
  simp only [Value.ofFields, Value.lookup?, found]

/-! ## What a body sees -/

/-- Entries of other names have no source of this name. -/
theorem findSource?_of_other {root : String} {entries : List Entry}
    (other : ∀ entry ∈ entries, entry.key.same (.text root) = false) : findSource? root (Entry.sources entries) = none := by
  unfold findSource?
  rw [Option.map_eq_none_iff, List.find?_eq_none]
  intro source there
  obtain ⟨entry, inside, made⟩ := List.mem_filterMap.mp (List.mem_reverse.mp there)
  have key : source.key = entry.key := by
    unfold Entry.toSource? at made
    split at made
    · obtain rfl := Option.some.inj made
      rfl
    · cases made
  rw [key, other entry inside]
  decide

/-- A name means what a preview says, or else the live stack, or else what lies below it. -/
theorem Provider.findSource?_sources (provider : Provider) (root : String) (context : Entries) :
    findSource? root (provider.sources context) =
      (findSource? root (Entry.sources provider.preview.entries)).or
        ((findSource? root (Entry.sources provider.stack.entries)).or
          (findSource? root (Entry.sources (provider.globalEntries ++ Entry.ofMapping .localValue context)))) := by
  rw [Provider.sources_eq, findSource?_append, findSource?_append]

namespace Surroundings

variable {a : Surroundings}

/-- In the body of an instance `props` means its properties, unless there is a preview of that name. -/
theorem findSource?_inBody (free : ∀ entry ∈ a.context.preview.entries, entry.key.same (.text "props") = false)
    (frame : SlotFrame) (props : List (String × Value)) (context : Entries) :
    findSource? "props" ((a.inBody frame props).context.sources context) = some (.ofFields props) := by
  have preview : findSource? "props" (Entry.sources (a.inBody frame props).context.preview.entries) = none :=
    findSource?_of_other free
  have stack : findSource? "props" (Entry.sources (a.inBody frame props).context.stack.entries) =
      some (.ofFields props) := by
    have sources : Entry.sources (a.inBody frame props).context.stack.entries =
        [⟨.text "props", .ofFields props⟩] ++ [⟨.text "slots", (slotsEntry frame.slots).source⟩] := rfl
    have other : (Value.text "slots").same (.text "props") = false := by simp [Value.same]
    rw [sources, findSource?_append_other "props" _ _ other]
    exact findSource?_append_self "props" [] _
  rw [Provider.findSource?_sources, preview, stack]
  rfl

/-- Entries of other names that are pushed there change nothing about that. -/
theorem findSource?_pushed {entries : List Entry}
    (other : ∀ entry ∈ entries, entry.key.same (.text "props") = false) (context : Entries) :
    findSource? "props" ((a.pushed entries).context.sources context) =
      findSource? "props" (a.context.sources context) := by
  have stack : findSource? "props" (Entry.sources (a.pushed entries).context.stack.entries) =
      findSource? "props" (Entry.sources a.context.stack.entries) := by
    show findSource? "props" (Entry.sources (a.context.stack.entries ++ entries)) = _
    rw [Entry.sources_append, findSource?_append, findSource?_of_other other]
    rfl
  rw [Provider.findSource?_sources, Provider.findSource?_sources, stack]
  rfl

end Surroundings

/-- The surroundings of the body of a component, at a depth of such components, where each takes a loop under the same
name: the outermost is given a preset, and the others are given the property of the one they stand in, as an expression
or as an expression in braces. Finding properties leaves the surroundings as they are. -/
inductive Environment.HandsDown (env : Environment) (name p : String) : (depth : Nat) → Surroundings → Prop
  | outermost {s : Session} {place : Place} {block : Block} {pattern : Pattern} {props : List (String × Value)}
      (gives : block.Gives name p) (declares : pattern.DeclaresLoop name)
      (made : (propsOf env block pattern s).1 = .ok props) (plain : LoopRef.ofValue? (.ofFields props) = none) :
      HandsDown env name p 1 (s.inBody (s.frameFor env place block) props)
  | further {depth : Nat} {s : Session} {place : Place} {block : Block} {pattern : Pattern}
      {props : List (String × Value)} (outer : HandsDown env name p depth s.toSurroundings)
      (gives : block.Gives name (propText name) ∨ block.Gives name ("\x7b" ++ propText name ++ "\x7d"))
      (declares : pattern.DeclaresLoop name) (made : (propsOf env block pattern s).1 = .ok props)
      (plain : LoopRef.ofValue? (.ofFields props) = none) :
      HandsDown env name p (depth + 1) (s.inBody (s.frameFor env place block) props)
  /-- Loops in a body push entries of other names. -/
  | pushed {depth : Nat} {a : Surroundings} {entries : List Entry} (outer : HandsDown env name p depth a)
      (other : ∀ entry ∈ entries, entry.key.same (.text "props") = false) :
      HandsDown env name p depth (a.pushed entries)

/-- The name of a preset that can be given to a property as it is. -/
structure LoopService.Presets (service : LoopService) (p : String) : Prop where
  known : service.knows (.text p) = true
  trimmed : trimChars p.toList = p.toList
  unbraced : ∀ c ∈ p.toList, c ≠ '\x7b'
  plain : contains p "props." = false

section

variable {env : Environment} {name : String} {s : Session} {block : Block} {pattern : Pattern}
  {props : List (String × Value)}

/-- What an instance gives for a property that takes a loop is resolved and made a reference. -/
theorem exists_reference {text : String} (gives : block.Gives name text) (declares : pattern.DeclaresLoop name)
    (made : (propsOf env block pattern s).1 = .ok props) :
    ∃ v, env.resolveContent (s.context.sources block.context) (.text text) = .ok v ∧
      (v.isNull = false → ∃ w, ((env.propScope (s.context.sources block.context)).loopValue v).Yields w ∧
        props.lookup name = some w) := by
  rw [propsOf_apply] at made
  cases attributes : env.instanceAttributes (s.context.sources block.context) block with
  | error f =>
    rw [attributes] at made
    cases made
  | ok given =>
    rw [attributes] at made
    obtain ⟨v, resolved, there, only⟩ := gives.resolved attributes
    have yields : ((env.propScope (s.context.sources block.context)).properties pattern.props given).Yields props :=
      ⟨s.loops, _, Prod.ext made rfl⟩
    refine ⟨v, resolved, fun filled => ?_⟩
    exact PropScope.lookup_of_properties declares.declared declares.loop filled there only yields

/-- An instance that gives a preset has a reference to it, with the items for no parameters. -/
theorem lookup_of_gives_preset {p : String} (gives : block.Gives name p) (declares : pattern.DeclaresLoop name)
    (presets : env.engine.loops.Presets p) (made : (propsOf env block pattern s).1 = .ok props) :
    ∃ items, (env.engine.loops.items (.text p) []).Yields items ∧ props.lookup name = some (.loop p items) := by
  obtain ⟨v, resolved, set⟩ := exists_reference gives declares made
  have itself : env.resolveContent (s.context.sources block.context) (.text p) = .ok (.text p) :=
    resolveContent_of_unbraced presets.unbraced env.engine.modifiers _
  obtain rfl := Except.ok.inj (itself.symm.trans resolved)
  obtain ⟨w, referred, there⟩ := set rfl
  rw [PropScope.loopValue_preset rfl presets.known presets.trimmed presets.unbraced presets.plain] at referred
  obtain ⟨items, asked, rfl⟩ := LoopM.exists_of_yields_map referred
  exact ⟨items, asked, there⟩

/-- An instance that gives a reference it sees has one to the list of its items, without the name. -/
theorem lookup_of_gives_propText
    (gives : block.Gives name (propText name) ∨ block.Gives name ("\x7b" ++ propText name ++ "\x7d"))
    (declares : pattern.DeclaresLoop name) (named : isName name.toList = true)
    (unknown : env.engine.loops.knows (.text (propText name)) = false) {key : String} {data : Value}
    (holds : HasLoopProp (s.context.sources block.context) name key data)
    (made : (propsOf env block pattern s).1 = .ok props) :
    ∃ key' found, (key' = "" ∨ key' = propText name) ∧ data.series = .ok found ∧
      props.lookup name = some (.loop key' (.list found)) := by
  rcases gives with gives | gives
  · obtain ⟨v, resolved, set⟩ := exists_reference gives declares made
    have itself : env.resolveContent (s.context.sources block.context) (.text (propText name)) =
        .ok (.text (propText name)) :=
      resolveContent_of_unbraced (fun c there => (plain_of_mem_propText (isKey_of_isName named) c there).1)
        env.engine.modifiers _
    obtain rfl := Except.ok.inj (itself.symm.trans resolved)
    obtain ⟨w, referred, there⟩ := set rfl
    rw [PropScope.loopValue_propText holds (isKey_of_isName named) rfl unknown] at referred
    obtain ⟨found, ⟨u, u', series⟩, referred⟩ := LoopM.exists_of_yields_bind referred
    obtain rfl := LoopM.eq_of_yields_pure referred
    exact ⟨propText name, found, .inr rfl, congrArg Prod.fst series, there⟩
  · obtain ⟨v, resolved, set⟩ := exists_reference gives declares made
    have listed : env.resolveContent (s.context.sources block.context) (.text ("\x7b" ++ propText name ++ "\x7d")) =
        .list <$> data.series := holds.resolveContent_braced (isKey_of_isName named) env.engine.modifiers
    rw [listed, ← bind_pure_comp] at resolved
    obtain ⟨found, series, same⟩ := exists_of_bind_eq_ok resolved
    obtain rfl := Except.ok.inj same
    obtain ⟨w, referred, there⟩ := set rfl
    rw [PropScope.loopValue_list] at referred
    obtain rfl := LoopM.eq_of_yields_pure referred
    exact ⟨"", found, .inl rfl, series, there⟩

end

/-- In a body the loop property is there under `props`, if no preview covers them. -/
theorem hasLoopProp_inBody {a : Surroundings}
    (free : ∀ entry ∈ a.context.preview.entries, entry.key.same (.text "props") = false) {frame : SlotFrame}
    {props : List (String × Value)} (plain : LoopRef.ofValue? (.ofFields props) = none) {name key : String} {data : Value}
    (there : props.lookup name = some (.loop key data)) (context : Entries) :
    HasLoopProp ((a.inBody frame props).context.sources context) name key data := by
  refine ⟨⟨_, Surroundings.findSource?_inBody free frame props context, ?_, lookup?_ofFields there⟩⟩
  rw [Bool.eq_false_iff]
  intro loop
  have marked : LoopRef.ofValue? (.ofFields props) ≠ none := by
    unfold Value.ofFields LoopRef.ofValue?
    dsimp only
    rw [if_pos loop]
    exact Option.some_ne_none _
  exact marked plain

namespace Environment.HandsDown

variable {env : Environment} {name p : String} {depth : Nat} {a : Surroundings}

/-- The outermost component sees a reference to the preset, with the items that it had for no parameters. Every other
sees a reference to the list that these make, under no name or under its own: an induction on the components, each of
which takes the reference of the one around it for a list. -/
theorem reference (handsDown : env.HandsDown name p depth a) (named : isName name.toList = true)
    (presets : env.engine.loops.Presets p) (unknown : env.engine.loops.knows (.text (propText name)) = false)
    (free : ∀ entry ∈ a.context.preview.entries, entry.key.same (.text "props") = false) :
    ∃ items key data, (env.engine.loops.items (.text p) []).Yields items ∧
      (∀ context, HasLoopProp (a.context.sources context) name key data) ∧
      (depth = 1 ∧ key = p ∧ data = items ∨
        2 ≤ depth ∧ (key = "" ∨ key = propText name) ∧ ∃ found, items.series = .ok found ∧ data = .list found) := by
  induction handsDown with
  | outermost gives declares made plain =>
    obtain ⟨items, asked, there⟩ := lookup_of_gives_preset gives declares presets made
    exact ⟨items, p, items, asked, hasLoopProp_inBody free plain there, .inl ⟨rfl, rfl, rfl⟩⟩
  | @further depth s place block pattern props outer gives declares made plain ih =>
    obtain ⟨items, key, data, asked, holds, rest⟩ := ih free
    -- Whatever the reference around this component has, what is given on is the list of its items.
    obtain ⟨key', found, names, series, there⟩ :=
      lookup_of_gives_propText gives declares named unknown (holds block.context) made
    have positive : 1 ≤ depth := by
      rcases rest with ⟨first, _⟩ | ⟨deeper, _⟩
      · omega
      · omega
    have items_series : items.series = .ok found := by
      rcases rest with ⟨_, _, rfl⟩ | ⟨_, _, before, listed, rfl⟩
      · exact series
      · exact listed.trans series
    exact ⟨items, key', .list found, asked, hasLoopProp_inBody free plain there,
      .inr ⟨by omega, names, found, items_series, rfl⟩⟩
  | pushed outer other ih =>
    obtain ⟨items, key, data, asked, holds, rest⟩ := ih free
    refine ⟨items, key, data, asked, fun context => ⟨?_⟩, rest⟩
    obtain ⟨entries, found, plain⟩ := (holds context).found
    exact ⟨entries, (Surroundings.findSource?_pushed other context).trans found, plain⟩

end Environment.HandsDown

/-! ## Loops over what is handed down -/

section

variable {engine : Engine} {sources : List Source} {name key : String} {data : Value}

/-- A loop reference is reached, unless its data with the parameters is null. -/
theorem Engine.reachedIfAny_loop (engine : Engine) (sources : List Source) (key : String) (data : Value)
    (given : Entries) :
    engine.reachedIfAny sources (.loop key data) given =
      engine.ofReference sources ⟨key, data⟩ given >>= fun w =>
        pure (if w.isNull then none else some (w, w.isList)) := by
  have referred : LoopRef.ofValue? (.loop key data) = some ⟨key, data⟩ := rfl
  unfold Engine.reachedIfAny Engine.reached
  rw [referred]
  dsimp only
  rw [bind_assoc]
  rfl

/-- A loop over a property that is a loop reference, with parameters or without, goes over what the reference stands
for. -/
theorem HasLoopProp.targetItems_of_segments (holds : HasLoopProp sources name key data)
    (other : engine.loops.knows (.text "props") = false) {target : String} {segment : Segment}
    (read : (Expression.ofText target).segments = [.key "props", segment]) (names : segment.name = name)
    (unenclosed : Engine.mayBeJson (trimChars target.toList) = false) :
    engine.targetItems sources target =
      DynamicBlocks.ofExcept (engine.callParams sources segment.args) >>= fun given =>
        itemsOf <$> engine.ofReference sources ⟨key, data⟩ given := by
  obtain ⟨entries, found, plain, there⟩ := holds.found
  have itself : engine.StandsForItself sources (.map entries) := ⟨LoopRef.ofValue?_map_eq_none plain, nofun, nofun⟩
  have only (v : Value) (meant : findSource? "props" sources = some v) : engine.StandsForItself sources v := by
    obtain rfl := Option.some.inj (found.symm.trans meant)
    exact itself
  have again : (Expression.ofText "props").segments = [.key "props"] := by cbv
  rw [Engine.targetItems_of_unenclosed unenclosed, read, Engine.followTarget_root other again only, found]
  show engine.followTarget sources (some (.map entries)) false [segment] = _
  unfold Engine.followTarget
  rw [Engine.stepTo_some, names, there, bind_assoc]
  apply bind_congr
  intro given
  rw [Option.getD_some, Engine.reachedIfAny_loop, bind_assoc, ← bind_pure_comp]
  apply bind_congr
  intro w
  cases null : w.isNull with
  | true =>
    obtain rfl := Engine.isNull_iff.mp null
    rfl
  | false => rfl

/-- A path into `props` is not taken for JSON. -/
theorem mayBeJson_props (rest : String) : Engine.mayBeJson (trimChars ("props" ++ "." ++ rest).toList) = false := by
  have shape : ("props" ++ "." ++ rest).toList = 'p' :: ("rops.".toList ++ rest.toList) := by
    rw [String.toList_append, String.toList_append]
    rfl
  rw [shape]
  exact Engine.mayBeJson_trimChars_cons (by decide) _

/-- A target that calls a loop property asks for its data with the parameters of the call. -/
theorem HasLoopProp.targetItems (holds : HasLoopProp sources name key data) (named : isName name.toList = true)
    (other : engine.loops.knows (.text "props") = false) (params : List WrittenParam) :
    engine.targetItems sources ("props" ++ "." ++ String.ofList (callChars name params)) =
      DynamicBlocks.ofExcept (engine.callParams sources (params.map WrittenParam.toArgument)) >>= fun given =>
        itemsOf <$> engine.ofReference sources ⟨key, data⟩ given :=
  holds.targetItems_of_segments other (segments_key_call named params (by decide)) rfl (mayBeJson_props _)

/-- A reference without a name, or one whose name is the expression for it, stands for its own items. -/
theorem HasLoopProp.ofReference_list {found : List Value} (holds : HasLoopProp sources name key (.list found))
    (named : isName name.toList = true) (unknown : engine.loops.knows (.text (propText name)) = false)
    (names : key = "" ∨ key = propText name) (given : Entries) :
    engine.ofReference sources ⟨key, .list found⟩ given = pure (.list found) := by
  rcases names with rfl | rfl
  · rfl
  · have collected : engine.collection? sources (propText name) = .ok (some (.list found)) := by
      unfold Engine.collection?
      rw [holds.valueOf_propText (isKey_of_isName named)]
      rfl
    unfold Engine.ofReference
    dsimp only
    rw [if_neg (propText_ne_empty name), unknown, if_neg Bool.false_ne_true, collected]
    rfl

end

/-- In the outermost component a loop over a call of the property asks the preset for the parameters of the call.
Further down it goes over what the preset had for no parameters when the properties of the outermost instance were made.
-/
theorem loopItems_handsDown {env : Environment} {name p : String} {depth : Nat} {s : Session}
    (handsDown : env.HandsDown name p depth s.toSurroundings) (named : isName name.toList = true)
    (presets : env.engine.loops.Presets p) (other : env.engine.loops.knows (.text "props") = false)
    (unknown : env.engine.loops.knows (.text (propText name)) = false)
    (free : ∀ entry ∈ s.context.preview.entries, entry.key.same (.text "props") = false) {block : Block}
    (unnamed : block.loopId? = none) {params : List WrittenParam}
    (target : block.loopTarget = "props" ++ "." ++ String.ofList (callChars name params)) :
    let sources := s.context.sources block.context
    ∃ items, (env.engine.loops.items (.text p) []).Yields items ∧
      (depth = 1 → loopItems env block sources = itemsOf <$> presetItems env sources p params) ∧
      (2 ≤ depth → ∃ found, items.series = .ok found ∧
        loopItems env block sources =
          RenderM.ofExcept (env.engine.callParams sources (params.map WrittenParam.toArgument)) >>= fun _ =>
            pure found) := by
  intro sources
  obtain ⟨items, key, data, asked, holds, rest⟩ := handsDown.reference named presets unknown free
  have seen := holds block.context
  have looped : loopItems env block sources = _ := loopItems_of_target unnamed sources
  rw [target, seen.targetItems named other, ofLoops_bind] at looped
  refine ⟨items, asked, fun first => ?_, fun deeper => ?_⟩
  · rcases rest with ⟨_, rfl, rfl⟩ | ⟨impossible, _⟩
    · -- The reference still names the preset, which is asked again.
      have filled : key ≠ "" := by
        rintro rfl
        cases presets.known
      have reference (given : Entries) :
          env.engine.ofReference sources ⟨key, data⟩ given = env.engine.presetItems key given := by
        unfold Engine.ofReference
        dsimp only
        rw [if_neg filled, presets.known, if_pos rfl]
      rw [looped]
      unfold presetItems
      rw [map_bind]
      apply bind_congr
      intro given
      rw [reference, ← bind_pure_comp, ← bind_pure_comp, ofLoops_bind]
      rfl
    · omega
  · rcases rest with ⟨impossible, _⟩ | ⟨_, names, found, series, rfl⟩
    · omega
    · -- The reference names no preset, so its items are taken as they are.
      refine ⟨found, series, looped.trans (bind_congr fun given => ?_)⟩
      rw [seen.ofReference_list named unknown names]
      have listed : itemsOf (.list found) = found := by cases found <;> rfl
      rw [map_pure, listed]
      rfl

/-! ## A preset handed down -/

/-- A pattern that takes a loop. -/
def loopTaking (id : String) (blocks : List Block) : Pattern :=
  ⟨id, blocks, [⟨"l", .array, .text "array", .null⟩]⟩

/-- An instance that gives a text for the loop. -/
def loopGiving (ref text : String) : Block :=
  ⟨.text "component", [(.text "ref", .text ref), (.text "attributes", .map [(.text "l", .text text)])], [], [], .tuple⟩

/-- A loop over what is taken, for a parameter. -/
def loopOver : Block :=
  ⟨.text "loop", [(.text "target", .text "props.l($kind: 'x')")],
    [⟨.text "text", [(.text "content", .text "\x7bitem.id\x7d;")], [], [], .tuple⟩], [], .tuple⟩

/-- The block that passes a loop on gives the text to its attribute. -/
theorem gives_loopGiving (ref text : String) : (loopGiving ref text).Gives "l" text where
  given := by
    refine ⟨[(.text "l", .text text)], by cbv, List.mem_cons_self, fun v there => ?_⟩
    exact congrArg Prod.snd (List.mem_singleton.mp there)

/-- The block that takes a loop declares a property for it. -/
theorem declaresLoop_loopTaking (id : String) (blocks : List Block) : (loopTaking id blocks).DeclaresLoop "l" where
  declared := ⟨_, List.mem_cons_self, rfl⟩
  loop definition there _ := by
    obtain rfl := List.mem_singleton.mp there
    cbv

/-- What an instance of the pattern is made with is the reference that is made of what it gives. -/
theorem propsOf_loopGiving {env : Environment} {ref text id : String} {blocks : List Block} {given made : Value}
    {s : Session} (resolved : env.resolveContent (s.context.sources []) (.text text) = .ok given)
    (filled : given.isNull = false)
    (referred : ((env.propScope (s.context.sources [])).loopValue given s.loops).1 = .ok made) :
    (propsOf env (loopGiving ref text) (loopTaking id blocks) s).1 = .ok [("l", made)] := by
  have attributes : env.instanceAttributes (s.context.sources []) (loopGiving ref text) = .ok [("l", given)] := by
    have field : Entries.field (loopGiving ref text).attrs "attributes" = .map [(.text "l", .text text)] := by cbv
    have truthy : (Value.map [(.text "l", .text text)]).isTruthy = true := rfl
    have entries : (Value.map [(.text "l", .text text)]).asEntries = pure [(.text "l", .text text)] := rfl
    unfold Environment.instanceAttributes
    dsimp only
    rw [field, truthy, if_pos rfl, entries, pure_bind, List.mapM_cons, List.mapM_nil]
    dsimp only
    rw [resolved]
    rfl
  have loop : (⟨"l", .array, .text "array", .null⟩ : PropDefinition).isLoop = true := by cbv
  have properties : (env.propScope (s.context.sources [])).properties (loopTaking id blocks).props [("l", given)] =
      (fun v => [("l", v)]) <$> (env.propScope (s.context.sources [])).loopValue given :=
    PropScope.properties_singleton loop rfl filled
  have unattached : (loopGiving ref text).context = [] := rfl
  rw [propsOf_apply, unattached, attributes]
  dsimp only
  rw [properties]
  exact LoopM.fst_map _ referred

/-- Posts are registered in their environment. -/
theorem presets_posts (data : Value) : (postsEnvironment data).engine.loops.Presets "posts" where
  known := knows_posts data
  trimmed := by cbv
  unbraced := by
    rintro _ there rfl
    have word := isWord_of_mem_name (show isName "posts".toList = true by decide) '\x7b' there
    exact absurd word (by decide)
  plain := by cbv

/-- No other name is known there. -/
theorem knows_of_ne (data : Value) {name : String} (unblank : isBlankText name = false) (whole : loopName name = name)
    (other : name ≠ "posts") : (postsEnvironment data).engine.loops.knows (.text name) = false := by
  have unlisted : (postsEnvironment data).engine.loops.presets.lookup name = none := by
    show [("posts", postsPreset data)].lookup name = none
    rw [List.lookup_cons, beq_false_of_ne other]
    rfl
  have unkeyed : (postsEnvironment data).engine.loops.idOfKey? name = none := by
    simp [LoopService.idOfKey?, postsEnvironment, postsPreset]
  unfold LoopService.knows LoopService.idOf?
  dsimp only
  rw [unblank, whole, unlisted, unkeyed]
  rfl

/-- A component takes the posts and hands them on, and the component that it hands them to goes over them: over all of
them, whatever the parameter says. -/
theorem loopItems_handsDown_posts :
    ∃ s : Session, (postsEnvironment twoPosts).HandsDown "l" "posts" 2 s.toSurroundings ∧
      ∃ found, loopItems (postsEnvironment twoPosts) loopOver (s.context.sources []) = pure found := by
  have presets := presets_posts twoPosts
  have named : isName "l".toList = true := by decide
  have other : (postsEnvironment twoPosts).engine.loops.knows (.text "props") = false :=
    knows_of_ne twoPosts (by decide) (by decide) (by decide)
  have unknown : (postsEnvironment twoPosts).engine.loops.knows (.text (propText "l")) = false := by
    have text : propText "l" = "props.l" := by decide
    rw [text]
    exact knows_of_ne twoPosts (by decide) (by decide) (by decide)
  have bound : configuredItems (postsPreset twoPosts) [] =
      .ok [.ofFields [("id", .text "$kind")], .ofFields [("id", .text "y")]] := by
    cbv
  have written : requestText "posts" [] = .ok "posts\x00\x7b\x7d" := by cbv
  have asked := items_posts written bound
  generalize [Value.ofFields [("id", .text "$kind")], .ofFields [("id", .text "y")]] = posts at asked
  -- The outer component takes the preset.
  have outer : (propsOf (postsEnvironment twoPosts) (loopGiving "outer" "posts") (loopTaking "outer" [])
      (.start .silent)).1 = .ok [("l", .loop "posts" (.list posts))] := by
    refine propsOf_loopGiving (resolveContent_of_unbraced presets.unbraced _ _) rfl ?_
    rw [PropScope.loopValue_preset rfl presets.known presets.trimmed presets.unbraced presets.plain]
    exact LoopM.fst_map _ asked
  let s : Session := (Session.start .silent).surround
    ((Session.start .silent).inBody ((Session.start .silent).frameFor (postsEnvironment twoPosts) .page
      (loopGiving "outer" "posts")) [("l", .loop "posts" (.list posts))])
  have free : ∀ entry ∈ s.context.preview.entries, entry.key.same (.text "props") = false := by
    intro entry there
    exact absurd there List.not_mem_nil
  have handed : (postsEnvironment twoPosts).HandsDown "l" "posts" 1 s.toSurroundings :=
    .outermost (gives_loopGiving _ _) (declaresLoop_loopTaking _ _) outer (by cbv)
  -- The inner one takes what the outer one sees.
  have seen : HasLoopProp (s.context.sources []) "l" "posts" (.list posts) :=
    hasLoopProp_inBody free (by cbv) rfl []
  have inner : (propsOf (postsEnvironment twoPosts) (loopGiving "list" "\x7bprops.l\x7d") (loopTaking "list" [loopOver])
      s).1 = .ok [("l", .loop "" (.list posts))] := by
    have resolved := seen.resolveContent_braced (isKey_of_isName named) (postsEnvironment twoPosts).engine.modifiers
    refine propsOf_loopGiving resolved rfl ?_
    rw [PropScope.loopValue_list]
    rfl
  let t : Session := s.surround (s.inBody (s.frameFor (postsEnvironment twoPosts) .page
    (loopGiving "list" "\x7bprops.l\x7d")) [("l", .loop "" (.list posts))])
  have handedOn : (postsEnvironment twoPosts).HandsDown "l" "posts" 2 t.toSurroundings :=
    .further handed (.inr (gives_loopGiving _ _)) (declaresLoop_loopTaking _ _) inner (by cbv)
  have target : loopOver.loopTarget = "props" ++ "." ++ String.ofList (callChars "l" [kindParam]) := by
    have field : Entries.field loopOver.attrs "target" = .text "props.l($kind: 'x')" := by cbv
    have call : "props" ++ "." ++ String.ofList (callChars "l" [kindParam]) = "props.l($kind: 'x')" := by cbv
    unfold Block.loopTarget
    rw [field, call]
  obtain ⟨_, _, _, deeper⟩ :=
    loopItems_handsDown handedOn named presets other unknown free (by cbv) target
  obtain ⟨found, _, looped⟩ := deeper (by omega)
  refine ⟨t, handedOn, found, looped.trans ?_⟩
  rw [List.map_singleton, callParams_kindParam]
  rfl

/-- The preset, a component that goes over what it takes, and one that hands on to it what it takes itself. -/
def handingOn (text : String) : Settings :=
  { Settings.ofPatterns [("list", .built (loopTaking "list" [loopOver])),
      ("outer", .built (loopTaking "outer" [loopGiving "list" text]))] with
    presets := .map [(.text "posts", .ofFields [("type", .text "json"), ("config", .ofFields [("data", twoPosts)])])] }

/-- A page with an instance that gives the preset. -/
def postsPage (ref : String) : Page :=
  ⟨.list [describing "component" [(.text "ref", .text ref), (.text "attributes", .map [(.text "l", .text "posts")])] []],
    .map [], .null, .null⟩

/-- An outcome that is some value has come to it. -/
theorem eq_ok_of_toOption {α : Type} {outcome : Except Failure α} {x : α} (there : outcome.toOption = some x) :
    outcome = .ok x := by
  cases outcome with
  | error f => cases there
  | ok y => exact congrArg Except.ok (Option.some.inj there)

/-- A component that is given the preset goes over the posts for its parameter. Handed on to it by another component,
in either way, they are the posts for no parameter. -/
theorem outcome_postsPage_ne :
    (handingOn "props.l").outcome (postsPage "list") = .ok "x;y;" ∧
      (handingOn "props.l").outcome (postsPage "outer") = .ok "$kind;y;" ∧
      (handingOn "\x7bprops.l\x7d").outcome (postsPage "list") = .ok "x;y;" ∧
      (handingOn "\x7bprops.l\x7d").outcome (postsPage "outer") = .ok "$kind;y;" := by
  refine ⟨eq_ok_of_toOption ?_, eq_ok_of_toOption ?_, eq_ok_of_toOption ?_, eq_ok_of_toOption ?_⟩
  · decide +kernel
  · decide +kernel
  · decide +kernel
  · decide +kernel

end DynamicBlocks
