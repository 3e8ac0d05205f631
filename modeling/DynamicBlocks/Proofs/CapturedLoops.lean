import DynamicBlocks.Proofs.ForwardedLoops

/-!
# Loops that a body captures

A component that takes a loop is given an expression, and what the expression means to the caller is kept as the items
of a reference. Unless it was given in braces, the reference keeps the expression as well, and a loop in the body asks
first what the expression means there. So the items are the caller's as long as the expression means no list and no
mapping in the body, and a name that the body gives to the item of a loop may capture it.
-/

set_option autoImplicit false

namespace DynamicBlocks

open Text

/-! ## Properties made of defaults -/

namespace PropScope

variable {scope : PropScope}

/-- Attributes that are null leave a property alone: an induction on the attributes. -/
theorem lookup_of_setGiven_null {definitions : List PropDefinition} {name : String}
    {attributes props set : List (String × Value)} (held : name ∈ props.map Prod.fst)
    (nothing : ∀ w, (name, w) ∈ attributes → w.isNull = true)
    (made : (scope.setGiven definitions props attributes).Yields set) : set.lookup name = props.lookup name := by
  induction attributes generalizing props with
  | nil =>
    obtain rfl := LoopM.eq_of_yields_pure made
    rfl
  | cons first attributes ih =>
    obtain ⟨key, given⟩ := first
    have rest (w : Value) (there : (name, w) ∈ attributes) : w.isNull = true := nothing w (List.mem_cons_of_mem _ there)
    rw [setGiven] at made
    split at made
    · exact ih held rest made
    · split at made
      · exact ih held rest made
      · rename_i filled
        obtain ⟨v, _, made⟩ := LoopM.exists_of_yields_bind made
        have other : key ≠ name := by
          rintro rfl
          exact filled (nothing given List.mem_cons_self)
        have heldAfter : name ∈ (setProp props key v).map Prod.fst := by
          rw [map_fst_setProp]
          exact held
        rw [ih heldAfter rest made, lookup_setProp held, if_neg other]

/-- The default of a declared property is found under its name. -/
theorem lookup_of_defaults {definitions : List PropDefinition} {definition : PropDefinition} {name : String}
    (declared : definitions.find? (fun definition => definition.key = name) = some definition)
    {props : List (String × Value)} (made : (scope.defaults definitions).Yields props) :
    ∃ v, (scope.defaultValue definition).Yields v ∧ props.lookup name = some v := by
  induction definitions generalizing props with
  | nil => cases declared
  | cons first definitions ih =>
    obtain ⟨v, default, made⟩ := LoopM.exists_of_yields_bind made
    obtain ⟨rest, others, made⟩ := LoopM.exists_of_yields_bind made
    obtain rfl := LoopM.eq_of_yields_pure made
    by_cases same : first.key = name
    · rw [List.find?_cons_of_pos (by simpa using same)] at declared
      obtain rfl := Option.some.inj declared
      exact ⟨v, default, by rw [← same, List.lookup_cons_self]⟩
    · rw [List.find?_cons_of_neg (by simpa using same)] at declared
      obtain ⟨w, default, there⟩ := ih declared others
      refine ⟨w, default, ?_⟩
      rw [List.lookup_cons, beq_false_of_ne (Ne.symm same)]
      exact there

/-- A property for which nothing is given, and which takes a loop, is made of its default. -/
theorem lookup_of_properties_default {definitions : List PropDefinition} {definition : PropDefinition} {name : String}
    (declared : (lastOfKey definitions).find? (fun definition => definition.key = name) = some definition)
    (loop : definition.isLoop = true) (selfless : refersToProps definition.default = false) {v : Value}
    (evaluated : scope.givenDefault definition.default = .ok v) {attributes props : List (String × Value)}
    (nothing : ∀ w, (name, w) ∈ attributes → w.isNull = true)
    (made : (scope.properties definitions attributes).Yields props) :
    ∃ w, (scope.loopValue v).Yields w ∧ props.lookup name = some w := by
  have value : scope.defaultValue definition = scope.loopValue v := by
    unfold defaultValue propValue
    rw [selfless, evaluated, loop]
    rfl
  obtain ⟨defaulted, before, made⟩ := LoopM.exists_of_yields_bind made
  obtain ⟨w, default, there⟩ := lookup_of_defaults declared before
  have held : name ∈ defaulted.map Prod.fst := List.mem_map.mpr ⟨_, mem_of_lookup_eq_some there, rfl⟩
  rw [value] at default
  exact ⟨w, default, (lookup_of_setGiven_null held nothing made).trans there⟩

end PropScope

/-- What an instance takes for a property: what it gives under the name, or else what the pattern has by default. -/
inductive Environment.Takes (env : Environment) (sources : List Source) (block : Block) (pattern : Pattern)
    (name : String) : Value → Prop where
  | given {text : String} {v : Value} (gives : block.Gives name text)
      (resolved : env.resolveContent sources (.text text) = .ok v) (filled : v.isNull = false) :
      Takes env sources block pattern name v
  | default {definition : PropDefinition} {v : Value}
      (nothing : ∀ attributes, env.instanceAttributes sources block = .ok attributes →
        ∀ w, (name, w) ∈ attributes → w.isNull = true)
      (declared : (PropScope.lastOfKey pattern.props).find? (fun definition => definition.key = name) = some definition)
      (selfless : PropScope.refersToProps definition.default = false)
      (evaluated : (env.propScope sources).givenDefault definition.default = .ok v) :
      Takes env sources block pattern name v

/-- What is taken for a property is made a reference. -/
theorem Environment.Takes.exists_reference {env : Environment} {s : Session} {block : Block} {pattern : Pattern}
    {name : String} {v : Value} (takes : env.Takes (s.context.sources block.context) block pattern name v)
    (declares : pattern.DeclaresLoop name) {props : List (String × Value)}
    (made : (RenderM.propsOf env block pattern s).1 = .ok props) :
    ∃ w, ((env.propScope (s.context.sources block.context)).loopValue v).Yields w ∧ props.lookup name = some w := by
  cases takes with
  | given gives resolved filled =>
    obtain ⟨u, again, set⟩ := DynamicBlocks.exists_reference gives declares made
    obtain rfl := Except.ok.inj (again.symm.trans resolved)
    exact set filled
  | default nothing declared selfless evaluated =>
    rename_i definition
    have matched := List.find?_some declared
    have key : definition.key = name := of_decide_eq_true matched
    have among := (PropScope.mem_lastOfKey pattern.props).1 definition (List.mem_of_find?_eq_some declared)
    rw [RenderM.propsOf_apply] at made
    cases attributes : env.instanceAttributes (s.context.sources block.context) block with
    | error f =>
      rw [attributes] at made
      cases made
    | ok given =>
      rw [attributes] at made
      have yields : ((env.propScope (s.context.sources block.context)).properties pattern.props given).Yields props :=
        ⟨s.loops, _, Prod.ext made rfl⟩
      exact PropScope.lookup_of_properties_default declared (declares.loop definition among key) selfless evaluated
        (nothing given attributes) yields

/-! ## Expressions for lists -/

/-- A text that is read as a list is one of JSON. -/
theorem literal?_eq_list {text : String} {found : List Value} (literal : literal? text = some (.list found)) :
    jsonLiteral? (trim text) = some (.list found) := by
  unfold literal? at literal
  dsimp only at literal
  split at literal
  · cases literal
  · split at literal
    · cases literal
    · split at literal
      · rename_i number _
        cases number <;> cases literal
      · split at literal
        · cases literal
        · exact literal

/-- Without sources only a text that is a list by itself means one. -/
theorem itemsOfText_of_evaluate_nil {table : ModifierTable} {text : String} {found : List Value}
    (means : evaluate table [] text = .ok (.list found)) : PropScope.itemsOfText text = found := by
  have json : jsonLiteral? (trim text) = some (.list found) := by
    unfold evaluate evaluateAt evaluateText evaluateNested at means
    cases literal : literal? text with
    | some v =>
      rw [literal] at means
      obtain rfl := Except.ok.inj means
      exact literal?_eq_list literal
    | none =>
      rw [literal] at means
      dsimp only [Expression.resolveWith, findSource?] at means
      split at means <;> cases means
  unfold jsonLiteral? at json
  split at json
  · rename_i brackets
    have opening : (trim text).toList.head? = some '[' ∨ (trim text).toList.head? = some '\x7b' := by
      simp only [looksLikeJson, Bool.or_eq_true, Bool.and_eq_true, beq_iff_eq] at brackets
      rcases brackets with ⟨opening, _⟩ | ⟨opening, _⟩
      · exact .inl opening
      · exact .inr opening
    unfold PropScope.itemsOfText Value.collectionOf Value.jsonCollection?
    rw [if_pos opening, json]
    rfl
  · cases json

/-- What is taken stands for a list: it is the list, or a text with an expression that means the list and no preset. -/
inductive Environment.StandsFor (env : Environment) (sources : List Source) (found : List Value) :
    Value → String → Prop where
  | itself : StandsFor env sources found (.list found) ""
  | expression {text expression : String} (bare : PropScope.withoutBraces text = expression)
      (unknown : env.engine.loops.knows (.text expression) = false)
      (means : evaluate env.engine.modifiers sources expression = .ok (.list found)) :
      StandsFor env sources found (.text text) expression

/-- The reference made of it has the list for its items, and keeps the expression. -/
theorem Environment.StandsFor.loopValue {env : Environment} {sources : List Source} {found : List Value} {v : Value}
    {expression : String} (stands : env.StandsFor sources found v expression) :
    (env.propScope sources).loopValue v = pure (.loop expression (.list found)) := by
  cases stands with
  | itself => exact PropScope.loopValue_list found
  | @expression text expression bare unknown means =>
    have filled : expression ≠ "" := by
      rintro rfl
      have empty : evaluate env.engine.modifiers sources "" = .ok (.text "") := rfl
      rw [empty] at means
      cases means
    have knowing : (env.propScope sources).loopsKnowing expression = none := by
      unfold PropScope.loopsKnowing Environment.propScope
      rw [Option.filter_some, unknown]
      rfl
    have key : (env.propScope sources).loopKey (.text text) = .ok expression := by
      rw [PropScope.loopKey_text, bare]
      split
      · unfold Environment.propScope
        dsimp only
        rw [means]
        rfl
      · rfl
    have data : (env.propScope sources).loopData (.text text) = pure (.list found) := by
      rw [PropScope.loopData_text, bare]
      unfold PropScope.expressionData PropScope.listOf?
      rw [if_neg filled, knowing]
      dsimp only [Environment.propScope]
      cases sources with
      | nil =>
        rw [← itemsOfText_of_evaluate_nil means]
        rfl
      | cons source sources =>
        rw [means]
        rfl
    rw [PropScope.loopValue_text, key, data]
    rfl

/-! ## Places in a body -/

/-- Surroundings of what stands in the body of a component: behind entries that are pushed there under other names than
`props`, and in the slots of further instances, as far as their content stands in the body. -/
inductive Surroundings.Inside (env : Environment) (body : Surroundings) : Surroundings → Prop where
  | here : Inside env body body
  | pushed {a : Surroundings} {entries : List Entry} (outer : Inside env body a)
      (other : ∀ entry ∈ entries, entry.key.same (.text "props") = false) : Inside env body (a.pushed entries)
  | filled {a b : Surroundings} {place : Place} {block : Block} {props : List (String × Value)} {name : String}
      {content : SlotContent} (outer : Inside env body a)
      (within : (a.inBody (a.frameFor env place block) props).Within b)
      (slot : b.slot? name = some (a.frameFor env place block, content)) :
      Inside env body (b.inSlot (a.frameFor env place block) name)

/-- Wherever that is, the live stack is that of the body with entries of other names on top: an induction on the places,
of which slot content keeps the entries of its place but for global ones. -/
theorem Surroundings.Inside.exists_entries {env : Environment} {caller a : Surroundings} {frame : SlotFrame}
    {props : List (String × Value)} (inside : (caller.inBody frame props).Inside env a) :
    ∃ entries, (∀ entry ∈ entries, entry.key.same (.text "props") = false) ∧
      a.context = ((caller.inBody frame props).pushed entries).context := by
  induction inside with
  | here => exact ⟨[], fun _ there => absurd there List.not_mem_nil, rfl⟩
  | @pushed a more outer other ih =>
    obtain ⟨entries, others, same⟩ := ih
    refine ⟨entries ++ more, fun entry there => ?_, ?_⟩
    · rcases List.mem_append.mp there with there | there
      · exact others entry there
      · exact other entry there
    · show { a.context with stack := ⟨a.context.stack.entries ++ more⟩ } = _
      rw [same]
      rfl
  | @filled a b place block given name content outer within slot ih =>
    obtain ⟨entries, others, same⟩ := ih
    have kept : b.context.withEntries ((a.frameFor env place block).entries ++ [slotMark name]) =
        a.context.withEntries ((a.frameFor env place block).entries ++ [slotMark name]) :=
      within.sameButStack _
    refine ⟨entries.filter (fun entry => entry.kind ≠ .globalValue) ++ [slotMark name], fun entry there => ?_, ?_⟩
    · rcases List.mem_append.mp there with there | there
      · exact others entry (List.mem_filter.mp there).1
      · obtain rfl := List.mem_singleton.mp there
        simp [slotMark, Value.same]
    · show b.context.withEntries ((a.frameFor env place block).entries ++ [slotMark name]) = _
      rw [kept]
      show a.context.withEntries (a.context.nonGlobal ++ [slotMark name]) = _
      rw [same]
      rfl

/-- There the properties of the component are to be seen. -/
theorem Surroundings.Inside.hasLoopProp {env : Environment} {caller a : Surroundings} {frame : SlotFrame}
    {props : List (String × Value)} (inside : (caller.inBody frame props).Inside env a)
    (free : ∀ entry ∈ caller.context.preview.entries, entry.key.same (.text "props") = false)
    (plain : LoopRef.ofValue? (.ofFields props) = none) {name key : String} {data : Value}
    (there : props.lookup name = some (.loop key data)) (context : Entries) :
    HasLoopProp (a.context.sources context) name key data := by
  obtain ⟨entries, other, same⟩ := inside.exists_entries
  have body : HasLoopProp ((caller.inBody frame props).context.sources context) name key data :=
    hasLoopProp_inBody free plain there context
  obtain ⟨fields, found, unmarked⟩ := body.found
  refine ⟨fields, ?_, unmarked⟩
  rw [same, Surroundings.findSource?_pushed other]
  exact found

/-! ## Loops over what the caller gave -/

/-- A reference to a list stands for what its expression means as a list or mapping, if it means one, and else for the
list. -/
theorem Engine.ofReference_of_unknown {engine : Engine} {sources : List Source} {expression : String}
    (unknown : expression ≠ "" → engine.loops.knows (.text expression) = false) (found : List Value) (given : Entries) :
    itemsOf <$> engine.ofReference sources ⟨expression, .list found⟩ given =
      DynamicBlocks.ofExcept (engine.collection? sources expression) >>= fun meant => pure (meant.elim found itemsOf) := by
  by_cases empty : expression = ""
  · subst empty
    have nothing : engine.collection? sources "" = .ok none := rfl
    rw [nothing]
    rfl
  · unfold Engine.ofReference
    dsimp only
    rw [if_neg empty, unknown empty, if_neg Bool.false_ne_true, map_bind]
    apply bind_congr
    intro meant
    cases meant <;> rfl

/-- An expression that stands for items is no registered loop. -/
theorem Environment.StandsFor.unknown {env : Environment} {sources : List Source} {found : List Value} {v : Value}
    {expression : String} (stands : env.StandsFor sources found v expression) (filled : expression ≠ "") :
    env.engine.loops.knows (.text expression) = false := by
  cases stands with
  | itself => exact absurd rfl filled
  | expression _ unknown _ => exact unknown

section

variable {env : Environment} {caller : Session} {place : Place} {block : Block} {pattern : Pattern} {name : String}
  {v : Value} {found : List Value} {expression : String} {props : List (String × Value)}

/-- In the body of a component a loop over what the caller gave goes over what the expression means at the loop, if that
is a list or a mapping, and else over the caller's list: always over that if it was given in braces. -/
theorem loopItems_inside (takes : env.Takes (caller.context.sources block.context) block pattern name v)
    (stands : env.StandsFor (caller.context.sources block.context) found v expression)
    (declares : pattern.DeclaresLoop name) (made : (RenderM.propsOf env block pattern caller).1 = .ok props)
    (plain : LoopRef.ofValue? (.ofFields props) = none)
    (addressed : (Expression.ofText (propText name)).segments = [.key "props", .key name])
    (other : env.engine.loops.knows (.text "props") = false)
    (free : ∀ entry ∈ caller.context.preview.entries, entry.key.same (.text "props") = false) {s : Session}
    (inside : (caller.inBody (caller.frameFor env place block) props).Inside env s.toSurroundings) {loop : Block}
    (unnamed : loop.loopId? = none) (target : loop.loopTarget = propText name) :
    let sources := s.context.sources loop.context
    (RenderM.loopItems env loop sources =
        RenderM.ofExcept (env.engine.collection? sources expression) >>= fun meant => pure (meant.elim found itemsOf)) ∧
      (expression = "" → RenderM.loopItems env loop sources = pure found) := by
  intro sources
  obtain ⟨w, referred, there⟩ := takes.exists_reference declares made
  rw [stands.loopValue] at referred
  obtain rfl := LoopM.eq_of_yields_pure referred
  have holds : HasLoopProp sources name expression (.list found) := inside.hasLoopProp free plain there loop.context
  have items := holds.targetItems_of_segments other addressed rfl (mayBeJson_props name)
  have noParams : env.engine.callParams sources (Segment.key name).args = .ok [] := rfl
  have looped : RenderM.loopItems env loop sources = _ := RenderM.loopItems_of_target unnamed sources
  rw [noParams] at items
  have meaning : env.engine.targetItems sources (propText name) =
      DynamicBlocks.ofExcept (env.engine.collection? sources expression) >>= fun meant =>
        pure (meant.elim found itemsOf) :=
    items.trans (Engine.ofReference_of_unknown stands.unknown found [])
  rw [target, meaning, RenderM.ofLoops_bind] at looped
  refine ⟨looped, ?_⟩
  rintro rfl
  exact looped

end

/-! ## Tags captured by the item of a loop -/

/-- A caller with tags. -/
def taggedCaller : Session :=
  (Session.start .silent).pushEntries [.ofLocal (.text "tags") (.list [.text "a", .text "b"])]

/-- A loop over what is taken, which shows the tags. -/
def loopOverTags : Block :=
  ⟨.text "loop", [(.text "target", .text "props.l"), (.text "itemId", .text "tag")],
    [⟨.text "text", [(.text "content", .text "\x7btag\x7d;")], [], [], .tuple⟩], [], .tuple⟩

/-- Within a loop that names its items otherwise the tags are the caller's. -/
theorem loopItems_inside_tags :
    let body := taggedCaller.inBody (taggedCaller.frameFor (.ofPatterns []) .page (loopGiving "list" "tags"))
      [("l", .loop "tags" (.list [.text "a", .text "b"]))]
    RenderM.loopItems (.ofPatterns []) loopOverTags
      ((body.pushed [.ofLocal (.text "item") (.text "x")]).context.sources []) = pure [.text "a", .text "b"] := by
  intro body
  let s : Session := taggedCaller.surround (body.pushed [.ofLocal (.text "item") (.text "x")])
  have resolved : (Environment.ofPatterns []).resolveContent (taggedCaller.context.sources []) (.text "tags") =
      .ok (.text "tags") := resolveContent_of_unbraced (by simp) _ _
  have unknown (name : Value) : (Environment.ofPatterns []).engine.loops.knows name = false :=
    LoopService.knows_of_empty rfl name
  have means : evaluate builtinModifiers (taggedCaller.context.sources []) "tags" =
      .ok (.list [.text "a", .text "b"]) := by cbv
  have stands : (Environment.ofPatterns []).StandsFor (taggedCaller.context.sources []) [.text "a", .text "b"]
      (.text "tags") "tags" := .expression (by cbv) (unknown _) means
  have made : (RenderM.propsOf (.ofPatterns []) (loopGiving "list" "tags") (loopTaking "list" [loopOverTags])
      taggedCaller).1 = .ok [("l", .loop "tags" (.list [.text "a", .text "b"]))] := by
    refine propsOf_loopGiving resolved rfl ?_
    rw [stands.loopValue]
    rfl
  have inside : body.Inside (.ofPatterns []) s.toSurroundings := by
    refine .pushed .here fun entry there => ?_
    obtain rfl := List.mem_singleton.mp there
    simp [Entry.ofLocal, Value.same]
  have target : loopOverTags.loopTarget = propText "l" := by cbv
  have nothing : (Environment.ofPatterns []).engine.collection? (s.context.sources []) "tags" = .ok none := by cbv
  have free : ∀ entry ∈ taggedCaller.context.preview.entries, entry.key.same (.text "props") = false :=
    fun _ there => absurd there List.not_mem_nil
  have items := (loopItems_inside (.given (gives_loopGiving "list" "tags") resolved rfl) stands
    (declaresLoop_loopTaking "list" [loopOverTags]) made (by cbv) (by decide +kernel) (unknown _) free inside
    (by cbv) target).1
  have unattached : loopOverTags.context = [] := rfl
  rw [unattached, nothing] at items
  exact items

/-- A component that goes over what it takes within a loop of its own, whose item has the tag `x`. -/
def capturing (itemKey : String) : Settings :=
  .ofPatterns [("list", .built (loopTaking "list"
    [⟨.text "loop", [(.text "target", .text "[\x7b\"tags\": [\"x\"]\x7d]"), (.text "itemId", .text itemKey)],
      [loopOverTags], [], .tuple⟩]))]

/-- A page with an item that has tags, and an instance that gives them. -/
def tagsPage (text : String) : Page :=
  ⟨.list [describing "component" [(.text "ref", .text "list"), (.text "attributes", .map [(.text "l", .text text)])] []],
    .map [(.text "item", .ofFields [("tags", .list [.text "a", .text "b"])])], .null, .null⟩

/-- Given without braces the caller's tags are captured by an item of the same name, and by no other. -/
theorem outcome_tagsPage_ne :
    (capturing "item").outcome (tagsPage "item.tags") = .ok "x;" ∧
      (capturing "other").outcome (tagsPage "item.tags") = .ok "a;b;" ∧
      (capturing "item").outcome (tagsPage "\x7bitem.tags\x7d") = .ok "a;b;" := by
  refine ⟨eq_ok_of_toOption ?_, eq_ok_of_toOption ?_, eq_ok_of_toOption ?_⟩
  · decide +kernel
  · decide +kernel
  · decide +kernel

end DynamicBlocks
