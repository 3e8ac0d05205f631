import DynamicBlocks.Proofs.DepthFailures
import DynamicBlocks.Proofs.FurtherDown
import DynamicBlocks.Render.Settings
import Mathlib

/-!
# Components that only wrap slot content

A pattern that is a single placeholder adds nothing to what fills its slot. An instance of it on a page becomes what
its slot content becomes by itself, if components may be nested one level deeper. The reference of such an instance
has to be a text with characters in it, though, for the empty reference asks for no pattern, whatever is listed under
it.
-/

set_option autoImplicit false

namespace DynamicBlocks

open RenderM

/-! ## The wrapper -/

/-- The mapping that describes a block of a name. -/
def describing (name : String) (attrs : Entries) (content : List Value) : Value :=
  .map [(.text "blockName", .text name), (.text "attrs", .map attrs), (.text "innerBlocks", .list content)]

/-- A block is read from what describes it. -/
theorem Block.ofValue_describing {name : String} (read : nameOf (.text name) = .ok (.text name)) (attrs : Entries)
    (content : List Value) :
    Block.ofValue (describing name attrs content) =
      (fun inner => ⟨.text name, attrs, inner, [], .tuple⟩) <$> Block.ofItems content := by
  let entries : Entries :=
    [(.text "blockName", .text name), (.text "attrs", .map attrs), (.text "innerBlocks", .list content)]
  have named : firstField entries ["blockName", "name"] = .text name := by cbv
  have attributes : Entries.field entries "attrs" = .map attrs := by cbv
  have context : (Entries.field entries "context").toEntriesOrNone = .ok [] := by cbv
  have inner : innerOf "innerBlocks" entries = some <$> ofItems content := by
    have first : (Value.text "blockName").same (.text "innerBlocks") = false := by cbv
    have second : (Value.text "attrs").same (.text "innerBlocks") = false := by cbv
    have third : (Value.text "innerBlocks").same (.text "innerBlocks") = true := (Value.same_text _ _).mpr rfl
    simp only [entries, innerOf, ofSeries, first, second, third, Bool.false_eq_true, if_false, if_true]
  show Block.ofValue (.map entries) = _
  rw [ofValue, named, read, attributes, Value.toEntriesOrNone_map, context, inner]
  cases ofItems content <;> rfl

/-- What stands on a page for an instance that only fills one slot. -/
def wrapping (ref name : String) (content : List Value) : Value :=
  describing "component" [(.text "ref", .text ref)]
    [describing defaultSlotBlock [(.text "name", .text name)] content]

/-- An instance that only fills one slot. -/
def Block.wrapper (ref name : String) (content : List Block) : Block :=
  ⟨.text "component", [(.text "ref", .text ref)],
    [⟨.text defaultSlotBlock, [(.text "name", .text name)], content, [], .tuple⟩], [], .tuple⟩

/-- The page wrapped is read whenever the page is. -/
theorem Block.ofSeries_wrapping (ref name : String) (content : List Value) :
    Block.ofSeries (.list [wrapping ref name content]) =
      (fun blocks => [Block.wrapper ref name blocks]) <$> Block.ofSeries (.list content) := by
  have component : nameOf (.text "component") = .ok (.text "component") := by cbv
  have slot : nameOf (.text defaultSlotBlock) = .ok (.text defaultSlotBlock) := by cbv
  have filled : Block.ofItems [describing defaultSlotBlock [(.text "name", .text name)] content] =
      (fun inner => [⟨.text defaultSlotBlock, [(.text "name", .text name)], inner, [], .tuple⟩]) <$>
        Block.ofItems content := by
    rw [Block.ofItems, Block.ofValue_describing slot, Block.ofItems]
    cases Block.ofItems content <;> rfl
  unfold wrapping
  rw [Block.ofSeries, Block.ofSeries, Block.ofItems, Block.ofValue_describing component, filled, Block.ofItems]
  cases Block.ofItems content <;> rfl
/-- A pattern that is a single placeholder, for the slot of a name. -/
structure Pattern.Wraps (pattern : Pattern) (holder : Block) (name : String) : Prop where
  blocks : pattern.blocks = [holder]
  props : pattern.props = []
  placeholder : holder.name = .text "slot-placeholder"
  named : holder.slotName? = some name

/-- An environment whose renderers and guard are those in use, where nothing is done to a text after it is rendered
and nothing fails for depth but components. -/
structure Environment.Plain (env : Environment) : Prop where
  modifiers : env.engine.modifiers.OnlyFails Failure.NotForDepth
  loader : ∀ loader, env.loader = some loader → ∀ ref, OnlyFails Failure.NotForDepth (loader.find ref)
  postProcessors : env.postProcessors = []
  renderers : env.renderers = defaultRenderers
  slotBlock : env.slotBlock = defaultSlotBlock
  slotGuard : env.slotGuard = .byBlock

namespace Environment.Plain

variable {env : Environment}

/-- In a plain environment no renderer is an extension. -/
theorem noExtension (plain : env.Plain) (name : String) (plan : View → Block → Plan) :
    env.renderers.lookup name ≠ some (.extension plan) := by
  rw [plain.renderers]
  exact fun registered => defaultRenderers_ne_extension registered

/-- Nothing changes by the limit. -/
theorem calm (plain : env.Plain) (limit : Int) : (env.limitedTo limit).Calm where
  modifiers := plain.modifiers
  loader := plain.loader
  postProcessors process there := by
    have there : process ∈ env.postProcessors := there
    rw [plain.postProcessors] at there
    exact absurd there List.not_mem_nil
  renderers := plain.noExtension

/-- A block is rendered by the renderer of its name. -/
theorem renderBlock (plain : env.Plain) (limit : Int) {name : String} {renderer : Renderer}
    (known : defaultRenderers.lookup name = some renderer) (on : WaysOn) (place : Place) {block : Block}
    (named : block.name = .text name) :
    RenderM.renderBlock (env.limitedTo limit) on place block =
      renderAs (env.limitedTo limit) on place block (renderFrom (env.limitedTo limit) on place 0 block.inner)
        (some renderer) := by
  have found : (env.limitedTo limit).rendererFor block.name = .ok (some renderer) := by
    rw [named]
    show Except.ok (env.renderers.lookup name) = _
    rw [plain.renderers, known]
  rw [renderBlock_eq]
  unfold renderNamed
  rw [found, ofExcept_ok_bind]

end Environment.Plain

/-- A placeholder becomes the content of its slot, where the guard lets it pass. -/
theorem renderPlaceholder_fst {env : Environment} {block : Block} {name : String} (named : block.slotName? = some name)
    {fill : SlotContent → RenderM String} (restores : ∀ content, Restores (fill content)) {s : Session}
    {frame : SlotFrame} {content : SlotContent} (there : s.slot? name = some (frame, content))
    (free : env.answer s.guard (frame.guardKey name) = .enter) :
    (renderPlaceholder env block fill s).1 = (fill content (s.surround (s.inSlot frame name))).1 := by
  rw [renderPlaceholder_apply named, there]
  dsimp only
  rw [renderFilled_eq (restores content)]
  dsimp only
  rw [free]
  rfl

/-- A session as it is when a page starts, with local entries only on the live stack. -/
structure Session.Fresh (s : Session) : Prop where
  locals : ∀ entry ∈ s.context.stack.entries, entry.kind ≠ .globalValue
  frames : s.frames = []
  guard : s.guard = []
  depth : s.depth = 0
  opened : s.opened = 0
  patterns : s.patterns = .empty

section

variable {env : Environment} {pattern : Pattern} {holder : Block} {ref name : String} {limit : Int}

/-- The wrapper fills its slot with all of its content. -/
theorem slots_wrapper (named : holder.slotName? = some name) (ref : String) (content : List Block) :
    (Block.wrapper ref name content).slots .wrapper defaultSlotBlock = [(name, ⟨Place.page.wrapped, content⟩)] := by
  have nonempty : name ≠ "" := by
    unfold Block.slotName? at named
    split at named
    · split at named
      · cases named
      · rename_i given
        rw [← Option.some.inj named]
        exact given
    · cases named
  have slotName : Block.slotName? ⟨.text defaultSlotBlock, [(.text "name", .text name)], content, [], .tuple⟩ =
      some name := by
    have given : Entries.field [(.text "name", .text name)] "name" = .text name := by cbv
    unfold Block.slotName?
    rw [given]
    exact if_neg nonempty
  have kind : (Value.text defaultSlotBlock).same (.text defaultSlotBlock) = true := (Value.same_text _ _).mpr rfl
  have filled : Block.filledSlot? ⟨.text defaultSlotBlock, [(.text "name", .text name)], content, [], .tuple⟩
      (Place.wrapper.child 0) defaultSlotBlock = some (name, ⟨Place.page.wrapped, content⟩) := by
    unfold Block.filledSlot?
    rw [if_pos kind, slotName]
    rfl
  show firstOfName ([(_, 0)].filterMap _) = _
  rw [List.filterMap_cons]
  dsimp only
  rw [filled]
  rfl

/-- The wrapper has no attributes and its pattern no properties, so there is nothing to find. -/
theorem propsOf_wrapper (env : Environment) (noProps : pattern.props = []) (content : List Block) (s : Session) :
    propsOf env (.wrapper ref name content) pattern s = (.ok [], s) := by
  have attributes : env.instanceAttributes (s.context.sources []) (.wrapper ref name content) = .ok [] := by
    have none : Entries.field (Block.wrapper ref name content).attrs "attributes" = .null := by cbv
    unfold Environment.instanceAttributes
    rw [none]
    rfl
  have unattached : (Block.wrapper ref name content).context = [] := rfl
  rw [propsOf_apply, unattached, attributes, noProps]
  rfl

/-- The wrapper is the only block of its page. -/
theorem renderAt_wrapper (plain : env.Plain) (limit : Int) (levels : Nat) (ref name : String) (content : List Block) :
    renderAt (env.limitedTo limit) levels 0 .page [.wrapper ref name content] =
      renderComponent (env.limitedTo limit) .wrapper (.wrapper ref name content)
        (renderBodyAt (env.limitedTo limit) levels 1) := by
  have known : defaultRenderers.lookup "component" = some .component := by cbv
  unfold renderAt
  rw [renderFrom_singleton, plain.renderBlock limit known _ _ rfl]
  rfl

/-- The placeholder is the only block of the body, and its content is on the level of the body. -/
theorem renderBodyAt_placeholder (plain : env.Plain) (limit : Int) (levels : Nat) (ref : String)
    (placeholder : holder.name = .text "slot-placeholder") :
    renderBodyAt (env.limitedTo limit) (levels + 1) 1 ref [holder] =
      renderPlaceholder (env.limitedTo limit) holder fun content =>
        renderAt (env.limitedTo limit) levels 0 content.place content.blocks := by
  have known : defaultRenderers.lookup "slot-placeholder" = some .slotPlaceholder := by cbv
  unfold renderBodyAt bodyAt
  rw [renderFrom_singleton, plain.renderBlock limit known _ _ placeholder]
  rfl

/-- A reference that is not empty leads to its pattern at the start. -/
theorem findPattern_fresh (found : PatternCache.load env.loader ref = .ok (some pattern)) (nonempty : ref ≠ "")
    {s : Session} (fresh : s.Fresh) :
    PatternCache.asksNothing (.text ref) = false ∧
      RenderM.findPattern env (.text ref) s =
        (.ok (some pattern), { s with patterns := (s.patterns.get env.loader (.text ref)).2 }) := by
  have asks : PatternCache.asksNothing (.text ref) = false := by
    show (false || ref == "") = false
    rw [Bool.false_or, beq_false_of_ne nonempty]
  have answer : (s.patterns.get env.loader (.text ref)).1 = .ok (some pattern) := by
    rw [fresh.patterns, (PatternCache.faithful_empty env.loader).get_fst, asks]
    exact found
  exact ⟨asks, Prod.ext answer rfl⟩

/-- A page that is the wrapper becomes what the placeholder in the body of its pattern does. -/
theorem renderBlocks_wrapper (plain : env.Plain) (wraps : pattern.Wraps holder name)
    (found : PatternCache.load env.loader ref = .ok (some pattern)) (nonempty : ref ≠ "") (positive : 0 ≤ limit)
    (content : List Block) {s : Session} (fresh : s.Fresh) :
    let entered := { s with patterns := (s.patterns.get env.loader (.text ref)).2 }
    let frame := entered.frameFor (env.limitedTo (limit + 1)) .wrapper (.wrapper ref name content)
    (renderBlocks (env.limitedTo (limit + 1)) .page [.wrapper ref name content] s).1 =
      (renderPlaceholder (env.limitedTo (limit + 1)) holder
        (fun content => renderAt (env.limitedTo (limit + 1)) limit.toNat 0 content.place content.blocks)
        (entered.surround (entered.inBody frame []))).1 := by
  intro entered frame
  have levels : levelsLeft (env.limitedTo (limit + 1)) s = limit.toNat + 1 := by
    show (limit + 1 - s.depth).toNat = limit.toNat + 1
    rw [fresh.depth]
    omega
  have reference : (Block.wrapper ref name content).ref = .text ref := by cbv
  obtain ⟨asks, answered⟩ := findPattern_fresh found nonempty fresh
  have answered : RenderM.findPattern (env.limitedTo (limit + 1)) (.text ref) s = (.ok (some pattern), entered) :=
    answered
  have free : (env.limitedTo (limit + 1)).maxDepth.isReached entered.depth = false := by
    show decide (limit + 1 ≤ s.depth) = false
    rw [fresh.depth, decide_eq_false_iff_not]
    omega
  have noPost : (env.limitedTo (limit + 1)).postProcessors = [] := plain.postProcessors
  rw [renderBlocks_apply, levels, fresh.frames, List.length_nil, renderAt_wrapper plain, renderComponent, reference,
    asks, if_neg Bool.false_ne_true, bind_of_ok answered]
  dsimp only
  rw [wraps.blocks, List.isEmpty_cons, if_neg Bool.false_ne_true]
  show (renderInstance _ _ _ _ (renderBodyAt _ _ 1 ref [holder]) entered).1 = _
  rw [renderInstance_of_not_reached noPost ((Restores.keptByBlocks _).renderBodyAt _ _ _ _)
    ((NeverForDepth.keptByBlocks (plain.calm _)).renderBodyAt _ _ _ _).2
    (propsOf_wrapper _ wraps.props content entered) free, renderBodyAt_placeholder plain _ _ _ wraps.placeholder]
  rfl

/-- Where the content of the wrapper is rendered, beside where the page starts. -/
theorem wrapped_inSlot (env : Environment) (ref name : String) (limit : Int) {s : Session} (fresh : s.Fresh)
    (content : List Block) :
    let frame := s.frameFor (env.limitedTo (limit + 1)) .wrapper (.wrapper ref name content)
    Surroundings.Wrapped name s.toSurroundings ((s.inBody frame []).inSlot frame name) where
  host := rfl
  registry := rfl
  preview := rfl
  stack := by
    show Entry.shown s.context.stack.entries = Entry.shown (s.context.nonGlobal ++ [slotMark name])
    have all : s.context.nonGlobal = s.context.stack.entries :=
      List.filter_eq_self.mpr fun entry there => decide_eq_true (fresh.locals entry there)
    rw [all, Entry.shown_append]
    exact (List.append_nil _).symm
  frames := by
    show List.Forall₂ SlotFrame.Wrapped s.frames s.frames
    rw [fresh.frames]
    exact .nil
  guard := by
    show GuardKey.slot .wrapper s.opened name :: s.guard = s.guard.map GuardKey.wrapped ++ [.ofWrapper name]
    rw [fresh.guard, fresh.opened]
    rfl
  depth := rfl
  opened := rfl

/-- The page wrapped becomes what the page does. -/
theorem renderBlocks_wrapped (plain : env.Plain) (wraps : pattern.Wraps holder name)
    (found : PatternCache.load env.loader ref = .ok (some pattern)) (nonempty : ref ≠ "") (positive : 0 ≤ limit)
    (content : List Block) {s : Session} (fresh : s.Fresh) :
    (renderBlocks (env.limitedTo (limit + 1)) .page [.wrapper ref name content] s).1 =
      (renderBlocks (env.limitedTo limit) .page content s).1 := by
  let entered : Session := { s with patterns := (s.patterns.get env.loader (.text ref)).2 }
  let frame := entered.frameFor (env.limitedTo (limit + 1)) .wrapper (.wrapper ref name content)
  let inside : Session := entered.surround (entered.inBody frame [])
  have filled : inside.slot? name =
      ((some ⟨Place.page.wrapped, content⟩).filter fun content => !content.blocks.isEmpty).map fun content =>
        (frame, content) := by
    have slots : frame.slots = [(name, ⟨Place.page.wrapped, content⟩)] := by
      show (Block.wrapper ref name content).slots .wrapper env.slotBlock = _
      rw [plain.slotBlock]
      exact slots_wrapper wraps.named ref content
    show (frame.content? name).map _ = _
    unfold SlotFrame.content?
    rw [slots, List.lookup_cons_self]
  have levels : levelsLeft (env.limitedTo limit) s = limit.toNat := by
    show (limit - s.depth).toNat = limit.toNat
    rw [fresh.depth, Int.sub_zero]
  rw [renderBlocks_wrapper plain wraps found nonempty positive content fresh, renderBlocks_apply, levels,
    fresh.frames, List.length_nil]
  show (renderPlaceholder _ holder _ inside).1 = _
  cases content with
  | nil =>
    -- A slot that is filled with no blocks counts as empty.
    rw [renderPlaceholder_apply wraps.named, filled]
    rfl
  | cons block blocks =>
    have free : (env.limitedTo (limit + 1)).answer inside.guard (frame.guardKey name) = .enter := by
      show (env.limitedTo (limit + 1)).answer s.guard (frame.guardKey name) = .enter
      unfold Environment.answer
      rw [fresh.guard, show (env.limitedTo (limit + 1)).slotGuard = .byBlock from plain.slotGuard]
      rfl
    have remembered : entered.patterns.Faithful env.loader := by
      show (s.patterns.get env.loader (.text ref)).2.Faithful env.loader
      rw [fresh.patterns]
      exact (PatternCache.faithful_empty env.loader).get_snd (.text ref)
    -- From here on the two renders are in step, each with the levels that it has left.
    have agree := (InStep.renderAt (.wrapped env plain.noExtension plain.slotGuard limit name) limit.toNat 0 .page
      Place.page.wrapped (block :: blocks)).agree rfl s (inside.surround (inside.inSlot frame name))
      (wrapped_inSlot env ref name limit fresh (block :: blocks))
      ⟨fresh.patterns ▸ PatternCache.faithful_empty env.loader, remembered, rfl⟩
    rw [renderPlaceholder_fst wraps.named (fun content => Restores.renderAt _ _ _ content.place content.blocks)
      filled free]
    exact (agree.together id).1.symm

end

/-! ## Pages -/

/-- A page that is nothing but a wrapper becomes what the page inside it does, with one level more. -/
theorem Environment.Plain.render_wrapping {env : Environment} (plain : env.Plain) {pattern : Pattern} {holder : Block}
    {ref name : String} (wraps : pattern.Wraps holder name)
    (found : PatternCache.load env.loader ref = .ok (some pattern)) (nonempty : ref ≠ "") {limit : Int}
    (positive : 1 ≤ limit) (content : List Value) (given : Entries) (globals previews : Value) :
    ((env.limitedTo (limit + 1)).render ⟨.list [wrapping ref name content], .map given, globals, previews⟩).1 =
      ((env.limitedTo limit).render ⟨.list content, .map given, globals, previews⟩).1 := by
  obtain ⟨context, stack, ⟨f, failed⟩ | rendered⟩ := render_cases env.host globals previews
  · rw [failed (env.limitedTo (limit + 1)) rfl, failed (env.limitedTo limit) rfl]
  · let start : Session := { Session.start env.host with context := context }
    have fresh : (start.surround (start.activated.pushed (Entry.ofMapping .localValue given))).Fresh := by
      refine ⟨fun entry there => ?_, rfl, rfl, rfl, rfl, rfl⟩
      have there : entry ∈ context.stack.entries ++ Entry.ofMapping .localValue given := there
      rw [stack] at there
      obtain ⟨_, _, rfl⟩ := List.mem_map.mp (show entry ∈ Entry.ofMapping .localValue given from there)
      exact nofun
    have read : Entry.ofInitials (.map given) = pure (Entry.ofMapping .localValue given) := rfl
    rw [rendered (env.limitedTo (limit + 1)) rfl, rendered (env.limitedTo limit) rfl, renderPage_fst, renderPage_fst,
      read, pure_bind, pure_bind, Block.ofSeries_wrapping, bind_map_left]
    exact bind_congr fun blocks => renderBlocks_wrapped plain wraps found nonempty (by omega) blocks fresh

/-! ## Settings -/

namespace Settings

/-- The settings with a whole number as the limit on nesting. -/
def limitedTo (settings : Settings) (limit : Int) : Settings :=
  { settings with maxDepth := .int limit }

/-- What a page comes to with settings. -/
def outcome (settings : Settings) (page : Page) : Except Failure String := do
  let configuration ← settings.configure
  (configuration.render page).1

end Settings

/-- A whole number above zero is a limit. -/
theorem DepthLimit.ofValue_int {limit : Int} (positive : 1 ≤ limit) : ofValue (.int limit) = .ok (ofInt limit) := by
  have enough : (Number.int limit).less (.int 1) = false := by
    show decide (limit < 1) = false
    rw [decide_eq_false_iff_not]
    omega
  show (if (Number.int limit).less (.int 1) then _ else _) = _
  rw [enough]
  rfl

namespace Configuration

/-- The limit is all that the limit decides of an environment. -/
theorem environment_limitedTo (settings : Settings) (handlers : LoopHandlers) (maxDepth : DepthLimit) (limit : Int) :
    (Configuration.mk (settings.limitedTo limit) handlers (.ofInt limit)).environment =
      (·.limitedTo limit) <$> (Configuration.mk settings handlers maxDepth).environment := by
  have presets : (settings.limitedTo limit).presets = settings.presets := rfl
  unfold environment
  dsimp only
  rw [presets]
  split
  · simp only [map_bind, map_pure]
    rfl
  · simp only [map_bind, map_pure]
    rfl

/-- The environment of settings that set neither renderers nor post-processors. -/
theorem plain_environment {settings : Settings} {patterns : List (String × PatternData)}
    (modifiers : settings.modifiers.OnlyFails Failure.NotForDepth) (loader : settings.loader = some (.table patterns))
    (noPost : settings.postProcessors = []) (renderers : settings.renderers = [])
    (slotBlock : settings.slotBlock = defaultSlotBlock) {handlers : LoopHandlers} {maxDepth : DepthLimit}
    {env : Environment} (set : (Configuration.mk settings handlers maxDepth).environment = .ok env) :
    env.Plain ∧ env.loader = some (.table patterns) := by
  have fields : ∃ presets, env = {
      engine := ⟨settings.modifiers, presets, handlers, settings.backend, Digest.sha256⟩
      loader := settings.loader
      host := settings.host
      autoescape := settings.autoescape
      postProcessors := settings.postProcessors
      maxDepth := maxDepth
      slotBlock := settings.slotBlock
      renderers := settings.renderers.foldl (fun known entry => Environment.setRenderer known entry.1 entry.2)
        defaultRenderers
      slotGuard := .byBlock } := by
    unfold environment at set
    dsimp only at set
    split at set
    all_goals
      obtain ⟨entries, _, set⟩ := exists_of_bind_eq_ok set
      obtain ⟨presets, _, set⟩ := exists_of_bind_eq_ok set
      exact ⟨presets, (Except.ok.inj set).symm⟩
  obtain ⟨presets, rfl⟩ := fields
  refine ⟨⟨modifiers, ?_, noPost, ?_, slotBlock, rfl⟩, loader⟩
  · intro other same ref
    have same : settings.loader = some other := same
    rw [loader] at same
    obtain rfl := Option.some.inj same
    exact OnlyFails.find_table (fun _ _ _ => nofun) patterns ref
  · show settings.renderers.foldl _ _ = defaultRenderers
    rw [renderers]
    rfl

end Configuration

/-- With a limit that is one, a page is rendered if the handlers can be read. -/
theorem Settings.outcome_limitedTo (settings : Settings) {limit : Int} (positive : 1 ≤ limit) (page : Page) :
    (settings.limitedTo limit).outcome page = readHandlers settings.handlers >>= fun handlers =>
      ((Configuration.mk (settings.limitedTo limit) handlers (.ofInt limit)).render page).1 := by
  have limits : DepthLimit.ofValue (settings.limitedTo limit).maxDepth = .ok (.ofInt limit) :=
    DepthLimit.ofValue_int positive
  unfold outcome configure
  rw [limits, bind_assoc]
  rfl

/-- A component that is only a placeholder is transparent: with a limit that is one higher, an instance of it that fills
its slot becomes the same text as the content of the slot by itself, or fails in the same way. Presets, handlers, host
and sources may be any, and so may the modifiers as long as none of them fails as if components were nested too deep,
which those of the library never do. -/
theorem Settings.outcome_wrapping (settings : Settings) {patterns : List (String × PatternData)}
    (loader : settings.loader = some (.table patterns))
    (modifiers : settings.modifiers.OnlyFails Failure.NotForDepth)
    (noPost : settings.postProcessors = []) (renderers : settings.renderers = [])
    (slotBlock : settings.slotBlock = defaultSlotBlock)
    {pattern : Pattern} {holder : Block} {ref name : String} (wraps : pattern.Wraps holder name)
    (found : (PatternLoader.table patterns).find ref = .ok pattern) (nonempty : ref ≠ "")
    {limit : Int} (positive : 1 ≤ limit) (content : List Value) (given : Entries) (globals previews : Value) :
    (settings.limitedTo (limit + 1)).outcome ⟨.list [wrapping ref name content], .map given, globals, previews⟩ =
      (settings.limitedTo limit).outcome ⟨.list content, .map given, globals, previews⟩ := by
  rw [outcome_limitedTo settings (by omega), outcome_limitedTo settings positive]
  -- Neither the handlers nor the presets depend on the limit, so both pages fail for them or neither.
  refine bind_congr fun handlers => ?_
  unfold Configuration.render
  rw [Configuration.environment_limitedTo settings handlers (.ofInt limit),
    Configuration.environment_limitedTo settings handlers (.ofInt limit)]
  cases set : (Configuration.mk settings handlers (.ofInt limit)).environment with
  | error f => rfl
  | ok env =>
    obtain ⟨plain, table⟩ := Configuration.plain_environment modifiers loader noPost renderers slotBlock set
    have loaded : PatternCache.load env.loader ref = .ok (some pattern) := by
      rw [table]
      unfold PatternCache.load
      dsimp only
      rw [found]
    exact plain.render_wrapping wraps loaded nonempty positive content given globals previews

/-- A placeholder for the slot `body`. -/
def bodyPlaceholder : Block :=
  ⟨.text "slot-placeholder", [(.text "name", .text "body")], [], [], .tuple⟩

/-- A pattern that is nothing else. -/
def framePattern (id : String) : Pattern :=
  ⟨id, [bodyPlaceholder], []⟩

/-- The frame pattern wraps its placeholder in a body. -/
theorem wraps_framePattern (id : String) : (framePattern id).Wraps bodyPlaceholder "body" :=
  ⟨rfl, rfl, rfl, by cbv⟩

/-- A text block in a frame, and the text block by itself. -/
theorem outcome_wrapping_frame :
    ((Settings.ofPatterns [("frame", .built (framePattern "frame"))]).limitedTo 2).outcome
        ⟨.list [wrapping "frame" "body" [describing "text" [(.text "content", .text "Hello \x7bname\x7d")] []]],
          .map [(.text "name", .text "Ada")], .null, .null⟩ =
      ((Settings.ofPatterns [("frame", .built (framePattern "frame"))]).limitedTo 1).outcome
        ⟨.list [describing "text" [(.text "content", .text "Hello \x7bname\x7d")] []],
          .map [(.text "name", .text "Ada")], .null, .null⟩ := by
  have found : (PatternLoader.table [("frame", .built (framePattern "frame"))]).find "frame" =
      .ok (framePattern "frame") := by cbv
  have nonempty : "frame" ≠ "" := by decide
  have positive : (1 : Int) ≤ 1 := by decide
  exact Settings.outcome_wrapping (.ofPatterns [("frame", .built (framePattern "frame"))]) rfl
    builtinModifiersIn_onlyFails rfl rfl rfl (wraps_framePattern "frame") found nonempty positive _ _ _ _

/-- The empty reference asks for no pattern, so a frame that is listed under it does not show what is in it. -/
theorem outcome_wrapping_empty_reference :
    (framePattern "").Wraps bodyPlaceholder "body" ∧
      (PatternLoader.table [("", .built (framePattern ""))]).find "" = .ok (framePattern "") ∧
      ((Settings.ofPatterns [("", .built (framePattern ""))]).limitedTo 2).outcome
          ⟨.list [wrapping "" "body" [describing "text" [(.text "content", .text "x")] []]], .map [], .null, .null⟩ =
        .ok "" ∧
      ((Settings.ofPatterns [("", .built (framePattern ""))]).limitedTo 1).outcome
          ⟨.list [describing "text" [(.text "content", .text "x")] []], .map [], .null, .null⟩ = .ok "x" := by
  refine ⟨wraps_framePattern "", ?_, ?_, ?_⟩
  · cbv
  · cbv
  · cbv

end DynamicBlocks
