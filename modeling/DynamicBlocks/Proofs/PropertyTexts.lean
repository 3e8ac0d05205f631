import DynamicBlocks.Proofs.DepthFailures
import DynamicBlocks.Proofs.ForwardedLoops
import DynamicBlocks.Proofs.ShownTemplates
import Mathlib

/-!
# Text that goes through a property

A component whose pattern shows one property of type string does nothing to a text that is given for the property. The
template that is given is resolved where the instance stands, its value is made a text, and the body looks the text up
and makes it a text once more. The text block with the template for its content makes its value a text at once.

So it all comes down to two facts. A template resolved and then made a text is the template substituted
(`resolveContent_display`), and a text is a text already. The exception is a pair of braces with nothing but blanks
between (`HoldsMore`).
-/

set_option autoImplicit false

namespace DynamicBlocks

open RenderM Text

/-! ## A property of type string -/

/-- Cast to a string, a value is its text. -/
theorem cast_string (v : Value) : v.cast .string = .text <$> v.display := by
  unfold Value.cast
  split
  · rename_i empty
    rcases Bool.or_eq_true_iff.mp empty with null | blank
    · cases v with
      | null => rfl
      | _ => cases null
    · cases v with
      | text s =>
        obtain rfl : s = "" := by simpa [Value.isEmptyText] using blank
        rfl
      | _ => cases blank
  · rfl

/-- A property that is a string, and nothing by default. -/
structure PropDefinition.IsText (definition : PropDefinition) : Prop where
  primitive : definition.primitive = .string
  single : definition.isLoop = false
  noDefault : definition.default = .null

/-- Where one property is declared, which is a string, it is the text of what is given. -/
theorem PropScope.properties_text {definition : PropDefinition} (text : definition.IsText) (scope : PropScope)
    (given : Value) (s : LoopState) :
    scope.properties [definition] [(definition.key, given)] s =
      ((fun text => [(definition.key, .text text)]) <$> given.display, s) := by
  have value (v : Value) : scope.propValue definition v = DynamicBlocks.ofExcept (.text <$> v.display) := by
    unfold PropScope.propValue
    rw [text.single, text.primitive, cast_string]
    rfl
  have default : scope.defaultValue definition = pure (.text "") := by
    unfold PropScope.defaultValue
    rw [text.noDefault]
    show (scope.propValue definition .null : LoopM Value) = _
    rw [value]
    rfl
  have declared : PropScope.lastOfKey [definition] = [definition] := rfl
  have found : [definition].find? (fun other => other.key = definition.key) = some definition := by simp
  have set (v w : Value) : PropScope.setProp [(definition.key, v)] definition.key w = [(definition.key, w)] := by
    simp [PropScope.setProp]
  unfold PropScope.properties
  rw [declared]
  unfold PropScope.defaults PropScope.setGiven
  rw [default, found, PropScope.defaults, pure_bind, pure_bind, pure_bind]
  dsimp only
  rw [value]
  split
  · rename_i null
    cases given with
    | null => rfl
    | _ => cases null
  · simp only [set, PropScope.setGiven]
    cases given.display <;> rfl

/-! ## A component that shows a property -/

/-- A pattern with one block of text, which shows the only property there is. -/
structure Pattern.ShowsText (pattern : Pattern) (env : Environment) (definition : PropDefinition) (shown : Block) :
    Prop where
  blocks : pattern.blocks = [shown]
  props : pattern.props = [definition]
  text : definition.IsText
  renderer : env.rendererFor shown.name = .ok (some .text)
  content : Entries.field shown.attrs "content" = .text ("\x7b" ++ propText definition.key ++ "\x7d")
  noContext : shown.context = []

/-- An instance that is given one attribute. -/
def Block.GivesOnly (block : Block) (key text : String) : Prop :=
  Entries.field block.attrs "attributes" = .map [(.text key, .text text)]

section

variable {env : Environment}

/-- Substituting is making values text, where nothing is escaped. -/
theorem substitute_eq (noEscape : env.autoescape = false) (sources : List Source) (s : String) :
    env.substitute sources s = substitute env.engine.modifiers sources s := by
  unfold Environment.substitute
  rw [noEscape]
  rfl

/-- What a text block becomes where nothing is done to texts. -/
theorem renderText_fst (noEscape : env.autoescape = false) (noPost : env.postProcessors = []) {block : Block}
    {content : String} (given : Entries.field block.attrs "content" = .text content) (s : Session) :
    (renderText env block s).1 = substitute env.engine.modifiers (s.context.sources block.context) content := by
  have read : sourcesOf block s = (.ok (s.context.sources block.context), s) := rfl
  have shown : block.content? = if content = "" then none else some content := by
    unfold Block.content?
    rw [given]
  have asIs (text : String) : postProcess env block text = pure text := by
    unfold postProcess
    rw [noPost]
    rfl
  unfold renderText
  rw [shown]
  split
  · rename_i empty
    rw [empty]
    rfl
  · dsimp only
    rw [bind_of_ok read, substitute_eq noEscape]
    simp only [asIs]
    cases substitute env.engine.modifiers (s.context.sources block.context) content <;> rfl

/-- The properties of an instance that is given a template for a property of type string. -/
theorem propsOf_text {pattern : Pattern} {definition : PropDefinition} (declared : pattern.props = [definition])
    (text : definition.IsText) {block : Block} {content : String} (gives : block.GivesOnly definition.key content)
    (more : HoldsMore content) (s : Session) :
    propsOf env block pattern s =
      ((fun text => [(definition.key, .text text)]) <$>
        substitute env.engine.modifiers (s.context.sources block.context) content, s) := by
  have attributes : env.instanceAttributes (s.context.sources block.context) block =
      (fun v => [(definition.key, v)]) <$> env.resolveContent (s.context.sources block.context) (.text content) := by
    have truthy : (Value.map [(.text definition.key, .text content)]).isTruthy = true := rfl
    have entries : (Value.map [(.text definition.key, .text content)]).asEntries =
        pure [(.text definition.key, .text content)] := rfl
    unfold Environment.instanceAttributes
    dsimp only
    rw [gives, truthy, if_pos rfl, entries, pure_bind, List.mapM_cons, List.mapM_nil]
    dsimp only
    cases env.resolveContent (s.context.sources block.context) (.text content) <;> rfl
  have same := resolveContent_display more env.engine.modifiers (s.context.sources block.context)
  rw [propsOf_apply, attributes, declared, ← same]
  show _ = ((fun text => [(definition.key, Value.text text)]) <$>
    (env.resolveContent (s.context.sources block.context) (.text content) >>= Value.display), s)
  cases env.resolveContent (s.context.sources block.context) (.text content) with
  | error f => rfl
  | ok v =>
    show RenderM.ofLoops ((env.propScope (s.context.sources block.context)).properties [definition]
      [(definition.key, v)]) s = _
    unfold RenderM.ofLoops
    rw [PropScope.properties_text text]
    rfl

/-- In a body a property that is a text comes to that text. -/
theorem hasProp_inBody {a : Surroundings}
    (free : ∀ entry ∈ a.context.preview.entries, entry.key.same (.text "props") = false) {key : String}
    (keyed : isKey key.toList = true) (frame : SlotFrame) (text : String) (context : Entries) :
    HasProp ((a.inBody frame [(key, .text text)]).context.sources context) key (.text text) := by
  have unmarked : Entries.isLoop [(.text key, .text text)] = false := by
    have other : key ≠ "prop-type" := by
      rintro rfl
      exact absurd keyed (by decide)
    have named : (Value.text key).agrees (.text "prop-type") = false := by
      simp [Value.agrees, Value.same, Value.sharesOrigin, other]
    unfold Entries.isLoop Entries.field? Entries.get?
    rw [List.find?_cons, named]
    rfl
  have there : (Value.ofFields [(key, .text text)]).lookup? key = some (.text text) :=
    lookup?_ofFields List.lookup_cons_self
  exact ⟨_, Surroundings.findSource?_inBody free frame _ context, unmarked, there⟩

/-- An instance becomes what its body does, if the body comes to a text. -/
theorem renderInstance_fst (noPost : env.postProcessors = []) {place : Place} {block : Block} {pattern : Pattern}
    {body : RenderM String} (restores : Restores body) {props : List (String × Value)} {s : Session}
    (made : propsOf env block pattern s = (.ok props, s)) (shallow : env.maxDepth.isReached s.depth = false)
    {text : String} (came : (RenderM.inside (·.inBody (s.frameFor env place block) props) body s).1 = .ok text) :
    (renderInstance env place block pattern body s).1 = .ok text := by
  have framed : frameOf env place block s = (.ok (s.frameFor env place block), s) := rfl
  rcases done : RenderM.inside (·.inBody (s.frameFor env place block) props) body s with ⟨outcome, after⟩
  rw [done] at came
  obtain rfl : outcome = .ok text := came
  have entered : renderBody env block.ref (s.frameFor env place block) props body s = (.ok (some text), after) := by
    have mapped : (some <$> RenderM.inside (·.inBody (s.frameFor env place block) props) body) s =
        (.ok (some text), after) := by
      rw [map_apply, done]
      rfl
    rw [renderBody_of_not_reached restores shallow]
    unfold absorbDepth
    rw [mapped]
  unfold renderInstance
  rw [bind_of_ok made, bind_of_ok framed, bind_of_ok entered]
  unfold postProcess
  rw [noPost]
  rfl

/-- The body of a pattern that shows a property becomes the text that the property is. -/
theorem renderBodyAt_shown (noEscape : env.autoescape = false) (noPost : env.postProcessors = [])
    {pattern : Pattern} {definition : PropDefinition} {shown : Block} (shows : pattern.ShowsText env definition shown)
    (keyed : isKey definition.key.toList = true) (levels frames : Nat) (ref : String) (s : Session)
    (free : ∀ entry ∈ s.context.preview.entries, entry.key.same (.text "props") = false) (frame : SlotFrame)
    (text : String) :
    (renderBodyAt env (levels + 1) frames ref pattern.blocks
      (s.surround (s.inBody frame [(definition.key, .text text)]))).1 = .ok text := by
  have evaluated := (hasProp_inBody free keyed frame text shown.context).evaluate_propText keyed env.engine.modifiers
  have solid : (propText definition.key).toList.all isBlank = false := by
    rw [toList_propText]
    rfl
  rw [shows.blocks]
  show (renderFrom env _ (.body ref) 0 [shown] _).1 = _
  rw [renderFrom_singleton, renderBlock_eq]
  unfold renderNamed
  rw [shows.renderer, ofExcept_ok_bind]
  show (renderText env shown _).1 = _
  rw [renderText_fst noEscape noPost shows.content]
  unfold substitute substituteWith
  rw [fillTemplate_of_standalone? (standalone?_braced keyed) solid, String.ofList_toList]
  show (do
    let v ← evaluate env.engine.modifiers
      ((s.inBody frame [(definition.key, .text text)]).context.sources shown.context) (propText definition.key)
    let text ← v.display
    pure (id text)) = _
  rw [evaluated]
  rfl

/-- There is a level left where it is not too deep. -/
theorem DepthLimit.exists_levelsFrom {limit : DepthLimit} {depth : Int} (shallow : limit.isReached depth = false) :
    ∃ levels, limit.levelsFrom depth = levels + 1 := by
  obtain ⟨given, bound⟩ := limit
  cases bound with
  | none => exact ⟨999999, rfl⟩
  | some bound =>
    have deep : ¬bound ≤ depth := of_decide_eq_false shallow
    refine ⟨(bound - depth - 1).toNat, ?_⟩
    show (bound - depth).toNat = _
    omega

end

/-- Properties cross the boundary of a component unchanged: where nothing is escaped or done to texts afterwards, and
no preview is named `props`, an instance of a pattern that shows a property of type string, given a template for it,
becomes just what a text block with the template for its content becomes in its place, or fails in the same way. -/
theorem renderComponentHere_eq_renderText (env : Environment) (noEscape : env.autoescape = false)
    (noPost : env.postProcessors = []) {pattern : Pattern} {definition : PropDefinition} {shown : Block}
    (shows : pattern.ShowsText env definition shown) (keyed : isKey definition.key.toList = true) {template : String}
    (more : HoldsMore template) {block text : Block} (gives : block.GivesOnly definition.key template)
    (content : Entries.field text.attrs "content" = .text template) (sameContext : text.context = block.context)
    (place : Place) {s : Session} (found : (RenderM.findPattern env block.ref s).1 = .ok (some pattern))
    (shallow : env.maxDepth.isReached s.depth = false)
    (free : ∀ entry ∈ s.context.preview.entries, entry.key.same (.text "props") = false) :
    (renderComponentHere env place block s).1 = (renderText env text s).1 := by
  have seen : (get : RenderM Session) s = (.ok s, s) := rfl
  have asks : PatternCache.asksNothing block.ref = false := by
    rw [← Bool.not_eq_true]
    intro nothing
    have answer : (RenderM.findPattern env block.ref s).1 = (s.patterns.get env.loader block.ref).1 := rfl
    unfold PatternCache.get at answer
    rw [if_pos nothing, found] at answer
    cases answer
  rcases answered : RenderM.findPattern env block.ref s with ⟨outcome, t⟩
  obtain rfl : { s with patterns := (s.patterns.get env.loader block.ref).2 } = t := (Prod.mk.inj answered).2
  rw [answered] at found
  obtain rfl : outcome = .ok (some pattern) := found
  obtain ⟨levels, left⟩ := DepthLimit.exists_levelsFrom shallow
  have left : levelsLeft env s = levels + 1 := left
  have filled : pattern.blocks.isEmpty = false := by
    rw [shows.blocks]
    rfl
  have made : propsOf env block pattern { s with patterns := (s.patterns.get env.loader block.ref).2 } = _ :=
    propsOf_text shows.props shows.text gives more _
  unfold renderComponentHere
  rw [bind_of_ok seen]
  unfold renderComponent
  rw [asks, if_neg Bool.false_ne_true, bind_of_ok answered]
  dsimp only
  rw [filled, if_neg Bool.false_ne_true, left, renderText_fst noEscape noPost content, sameContext]
  cases substituted : substitute env.engine.modifiers (s.context.sources block.context) template with
  | error f =>
    rw [substituted] at made
    unfold renderInstance
    rw [bind_of_error made]
  | ok t =>
    rw [substituted] at made
    have restores : Restores (renderBodyAt env (levels + 1) (s.frames.length + 1) block.ref.plain pattern.blocks) :=
      (Restores.keptByBlocks env).renderBodyAt _ _ _ _
    refine renderInstance_fst noPost restores made shallow ?_
    exact renderBodyAt_shown noEscape noPost shows keyed levels _ _
      { s with patterns := (s.patterns.get env.loader block.ref).2 } free _ t

/-! ## A caption -/

/-- A text that shows the property `caption`. -/
def captionText : Block :=
  ⟨.text "text", [(.text "content", .text "\x7bprops.caption\x7d")], [], [], .tuple⟩

/-- A pattern of that text, which declares the property. -/
def captionPattern : Pattern :=
  ⟨"caption", [captionText], [⟨"caption", .string, .null, .null⟩]⟩

/-- An instance whose caption is a template. -/
def captionInstance : Block :=
  ⟨.text "component", [(.text "ref", .text "caption"),
    (.text "attributes", .map [(.text "caption", .text "About \x7bitem\x7d")])], [], [], .tuple⟩

/-- The text that stands for the instance. -/
def captionInPlace : Block :=
  ⟨.text "text", [(.text "content", .text "About \x7bitem\x7d")], [], [], .tuple⟩

/-- An environment with that pattern, where nothing is escaped. -/
def captionEnvironment : Environment :=
  { Environment.ofPatterns [("caption", .built captionPattern)] with autoescape := false }

/-- An instance in a loop, and the text in its place. -/
theorem renderComponentHere_eq_renderText_caption :
    (renderComponentHere captionEnvironment .page captionInstance
        ((Session.start .silent).withStack ⟨[.ofLocal (.text "item") (.text "a & b")]⟩)).1 =
      (renderText captionEnvironment captionInPlace
        ((Session.start .silent).withStack ⟨[.ofLocal (.text "item") (.text "a & b")]⟩)).1 := by
  have found : (RenderM.findPattern captionEnvironment captionInstance.ref
      ((Session.start .silent).withStack ⟨[.ofLocal (.text "item") (.text "a & b")]⟩)).1 =
        .ok (some captionPattern) := by cbv
  have renderer : captionEnvironment.rendererFor captionText.name = .ok (some .text) := by cbv
  have content : Entries.field captionText.attrs "content" = .text ("\x7b" ++ propText "caption" ++ "\x7d") := by cbv
  have shows : captionPattern.ShowsText captionEnvironment ⟨"caption", .string, .null, .null⟩ captionText :=
    ⟨rfl, rfl, ⟨rfl, by cbv, rfl⟩, renderer, content, rfl⟩
  have gives : captionInstance.GivesOnly "caption" "About \x7bitem\x7d" := by
    unfold Block.GivesOnly
    cbv
  have given : Entries.field captionInPlace.attrs "content" = .text "About \x7bitem\x7d" := by cbv
  have context : captionInPlace.context = captionInstance.context := rfl
  have more : HoldsMore "About \x7bitem\x7d" := by
    intro blanks _ _ same
    exact absurd (List.cons.inj same).1 (by decide)
  exact renderComponentHere_eq_renderText captionEnvironment rfl rfl shows (by decide) more gives given context
    .page found rfl (fun entry there => absurd there List.not_mem_nil)

end DynamicBlocks
