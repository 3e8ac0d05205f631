import DynamicBlocks.Proofs.Pages
import DynamicBlocks.Proofs.Requests

/-!
# Failures for depth

Going deeper than allowed is the one failure that a render makes by itself, and the component that went too deep
absorbs it at once. Nothing else fails in this way: expressions and requests for items fail as content does, and
loaders and modifiers if they are built as those of the library are. So no failure for depth ever leaves a render
without extensions.
-/

set_option autoImplicit false

namespace DynamicBlocks

open RenderM

/-- A failure of another kind than that components are nested too deep. -/
def Failure.NotForDepth (f : Failure) : Prop :=
  ∀ ref limit, f ≠ .renderDepth ref limit

instance : HasContent Failure.NotForDepth where
  forgiven f forgiven ref limit same := by
    rw [same] at forgiven
    cases forgiven
  missingMember _ _ same := nomatch same
  endless _ _ same := nomatch same

/-- What a render relies on so that it never fails for depth. -/
structure Environment.Calm (env : Environment) : Prop where
  modifiers : env.engine.modifiers.OnlyFails Failure.NotForDepth
  loader : ∀ loader, env.loader = some loader → ∀ ref, OnlyFails Failure.NotForDepth (loader.find ref)
  postProcessors : ∀ process ∈ env.postProcessors, ∀ text name, OnlyFails Failure.NotForDepth (process text name)
  renderers : ∀ name plan, env.renderers.lookup name ≠ some (.extension plan)

/-- An action that never fails for depth. -/
def NeverForDepth {α : Type} (action : RenderM α) : Prop :=
  ∀ s, OnlyFails Failure.NotForDepth (action s).1

namespace NeverForDepth

variable {α β : Type} {env : Environment}

/-- An outcome never fails for depth if none of its failures is for depth. -/
theorem ofExcept {outcome : Except Failure α} (h : OnlyFails Failure.NotForDepth outcome) :
    NeverForDepth (RenderM.ofExcept outcome) := fun _ => h

/-- A value never fails. -/
theorem pure (x : α) : NeverForDepth (Pure.pure x : RenderM α) := fun _ => .ok x

/-- Actions one after the other never fail for depth if neither does. -/
theorem bind {action : RenderM α} {next : α → RenderM β} (first : NeverForDepth action)
    (second : ∀ x, NeverForDepth (next x)) : NeverForDepth (action >>= next) := by
  intro s
  have fails := first s
  rcases done : action s with ⟨outcome, t⟩
  rw [done] at fails
  cases outcome with
  | error f =>
    rw [bind_of_error done]
    exact .error (fails f rfl)
  | ok x =>
    rw [bind_of_ok done]
    exact second x t

/-- Requests for items never fail for depth. -/
theorem ofLoops {service : LoopService} {action : LoopM α} (h : Asking service Failure.NotForDepth action) :
    NeverForDepth (RenderM.ofLoops action) := fun s => h.onlyFails s.loops

/-- Requests for patterns never fail for depth if the loader does not. -/
theorem findPattern (calm : env.Calm) (ref : Value) : NeverForDepth (RenderM.findPattern env ref) := by
  intro s
  have loaded (ref : String) : OnlyFails Failure.NotForDepth (PatternCache.load env.loader ref) := by
    unfold PatternCache.load
    cases there : env.loader with
    | none => exact .ok _
    | some loader =>
      have fails := calm.loader loader there ref
      dsimp only
      split
      · exact .ok _
      · exact .ok _
      · rename_i f _ failed
        exact .error (fails f failed)
  show OnlyFails Failure.NotForDepth (s.patterns.get env.loader ref).1
  unfold PatternCache.get
  split
  · exact .ok _
  · unfold PatternCache.find
    split
    · exact .ok _
    · have fails := loaded ref.plain
      split
      · exact .ok _
      · rename_i f failed
        exact .error (fails f failed)

/-- Texts are processed without a failure for depth. -/
theorem postProcess (calm : env.Calm) (block : Block) (text : String) :
    NeverForDepth (RenderM.postProcess env block text) :=
  ofExcept (.foldlM (fun process there text => calm.postProcessors process there text block.name.plain) text)

/-- A failure for depth that is absorbed is none. -/
theorem absorbDepth (action : RenderM (Option String)) : NeverForDepth (RenderM.absorbDepth action) := by
  intro s f failed ref limit same
  rw [same] at failed
  unfold RenderM.absorbDepth at failed
  split at failed
  · cases failed
  · rename_i other
    rcases done : action s with ⟨outcome, t⟩
    rw [done] at failed
    have failed : outcome = .error (.renderDepth ref limit) := failed
    exact other ref limit t (by rw [done, failed])

/-- Nothing is absorbed of what does not fail for depth. -/
theorem absorbDepth_eq {action : RenderM (Option String)} {s : Session}
    (h : OnlyFails Failure.NotForDepth (action s).1) : RenderM.absorbDepth action s = action s := by
  unfold RenderM.absorbDepth
  split
  · rename_i ref limit after done
    rw [done] at h
    exact absurd rfl (h _ rfl ref limit)
  · rfl

/-- An action that never fails for depth does not either inside other surroundings. -/
theorem inside {action : RenderM α} (h : NeverForDepth action) (change : Surroundings → Surroundings) :
    NeverForDepth (RenderM.inside change action) := fun s => h (s.surround (change s.toSurroundings))

/-! ## Every kind of block -/

/-- A text never fails for depth. -/
theorem renderText (calm : env.Calm) (block : Block) : NeverForDepth (RenderM.renderText env block) := by
  have sources : NeverForDepth (RenderM.sourcesOf block) := fun _ => .ok _
  unfold RenderM.renderText
  split
  · exact pure ""
  · exact sources.bind fun _ => (ofExcept (.substituteWith _ calm.modifiers _ _)).bind fun text =>
      postProcess calm block text

/-- Neither do the attributes of an element. -/
theorem elementAttributes (calm : env.Calm) (sources : List Source) (attributes : Value) :
    OnlyFails Failure.NotForDepth (env.elementAttributes sources attributes) := by
  have evaluated (entry : Value × Value) : OnlyFails Failure.NotForDepth (env.elementAttribute sources entry) := by
    unfold Environment.elementAttribute
    split
    · split
      · exact .ok _
      · refine (OnlyFails.resolveContent calm.modifiers sources _).bind fun v => ?_
        unfold Environment.attributeText
        split
        · exact .ok _
        · exact .ok _
        · exact .ok _
        · exact (OnlyFails.display _).bind fun _ => .ok _
    · exact .ok _
  unfold Environment.elementAttributes
  split
  · exact (OnlyFails.asEntries _).bind fun entries => (OnlyFails.mapM evaluated entries).bind fun _ => .ok _
  · exact (OnlyFails.mapM evaluated []).bind fun _ => .ok _

/-- An element never fails for depth if the blocks inside it do not. -/
theorem renderElement (calm : env.Calm) (block : Block) {inner : RenderM String} (h : NeverForDepth inner) :
    NeverForDepth (RenderM.renderElement env block inner) := by
  have sources : NeverForDepth (RenderM.sourcesOf block) := fun _ => .ok _
  refine sources.bind fun _ => (ofExcept (elementAttributes calm _ _)).bind fun _ => ?_
  dsimp only
  split
  · exact postProcess calm block _
  · exact h.bind fun _ => postProcess calm block _

/-- What a loop goes over is found without a failure for depth. -/
theorem loopData (calm : env.Calm) (block : Block) (sources : List Source) :
    NeverForDepth (RenderM.loopData env block sources) := by
  unfold RenderM.loopData
  split
  · exact (ofLoops (Engine.asking_targetItems calm.modifiers sources _)).bind fun _ => pure _
  · refine (ofExcept (Engine.onlyFails_givenParams calm.modifiers sources _)).bind fun params =>
      (ofLoops (Asking.items _ params)).bind fun _ => ?_
    split
    · exact pure _
    · exact ofExcept (Engine.onlyFails_modifiedItems calm.modifiers sources _ _)

/-- The items of a loop: an induction on the items. -/
theorem renderItems (block : Block) {inner : RenderM String} (restores : Restores inner) (h : NeverForDepth inner)
    (index : Nat) (items : List Value) : NeverForDepth (RenderM.renderItems block inner index items) := by
  induction items generalizing index with
  | nil => exact pure ""
  | cons item items ih =>
    unfold RenderM.renderItems
    rw [restores.withPushed_eq]
    exact (h.inside _).bind fun _ => (ih (index + 1)).bind fun _ => pure _

/-- A loop never fails for depth if the blocks inside it do not. -/
theorem renderLoop (calm : env.Calm) (block : Block) {inner : RenderM String} (restores : Restores inner)
    (h : NeverForDepth inner) : NeverForDepth (RenderM.renderLoop env block inner) := by
  have sources : NeverForDepth (RenderM.sourcesOf block) := fun _ => .ok _
  exact sources.bind fun _ => (loopData calm block _).bind fun _ => (ofExcept (.seriesOrNone _)).bind fun items =>
    renderItems block restores h 0 items

/-- An attribute of an instance, evaluated. -/
theorem instanceAttribute (calm : env.Calm) (sources : List Source) (entry : Value × Value) :
    OnlyFails Failure.NotForDepth (match entry.1 with
      | .text key => do
        let v ← env.resolveContent sources entry.2
        Pure.pure (some (key, v))
      | _ => Pure.pure none) := by
  split
  · exact (OnlyFails.resolveContent calm.modifiers sources _).bind fun _ => .ok _
  · exact .ok _

/-- The props of an instance are made without a failure for depth. -/
theorem propsOf (calm : env.Calm) (block : Block) (pattern : Pattern) :
    NeverForDepth (RenderM.propsOf env block pattern) := by
  have sources : NeverForDepth (RenderM.sourcesOf block) := fun _ => .ok _
  have attributes (sources : List Source) :
      OnlyFails Failure.NotForDepth (env.instanceAttributes sources block) := by
    have evaluated := instanceAttribute calm sources
    unfold Environment.instanceAttributes
    dsimp only
    split
    · exact (OnlyFails.asEntries _).bind fun entries => (OnlyFails.mapM evaluated entries).bind fun _ => .ok _
    · exact (OnlyFails.mapM evaluated []).bind fun _ => .ok _
  exact sources.bind fun _ => (ofExcept (attributes _)).bind fun _ =>
    ofLoops (PropScope.asking_properties calm.modifiers rfl _ _)

/-- A component, whatever becomes of its body. -/
theorem renderComponent (calm : env.Calm) (place : Place) (block : Block)
    (body : String → List Block → RenderM String) : NeverForDepth (RenderM.renderComponent env place block body) := by
  have warned (warning : String) : NeverForDepth (RenderM.warn warning) := fun _ => .ok _
  have frame : NeverForDepth (frameOf env place block) := fun _ => .ok _
  unfold RenderM.renderComponent
  split
  · exact pure ""
  · refine (findPattern calm block.ref).bind fun found => ?_
    cases found with
    | none => exact (warned _).bind fun _ => pure ""
    | some pattern =>
      dsimp only
      split
      · exact pure ""
      · -- The body is entered where failures for depth are absorbed, so it may fail in any way.
        refine (propsOf calm block pattern).bind fun _ => frame.bind fun _ => (absorbDepth _).bind fun rendered => ?_
        cases rendered with
        | none => exact pure ""
        | some text => exact postProcess calm block text

/-- A placeholder never fails for depth if the contents of slots do not. -/
theorem renderPlaceholder (block : Block) {fill : SlotContent → RenderM String}
    (restores : ∀ content, Restores (fill content)) (h : ∀ content, NeverForDepth (fill content)) :
    NeverForDepth (RenderM.renderPlaceholder env block fill) := by
  intro s
  cases named : block.slotName? with
  | none =>
    unfold RenderM.renderPlaceholder
    rw [named]
    exact .ok ""
  | some name =>
    rw [renderPlaceholder_apply named]
    split
    · exact .ok ""
    · rename_i frame content _
      have entered := (h content).inside (·.inSlot frame name) s
      rw [renderFilled_eq (restores content)]
      dsimp only
      split
      · exact entered
      · exact .ok ""
      · exact entered

/-- Without extensions no kind of block fails for depth if what is inside it does not. -/
theorem keptByBlocks (calm : env.Calm) :
    KeptByBlocks env env (fun _ _ => True) (fun _ action _ => Restores action ∧ NeverForDepth action) where
  weaken _ h := h
  renderers := rfl
  child _ _ := trivial
  body _ := trivial
  nothing _ := ⟨.pure "", pure ""⟩
  unnamed _ := ⟨.throw .wrongType, ofExcept (.error (HasForgiven.forgiven _ rfl))⟩
  endless := ⟨.throw .endless, ofExcept (.error HasContent.endless)⟩
  append first rest := ⟨first.1.bind fun _ => rest.1.bind fun _ => .pure _,
    first.2.bind fun _ => rest.2.bind fun _ => pure _⟩
  text _ block := ⟨.renderText env block, renderText calm block⟩
  element block _ _ h := ⟨.renderElement env block h.1, renderElement calm block h.2⟩
  loop block _ _ h := ⟨.renderLoop env block h.1, renderLoop calm block h.1 h.2⟩
  component block _ _ body _ h :=
    ⟨.renderComponent env _ block fun ref blocks => (h ref blocks).1, renderComponent calm _ block body⟩
  placeholder _ block _ _ h :=
    ⟨.renderPlaceholder env block fun content => (h content.place .page _).1,
      renderPlaceholder block (fun content => (h content.place .page _).1) fun content => (h content.place .page _).2⟩
  extension name plan _ _ _ _ _ registered _ := absurd registered (calm.renderers name plan)

/-- A render with its counts never fails for depth, for a component absorbs the failure of what it contains. -/
theorem renderAt (calm : env.Calm) (levels frames : Nat) (place : Place) (blocks : List Block) :
    NeverForDepth (RenderM.renderAt env levels frames place blocks) :=
  ((keptByBlocks calm).renderAt levels frames place place blocks).2

end NeverForDepth

/-! ## Pages -/

namespace OnlyFails

variable {p : Failure → Prop} [HasContent p]

/-- A source is registered unless its name cannot be a key. -/
theorem enqueue (registry : Registry) (key value : Value) : OnlyFails p (registry.enqueue key value) := by
  unfold Registry.enqueue
  split
  · exact .ok _
  · split
    · exact .error (lacks _ _)
    · exact .ok _

/-- Sources are registered one after the other, unless there is nothing to go through. -/
theorem enqueueAll {enqueue : Provider → Value → Value → Except Failure Provider}
    (each : ∀ provider key value, OnlyFails p (enqueue provider key value)) (provider : Provider) (v : Value) :
    OnlyFails p (provider.enqueueAll enqueue v) := by
  unfold Provider.enqueueAll
  split
  · exact (asEntries v).bind fun _ => .foldlM (fun _ _ _ => each _ _ _) _
  · exact .ok _

/-- Entries are made of initial sources, unless these are something else. -/
theorem ofInitials (sources : Value) : OnlyFails p (Entry.ofInitials sources) := by
  unfold Entry.ofInitials
  split
  · exact .ok _
  · exact (seriesOrNone sources).bind fun _ => .ok _

end OnlyFails

namespace NeverForDepth

variable {env : Environment}

/-- A change of the context never fails for depth if its outcome does not. -/
theorem changeContext {change : Provider → Except Failure Provider}
    (fails : ∀ provider, OnlyFails Failure.NotForDepth (change provider)) :
    NeverForDepth (RenderM.changeContext change) := by
  intro s
  unfold RenderM.changeContext
  cases done : change s.context with
  | ok context => exact .ok ()
  | error f => exact .error (fails s.context f done)

/-- Registering sources never fails for depth. -/
theorem registering (globals previews : Value) : NeverForDepth (DynamicBlocks.registering globals previews) := by
  have added (provider : Provider) (key value : Value) :
      OnlyFails Failure.NotForDepth (provider.enqueue key value) :=
    (OnlyFails.enqueue _ key value).bind fun _ => .ok _
  have previewed (provider : Provider) (key value : Value) :
      OnlyFails Failure.NotForDepth (provider.enqueuePreview key value) :=
    (OnlyFails.enqueue _ key value).bind fun _ => .ok _
  exact (changeContext (.enqueueAll added · globals)).bind fun _ =>
    changeContext (.enqueueAll previewed · previews)

/-- Blocks never fail for depth. -/
theorem renderBlocks (calm : env.Calm) (place : Place) (blocks : List Block) :
    NeverForDepth (RenderM.renderBlocks env place blocks) := by
  intro s
  rw [renderBlocks_apply]
  exact renderAt calm _ _ place blocks s

/-- A page never fails for depth. -/
theorem renderPage (calm : env.Calm) (blocks sources : Value) :
    NeverForDepth (RenderM.renderPage env blocks sources) := by
  rw [renderPage_eq]
  exact ((ofExcept (.ofInitials sources)).bind fun _ => ((ofExcept (.ofSeries blocks)).bind fun blocks =>
    renderBlocks calm .page blocks).inside _).inside _

end NeverForDepth

/-- No failure for depth comes out of the render of a page. -/
theorem Environment.Calm.onlyFails_render {env : Environment} (calm : env.Calm) (page : Page) :
    OnlyFails Failure.NotForDepth (env.render page).1 := by
  rw [render_eq_registering]
  exact (NeverForDepth.registering page.globals page.previews).bind
    (fun _ => NeverForDepth.renderPage calm page.blocks page.sources) _

/-! ## Instances -/

section

variable {env : Environment} {body : RenderM String} {place : Place} {block : Block} {pattern : Pattern}
  {props : List (String × Value)} {s t : Session}

/-- An instance that is too deep leaves a warning and no text. -/
theorem renderInstance_of_reached (restores : Restores body) (given : propsOf env block pattern s = (.ok props, t))
    (reached : env.maxDepth.isReached t.depth = true) :
    renderInstance env place block pattern body s =
      (.ok "", { t with toMemory := t.toMemory.warn (tooDeep env block.ref).compact }) := by
  have framed : frameOf env place block t = (.ok (t.frameFor env place block), t) := rfl
  unfold renderInstance
  rw [bind_of_ok given, bind_of_ok framed, bind_of_ok (renderBody_of_reached restores reached _ _ _)]
  rfl

/-- Any other instance becomes what its body does, if nothing is done to the text afterwards. -/
theorem renderInstance_of_not_reached (noPost : env.postProcessors = []) (restores : Restores body)
    (never : NeverForDepth body) (given : propsOf env block pattern s = (.ok props, t))
    (free : env.maxDepth.isReached t.depth = false) :
    renderInstance env place block pattern body s =
      RenderM.inside (·.inBody (t.frameFor env place block) props) body t := by
  have framed : frameOf env place block t = (.ok (t.frameFor env place block), t) := rfl
  rcases done : RenderM.inside (·.inBody (t.frameFor env place block) props) body t with ⟨outcome, after⟩
  have entered : renderBody env block.ref (t.frameFor env place block) props body t = (outcome.map some, after) := by
    have unabsorbed := (never.inside (·.inBody (t.frameFor env place block) props) t).map some
    rw [renderBody_of_not_reached restores free, NeverForDepth.absorbDepth_eq (by rw [map_apply]; exact unabsorbed),
      map_apply, done]
  unfold renderInstance
  rw [bind_of_ok given, bind_of_ok framed]
  cases outcome with
  | error f => rw [bind_of_error entered]
  | ok text =>
    rw [bind_of_ok entered]
    unfold postProcess
    rw [noPost]
    rfl

end

end DynamicBlocks
