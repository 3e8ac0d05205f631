import DynamicBlocks.Proofs.RenderInduction

/-!
# What a render leaves behind

A render opens scopes within scopes: entries are pushed, the live stack is replaced, components are entered,
frames are put on top or hidden, slots are marked. Each scope takes back by itself what it changed, by popping or
by putting back, and that comes to the surroundings it was opened in only if everything inside did the same.

The main result is that every render does: whatever the tree, the patterns and the sources are, and whether it
succeeds or fails at any point inside, the session is left in the surroundings it was found in. On the way each
scope is shown to be the action inside in changed surroundings (`inside`), which is all that later proofs need
to know about scopes.
-/

set_option autoImplicit false

namespace DynamicBlocks

open RenderM

/-- An action that leaves the session in the surroundings it found it in, whether it succeeds or fails. -/
def Restores {α : Type} (action : RenderM α) : Prop :=
  ∀ s, (action s).2.toSurroundings = s.toSurroundings

/-- An action in changed surroundings. Afterwards the surroundings are those of before. -/
def RenderM.inside {α : Type} (change : Surroundings → Surroundings) (action : RenderM α) : RenderM α := fun s =>
  let (outcome, after) := action (s.surround (change s.toSurroundings))
  (outcome, after.surround s.toSurroundings)

namespace Restores

variable {α β : Type}

/-! ## Actions without scopes -/

/-- A value changes no surroundings. -/
theorem pure (x : α) : Restores (Pure.pure x : RenderM α) := fun _ => rfl

/-- Neither does a failure. -/
theorem throw (f : Failure) : Restores (MonadExcept.throw f : RenderM α) := fun _ => rfl

/-- Neither does looking at the session. -/
theorem get : Restores (MonadState.get : RenderM Session) := fun _ => rfl

/-- Actions one after the other restore the surroundings if each of them does. -/
theorem bind {action : RenderM α} {next : α → RenderM β} (first : Restores action)
    (second : ∀ x, Restores (next x)) : Restores (action >>= next) := by
  intro s
  have kept := first s
  rcases done : action s with ⟨outcome, t⟩
  rw [done] at kept
  cases outcome with
  | error f =>
    rw [bind_of_error done]
    exact kept
  | ok x =>
    rw [bind_of_ok done]
    exact (second x t).trans kept

/-- An outcome changes no surroundings. -/
theorem ofExcept (outcome : Except Failure α) : Restores (RenderM.ofExcept outcome) := fun _ => rfl

/-- Finding items changes what is remembered only. -/
theorem ofLoops (action : LoopM α) : Restores (RenderM.ofLoops action) := fun _ => rfl

/-- Finding a pattern changes what is remembered only. -/
theorem findPattern (env : Environment) (ref : Value) : Restores (RenderM.findPattern env ref) := fun _ => rfl

/-- A warning changes the memory only. -/
theorem warn (warning : String) : Restores (RenderM.warn warning) := fun _ => rfl

/-- Sources are looked up in the context as it is. -/
theorem sourcesOf (block : Block) : Restores (RenderM.sourcesOf block) := fun _ => rfl

/-- What processes a text does not see the session. -/
theorem postProcess (env : Environment) (block : Block) (text : String) :
    Restores (RenderM.postProcess env block text) := fun _ => rfl

/-- An action whose failure is caught restores the surroundings if it does without. -/
theorem attempt {action : RenderM α} (h : Restores action) : Restores (RenderM.attempt action) := h

/-- So does one whose outcome is noted. -/
theorem noting {action : RenderM String} (key : GuardKey) (h : Restores action) :
    Restores (RenderM.noting key action) := h

/-- So does one that is given up for depth. -/
theorem absorbDepth {action : RenderM (Option String)} (h : Restores action) :
    Restores (RenderM.absorbDepth action) := by
  intro s
  have kept := h s
  unfold RenderM.absorbDepth
  split
  · rename_i after done
    rw [done] at kept
    exact kept
  · exact kept

/-! ## Scopes -/

/-- An action in changed surroundings gives them back, whatever it is. -/
theorem inside (change : Surroundings → Surroundings) (action : RenderM α) :
    Restores (RenderM.inside change action) := fun _ => rfl

/-- An action that restores ends in the surroundings it is started in. -/
theorem run_surround {action : RenderM α} (h : Restores action) (s : Session) (a : Surroundings) :
    ∃ outcome m, action (s.surround a) = (outcome, ⟨a, m⟩) := by
  have kept := h (s.surround a)
  rcases done : action (s.surround a) with ⟨outcome, t, m⟩
  rw [done] at kept
  exact ⟨outcome, m, by rw [← (show t = a from kept)]⟩

/-- Popping what was pushed leads back to the surroundings before. -/
theorem withPushed_eq {action : RenderM α} (h : Restores action) (entries : List Entry) :
    withPushed entries action = RenderM.inside (·.pushed entries) action := by
  funext s
  obtain ⟨outcome, m, done⟩ := h.run_surround s (s.pushed entries)
  have popped : Session.popEntries ⟨s.pushed entries, m⟩ entries.length = (.ok (), ⟨s.toSurroundings, m⟩) := by
    unfold Session.popEntries Surroundings.pushed
    simp only [ContextStack.popMany_pushAll]
  unfold withPushed undoing RenderM.inside Session.pushEntries
  simp only [done, popped]
  rfl

/-- Putting the live stack back leads back to the surroundings before. -/
theorem withIsolated_eq {action : RenderM α} (h : Restores action) (entries : List Entry) :
    withIsolated entries action = RenderM.inside (·.isolated entries) action := by
  funext s
  obtain ⟨outcome, m, done⟩ := h.run_surround s (s.isolated entries)
  unfold withIsolated undoing RenderM.inside
  simp only [done]
  rfl

/-- Counting down after counting up leads back to the surroundings before. -/
theorem withComponent_eq {action : RenderM α} (h : Restores action) (env : Environment) (ref : Value) :
    withComponent env ref action = fun s =>
      if env.maxDepth.isReached s.depth then (.error (tooDeep env ref), s)
      else RenderM.inside Surroundings.deeper action s := by
  funext s
  by_cases reached : env.maxDepth.isReached s.depth
  · -- A component that is refused has not been counted, and is not counted down either.
    simp only [withComponent, Session.enterComponent, if_pos reached]
  · obtain ⟨outcome, m, done⟩ := h.run_surround s s.deeper
    simp only [withComponent, Session.enterComponent, if_neg reached]
    unfold undoing RenderM.inside Session.leaveComponent
    simp only [done]
    simp only [Surroundings.deeper, Int.add_sub_cancel]
    rfl

/-- Dropping the frame that was put on top leads back to the surroundings before. -/
theorem withFrame_eq {action : RenderM α} (h : Restores action) (frame : SlotFrame) :
    withFrame frame action = RenderM.inside (·.framed frame) action := by
  funext s
  obtain ⟨outcome, m, done⟩ := h.run_surround s (s.framed frame)
  have left : Session.leaveFrame ⟨s.framed frame, m⟩ = (.ok (), ⟨s.toSurroundings, m⟩) := by
    unfold Session.leaveFrame Surroundings.framed SlotFrames.pop
    simp only [Int.add_sub_cancel]
  unfold withFrame undoing RenderM.inside
  simp only [done, left]
  rfl

/-- The frame of an extension gets the next level. -/
theorem withOwnFrame_eq {action : RenderM α} (h : Restores action) (frame : SlotFrame) :
    withOwnFrame frame action = RenderM.inside (fun a => a.framed { frame with level := a.opened }) action := by
  funext s
  exact congrFun (h.withFrame_eq { frame with level := s.opened }) s

/-- Putting the hidden frame back leads back to the surroundings before. -/
theorem withOuterFrames_eq {action : RenderM α} (h : Restores action) :
    withOuterFrames action = RenderM.inside Surroundings.uncovered action := by
  funext s
  obtain ⟨outcome, m, done⟩ := h.run_surround s s.uncovered
  unfold withOuterFrames undoing RenderM.inside
  simp only [done]
  simp only [Surroundings.uncovered, SlotFrames.restore_hide]
  rfl

/-- Taking the mark off leads back to the surroundings before. -/
theorem withGuard_eq {action : RenderM α} (h : Restores action) (key : GuardKey) :
    withGuard key action = RenderM.inside (·.guarding key) action := by
  funext s
  obtain ⟨outcome, m, done⟩ := h.run_surround s (s.guarding key)
  unfold withGuard undoing RenderM.inside Session.enterSlot
  simp only [done]
  rfl

/-- Whichever session was active is active again. -/
theorem withActive_eq {action : RenderM α} (h : Restores action) :
    withActive action = RenderM.inside Surroundings.activated action := by
  funext s
  obtain ⟨outcome, m, done⟩ := h.run_surround s s.activated
  unfold withActive undoing RenderM.inside
  simp only [done]
  rfl

/-- Entries that are pushed for an action are gone after it. -/
theorem withPushed {action : RenderM α} (h : Restores action) (entries : List Entry) :
    Restores (RenderM.withPushed entries action) := by
  rw [h.withPushed_eq]
  exact inside _ action

/-- The context that is isolated for an action is back after it. -/
theorem withIsolated {action : RenderM α} (h : Restores action) (entries : List Entry) :
    Restores (RenderM.withIsolated entries action) := by
  rw [h.withIsolated_eq]
  exact inside _ action

/-- A component that is entered for an action is left after it. -/
theorem withComponent {action : RenderM α} (h : Restores action) (env : Environment) (ref : Value) :
    Restores (RenderM.withComponent env ref action) := by
  rw [h.withComponent_eq]
  intro s
  dsimp only
  split <;> rfl

/-- A frame that is pushed for an action is gone after it. -/
theorem withFrame {action : RenderM α} (h : Restores action) (frame : SlotFrame) :
    Restores (RenderM.withFrame frame action) := by
  rw [h.withFrame_eq]
  exact inside _ action

/-- So is a frame of an instance of its own. -/
theorem withOwnFrame {action : RenderM α} (h : Restores action) (frame : SlotFrame) :
    Restores (RenderM.withOwnFrame frame action) := by
  rw [h.withOwnFrame_eq]
  exact inside _ action

/-- Frames that are hidden for an action are back after it. -/
theorem withOuterFrames {action : RenderM α} (h : Restores action) : Restores (RenderM.withOuterFrames action) := by
  rw [h.withOuterFrames_eq]
  exact inside _ action

/-- A slot that is guarded for an action is free after it. -/
theorem withGuard {action : RenderM α} (h : Restores action) (key : GuardKey) :
    Restores (RenderM.withGuard key action) := by
  rw [h.withGuard_eq]
  exact inside _ action

/-- A session that is active for an action is as active as before after it. -/
theorem withActive {action : RenderM α} (h : Restores action) : Restores (RenderM.withActive action) := by
  rw [h.withActive_eq]
  exact inside _ action

/-! ## Every kind of block -/

/-- A text is rendered and changes no surroundings. -/
theorem renderText (env : Environment) (block : Block) : Restores (RenderM.renderText env block) := by
  unfold RenderM.renderText
  split
  · exact pure ""
  · exact (sourcesOf block).bind fun _ => (ofExcept _).bind fun text => postProcess env block text

/-- An element restores the surroundings if the blocks inside it do. -/
theorem renderElement (env : Environment) (block : Block) {inner : RenderM String} (h : Restores inner) :
    Restores (RenderM.renderElement env block inner) := by
  refine (sourcesOf block).bind fun _ => (ofExcept _).bind fun _ => ?_
  dsimp only
  split
  · exact postProcess env block _
  · exact h.bind fun _ => postProcess env block _

/-- What a loop goes over is found without a change of the surroundings. -/
theorem loopData (env : Environment) (block : Block) (sources : List Source) :
    Restores (RenderM.loopData env block sources) := by
  unfold RenderM.loopData
  split
  · exact (ofLoops _).bind fun _ => pure _
  · refine (ofExcept _).bind fun _ => (ofLoops _).bind fun _ => ?_
    split
    · exact pure _
    · exact ofExcept _

/-- The items of a loop: an induction on the items, each in a scope of its own. -/
theorem renderItems (block : Block) {inner : RenderM String} (h : Restores inner) (index : Nat)
    (items : List Value) : Restores (RenderM.renderItems block inner index items) := by
  induction items generalizing index with
  | nil => exact pure ""
  | cons item items ih =>
    unfold RenderM.renderItems
    exact (h.withPushed _).bind fun _ => (ih (index + 1)).bind fun _ => pure _

/-- A loop restores the surroundings if the blocks inside it do. -/
theorem renderLoop (env : Environment) (block : Block) {inner : RenderM String} (h : Restores inner) :
    Restores (RenderM.renderLoop env block inner) :=
  (sourcesOf block).bind fun _ => (loopData env block _).bind fun _ => (ofExcept _).bind fun items =>
    renderItems block h 0 items

/-- The props of an instance are made without a change of the surroundings. -/
theorem propsOf (env : Environment) (block : Block) (pattern : Pattern) :
    Restores (RenderM.propsOf env block pattern) :=
  (sourcesOf block).bind fun _ => (ofExcept _).bind fun _ => ofLoops _

/-- The body of an instance is rendered within its own frame, which is gone afterwards. -/
theorem renderBody (env : Environment) (ref : Value) (frame : SlotFrame) (props : List (String × Value))
    {body : RenderM String} (h : Restores body) : Restores (RenderM.renderBody env ref frame props body) :=
  absorbDepth ((((h.withFrame frame).withIsolated _).withComponent env ref).bind fun _ => pure _)

/-- An instance restores the surroundings if the body of its pattern does. -/
theorem renderInstance (env : Environment) (place : Place) (block : Block) (pattern : Pattern)
    {body : RenderM String} (h : Restores body) :
    Restores (RenderM.renderInstance env place block pattern body) := by
  have frame : Restores (frameOf env place block) := fun _ => rfl
  refine (propsOf env block pattern).bind fun _ => frame.bind fun _ => (renderBody _ _ _ _ h).bind fun rendered => ?_
  cases rendered with
  | none => exact pure ""
  | some text => exact postProcess env block text

/-- A component restores the surroundings if the bodies of patterns do. -/
theorem renderComponent (env : Environment) (place : Place) (block : Block)
    {body : String → List Block → RenderM String} (h : ∀ ref blocks, Restores (body ref blocks)) :
    Restores (RenderM.renderComponent env place block body) := by
  unfold RenderM.renderComponent
  split
  · exact pure ""
  · refine (findPattern env _).bind fun found => ?_
    cases found with
    | none => exact (warn _).bind fun _ => pure ""
    | some pattern =>
      dsimp only
      split
      · exact pure ""
      · exact renderInstance env place block pattern (h _ _)

/-- An action that is skipped for a guarded slot changes nothing. -/
theorem unlessGuarded (env : Environment) (key : GuardKey) {action : RenderM String} (h : Restores action) :
    Restores (RenderM.unlessGuarded env key action) := by
  intro s
  unfold RenderM.unlessGuarded
  split
  · exact h.withGuard key s
  · rfl
  · exact noting key (h.withGuard key) s

/-- A slot that is filled restores the surroundings if its content does. -/
theorem renderFilled (env : Environment) (frame : SlotFrame) (name : String) {fill : RenderM String}
    (h : Restores fill) : Restores (RenderM.renderFilled env frame name fill) :=
  unlessGuarded env _ (h.withIsolated _).withOuterFrames

/-- A placeholder restores the surroundings if the contents of slots do. -/
theorem renderPlaceholder (env : Environment) (block : Block) {fill : SlotContent → RenderM String}
    (h : ∀ content, Restores (fill content)) : Restores (RenderM.renderPlaceholder env block fill) := by
  unfold RenderM.renderPlaceholder
  split
  · exact pure ""
  · have current : Restores currentFrame? := fun _ => rfl
    refine current.bind fun frame => ?_
    cases frame with
    | none => exact pure ""
    | some frame =>
      dsimp only
      split
      · exact pure ""
      · exact renderFilled env frame _ (h _)

/-- A scope of an extension is left after the action within it. -/
theorem withinScope (env : Environment) (scope : PlanScope) {action : RenderM α} (h : Restores action) :
    Restores (RenderM.withinScope env scope action) := by
  cases scope with
  | pushed entries => exact h.withPushed entries
  | isolated entries => exact h.withIsolated entries
  | component ref => exact h.withComponent env ref
  | framed frame => exact h.withOwnFrame frame
  | outerFrames => exact h.withOuterFrames
  | active => exact h.withActive

/-- An action that depends on whether a slot is free restores the surroundings if it does either way. -/
theorem ifFree (key : GuardKey) {action : Bool → RenderM α} (h : ∀ free, Restores (action free)) :
    Restores (RenderM.ifFree key action) := by
  intro s
  unfold RenderM.ifFree
  split
  · exact h false s
  · exact (h true).withGuard key s

/-- A block rendered anew restores the surroundings if that way on does. -/
theorem renderAnew (env : Environment) {anew : BlockRender}
    (h : ∀ levels frames place block, Restores (anew levels frames place block)) (place : Place) (block : Block) :
    Restores (RenderM.renderAnew env anew place block) :=
  get.bind fun _ => h _ _ place block

/-- Blocks one by one: an induction on the blocks. -/
theorem renderEach {render : Place → Block → RenderM String} (h : ∀ place block, Restores (render place block))
    (place : Place) (position : Nat) (blocks : List Block) :
    Restores (RenderM.renderEach render place position blocks) := by
  induction blocks generalizing position with
  | nil => exact pure ""
  | cons block blocks ih => exact (h _ block).bind fun _ => (ih (position + 1)).bind fun _ => pure _

/-- A plan of an extension: an induction on the plan. -/
theorem follow (env : Environment) (place : Place) (block : Block) {render : Place → Block → RenderM String}
    (h : ∀ place block, Restores (render place block)) (plan : Plan) :
    Restores (RenderM.follow env place block render plan) := by
  induction plan with
  | done text => exact pure text
  | fail failure => exact throw failure
  | inner next ih => exact (attempt (renderEach h place 0 block.inner)).bind ih
  | block other inner next ih => exact (attempt (h other inner)).bind ih
  | items name params next ih => exact (attempt (ofLoops _)).bind ih
  | pattern ref next ih => exact (attempt (findPattern env ref)).bind ih
  | within scope plan next inPlan ih =>
    exact (attempt (withinScope env scope (get.bind fun _ => inPlan _))).bind ih
  | guarded owner name plan next inPlan ih => exact (attempt (ifFree _ inPlan)).bind ih

/-- Every kind of block restores if what is inside it does. -/
theorem keptByBlocks (env : Environment) :
    KeptByBlocks env env (fun _ _ => True) (fun _ action _ => Restores action) where
  weaken _ h := h
  renderers := rfl
  child _ _ := trivial
  body _ := trivial
  nothing _ := pure ""
  unnamed _ := throw .wrongType
  endless := throw .endless
  append first rest := first.bind fun _ => rest.bind fun _ => pure _
  text _ := renderText env
  element block _ _ := renderElement env block
  loop block _ _ := renderLoop env block
  component block _ _ _ _ body := renderComponent env _ block body
  placeholder _ block _ _ fill := renderPlaceholder env block fun content => fill content.place .page _
  extension _ _ block _ _ _ _ _ blocks := get.bind fun _ =>
    follow env _ block (renderAnew env fun levels frames place block => blocks levels frames place .page block) _

/-- A render with its counts restores the surroundings. -/
theorem renderAt (env : Environment) (levels frames : Nat) (place : Place) (blocks : List Block) :
    Restores (RenderM.renderAt env levels frames place blocks) :=
  (keptByBlocks env).renderAt levels frames place place blocks

/-- So does a render of blocks. -/
theorem renderBlocks (env : Environment) (place : Place) (blocks : List Block) :
    Restores (RenderM.renderBlocks env place blocks) :=
  get.bind fun _ => renderAt env _ _ place blocks

end Restores

/-! ## Nested scopes -/

namespace Surroundings

/-- The surroundings of the body of an instance with a frame and properties. -/
def inBody (a : Surroundings) (frame : SlotFrame) (props : List (String × Value)) : Surroundings :=
  (a.deeper.isolated [propsEntry frame.entries props, slotsEntry frame.slots]).framed frame

/-- The surroundings of the content of a slot, when the frame on top is that of the slot. -/
def inSlot (a : Surroundings) (frame : SlotFrame) (name : String) : Surroundings :=
  (a.guarding (frame.guardKey name)).uncovered.isolated (frame.entries ++ [slotMark name])

/-- The content that a slot has here, with the frame that holds it. -/
def slot? (a : Surroundings) (name : String) : Option (SlotFrame × SlotContent) :=
  a.frames.head?.bind fun frame => (frame.content? name).map fun content => (frame, content)

end Surroundings

/-- A scope in a scope is one scope. -/
theorem inside_inside {α : Type} (change next : Surroundings → Surroundings) (action : RenderM α) :
    RenderM.inside change (RenderM.inside next action) = RenderM.inside (fun a => next (change a)) action := rfl

/-- The body of an instance at a depth where nothing may go deeper. -/
theorem renderBody_of_reached {body : RenderM String} (h : Restores body) {env : Environment} {s : Session}
    (reached : env.maxDepth.isReached s.depth = true) (ref : Value) (frame : SlotFrame)
    (props : List (String × Value)) :
    renderBody env ref frame props body s =
      (.ok none, { s with toMemory := s.toMemory.warn (tooDeep env ref).compact }) := by
  have refused : withComponent env ref (withIsolated [propsEntry frame.entries props, slotsEntry frame.slots]
      (withFrame frame body)) s = (.error (tooDeep env ref), s) := by
    rw [((h.withFrame frame).withIsolated _).withComponent_eq]
    exact if_pos reached
  unfold renderBody absorbDepth
  rw [map_apply, refused]
  rfl

/-- The three scopes of a body come to one change of the surroundings. -/
theorem renderBody_of_not_reached {body : RenderM String} (h : Restores body) {env : Environment} {s : Session}
    (free : env.maxDepth.isReached s.depth = false) (ref : Value) (frame : SlotFrame)
    (props : List (String × Value)) :
    renderBody env ref frame props body s =
      absorbDepth (some <$> RenderM.inside (·.inBody frame props) body) s := by
  have entered : withComponent env ref (withIsolated [propsEntry frame.entries props, slotsEntry frame.slots]
      (withFrame frame body)) s = RenderM.inside (·.inBody frame props) body s := by
    rw [((h.withFrame frame).withIsolated _).withComponent_eq, h.withFrame_eq,
      (Restores.inside _ body).withIsolated_eq]
    exact if_neg (by simp only [free, Bool.false_eq_true, not_false_eq_true])
  unfold renderBody absorbDepth
  rw [map_apply, map_apply, entered]

/-- The three scopes of the content of a slot come to one change of the surroundings, if the guard allows it. -/
theorem renderFilled_eq {fill : RenderM String} (h : Restores fill) (env : Environment) (frame : SlotFrame)
    (name : String) :
    renderFilled env frame name fill = fun s =>
      match env.answer s.guard (frame.guardKey name) with
      | .enter => RenderM.inside (·.inSlot frame name) fill s
      | .refuse => (.ok "", s)
      | .repeated => noting (frame.guardKey name) (RenderM.inside (·.inSlot frame name) fill) s := by
  have scopes : withGuard (frame.guardKey name) (withOuterFrames (withIsolated (frame.entries ++ [slotMark name])
      fill)) = RenderM.inside (·.inSlot frame name) fill := by
    rw [(h.withIsolated _).withOuterFrames.withGuard_eq, (h.withIsolated _).withOuterFrames_eq,
      h.withIsolated_eq, inside_inside, inside_inside]
    rfl
  funext s
  unfold renderFilled unlessGuarded
  cases env.answer s.guard (frame.guardKey name) with
  | enter => exact congrFun scopes s
  | refuse => rfl
  | repeated => exact congrFun (congrArg (noting (frame.guardKey name)) scopes) s

/-- A placeholder becomes the content that its slot has here. -/
theorem renderPlaceholder_apply {block : Block} {name : String} (named : block.slotName? = some name)
    (env : Environment) (fill : SlotContent → RenderM String) (s : Session) :
    renderPlaceholder env block fill s =
      match s.slot? name with
      | none => (.ok "", s)
      | some (frame, content) => renderFilled env frame name (fill content) s := by
  have current : currentFrame? s = (.ok s.frames.head?, s) := rfl
  unfold renderPlaceholder Surroundings.slot?
  rw [named]
  dsimp only
  rw [bind_of_ok current]
  cases s.frames.head? with
  | none => rfl
  | some frame =>
    dsimp only [Option.bind_some]
    cases frame.content? name <;> rfl

/-- A render of blocks with initial sources leaves the live stack with everything else in the context, the slot
frames, the marks on slots, the depth of nesting and which session is active as they were, from whatever session it
starts and whether it comes to a text or fails. -/
theorem surroundings_renderPage (env : Environment) (blocks sources : Value) (s : Session) :
    (renderPage env blocks sources s).2.toSurroundings = s.toSurroundings := by
  have inPushed (entries : List Entry) : Restores (withPushed entries do
      let blocks ← RenderM.ofExcept (Block.ofSeries blocks)
      renderBlocks env .page blocks) :=
    ((Restores.ofExcept _).bind fun blocks => Restores.renderBlocks env .page blocks).withPushed entries
  exact ((Restores.ofExcept (Entry.ofInitials sources)).bind inPushed).withActive s

end DynamicBlocks
