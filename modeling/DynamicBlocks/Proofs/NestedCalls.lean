import DynamicBlocks.Proofs.ArgumentNesting
import DynamicBlocks.Proofs.MovedBlocks
import DynamicBlocks.Render.Settings
import Mathlib

/-!
# Calls within calls

No tree bounds a render: a component leads into the body of a pattern, which may hold the component again, and a
placeholder leads back to blocks of the caller. `renderCalls` is that recursion as it stands. It counts how many calls,
components and slots may be inside of each other, and where these are used up, something else is done, whatever it is.

With a limit on components it never comes to that (`Environment.exists_renderCalls`). What becomes less from call to
call is, in this order, the number of levels left, the number of frames in sight, and the tree. A component takes a
level and adds a frame; a slot takes a frame and leaves the level as it is. So there are never more slots inside of
each other than components, and no guard is needed for that.
-/

set_option autoImplicit false

namespace DynamicBlocks

open RenderM

namespace RenderM

/-- What is done with a block where some number is left, and what is done else. -/
def ifLeft (other : Place → Block → RenderM String) (render : Nat → Place → Block → RenderM String) :
    (left : Nat) → Place → Block → RenderM String
  | 0 => other
  | left + 1 => render left

/-- The ways on with as many bodies of components and contents of slots inside of each other, given how a block is
rendered with a number of either. -/
def waysThrough (other : Place → Block → RenderM String)
    (render : (components slots : Nat) → Place → Block → RenderM String) (components slots : Nat) : WaysOn where
  body ref blocks :=
    renderEach (ifLeft other (fun components => render components slots) components) (.body ref) 0 blocks
  fill content :=
    renderEach (ifLeft other (fun slots => render components slots) slots) content.place 0 content.blocks
  anew _ _ := render components slots

/-- A block rendered with as many calls, bodies of components and contents of slots inside of each other, and with
something else where there would be more. -/
def renderCalls (env : Environment) (other : Place → Block → RenderM String) :
    (calls components slots : Nat) → Place → Block → RenderM String
  | 0, _, _, place, block => other place block
  | calls + 1, components, slots, place, block =>
    renderNamed env (waysThrough other (renderCalls env other calls) components slots) place block
      (renderEach (renderCalls env other calls components slots) place 0 block.inner)

/-- Blocks rendered with initial sources as local entries, given how a block is. -/
def renderPageThrough (render : Place → Block → RenderM String) (blocks sources : Value) : RenderM String :=
  withActive do
    let entries ← ofExcept (Entry.ofInitials sources)
    withPushed entries do
      let blocks ← ofExcept (Block.ofSeries blocks)
      renderEach render .page 0 blocks

end RenderM

/-- A page rendered in a session of its own, given how a block is. -/
def Environment.renderThrough (env : Environment) (render : Place → Block → RenderM String) (page : Page) :
    Except Failure String × Session :=
  let action : RenderM String := do
    RenderM.changeContext fun provider => provider.enqueueAll Provider.enqueue page.globals
    RenderM.changeContext fun provider => provider.enqueueAll Provider.enqueuePreview page.previews
    RenderM.renderPageThrough render page.blocks page.sources
  action (Session.start env.host)

/-! ## Where a session stands -/

/-- The slots of the frames in sight, the innermost first. -/
abbrev FrameSlots := List (List (String × SlotContent))

/-- A session with a number of levels left and frames in sight that hold some slots. It knows of patterns what the
loader says. -/
structure Session.Stands (s : Session) (env : Environment) (levels : Nat) (frames : FrameSlots) : Prop where
  bound : env.maxDepth.bound = some (s.depth + levels)
  frames : s.frames.map (·.slots) = frames
  faithful : s.patterns.Faithful env.loader

/-- A render next to itself. -/
def Correspondence.itself {env : Environment}
    (noExtension : ∀ name plan, env.renderers.lookup name ≠ some (.extension plan)) : Correspondence env env :=
  .elsewhere env Place.Moves.eq (Environment.ignoresPlaces_of_noExtension noExtension) (Memory.answerAlike_cache env)

namespace Session.Stands

variable {env : Environment} {levels : Nat} {frames : FrameSlots} {s : Session} {α : Type}

/-- What is in step with itself leaves a session where it stands. -/
theorem after {noExtension : ∀ name plan, env.renderers.lookup name ≠ some (.extension plan)} {action : RenderM α}
    (kept : InStep (.itself noExtension) True action action) (h : s.Stands env levels frames)
    {outcome : Except Failure α} {t : Session} (done : action s = (outcome, t)) : t.Stands env levels frames := by
  have restored : t.toSurroundings = s.toSurroundings := by rw [← kept.left s, done]
  have learned := (kept.memory_after ⟨h.faithful, h.faithful, rfl⟩).1
  rw [done] at learned
  refine ⟨?_, ?_, learned⟩
  · rw [restored]
    exact h.bound
  · rw [restored]
    exact h.frames

/-- A session stands where it did when entries are pushed. -/
theorem pushEntries (h : s.Stands env levels frames) (entries : List Entry) :
    (s.pushEntries entries).Stands env levels frames :=
  ⟨h.bound, h.frames, h.faithful⟩

/-- Where it is not too deep there is a level left. -/
theorem exists_succ (h : s.Stands env levels frames) (shallow : env.maxDepth.isReached s.depth = false) :
    ∃ left, levels = left + 1 := by
  have deep : ¬s.depth + levels ≤ s.depth := by
    unfold DepthLimit.isReached at shallow
    rw [h.bound] at shallow
    exact of_decide_eq_false shallow
  exact ⟨levels - 1, by omega⟩

/-- A component takes a level and adds its frame. -/
theorem inBody (h : s.Stands env (levels + 1) frames) (frame : SlotFrame) (props : List (String × Value)) :
    (s.surround (s.inBody frame props)).Stands env levels (frame.slots :: frames) where
  bound := by
    show env.maxDepth.bound = some (s.depth + 1 + levels)
    rw [h.bound]
    congr 1
    omega
  frames := by
    show frame.slots :: s.frames.map (·.slots) = frame.slots :: frames
    rw [h.frames]
  faithful := h.faithful

/-- A slot takes a frame. -/
theorem inSlot {slots : List (String × SlotContent)} (h : s.Stands env levels (slots :: frames)) (frame : SlotFrame)
    (name : String) : (s.surround (s.inSlot frame name)).Stands env levels frames where
  bound := h.bound
  frames := by
    have beneath : (s.inSlot frame name).frames = s.frames.tail := by
      show (SlotFrames.hide s.frames).2 = s.frames.tail
      cases s.frames <;> rfl
    show (s.inSlot frame name).frames.map (·.slots) = frames
    rw [beneath, List.map_tail, h.frames, List.tail_cons]
  faithful := h.faithful

end Session.Stands

/-! ## Two ways on -/

section

variable {α β : Type} {s : Session}

/-- Two actions that do the same here, and what follows them. -/
theorem bind_congr_at {a b : RenderM α} {f g : α → RenderM β} (first : a s = b s)
    (second : ∀ x t, b s = (.ok x, t) → f x t = g x t) : (a >>= f) s = (b >>= g) s := by
  rcases done : b s with ⟨outcome, t⟩
  cases outcome with
  | error e => rw [bind_of_error (first.trans done), bind_of_error done]
  | ok x => rw [bind_of_ok (first.trans done), bind_of_ok done, second x t done]

/-- Undoing an action is the same where the action is. -/
theorem undoing_congr (undo : Session → Except Failure Unit × Session) {a b : RenderM α} (same : a s = b s) :
    undoing undo a s = undoing undo b s := by
  unfold undoing
  rw [same]

variable {env : Environment} {a b : RenderM String}

/-- An element is rendered the same where its content is. -/
theorem renderElement_congr (block : Block) (same : a s = b s) :
    renderElement env block a s = renderElement env block b s := by
  refine bind_congr_at rfl fun sources t read => ?_
  obtain rfl : s = t := (Prod.mk.inj read).2
  refine bind_congr_at rfl fun attributes t evaluated => ?_
  obtain rfl : s = t := (Prod.mk.inj evaluated).2
  split
  · rfl
  · exact bind_congr_at same fun text t _ => rfl

/-- A body is entered in the same session, unless it is too deep. -/
theorem renderBody_congr (ref : Value) (frame : SlotFrame) (props : List (String × Value))
    (same : env.maxDepth.isReached s.depth = false →
      a (s.surround (s.inBody frame props)) = b (s.surround (s.inBody frame props))) :
    renderBody env ref frame props a s = renderBody env ref frame props b s := by
  have entered : withComponent env ref (withIsolated [propsEntry frame.entries props, slotsEntry frame.slots]
      (withFrame frame a)) s = withComponent env ref (withIsolated [propsEntry frame.entries props,
        slotsEntry frame.slots] (withFrame frame b)) s := by
    unfold withComponent Session.enterComponent
    cases reached : env.maxDepth.isReached s.depth with
    | true => rfl
    | false => exact undoing_congr _ (undoing_congr _ (undoing_congr _ (same reached)))
  unfold renderBody absorbDepth
  rw [map_apply, map_apply, entered]

/-- The content of a slot is rendered in the same session, whatever the guard is. -/
theorem renderFilled_congr (frame : SlotFrame) (name : String)
    (same : a (s.surround (s.inSlot frame name)) = b (s.surround (s.inSlot frame name))) :
    renderFilled env frame name a s = renderFilled env frame name b s := by
  have uncovered : withOuterFrames (withIsolated (frame.entries ++ [slotMark name]) a)
      (s.enterSlot (frame.guardKey name)) = withOuterFrames (withIsolated (frame.entries ++ [slotMark name]) b)
        (s.enterSlot (frame.guardKey name)) := by
    unfold withOuterFrames
    exact undoing_congr _ (undoing_congr _ same)
  have entered : withGuard (frame.guardKey name) (withOuterFrames (withIsolated (frame.entries ++ [slotMark name])
      a)) s = withGuard (frame.guardKey name) (withOuterFrames (withIsolated (frame.entries ++ [slotMark name])
        b)) s := undoing_congr _ uncovered
  unfold renderFilled unlessGuarded noting
  rw [entered]

/-- Ways on that do the same where a block leads: into the body of the pattern that the loader has for it, with its
slots on top, and into the content of a slot of the frame on top, with that frame gone. -/
structure WaysOn.AgreeAt (env : Environment) (levels : Nat) (frames : FrameSlots) (place : Place) (block : Block)
    (on on' : WaysOn) : Prop where
  body : ∀ pattern left t, PatternCache.load env.loader block.ref.plain = .ok (some pattern) → levels = left + 1 →
    t.Stands env left (block.slots place env.slotBlock :: frames) →
      on.body block.ref.plain pattern.blocks t = on'.body block.ref.plain pattern.blocks t
  fill : ∀ name slots beneath content t, block.slotName? = some name → frames = slots :: beneath →
    slots.lookup name = some content → t.Stands env levels beneath → on.fill content t = on'.fill content t

variable {levels : Nat} {frames : FrameSlots} {place : Place} {block : Block} {on on' : WaysOn}

/-- An instance of the pattern that the loader has for it. -/
theorem renderInstance_congr (noExtension : ∀ name plan, env.renderers.lookup name ≠ some (.extension plan))
    (ways : WaysOn.AgreeAt env levels frames place block on on') {pattern : Pattern}
    (loaded : PatternCache.load env.loader block.ref.plain = .ok (some pattern)) (h : s.Stands env levels frames) :
    renderInstance env place block pattern (on.body block.ref.plain pattern.blocks) s =
      renderInstance env place block pattern (on'.body block.ref.plain pattern.blocks) s := by
  refine bind_congr_at rfl fun props t made => ?_
  have evaluated : t.Stands env levels frames := h.after (InStep.propsOf (c := .itself noExtension) block pattern) made
  refine bind_congr_at rfl fun frame u framed => ?_
  obtain ⟨found, rfl⟩ := Prod.mk.inj framed
  obtain rfl := Except.ok.inj found
  have entered : renderBody env block.ref (t.frameFor env place block) props
      (on.body block.ref.plain pattern.blocks) t = renderBody env block.ref (t.frameFor env place block) props
        (on'.body block.ref.plain pattern.blocks) t := by
    refine renderBody_congr _ _ props fun shallow => ?_
    obtain ⟨left, rfl⟩ := evaluated.exists_succ shallow
    exact ways.body pattern left _ loaded rfl (evaluated.inBody _ props)
  exact bind_congr_at entered fun text v _ => rfl

/-- A component. Which pattern it is an instance of does not depend on the session, for all that sessions remember of
patterns is what the loader says. -/
theorem renderComponent_congr (noExtension : ∀ name plan, env.renderers.lookup name ≠ some (.extension plan))
    (ways : WaysOn.AgreeAt env levels frames place block on on') (h : s.Stands env levels frames) :
    renderComponent env place block on.body s = renderComponent env place block on'.body s := by
  unfold renderComponent
  split
  · rfl
  rename_i asks
  refine bind_congr_at rfl fun found t answered => ?_
  have looked : t.Stands env levels frames := h.after (InStep.findPattern (c := .itself noExtension) block.ref) answered
  cases found with
  | none => rfl
  | some pattern =>
    have loaded : PatternCache.load env.loader block.ref.plain = .ok (some pattern) := by
      have answer := h.faithful.get_fst block.ref
      rw [if_neg asks] at answer
      exact answer.symm.trans (Prod.mk.inj answered).1
    dsimp only
    split
    · rfl
    · exact renderInstance_congr noExtension ways loaded looked

/-- A placeholder. Its content is that of the frame on top, of which a session that stands here has the slots. -/
theorem renderPlaceholder_congr (ways : WaysOn.AgreeAt env levels frames place block on on')
    (h : s.Stands env levels frames) :
    renderPlaceholder env block on.fill s = renderPlaceholder env block on'.fill s := by
  cases named : block.slotName? with
  | none =>
    unfold renderPlaceholder
    rw [named]
  | some name =>
    rw [renderPlaceholder_apply named, renderPlaceholder_apply named]
    split
    · rfl
    · rename_i there
      obtain ⟨frame, top, held⟩ := Option.bind_eq_some_iff.mp there
      obtain ⟨content, filled, same⟩ := Option.map_eq_some_iff.mp held
      obtain ⟨rfl, rfl⟩ := Prod.mk.inj same
      obtain ⟨beneath, shape⟩ := List.head?_eq_some_iff.mp top
      obtain rfl : frame.slots :: beneath.map (·.slots) = frames := by
        rw [← h.frames, shape, List.map_cons]
      have given : frame.slots.lookup name = some content := (Option.filter_eq_some_iff.mp filled).1
      exact renderFilled_congr frame name (ways.fill name _ _ content _ named rfl given (h.inSlot frame name))

/-- The items of a loop: an induction on the items, each of which leaves the session where it stands. -/
theorem renderItems_congr {noExtension : ∀ name plan, env.renderers.lookup name ≠ some (.extension plan)}
    (same : ∀ t, t.Stands env levels frames → a t = b t) (kept : InStep (.itself noExtension) True b b)
    (h : s.Stands env levels frames) (index : Nat) (items : List Value) :
    renderItems block a index items s = renderItems block b index items s := by
  induction items generalizing index s with
  | nil => rfl
  | cons item items ih =>
    have first : withPushed (block.itemEntries index item) a s = withPushed (block.itemEntries index item) b s :=
      undoing_congr _ (same _ (h.pushEntries _))
    unfold renderItems
    refine bind_congr_at first fun text t done => ?_
    exact bind_congr_at (ih (h.after (kept.withPushed _) done) (index + 1)) fun rest u _ => rfl

/-- A loop is rendered the same where its body is, in every session the body is rendered in. -/
theorem renderLoop_congr (noExtension : ∀ name plan, env.renderers.lookup name ≠ some (.extension plan))
    (same : ∀ t, t.Stands env levels frames → a t = b t) (kept : InStep (.itself noExtension) True b b)
    (h : s.Stands env levels frames) : renderLoop env block a s = renderLoop env block b s := by
  refine bind_congr_at rfl fun sources t read => ?_
  obtain rfl : s = t := (Prod.mk.inj read).2
  refine bind_congr_at rfl fun data t loaded => ?_
  have stands : t.Stands env levels frames := h.after (InStep.loopData (c := .itself noExtension) block sources) loaded
  refine bind_congr_at rfl fun items u given => ?_
  obtain rfl : t = u := (Prod.mk.inj given).2
  exact renderItems_congr same kept stands 0 items

/-- A block does the same if what is inside it does and the ways on do. -/
theorem renderNamed_congr (noExtension : ∀ name plan, env.renderers.lookup name ≠ some (.extension plan))
    (ways : WaysOn.AgreeAt env levels frames place block on on') (same : ∀ t, t.Stands env levels frames → a t = b t)
    (kept : InStep (.itself noExtension) True b b) (h : s.Stands env levels frames) :
    renderNamed env on place block a s = renderNamed env on' place block b s := by
  unfold renderNamed
  cases found : env.rendererFor block.name with
  | error f => rfl
  | ok answer =>
    rw [ofExcept_ok_bind, ofExcept_ok_bind]
    cases answer with
    | none => exact same s h
    | some renderer =>
      cases renderer with
      | text => rfl
      | element => exact renderElement_congr block (same s h)
      | component => exact renderComponent_congr noExtension ways h
      | loop => exact renderLoop_congr noExtension same kept h
      | slotPlaceholder => exact renderPlaceholder_congr ways h
      | slotContent => rfl
      | extension plan =>
        obtain ⟨name, registered⟩ := KeptByBlocks.lookup_of_rendererFor found
        exact absurd registered (noExtension name plan)

end

/-! ## The recursion -/

section

variable {env : Environment}

/-- With `enough` calls, and no more slots than frames may come, a render through calls comes to what an action does. -/
def ComesThrough (env : Environment) (enough levels : Nat) (frames : FrameSlots)
    (through : (Place → Block → RenderM String) → RenderM String) (action : RenderM String) : Prop :=
  ∀ calls, enough ≤ calls → ∀ other slots, frames.length + levels ≤ slots → ∀ s : Session, s.Stands env levels frames →
    through (renderCalls env other calls levels slots) s = action s

/-- The same of blocks in a row. -/
def BlocksComeThrough (env : Environment) (enough levels : Nat) (frames : FrameSlots) (place : Place) (position : Nat)
    (blocks : List Block) : Prop :=
  ComesThrough env enough levels frames (fun render => renderEach render place position blocks)
    (renderFrom env (waysFrom env levels frames.length) place position blocks)

variable {levels : Nat} {frames : FrameSlots}

/-- Whatever blocks lead to comes through: bodies with a level less, and contents of slots with a frame less. -/
structure LeadsThrough (env : Environment) (levels : Nat) (frames : FrameSlots) : Prop where
  body : ∀ left, levels = left + 1 → ∀ frames ref blocks,
    ∃ enough, BlocksComeThrough env enough left frames (.body ref) 0 blocks
  fill : ∀ slots beneath, frames = slots :: beneath → ∀ content : SlotContent,
    ∃ enough, BlocksComeThrough env enough levels beneath content.place 0 content.blocks

/-- The body of a component has the slots of the instance on top. -/
theorem LeadsThrough.exists_enough_body (leads : LeadsThrough env levels frames) (place : Place) (block : Block) :
    ∃ enough, ∀ pattern left, PatternCache.load env.loader block.ref.plain = .ok (some pattern) → levels = left + 1 →
      BlocksComeThrough env enough left (block.slots place env.slotBlock :: frames) (.body block.ref.plain) 0
        pattern.blocks := by
  by_cases found : ∃ pattern left, PatternCache.load env.loader block.ref.plain = .ok (some pattern) ∧ levels = left + 1
  · obtain ⟨pattern, left, loaded, less⟩ := found
    obtain ⟨enough, comes⟩ :=
      leads.body left less (block.slots place env.slotBlock :: frames) block.ref.plain pattern.blocks
    refine ⟨enough, fun pattern' left' loaded' less' => ?_⟩
    obtain rfl : pattern = pattern' := Option.some.inj (Except.ok.inj (loaded.symm.trans loaded'))
    obtain rfl : left = left' := Nat.succ.inj (less.symm.trans less')
    exact comes
  · exact ⟨0, fun pattern left loaded less => absurd ⟨pattern, left, loaded, less⟩ found⟩

/-- The content of a slot is that of the frame on top. -/
theorem LeadsThrough.exists_enough_fill (leads : LeadsThrough env levels frames) (block : Block) :
    ∃ enough, ∀ name slots beneath content, block.slotName? = some name → frames = slots :: beneath →
      slots.lookup name = some content →
        BlocksComeThrough env enough levels beneath content.place 0 content.blocks := by
  by_cases found : ∃ name slots beneath content, block.slotName? = some name ∧ frames = slots :: beneath ∧
      slots.lookup name = some content
  · obtain ⟨name, slots, beneath, content, named, shape, given⟩ := found
    obtain ⟨enough, comes⟩ := leads.fill slots beneath shape content
    refine ⟨enough, fun name' slots' beneath' content' named' shape' given' => ?_⟩
    obtain rfl : name = name' := Option.some.inj (named.symm.trans named')
    obtain ⟨rfl, rfl⟩ := List.cons.inj (shape.symm.trans shape')
    obtain rfl : content = content' := Option.some.inj (given.symm.trans given')
    exact comes
  · exact ⟨0, fun name slots beneath content named shape given =>
      absurd ⟨name, slots, beneath, content, named, shape, given⟩ found⟩

/-- The ways on do the same, if enough calls are left for the bodies and contents that they lead to. -/
theorem agreeAt_waysThrough {calls slots : Nat} {place : Place} {block : Block} {other : Place → Block → RenderM String}
    (room : frames.length + levels ≤ slots)
    (body : ∀ pattern left, PatternCache.load env.loader block.ref.plain = .ok (some pattern) → levels = left + 1 →
      BlocksComeThrough env calls left (block.slots place env.slotBlock :: frames) (.body block.ref.plain) 0
        pattern.blocks)
    (fill : ∀ name slots beneath content, block.slotName? = some name → frames = slots :: beneath →
      slots.lookup name = some content → BlocksComeThrough env calls levels beneath content.place 0 content.blocks) :
    WaysOn.AgreeAt env levels frames place block (waysThrough other (renderCalls env other calls) levels slots)
      (waysFrom env levels frames.length) where
  body pattern left t loaded less stands := by
    have comes := body pattern left loaded less calls le_rfl other slots
    subst less
    have ways : (waysFrom env (left + 1) frames.length).body = renderBodyAt env (left + 1) (frames.length + 1) := by
      cases frames.length <;> rfl
    rw [ways]
    refine comes ?_ t stands
    rw [List.length_cons]
    omega
  fill name top beneath content t named shape there stands := by
    have comes := fill name top beneath content named shape there calls le_rfl other
    subst shape
    rw [List.length_cons] at room
    obtain ⟨left, rfl⟩ : ∃ left, slots = left + 1 := ⟨slots - 1, by omega⟩
    exact comes left (by omega) t stands

/-- What comes through with enough calls does with more. -/
theorem ComesThrough.of_le {enough more : Nat} {through : (Place → Block → RenderM String) → RenderM String}
    {action : RenderM String} (comes : ComesThrough env enough levels frames through action) (most : enough ≤ more) :
    ComesThrough env more levels frames through action :=
  fun calls many => comes calls (most.trans many)

mutual

/-- One block, given what it leads to: an induction on the tree. -/
theorem exists_enough_block (noExtension : ∀ name plan, env.renderers.lookup name ≠ some (.extension plan))
    (leads : LeadsThrough env levels frames) (place : Place) : (block : Block) →
    ∃ enough, ComesThrough env enough levels frames (fun render => render place block)
      (renderBlock env (waysFrom env levels frames.length) place block)
  | ⟨name, attrs, inner, context, held⟩ => by
    obtain ⟨forInner, inside⟩ := exists_enough_blocks noExtension leads place 0 inner
    obtain ⟨forBody, body⟩ := leads.exists_enough_body place ⟨name, attrs, inner, context, held⟩
    obtain ⟨forFill, fill⟩ := leads.exists_enough_fill ⟨name, attrs, inner, context, held⟩
    -- One call for the block itself.
    refine ⟨max forInner (max forBody forFill) + 1, fun calls many other slots room s stands => ?_⟩
    obtain ⟨calls, rfl⟩ : ∃ left, calls = left + 1 := ⟨calls - 1, by omega⟩
    have kept : InStep (.itself noExtension) True (renderFrom env (waysFrom env levels frames.length) place 0 inner)
        (renderFrom env (waysFrom env levels frames.length) place 0 inner) :=
      ((InStep.keptByBlocks _).renderFrom ((InStep.keptByBlocks _).waysFrom levels frames.length) place place 0
        inner).weaken fun _ => rfl
    rw [renderBlock_eq]
    refine renderNamed_congr noExtension (agreeAt_waysThrough room ?_ ?_) ?_ kept stands
    · exact fun pattern left loaded less => (body pattern left loaded less).of_le (by omega)
    · exact fun name slots beneath content named shape given =>
        (fill name slots beneath content named shape given).of_le (by omega)
    · exact inside calls (by omega) other slots room

/-- The children of a place from a position on, given what they lead to. -/
theorem exists_enough_blocks (noExtension : ∀ name plan, env.renderers.lookup name ≠ some (.extension plan))
    (leads : LeadsThrough env levels frames) (place : Place) : (position : Nat) → (blocks : List Block) →
    ∃ enough, BlocksComeThrough env enough levels frames place position blocks
  | _, [] => ⟨0, fun _ _ _ _ _ _ _ => by rw [renderFrom]; rfl⟩
  | position, block :: blocks => by
    obtain ⟨forFirst, first⟩ := exists_enough_block noExtension leads (place.child position) block
    obtain ⟨forRest, rest⟩ := exists_enough_blocks noExtension leads place (position + 1) blocks
    refine ⟨max forFirst forRest, fun calls many other slots room s stands => ?_⟩
    dsimp only
    rw [renderEach, renderFrom]
    refine bind_congr_at (first calls (by omega) other slots room s stands) fun text t done => ?_
    have kept : InStep (.itself noExtension) True
        (renderBlock env (waysFrom env levels frames.length) (place.child position) block)
        (renderBlock env (waysFrom env levels frames.length) (place.child position) block) :=
      ((InStep.keptByBlocks _).renderBlock ((InStep.keptByBlocks _).waysFrom levels frames.length) _ _
        block).weaken fun _ => rfl
    exact bind_congr_at (rest calls (by omega) other slots room t (stands.after kept done)) fun _ _ _ => rfl

end

/-- With a number of levels left, blocks with any frames in sight come through if bodies with a level less do: an
induction on the frames, of which each slot takes one. -/
theorem exists_enough_of_bodies (noExtension : ∀ name plan, env.renderers.lookup name ≠ some (.extension plan))
    (bodies : ∀ left, levels = left + 1 → ∀ frames ref blocks,
      ∃ enough, BlocksComeThrough env enough left frames (.body ref) 0 blocks) (frames : FrameSlots) (place : Place)
    (blocks : List Block) : ∃ enough, BlocksComeThrough env enough levels frames place 0 blocks := by
  induction frames generalizing place blocks with
  | nil =>
    have leads : LeadsThrough env levels [] := ⟨bodies, fun _ _ same => nomatch same⟩
    exact exists_enough_blocks noExtension leads place 0 blocks
  | cons slots beneath ih =>
    have leads : LeadsThrough env levels (slots :: beneath) := by
      refine ⟨bodies, fun top rest same content => ?_⟩
      obtain ⟨rfl, rfl⟩ := List.cons.inj same
      exact ih content.place content.blocks
    exact exists_enough_blocks noExtension leads place 0 blocks

/-- Blocks anywhere come through: an induction on the levels left, of which each component takes one. -/
theorem exists_enough (noExtension : ∀ name plan, env.renderers.lookup name ≠ some (.extension plan)) (levels : Nat)
    (frames : FrameSlots) (place : Place) (blocks : List Block) :
    ∃ enough, BlocksComeThrough env enough levels frames place 0 blocks := by
  induction levels generalizing frames place blocks with
  | zero =>
    have bottom (left : Nat) : 0 ≠ left + 1 := Nat.zero_ne_add_one left
    exact exists_enough_of_bodies noExtension (fun left same => absurd same (bottom left)) frames place blocks
  | succ levels ih =>
    refine exists_enough_of_bodies noExtension (fun left same frames ref blocks => ?_) frames place blocks
    obtain rfl : levels = left := Nat.succ.inj same
    exact ih frames (.body ref) blocks

/-- Where a session stands tells how many levels are left, and how many frames are in sight. -/
theorem Session.Stands.renderBlocks_eq {s : Session} (h : s.Stands env levels frames) (place : Place)
    (blocks : List Block) :
    renderBlocks env place blocks s = renderFrom env (waysFrom env levels frames.length) place 0 blocks s := by
  have left : levelsLeft env s = levels := by
    unfold levelsLeft DepthLimit.levelsFrom
    rw [h.bound]
    show (s.depth + levels - s.depth).toNat = levels
    omega
  have sight : s.frames.length = frames.length := by rw [← h.frames, List.length_map]
  rw [renderBlocks_apply, left, sight]
  rfl

end

/-- A page does the same if its blocks do, wherever its sources are pushed. -/
theorem renderPageThrough_congr {env : Environment} {render : Place → Block → RenderM String} {levels : Nat}
    {frames : FrameSlots} {blocks : Value} (sources : Value)
    (same : ∀ given, Block.ofSeries blocks = .ok given → ∀ t, Session.Stands t env levels frames →
      renderEach render .page 0 given t = renderFrom env (waysFrom env levels frames.length) .page 0 given t)
    {s : Session} (h : s.Stands env levels frames) :
    renderPageThrough render blocks sources s = renderPage env blocks sources s := by
  unfold renderPageThrough renderPage withActive
  refine undoing_congr _ (bind_congr_at rfl fun entries t read => ?_)
  obtain rfl := (Prod.mk.inj read).2
  refine undoing_congr _ (bind_congr_at rfl fun given t described => ?_)
  obtain rfl := (Prod.mk.inj described).2
  have series : Block.ofSeries blocks = .ok given := (Prod.mk.inj described).1
  have stands : Session.Stands ((s.surround s.activated).pushEntries entries) env levels frames :=
    ⟨h.bound, h.frames, h.faithful⟩
  rw [stands.renderBlocks_eq]
  exact same given series _ stands

/-- Rendering ends: with a limit on components, and for any page, patterns and guard, there is a number of calls of
which there are never more inside of each other, and neither are there more bodies of components or contents of slots
than the limit allows. What would be done if there were makes no difference. Nor does evaluating an expression that does
not ask for `applyData` go on without end: it takes fewer levels than its text has characters, and one more. -/
theorem Environment.exists_renderCalls (env : Environment)
    (noExtension : ∀ name plan, env.renderers.lookup name ≠ some (.extension plan)) {limit : Nat}
    (bound : env.maxDepth.bound = some (limit : Int)) (page : Page) :
    (∃ calls, ∀ other, env.renderThrough (renderCalls env other calls limit limit) page = env.render page) ∧
      ∀ text, AsksNoData env.engine.modifiers text → ∀ data sources levels, text.length < levels →
        evaluateNested env.engine.modifiers data sources levels text = evaluate env.engine.modifiers sources text := by
  refine ⟨?_, fun text free data sources levels enough => free.evaluateNested_eq data sources enough⟩
  obtain ⟨calls, comes⟩ : ∃ calls, ∀ blocks, Block.ofSeries page.blocks = .ok blocks →
      BlocksComeThrough env calls limit [] .page 0 blocks := by
    cases described : Block.ofSeries page.blocks with
    | error f => exact ⟨0, fun _ impossible => nomatch impossible⟩
    | ok blocks =>
      obtain ⟨calls, comes⟩ := exists_enough noExtension limit [] .page blocks
      exact ⟨calls, fun _ same => Except.ok.inj same ▸ comes⟩
  refine ⟨calls, fun other => ?_⟩
  have through : env.renderThrough (renderCalls env other calls limit limit) page =
      (registering page.globals page.previews >>= fun _ =>
        renderPageThrough (renderCalls env other calls limit limit) page.blocks page.sources)
          (Session.start env.host) := by
    unfold registering
    rw [bind_assoc]
    rfl
  rw [through, render_eq_registering]
  refine bind_congr_at rfl fun _ t registered => ?_
  obtain ⟨context, -, same⟩ := registering_snd page.globals page.previews env.host
  rw [registered] at same
  obtain rfl : t = { Session.start env.host with context := context } := same
  have stands : Session.Stands { Session.start env.host with context := context } env limit [] :=
    ⟨bound.trans (by simp [Session.start]), rfl, PatternCache.faithful_empty env.loader⟩
  refine renderPageThrough_congr page.sources (fun given described u standing => ?_) stands
  exact comes given described calls le_rfl other limit (by simp) u standing

/-! ## A pattern within itself -/

/-- A placeholder for the slot `rest`. -/
def restPlaceholder : Block :=
  ⟨.text "slot-placeholder", [(.text "name", .text "rest")], [], [], .tuple⟩

/-- An instance of a pattern that hands the slot on. -/
def restForwarding : Block :=
  ⟨.text "component", [(.text "ref", .text "chain")],
    [⟨.text "slot-content", [(.text "name", .text "rest")], [restPlaceholder], [], .tuple⟩], [], .tuple⟩

/-- An environment in which the pattern holds the instance, and where two components may be inside of each other. -/
def chainEnvironment : Environment :=
  { Environment.ofPatterns [("chain", .built ⟨"chain", [restForwarding, restPlaceholder], []⟩)] with
    maxDepth := .ofInt 2
    slotGuard := .off }

/-- A page with the instance, and an expression. -/
theorem exists_renderCalls_chain :
    (∃ calls, ∀ other,
      chainEnvironment.renderThrough (renderCalls chainEnvironment other calls 2 2)
          ⟨.list (Block.toValues [restForwarding]), .null, .null, .null⟩ =
        chainEnvironment.render ⟨.list (Block.toValues [restForwarding]), .null, .null, .null⟩) ∧
      AsksNoData chainEnvironment.engine.modifiers "item.name" ∧
      evaluateNested chainEnvironment.engine.modifiers (fun _ _ => .error .endless) [] 10 "item.name" =
        evaluate chainEnvironment.engine.modifiers [] "item.name" := by
  have keys : (Expression.ofText "item.name").segments = [.key "item", .key "name"] := by cbv
  have free : AsksNoData chainEnvironment.engine.modifiers "item.name" := by
    refine .intro (fun _ name args there => ?_) (fun _ name args there => ?_) <;> simp [keys] at there
  have bound : chainEnvironment.maxDepth.bound = some ((2 : Nat) : Int) := rfl
  obtain ⟨comes, evaluated⟩ := Environment.exists_renderCalls chainEnvironment
    (fun _ _ registered => defaultRenderers_ne_extension registered) bound
    ⟨.list (Block.toValues [restForwarding]), .null, .null, .null⟩
  exact ⟨comes, free, evaluated "item.name" free _ _ _ (by decide)⟩

end DynamicBlocks
