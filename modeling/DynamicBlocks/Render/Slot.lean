import DynamicBlocks.Render.Scope

/-!
# Slots

A placeholder in the body of a component becomes the content that the instance gave for the slot, rendered as
if it stood where the instance stands: with the caller's entries, and with the caller's slots in place of those
of the component. Content that asks for a slot that is being rendered is cut off, so that nothing goes on
without end. The guard tells slots by the block of their instance. That and two other guards, one that tells
instances apart and none at all, are given here side by side, so that they can be compared.
-/

set_option autoImplicit false

namespace DynamicBlocks

/-- The entry that marks slot content on the stack. -/
def slotMark (name : String) : Entry :=
  ⟨.slot, .null, .null, [(.text "name", .text name)]⟩

namespace SlotFrame

/-- The content of a slot, if there are blocks in it. -/
def content? (frame : SlotFrame) (name : String) : Option SlotContent :=
  (frame.slots.lookup name).filter fun content => !content.blocks.isEmpty

/-- The key under which a slot of the instance is guarded. -/
def guardKey (frame : SlotFrame) (name : String) : GuardKey :=
  .slot frame.place frame.level name

end SlotFrame

/-- What a guard says when a slot is to be rendered. -/
inductive GuardAnswer where
  /-- The slot is rendered. -/
  | enter
  /-- The slot is not rendered. -/
  | refuse
  /-- The slot is rendered and noted, for it is being rendered already. -/
  | repeated
  deriving DecidableEq

/-- What the guard of an environment says to a slot, where some slots are being rendered. -/
def Environment.answer (env : Environment) (guard : List GuardKey) (key : GuardKey) : GuardAnswer :=
  match env.slotGuard with
  | .byBlock => if guard.any key.same then .refuse else .enter
  | .byInstance => if guard.any key.sameInstance then .refuse else .enter
  | .off => if guard.any key.same then .repeated else .enter

namespace RenderM

def currentFrame? : RenderM (Option SlotFrame) := fun s =>
  (.ok s.frames.head?, s)

/-- An action whose outcome is noted for a slot that was rendered while it was being rendered. -/
def noting (key : GuardKey) (action : RenderM String) : RenderM String := fun s =>
  let (outcome, after) := action s
  (outcome, { after with toMemory := after.toMemory.note ⟨key, outcome⟩ })

/-- An action for a slot, as the guard says. -/
def unlessGuarded (env : Environment) (key : GuardKey) (action : RenderM String) : RenderM String := fun s =>
  match env.answer s.guard key with
  | .enter => withGuard key action s
  | .refuse => (.ok "", s)
  | .repeated => noting key (withGuard key action) s

/-- The content of a slot in the context of the caller, given how content is rendered. -/
def renderFilled (env : Environment) (frame : SlotFrame) (name : String) (fill : RenderM String) : RenderM String :=
  unlessGuarded env (frame.guardKey name)
    (withOuterFrames (withIsolated (frame.entries ++ [slotMark name]) fill))

/-- A placeholder rendered, given how content is. -/
def renderPlaceholder (env : Environment) (block : Block) (fill : SlotContent → RenderM String) : RenderM String :=
  match block.slotName? with
  | none => pure ""
  | some name => do
    match ← currentFrame? with
    | none => pure ""
    | some frame =>
      match frame.content? name with
      | none => pure ""
      | some content => renderFilled env frame name (fill content)

end RenderM

end DynamicBlocks
