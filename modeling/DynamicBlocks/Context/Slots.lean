import DynamicBlocks.Block.Basic
import DynamicBlocks.Block.Place
import DynamicBlocks.Context.Entry

/-!
# Component slots

A component has named slots that its instance fills with blocks. For every component being rendered a frame
keeps the filled slots together with the context of the caller, for slot content belongs to the caller and is
rendered in the caller's context, not in that of the component.
-/

set_option autoImplicit false

namespace DynamicBlocks

/-- The blocks that fill a slot, and the place of the block they stand in. -/
structure SlotContent where
  place : Place
  blocks : List Block
  deriving Inhabited

/-- What is kept of a component instance while its pattern is rendered. -/
structure SlotFrame where
  slots : List (String × SlotContent)
  /-- The instance. -/
  component : Block
  /-- The place of the instance. -/
  place : Place
  /-- How many frames were open when this one was opened. No two frames that are open have the same level. -/
  level : Int
  /-- The instance whose pattern or slot content the instance stands in. -/
  parent : Option Block
  /-- The caller's entries. -/
  entries : List Entry
  /-- The caller's sources. -/
  sources : List Source
  deriving Inhabited

/-- The name of the slot that a block fills: its attribute `name`, if that is a text with characters in it. -/
def Block.slotName? (block : Block) : Option String :=
  match Entries.field block.attrs "name" with
  | .text name => if name = "" then none else some name
  | _ => none

/-- The slot that a block of a given name fills, with its content. -/
def Block.filledSlot? (block : Block) (place : Place) (slotBlock : String) : Option (String × SlotContent) :=
  if block.name.same (.text slotBlock) then block.slotName?.map fun name => (name, ⟨place, block.inner⟩) else none

/-- Slots of which the first of a name counts. -/
def firstOfName : List (String × SlotContent) → List (String × SlotContent)
  | [] => []
  | slot :: slots => slot :: (firstOfName slots).filter fun later => later.1 != slot.1

/-- The slots that an instance fills. Only the blocks directly inside it count, so that the content of a
component nested in it is never taken. -/
def Block.slots (block : Block) (place : Place) (slotBlock : String) : List (String × SlotContent) :=
  firstOfName (block.inner.zipIdx.filterMap fun (child, position) => child.filledSlot? (place.child position) slotBlock)

/-- The frames of the components being rendered, the innermost first. -/
abbrev SlotFrames := List SlotFrame

namespace SlotFrames

/-- How a pop without a frame fails. -/
def imbalance : Failure := .frameImbalance "component slot stack"

/-- The innermost frame and the others. -/
def pop (frames : SlotFrames) : Except Failure (SlotFrame × SlotFrames) :=
  match frames with
  | [] => .error imbalance
  | frame :: frames => .ok (frame, frames)

/-- The frames without the innermost one, and what is put back when slot content is done. -/
def hide (frames : SlotFrames) : Option SlotFrame × SlotFrames :=
  match frames with
  | [] => (none, [])
  | frame :: frames => (some frame, frames)

/-- The frames with a hidden one put back. -/
def restore (hidden : Option SlotFrame) (frames : SlotFrames) : SlotFrames :=
  hidden.toList ++ frames

/-- What was hidden comes back. -/
theorem restore_hide (frames : SlotFrames) : restore (hide frames).1 (hide frames).2 = frames := by
  cases frames <;> rfl

end SlotFrames

/-- The slots that count are some of those given, in their order. -/
theorem firstOfName_sublist (slots : List (String × SlotContent)) : (firstOfName slots).Sublist slots := by
  induction slots with
  | nil => exact .refl _
  | cons slot slots ih => exact (List.filter_sublist.trans ih).cons_cons slot

end DynamicBlocks
