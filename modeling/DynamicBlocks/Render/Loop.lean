import DynamicBlocks.Render.Scope

/-!
# Loops

A loop renders the blocks inside it once for every item. The items are those of a preset that the block names,
changed by the modifiers of its target, or else those of the target. While an item is rendered, it is a local
source, by default under the name `item`, and so is its index, if the block names one.
-/

set_option autoImplicit false

namespace DynamicBlocks

namespace Block

/-- The target of a loop; anything but a text is no target. -/
def loopTarget (block : Block) : String :=
  match Entries.field block.attrs "target" with
  | .text s => s
  | _ => ""

/-- The preset that a loop names. -/
def loopId? (block : Block) : Option String :=
  match Entries.field block.attrs "loopId" with
  | .text s => if s = "" then none else some s
  | _ => none

/-- The key under which a loop's items are sources. -/
def itemKey (block : Block) : Value :=
  (Entries.field block.attrs "itemId").orElse (.text "item")

/-- The key under which the index of an item is a source, if there is one. -/
def indexKey? (block : Block) : Option Value :=
  let key := Entries.field block.attrs "indexId"
  if key.isTruthy then some key else none

/-- The entries for an item. -/
def itemEntries (block : Block) (index : Nat) (item : Value) : List Entry :=
  let entry (key source : Value) (role : String) : Entry :=
    ⟨.localValue, key, source, [(.text "loop", .text role), (.text "currentIndex", .int index)]⟩
  entry block.itemKey item "item" ::
    match block.indexKey? with
    | some key => [entry key (.int index) "index"]
    | none => []

end Block

namespace RenderM

/-- What a loop goes over, a list as a rule. -/
def loopData (env : Environment) (block : Block) (sources : List Source) : RenderM Value :=
  match block.loopId? with
  | none => .list <$> ofLoops (env.engine.targetItems sources block.loopTarget)
  | some id => do
    let params ← ofExcept (env.engine.givenParams sources (Entries.field block.attrs "loopParams"))
    let items ← ofLoops (env.engine.loops.items (.text (loopName id)) params)
    if block.loopTarget = "" then pure items
    else ofExcept (env.engine.modifiedItems sources items block.loopTarget)

/-- The items of a loop rendered in order, given how the blocks inside it are. -/
def renderItems (block : Block) (inner : RenderM String) : (index : Nat) → List Value → RenderM String
  | _, [] => pure ""
  | index, item :: items => do
    let first ← withPushed (block.itemEntries index item) inner
    let rest ← renderItems block inner (index + 1) items
    pure (first ++ rest)

/-- A loop rendered, given how the blocks inside it are. -/
def renderLoop (env : Environment) (block : Block) (inner : RenderM String) : RenderM String := do
  let sources ← sourcesOf block
  let data ← loopData env block sources
  let items ← ofExcept data.seriesOrNone
  renderItems block inner 0 items

end RenderM

end DynamicBlocks
