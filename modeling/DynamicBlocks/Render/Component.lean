import DynamicBlocks.Component.Props
import DynamicBlocks.Render.Content
import DynamicBlocks.Render.Scope

/-!
# Components

A component instance becomes the body of the pattern it refers to. Its properties are evaluated where it
stands; the body then sees the properties and which slots are filled, besides the global sources, and nothing
else of the place where the instance stands. A reference that leads to no pattern, and a component nested too
deep, leave a warning and no text.
-/

set_option autoImplicit false

namespace DynamicBlocks

/-- The entry under which a body finds its properties, with a note of the caller's entries. -/
def propsEntry (callers : List Entry) (props : List (String × Value)) : Entry :=
  ⟨.component, .text "props", .ofFields props,
    [(.text "parentDynamicContent", .list (callers.map Entry.toValue))]⟩

/-- The entry under which a body finds which slots are empty. -/
def slotsEntry (slots : List (String × SlotContent)) : Entry :=
  ⟨.componentSlots, .text "slots", .ofFields (slots.map fun slot =>
    (slot.1, .ofFields [("empty", .bool slot.2.blocks.isEmpty)])), []⟩

def Block.ref (block : Block) : Value :=
  Entries.field block.attrs "ref"

/-- The warning for a reference without a pattern. -/
def missingPattern (ref : Value) : String :=
  "Component reference '" ++ ref.plain ++ "' does not resolve to a pattern"

/-- The attributes of an instance, evaluated; those under other keys than texts are left out. -/
def Environment.instanceAttributes (env : Environment) (sources : List Source) (block : Block) :
    Except Failure (List (String × Value)) := do
  let given := Entries.field block.attrs "attributes"
  let entries ← if given.isTruthy then given.asEntries else pure []
  let attributes ← entries.mapM fun entry =>
    match entry.1 with
    | .text key => do
      let v ← env.resolveContent sources entry.2
      pure (some (key, v))
    | _ => pure none
  pure (attributes.filterMap id)

/-- What properties of an instance are evaluated with. -/
def Environment.propScope (env : Environment) (sources : List Source) : PropScope :=
  ⟨env.engine.modifiers, some env.engine.loops, sources⟩

/-- The frame of an instance in its surroundings. -/
def Surroundings.frameFor (a : Surroundings) (env : Environment) (place : Place) (block : Block) : SlotFrame where
  slots := block.slots place env.slotBlock
  component := block
  place := place
  level := a.opened
  parent := a.frames.head?.map (·.component)
  entries := a.context.nonGlobal
  sources := a.context.sources []

namespace RenderM

def frameOf (env : Environment) (place : Place) (block : Block) : RenderM SlotFrame := fun s =>
  (.ok (s.frameFor env place block), s)

/-- An action whose failure for depth becomes a warning and no text. -/
def absorbDepth (action : RenderM (Option String)) : RenderM (Option String) := fun s =>
  match action s with
  | (.error (.renderDepth ref limit), after) =>
    (.ok none, { after with toMemory := after.toMemory.warn (Failure.renderDepth ref limit).compact })
  | done => done

/-- The body of a pattern rendered for an instance with properties, given how blocks of a body are. -/
def renderBody (env : Environment) (ref : Value) (frame : SlotFrame) (props : List (String × Value))
    (body : RenderM String) : RenderM (Option String) :=
  absorbDepth (some <$> withComponent env ref
    (withIsolated [propsEntry frame.entries props, slotsEntry frame.slots] (withFrame frame body)))

/-- The properties of an instance of a pattern, evaluated where the instance stands. -/
def propsOf (env : Environment) (block : Block) (pattern : Pattern) : RenderM (List (String × Value)) := do
  let sources ← sourcesOf block
  let attributes ← ofExcept (env.instanceAttributes sources block)
  ofLoops ((env.propScope sources).properties pattern.props attributes)

/-- The properties of an instance are decided by the context and the answers to requests, and finding them changes
nothing but the cache of items. -/
theorem propsOf_apply (env : Environment) (block : Block) (pattern : Pattern) (s : Session) :
    propsOf env block pattern s =
      match env.instanceAttributes (s.context.sources block.context) block with
      | .error f => (.error f, s)
      | .ok attributes =>
        RenderM.ofLoops ((env.propScope (s.context.sources block.context)).properties pattern.props attributes) s := by
  have read : sourcesOf block s = (.ok (s.context.sources block.context), s) := rfl
  unfold propsOf
  rw [bind_of_ok read]
  cases env.instanceAttributes (s.context.sources block.context) block <;> rfl

/-- An instance of a pattern rendered, given how the body is. -/
def renderInstance (env : Environment) (place : Place) (block : Block) (pattern : Pattern) (body : RenderM String) :
    RenderM String := do
  let props ← propsOf env block pattern
  let frame ← frameOf env place block
  match ← renderBody env block.ref frame props body with
  | some text => postProcess env block text
  | none => pure ""

/-- A component rendered, given how the body of a pattern is. -/
def renderComponent (env : Environment) (place : Place) (block : Block)
    (body : (ref : String) → List Block → RenderM String) : RenderM String :=
  if PatternCache.asksNothing block.ref then pure ""
  else do
    match ← findPattern env block.ref with
    | none => do
      warn (missingPattern block.ref)
      pure ""
    | some pattern =>
      if pattern.blocks.isEmpty then pure ""
      else renderInstance env place block pattern (body block.ref.plain pattern.blocks)

end RenderM

end DynamicBlocks
