import DynamicBlocks.Block.Basic

/-!
# Patterns

A pattern is the reusable body of a component: blocks, and the properties that an instance may set. A property
has a key, a primitive type, perhaps a specialized one, and a default. A property specialized to `array` takes
a whole loop.
-/

set_option autoImplicit false

namespace DynamicBlocks

/-- The primitive type of a property. Types of other names leave values as they are. -/
inductive Primitive where
  | string
  | number
  | boolean
  | array
  | object
  | other (name : Value)
  deriving Inhabited

namespace Primitive

/-- The type that a value names. -/
def ofValue (v : Value) : Primitive :=
  match v with
  | .text "string" => .string
  | .text "number" => .number
  | .text "boolean" => .boolean
  | .text "array" => .array
  | .text "object" => .object
  | v => .other v

/-- The name of a type. -/
def toValue : Primitive → Value
  | .string => .text "string"
  | .number => .text "number"
  | .boolean => .text "boolean"
  | .array => .text "array"
  | .object => .text "object"
  | .other v => v

end Primitive

/-- A declared property of a component. -/
structure PropDefinition where
  key : String
  primitive : Primitive
  specialized : Value
  default : Value
  deriving Inhabited

namespace PropDefinition

/-- Whether the property takes a whole loop. -/
def isLoop (definition : PropDefinition) : Bool :=
  definition.specialized.same (.text "array")

/-- The primitive and specialized types from what declares them: a mapping of both, or the primitive alone. -/
def typesOf : Value → Primitive × Value
  | .map entries =>
    (.ofValue ((Entries.field entries "primitive").orElse (.text "string")), Entries.field entries "specialized")
  | .text s => (.ofValue ((Value.text s).orElse (.text "string")), .null)
  | _ => (.string, .null)

/-- The property that a mapping declares; none without a key. -/
def ofEntries? (entries : Entries) : Option PropDefinition :=
  match Entries.field entries "key" with
  | .text key =>
    if key = "" then none
    else
      let types := typesOf (Entries.field entries "type")
      some ⟨key, types.1, types.2, Entries.field entries "default"⟩
  | _ => none

/-- The properties that items declare; what is no mapping is passed over. -/
def ofItems (items : List Value) : List PropDefinition :=
  items.filterMap fun
    | .map entries => ofEntries? entries
    | _ => none

end PropDefinition

/-- A reusable component body with its declared properties. -/
structure Pattern where
  id : String
  blocks : List Block
  props : List PropDefinition
  deriving Inhabited

/-- The pattern that a value describes under a reference. -/
def Pattern.ofValue (id : String) (v : Value) : Except Failure Pattern := do
  let entries ← v.asMapping
  let props ← (Block.firstField entries ["props", "properties"]).seriesOrNone
  let blocks ← Block.ofSeries (Entries.field entries "blocks")
  pure ⟨id, blocks, PropDefinition.ofItems props⟩

end DynamicBlocks
