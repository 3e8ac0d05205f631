import DynamicBlocks.Value.Shape

/-!
# Blocks

A page is a tree of blocks. A block has a name that says how it is rendered, attributes that may hold
expressions, blocks inside it, and a context of values that the host attached to it. Blocks are handed over as
mappings in one of two spellings of the fields; a namespace in front of the name (`theme/text`) is dropped.

A name is a text. Where a list or a mapping stands in its place, it is kept as it is and no renderer goes by
that name.

A block read of a mapping holds the blocks inside it in a tuple. The host may build one that holds them in a list: it is
rendered like the other, but it is not the same block.
-/

set_option autoImplicit false

namespace DynamicBlocks

/-- A node of a content tree. -/
structure Block where
  name : Value
  attrs : Entries
  inner : List Block
  context : Entries
  /-- What the blocks inside are held in. -/
  held : SeriesKind
  deriving Inhabited

/-- The part of a name after its last slash. -/
def withoutNamespace (name : String) : String :=
  ((Text.split "/" name).getLast?).getD ""

namespace Block

/-- The name of a block from what stands in its place. -/
def nameOf (v : Value) : Except Failure Value :=
  match v.orElse (.text "") with
  | .text s => .ok (.text (withoutNamespace s))
  | .list items => if items.any (·.same (.text "/")) then .error .missingMember else .ok (.list items)
  | .map entries => if (Entries.field? entries "/").isSome then .error .missingMember else .ok (.map entries)
  | _ => .error .wrongType

/-- The first of several fields that a mapping has, null if it has none. -/
def firstField (entries : Entries) (names : List String) : Value :=
  (names.findSome? fun name => Entries.field? entries name).getD .null

mutual

/-- The block that a value describes, or is. -/
def ofValue : Value → Except Failure Block
  | .map entries => do
    let name ← nameOf (firstField entries ["blockName", "name"])
    let attrs ← (Entries.field entries "attrs").toEntriesOrNone
    let inner ← match ← innerOf "innerBlocks" entries with
      | some blocks => pure (some blocks)
      | none => innerOf "inner_blocks" entries
    let context ← (Entries.field entries "context").toEntriesOrNone
    pure ⟨name, attrs, inner.getD [], context, .tuple⟩
  | .built (.block held) fields => do
    let field (name : String) := (fields.lookup name).getD .null
    let attrs ← (field "attrs").toEntriesOrNone
    let inner ← builtInner fields
    let context ← (field "context").toEntriesOrNone
    pure ⟨field "name", attrs, inner, context, held⟩
  | v => .error (v.lacks "get")

/-- The blocks under a field of a mapping, if it has the field. -/
def innerOf (name : String) : List (Value × Value) → Except Failure (Option (List Block))
  | [] => .ok none
  | (key, value) :: entries =>
    if key.same (.text name) then some <$> ofSeries value else innerOf name entries

/-- The blocks inside a block that has been built. -/
def builtInner : List (String × Value) → Except Failure (List Block)
  | [] => .ok []
  | (name, value) :: fields => if name = "inner_blocks" then ofSeries value else builtInner fields

/-- The blocks that the items of a value describe; none for a value that counts as false. -/
def ofSeries : Value → Except Failure (List Block)
  | .list items => ofItems items
  | .map entries => if entries.isEmpty then .ok [] else .error .missingMember
  | .text s => if s = "" then .ok [] else .error .missingMember
  | v => if v.isTruthy then .error .wrongType else .ok []

/-- The blocks that values describe. -/
def ofItems : List Value → Except Failure (List Block)
  | [] => .ok []
  | item :: items => do
    let block ← ofValue item
    let blocks ← ofItems items
    pure (block :: blocks)

end

mutual

/-- The mapping that describes a block; an empty context is left out. -/
def toValue : Block → Value
  | ⟨name, attrs, inner, context, _⟩ =>
    .map ([(.text "blockName", name), (.text "attrs", .map attrs), (.text "innerBlocks", .list (toValues inner))] ++
      if context.isEmpty then [] else [(.text "context", .map context)])

/-- The mappings that describe blocks. -/
def toValues : List Block → List Value
  | [] => []
  | block :: blocks => toValue block :: toValues blocks

end

mutual

/-- The block as a value of its own, for content that holds blocks already built. -/
def asBuilt : Block → Value
  | ⟨name, attrs, inner, context, held⟩ =>
    .built (.block held) [("name", name), ("attrs", .map attrs), ("inner_blocks", .list (allBuilt inner)),
      ("context", .map context)]

/-- Blocks as values of their own. -/
def allBuilt : List Block → List Value
  | [] => []
  | block :: blocks => asBuilt block :: allBuilt blocks

end

end Block

end DynamicBlocks
