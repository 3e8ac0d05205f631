import DynamicBlocks.Html.Markup
import DynamicBlocks.Render.Session

/-!
# Text and elements

A text block is its content with every expression replaced by its text, escaped if the environment says so.
An element is a tag with attributes around the blocks inside it. An attribute that comes out as null or false
is left out, one that comes out as true has no value, and any other value is always escaped. Void elements
have nothing inside.
-/

set_option autoImplicit false

namespace DynamicBlocks

/-- The attributes that only editors use. -/
def editorAttributes : List String := ["data-note"]

def voidElements : List String :=
  ["area", "base", "br", "col", "embed", "hr", "img", "input", "link", "meta", "source", "track", "wbr"]

/-- The content of a text block, if it is a text with characters in it. -/
def Block.content? (block : Block) : Option String :=
  match Entries.field block.attrs "content" with
  | .text s => if s = "" then none else some s
  | _ => none

namespace Environment

/-- A template as text, the values escaped if the environment says so. -/
def substitute (env : Environment) (sources : List Source) (s : String) : Except Failure String :=
  substituteWith (if env.autoescape then Html.escape else id) env.engine.modifiers sources s

def resolveContent (env : Environment) (sources : List Source) (v : Value) : Except Failure Value :=
  DynamicBlocks.resolveContent env.engine.modifiers sources v

/-- An attribute as it is written, with a blank in front; nothing for one that is left out. -/
def attributeText (name : String) (v : Value) : Except Failure String :=
  match v with
  | .null => .ok ""
  | .bool false => .ok ""
  | .bool true => .ok (" " ++ name)
  | v => do
    let text ← v.display
    pure (" " ++ name ++ "=\"" ++ Html.escape text ++ "\"")

/-- The attribute that an entry gives to an element. -/
def elementAttribute (env : Environment) (sources : List Source) (entry : Value × Value) : Except Failure String :=
  match entry.1 with
  | .text name =>
    if editorAttributes.contains name then .ok ""
    else do
      let v ← env.resolveContent sources entry.2
      attributeText name v
  | _ => .ok ""

/-- The attributes of an element. -/
def elementAttributes (env : Environment) (sources : List Source) (attributes : Value) : Except Failure String := do
  let entries ← if attributes.isTruthy then attributes.asEntries else pure []
  let texts ← entries.mapM (env.elementAttribute sources)
  pure (Text.join "" texts)

end Environment

def Block.tag (block : Block) : String :=
  ((Entries.field block.attrs "tag").orElse (.text "div")).plain

namespace RenderM

/-- A text block rendered. -/
def renderText (env : Environment) (block : Block) : RenderM String :=
  match block.content? with
  | none => pure ""
  | some content => do
    let sources ← sourcesOf block
    let text ← ofExcept (env.substitute sources content)
    postProcess env block text

/-- An element rendered, given how the blocks inside it are. -/
def renderElement (env : Environment) (block : Block) (inner : RenderM String) : RenderM String := do
  let sources ← sourcesOf block
  let attributes ← ofExcept (env.elementAttributes sources (Entries.field block.attrs "attributes"))
  let opening := "<" ++ block.tag ++ attributes ++ ">"
  if voidElements.contains block.tag then postProcess env block opening
  else do
    let text ← inner
    postProcess env block (opening ++ text ++ "</" ++ block.tag ++ ">")

end RenderM

end DynamicBlocks
