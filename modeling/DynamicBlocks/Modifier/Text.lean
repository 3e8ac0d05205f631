import DynamicBlocks.Html.Markup
import DynamicBlocks.Modifier.Conversion
import DynamicBlocks.Text.Percent

/-!
# Text modifiers

Operations on the text of a value: case, trimming, cutting, splitting and joining.
-/

set_option autoImplicit false

namespace DynamicBlocks.Value

open Text

/-- The text of a value with a function applied. -/
def mapText (f : String → String) (v : Value) : Except Failure Value := do
  let text ← v.display
  pure (.text (f text))

/-- The text without any of the given characters at both ends. -/
def trimOf (chars cs : List Char) : List Char :=
  ((cs.dropWhile chars.contains).reverse.dropWhile chars.contains).reverse

/-- The text without blanks, or without given characters, at both ends. -/
def trimmed (v : Value) (chars : Option Value) : Except Failure Value := do
  let text ← v.display
  match chars.getD .null with
  | .null => pure (.text (trim text))
  | .text set => pure (.text (String.ofList (trimOf set.toList text.toList)))
  | _ => .error .wrongType

/-- The text cut to a number of characters, blanks at the cut dropped and a mark put behind. A text that is
not longer, and every text for a negative number, stays whole. -/
def truncated (v : Value) (length suffix : Option Value) : Except Failure Value := do
  let text ← v.display
  let limit ← (length.getD (.int 100)).toInt
  if limit < 0 ∨ (text.length : Int) ≤ limit then pure (.text text)
  else
    match suffix.getD (.text "...") with
    | .text mark => pure (.text (String.ofList (trimBack (text.toList.take limit.toNat)) ++ mark))
    | _ => .error .wrongType

/-- The pieces of the text between separators, without blanks around them; without a separator its
characters. -/
def splitText (v : Value) (separator : Option Value) : Except Failure Value := do
  let text ← v.display
  let separator := separator.getD (.text ",")
  if text = "" then pure (.list [])
  else if separator.isTruthy then
    match separator with
    | .text s => pure (.list ((split s text).map fun piece => .text (trim piece)))
    | _ => .error .wrongType
  else pure (.list (text.toList.map fun c => .text (String.singleton c)))

/-- The text without tags, references resolved. -/
def withoutTags (v : Value) : Except Failure Value :=
  v.mapText fun text => Html.unescape (Html.dropTags text)

/-- The text as part of a web address. -/
def urlEncoded (v : Value) : Except Failure Value := do
  let text ← v.display
  match percentEncoded? text with
  | some encoded => pure (.text encoded)
  | none => .error .badValue

/-- The items of a list and of further values, or the texts of all values put together. -/
def concatenated (v : Value) (others : List Value) : Except Failure Value :=
  match v with
  | .list items =>
    .ok (.list (items ++ others.flatMap fun other => match other with
      | .list more => more
      | other => [other]))
  | v => do
    let text ← v.display
    let texts ← others.mapM display
    pure (.text (text ++ String.join texts))

/-- The texts of items with a separator between; any other value as text. -/
def joined (v : Value) (separator : Option Value) : Except Failure Value :=
  match v with
  | .list items => do
    let separator ← (separator.getD (.text ", ")).display
    let texts ← items.mapM display
    pure (.text (join separator texts))
  | v => v.mapText id

end DynamicBlocks.Value
