import DynamicBlocks.Json.Writer
import DynamicBlocks.Value.Shape

/-!
# Values in content

How values act once they reach the page. A loop reference stands for its items, and so does a mapping marked
as one. A value shown in text is plain: null is empty, a whole double has no point, lists are joined by commas
and mappings are JSON.
-/

set_option autoImplicit false

namespace DynamicBlocks

/-- What a loop goes over, a list as a rule, together with the name of the preset it comes from. -/
structure LoopRef where
  key : String
  data : Value
  deriving Inhabited

/-- The mark of a mapping that stands for a loop reference. -/
def Entries.isLoop (entries : Entries) : Bool :=
  match entries.field? "prop-type" with
  | some (.text s) => s == "loop"
  | _ => false

namespace LoopRef

/-- The reference that a value is or stands for. -/
def ofValue? : Value → Option LoopRef
  | .loop key data => some ⟨key, data⟩
  | .map entries =>
    if Entries.isLoop entries then
      let key := (Entries.field entries "key").orElse (.text "")
      some ⟨key.plain, match Entries.field entries "data" with
        | .list items => .list items
        | _ => .list []⟩
    else none
  | _ => none

def toValue (r : LoopRef) : Value :=
  .loop r.key r.data

/-- The items that going through the data yields. -/
def items (r : LoopRef) : Except Failure (List Value) :=
  r.data.series

/-- The mapping that stands for the reference. -/
def toEntries (r : LoopRef) : Except Failure Entries := do
  let items ← r.items
  pure [(.text "prop-type", .text "loop"), (.text "key", .text r.key), (.text "data", .list items)]

/-- A reference is recovered from its value. -/
theorem ofValue?_toValue (r : LoopRef) : ofValue? r.toValue = some r := rfl

end LoopRef

/-- A loop reference replaced by the list of its items; other values as they are. -/
def Value.unwrap (v : Value) : Except Failure Value :=
  match LoopRef.ofValue? v with
  | some r => .list <$> r.items
  | none => .ok v

mutual

/-- The text of a value shown in content. -/
def Value.display : Value → Except Failure String
  | .null => .ok ""
  | .text s => .ok s
  | .bool b => .ok (if b then "true" else "false")
  | .int n => .ok (intText n)
  | .double x => .ok (if x.isWhole then intText x.truncate else x.text)
  | .list items => do
    let texts ← Value.displayItems items
    pure (Text.join ", " texts)
  | .loop _ data => Value.displaySeries data
  | .map entries =>
    if Entries.isLoop entries then Value.displayData entries
    else Json.write .readable (.map entries)
  | value => .ok value.plain

/-- The text of what going through a value yields. -/
def Value.displaySeries : Value → Except Failure String
  | .list items => do
    let texts ← Value.displayItems items
    pure (Text.join ", " texts)
  | .text s => .ok (Text.join ", " (s.toList.map String.singleton))
  | .map entries => do
    let texts ← Value.displayKeys entries
    pure (Text.join ", " texts)
  | _ => .error .wrongType

/-- The texts of the keys of entries. -/
def Value.displayKeys : List (Value × Value) → Except Failure (List String)
  | [] => .ok []
  | (key, _) :: entries => do
    let text ← Value.display key
    let texts ← Value.displayKeys entries
    pure (text :: texts)

/-- The texts of items shown in content. -/
def Value.displayItems : List Value → Except Failure (List String)
  | [] => .ok []
  | item :: items => do
    let text ← Value.display item
    let texts ← Value.displayItems items
    pure (text :: texts)

/-- The text of the items that a mapping holds as its data. -/
def Value.displayData : List (Value × Value) → Except Failure String
  | [] => .ok ""
  | (key, value) :: entries =>
    if key.same (.text "data") then
      match value with
      | .list items => do
        let texts ← Value.displayItems items
        pure (Text.join ", " texts)
      | _ => .ok ""
    else Value.displayData entries

end

end DynamicBlocks
