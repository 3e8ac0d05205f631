import DynamicBlocks.Json.Reader
import DynamicBlocks.Modifier.Conversion
import DynamicBlocks.Pattern.Basic

/-!
# Casting to primitive types

What an instance gives for a property becomes a value of the property's type. Null and the empty text become
the empty value of the type. A text becomes a list or mapping by its JSON, or else by its commas.
-/

set_option autoImplicit false

namespace DynamicBlocks

namespace Primitive

/-- The empty value of a type. -/
def emptyValue : Primitive → Value
  | .number => .int 0
  | .boolean => .bool false
  | .array => .list []
  | .object => .map []
  | _ => .text ""

end Primitive

namespace Value

/-- The parts of a text between commas, blanks around them and blank ones left out. -/
def commaParts (s : String) : List Value :=
  (((Text.split "," s).map Text.trim).filter (· != "")).map .text

/-- The list or mapping that a text is as JSON. -/
def jsonCollection? (s : String) : Option Value :=
  if s.toList.head? = some '[' ∨ s.toList.head? = some '\x7b' then
    match Json.read? s with
    | some (.list items) => some (.list items)
    | some (.map entries) => some (.map entries)
    | _ => none
  else none

/-- The list or mapping that a trimmed text means. -/
def collectionOf (s : String) : Value :=
  (jsonCollection? s).getD (.list (commaParts s))

/-- The list or mapping that a value is or that its text means. -/
def toCollection : Value → Except Failure Value
  | .list items => .ok (.list items)
  | .map entries => .ok (.map entries)
  | v => (collectionOf ∘ Text.trim) <$> v.display

/-- The value cast to a type. -/
def cast (v : Value) (primitive : Primitive) : Except Failure Value :=
  if v.isNull || v.isEmptyText then .ok primitive.emptyValue
  else
    match primitive with
    | .string => .text <$> v.display
    | .number => ofNumber <$> v.toNumber
    | .boolean => .ok (.bool v.toBool)
    | .array => v.toCollection
    | .object => v.toCollection
    | .other _ => .ok v

/-- Null becomes the empty value. -/
theorem cast_null (primitive : Primitive) : Value.null.cast primitive = .ok primitive.emptyValue := rfl

end Value

end DynamicBlocks
