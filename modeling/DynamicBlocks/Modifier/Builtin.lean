import DynamicBlocks.Modifier.Basic
import DynamicBlocks.Modifier.Format
import DynamicBlocks.Modifier.Number
import DynamicBlocks.Modifier.Sequence
import DynamicBlocks.Modifier.Text

/-!
# Built-in modifiers

The modifiers that every environment starts with, in the order of their listing. One of them, `format`, depends on the
local zone of the clocks where the program runs.
-/

set_option autoImplicit false

namespace DynamicBlocks

open Modifier in
/-- The built-in modifiers in a local zone. -/
def builtinModifiersIn (zone : LocalZone) : ModifierTable := [
  ("toUppercase", simple fun v => v.mapText Text.upper),
  ("toUpperCase", simple fun v => v.mapText Text.upper),
  ("toLowercase", simple fun v => v.mapText Text.lower),
  ("toLowerCase", simple fun v => v.mapText Text.lower),
  ("trim", unary? "chars" Value.trimmed),
  ("truncate", binary (.may "length") (.may "suffix") Value.truncated),
  ("split", unary? "sep" Value.splitText),
  ("stripTags", simple Value.withoutTags),
  ("urlEncode", simple Value.urlEncoded),
  ("concat", variadic Value.concatenated),
  ("toInt", simple fun v => Value.int <$> v.toInt),
  ("toNumber", simple fun v => Value.ofNumber <$> v.toNumber),
  ("toString", simple fun v => v.mapText id),
  ("toBool", simple fun v => .ok (.bool v.toBool)),
  ("toJson", simple fun v => Value.text <$> v.toJson),
  ("length", simple Value.lengthOf),
  ("at", unary "index" Value.atIndex),
  ("slice", binary (.may "start") (.may "end") Value.sliced),
  ("first", simple fun v => .ok (v.element 0)),
  ("last", simple fun v => .ok (v.element (-1))),
  ("reverse", simple fun v => .ok v.reversed),
  ("join", unary? "sep" Value.joined),
  ("includes", unary "needle" Value.includes),
  ("filter", binary (.must "key") (.may "expected") Value.filtered),
  ("pluck", unary "key" Value.plucked),
  ("round", unary? "precision" Value.rounded),
  ("ceil", simple Value.ceiling),
  ("floor", simple Value.floored),
  ("abs", simple Value.absolute),
  ("format", unary? "fmt" (Value.formatted zone)),
  ("default", unary? "fallback" fun v fallback => .ok (v.withFallback fallback)),
  ("applyData", .applyData)]

/-- The built-in modifiers where clocks show universal time. -/
def builtinModifiers : ModifierTable :=
  builtinModifiersIn .utc

end DynamicBlocks
