import DynamicBlocks.Context.Source
import DynamicBlocks.Value.Display

/-!
# Modifiers

A modifier is a named operation on values: it takes the value to its left and arguments by place or by name.
Most need nothing else; some look at the sources in force; one resolves the expressions inside its value and
for this calls back into resolution.
-/

set_option autoImplicit false

namespace DynamicBlocks

/-- The arguments of a modifier, resolved. -/
structure Arguments where
  positional : List Value
  named : List (String × Value)
  deriving Inhabited

/-- An operation on values. -/
inductive Modifier where
  /-- A function of value and arguments. -/
  | plain (run : Value → Arguments → Except Failure Value)
  /-- A function that also sees the sources in force. -/
  | scoped (run : List Source → Value → Arguments → Except Failure Value)
  /-- Resolves the expressions inside the value. -/
  | applyData
  deriving Inhabited

/-- A parameter of a modifier. -/
structure Parameter where
  name : String
  required : Bool
  deriving DecidableEq

/-- A parameter that must be given. -/
def Parameter.must (name : String) : Parameter := ⟨name, true⟩

/-- A parameter that may be left out. -/
def Parameter.may (name : String) : Parameter := ⟨name, false⟩

/-- The arguments in the order of the parameters. Arguments by place come first; each of the others names a
parameter that is not taken yet, and no required one may be missing. -/
def Arguments.bind (args : Arguments) (parameters : List Parameter) : Except Failure (List (Option Value)) :=
  let open_ := parameters.drop args.positional.length
  if parameters.length < args.positional.length then .error .wrongType
  else if args.named.any fun arg => !(open_.any fun parameter => parameter.name == arg.1) then .error .wrongType
  else
    let given := open_.map fun parameter => (parameter, args.named.lookup parameter.name)
    if given.any fun (parameter, value) => parameter.required && value.isNone then .error .wrongType
    else .ok (args.positional.map some ++ given.map (·.2))

namespace Modifier

/-- A modifier without parameters. -/
def simple (run : Value → Except Failure Value) : Modifier :=
  .plain fun value args => do
    let _ ← args.bind []
    run value

/-- A modifier with one parameter that must be given. -/
def unary (name : String) (run : Value → Value → Except Failure Value) : Modifier :=
  .plain fun value args => do
    match ← args.bind [.must name] with
    | [some first] => run value first
    | _ => .error .wrongType

/-- A modifier with one parameter that may be left out. -/
def unary? (name : String) (run : Value → Option Value → Except Failure Value) : Modifier :=
  .plain fun value args => do
    match ← args.bind [.may name] with
    | [first] => run value first
    | _ => .error .wrongType

/-- A modifier with two parameters, of which the second may be left out. -/
def binary (first second : Parameter) (run : Value → Option Value → Option Value → Except Failure Value) : Modifier :=
  .plain fun value args => do
    match ← args.bind [first, second] with
    | [a, b] => run value a b
    | _ => .error .wrongType

/-- A modifier with any number of arguments by place. -/
def variadic (run : Value → List Value → Except Failure Value) : Modifier :=
  .plain fun value args =>
    if args.named.isEmpty then run value args.positional else .error .wrongType

end Modifier

/-- The modifiers by name, in the order they were registered. -/
abbrev ModifierTable := List (String × Modifier)

namespace ModifierTable

def get? (table : ModifierTable) (name : String) : Option Modifier :=
  table.lookup name

def contains (table : ModifierTable) (name : String) : Bool :=
  (table.lookup name).isSome

/-- The table with a modifier registered: a known name keeps its place. -/
def set (table : ModifierTable) (name : String) (modifier : Modifier) : ModifierTable :=
  if contains table name then
    table.map fun entry => if entry.1 = name then (name, modifier) else entry
  else table ++ [(name, modifier)]

def setAll (table more : ModifierTable) : ModifierTable :=
  more.foldl (fun table entry => set table entry.1 entry.2) table

def names (table : ModifierTable) : List String :=
  table.map (·.1)

end ModifierTable

end DynamicBlocks
