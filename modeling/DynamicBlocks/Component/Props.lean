import DynamicBlocks.Component.Cast
import DynamicBlocks.Loop.Service
import DynamicBlocks.Resolve.Data

/-!
# Properties of an instance

The properties that a component sees come from the defaults of its pattern and the attributes of the instance,
both evaluated where the instance stands. A property that takes a loop becomes a loop reference: the text that
names the loop, together with the items it has here. A default that refers to other properties cannot be
evaluated before there are any, so it counts as empty.
-/

set_option autoImplicit false

namespace DynamicBlocks

/-- What properties are evaluated with. -/
structure PropScope where
  modifiers : ModifierTable
  /-- The presets, if loops can be asked for at all. -/
  loops : Option LoopService
  sources : List Source

namespace PropScope

/-- A text without blanks around it and without the braces of a lone expression. -/
def withoutBraces (s : String) : String :=
  let cs := Text.trimChars s.toList
  String.ofList ((standalone? cs).getD cs)

/-- The text that names the loop a value stands for. Only expressions on properties are evaluated; all others
keep their text, for the loop to evaluate. -/
def loopKey (scope : PropScope) (v : Value) : Except Failure String :=
  if v.isList || v.isMap then .ok ""
  else do
    let expression := withoutBraces (← v.display)
    if !scope.sources.isEmpty && Text.contains expression "props." then
      match ← evaluate scope.modifiers scope.sources expression with
      | .text s => pure (if s = "" then expression else s)
      | _ => pure expression
    else pure expression

/-- The list that an expression means here, if it means one. -/
def listOf? (scope : PropScope) (expression : String) : Except Failure (Option (List Value)) :=
  if scope.sources.isEmpty then .ok none
  else do
    match ← evaluate scope.modifiers scope.sources expression with
    | .list items => pure (some items)
    | _ => pure none

/-- The items of what a text means as JSON or by its commas; a mapping is a single item. -/
def itemsOfText (s : String) : List Value :=
  itemsOf (Value.collectionOf (Text.trim s))

/-- The presets, if a text means one of them. -/
def loopsKnowing (scope : PropScope) (name : String) : Option LoopService :=
  scope.loops.filter fun loops => loops.knows (.text name)

/-- What an expression means as data of a loop: the items of a preset, those of a list, or else those of its
text. -/
def expressionData (scope : PropScope) (expression : String) : LoopM Value :=
  if expression = "" then pure (.list [])
  else
    match scope.loopsKnowing expression with
    | some loops => loops.items (.text expression) []
    | none => do
      let listed ← (scope.listOf? expression : Except Failure (Option (List Value)))
      pure (.list (listed.getD (itemsOfText expression)))

/-- The data of the loop that a value stands for. -/
def loopData (scope : PropScope) (v : Value) : LoopM Value :=
  match v with
  | .list items => pure (.list items)
  | .map entries => pure (.list [.map entries])
  | v => do
    let text ← (v.display : Except Failure String)
    scope.expressionData (withoutBraces text)

/-- The loop reference that a value stands for. -/
def loopValue (scope : PropScope) (v : Value) : LoopM Value :=
  match LoopRef.ofValue? v with
  | some ref => pure ref.toValue
  | none => do
    let key ← (scope.loopKey v : Except Failure String)
    let data ← scope.loopData v
    pure (.loop key data)

/-- The value of a property for what is given. -/
def propValue (scope : PropScope) (definition : PropDefinition) (v : Value) : LoopM Value :=
  if definition.isLoop then scope.loopValue v
  else (v.cast definition.primitive : Except Failure Value)

/-- The default as it is given: texts are evaluated as content if there is anything to refer to. -/
def givenDefault (scope : PropScope) (v : Value) : Except Failure Value :=
  match v with
  | .text s => if scope.sources.isEmpty then .ok v else resolveContent scope.modifiers scope.sources (.text s)
  | v => .ok v

def refersToProps : Value → Bool
  | .text s => Text.contains s "\x7bprops."
  | _ => false

/-- The value of a property that is not given. -/
def defaultValue (scope : PropScope) (definition : PropDefinition) : LoopM Value :=
  if refersToProps definition.default then pure definition.primitive.emptyValue
  else do
    let v ← (scope.givenDefault definition.default : Except Failure Value)
    scope.propValue definition v

/-- Definitions under one key each: the last of a key counts, in the place of the first. -/
def lastOfKey (definitions : List PropDefinition) : List PropDefinition :=
  definitions.foldl (fun known definition =>
    if known.any fun other => other.key = definition.key then
      known.map fun other => if other.key = definition.key then definition else other
    else known ++ [definition]) []

def setProp (props : List (String × Value)) (key : String) (v : Value) : List (String × Value) :=
  props.map fun prop => if prop.1 = key then (key, v) else prop

/-- Properties with those attributes set that are declared and not null. -/
def setGiven (scope : PropScope) (definitions : List PropDefinition) :
    List (String × Value) → List (String × Value) → LoopM (List (String × Value))
  | props, [] => pure props
  | props, (key, given) :: attributes => do
    match definitions.find? fun definition => definition.key = key with
    | none => scope.setGiven definitions props attributes
    | some definition =>
      if given.isNull then scope.setGiven definitions props attributes
      else
        let v ← scope.propValue definition given
        scope.setGiven definitions (setProp props key v) attributes

/-- The default values of properties. -/
def defaults (scope : PropScope) : List PropDefinition → LoopM (List (String × Value))
  | [] => pure []
  | definition :: definitions => do
    let v ← scope.defaultValue definition
    let rest ← scope.defaults definitions
    pure ((definition.key, v) :: rest)

/-- The properties of an instance, in the order of their declaration. -/
def properties (scope : PropScope) (definitions : List PropDefinition) (attributes : List (String × Value)) :
    LoopM (List (String × Value)) := do
  let declared := lastOfKey definitions
  let props ← scope.defaults declared
  scope.setGiven declared props attributes

end PropScope

end DynamicBlocks
