import DynamicBlocks.Loop.Service
import DynamicBlocks.Resolve.Data

/-!
# Loop targets

What a loop goes over is told by a target: JSON written in place, the name of a preset with parameters, or an
expression. An expression is followed until a list is reached; on the way a name may turn out to mean a preset,
a loop reference or a text that means one of these. From there on the rest of the expression is applied to the
list as keys and modifiers. A target that leads nowhere has no items.
-/

set_option autoImplicit false

namespace DynamicBlocks

/-- A value that may fail, in an action that finds items. -/
def ofExcept {α : Type} (outcome : Except Failure α) : LoopM α :=
  liftM outcome

/-- What expressions are evaluated with. -/
structure Engine where
  modifiers : ModifierTable
  loops : LoopService

namespace Engine

/-- The value of a parameter's text: what leads nowhere keeps the text, what is empty drops the parameter. -/
def paramValue? (engine : Engine) (sources : List Source) (raw : String) : Except Failure (Option Value) := do
  let v ← evaluate engine.modifiers sources raw
  pure (if v.isNull then some (.text raw) else if v.isEmptyText then none else some v)

/-- The name of a parameter with a dollar sign in front; dollar signs alone are no name. -/
def dollarName? (name : String) : Option String :=
  if name.toList.all (· == '$') then none
  else if name.toList.head? = some '$' then some name
  else some ("$" ++ name)

/-- Parameters with one more, whose text is evaluated. -/
def addParam (engine : Engine) (sources : List Source) (params : Entries) (param : Value × Value) :
    Except Failure Entries :=
  match param.1 with
  | .text key =>
    match dollarName? key with
    | none => .ok params
    | some name =>
      match param.2 with
      | .text raw => do
        match ← engine.paramValue? sources raw with
        | some value => pure (Entries.insert params (.text name) value)
        | none => pure params
      | value => .ok (Entries.insert params (.text name) value)
  | _ => .ok params

/-- The parameters that a block gives to its preset. -/
def givenParams (engine : Engine) (sources : List Source) (params : Value) : Except Failure Entries :=
  if params.isTruthy then do
    let given ← params.asEntries
    given.foldlM (engine.addParam sources) []
  else .ok []

/-- The parameters that a call gives to its preset: the arguments by name. -/
def callParams (engine : Engine) (sources : List Source) (args : List Argument) : Except Failure Entries :=
  (namedArgs args).foldlM (fun params arg =>
    match arg.keyword with
    | none => .ok params
    | some keyword =>
      if keyword = "" ∨ keyword = "$" then .ok params
      else do
        match ← engine.paramValue? sources arg.source with
        | some value => pure (Entries.insert params (.text keyword) value)
        | none => pure params) []

/-- Items with the modifiers of a target applied; what comes out as no list leaves the items as they were. -/
def modifiedItems (engine : Engine) (sources : List Source) (items : Value) (target : String) :
    Except Failure Value := do
  let v ← (Expression.ofText target).segments.foldlM (fun v segment =>
    match segment with
    | .call name args => applyModifier engine.modifiers sources v name args
    | .key _ => .ok v) items
  pure (if v.isList then v else items)

/-- The value of an expression, where a loop reference may be kept. -/
def valueOf (engine : Engine) (sources : List Source) (text : String) (keepLoop : Bool) : Except Failure Value :=
  resolve engine.modifiers sources (Expression.ofText text) keepLoop

/-- The items of a preset. -/
def presetItems (engine : Engine) (name : String) (params : Entries) : LoopM Value :=
  engine.loops.items (.text name) params

/-- The list or mapping that a text means as an expression. -/
def collection? (engine : Engine) (sources : List Source) (text : String) : Except Failure (Option Value) := do
  let v ← engine.valueOf sources text false
  pure (if v.isList || v.isMap then some v else none)

/-- What a loop reference stands for: the preset it names, what its name means here, or its items. -/
def ofReference (engine : Engine) (sources : List Source) (ref : LoopRef) (params : Entries) : LoopM Value :=
  if ref.key = "" then .list <$> ofExcept ref.items
  else if engine.loops.knows (.text ref.key) then engine.presetItems ref.key params
  else do
    match ← ofExcept (engine.collection? sources ref.key) with
    | some v => pure v
    | none => .list <$> ofExcept ref.items

/-- What a value that the target reached stands for, and whether that is a list at last. -/
def reached (engine : Engine) (sources : List Source) (v : Value) (params : Entries) : LoopM (Value × Bool) :=
  match LoopRef.ofValue? v with
  | some ref => do
    let w ← engine.ofReference sources ref params
    pure (w, w.isList)
  | none =>
    match v with
    | .text s =>
      if s = "" then pure (v, false)
      else if engine.loops.knows v then do
        let w ← engine.presetItems s params
        pure (w, true)
      else do
        match ← ofExcept (engine.collection? sources s) with
        | some w => pure (w, w.isList)
        | none => pure (v, false)
    | v => pure (v, v.isList)

/-- What a value stands for unless that is nothing, and whether it is a list at last. -/
def reachedIfAny (engine : Engine) (sources : List Source) (v : Value) (params : Entries) :
    LoopM (Option (Value × Bool)) := do
  let (w, listed) ← engine.reached sources v params
  pure (if w.isNull then none else some (w, listed))

/-- The value that a name in a target means, if it means any, and whether the rest of the target applies to its
items: the preset of that name at the start, else what the name leads to. -/
def stepTo (engine : Engine) (sources : List Source) (current : Option Value) (segment : Segment) :
    LoopM (Option (Value × Bool)) := do
  let params ← ofExcept (engine.callParams sources segment.args)
  match current with
  | none =>
    if engine.loops.knows (.text segment.name) then
      let items ← engine.presetItems segment.name params
      pure (some (items, true))
    else
      let v ← ofExcept (engine.valueOf sources segment.name true)
      engine.reachedIfAny sources v params
  | some v => engine.reachedIfAny sources ((v.lookup? segment.name).getD .null) params

/-- The value that a segment behind a list leads to, if to any. -/
def stepBehind (engine : Engine) (sources : List Source) (v : Value) : Segment → Except Failure (Option Value)
  | .key name => .ok (v.lookup? name)
  | .call name args => some <$> applyModifier engine.modifiers sources v name args

/-- The items that segments lead to, from what they reached so far. -/
def followTarget (engine : Engine) (sources : List Source) :
    (current : Option Value) → (listed : Bool) → List Segment → LoopM (List Value)
  | current, _, [] => pure (itemsOf (current.getD .null))
  | some v, true, segment :: segments => do
    match ← ofExcept (engine.stepBehind sources v segment) with
    | none => pure []
    | some w => if w.isNull then pure [] else engine.followTarget sources (some w) true segments
  | current, _, segment :: segments => do
    match ← engine.stepTo sources current segment with
    | none => pure []
    | some (w, listed) => engine.followTarget sources (some w) listed segments

/-- Whether a target may be JSON written in place: it stands in square brackets or braces. -/
def mayBeJson (cs : List Char) : Bool :=
  (cs.head? == some '[' && cs.getLast? == some ']') || (cs.head? == some '\x7b' && cs.getLast? == some '\x7d')

/-- The items that an expression in a target leads to. -/
def expressionItems (engine : Engine) (sources : List Source) (cs : List Char) : LoopM (List Value) :=
  engine.followTarget sources none false (Expression.ofText (String.ofList cs)).segments

/-- The items of a target. -/
def targetItems (engine : Engine) (sources : List Source) (target : String) : LoopM (List Value) :=
  let cs := Text.trimChars target.toList
  if cs.isEmpty then pure []
  else if mayBeJson cs then
    match Json.read? (String.ofList cs) with
    | some v => pure (itemsOf v)
    | none =>
      match standalone? cs with
      | some inner => engine.expressionItems sources (Text.trimChars inner)
      | none => pure []
  else engine.expressionItems sources cs

end Engine

end DynamicBlocks
