import DynamicBlocks.Expression.Basic
import DynamicBlocks.Modifier.Basic
import DynamicBlocks.Modifier.Sequence

/-!
# Walking a path

How the segments of an expression lead from the value of its source to its result. A key that leads nowhere
ends the walk without a value; a call goes through whatever applies modifiers, given here as a function, so
that walking says nothing about how arguments are evaluated. Before every step a loop reference is replaced by
its items.
-/

set_option autoImplicit false

namespace DynamicBlocks

/-- The index that a name writes in ASCII digits. -/
def index? (name : String) : Option Nat :=
  let cs := name.toList
  if !cs.isEmpty && cs.all Char.isDigit then some (Text.digitsValue cs) else none

/-- One step by key: an entry under the name, or under the number it writes; an item by index; or a member. -/
def Value.lookup? (v : Value) (name : String) : Option Value :=
  match v with
  | .map entries =>
    match Entries.field? entries name with
    | some value => some value
    | none => (index? name).bind fun n => Entries.get? entries (.int n)
  | .list items => (index? name).bind fun n => items[n]?
  | v => v.member? name

/-- The value that segments lead to, if they lead to one. -/
def walk (call : Value → String → List Argument → Except Failure Value) :
    Value → List Segment → Except Failure (Option Value)
  | v, [] => .ok (some v)
  | v, .key name :: segments => do
    let v ← v.unwrap
    match v.lookup? name with
    | some next => walk call next segments
    | none => pure none
  | v, .call name args :: segments => do
    let v ← v.unwrap
    let next ← call v name args
    walk call next segments

/-- The result of a walk: a loop reference is kept as one if asked for, and else replaced by its items. -/
def settle (keepLoop : Bool) (v : Value) : Except Failure Value :=
  if keepLoop then
    match LoopRef.ofValue? v with
    | some r => .ok r.toValue
    | none => .ok v
  else v.unwrap

end DynamicBlocks
