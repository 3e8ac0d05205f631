import DynamicBlocks.Expression.Literal
import DynamicBlocks.Expression.Parser
import DynamicBlocks.Modifier.Builtin
import DynamicBlocks.Resolve.Walk

/-!
# Resolving expressions

An expression is resolved against sources and a table of modifiers. Content never fails: an unknown source or
a key that leads nowhere is null, an unknown modifier and one that fails on its input leave the value as it
is. Arguments are literals or expressions themselves, resolved against the same sources; an argument is shorter
than the expression it stands in, so the length of the text bounds the nesting. What `applyData` does with a
value is left open here.
-/

set_option autoImplicit false

namespace DynamicBlocks

/-- The name of an argument without dollar signs in front. -/
def bareKeyword (keyword : String) : String :=
  String.ofList (keyword.toList.dropWhile (· == '$'))

/-- A list of named arguments with one more; the last of a name wins. -/
def setNamed (named : List (String × Value)) (name : String) (value : Value) : List (String × Value) :=
  (named.filter fun arg => arg.1 != name) ++ [(name, value)]

/-- The arguments of a call evaluated, those by place before those by name. -/
def evaluateArgs (evaluate : String → Except Failure Value) (args : List Argument) : Except Failure Arguments := do
  let positional ← (positionalArgs args).mapM fun argument => evaluate argument.source
  let named ← (namedArgs args).mapM fun argument => do
    let value ← evaluate argument.source
    pure (bareKeyword (argument.keyword.getD ""), value)
  pure ⟨positional, named.foldl (fun all arg => setNamed all arg.1 arg.2) []⟩

/-- How `applyData` resolves the expressions inside a value. -/
abbrev DataResolver := List Source → Value → Except Failure Value

/-- A modifier run on a value. -/
def Modifier.run (modifier : Modifier) (data : DataResolver) (sources : List Source) (v : Value) (args : Arguments) :
    Except Failure Value :=
  match modifier with
  | .plain run => run v args
  | .scoped run => run sources v args
  | .applyData => do
    let _ ← args.bind []
    data sources v

/-- A value unless the failure that took its place is forgiven. -/
def forgive (v : Value) : Except Failure Value → Except Failure Value
  | .ok w => .ok w
  | .error f => if f.isForgiven then .ok v else .error f

/-- A call applied to a value. -/
def applyCall (table : ModifierTable) (data : DataResolver) (sources : List Source)
    (evaluate : String → Except Failure Value) (v : Value) (name : String) (args : List Argument) :
    Except Failure Value :=
  match table.get? name with
  | none => .ok v
  | some modifier => do
    let args ← evaluateArgs evaluate args
    forgive v (modifier.run data sources v args)

/-- The value of an expression, given how a call is applied. -/
def Expression.resolveWith (e : Expression) (sources : List Source) (keepLoop : Bool)
    (call : Value → String → List Argument → Except Failure Value) : Except Failure Value :=
  if e.segments.isEmpty || e.rootCall?.isSome then .ok .null
  else
    match findSource? e.root sources with
    | none => .ok .null
    | some v => do
      match ← walk call v (e.segments.drop 1) with
      | some w => settle keepLoop w
      | none => pure .null

/-- The value of an argument text whose nesting is bounded: a literal, or an expression resolved. -/
def evaluateNested (table : ModifierTable) (data : DataResolver) (sources : List Source) :
    (nesting : Nat) → String → Except Failure Value
  | 0, _ => .ok .null
  | nesting + 1, text =>
    match literal? text with
    | some v => .ok v
    | none =>
      (Expression.ofText text).resolveWith sources false
        (applyCall table data sources (evaluateNested table data sources nesting))

/-- The value of the text of an expression: a literal, or an expression resolved. -/
def evaluateText (table : ModifierTable) (data : DataResolver) (sources : List Source) (text : String) :
    Except Failure Value :=
  evaluateNested table data sources (text.length + 1) text

def resolveExpression (table : ModifierTable) (data : DataResolver) (sources : List Source) (e : Expression)
    (keepLoop : Bool) : Except Failure Value :=
  e.resolveWith sources keepLoop (applyCall table data sources (evaluateNested table data sources e.source.length))

end DynamicBlocks
