import DynamicBlocks.Resolve.Call

/-!
# Resolving content

Content is resolved wherever templates stand in it: a template that is one expression becomes the value of the
expression, any other text has its expressions replaced by their texts, and lists and mappings are gone
through. The modifier `applyData` does the same to the value of an expression, whose result may again ask for
it. How deep that may go depends on whoever runs it; past this depth it is given up.
-/

set_option autoImplicit false

namespace DynamicBlocks

/-- A template resolved: the value of a lone expression, or text. -/
def resolveTemplate (evaluate : String → Except Failure Value) (s : String) : Except Failure Value :=
  match standalone? s.toList with
  | some inner => evaluate (String.ofList inner)
  | none => .text <$> fillTemplate s fun source => do
    let v ← evaluate source
    v.display

mutual

/-- A value with all templates in it resolved. -/
def resolveIn (evaluate : String → Except Failure Value) : Value → Except Failure Value
  | .text s => if s = "" then .ok (.text s) else resolveTemplate evaluate s
  | .list items => do
    let items ← resolveInItems evaluate items
    pure (.list items)
  | .map entries => do
    let entries ← resolveInEntries evaluate entries
    pure (.map entries)
  | v => .ok v

/-- Items with all templates in them resolved. -/
def resolveInItems (evaluate : String → Except Failure Value) : List Value → Except Failure (List Value)
  | [] => .ok []
  | item :: items => do
    let item ← resolveIn evaluate item
    let items ← resolveInItems evaluate items
    pure (item :: items)

/-- Entries with all templates in their values resolved; keys stay. -/
def resolveInEntries (evaluate : String → Except Failure Value) :
    List (Value × Value) → Except Failure (List (Value × Value))
  | [] => .ok []
  | (key, value) :: entries => do
    let value ← resolveIn evaluate value
    let entries ← resolveInEntries evaluate entries
    pure ((key, value) :: entries)

end

/-- A value resolved as content, where `applyData` may ask for the same `depth` times over. -/
def resolveDataAt (table : ModifierTable) : (depth : Nat) → DataResolver
  | 0, _, _ => .error .endless
  | depth + 1, sources, v => resolveIn (evaluateText table (resolveDataAt table depth) sources) v

/-- The value of an expression against sources, null for one that leads nowhere, where `applyData` may ask for the same
`depth` times over. -/
def resolveAt (table : ModifierTable) (depth : Nat) (sources : List Source) (e : Expression) (keepLoop : Bool) :
    Except Failure Value :=
  resolveExpression table (resolveDataAt table depth) sources e keepLoop

/-- The value of the text of an expression, which may be a literal, where `applyData` may ask for the same `depth` times
over. -/
def evaluateAt (table : ModifierTable) (depth : Nat) (sources : List Source) (text : String) : Except Failure Value :=
  evaluateText table (resolveDataAt table depth) sources text

/-- How deep `applyData` may ask for the same here. Data that ends at some depth comes to the same value at every
greater one, so the number matters for data only that asks for itself more often. -/
def dataDepth : Nat := 100

/-- How `applyData` resolves its value. -/
def dataResolver (table : ModifierTable) : DataResolver :=
  resolveDataAt table dataDepth

/-- The value of an expression against sources; null for one that leads nowhere. -/
def resolve (table : ModifierTable) (sources : List Source) (e : Expression) (keepLoop : Bool) : Except Failure Value :=
  resolveAt table dataDepth sources e keepLoop

/-- The value of the text of an expression, which may be a literal. -/
def evaluate (table : ModifierTable) (sources : List Source) (text : String) : Except Failure Value :=
  evaluateAt table dataDepth sources text

/-- Content resolved against sources. -/
def resolveContent (table : ModifierTable) (sources : List Source) (v : Value) : Except Failure Value :=
  resolveIn (evaluate table sources) v

/-- A template as text, every expression replaced by the text of its value, on which `guard` is applied. -/
def substituteWith (guard : String → String) (table : ModifierTable) (sources : List Source) (s : String) :
    Except Failure String :=
  fillTemplate s fun source => do
    let v ← evaluate table sources source
    let text ← v.display
    pure (guard text)

def substitute (table : ModifierTable) (sources : List Source) (s : String) : Except Failure String :=
  substituteWith id table sources s

/-- A call applied to a value against sources. -/
def applyModifier (table : ModifierTable) (sources : List Source) (v : Value) (name : String) (args : List Argument) :
    Except Failure Value :=
  applyCall table (dataResolver table) sources (evaluate table sources) v name args

end DynamicBlocks
