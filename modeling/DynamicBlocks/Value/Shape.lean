import DynamicBlocks.Failure

/-!
# Shapes of values

Content that describes blocks, patterns or presets is handed over as values, and a value may have a shape
that does not fit. Reading a value as a mapping, as a series of items or as a list of pairs either succeeds or
fails with what was wanted of it.
-/

set_option autoImplicit false

namespace DynamicBlocks

/-- The characters of a text as texts. -/
def charTexts (s : String) : List Value :=
  s.toList.map fun c => .text (String.ofList [c])

namespace Value

/-- How a value fails that was asked for an operation it has not: an object of the host may have a plain field
of that name, which is no operation. -/
def lacks (v : Value) (operation : String) : Failure :=
  match v with
  | .object _ fields => if fields.any fun field => field.1 == operation then .wrongType else .missingMember
  | _ => .missingMember

/-- The entries of a value that has to be a mapping, for looking up keys. -/
def asMapping : Value → Except Failure Entries
  | .map entries => .ok entries
  | v => .error (v.lacks "get")

/-- The entries of a value that has to be a mapping, for going through them. -/
def asEntries : Value → Except Failure Entries
  | .map entries => .ok entries
  | v => .error (v.lacks "items")

/-- The items that going through a value yields: those of a list, the keys of a mapping, the characters of a
text. -/
def series : Value → Except Failure (List Value)
  | .list items => .ok items
  | .map entries => .ok (entries.map (·.1))
  | .text s => .ok (charTexts s)
  | _ => .error .wrongType

/-- The items that going through a value yields, none for a value that counts as false. -/
def seriesOrNone (v : Value) : Except Failure (List Value) :=
  if v.isTruthy then v.series else .ok []

/-- A list is taken as its items. -/
theorem seriesOrNone_list (items : List Value) : (Value.list items).seriesOrNone = .ok items := by
  cases items <;> rfl

/-- The pair that an item of a list of pairs stands for. -/
def asPair (v : Value) : Except Failure (Value × Value) := do
  match ← v.series with
  | [key, value] => if key.isKey then pure (key, value) else .error .wrongType
  | _ => .error .badValue

/-- The mapping that a value is, or that its items describe as pairs. -/
def toEntries : Value → Except Failure Entries
  | .map entries => .ok entries
  | v => do
    let items ← v.series
    items.foldlM (fun entries item => do
      let (key, value) ← item.asPair
      pure (Entries.insert entries key value)) []

/-- The mapping of a value, the empty one for a value that counts as false. -/
def toEntriesOrNone (v : Value) : Except Failure Entries :=
  if v.isTruthy then v.toEntries else .ok []

/-- A mapping is its own list of entries. -/
theorem toEntriesOrNone_map (entries : Entries) : (Value.map entries).toEntriesOrNone = .ok entries := by
  cases entries <;> rfl

end Value

end DynamicBlocks
