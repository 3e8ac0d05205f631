import DynamicBlocks.Modifier.Conversion

/-!
# Sequence modifiers

Operations on lists, and on texts as sequences of characters. Indexes count from 0, negative ones from the
end. Taking one element asks for an index inside, taking a slice clamps its bounds.

Members are the plain parts of values. Left out are operations, which show as no content, the zone of a moment that
has one, and the least distance between moments.
-/

set_option autoImplicit false

namespace DynamicBlocks

/-- A bound of a slice as a count of elements from the front. -/
def clampBound (length : Nat) (bound : Int) : Nat :=
  if bound < 0 then (bound + length).toNat else min bound.toNat length

/-- The elements from one bound up to another; without the second up to the end. -/
def sliceOf {α : Type} (items : List α) (start : Int) (stop : Option Int) : List α :=
  let low := clampBound items.length start
  let high := match stop with
    | some bound => clampBound items.length bound
    | none => items.length
  (items.take high).drop low

/-- The element at an index. -/
def elementAt? {α : Type} (items : List α) (index : Int) : Option α :=
  if 0 ≤ index then items[index.toNat]?
  else if 0 ≤ index + items.length then items[(index + items.length).toNat]?
  else none

namespace Value

/-- The parts of a number by name; those of a double are doubles, and it is no quotient. -/
def numberParts : Number → List (String × Value)
  | .int n => [("real", .int n), ("imag", .int 0), ("numerator", .int n), ("denominator", .int 1)]
  | .double x => [("real", .double x), ("imag", .double .zero)]

/-- The parts of a day by name, and the days between which all lie. -/
def dateParts (d : Date) : List (String × Value) :=
  [("year", .int d.year), ("month", .int d.month), ("day", .int d.day), ("min", .date ⟨1, 1, 1⟩),
    ("max", .date ⟨9999, 12, 31⟩)]

/-- The parts of a moment by name, and the moments between which all lie; they come before those of its day. -/
def momentParts (m : Moment) : List (String × Value) :=
  [("hour", .int m.hour), ("minute", .int m.minute), ("second", .int m.second), ("microsecond", .int m.microsecond),
    ("fold", .int 0), ("min", .moment (.ofDate ⟨1, 1, 1⟩)), ("max", .moment ⟨⟨9999, 12, 31⟩, 23, 59, 59, 999999, none⟩)] ++
    (if m.offset.isNone then [("tzinfo", .null)] else []) ++ dateParts m.date

/-- The query arguments among the fields of a preset. -/
def presetArgs (fields : List (String × Value)) : Value :=
  match fields.lookup "config" with
  | some (.map config) =>
    match Entries.field config "args" with
    | .map args => .map args
    | _ => .map []
  | _ => .map []

/-- The member of a value that is no mapping, list, text or number. Names that start with an underscore are private. -/
def member? (v : Value) (name : String) : Option Value :=
  if name.toList.head? = some '_' then none
  else
    match v with
    | .loop key data => [("key", Value.text key), ("data", data)].lookup name
    | .date d => (dateParts d).lookup name
    | .moment m => (momentParts m).lookup name
    | .object _ fields => fields.lookup name
    | .built .preset fields => (fields.lookup name).or (if name = "args" then some (presetArgs fields) else none)
    | .built _ fields => fields.lookup name
    | _ => none

/-- What an item holds under a name; null if nothing. Numbers, which a path does not enter, hold their parts. -/
def heldUnder (item : Value) (name : String) : Value :=
  match item with
  | .map entries => Entries.field entries name
  | item => (match item.number? with
    | some number => (numberParts number).lookup name
    | none => item.member? name).getD .null

/-- The number of items, entries or characters; null has none, and other values count by their text. -/
def lengthOf (v : Value) : Except Failure Value :=
  match v with
  | .null => .ok (.int 0)
  | .text s => .ok (.int s.length)
  | .map entries => .ok (.int entries.length)
  | .list items => .ok (.int items.length)
  | v => do
    let text ← v.display
    pure (.int text.length)

/-- The item or character at an index; null if there is none. -/
def element (v : Value) (index : Int) : Value :=
  match v with
  | .list items => (elementAt? items index).getD .null
  | .text s => ((elementAt? s.toList index).map fun c => Value.text (String.singleton c)).getD .null
  | _ => .null

/-- Whether the value is a list or a text. -/
def isSequence : Value → Bool
  | .list _ => true
  | .text _ => true
  | _ => false

/-- The item or character at the index that a value gives. -/
def atIndex (v index : Value) : Except Failure Value :=
  if v.isSequence then (v.element ·) <$> index.toInt else .ok .null

/-- The part of a list or text between two bounds. -/
def slice (v : Value) (start : Int) (stop : Option Int) : Value :=
  match v with
  | .list items => .list (sliceOf items start stop)
  | .text s => .text (String.ofList (sliceOf s.toList start stop))
  | v => v

/-- The part of a list or text between the bounds that two values give; null as second bound is none. -/
def sliced (v : Value) (start stop : Option Value) : Except Failure Value :=
  if v.isSequence then do
    let stop ← match stop.getD .null with
      | .null => pure none
      | bound => some <$> bound.toInt
    let start ← (start.getD (.int 0)).toInt
    pure (v.slice start stop)
  else .ok v

/-- A list or text back to front. -/
def reversed : Value → Value
  | .list items => .list items.reverse
  | .text s => .text (String.ofList s.toList.reverse)
  | v => v

/-- Whether a text, mapping or list holds a value: as part of the text, as value of an entry, as item. -/
def includes (v needle : Value) : Except Failure Value :=
  match v with
  | .text s => do
    let part ← needle.display
    pure (.bool (Text.contains s part))
  | .map entries => .ok (.bool (entries.any fun entry => entry.2.agrees needle))
  | .list items => .ok (.bool (items.any fun item => item.agrees needle))
  | _ => .ok (.bool false)

/-- The items that hold the expected value under a name, or anything that counts as true. -/
def filtered (v : Value) (key expected : Option Value) : Except Failure Value :=
  match v with
  | .list items => do
    let name ← (key.getD .null).display
    match expected with
    | none => pure (.list (items.filter fun item => (item.heldUnder name).isTruthy))
    | some expected => pure (.list (items.filter fun item => (item.heldUnder name).same expected))
  | v => .ok v

/-- What every item of a list, or a single value, holds under a name. -/
def plucked (v key : Value) : Except Failure Value := do
  let name ← key.display
  match v with
  | .list items => pure (.list (items.map fun item => item.heldUnder name))
  | v => pure (v.heldUnder name)

/-- The value, or a fallback for null, the empty text and the empty list. -/
def withFallback (v : Value) (fallback : Option Value) : Value :=
  let other := fallback.getD (.text "")
  match v with
  | .null => other
  | .text s => if s = "" then other else v
  | .list items => if items.isEmpty then other else v
  | v => v

end Value

/-- Cutting a list at any bound loses nothing. -/
theorem sliceOf_append {α : Type} (items : List α) (bound : Int) :
    sliceOf items 0 (some bound) ++ sliceOf items bound none = items := by
  simp [sliceOf, clampBound]

end DynamicBlocks
