import DynamicBlocks.Calendar.Moment
import DynamicBlocks.Number.Read

/-!
# Values

Content is dynamic: what an expression yields is null, a boolean, a number, a text, a list, a mapping, a date
or moment, a reference to the items of a loop, or an object of the host. A mapping keeps its entries in the
order of insertion; its keys are values too, and keys that are equal as numbers are the same key.

This file holds the type, truth and equality, and reading and writing a mapping by key.
-/

set_option autoImplicit false

namespace DynamicBlocks

/-- How items are held one after another: so that they can be changed, or not. -/
inductive SeriesKind where
  | tuple
  | list
  deriving DecidableEq, Inhabited

/-- What of the library content may hold already built. A block keeps those inside it as the host has put them there. -/
inductive BuiltKind where
  | block (held : SeriesKind)
  | preset
  | entry
  | source
  deriving DecidableEq, Inhabited

/-- An object of the host, known by its identity. What it is called is its own affair; one that says nothing of itself
is called an object. -/
structure HostObject where
  identity : Nat
  /-- Its text in content. -/
  shown : String := "<obj>"
  /-- Its text inside other values that are written. -/
  written : String := "<obj>"
  deriving DecidableEq, Inhabited

instance : Coe Nat HostObject := ⟨fun identity => { identity }⟩

/-- A dynamic value. -/
inductive Value where
  | null
  | bool (b : Bool)
  | int (n : Int)
  | double (x : Double)
  | text (s : String)
  | list (items : List Value)
  | map (entries : List (Value × Value))
  /-- What a loop goes over, a list as a rule, with the name of the preset it comes from. -/
  | loop (key : String) (data : Value)
  | date (d : Date)
  | moment (m : Moment)
  /-- An object of the host with its plain fields. -/
  | object (self : HostObject) (fields : List (String × Value))
  /-- A part of the library that has been built already, known by its fields. -/
  | built (kind : BuiltKind) (fields : List (String × Value))
  deriving Inhabited

/-- What a name leads to in a list of pairs is paired with it there. -/
theorem mem_of_lookup_eq_some {α β : Type} [BEq α] [LawfulBEq α] {pairs : List (α × β)} {a : α} {b : β}
    (found : pairs.lookup a = some b) : (a, b) ∈ pairs := by
  obtain ⟨before, after, rfl, _⟩ := List.lookup_eq_some_iff.mp found
  exact List.mem_append_right before List.mem_cons_self

/-- The entries of a mapping, in order of insertion. -/
abbrev Entries := List (Value × Value)

namespace Value

/-- The value as a number; true counts one and false zero. -/
def number? : Value → Option Number
  | .bool b => some (.int (if b then 1 else 0))
  | .int n => some (.int n)
  | .double x => some (.double x)
  | _ => none

def ofNumber : Number → Value
  | .int n => .int n
  | .double x => .double x

end Value

/-- Whether two numbers are equal, whole or not. -/
def Number.same : Number → Number → Bool
  | .int a, .int b => a == b
  | .int a, .double y => y.isInt a
  | .double x, .int b => x.isInt b
  | .double x, .double y => x.same y

/-- Whether the first of two numbers is the smaller, whole or not. -/
def Number.less : Number → Number → Bool
  | .int a, .int b => decide (a < b)
  | .int a, .double y => y.isAbove a
  | .double x, .int b => x.isBelow b
  | .double x, .double y => x.less y

/-- Whether two values are one occurrence of what is not a number. -/
def Value.sharesOrigin : Value → Value → Bool
  | .double x, .double y => x.sharesOrigin y
  | _, _ => false

mutual

/-- Whether two values are equal: numbers and booleans by their number, mappings whatever the order of their
entries, dates with dates only, host objects by identity. What values hold has to be equal or the same
occurrence. -/
def Value.same : Value → Value → Bool
  | .null, b => match b with
    | .null => true
    | _ => false
  | .bool x, b => (b.number?).any (Number.same (.int (if x then 1 else 0)))
  | .int n, b => (b.number?).any (Number.same (.int n))
  | .double x, b => (b.number?).any (Number.same (.double x))
  | .text s, b => match b with
    | .text t => s == t
    | _ => false
  | .list xs, b => match b with
    | .list ys => Value.sameItems xs ys
    | _ => false
  | .map es, b => match b with
    | .map fs => es.length == fs.length && Value.sameEntries es fs
    | _ => false
  | .loop k x, b => match b with
    | .loop l y => k == l && (Value.same x y || x.sharesOrigin y)
    | _ => false
  | .date d, b => match b with
    | .date e => d == e
    | _ => false
  | .moment m, b => match b with
    | .moment n => m.same n
    | _ => false
  | .object x _, b => match b with
    | .object y _ => x.identity == y.identity
    | _ => false
  | .built kind xs, b => match b with
    | .built other ys => kind == other && Value.sameFields xs ys
    | _ => false

/-- Whether two lists hold the same place by place. -/
def Value.sameItems : List Value → List Value → Bool
  | [], ys => ys.isEmpty
  | x :: xs, ys => match ys with
    | [] => false
    | y :: ys => (Value.same x y || x.sharesOrigin y) && Value.sameItems xs ys

/-- Whether every entry is found among others, key and value. -/
def Value.sameEntries : List (Value × Value) → List (Value × Value) → Bool
  | [], _ => true
  | (k, v) :: es, fs =>
    fs.any (fun f => (Value.same k f.1 || k.sharesOrigin f.1) && (Value.same v f.2 || v.sharesOrigin f.2)) &&
      Value.sameEntries es fs

/-- Whether two lists of fields hold the same place by place. -/
def Value.sameFields : List (String × Value) → List (String × Value) → Bool
  | [], ys => ys.isEmpty
  | (_, x) :: xs, ys => match ys with
    | [] => false
    | (_, y) :: ys => (Value.same x y || x.sharesOrigin y) && Value.sameFields xs ys

end

/-- Whether two values are equal or the same occurrence, which is how lists and mappings compare what they
hold. -/
def Value.agrees (a b : Value) : Bool :=
  a.same b || a.sharesOrigin b

namespace Value

/-- Whether the value counts as true: not null, false, zero, or empty. -/
def isTruthy : Value → Bool
  | .null => false
  | .bool b => b
  | .int n => n != 0
  | .double x => !x.isZero
  | .text s => s != ""
  | .list items => !items.isEmpty
  | .map entries => !entries.isEmpty
  | _ => true

def isNull : Value → Bool
  | .null => true
  | _ => false

def isList : Value → Bool
  | .list _ => true
  | _ => false

def isMap : Value → Bool
  | .map _ => true
  | _ => false

/-- Whether the value is a text with characters in it. -/
def isNonEmptyText : Value → Bool
  | .text s => s != ""
  | _ => false

def isEmptyText : Value → Bool
  | .text s => s == ""
  | _ => false

/-- Whether the value may be the key of a mapping: lists, mappings and what is built of them may not. -/
def isKey : Value → Bool
  | .list _ => false
  | .map _ => false
  | .loop .. => false
  | .built .. => false
  | _ => true

/-- A mapping with texts as keys. -/
def ofFields (fields : List (String × Value)) : Value :=
  .map (fields.map fun field => (.text field.1, field.2))

/-- The value itself unless it counts as false, else the other one. -/
def orElse (value other : Value) : Value :=
  if value.isTruthy then value else other

end Value

namespace Entries

def get? (entries : Entries) (key : Value) : Option Value :=
  (entries.find? fun entry => entry.1.agrees key).map (·.2)

def field? (entries : Entries) (name : String) : Option Value :=
  get? entries (.text name)

/-- The value under a text, null if there is none. -/
def field (entries : Entries) (name : String) : Value :=
  (field? entries name).getD .null

/-- The mapping with a key set: an equal key keeps its place and its spelling, a new one goes to the end. -/
def insert (entries : Entries) (key value : Value) : Entries :=
  if entries.any fun entry => entry.1.agrees key then
    entries.map fun entry => if entry.1.agrees key then (entry.1, value) else entry
  else
    entries ++ [(key, value)]

def erase (entries : Entries) (key : Value) : Entries :=
  entries.filter fun entry => !entry.1.agrees key

def insertAll (entries more : Entries) : Entries :=
  more.foldl (fun entries entry => insert entries entry.1 entry.2) entries

/-- The mapping that a list of pairs describes; a later pair wins over an earlier one of the same key. -/
def ofPairs (pairs : Entries) : Entries :=
  insertAll [] pairs

end Entries

/-- A text is the same as itself and no other value. -/
theorem Value.same_text (s : String) (v : Value) : (Value.text s).same v = true ↔ v = .text s := by
  cases v with
  | text t => simp only [Value.same, beq_iff_eq, Value.text.injEq]; exact eq_comm
  | _ => simp [Value.same]

/-- The same from the other side. -/
theorem Value.same_text_iff {v : Value} {s : String} : v.same (.text s) = true ↔ v = .text s := by
  cases v <;> simp [same, number?]

/-- Only a text is the same key as a text, and only the same one. -/
theorem Value.agrees_text {v : Value} {s : String} : v.agrees (.text s) = true ↔ v = .text s := by
  cases v with
  | text t => simp [agrees, same, sharesOrigin]
  | _ => simp [agrees, same, sharesOrigin, number?]

end DynamicBlocks
