import DynamicBlocks.Context.Source
import DynamicBlocks.Value.Shape

/-!
# Context entries

What renderers put on the context stack. An entry has a kind, perhaps a key under which expressions can refer
to it, the value itself, and notes of the renderer. An entry without a key marks a place on the stack and is
never a source.
-/

set_option autoImplicit false

namespace DynamicBlocks

/-- What an entry stands for. -/
inductive EntryKind where
  | globalValue
  | localValue
  | component
  | componentSlots
  | slot
  | preview
  deriving DecidableEq, Inhabited

namespace EntryKind

def all : List EntryKind := [.globalValue, .localValue, .component, .componentSlots, .slot, .preview]

/-- The name of a kind. -/
def name : EntryKind → String
  | .globalValue => "global"
  | .localValue => "local"
  | .component => "component"
  | .componentSlots => "component-slots"
  | .slot => "slot"
  | .preview => "preview"

def ofName? (s : String) : Option EntryKind :=
  all.find? fun kind => kind.name == s

/-- The kind that a value names; local for anything else. -/
def ofValue : Value → EntryKind
  | .text s => (ofName? s).getD .localValue
  | _ => .localValue

end EntryKind

/-- An item of the context stack. -/
structure Entry where
  kind : EntryKind
  /-- A text as a rule, null for a mere mark. -/
  key : Value
  source : Value
  metadata : Entries
  deriving Inhabited

namespace Entry

def ofLocal (key source : Value) : Entry := ⟨.localValue, key, source, []⟩

/-- The source that an entry is, if it has a key. -/
def toSource? (entry : Entry) : Option Source :=
  if entry.key.isTruthy then some ⟨entry.key, entry.source⟩ else none

/-- The sources among entries, in order. -/
def sources (entries : List Entry) : List Source :=
  entries.filterMap toSource?

/-- The entry that a mapping describes. -/
def ofEntries (entries : Entries) : Entry where
  kind := .ofValue (Entries.field entries "type")
  key := if (Entries.field entries "key").isNonEmptyText then Entries.field entries "key" else .null
  source := Entries.field entries "source"
  metadata := match Entries.field entries "metadata" with
    | .map metadata => metadata
    | _ => []

/-- The entry that a value describes. -/
def ofValue (v : Value) : Except Failure Entry :=
  ofEntries <$> v.asMapping

/-- The mapping that describes an entry. -/
def toValue (entry : Entry) : Value :=
  .map ([(.text "type", .text entry.kind.name), (.text "source", entry.source)] ++
    (if entry.key.isNull then [] else [(.text "key", entry.key)]) ++
    (if entry.metadata.isEmpty then [] else [(.text "metadata", .map entry.metadata)]))

/-- The entries of a mapping whose keys are texts with characters in them. -/
def ofMapping (kind : EntryKind) (entries : Entries) : List Entry :=
  (entries.filter fun entry => entry.1.isNonEmptyText).map fun entry => ⟨kind, entry.1, entry.2, []⟩

/-- Sources of two stretches of entries are those of both, in order. -/
theorem sources_append (first second : List Entry) : sources (first ++ second) = sources first ++ sources second :=
  List.filterMap_append

end Entry

namespace Entry

/-- The entry as a value of its own, for content that holds entries already built. -/
def asBuilt (entry : Entry) : Value :=
  .built .entry [("kind", .text entry.kind.name), ("key", entry.key), ("source", entry.source),
    ("metadata", .map entry.metadata)]

/-- The entry whose fields these are. -/
def ofFields (fields : List (String × Value)) : Entry :=
  let field (name : String) := (fields.lookup name).getD .null
  ⟨.ofValue (field "kind"), field "key", field "source", match field "metadata" with
    | .map metadata => metadata
    | _ => []⟩

def ofBuiltOrValue : Value → Except Failure Entry
  | .built .entry fields => .ok (ofFields fields)
  | v => ofValue v

/-- The entry of one of several initial sources: an entry, a source, which becomes local, or the mapping that
describes an entry. Any other value is passed over. -/
def ofInitial? : Value → Option Entry
  | .built .entry fields => some (ofFields fields)
  | .built .source fields => some (.ofLocal ((fields.lookup "key").getD .null) ((fields.lookup "source").getD .null))
  | .map entries => some (ofEntries entries)
  | _ => none

/-- The entries of initial sources: local values by key for a mapping, else the entries of its items. -/
def ofInitials : Value → Except Failure (List Entry)
  | .map entries => .ok (ofMapping .localValue entries)
  | v => do
    let items ← v.seriesOrNone
    pure (items.filterMap ofInitial?)

end Entry

end DynamicBlocks
