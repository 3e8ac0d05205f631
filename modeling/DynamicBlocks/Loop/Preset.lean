import DynamicBlocks.Value.Shape

/-!
# Loop presets

A preset is a loop that is configured once and used by name. It has an identifier, perhaps a key and a name,
the type of its data source, and the configuration of that source: items as data, or the arguments of a query.
-/

set_option autoImplicit false

namespace DynamicBlocks

/-- Where the items of a preset come from. -/
inductive HandlerType where
  | structuredData
  | entityListing
  | structuredQuery
  | ambientQuery
  deriving DecidableEq, Inhabited

namespace HandlerType

/-- The name of a type. -/
def name : HandlerType → String
  | .structuredData => "json"
  | .entityListing => "entity-listing"
  | .structuredQuery => "structured-query"
  | .ambientQuery => "ambient-query"

/-- All names that types go by: their own, and those that hosts use. -/
def names : List (String × HandlerType) :=
  [("json", .structuredData), ("entity-listing", .entityListing), ("structured-query", .structuredQuery),
    ("ambient-query", .ambientQuery), ("wp-query", .structuredQuery), ("main-query", .ambientQuery),
    ("wp-main-query", .ambientQuery), ("wp-users", .entityListing), ("wp-terms", .entityListing)]

/-- The type that a value names; what counts as false names structured data. -/
def ofValue (v : Value) : Except Failure HandlerType :=
  if !v.isKey then .error .wrongType
  else if !v.isTruthy then .ok .structuredData
  else
    match v with
    | .text s =>
      match names.lookup s with
      | some type => .ok type
      | none => .error (.unknownHandlerType v)
    | v => .error (.unknownHandlerType v)

end HandlerType

/-- A loop configured once and used by name. -/
structure LoopPreset where
  id : String
  type : HandlerType
  config : Entries
  key : String
  name : String
  deriving Inhabited

namespace LoopPreset

/-- The query arguments of a preset. -/
def args (preset : LoopPreset) : Entries :=
  match Entries.field preset.config "args" with
  | .map args => args
  | _ => []

/-- The preset that a mapping describes under an identifier. The type stands in the configuration or else
beside it. -/
def ofEntries (id : String) (entries : Entries) : Except Failure LoopPreset := do
  let config := match Entries.field entries "config" with
    | .map config => config
    | _ => []
  let type ← HandlerType.ofValue ((Entries.field? config "type").getD (Entries.field entries "type"))
  pure ⟨id, type, Entries.erase config (.text "type"), ((Entries.field entries "key").orElse (.text "")).plain,
    ((Entries.field entries "name").orElse (.text "")).plain⟩

/-- The preset as a value of its own, for content that holds presets already built. -/
def asBuilt (preset : LoopPreset) : Value :=
  .built .preset [("id", .text preset.id), ("handler_type", .text preset.type.name), ("config", .map preset.config),
    ("key", .text preset.key), ("name", .text preset.name)]

/-- A field of a preset that has been built. -/
def builtField (fields : List (String × Value)) (name : String) : Value :=
  (fields.lookup name).getD .null

/-- The preset that a value describes under an identifier, or is; a preset already built keeps its own
identifier. -/
def ofValue (id : String) (v : Value) : Except Failure LoopPreset :=
  match v with
  | .map entries => ofEntries id entries
  | .built .preset fields => do
    let type ← HandlerType.ofValue (builtField fields "handler_type")
    let config ← (builtField fields "config").toEntriesOrNone
    pure ⟨(builtField fields "id").plain, type, config, (builtField fields "key").plain,
      (builtField fields "name").plain⟩
  | v => .error (v.lacks "get")

end LoopPreset

end DynamicBlocks
