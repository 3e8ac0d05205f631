import DynamicBlocks.Digest.Sha256
import DynamicBlocks.Loop.Cache
import DynamicBlocks.Loop.Handler

/-!
# Loop service

Looks presets up by identifier or key and finds their items. Asking for items never fails: an unknown name, a
missing handler and a failing one yield no items. What a handler yields is remembered for the rest of the
render, the empty answer of a failure included.
-/

set_option autoImplicit false

namespace DynamicBlocks

/-- What finding items depends on. -/
structure LoopService where
  /-- The presets by identifier. -/
  presets : List (String × LoopPreset)
  handlers : LoopHandlers
  backend : Option QueryBackend
  /-- How requests are digested to keys of the cache. -/
  digest : String → String

/-- A request that a handler was asked to answer. -/
structure LoopRequest where
  preset : LoopPreset
  params : Entries
  deriving Inhabited

/-- What happened during a render, in order. -/
structure Journal where
  /-- The requests that handlers were asked. -/
  requests : List LoopRequest
  /-- The queries that the host was asked. -/
  queries : List Query
  warnings : List String
  deriving Inhabited

/-- What changes when items are found. -/
structure LoopState where
  cache : LoopCache
  journal : Journal
  deriving Inhabited

namespace LoopState

def start : LoopState := ⟨.empty, ⟨[], [], []⟩⟩

def warn (s : LoopState) (warning : String) : LoopState :=
  { s with journal.warnings := s.journal.warnings ++ [warning] }

/-- The state with a request to a handler noted, and the query that came of it. -/
def note (s : LoopState) (request : LoopRequest) (query : Option Query) : LoopState :=
  { s with
    journal.requests := s.journal.requests ++ [request]
    journal.queries := s.journal.queries ++ query.toList }

end LoopState

/-- An action that may fail and that finds items on its way. -/
abbrev LoopM := ExceptT Failure (StateM LoopState)

namespace LoopService

/-- Presets under their identifiers; of one identifier the later preset counts, in the place of the earlier. -/
def presetsOf (entries : Entries) : Except Failure (List (String × LoopPreset)) :=
  entries.foldlM (fun presets entry => do
    let preset ← LoopPreset.ofValue entry.1.plain entry.2
    pure (if presets.any fun known => known.1 = entry.1.plain then
      presets.map fun known => if known.1 = entry.1.plain then (known.1, preset) else known
    else presets ++ [(entry.1.plain, preset)])) []

/-- The identifier of the preset with a key. -/
def idOfKey? (service : LoopService) (key : String) : Option String :=
  (service.presets.find? fun entry => key != "" && entry.2.key == key).map (·.1)

/-- The identifier that a name means: an identifier or a key, with arguments written behind it left out. -/
def idOf? (service : LoopService) (name : Value) : Option String :=
  match name with
  | .text s =>
    if Text.isBlankText s then none
    else
      let name := loopName s
      if (service.presets.lookup name).isSome then some name else service.idOfKey? name
  | _ => none

def knows (service : LoopService) (name : Value) : Bool :=
  (service.idOf? name).isSome

/-- The preset that a name means. -/
def preset? (service : LoopService) (name : Value) : Option LoopPreset :=
  (service.idOf? name).bind fun id => service.presets.lookup id

/-- All names of presets, identifiers and keys, in order. -/
def knownNames (service : LoopService) : List String :=
  Text.sorted (service.presets.map (·.1) ++ (service.presets.map (·.2.key)).filter (· != ""))

/-- The preset that a name means, or how it was not found. -/
def get (service : LoopService) (name : Value) : Except Failure LoopPreset :=
  match service.preset? name with
  | some preset => .ok preset
  | none => .error (.presetNotFound name.plain service.knownNames)

/-- The warning for a preset without a handler. -/
def noHandler (preset : LoopPreset) : String :=
  "No loop handler registered for '" ++ preset.type.name ++ "' (loop '" ++ preset.id ++ "')"

/-- The warning for a handler that failed. -/
def handlerFailed (preset : LoopPreset) : String :=
  "Loop '" ++ preset.id ++ "' failed"

/-- The items that a handler finds for a preset; none, and a warning, if it fails. -/
def ask (service : LoopService) (handler : LoopHandler) (preset : LoopPreset) (params : Entries) (s : LoopState) :
    Value × LoopState :=
  let (outcome, query) := handler.run service.backend preset params
  let s := s.note ⟨preset, params⟩ query
  match outcome with
  | .ok items => (items, s)
  | .error _ => (.list [], s.warn (handlerFailed preset))

/-- The items of a preset under the key of the request, from the cache or else from its handler. -/
def itemsUnder (service : LoopService) (key : String) (preset : LoopPreset) (params : Entries) (s : LoopState) :
    Value × LoopState :=
  let (known, cache) := s.cache.find key
  let s := { s with cache := cache }
  match known with
  | some items => (items, s)
  | none =>
    match service.handlers.lookup preset.type with
    | none => (.list [], s.warn (noHandler preset))
    | some handler =>
      let (items, s) := service.ask handler preset params s
      (items, { s with cache := s.cache.set key items })

/-- The items that a name means for given parameters. Only a request that cannot be written down fails. -/
def items (service : LoopService) (name : Value) (params : Entries) : LoopM Value :=
  match service.preset? name with
  | none => pure (.list [])
  | some preset =>
    match requestText preset.id params with
    | .error f => throw f
    | .ok text => fun s =>
      let (items, s) := service.itemsUnder (service.digest text) preset params s
      (.ok items, s)

/-- The items that a name means for parameters handed over as a value, which is read only if there is such a
preset. -/
def itemsGiven (service : LoopService) (name params : Value) : LoopM Value :=
  if service.knows name then do
    let params ← params.toEntriesOrNone
    service.items name params
  else pure (.list [])

end LoopService

end DynamicBlocks
