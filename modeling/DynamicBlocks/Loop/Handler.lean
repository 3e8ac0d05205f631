import DynamicBlocks.Json.Reader
import DynamicBlocks.Loop.Params
import DynamicBlocks.Loop.Preset
import DynamicBlocks.Loop.Query

/-!
# Loop handlers

A handler yields the items of a preset for given parameters: a list, unless an extension yields something else,
which is handed on as it is. Structured data stand in the configuration
itself, as a list, a mapping or JSON text. The other handlers ask the host; the query for what the page itself
shows drops paging when all items are asked for.
-/

set_option autoImplicit false

namespace DynamicBlocks

/-- How the items of a preset are found. -/
inductive LoopHandler where
  /-- They stand in the configuration. -/
  | data
  /-- The host is asked. -/
  | query (kind : QueryKind)
  /-- An extension finds them. -/
  | custom (run : LoopPreset → Entries → Except Failure Value)
  deriving Inhabited

/-- The handlers by type. -/
abbrev LoopHandlers := List (HandlerType × LoopHandler)

def defaultHandlers : LoopHandlers :=
  [(.structuredData, .data), (.entityListing, .query .entities), (.structuredQuery, .query .structured),
    (.ambientQuery, .query .ambient)]

def setHandler (handlers : LoopHandlers) (type : HandlerType) (handler : LoopHandler) : LoopHandlers :=
  (handlers.filter fun entry => entry.1 ≠ type) ++ [(type, handler)]

/-- The query arguments of a preset with parameters bound. -/
def queryArgs (preset : LoopPreset) (params : Entries) : Except Failure Entries :=
  bindEntries (withDefaults (.map preset.args) params) preset.args

/-- The items in the configuration of a preset with parameters bound. -/
def configuredItems (preset : LoopPreset) (params : Entries) : Except Failure (List Value) := do
  let data := Entries.field preset.config "data"
  match ← bindParams (withDefaults data params) data with
  | .text s => pure (((Json.read? s).map itemsOf).getD [])
  | v => pure (itemsOf v)

/-- Whether a value is the number minus one, which asks for all items. -/
def asksForAll (v : Value) : Bool :=
  v.same (.int (-1))

/-- The query that a handler asks. -/
def queryOf (kind : QueryKind) (preset : LoopPreset) (params : Entries) : Except Failure Query := do
  let args ← typedArgs (← queryArgs preset params)
  match kind with
  | .ambient =>
    if asksForAll (Entries.field args "posts_per_page") then
      pure ⟨kind, Entries.insert args (.text "nopaging") (.bool true)⟩
    else pure ⟨kind, args⟩
  | kind => pure ⟨kind, args⟩

/-- The items of a preset, and the query that was asked for them. -/
def LoopHandler.run (handler : LoopHandler) (backend : Option QueryBackend) (preset : LoopPreset) (params : Entries) :
    Except Failure Value × Option Query :=
  match handler with
  | .data => (.list <$> configuredItems preset params, none)
  | .custom run => (run preset params, none)
  | .query kind =>
    match queryOf kind preset params with
    | .error f => (.error f, none)
    | .ok asked =>
      match backend with
      | none => (.error (.noBackend preset.id), none)
      | some backend => ((.list ∘ itemsOf) <$> backend asked, some asked)

end DynamicBlocks
