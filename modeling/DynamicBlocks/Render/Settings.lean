import DynamicBlocks.Modifier.Builtin
import DynamicBlocks.Render.Page

/-!
# Settings

An environment is set up from what a caller hands over. The types of handlers and the limit on nesting are
checked at once; presets are read when a render starts.
-/

set_option autoImplicit false

namespace DynamicBlocks

/-- What a caller hands over to set up an environment. -/
structure Settings where
  loader : Option PatternLoader
  host : Host
  backend : Option QueryBackend
  /-- Presets by identifier. -/
  presets : Value
  /-- Handlers to use instead of those that come with the library, or besides, by type. -/
  handlers : List (Value × LoopHandler)
  modifiers : ModifierTable
  autoescape : Bool
  postProcessors : List PostProcessor
  maxDepth : Value
  slotBlock : String
  renderers : List (String × Renderer)

def defaultMaxDepth : Value := .int 50

/-- The name of the blocks that hold slot content if none is set. -/
def defaultSlotBlock : String := "slot-content"

/-- Settings that are checked as far as they are before a render. -/
structure Configuration where
  settings : Settings
  handlers : LoopHandlers
  maxDepth : DepthLimit

namespace Settings

/-- The handlers with those of the settings set for their types. -/
def readHandlers (handlers : List (Value × LoopHandler)) : Except Failure LoopHandlers :=
  handlers.foldlM (fun known entry => do
    let type ← HandlerType.ofValue entry.1
    pure (setHandler known type entry.2)) defaultHandlers

/-- The settings checked. -/
def configure (settings : Settings) : Except Failure Configuration := do
  let handlers ← readHandlers settings.handlers
  let maxDepth ← DepthLimit.ofValue settings.maxDepth
  pure ⟨settings, handlers, maxDepth⟩

end Settings

/-- Settings that list patterns and leave everything else as it is. -/
def Settings.ofPatterns (patterns : List (String × PatternData)) : Settings where
  loader := some (.table patterns)
  host := .silent
  backend := none
  presets := .null
  handlers := []
  modifiers := builtinModifiers
  autoescape := true
  postProcessors := []
  maxDepth := defaultMaxDepth
  slotBlock := defaultSlotBlock
  renderers := []

/-- The environment of patterns, with everything else as it is if nothing is set. -/
def Environment.ofPatterns (patterns : List (String × PatternData)) : Environment where
  engine := ⟨builtinModifiers, [], defaultHandlers, none, Digest.sha256⟩
  loader := some (.table patterns)
  host := .silent
  autoescape := true
  postProcessors := []
  maxDepth := .ofInt 50
  slotBlock := defaultSlotBlock
  renderers := defaultRenderers
  slotGuard := .byBlock

namespace Configuration

/-- The environment of a render. -/
def environment (configuration : Configuration) : Except Failure Environment := do
  let settings := configuration.settings
  let entries ← if settings.presets.isTruthy then settings.presets.asEntries else pure []
  let presets ← LoopService.presetsOf entries
  pure {
    engine := ⟨settings.modifiers, presets, configuration.handlers, settings.backend, Digest.sha256⟩
    loader := settings.loader
    host := settings.host
    autoescape := settings.autoescape
    postProcessors := settings.postProcessors
    maxDepth := configuration.maxDepth
    slotBlock := settings.slotBlock
    renderers := settings.renderers.foldl (fun known entry => Environment.setRenderer known entry.1 entry.2)
      defaultRenderers
    slotGuard := .byBlock }

/-- A page rendered in a session of its own, with what happened on the way. -/
def render (configuration : Configuration) (page : Page) : Except Failure String × Session :=
  match configuration.environment with
  | .ok env => env.render page
  | .error f => (.error f, Session.start configuration.settings.host)

end Configuration

end DynamicBlocks
