import DynamicBlocks.Render.Tree

/-!
# Rendering pages

A page is a list of blocks with initial sources, rendered in a session of its own. Sources that the host adds
for everything, and previews, are registered before.
-/

set_option autoImplicit false

namespace DynamicBlocks

/-- What is to be rendered. -/
structure Page where
  blocks : Value
  /-- What the page starts with as local values. -/
  sources : Value
  /-- Sources added for everything. -/
  globals : Value
  previews : Value

namespace RenderM

/-- Blocks rendered with initial sources as local entries. -/
def renderPage (env : Environment) (blocks : Value) (sources : Value) : RenderM String :=
  withActive do
    let entries ← ofExcept (Entry.ofInitials sources)
    withPushed entries do
      let blocks ← ofExcept (Block.ofSeries blocks)
      renderBlocks env .page blocks

/-- A change of the context that may fail. -/
def changeContext (change : Provider → Except Failure Provider) : RenderM Unit := fun s =>
  match change s.context with
  | .ok context => (.ok (), { s with context := context })
  | .error f => (.error f, s)

end RenderM

namespace Provider

def enqueue (provider : Provider) (key value : Value) : Except Failure Provider := do
  let registry ← provider.registry.enqueue key value
  pure { provider with registry := registry }

def dequeue (provider : Provider) (key : Value) : Except Failure Provider := do
  let registry ← provider.registry.dequeue key
  pure { provider with registry := registry }

def enqueuePreview (provider : Provider) (key value : Value) : Except Failure Provider := do
  let preview ← provider.preview.enqueue key value
  pure { provider with preview := preview }

def dequeuePreview (provider : Provider) (key : Value) : Except Failure Provider := do
  let preview ← provider.preview.dequeue key
  pure { provider with preview := preview }

/-- The context with all entries of a value registered, where anything that counts as false has none. -/
def enqueueAll (enqueue : Provider → Value → Value → Except Failure Provider) (provider : Provider) (v : Value) :
    Except Failure Provider :=
  if v.isTruthy then do
    let entries ← v.asEntries
    entries.foldlM (fun provider entry => enqueue provider entry.1 entry.2) provider
  else .ok provider

end Provider

/-- A page rendered in a session of its own: the text, and the session at the end. -/
def Environment.render (env : Environment) (page : Page) : Except Failure String × Session :=
  let action : RenderM String := do
    RenderM.changeContext fun provider => provider.enqueueAll Provider.enqueue page.globals
    RenderM.changeContext fun provider => provider.enqueueAll Provider.enqueuePreview page.previews
    RenderM.renderPage env page.blocks page.sources
  action (Session.start env.host)

end DynamicBlocks
