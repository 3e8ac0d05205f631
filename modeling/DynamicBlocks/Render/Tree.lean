import DynamicBlocks.Render.Component
import DynamicBlocks.Render.Loop
import DynamicBlocks.Render.Slot

/-!
# Rendering block trees

Blocks are rendered in order, each by the renderer of its name; a block without one is the blocks inside it.

A component leads into the body of a pattern, which may hold the component again, and a placeholder leads back
to content of the caller. Both go on being finite: every component uses up one of the levels that are still
allowed, and slot content at the same level sees one slot frame less. Rendering is therefore a recursion on the
levels left, then on the frames in sight, and then on the tree itself.

An extension may have any block rendered, in scopes that open slot frames, so that none of this need become less.
Blocks of extensions within blocks of extensions are given up after very many.
-/

set_option autoImplicit false

namespace DynamicBlocks

/-- How a block is rendered with a number of component levels left and of slot frames in sight. -/
abbrev BlockRender := (levels frames : Nat) → Place → Block → RenderM String

/-- Ways on that leave the tree at hand. -/
structure WaysOn where
  /-- Into the body of the pattern of a reference. -/
  body : (ref : String) → List Block → RenderM String
  /-- Into the content of a slot. -/
  fill : SlotContent → RenderM String
  /-- Into a block that an extension has rendered. -/
  anew : BlockRender

namespace RenderM

/-- How many component levels are left in a session. -/
def levelsLeft (env : Environment) (s : Session) : Nat :=
  env.maxDepth.levelsFrom s.depth

/-- An action with a slot frame on top that an extension made. -/
def withOwnFrame {α : Type} (frame : SlotFrame) (action : RenderM α) : RenderM α := fun s =>
  withFrame { frame with level := s.opened } action s

/-- An action in a scope that an extension opened. -/
def withinScope {α : Type} (env : Environment) : PlanScope → RenderM α → RenderM α
  | .pushed entries, action => withPushed entries action
  | .isolated entries, action => withIsolated entries action
  | .component ref, action => withComponent env ref action
  | .framed frame, action => withOwnFrame frame action
  | .outerFrames, action => withOuterFrames action
  | .active, action => withActive action

/-- An action that is told whether a slot is free, with the slot marked if it is. -/
def ifFree {α : Type} (key : GuardKey) (action : Bool → RenderM α) : RenderM α := fun s =>
  if s.isGuarded key then action false s else withGuard key (action true) s

/-- A block rendered for an extension where the session stands. -/
def renderAnew (env : Environment) (anew : BlockRender) (place : Place) (block : Block) : RenderM String := do
  let s ← get
  anew (levelsLeft env s) s.frames.length place block

/-- The children of a place rendered one by one, from a position on, given how a block is rendered. -/
def renderEach (render : Place → Block → RenderM String) (place : Place) :
    (position : Nat) → List Block → RenderM String
  | _, [] => pure ""
  | position, block :: blocks => do
    let first ← render (place.child position) block
    let rest ← renderEach render place (position + 1) blocks
    pure (first ++ rest)

/-- A plan of an extension carried out, given how blocks are rendered. -/
def follow (env : Environment) (place : Place) (block : Block) (render : Place → Block → RenderM String) :
    Plan → RenderM String
  | .done text => pure text
  | .fail failure => throw failure
  | .inner next => do
    let outcome ← attempt (renderEach render place 0 block.inner)
    follow env place block render (next outcome)
  | .block other inner next => do
    let outcome ← attempt (render other inner)
    follow env place block render (next outcome)
  | .items name params next => do
    let outcome ← attempt (ofLoops (env.engine.loops.items name params))
    follow env place block render (next outcome)
  | .pattern ref next => do
    let outcome ← attempt (findPattern env ref)
    follow env place block render (next outcome)
  | .within scope plan next => do
    let outcome ← attempt (withinScope env scope do
      let s ← get
      follow env place block render (plan (s.view place block)))
    follow env place block render (next outcome)
  | .guarded owner name plan next => do
    let outcome ← attempt (ifFree (.named owner name) fun free => follow env place block render (plan free))
    follow env place block render (next outcome)

/-- A block rendered by an extension, given how blocks are rendered. -/
def renderExtension (env : Environment) (plan : View → Block → Plan) (place : Place) (block : Block)
    (render : Place → Block → RenderM String) : RenderM String := do
  let s ← get
  follow env place block render (plan (s.view place block) block)

/-- A block rendered by a renderer, given how the blocks inside it are; without a renderer it is these. -/
def renderAs (env : Environment) (on : WaysOn) (place : Place) (block : Block) (inside : RenderM String) :
    Option Renderer → RenderM String
  | none => inside
  | some .text => renderText env block
  | some .element => renderElement env block inside
  | some .component => renderComponent env place block on.body
  | some .loop => renderLoop env block inside
  | some .slotPlaceholder => renderPlaceholder env block on.fill
  | some .slotContent => pure ""
  | some (.extension plan) => renderExtension env plan place block (renderAnew env on.anew)

/-- A block rendered by the renderer of its name, given how the blocks inside it are. -/
def renderNamed (env : Environment) (on : WaysOn) (place : Place) (block : Block) (inside : RenderM String) :
    RenderM String := do
  let renderer ← ofExcept (env.rendererFor block.name)
  renderAs env on place block inside renderer

mutual

def renderBlock (env : Environment) (on : WaysOn) (place : Place) : Block → RenderM String
  | ⟨name, attrs, inner, context, held⟩ =>
    renderNamed env on place ⟨name, attrs, inner, context, held⟩ (renderFrom env on place 0 inner)

/-- The children of a place rendered in order, from a position on. -/
def renderFrom (env : Environment) (on : WaysOn) (place : Place) : (position : Nat) → List Block → RenderM String
  | _, [] => pure ""
  | position, block :: blocks => do
    let first ← renderBlock env on (place.child position) block
    let rest ← renderFrom env on place (position + 1) blocks
    pure (first ++ rest)

end

/-- The ways on from blocks with a number of slot frames in sight, given how bodies are rendered with a number of
frames in sight, and how blocks of extensions are. -/
def waysOn (env : Environment) (anew : BlockRender)
    (body : (frames : Nat) → (ref : String) → List Block → RenderM String) : (frames : Nat) → WaysOn
  | 0 => ⟨body 1, fun _ => pure "", anew⟩
  | frames + 1 =>
    ⟨body (frames + 2), fun content => renderFrom env (waysOn env anew body frames) content.place 0 content.blocks,
      anew⟩

/-- The body of a pattern rendered for a component with a number of component levels left and a number of slot
frames in sight inside, given how blocks of extensions are. Without a level left there is no body, for going deeper
has failed before. -/
def bodyAt (env : Environment) (anew : BlockRender) :
    (levels frames : Nat) → (ref : String) → List Block → RenderM String
  | 0, _, _, _ => throw .endless
  | levels + 1, frames, ref, blocks =>
    renderFrom env (waysOn env anew (bodyAt env anew levels) frames) (.body ref) 0 blocks

/-- A block of an extension rendered, with a number of times that blocks of extensions may lead to such blocks. -/
def renderAnewAt (env : Environment) : (times : Nat) → BlockRender
  | 0, _, _, _, _ => throw .endless
  | times + 1, levels, frames, place, block =>
    let anew := renderAnewAt env times
    renderBlock env (waysOn env anew (bodyAt env anew levels) frames) place block

/-- How often blocks of extensions may lead to such blocks before a render is given up. -/
def extensionTimes : Nat := 1000000

/-- The body of a pattern rendered for a component with a number of component levels left and a number of slot
frames in sight inside. -/
def renderBodyAt (env : Environment) : (levels frames : Nat) → (ref : String) → List Block → RenderM String :=
  bodyAt env (renderAnewAt env extensionTimes)

/-- The ways on where a number of component levels is left and a number of slot frames is in sight. -/
def waysFrom (env : Environment) (levels frames : Nat) : WaysOn :=
  waysOn env (renderAnewAt env extensionTimes) (renderBodyAt env levels) frames

/-- Blocks rendered with a number of component levels left and a number of slot frames in sight. -/
def renderAt (env : Environment) (levels frames : Nat) (place : Place) (blocks : List Block) : RenderM String :=
  renderFrom env (waysFrom env levels frames) place 0 blocks

def renderBlocks (env : Environment) (place : Place) (blocks : List Block) : RenderM String := do
  let s ← get
  renderAt env (levelsLeft env s) s.frames.length place blocks

/-- A component rendered where the session stands. -/
def renderComponentHere (env : Environment) (place : Place) (block : Block) : RenderM String := do
  let s ← get
  renderComponent env place block (renderBodyAt env (levelsLeft env s) (s.frames.length + 1))

end RenderM

end DynamicBlocks
