import DynamicBlocks.Context.Provider
import DynamicBlocks.Context.Slots
import DynamicBlocks.Loop.Target
import DynamicBlocks.Pattern.Cache

/-!
# Environments and sessions

An environment holds what stays the same between renders: where patterns come from, the presets and handlers
of loops, the modifiers, the host, how blocks are rendered, and some options. A session holds what changes
while a page is rendered: the context, the slot frames, the slots and components being rendered, and what has
been looked up so far.

Blocks are rendered by name. Besides the kinds that come with the library there are extensions, which see some
of the session, may have blocks rendered in scopes that they open, and then say what the block becomes.
-/

set_option autoImplicit false

namespace DynamicBlocks

/-- What an extension sees of a session. -/
structure View where
  /-- Where the block stands. -/
  place : Place
  /-- The sources of the block. -/
  sources : List Source
  /-- All entries, global ones and previews included. -/
  stack : List Entry
  /-- How many entries are on the live stack. -/
  liveEntries : Nat
  /-- How many components have frames. -/
  slotDepth : Nat
  /-- How deep components are nested. -/
  componentDepth : Int
  /-- How many slots are being rendered. -/
  guardedSlots : Nat
  /-- Whether the session is the active one. -/
  active : Bool

/-- A scope that an extension may open. -/
inductive PlanScope where
  /-- Entries are pushed on the live stack. -/
  | pushed (entries : List Entry)
  /-- Entries are put in place of the live stack. -/
  | isolated (entries : List Entry)
  /-- A component is entered. -/
  | component (ref : Value)
  /-- A slot frame is put on top, as for an instance that is entered. -/
  | framed (frame : SlotFrame)
  /-- The innermost slot frame is hidden. -/
  | outerFrames
  /-- The session is made the active one. -/
  | active

/-- What an extension does with a block. -/
inductive Plan where
  /-- The block becomes a text. -/
  | done (text : String)
  /-- Rendering fails. -/
  | fail (failure : Failure)
  /-- The blocks inside are rendered, and what comes of it decides what is next. -/
  | inner (next : Except Failure String → Plan)
  /-- Some block is rendered, one of those inside or any other, and what comes of it decides what is next. -/
  | block (place : Place) (block : Block) (next : Except Failure String → Plan)
  /-- Items are asked for, and they decide what is next. -/
  | items (name : Value) (params : Entries) (next : Except Failure Value → Plan)
  /-- A pattern is asked for, and it decides what is next. -/
  | pattern (ref : Value) (next : Except Failure (Option Pattern) → Plan)
  /-- A plan is carried out in a scope, where it sees the session anew, and what comes of it decides what is
  next. -/
  | within (scope : PlanScope) (plan : View → Plan) (next : Except Failure String → Plan)
  /-- A plan is carried out with a slot marked as being rendered. It is told whether the slot was free, and the
  mark is made only then. -/
  | guarded (owner name : Value) (plan : Bool → Plan) (next : Except Failure String → Plan)

/-- The plan to change the text of the blocks inside, and to fail where they do. -/
def Plan.mapInner (change : String → String) : Plan :=
  .inner fun
    | .ok text => .done (change text)
    | .error f => .fail f

/-- How a block is rendered. -/
inductive Renderer where
  | text
  | element
  | component
  | loop
  | slotPlaceholder
  | slotContent
  | extension (plan : View → Block → Plan)

def defaultRenderers : List (String × Renderer) :=
  [("text", .text), ("element", .element), ("component", .component), ("loop", .loop),
    ("slot-placeholder", .slotPlaceholder), ("slot-content", .slotContent)]

/-- Changes the text that a block has become, given the block's name. -/
abbrev PostProcessor := (text blockName : String) → Except Failure String

/-- When a placeholder is refused the content of a slot. -/
inductive SlotGuard where
  /-- When the slot of that name of the same block is being rendered, be it for another instance of the block. -/
  | byBlock
  /-- When the slot of that name of the same instance is being rendered. -/
  | byInstance
  /-- Never; slots that are rendered all the same are noted. -/
  | off
  deriving DecidableEq, Inhabited

/-- How deep components may be nested. -/
structure DepthLimit where
  /-- The number that was given. -/
  given : Value
  /-- The first depth that is too deep; none for a limit that no depth reaches. -/
  bound : Option Int
  deriving Inhabited

namespace DepthLimit

/-- A whole number as a limit. -/
def ofInt (n : Int) : DepthLimit := ⟨.int n, some n⟩

/-- The limit that a value gives, which has to be a number not below one. A fraction counts as the next whole
number, for depths are whole; infinity and what is not a number limit nothing. -/
def ofValue (v : Value) : Except Failure DepthLimit :=
  match v.number? with
  | none => .error .wrongType
  | some n =>
    if n.less (.int 1) then .error (.badDepthLimit v)
    else
      match n with
      | .int n => .ok ⟨v, some n⟩
      | .double x => .ok ⟨v, if x.isFinite then some x.ceil else none⟩

/-- Whether a depth is as deep as allowed, so that nothing may go deeper. -/
def isReached (limit : DepthLimit) (depth : Int) : Bool :=
  limit.bound.any fun bound => decide (bound ≤ depth)

/-- How many levels are left to go from a depth. Without a bound a render is given up after very many. -/
def levelsFrom (limit : DepthLimit) (depth : Int) : Nat :=
  match limit.bound with
  | some bound => (bound - depth).toNat
  | none => 1000000

end DepthLimit

/-- What stays the same between renders. -/
structure Environment where
  engine : Engine
  loader : Option PatternLoader
  host : Host
  /-- Whether values are escaped where they are substituted into text. -/
  autoescape : Bool
  postProcessors : List PostProcessor
  /-- How deep components may be nested. -/
  maxDepth : DepthLimit
  /-- The name of the blocks that hold slot content. -/
  slotBlock : String
  renderers : List (String × Renderer)
  slotGuard : SlotGuard

namespace Environment

def setRenderer (renderers : List (String × Renderer)) (name : String) (renderer : Renderer) :
    List (String × Renderer) :=
  (renderers.filter fun entry => entry.1 != name) ++ [(name, renderer)]

/-- The renderer for a name, if there is one. A list or mapping is no name that could be looked up. -/
def rendererFor (env : Environment) (name : Value) : Except Failure (Option Renderer) :=
  match name with
  | .text name => .ok (env.renderers.lookup name)
  | name => if name.isKey then .ok none else .error .wrongType

end Environment

/-- A slot being rendered: that of a component instance, told by the place of its block and the level of its
frame, or one that an extension guards by names of its own. -/
inductive GuardKey where
  | slot (component : Place) (level : Int) (name : String)
  | named (owner name : Value)

namespace GuardKey

/-- Whether two keys are equal, where instances of one block are not told apart. A block is known by its place, so one
object that stands at two places counts as two blocks. -/
def same : GuardKey → GuardKey → Bool
  | .slot place _ name, .slot other _ called => place == other && name == called
  | .named owner name, .named other called => owner.agrees other && name.agrees called
  | _, _ => false

/-- Whether two keys mean the same slot of the same instance. -/
def sameInstance : GuardKey → GuardKey → Bool
  | .slot _ level name, .slot _ other called => level == other && name == called
  | _, _ => false

end GuardKey

/-- What the scopes of a render change for a while. -/
structure Surroundings where
  context : Provider
  frames : SlotFrames
  /-- The slots being rendered, the latest first. -/
  guard : List GuardKey
  /-- How deep components are nested. -/
  depth : Int
  /-- How many slot frames are open, those that are hidden included. -/
  opened : Int
  /-- Whether the session is the active one. -/
  active : Bool
  deriving Inhabited

/-- A slot that was rendered while it was being rendered, and what came of it. -/
structure RepeatedSlot where
  key : GuardKey
  outcome : Except Failure String

/-- What a render learns on its way. -/
structure Memory where
  patterns : PatternCache
  loops : LoopState
  /-- The slots that only a guard would have refused, the latest first. -/
  repeated : List RepeatedSlot
  deriving Inhabited

/-- What changes while a page is rendered. -/
structure Session extends Surroundings, Memory
  deriving Inhabited

/-- What an extension sees. -/
def Surroundings.view (a : Surroundings) (place : Place) (block : Block) : View where
  place := place
  sources := a.context.sources block.context
  stack := a.context.fullStack
  liveEntries := a.context.stack.entries.length
  slotDepth := a.frames.length
  componentDepth := a.depth
  guardedSlots := a.guard.length
  active := a.active

namespace Memory

def warn (m : Memory) (warning : String) : Memory :=
  { m with loops := m.loops.warn warning }

/-- The memory with a slot noted that was rendered while it was being rendered. -/
def note (m : Memory) (slot : RepeatedSlot) : Memory :=
  { m with repeated := slot :: m.repeated }

end Memory

namespace Session

/-- The session at the start of a render. -/
def start (host : Host) : Session where
  context := .ofHost host
  frames := []
  guard := []
  depth := 0
  opened := 0
  active := false
  patterns := .empty
  loops := .start
  repeated := []

/-- The session with everything forgotten but the journal and which session is active. -/
def reset (s : Session) : Session where
  context := s.context.reset
  frames := []
  guard := []
  depth := 0
  opened := 0
  active := s.active
  patterns := s.patterns.clear
  loops := { s.loops with cache := .empty }
  repeated := []

end Session

/-- An action of a render, which may fail. -/
abbrev RenderM := ExceptT Failure (StateM Session)

namespace RenderM

/-- An action that finds items of loops. -/
def ofLoops {α : Type} (action : LoopM α) : RenderM α := fun s =>
  let (outcome, loops) := action s.loops
  (outcome, { s with loops := loops })

def ofExcept {α : Type} (outcome : Except Failure α) : RenderM α := fun s =>
  (outcome, s)

def warn (warning : String) : RenderM Unit := fun s =>
  (.ok (), { s with toMemory := s.toMemory.warn warning })

def sourcesOf (block : Block) : RenderM (List Source) := fun s =>
  (.ok (s.context.sources block.context), s)

def findPattern (env : Environment) (ref : Value) : RenderM (Option Pattern) := fun s =>
  let (outcome, patterns) := s.patterns.get env.loader ref
  (outcome, { s with patterns := patterns })

/-- A text changed by the post-processors, one after the other. -/
def postProcess (env : Environment) (block : Block) (text : String) : RenderM String :=
  ofExcept (env.postProcessors.foldlM (fun text process => process text block.name.plain) text)

/-- After an action that succeeds comes what follows it. -/
theorem bind_of_ok {α β : Type} {action : RenderM α} {next : α → RenderM β} {s t : Session} {x : α}
    (done : action s = (.ok x, t)) : (action >>= next) s = next x t := by
  show ExceptT.bindCont next (action s).1 (action s).2 = next x t
  rw [done]
  rfl

/-- After an action that fails comes nothing. -/
theorem bind_of_error {α β : Type} {action : RenderM α} {next : α → RenderM β} {s t : Session} {f : Failure}
    (done : action s = (.error f, t)) : (action >>= next) s = (.error f, t) := by
  show ExceptT.bindCont next (action s).1 (action s).2 = (.error f, t)
  rw [done]
  rfl

/-- An action whose value is changed. -/
theorem map_apply {α β : Type} (f : α → β) (action : RenderM α) (s : Session) :
    (f <$> action) s = ((action s).1.map f, (action s).2) := by
  rcases done : action s with ⟨outcome, t⟩
  cases outcome with
  | error e => exact bind_of_error done
  | ok x => exact bind_of_ok done

/-- A value that there is goes on to what follows. -/
theorem ofExcept_ok_bind {α β : Type} (x : α) (next : α → RenderM β) : (ofExcept (.ok x) >>= next) = next x := rfl

/-- A value that there is not fails. -/
theorem ofExcept_error_bind {α β : Type} (f : Failure) (next : α → RenderM β) :
    (ofExcept (.error f) >>= next) = throw f := rfl

end RenderM

end DynamicBlocks
