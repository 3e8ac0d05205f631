import DynamicBlocks.Render.Session

/-!
# Scopes of a render

Rendering changes the session for a while: entries are pushed, the live stack is replaced, a component is
entered, a slot is marked as being rendered. Each change is a scope: it is undone when the action inside is
done, whether that succeeded or failed. A failure to undo it replaces whatever the action came to.
-/

set_option autoImplicit false

namespace DynamicBlocks

/-- How going deeper than allowed fails. -/
def tooDeep (env : Environment) (ref : Value) : Failure :=
  .renderDepth ref.plain env.maxDepth.given

namespace Surroundings

/-- The surroundings with entries pushed on the live stack. -/
def pushed (a : Surroundings) (entries : List Entry) : Surroundings :=
  { a with context.stack := a.context.stack.pushAll entries }

/-- The surroundings with entries in place of the live stack. -/
def isolated (a : Surroundings) (entries : List Entry) : Surroundings :=
  { a with context.stack := ⟨entries⟩ }

/-- The surroundings inside a component. -/
def deeper (a : Surroundings) : Surroundings :=
  { a with depth := a.depth + 1 }

def framed (a : Surroundings) (frame : SlotFrame) : Surroundings :=
  { a with frames := frame :: a.frames, opened := a.opened + 1 }

/-- The surroundings with the top slot frame hidden. -/
def uncovered (a : Surroundings) : Surroundings :=
  { a with frames := (SlotFrames.hide a.frames).2 }

/-- The surroundings with a slot marked as being rendered. -/
def guarding (a : Surroundings) (key : GuardKey) : Surroundings :=
  { a with guard := key :: a.guard }

/-- The surroundings of the active session. -/
def activated (a : Surroundings) : Surroundings :=
  { a with active := true }

end Surroundings

namespace Session

def surround (s : Session) (a : Surroundings) : Session :=
  { s with toSurroundings := a }

/-- The session with entries pushed on the live stack. -/
def pushEntries (s : Session) (entries : List Entry) : Session :=
  s.surround (s.pushed entries)

/-- The session with entries popped from the live stack. -/
def popEntries (s : Session) (count : Nat) : Except Failure Unit × Session :=
  let (undone, stack) := s.context.stack.popMany count
  (undone, { s with context.stack := stack })

def withStack (s : Session) (stack : ContextStack) : Session :=
  { s with context.stack := stack }

/-- The session inside a component, unless components are nested as deep as allowed already. -/
def enterComponent (s : Session) (env : Environment) (ref : Value) : Except Failure Session :=
  if env.maxDepth.isReached s.depth then .error (tooDeep env ref) else .ok (s.surround s.deeper)

/-- The session outside of the component it is in. -/
def leaveComponent (s : Session) : Session :=
  { s with depth := s.depth - 1 }

/-- The session without its innermost slot frame. -/
def leaveFrame (s : Session) : Except Failure Unit × Session :=
  match SlotFrames.pop s.frames with
  | .ok (_, frames) => (.ok (), { s with frames := frames, opened := s.opened - 1 })
  | .error f => (.error f, s)

/-- The session with a slot marked as being rendered. -/
def enterSlot (s : Session) (key : GuardKey) : Session :=
  s.surround (s.guarding key)

/-- The session with the latest mark on a slot gone. -/
def leaveSlot (s : Session) : Except Failure Unit × Session :=
  match s.guard with
  | [] => (.error .missingIndex, s)
  | _ :: guard => (.ok (), { s with guard := guard })

/-- Whether a slot is being rendered already. -/
def isGuarded (s : Session) (key : GuardKey) : Bool :=
  s.guard.any key.same

end Session

namespace RenderM

/-- An action after which something is undone in any case. -/
def undoing {α : Type} (undo : Session → Except Failure Unit × Session) (action : RenderM α) : RenderM α := fun s =>
  let (outcome, inside) := action s
  let (undone, after) := undo inside
  match undone with
  | .ok () => (outcome, after)
  | .error f => (.error f, after)

/-- An action with entries pushed on the live stack. -/
def withPushed {α : Type} (entries : List Entry) (action : RenderM α) : RenderM α := fun s =>
  undoing (fun inside => inside.popEntries entries.length) action (s.pushEntries entries)

/-- An action with other entries in place of the live stack. -/
def withIsolated {α : Type} (entries : List Entry) (action : RenderM α) : RenderM α := fun s =>
  undoing (fun inside => (.ok (), inside.withStack s.context.stack)) action (s.surround (s.isolated entries))

/-- An action inside a component. -/
def withComponent {α : Type} (env : Environment) (ref : Value) (action : RenderM α) : RenderM α := fun s =>
  match s.enterComponent env ref with
  | .ok entered => undoing (fun inside => (.ok (), inside.leaveComponent)) action entered
  | .error f => (.error f, s)

/-- An action with a slot frame on top. -/
def withFrame {α : Type} (frame : SlotFrame) (action : RenderM α) : RenderM α := fun s =>
  undoing Session.leaveFrame action (s.surround (s.framed frame))

/-- An action with the top slot frame hidden. -/
def withOuterFrames {α : Type} (action : RenderM α) : RenderM α := fun s =>
  let hidden := (SlotFrames.hide s.frames).1
  undoing (fun inside => (.ok (), { inside with frames := SlotFrames.restore hidden inside.frames })) action
    (s.surround s.uncovered)

/-- An action with a slot marked as being rendered. -/
def withGuard {α : Type} (key : GuardKey) (action : RenderM α) : RenderM α := fun s =>
  undoing Session.leaveSlot action (s.enterSlot key)

/-- An action with the session as the active one. -/
def withActive {α : Type} (action : RenderM α) : RenderM α := fun s =>
  undoing (fun inside => (.ok (), { inside with active := s.active })) action (s.surround s.activated)

/-- What an action comes to, as a value: no failure gets past it. -/
def attempt {α : Type} (action : RenderM α) : RenderM (Except Failure α) := fun s =>
  let (outcome, after) := action s
  (.ok outcome, after)

end RenderM

end DynamicBlocks
