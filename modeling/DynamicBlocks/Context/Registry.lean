import DynamicBlocks.Context.Entry
import DynamicBlocks.Text.Blank

/-!
# Registries of sources

Sources that the host registers under a key. Registering a key again replaces its value; in the registry of
global sources the key moves to the end, so that the latest registration counts last, while previews keep the
place of their first registration. Blank keys are ignored.
-/

set_option autoImplicit false

namespace DynamicBlocks

/-- Registered sources in order. -/
structure Registry where
  /-- The kind of the entries that the registry yields. -/
  kind : EntryKind
  /-- Whether a key that is registered again moves to the end. -/
  movesToEnd : Bool
  sources : List (String × Value)
  deriving Inhabited

namespace Registry

def globals : Registry := ⟨.globalValue, true, []⟩

def previews : Registry := ⟨.preview, false, []⟩

def without (sources : List (String × Value)) (key : String) : List (String × Value) :=
  sources.filter fun source => source.1 != key

/-- The sources with a key set in its place, or at the end if it is new. -/
def setInPlace (sources : List (String × Value)) (key : String) (value : Value) : List (String × Value) :=
  if sources.any fun source => source.1 == key then
    sources.map fun source => if source.1 == key then (key, value) else source
  else sources ++ [(key, value)]

/-- A source registered under a text. -/
def register (registry : Registry) (key : String) (value : Value) : Registry :=
  if Text.isBlankText key then registry
  else
    { registry with
      sources :=
        if registry.movesToEnd then without registry.sources key ++ [(key, value)]
        else setInPlace registry.sources key value }

/-- A source registered under a key, which has to be a text unless it counts as false. -/
def enqueue (registry : Registry) (key value : Value) : Except Failure Registry :=
  match key with
  | .text s => .ok (registry.register s value)
  | key => if key.isTruthy then .error (key.lacks "strip") else .ok registry

/-- A source taken back. -/
def dequeue (registry : Registry) (key : Value) : Except Failure Registry :=
  if !key.isKey then .error .wrongType
  else
    match key with
    | .text s => .ok { registry with sources := without registry.sources s }
    | _ => .ok registry

def contains (registry : Registry) (key : Value) : Except Failure Bool :=
  if !key.isKey then .error .wrongType
  else .ok (registry.sources.any fun source => key.same (.text source.1))

def entries (registry : Registry) : List Entry :=
  registry.sources.map fun source => ⟨registry.kind, .text source.1, source.2, []⟩

def clear (registry : Registry) : Registry :=
  { registry with sources := [] }

end Registry

end DynamicBlocks
