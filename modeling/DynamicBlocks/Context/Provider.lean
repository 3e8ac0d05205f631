import DynamicBlocks.Context.Host
import DynamicBlocks.Context.Registry
import DynamicBlocks.Context.Stack

/-!
# Context of a render

All that expressions can refer to during a render, in layers from the least to the most important: the global
context of the host with the globally registered sources, the context that the host attached to a block, the
stack of entries that renderers pushed, what a block adds for itself, and previews, which always come last and
so win over everything.
-/

set_option autoImplicit false

namespace DynamicBlocks

/-- How much of the surrounding context a block leaves out. -/
inductive ResetMode where
  | none
  | keepGlobal
  | all
  deriving DecidableEq, Inhabited

namespace ResetMode

/-- The name of a mode. -/
def name : ResetMode → String
  | .none => "none"
  | .keepGlobal => "keep_global"
  | .all => "all"

/-- The mode that a value names; nothing is left out for what names none. -/
def ofValue : Value → ResetMode
  | .text "keepGlobal" => .keepGlobal
  | .text "keep_global" => .keepGlobal
  | .text "all" => .all
  | _ => .none

end ResetMode

/-- The context of a render. -/
structure Provider where
  host : Host
  registry : Registry
  preview : Registry
  stack : ContextStack
  deriving Inhabited

namespace Provider

def ofHost (host : Host) : Provider := ⟨host, .globals, .previews, .empty⟩

/-- The global entries: those of the host, then the registered ones. -/
def globalEntries (provider : Provider) : List Entry :=
  provider.host.entries ++ provider.registry.entries

/-- The entries of a block's own context, which has to be a mapping unless it counts as false. -/
def blockEntries (context : Value) : Except Failure (List Entry) :=
  if context.isTruthy then Entry.ofMapping .localValue <$> context.asEntries else .ok []

/-- The entries below the previews that a block sees. -/
def entriesBelow (provider : Provider) (mode : ResetMode) (block added : List Entry) : List Entry :=
  match mode with
  | .all => added
  | .keepGlobal => provider.globalEntries ++ provider.stack.ofKind .globalValue ++ added
  | .none => provider.globalEntries ++ block ++ provider.stack.entries ++ added

/-- The sources that a block sees, the least important first. -/
def sourcesAmong (provider : Provider) (mode : ResetMode) (block added : List Entry) : List Source :=
  Entry.sources (provider.entriesBelow mode block added ++ provider.preview.entries)

/-- The sources that a block with a context sees. The context is looked at only if nothing is left out. -/
def sourcesFor (provider : Provider) (context : Value) (added : List Entry) (mode : ResetMode) :
    Except Failure (List Source) := do
  let block ← if mode = .none then blockEntries context else pure []
  pure (provider.sourcesAmong mode block added)

/-- The sources that a block sees which adds nothing for itself, given its context. -/
def sources (provider : Provider) (context : Entries) : List Source :=
  provider.sourcesAmong .none (Entry.ofMapping .localValue context) []

/-- All entries as one stack. -/
def fullStack (provider : Provider) : List Entry :=
  provider.globalEntries ++ provider.stack.entries ++ provider.preview.entries

/-- The entries of the live stack that are not global. -/
def nonGlobal (provider : Provider) : List Entry :=
  provider.stack.withoutKind .globalValue

/-- The context with the entries of the live stack replaced. -/
def withEntries (provider : Provider) (entries : List Entry) : Provider :=
  { provider with stack := ⟨entries⟩ }

def reset (provider : Provider) : Provider := ofHost provider.host

/-- A short description of the context. -/
def text (provider : Provider) : String :=
  "<DynamicContextProvider entries=" ++ intText provider.stack.entries.length ++ ">"

/-- Whatever is left out, previews come last. -/
theorem sourcesAmong_preview (provider : Provider) (mode : ResetMode) (block added : List Entry) :
    provider.sourcesAmong mode block added =
      Entry.sources (provider.entriesBelow mode block added) ++ Entry.sources provider.preview.entries :=
  Entry.sources_append _ _

end Provider

end DynamicBlocks
