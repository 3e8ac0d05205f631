import DynamicBlocks.Context.Entry

/-!
# Context stacks

A stack of entries, oldest first. Entries are pushed at the end and popped from there; a pop of an empty stack
is a failure, for it means that some renderer took more than it had put.
-/

set_option autoImplicit false

namespace DynamicBlocks

/-- A stack of entries, oldest first. -/
structure ContextStack where
  entries : List Entry
  deriving Inhabited

namespace ContextStack

def empty : ContextStack := ⟨[]⟩

def push (stack : ContextStack) (entry : Entry) : ContextStack :=
  ⟨stack.entries ++ [entry]⟩

def pushAll (stack : ContextStack) (entries : List Entry) : ContextStack :=
  ⟨stack.entries ++ entries⟩

/-- The newest entry and the stack without it. -/
def pop? (stack : ContextStack) : Option (Entry × ContextStack) :=
  stack.entries.getLast?.map fun entry => (entry, ⟨stack.entries.dropLast⟩)

/-- How a pop of an empty stack fails. -/
def imbalance : Failure := .frameImbalance "dynamic content stack"

/-- The stack after several pops, and whether there was an entry for each. -/
def popMany : (count : Nat) → ContextStack → Except Failure Unit × ContextStack
  | 0, stack => (.ok (), stack)
  | count + 1, stack =>
    match stack.pop? with
    | some (_, rest) => popMany count rest
    | none => (.error imbalance, stack)

def ofKind (stack : ContextStack) (kind : EntryKind) : List Entry :=
  stack.entries.filter fun entry => entry.kind = kind

def withoutKind (stack : ContextStack) (kind : EntryKind) : List Entry :=
  stack.entries.filter fun entry => entry.kind ≠ kind

def sources (stack : ContextStack) : List Source :=
  Entry.sources stack.entries

/-- A short description of the stack. -/
def text (stack : ContextStack) : String :=
  "<DynamicContentStack entries=" ++ intText stack.entries.length ++ ">"

/-- What was pushed last is popped first. -/
@[simp] theorem pop?_push (stack : ContextStack) (entry : Entry) : (stack.push entry).pop? = some (entry, stack) := by
  simp [push, pop?]

/-- Popping as often as was pushed gives the stack back. -/
theorem popMany_pushAll (stack : ContextStack) (entries : List Entry) :
    popMany entries.length (stack.pushAll entries) = (.ok (), stack) := by
  generalize count : entries.length = n
  induction n generalizing entries with
  | zero =>
    rw [List.length_eq_zero_iff.mp count]
    simp [popMany, pushAll]
  | succ n ih =>
    rcases List.eq_nil_or_concat entries with rfl | ⟨front, last, rfl⟩
    · cases count
    · have step : stack.pushAll (front.concat last) = (stack.pushAll front).push last := by
        simp [pushAll, push]
      rw [step, popMany, pop?_push]
      exact ih front (by simpa using count)

end ContextStack

end DynamicBlocks
