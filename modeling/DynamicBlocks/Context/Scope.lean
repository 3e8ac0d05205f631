import DynamicBlocks.Context.Provider

/-!
# Scopes

A scope changes the live stack and puts it right when it is left, on whatever way. Pushed entries belong to
the stack they were pushed on: if another stack has become the live one in between, leaving the scope takes
them from the one that is no longer live, and the live one stays as it is. An isolated scope puts a stack of
its own in place of the live one and brings that back in the end.
-/

set_option autoImplicit false

namespace DynamicBlocks

/-- A context whose stacks are numbered, so that a scope can come back to the one it was opened on. -/
structure ScopedProvider where
  provider : Provider
  /-- The number of the live stack. -/
  live : Nat
  /-- The stacks that are not live, by number. -/
  aside : List (Nat × ContextStack)
  /-- The first number that is free. -/
  fresh : Nat
  deriving Inhabited

/-- What is to be put right when a scope is left. -/
inductive Scope where
  /-- Entries were pushed on a stack. -/
  | pushed (stack count : Nat)
  /-- A stack was put aside. -/
  | isolated (stack : Nat)
  deriving Inhabited

namespace ScopedProvider

def ofProvider (provider : Provider) : ScopedProvider := ⟨provider, 0, [], 1⟩

/-- The context with another stack put in place of the live one. -/
def replaceStack (s : ScopedProvider) (provider : Provider) : ScopedProvider :=
  ⟨provider, s.fresh, (s.live, s.provider.stack) :: s.aside, s.fresh + 1⟩

def clear (s : ScopedProvider) : ScopedProvider :=
  s.replaceStack { s.provider with stack := .empty }

def reset (s : ScopedProvider) : ScopedProvider :=
  s.replaceStack s.provider.reset

/-- A scope in which entries are on the live stack. -/
def enterPushed (s : ScopedProvider) (entries : List Entry) : Scope × ScopedProvider :=
  (.pushed s.live entries.length, { s with provider.stack := s.provider.stack.pushAll entries })

/-- A scope in which the live stack holds just these entries. -/
def enterIsolated (s : ScopedProvider) (entries : List Entry) : Scope × ScopedProvider :=
  (.isolated s.live, s.replaceStack { s.provider with stack := ⟨entries⟩ })

def stackOf (s : ScopedProvider) (number : Nat) : ContextStack :=
  if number = s.live then s.provider.stack else (s.aside.lookup number).getD .empty

def setStack (s : ScopedProvider) (number : Nat) (stack : ContextStack) : ScopedProvider :=
  if number = s.live then { s with provider.stack := stack }
  else { s with aside := (number, stack) :: s.aside }

/-- A scope left: pushed entries are popped from their stack, a stack that was put aside becomes live again. -/
def leave (s : ScopedProvider) : Scope → Except Failure Unit × ScopedProvider
  | .pushed number count =>
    let (outcome, stack) := (s.stackOf number).popMany count
    (outcome, s.setStack number stack)
  | .isolated number =>
    (.ok (), { s with
      provider.stack := s.stackOf number
      live := number
      aside := (s.live, s.provider.stack) :: s.aside })

end ScopedProvider

end DynamicBlocks
