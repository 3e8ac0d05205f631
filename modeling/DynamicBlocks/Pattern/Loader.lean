import DynamicBlocks.Pattern.Basic

/-!
# Pattern loaders

A loader finds the pattern of a reference and lists the references it knows. Patterns come from a table, from
a function that answers some references, or from several loaders tried in order; the first that has the
pattern wins, and only a missing pattern lets the next one try.
-/

set_option autoImplicit false

namespace DynamicBlocks

/-- A source of patterns. -/
structure PatternLoader where
  /-- The pattern of a reference. -/
  find : String → Except Failure Pattern
  /-- The references that the loader can list, in order. -/
  names : List String

/-- What stands under a reference: a pattern built already, or a description of one. -/
inductive PatternData where
  | built (pattern : Pattern)
  | described (data : Value)

/-- The pattern, built under a reference if it is only described. -/
def PatternData.toPattern (ref : String) : PatternData → Except Failure Pattern
  | .built pattern => .ok pattern
  | .described data => Pattern.ofValue ref data

namespace PatternLoader

/-- Patterns by reference; for a reference listed twice the later one counts. -/
def table (patterns : List (String × PatternData)) : PatternLoader where
  find ref :=
    match patterns.reverse.lookup ref with
    | some data => data.toPattern ref
    | none => .error (.patternNotFound (.unlisted ref (Text.sorted (patterns.map (·.1)))))
  names := Text.sorted (patterns.map (·.1))

/-- A function that describes the pattern of a reference, or has no answer. It cannot list its references. -/
def answering (answer : String → Option Value) : PatternLoader where
  find ref :=
    match answer ref with
    | some data => Pattern.ofValue ref data
    | none => .error (.patternNotFound (.unanswered ref))
  names := []

/-- The pattern of the first loader that has it, none if none has it. -/
def findFirst? (ref : String) : List PatternLoader → Except Failure (Option Pattern)
  | [] => .ok none
  | loader :: loaders =>
    match loader.find ref with
    | .ok pattern => .ok (some pattern)
    | .error (.patternNotFound _) => findFirst? ref loaders
    | .error f => .error f

/-- Several loaders tried in order. -/
def choice (loaders : List PatternLoader) : PatternLoader where
  find ref := do
    match ← findFirst? ref loaders with
    | some pattern => pure pattern
    | none => .error (.patternNotFound (.notInChoices ref loaders.length))
  names := Text.sorted (loaders.flatMap (·.names))

end PatternLoader

end DynamicBlocks
