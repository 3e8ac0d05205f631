import DynamicBlocks.Text.Similarity
import DynamicBlocks.Value.Written

/-!
# Failures

What can go wrong, by cause. Failures of the engine's own have a message and most of them a code to search
for; a failure of shape says only what was wanted of a value that has it not. Modifiers are forgiven the
failures that come from unexpected input: the value they were applied to stays as it was.
-/

set_option autoImplicit false

namespace DynamicBlocks

/-- Why a pattern was not found. -/
inductive PatternFault where
  /-- A table of patterns does not list it. -/
  | unlisted (ref : String) (known : List String)
  /-- No directory holds its file. -/
  | notInDirectories (ref : String) (directories : List String)
  /-- Its file cannot be read as JSON. -/
  | notJson (ref path : String)
  /-- Its file holds something else than an object. -/
  | notObject (ref path : String)
  /-- None of several sources has it. -/
  | notInChoices (ref : String) (choices : Nat)
  /-- The function asked for it had no answer. -/
  | unanswered (ref : String)
  /-- A source said so in its own words. -/
  | reported (message : String)

/-- How a text names the known names, or the one closest to what was asked for. -/
def PatternFault.hint (ref : String) (known : List String) : String :=
  match Text.closestMatch? ref known with
  | some name => ". Did you mean '" ++ name ++ "'?"
  | none =>
    if known.isEmpty then ""
    else
      ". Available: " ++ Text.join ", " (known.take 10) ++
        (if 10 < known.length then " ... (" ++ intText known.length ++ " total)" else "")

/-- The message of a missing pattern. -/
def PatternFault.message : PatternFault → String
  | .unlisted ref known => "Pattern '" ++ ref ++ "' not found" ++ hint ref known
  | .notInDirectories ref directories =>
    "Pattern '" ++ ref ++ "' not found in: " ++ Text.join ", " directories
  | .notJson ref path => "Pattern '" ++ ref ++ "' at " ++ path ++ " is not valid JSON"
  | .notObject ref path => "Pattern '" ++ ref ++ "' at " ++ path ++ " is not a JSON object"
  | .notInChoices ref choices =>
    "Pattern '" ++ ref ++ "' not found in any of " ++ intText choices ++ " loaders"
  | .unanswered ref => "Pattern '" ++ ref ++ "' not found"
  | .reported message => message

/-- A code to search for. -/
inductive FailureCode where
  | frameImbalance
  | patternNotFound
  | presetNotFound
  | renderDepth
  deriving DecidableEq, Inhabited

namespace FailureCode

/-- All codes, in the order of their listing. -/
def all : List FailureCode := [.frameImbalance, .patternNotFound, .presetNotFound, .renderDepth]

/-- The name of a code. -/
def name : FailureCode → String
  | .frameImbalance => "FRAME_IMBALANCE"
  | .patternNotFound => "PATTERN_NOT_FOUND"
  | .presetNotFound => "LOOP_PRESET_NOT_FOUND"
  | .renderDepth => "RENDER_DEPTH"

/-- The code as it is printed. -/
def text : FailureCode → String
  | .frameImbalance => "S-CTX-001"
  | .patternNotFound => "S-PAT-001"
  | .presetNotFound => "S-LOOP-001"
  | .renderDepth => "S-RUN-001"

/-- What the code is about. -/
def category : FailureCode → String
  | .frameImbalance => "context"
  | .patternNotFound => "pattern"
  | .presetNotFound => "loop"
  | .renderDepth => "runtime"

end FailureCode

/-- A failure, by cause. -/
inductive Failure where
  /-- No pattern for a reference. -/
  | patternNotFound (fault : PatternFault)
  /-- No loop preset of a name, and the names there are. -/
  | presetNotFound (name : String) (known : List String)
  /-- A stack was popped more often than pushed. -/
  | frameImbalance (stack : String)
  /-- Components nested deeper than allowed. -/
  | renderDepth (ref : String) (limit : Value)
  /-- An engine failure without a code. -/
  | engine (message : String)
  /-- A loop preset asks for a data source of unknown type. -/
  | unknownHandlerType (value : Value)
  /-- The limit on component nesting is below one. -/
  | badDepthLimit (limit : Value)
  /-- A loop needs a query backend and there is none. -/
  | noBackend (preset : String)
  /-- The active session was asked for outside of a render. -/
  | noSession
  /-- An extension raised a failure of its own. -/
  | extension (message : String)
  /-- A value has no member of the wanted name. -/
  | missingMember
  /-- A value of another type was wanted. -/
  | wrongType
  /-- A value of the right type has no meaning here. -/
  | badValue
  /-- A key is absent. -/
  | missingKey
  /-- An index is out of range. -/
  | missingIndex
  /-- A division by zero. -/
  | divisionByZero
  /-- A number is too large. -/
  | overflow
  /-- A path, or a name in it, is longer than files can have. -/
  | pathTooLong
  /-- Something is asked for inside of itself deeper than it may be. -/
  | endless

namespace Failure

/-- Whether a failing modifier is passed over when it fails in this way. -/
def isForgiven : Failure → Bool
  | .wrongType => true
  | .badValue => true
  | .missingKey => true
  | .missingIndex => true
  | .divisionByZero => true
  | .overflow => true
  | .unknownHandlerType _ => true
  | .badDepthLimit _ => true
  | .noBackend _ => false
  | _ => false

/-- The code of a failure, if it has one. -/
def code? : Failure → Option FailureCode
  | .patternNotFound _ => some .patternNotFound
  | .presetNotFound .. => some .presetNotFound
  | .frameImbalance _ => some .frameImbalance
  | .renderDepth .. => some .renderDepth
  | _ => none

/-- The message of a failure; failures of shape have none. -/
def message : Failure → String
  | .patternNotFound fault => fault.message
  | .presetNotFound name known =>
    "Loop preset '" ++ name ++ "' not found" ++
      (match Text.closestMatch? name known with
      | some close => ". Did you mean '" ++ close ++ "'?"
      | none => "")
  | .frameImbalance stack => "Cannot pop from empty " ++ stack
  | .renderDepth ref limit =>
    "Maximum component depth exceeded (" ++ limit.plain ++ ") when rendering '" ++ ref ++
      "'. Check for components that include themselves: A → B → A"
  | .engine message => message
  | .unknownHandlerType value => value.written ++ " is not a valid HandlerType"
  | .badDepthLimit limit => "max_component_depth must be >= 1, got " ++ limit.plain
  | .noBackend preset => "Loop '" ++ preset ++ "' needs a query backend, none is configured"
  | .noSession => "Not in a render session"
  | .extension message => message
  | _ => ""

/-- The message with the code in front, unless the message holds it already. -/
def compact (f : Failure) : String :=
  match f.code? with
  | none => f.message
  | some code =>
    if Text.contains f.message code.text then f.message else code.text ++ ": " ++ f.message

end Failure

/-- A sequence that comes to a value has come to one on its way. -/
theorem exists_of_bind_eq_ok {α β : Type} {outcome : Except Failure α} {next : α → Except Failure β} {y : β}
    (done : (outcome >>= next) = .ok y) : ∃ x, outcome = .ok x ∧ next x = .ok y := by
  cases outcome with
  | error f => cases done
  | ok x => exact ⟨x, rfl, done⟩

/-- A sequence succeeds exactly if both of its parts do. -/
theorem bind_eq_ok_iff {α β : Type} {outcome : Except Failure α} {next : α → Except Failure β} {y : β} :
    (outcome >>= next) = .ok y ↔ ∃ x, outcome = .ok x ∧ next x = .ok y := by
  constructor
  · exact exists_of_bind_eq_ok
  · rintro ⟨x, rfl, done⟩
    exact done

end DynamicBlocks
