import DynamicBlocks.Text.Case
import DynamicBlocks.Value.Display

/-!
# Conversions

Values as whole numbers, numbers, booleans and texts. Conversions do not refuse content: what is no number
counts zero. A text is cut to a whole number by way of a double, so large integers in text lose their last
digits there, while a text taken as a number keeps them.
-/

set_option autoImplicit false

namespace DynamicBlocks

open Text

/-- A whole number within the range of doubles. -/
def inDoubleRange (n : Int) : Except Failure Int :=
  if (Double.ofInt n).isFinite then .ok n else .error .overflow

namespace Value

/-- The whole number in front of a value's text, cut toward zero. -/
def toInt (v : Value) : Except Failure Int :=
  match v with
  | .bool b => .ok (if b then 1 else 0)
  | .int n => inDoubleRange n
  | .double x => .ok (if x.isFinite then x.truncate else 0)
  | v => do
    let text ← v.display
    match leadingDouble? text with
    | some x => pure (if x.isFinite then x.truncate else 0)
    | none => pure 0

/-- The number that a value is or writes. -/
def toNumber (v : Value) : Except Failure Number :=
  match v.number? with
  | some n => .ok n
  | none => do
    let text ← v.display
    pure ((Number.ofText? text).getD (.int 0))

def falseTexts : List String := ["", "0", "false", "no", "off"]

/-- Whether a text says yes, blanks and case aside. -/
def textTruth (s : String) : Bool :=
  !falseTexts.contains (lower (trim s))

/-- The truth of a value; texts are read as words. -/
def toBool : Value → Bool
  | .text s => textTruth s
  | v => v.isTruthy

/-- The number of a value, zero in place of an infinity or of what is no number. -/
def toFiniteNumber (v : Value) : Except Failure Number := do
  match ← v.toNumber with
  | .int n => .int <$> inDoubleRange n
  | .double x => pure (if x.isFinite then .double x else .int 0)

def toJson (v : Value) : Except Failure String :=
  Json.write .readable v

end Value

end DynamicBlocks
