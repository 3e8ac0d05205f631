import DynamicBlocks.Modifier.Conversion
import DynamicBlocks.Number.Rounding

/-!
# Number modifiers

Rounding in four ways. What is no finite number counts zero, except for the absolute value.
-/

set_option autoImplicit false

namespace DynamicBlocks.Value

/-- The number rounded to decimal places, a tie to the even neighbour; whole unless places are asked for. -/
def rounded (v : Value) (precision : Option Value) : Except Failure Value := do
  let places ← (precision.getD (.int 0)).toInt
  match ← v.toFiniteNumber with
  | .int n => pure (.int (roundInt n places))
  | .double x =>
    match roundDouble? x places with
    | some y => pure (if places ≤ 0 then .int y.truncate else .double y)
    | none => .error .overflow

/-- The least whole number not below. -/
def ceiling (v : Value) : Except Failure Value := do
  match ← v.toFiniteNumber with
  | .int n => pure (.int n)
  | .double x => pure (.int x.ceil)

/-- The greatest whole number not above. -/
def floored (v : Value) : Except Failure Value := do
  match ← v.toFiniteNumber with
  | .int n => pure (.int n)
  | .double x => pure (.int x.floor)

/-- The number without sign. -/
def absolute (v : Value) : Except Failure Value := do
  match ← v.toNumber with
  | .int n => pure (.int n.natAbs)
  | .double x => pure (.double x.abs)

end DynamicBlocks.Value
