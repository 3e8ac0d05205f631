/-!
# Cutting a path into parts

An expression is cut at dots and around brackets. Inside the parentheses of a call nothing is cut, inside
brackets a quoted text may hold any character, and a backslash keeps itself and the next character. What
stands in brackets is a part of its own without brackets and quotes, except that a bracket directly before an
opening parenthesis belongs to the call that follows.

Reading goes in two steps: the characters become marks, which are characters to keep and cuts, and the marks
are gathered to the parts between cuts. Empty parts are dropped.
-/

set_option autoImplicit false

namespace DynamicBlocks

/-- A character to keep, or a cut. -/
abbrev Mark := Option Char

/-- The pieces between cuts. -/
def gather : List Mark → List (List Char)
  | [] => [[]]
  | none :: marks => [] :: gather marks
  | some c :: marks =>
    match gather marks with
    | [] => [[c]]
    | piece :: pieces => (c :: piece) :: pieces

/-- What encloses the place reached in a path. -/
structure PathState where
  /-- Open parentheses. -/
  parens : Nat
  /-- Open brackets. -/
  brackets : Nat
  /-- The quote that is open. -/
  quote : Option Char
  deriving DecidableEq, Inhabited

namespace PathState

def start : PathState := ⟨0, 0, none⟩

/-- Whether nothing is open. -/
def isOutside (s : PathState) : Bool :=
  s.parens == 0 && s.brackets == 0 && s.quote.isNone

/-- Whether the character opens or closes a quote here: only directly inside brackets, and not while the other
quote is open. -/
def turnsQuote (s : PathState) (c : Char) : Bool :=
  s.parens == 0 && decide (0 < s.brackets) && (c == '\'' || c == '"') && (s.quote.isNone || s.quote == some c)

/-- The marks of one character, given the next one, and what is open behind it. -/
def step (s : PathState) (c : Char) (next : Option Char) : List Mark × PathState :=
  if c = '(' ∧ s.quote.isNone ∧ s.brackets = 0 then
    ([some c], { s with parens := s.parens + 1 })
  else if c = ')' ∧ s.quote.isNone ∧ s.brackets = 0 then
    ([some c], { s with parens := s.parens - 1 })
  else if s.turnsQuote c then
    ([], { s with quote := if s.quote.isNone then some c else none })
  else if c = '[' ∧ s.quote.isNone ∧ s.parens = 0 then
    (if s.brackets = 0 then [none] else [], { s with brackets := s.brackets + 1 })
  else if c = ']' ∧ s.quote.isNone ∧ s.parens = 0 then
    (if s.brackets ≤ 1 ∧ next ≠ some '(' then [none] else [], { s with brackets := s.brackets - 1 })
  else if c = '.' ∧ s.isOutside then
    ([none], s)
  else
    ([some c], s)

end PathState

/-- The marks of a path from a state on. -/
def pathMarks : PathState → List Char → List Mark
  | _, [] => []
  | s, [c] => (s.step c none).1
  | s, c :: d :: cs =>
    if c = '\\' then some c :: some d :: pathMarks s cs
    else (s.step c (some d)).1 ++ pathMarks (s.step c (some d)).2 (d :: cs)

def pathParts (cs : List Char) : List (List Char) :=
  (gather (pathMarks .start cs)).filter fun piece => !piece.isEmpty

def splitPath (path : String) : List String :=
  (pathParts path.toList).map String.ofList

/-- There is always a piece, if only an empty one. -/
theorem gather_ne_nil (marks : List Mark) : gather marks ≠ [] := by
  induction marks with
  | nil => simp [gather]
  | cons mark marks ih =>
    cases mark with
    | none => simp [gather]
    | some c =>
      simp only [gather]
      split <;> simp

/-- A cut separates what is gathered before it from what is gathered behind it. -/
theorem gather_append_cut (before behind : List Mark) :
    gather (before ++ none :: behind) = gather before ++ gather behind := by
  induction before with
  | nil => rfl
  | cons mark before ih =>
    cases mark with
    | none => simp [gather, ih]
    | some c =>
      have filled := gather_ne_nil before
      simp only [List.cons_append, gather, ih]
      cases h : gather before with
      | nil => exact absurd h filled
      | cons piece pieces => simp

end DynamicBlocks
