import DynamicBlocks.Loop.Target
import DynamicBlocks.Proofs.ExpressionTexts

/-!
# Arguments within arguments

An argument of a call may be an expression with calls of its own. Evaluating it goes down by a number of levels that is
given beforehand, by the length of the text. An argument is shorter than the text it stands in, so there is always a
level left, and how many there are makes no difference: an expression is the walk along its segments with every call
applied where it stands.
-/

set_option autoImplicit false

namespace DynamicBlocks

/-- A walk depends on the calls on its way only. -/
theorem walk_congr {call call' : Value → String → List Argument → Except Failure Value} {segments : List Segment}
    (same : ∀ v name args, .call name args ∈ segments → call v name args = call' v name args) (v : Value) :
    walk call v segments = walk call' v segments := by
  induction segments generalizing v with
  | nil => rfl
  | cons segment segments ih =>
    have rest := ih fun w name args there => same w name args (List.mem_cons_of_mem segment there)
    cases segment with
    | key name =>
      unfold walk
      apply bind_congr
      intro w
      cases w.lookup? name with
      | none => rfl
      | some next => exact rest next
    | call name args =>
      unfold walk
      apply bind_congr
      intro w
      rw [same w name args List.mem_cons_self]
      exact bind_congr fun next => rest next

/-- An expression asks only for the calls that are among its segments. -/
theorem Expression.resolveWith_congr {e : Expression} {call call' : Value → String → List Argument → Except Failure Value}
    (same : ∀ v name args, .call name args ∈ e.segments → call v name args = call' v name args)
    (sources : List Source) (keepLoop : Bool) :
    e.resolveWith sources keepLoop call = e.resolveWith sources keepLoop call' := by
  have walks (v : Value) : walk call v (e.segments.drop 1) = walk call' v (e.segments.drop 1) :=
    walk_congr (fun w name args there => same w name args (List.mem_of_mem_drop there)) v
  unfold Expression.resolveWith
  split
  · rfl
  · split
    · rfl
    · rw [walks]

/-- Functions that agree on all items give the same outcomes. -/
theorem mapM_congr_mem {α β : Type} {f g : α → Except Failure β} {items : List α} (same : ∀ x ∈ items, f x = g x) :
    items.mapM f = items.mapM g := by
  induction items with
  | nil => rfl
  | cons x items ih =>
    have rest := ih fun y there => same y (List.mem_cons_of_mem x there)
    rw [List.mapM_cons, List.mapM_cons, same x List.mem_cons_self, rest]

/-- Arguments ask only for the values of their sources. -/
theorem evaluateArgs_congr {evaluate evaluate' : String → Except Failure Value} {args : List Argument}
    (same : ∀ argument ∈ args, evaluate argument.source = evaluate' argument.source) :
    evaluateArgs evaluate args = evaluateArgs evaluate' args := by
  have positional (argument : Argument) (there : argument ∈ positionalArgs args) :
      evaluate argument.source = evaluate' argument.source := same argument (List.mem_filter.mp there).1
  have named (argument : Argument) (there : argument ∈ namedArgs args) :
      evaluate argument.source = evaluate' argument.source := same argument (List.mem_filter.mp there).1
  unfold evaluateArgs
  rw [mapM_congr_mem positional]
  apply bind_congr
  intro values
  rw [mapM_congr_mem fun argument there => by rw [named argument there]]

section

variable {table : ModifierTable} {data : DataResolver} {sources : List Source}

/-- A call asks only for the values of the sources of its arguments. -/
theorem applyCall_congr {evaluate evaluate' : String → Except Failure Value} {args : List Argument}
    (same : ∀ argument ∈ args, evaluate argument.source = evaluate' argument.source) (v : Value) (name : String) :
    applyCall table data sources evaluate v name args = applyCall table data sources evaluate' v name args := by
  unfold applyCall
  rw [evaluateArgs_congr same]

/-- More levels than characters make no difference: an induction on the levels, of which an argument needs less than
the text it stands in. -/
theorem evaluateNested_of_length_lt {levels : Nat} {text : String} (enough : text.length < levels) :
    evaluateNested table data sources levels text = evaluateText table data sources text := by
  induction levels using Nat.strongRecOn generalizing text with
  | ind levels ih =>
    cases levels with
    | zero => exact absurd enough (Nat.not_lt_zero _)
    | succ levels =>
      unfold evaluateText evaluateNested
      cases literal? text with
      | some v => rfl
      | none =>
        apply Expression.resolveWith_congr
        intro v name args there
        apply applyCall_congr
        intro argument given
        have shorter := length_argument_lt there given
        -- The levels left and the length of the text are both more than the argument needs.
        have above : evaluateNested table data sources levels argument.source = _ := ih levels (by omega) (by omega)
        have level : evaluateNested table data sources text.length argument.source = _ :=
          ih text.length (by omega) shorter
        rw [above, level]

/-- A call of another modifier than `applyData` does the same whatever data is resolved to. -/
theorem applyCall_of_ne_applyData {name : String} (plain : table.get? name ≠ some .applyData) (data' : DataResolver)
    (evaluate : String → Except Failure Value) (v : Value) (args : List Argument) :
    applyCall table data sources evaluate v name args = applyCall table data' sources evaluate v name args := by
  unfold applyCall
  cases found : table.get? name with
  | none => rfl
  | some modifier =>
    rcases modifier with run | run | _
    · rfl
    · rfl
    · exact absurd found plain

end

/-- An expression without a call of `applyData`, be it in an argument. -/
inductive AsksNoData (table : ModifierTable) : String → Prop where
  | intro {text : String}
      (calls : literal? text = none → ∀ name args, .call name args ∈ (Expression.ofText text).segments →
        table.get? name ≠ some .applyData)
      (arguments : literal? text = none → ∀ name args, .call name args ∈ (Expression.ofText text).segments →
        ∀ argument ∈ args, AsksNoData table argument.source) : AsksNoData table text

/-- Such an expression is evaluated without data being resolved, and with no more levels than its text is long. -/
theorem AsksNoData.evaluateNested_eq {table : ModifierTable} {text : String} (free : AsksNoData table text)
    (data : DataResolver) (sources : List Source) {levels : Nat} (enough : text.length < levels) :
    evaluateNested table data sources levels text = evaluate table sources text := by
  have level : evaluateNested table data sources levels text = evaluateText table data sources text :=
    evaluateNested_of_length_lt enough
  rw [level]
  clear enough level
  induction free with
  | @intro text calls _ ih =>
    unfold evaluate evaluateAt evaluateText evaluateNested
    cases literal : literal? text with
    | some v => rfl
    | none =>
      apply Expression.resolveWith_congr
      intro v name args there
      rw [applyCall_of_ne_applyData (calls literal name args there) (dataResolver table)]
      apply applyCall_congr
      intro argument given
      have shorter := length_argument_lt there given
      rw [evaluateNested_of_length_lt shorter, evaluateNested_of_length_lt shorter]
      exact ih literal name args there argument given

/-- Resolving the expression of a text is walking along its segments with modifiers applied to what is reached. -/
theorem resolve_ofText (table : ModifierTable) (sources : List Source) (text : String) (keepLoop : Bool) :
    resolve table sources (.ofText text) keepLoop =
      (Expression.ofText text).resolveWith sources keepLoop (applyModifier table sources) := by
  unfold resolve resolveAt resolveExpression
  apply Expression.resolveWith_congr
  intro v name args there
  apply applyCall_congr
  intro argument given
  exact evaluateNested_of_length_lt (length_argument_lt there given)

/-- A text that is no literal is an expression. -/
theorem evaluate_of_literal?_eq_none {text : String} (unwritten : literal? text = none) (table : ModifierTable)
    (sources : List Source) :
    evaluate table sources text =
      (Expression.ofText text).resolveWith sources false (applyModifier table sources) := by
  unfold evaluate evaluateAt evaluateText evaluateNested
  rw [unwritten]
  apply Expression.resolveWith_congr
  intro v name args there
  apply applyCall_congr
  intro argument given
  exact evaluateNested_of_length_lt (length_argument_lt there given)

end DynamicBlocks
