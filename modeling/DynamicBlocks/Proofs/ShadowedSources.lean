import DynamicBlocks.Modifier.Builtin
import DynamicBlocks.Resolve.Data

/-!
# Shadowed sources

A name means the value that was given it last, so older sources of the same key are shadowed. All that is resolved
refers to sources by name: the root of an expression, the roots of arguments inside it, and the templates that
`applyData` finds in a value. Lists of sources in which every name means the same can therefore not be told apart,
unless a modifier looks at the sources on its own; none of the built-in ones does. So shadowed sources can be left out.
-/

set_option autoImplicit false

namespace DynamicBlocks

/-- Whether a later source has the key of this one. -/
def Source.isShadowed (source : Source) (later : List Source) : Bool :=
  later.any fun other => source.key.same other.key

/-- Of every key only the last source. -/
def lastOfEach : List Source → List Source
  | [] => []
  | source :: later =>
    if source.isShadowed later then lastOfEach later else source :: lastOfEach later

/-- Every name means the same in both lists of sources. -/
def SameMeanings (sources others : List Source) : Prop :=
  ∀ name, findSource? name sources = findSource? name others

/-- A modifier that goes by what names mean, if it looks at the sources at all. -/
def Modifier.GoesByNames : Modifier → Prop
  | .scoped run => ∀ sources others, SameMeanings sources others → run sources = run others
  | _ => True

/-! ## Leaving out what is shadowed -/

/-- A shadowed source is not what a name means. -/
theorem Source.findSource?_cons_of_isShadowed {source : Source} {later : List Source}
    (shadowed : source.isShadowed later = true) (name : String) :
    findSource? name (source :: later) = findSource? name later := by
  rw [← List.singleton_append, findSource?_append]
  cases found : findSource? name later with
  | some v => rfl
  | none =>
    obtain ⟨last, there, same⟩ := List.any_eq_true.mp shadowed
    rw [findSource?, Option.map_eq_none_iff, List.find?_eq_none] at found
    have differs : source.key.same (.text name) = false := by
      -- With the name for key, the source could be shadowed by another of the name only.
      refine Bool.eq_false_iff.mpr fun named => found last (List.mem_reverse.mpr there) ?_
      rw [Value.same_text_iff.mp named, Value.same_text] at same
      exact Value.same_text_iff.mpr same
    simp [findSource?, differs]

/-- A name means the same without the sources that are shadowed: an induction on the list, oldest source first. -/
theorem sameMeanings_lastOfEach (sources : List Source) : SameMeanings (lastOfEach sources) sources := by
  intro name
  induction sources with
  | nil => rfl
  | cons source later ih =>
    unfold lastOfEach
    split
    · rename_i shadowed
      rw [ih, source.findSource?_cons_of_isShadowed shadowed]
    · rw [← List.singleton_append, ← List.singleton_append (l := later), findSource?_append, findSource?_append, ih]

example : lastOfEach [⟨.text "a", .int 1⟩, ⟨.text "b", .int 2⟩, ⟨.text "a", .int 3⟩] =
    [⟨.text "b", .int 2⟩, ⟨.text "a", .int 3⟩] := by
  cbv

/-! ## Resolving by names -/

section

variable {table : ModifierTable} (byNames : ∀ name modifier, table.get? name = some modifier → modifier.GoesByNames)
  {sources others : List Source} (same : SameMeanings sources others)

include same in
/-- Sources of the same meanings resolve an expression to the same. -/
theorem Expression.resolveWith_of_sameMeanings (e : Expression) (keepLoop : Bool)
    (call : Value → String → List Argument → Except Failure Value) :
    e.resolveWith sources keepLoop call = e.resolveWith others keepLoop call := by
  unfold Expression.resolveWith
  rw [same e.root]

include same in
/-- A modifier that goes by names does the same with sources of the same meanings. -/
theorem Modifier.GoesByNames.run_eq {modifier : Modifier} (h : modifier.GoesByNames) {data : DataResolver}
    (resolved : data sources = data others) : modifier.run data sources = modifier.run data others := by
  funext v args
  rcases modifier with run | run | _
  · rfl
  · exact congrFun (congrFun (h sources others same) v) args
  · unfold Modifier.run
    dsimp only
    rw [resolved]

include byNames same

/-- A call does the same with them. -/
theorem applyCall_of_sameMeanings {data : DataResolver} (resolved : data sources = data others) :
    applyCall table data sources = applyCall table data others := by
  funext evaluate v name args
  unfold applyCall
  cases found : table.get? name with
  | none => rfl
  | some modifier =>
    dsimp only
    rw [(byNames name modifier found).run_eq same resolved]

/-- An argument comes to the same: an induction on its nesting. -/
theorem evaluateNested_of_sameMeanings {data : DataResolver} (resolved : data sources = data others) (nesting : Nat) :
    evaluateNested table data sources nesting = evaluateNested table data others nesting := by
  induction nesting with
  | zero => rfl
  | succ nesting ih =>
    funext text
    unfold evaluateNested
    rw [ih, applyCall_of_sameMeanings byNames same resolved]
    cases literal? text with
    | some v => rfl
    | none => exact Expression.resolveWith_of_sameMeanings same _ _ _

/-- Data comes to the same: an induction on how deep it asks for itself. -/
theorem resolveDataAt_of_sameMeanings (depth : Nat) :
    resolveDataAt table depth sources = resolveDataAt table depth others := by
  induction depth with
  | zero => rfl
  | succ depth ih =>
    have evaluated : evaluateText table (resolveDataAt table depth) sources =
        evaluateText table (resolveDataAt table depth) others := by
      funext text
      unfold evaluateText
      rw [evaluateNested_of_sameMeanings byNames same ih]
    funext v
    unfold resolveDataAt
    rw [evaluated]

/-- They resolve expressions to the same. -/
theorem resolve_of_sameMeanings : resolve table sources = resolve table others := by
  have data : resolveDataAt table dataDepth sources = resolveDataAt table dataDepth others :=
    resolveDataAt_of_sameMeanings byNames same dataDepth
  funext e keepLoop
  unfold resolve resolveAt resolveExpression
  rw [evaluateNested_of_sameMeanings byNames same data, applyCall_of_sameMeanings byNames same data]
  exact Expression.resolveWith_of_sameMeanings same _ _ _

/-- They evaluate texts to the same. -/
theorem evaluate_of_sameMeanings : evaluate table sources = evaluate table others := by
  funext text
  have sameData := resolveDataAt_of_sameMeanings byNames same dataDepth
  exact congrFun (evaluateNested_of_sameMeanings byNames same sameData _) text

end

/-- The built-in modifiers go by names. -/
theorem goesByNames_builtinModifiersIn (zone : LocalZone) (name : String) (modifier : Modifier)
    (found : (builtinModifiersIn zone).get? name = some modifier) : modifier.GoesByNames := by
  have each : ∀ entry ∈ builtinModifiersIn zone, entry.2.GoesByNames := by
    simp [builtinModifiersIn, Modifier.GoesByNames, Modifier.simple, Modifier.unary, Modifier.unary?, Modifier.binary,
      Modifier.variadic]
  exact each _ (mem_of_lookup_eq_some found)

/-- With the built-in modifiers only the last source of every key counts: expressions, texts of expressions, templates
and content come to the same, or fail in the same way, without all others. It is so however deep data may ask for
itself. -/
theorem resolve_lastOfEach (zone : LocalZone) (sources : List Source) :
    (∀ e keepLoop, resolve (builtinModifiersIn zone) (lastOfEach sources) e keepLoop =
      resolve (builtinModifiersIn zone) sources e keepLoop) ∧
    (∀ text, evaluate (builtinModifiersIn zone) (lastOfEach sources) text =
      evaluate (builtinModifiersIn zone) sources text) ∧
    (∀ s, substitute (builtinModifiersIn zone) (lastOfEach sources) s =
      substitute (builtinModifiersIn zone) sources s) ∧
    (∀ v, resolveContent (builtinModifiersIn zone) (lastOfEach sources) v =
      resolveContent (builtinModifiersIn zone) sources v) ∧
    ∀ depth v, resolveDataAt (builtinModifiersIn zone) depth (lastOfEach sources) v =
      resolveDataAt (builtinModifiersIn zone) depth sources v := by
  have same := sameMeanings_lastOfEach sources
  have byNames := goesByNames_builtinModifiersIn zone
  have evaluated := evaluate_of_sameMeanings byNames same
  refine ⟨fun e keepLoop => ?_, congrFun evaluated, fun s => ?_, fun v => ?_, fun depth => ?_⟩
  · rw [resolve_of_sameMeanings byNames same]
  · unfold substitute substituteWith
    rw [evaluated]
  · unfold resolveContent
    rw [evaluated]
  · exact congrFun (resolveDataAt_of_sameMeanings byNames same depth)

end DynamicBlocks
