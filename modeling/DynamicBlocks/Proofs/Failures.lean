import DynamicBlocks.Component.Cast
import DynamicBlocks.Modifier.Builtin
import DynamicBlocks.Pattern.Loader
import DynamicBlocks.Resolve.Data

/-!
# How content fails

Reading, writing and changing values can fail, and so can resolving the expressions in them. This file bounds with
which failures: `OnlyFails p` says that every failure of an outcome is in `p`, and the lemmas go up from single values
over the built-in modifiers to templates. All of them hold for any `p` that has what can be expected of content:
failures that are forgiven, and the few that are not but come of content as well.

What a failure of content never is, is that components are nested too deep.
-/

set_option autoImplicit false

namespace DynamicBlocks

/-- Every failure of an outcome is one of some. -/
def OnlyFails (p : Failure → Prop) {α : Type} (outcome : Except Failure α) : Prop :=
  ∀ f, outcome = .error f → p f

/-- A value of the wrong type is among some failures. -/
class HasWrongType (p : Failure → Prop) : Prop where
  wrongType : p .wrongType

/-- All failures that are forgiven are among some. -/
class HasForgiven (p : Failure → Prop) : Prop where
  forgiven : ∀ f : Failure, f.isForgiven = true → p f

/-- All failures that content comes to are among some. -/
class HasContent (p : Failure → Prop) : Prop extends HasForgiven p where
  missingMember : p .missingMember
  endless : p .endless

instance (p : Failure → Prop) [HasForgiven p] : HasWrongType p where
  wrongType := HasForgiven.forgiven _ rfl

namespace OnlyFails

variable {p : Failure → Prop} {α β : Type}

/-! ## Sequences of outcomes -/

/-- A value is no failure. -/
theorem ok (x : α) : OnlyFails p (.ok x) := fun _ failed => nomatch failed

/-- A failure is one of some if it is. -/
theorem error {f : Failure} (h : p f) : OnlyFails p (.error f : Except Failure α) := by
  intro g failed
  cases failed
  exact h

/-- Outcomes one after the other fail with what the first or the next one fails with. -/
theorem bind {outcome : Except Failure α} {next : α → Except Failure β} (h : OnlyFails p outcome)
    (rest : ∀ x, OnlyFails p (next x)) : OnlyFails p (outcome >>= next) := by
  cases outcome with
  | error f => exact error (h f rfl)
  | ok x => exact rest x

/-- A function of the value adds no failure. -/
theorem map {outcome : Except Failure α} (f : α → β) (h : OnlyFails p outcome) : OnlyFails p (f <$> outcome) := by
  cases outcome with
  | error g => exact error (h g rfl)
  | ok x => exact ok (f x)

/-- One outcome for each item: an induction on the items. -/
theorem mapM {f : α → Except Failure β} (each : ∀ x, OnlyFails p (f x)) (items : List α) :
    OnlyFails p (items.mapM f) := by
  induction items with
  | nil => exact ok []
  | cons item items ih =>
    rw [List.mapM_cons]
    exact (each item).bind fun y => ih.bind fun ys => ok (y :: ys)

/-- Outcomes one upon the other: an induction on the items. -/
theorem foldlM {f : β → α → Except Failure β} {items : List α} (each : ∀ x ∈ items, ∀ y, OnlyFails p (f y x))
    (start : β) : OnlyFails p (items.foldlM f start) := by
  induction items generalizing start with
  | nil => exact ok start
  | cons item items ih =>
    rw [List.foldlM_cons]
    exact (each item List.mem_cons_self start).bind fun next =>
      ih (fun x there => each x (List.mem_cons_of_mem item there)) next

/-! ## Values -/

/-- A key that has no text is of the wrong type. -/
theorem keyText [HasWrongType p] (key : Value) : OnlyFails p (Json.keyText key) := by
  unfold Json.keyText
  split <;> first | exact ok _ | exact error (HasWrongType.wrongType)

/-- The text of an object fails for keys that cannot be put in order. -/
theorem objectText [HasWrongType p] (style : Json.Style) (entries : List Json.WrittenEntry) :
    OnlyFails p (Json.objectText style entries) := by
  have sorted : OnlyFails p (Json.sortEntries entries) := by
    unfold Json.sortEntries
    split
    · exact ok []
    · split
      · exact ok _
      · exact error (HasWrongType.wrongType)
  unfold Json.objectText
  split
  · exact sorted.bind fun _ => ok _
  · exact ok _

mutual

/-- Writing JSON fails for a key that has no text or no place in the order: an induction on the value. -/
theorem write [HasWrongType p] (style : Json.Style) : (v : Value) → OnlyFails p (Json.write style v)
  | .null => ok _
  | .bool _ => ok _
  | .int _ => ok _
  | .double _ => ok _
  | .text _ => ok _
  | .list items => by
    unfold Json.write
    exact (writeItems style items).bind fun _ => ok _
  | .map entries => by
    unfold Json.write
    exact (writeEntries style entries).bind fun _ => objectText style _
  | .loop _ _ => ok _
  | .date _ => ok _
  | .moment _ => ok _
  | .object _ _ => ok _
  | .built _ _ => ok _

/-- Items fail to be written for the same reasons. -/
theorem writeItems [HasWrongType p] (style : Json.Style) :
    (items : List Value) → OnlyFails p (Json.writeItems style items)
  | [] => ok _
  | item :: items => by
    unfold Json.writeItems
    exact (write style item).bind fun _ => (writeItems style items).bind fun _ => ok _

/-- So do entries. -/
theorem writeEntries [HasWrongType p] (style : Json.Style) :
    (entries : List (Value × Value)) → OnlyFails p (Json.writeEntries style entries)
  | [] => ok _
  | (key, value) :: entries => by
    unfold Json.writeEntries
    exact (keyText key).bind fun _ => (write style value).bind fun _ =>
      (writeEntries style entries).bind fun _ => ok _

end

/-- What a value lacks for an operation is a member, or it is of the wrong type. -/
theorem lacks [HasContent p] (v : Value) (operation : String) : p (v.lacks operation) := by
  unfold Value.lacks
  split
  · split
    · exact HasForgiven.forgiven _ rfl
    · exact HasContent.missingMember
  · exact HasContent.missingMember

/-- What cannot be gone through is of the wrong type. -/
theorem series [HasWrongType p] (v : Value) : OnlyFails p v.series := by
  unfold Value.series
  split <;> first | exact ok _ | exact error (HasWrongType.wrongType)

/-- Nothing can be gone through as well. -/
theorem seriesOrNone [HasWrongType p] (v : Value) : OnlyFails p v.seriesOrNone := by
  unfold Value.seriesOrNone
  split
  · exact series v
  · exact ok []

/-- What has no entries lacks a member. -/
theorem asEntries [HasContent p] (v : Value) : OnlyFails p v.asEntries := by
  unfold Value.asEntries
  split
  · exact ok _
  · exact error (lacks _ _)

mutual

/-- A value fails to be shown for a key that has no text: an induction on the value. -/
theorem display [HasWrongType p] : (v : Value) → OnlyFails p v.display
  | .null => ok _
  | .bool _ => ok _
  | .int _ => ok _
  | .double _ => ok _
  | .text _ => ok _
  | .list items => by
    unfold Value.display
    exact (displayItems items).bind fun _ => ok _
  | .map entries => by
    unfold Value.display
    split
    · exact displayData entries
    · exact write _ _
  | .loop _ data => by
    unfold Value.display
    exact displaySeries data
  | .date _ => ok _
  | .moment _ => ok _
  | .object _ _ => ok _
  | .built _ _ => ok _

/-- What a loop reference holds fails to be shown for the same reason, or if it cannot be gone through. -/
theorem displaySeries [HasWrongType p] : (v : Value) → OnlyFails p v.displaySeries
  | .list items => by
    unfold Value.displaySeries
    exact (displayItems items).bind fun _ => ok _
  | .map entries => by
    unfold Value.displaySeries
    exact (displayKeys entries).bind fun _ => ok _
  | .text _ => ok _
  | .null => error (HasWrongType.wrongType)
  | .bool _ => error (HasWrongType.wrongType)
  | .int _ => error (HasWrongType.wrongType)
  | .double _ => error (HasWrongType.wrongType)
  | .loop _ _ => error (HasWrongType.wrongType)
  | .date _ => error (HasWrongType.wrongType)
  | .moment _ => error (HasWrongType.wrongType)
  | .object _ _ => error (HasWrongType.wrongType)
  | .built _ _ => error (HasWrongType.wrongType)

/-- Keys shown one after the other fail for a key that has no text. -/
theorem displayKeys [HasWrongType p] : (entries : List (Value × Value)) → OnlyFails p (Value.displayKeys entries)
  | [] => ok _
  | (key, _) :: entries => by
    unfold Value.displayKeys
    exact (display key).bind fun _ => (displayKeys entries).bind fun _ => ok _

/-- Items fail to be shown as their values do. -/
theorem displayItems [HasWrongType p] : (items : List Value) → OnlyFails p (Value.displayItems items)
  | [] => ok _
  | item :: items => by
    unfold Value.displayItems
    exact (display item).bind fun _ => (displayItems items).bind fun _ => ok _

/-- The items of a marked mapping fail to be shown as their values do. -/
theorem displayData [HasWrongType p] : (entries : List (Value × Value)) → OnlyFails p (Value.displayData entries)
  | [] => ok _
  | (key, value) :: entries => by
    unfold Value.displayData
    split
    · split
      · exact (displayItems _).bind fun _ => ok _
      · exact ok _
    · exact displayData entries

end

/-- A reference is not replaced by its items if there is nothing to go through. -/
theorem unwrap [HasWrongType p] (v : Value) : OnlyFails p v.unwrap := by
  unfold Value.unwrap
  split
  · exact (series _).map _
  · exact ok v

/-! ## Conversions -/

/-- An integer beyond the doubles is forgiven. -/
theorem inDoubleRange [HasForgiven p] (n : Int) : OnlyFails p (DynamicBlocks.inDoubleRange n) := by
  unfold DynamicBlocks.inDoubleRange
  split
  · exact ok n
  · exact error (HasForgiven.forgiven _ rfl)

/-- A conversion to an integer fails for an integer beyond the doubles, or a value that cannot be shown. -/
theorem toInt [HasForgiven p] (v : Value) : OnlyFails p v.toInt := by
  unfold Value.toInt
  split
  · exact ok _
  · exact inDoubleRange _
  · exact ok _
  · refine (display v).bind fun _ => ?_
    split <;> exact ok _

/-- A conversion to a number fails for a value that cannot be shown. -/
theorem toNumber [HasForgiven p] (v : Value) : OnlyFails p v.toNumber := by
  unfold Value.toNumber
  split
  · exact ok _
  · exact (display v).bind fun _ => ok _

/-- So does one to a finite number, and it does for an integer beyond the doubles. -/
theorem toFiniteNumber [HasForgiven p] (v : Value) : OnlyFails p v.toFiniteNumber := by
  refine (toNumber v).bind fun n => ?_
  cases n with
  | int n => exact (inDoubleRange n).map _
  | double x => exact ok _

/-- A cast to a declared type fails for a value that cannot be shown. -/
theorem cast [HasForgiven p] (v : Value) (primitive : Primitive) : OnlyFails p (v.cast primitive) := by
  have collection : OnlyFails p v.toCollection := by
    unfold Value.toCollection
    split
    · exact ok _
    · exact ok _
    · exact (display v).map _
  unfold Value.cast
  split
  · exact ok _
  · split
    · exact (display v).map _
    · exact (toNumber v).map _
    · exact ok _
    · exact collection
    · exact collection
    · exact ok v

/-! ## Modifiers -/

/-- A text is changed unless the value cannot be shown. -/
theorem mapText [HasForgiven p] (f : String → String) (v : Value) : OnlyFails p (v.mapText f) :=
  (display v).bind fun _ => ok _

/-- A text is encoded unless the value cannot be shown or a surrogate stands in it. -/
theorem urlEncoded [HasForgiven p] (v : Value) : OnlyFails p v.urlEncoded := by
  refine (display v).bind fun text => ?_
  split
  · exact ok _
  · exact error (HasForgiven.forgiven _ rfl)

/-- Trimming fails for characters that are given as something else than a text. -/
theorem trimmed [HasForgiven p] (v : Value) (chars : Option Value) : OnlyFails p (v.trimmed chars) := by
  refine (display v).bind fun text => ?_
  split
  · exact ok _
  · exact ok _
  · exact error (HasForgiven.forgiven _ rfl)

/-- Truncation fails for a length that cannot be converted, or a mark that is no text. -/
theorem truncated [HasForgiven p] (v : Value) (length suffix : Option Value) :
    OnlyFails p (v.truncated length suffix) := by
  refine (display v).bind fun text => (toInt _).bind fun limit => ?_
  split
  · exact ok _
  · split
    · exact ok _
    · exact error (HasForgiven.forgiven _ rfl)

/-- Splitting fails for a separator that is no text. -/
theorem splitText [HasForgiven p] (v : Value) (separator : Option Value) : OnlyFails p (v.splitText separator) := by
  refine (display v).bind fun text => ?_
  dsimp only
  split
  · exact ok _
  · split
    · split
      · exact ok _
      · exact error (HasForgiven.forgiven _ rfl)
    · exact ok _

/-- Values are put together unless one of them cannot be shown. -/
theorem concatenated [HasForgiven p] (v : Value) (others : List Value) : OnlyFails p (v.concatenated others) := by
  unfold Value.concatenated
  split
  · exact ok _
  · exact (display v).bind fun _ => (mapM display others).bind fun _ => ok _

/-- Items are joined unless one of them, or the separator, cannot be shown. -/
theorem joined [HasForgiven p] (v : Value) (separator : Option Value) : OnlyFails p (v.joined separator) := by
  unfold Value.joined
  split
  · exact (display _).bind fun _ => (mapM display _).bind fun _ => ok _
  · exact mapText id v

/-- Counting fails for a value that cannot be shown. -/
theorem lengthOf [HasForgiven p] (v : Value) : OnlyFails p v.lengthOf := by
  unfold Value.lengthOf
  split
  · exact ok _
  · exact ok _
  · exact ok _
  · exact ok _
  · exact (display v).bind fun _ => ok _

/-- Taking an item fails for an index that cannot be converted. -/
theorem atIndex [HasForgiven p] (v index : Value) : OnlyFails p (v.atIndex index) := by
  unfold Value.atIndex
  split
  · exact (toInt index).map _
  · exact ok _

/-- Cutting fails for bounds that cannot be converted. -/
theorem sliced [HasForgiven p] (v : Value) (start stop : Option Value) : OnlyFails p (v.sliced start stop) := by
  have rest (stop : Option Int) : OnlyFails p ((start.getD (.int 0)).toInt >>= fun start =>
      (pure (v.slice start stop) : Except Failure Value)) := (toInt _).bind fun _ => ok _
  unfold Value.sliced
  split
  · dsimp only
    split
    · exact rest none
    · exact ((toInt _).map _).bind rest
  · exact ok v

/-- A search in a text fails for what cannot be shown. -/
theorem includes [HasForgiven p] (v needle : Value) : OnlyFails p (v.includes needle) := by
  unfold Value.includes
  split
  · exact (display needle).bind fun _ => ok _
  · exact ok _
  · exact ok _
  · exact ok _

/-- Filtering fails for a name that cannot be shown. -/
theorem filtered [HasForgiven p] (v : Value) (key expected : Option Value) : OnlyFails p (v.filtered key expected) := by
  unfold Value.filtered
  split
  · refine (display _).bind fun _ => ?_
    split <;> exact ok _
  · exact ok _

/-- Plucking fails for a name that cannot be shown. -/
theorem plucked [HasForgiven p] (v key : Value) : OnlyFails p (v.plucked key) := by
  refine (display key).bind fun _ => ?_
  split <;> exact ok _

/-- Rounding fails where a conversion does, or for a result beyond the doubles. -/
theorem rounded [HasForgiven p] (v : Value) (precision : Option Value) : OnlyFails p (v.rounded precision) := by
  refine (toInt _).bind fun places => (toFiniteNumber v).bind fun n => ?_
  cases n with
  | int n => exact ok _
  | double x =>
    dsimp only
    split
    · exact ok _
    · exact error (HasForgiven.forgiven _ rfl)

/-- Rounding up fails where the conversion does. -/
theorem ceiling [HasForgiven p] (v : Value) : OnlyFails p v.ceiling := by
  refine (toFiniteNumber v).bind fun n => ?_
  cases n <;> exact ok _

/-- So does rounding down. -/
theorem floored [HasForgiven p] (v : Value) : OnlyFails p v.floored := by
  refine (toFiniteNumber v).bind fun n => ?_
  cases n <;> exact ok _

/-- So does the absolute value. -/
theorem absolute [HasForgiven p] (v : Value) : OnlyFails p v.absolute := by
  refine (toNumber v).bind fun n => ?_
  cases n <;> exact ok _

/-- A date pattern fails if it cannot be filled. -/
theorem byPattern [HasForgiven p] (zone : LocalZone) (v : Value) (pattern : String) :
    OnlyFails p (v.byPattern zone pattern) := by
  unfold Value.byPattern
  split
  · exact ok v
  · split
    · exact ok _
    · exact error (HasForgiven.forgiven _ rfl)

/-- A count of places fails if it is none, or too large. -/
theorem withPlaces [HasForgiven p] (n : Number) (format : String) : OnlyFails p (Value.withPlaces n format) := by
  unfold Value.withPlaces
  dsimp only
  split
  · split
    · exact ok _
    · rename_i fault _
      cases fault <;> exact error (HasForgiven.forgiven _ rfl)
  · exact error (HasForgiven.forgiven _ rfl)

/-- A number is formatted with places or by a date pattern, and fails to be like these. -/
theorem numberFormatted [HasForgiven p] (zone : LocalZone) (n : Number) (format : String) :
    OnlyFails p (Value.numberFormatted zone n format) := by
  unfold Value.numberFormatted
  split
  · exact withPlaces n format
  · split
    · exact ok _
    · exact error (HasForgiven.forgiven _ rfl)
    · exact byPattern zone _ format

/-- So is any value, unless the format cannot be shown. -/
theorem formatted [HasForgiven p] (zone : LocalZone) (v : Value) (format : Option Value) :
    OnlyFails p (v.formatted zone format) := by
  refine (display _).bind fun text => ?_
  split
  · exact numberFormatted zone _ text
  · exact numberFormatted zone _ text
  · exact byPattern zone _ text

/-! ## Tables of modifiers -/

/-- Arguments that do not fit the parameters are of the wrong type. -/
theorem bindArguments [HasForgiven p] (args : Arguments) (parameters : List Parameter) :
    OnlyFails p (args.bind parameters) := by
  unfold Arguments.bind
  dsimp only
  split
  · exact error (HasForgiven.forgiven _ rfl)
  · split
    · exact error (HasForgiven.forgiven _ rfl)
    · split
      · exact error (HasForgiven.forgiven _ rfl)
      · exact ok _

end OnlyFails

/-- Every failure of a modifier that does not resolve expressions is one of some. -/
def Modifier.OnlyFails (p : Failure → Prop) : Modifier → Prop
  | .plain run => ∀ v args, DynamicBlocks.OnlyFails p (run v args)
  | .scoped run => ∀ sources v args, DynamicBlocks.OnlyFails p (run sources v args)
  | .applyData => True

/-- Every failure of the modifiers of a table is one of some. -/
def ModifierTable.OnlyFails (p : Failure → Prop) (table : ModifierTable) : Prop :=
  ∀ entry ∈ table, entry.2.OnlyFails p

namespace Modifier.OnlyFails

variable {p : Failure → Prop} [HasForgiven p]

/-- A modifier without parameters fails like its function. -/
theorem simple {run : Value → Except Failure Value} (h : ∀ v, DynamicBlocks.OnlyFails p (run v)) :
    (Modifier.simple run).OnlyFails p := fun v args =>
  (OnlyFails.bindArguments args []).bind fun _ => h v

/-- So does a modifier with one parameter. -/
theorem unary {name : String} {run : Value → Value → Except Failure Value}
    (h : ∀ v first, DynamicBlocks.OnlyFails p (run v first)) : (Modifier.unary name run).OnlyFails p := by
  intro v args
  refine (OnlyFails.bindArguments args _).bind fun bound => ?_
  split
  · exact h v _
  · exact .error (HasForgiven.forgiven _ rfl)

/-- So does a modifier whose one parameter may be left out. -/
theorem unary? {name : String} {run : Value → Option Value → Except Failure Value}
    (h : ∀ v first, DynamicBlocks.OnlyFails p (run v first)) : (Modifier.unary? name run).OnlyFails p := by
  intro v args
  refine (OnlyFails.bindArguments args _).bind fun bound => ?_
  split
  · exact h v _
  · exact .error (HasForgiven.forgiven _ rfl)

/-- So does a modifier with two parameters. -/
theorem binary {first second : Parameter} {run : Value → Option Value → Option Value → Except Failure Value}
    (h : ∀ v a b, DynamicBlocks.OnlyFails p (run v a b)) : (Modifier.binary first second run).OnlyFails p := by
  intro v args
  refine (OnlyFails.bindArguments args _).bind fun bound => ?_
  split
  · exact h v _ _
  · exact .error (HasForgiven.forgiven _ rfl)

/-- So does a modifier with any number of parameters. -/
theorem variadic {run : Value → List Value → Except Failure Value}
    (h : ∀ v others, DynamicBlocks.OnlyFails p (run v others)) : (Modifier.variadic run).OnlyFails p := by
  intro v args
  dsimp only
  split
  · exact h v _
  · exact .error (HasForgiven.forgiven _ rfl)

end Modifier.OnlyFails

/-- Any failure. -/
def AnyFailure (_ : Failure) : Prop := True

instance : HasContent AnyFailure where
  forgiven _ _ := trivial
  missingMember := trivial
  endless := trivial

/-- Of any table of modifiers nothing more can be said than that its modifiers may fail. -/
theorem ModifierTable.onlyFails_any (table : ModifierTable) : table.OnlyFails AnyFailure := by
  rintro ⟨name, modifier⟩ _
  match modifier with
  | .plain _ => exact fun _ _ _ _ => trivial
  | .scoped _ => exact fun _ _ _ _ _ => trivial
  | .applyData => trivial

open OnlyFails Modifier.OnlyFails in
/-- Whatever a built-in modifier fails with is forgiven. -/
theorem builtinModifiersIn_onlyFails {p : Failure → Prop} [HasForgiven p] {zone : LocalZone} :
    ModifierTable.OnlyFails p (builtinModifiersIn zone) := by
  unfold ModifierTable.OnlyFails builtinModifiersIn
  simp only [List.forall_mem_cons]
  refine ⟨simple (mapText _), simple (mapText _), simple (mapText _), simple (mapText _), unary? trimmed,
    binary truncated, unary? splitText, simple (mapText _), simple urlEncoded, variadic concatenated,
    simple fun v => (toInt v).map _, simple fun v => (toNumber v).map _, simple (mapText _), simple fun _ => ok _,
    simple fun v => (write _ v).map _, simple lengthOf, unary atIndex, binary sliced, simple fun _ => ok _,
    simple fun _ => ok _, simple fun _ => ok _, unary? joined, unary includes, binary fun v a b => filtered v a b,
    unary plucked, unary? rounded, simple ceiling, simple floored, simple absolute, unary? (formatted zone),
    unary? fun _ _ => ok _, trivial, fun _ none => absurd none List.not_mem_nil⟩

/-! ## Expressions -/

namespace OnlyFails

variable {p : Failure → Prop} {table : ModifierTable}

/-- Arguments fail to be evaluated as their texts do. -/
theorem evaluateArgs {evaluate : String → Except Failure Value} (h : ∀ text, OnlyFails p (evaluate text))
    (args : List Argument) : OnlyFails p (DynamicBlocks.evaluateArgs evaluate args) := by
  refine (mapM (fun argument : Argument => h argument.source) _).bind fun positional => ?_
  exact (mapM (fun argument : Argument => (h argument.source).bind fun _ => ok _) _).bind fun named => ok _

/-- A modifier fails like its function, or like the data that it resolves. -/
theorem run [HasContent p] {modifier : Modifier} (fails : modifier.OnlyFails p) {data : DataResolver}
    (resolved : ∀ sources v, OnlyFails p (data sources v)) (sources : List Source) (v : Value) (args : Arguments) :
    OnlyFails p (modifier.run data sources v args) :=
  match modifier, fails with
  | .plain _, fails => fails v args
  | .scoped _, fails => fails sources v args
  | .applyData, _ => (bindArguments args []).bind fun _ => resolved sources v

/-- A call fails like its arguments and its modifier. -/
theorem applyCall [HasContent p] (modifiers : table.OnlyFails p) {data : DataResolver}
    (resolved : ∀ sources v, OnlyFails p (data sources v)) (sources : List Source)
    {evaluate : String → Except Failure Value} (h : ∀ text, OnlyFails p (evaluate text)) (v : Value) (name : String)
    (args : List Argument) : OnlyFails p (DynamicBlocks.applyCall table data sources evaluate v name args) := by
  unfold DynamicBlocks.applyCall ModifierTable.get?
  cases known : List.lookup name table with
  | none => exact ok v
  | some modifier =>
    have there : (name, modifier) ∈ table := mem_of_lookup_eq_some known
    refine (evaluateArgs h args).bind fun args => ?_
    have fails := run (modifiers _ there) resolved sources v args
    unfold forgive
    cases outcome : modifier.run data sources v args with
    | ok w => exact ok w
    | error f =>
      dsimp only
      split
      · exact ok v
      · exact error (fails f outcome)

/-- A walk along segments: an induction on them. -/
theorem walk [HasContent p] {call : Value → String → List Argument → Except Failure Value}
    (h : ∀ v name args, OnlyFails p (call v name args)) (v : Value) (segments : List Segment) :
    OnlyFails p (DynamicBlocks.walk call v segments) := by
  induction segments generalizing v with
  | nil => exact ok _
  | cons segment segments ih =>
    cases segment with
    | key name =>
      refine (unwrap v).bind fun w => ?_
      split
      · exact ih _
      · exact ok _
    | call name args => exact (unwrap v).bind fun w => (h w name args).bind ih

/-- A value is settled unless it is a loop reference of something that cannot be gone through. -/
theorem settle [HasWrongType p] (keepLoop : Bool) (v : Value) : OnlyFails p (DynamicBlocks.settle keepLoop v) := by
  unfold DynamicBlocks.settle
  split
  · split <;> exact ok _
  · exact unwrap v

/-- An expression fails like the calls on its way, or for a reference that has no items. -/
theorem resolveWith [HasContent p] {call : Value → String → List Argument → Except Failure Value}
    (h : ∀ v name args, OnlyFails p (call v name args)) (e : Expression) (sources : List Source) (keepLoop : Bool) :
    OnlyFails p (e.resolveWith sources keepLoop call) := by
  unfold Expression.resolveWith
  split
  · exact ok _
  · split
    · exact ok _
    · refine (walk h _ _).bind fun reached => ?_
      cases reached with
      | none => exact ok _
      | some w => exact settle keepLoop w

/-- The text of an expression evaluated: an induction on the nesting that is left. -/
theorem evaluateNested [HasContent p] (modifiers : table.OnlyFails p) {data : DataResolver}
    (resolved : ∀ sources v, OnlyFails p (data sources v)) (sources : List Source) (nesting : Nat) (text : String) :
    OnlyFails p (DynamicBlocks.evaluateNested table data sources nesting text) := by
  induction nesting generalizing text with
  | zero => exact ok _
  | succ nesting ih =>
    unfold DynamicBlocks.evaluateNested
    split
    · exact ok _
    · exact resolveWith (applyCall modifiers resolved sources ih) _ sources false

/-- A template is filled unless one of its expressions fails. -/
theorem fillTemplate (text : String) {replace : String → Except Failure String}
    (h : ∀ source, OnlyFails p (replace source)) : OnlyFails p (DynamicBlocks.fillTemplate text replace) := by
  refine (mapM (fun token => ?_) _).bind fun _ => ok _
  split
  · exact ok _
  · exact h _

/-- So a template is resolved unless one of its expressions fails, or comes to what cannot be shown. -/
theorem resolveTemplate [HasContent p] {evaluate : String → Except Failure Value}
    (h : ∀ text, OnlyFails p (evaluate text))
    (s : String) : OnlyFails p (DynamicBlocks.resolveTemplate evaluate s) := by
  unfold DynamicBlocks.resolveTemplate
  split
  · exact h _
  · exact (fillTemplate s fun source => (h source).bind display).map _

mutual

/-- Content fails as its templates do: an induction on the value. -/
theorem resolveIn [HasContent p] {evaluate : String → Except Failure Value} (h : ∀ text, OnlyFails p (evaluate text)) :
    (v : Value) → OnlyFails p (DynamicBlocks.resolveIn evaluate v)
  | .text s => by
    unfold DynamicBlocks.resolveIn
    split
    · exact ok _
    · exact resolveTemplate h s
  | .list items => by
    unfold DynamicBlocks.resolveIn
    exact (resolveInItems h items).bind fun _ => ok _
  | .map entries => by
    unfold DynamicBlocks.resolveIn
    exact (resolveInEntries h entries).bind fun _ => ok _
  | .null => ok _
  | .bool _ => ok _
  | .int _ => ok _
  | .double _ => ok _
  | .loop _ _ => ok _
  | .date _ => ok _
  | .moment _ => ok _
  | .object _ _ => ok _
  | .built _ _ => ok _

/-- Items fail to be resolved as their values do. -/
theorem resolveInItems [HasContent p] {evaluate : String → Except Failure Value}
    (h : ∀ text, OnlyFails p (evaluate text)) :
    (items : List Value) → OnlyFails p (DynamicBlocks.resolveInItems evaluate items)
  | [] => ok _
  | item :: items => by
    unfold DynamicBlocks.resolveInItems
    exact (resolveIn h item).bind fun _ => (resolveInItems h items).bind fun _ => ok _

/-- Entries fail to be resolved as their values do. -/
theorem resolveInEntries [HasContent p] {evaluate : String → Except Failure Value}
    (h : ∀ text, OnlyFails p (evaluate text)) :
    (entries : List (Value × Value)) → OnlyFails p (DynamicBlocks.resolveInEntries evaluate entries)
  | [] => ok _
  | (key, value) :: entries => by
    unfold DynamicBlocks.resolveInEntries
    exact (resolveIn h value).bind fun _ => (resolveInEntries h entries).bind fun _ => ok _

end

/-- Data resolved: an induction on how often it may ask for itself. -/
theorem resolveDataAt [HasContent p] (modifiers : table.OnlyFails p) (depth : Nat) (sources : List Source) (v : Value) :
    OnlyFails p (DynamicBlocks.resolveDataAt table depth sources v) := by
  induction depth generalizing sources v with
  | zero => exact error HasContent.endless
  | succ depth ih => exact resolveIn (fun text => evaluateNested modifiers ih sources _ text) v

/-- The text of an expression fails with what content fails with. -/
theorem evaluate [HasContent p] (modifiers : table.OnlyFails p) (sources : List Source) (text : String) :
    OnlyFails p (DynamicBlocks.evaluate table sources text) :=
  evaluateNested modifiers (resolveDataAt modifiers dataDepth) sources _ text

/-- So does an expression. -/
theorem resolve [HasContent p] (modifiers : table.OnlyFails p) (sources : List Source) (e : Expression)
    (keepLoop : Bool) :
    OnlyFails p (DynamicBlocks.resolve table sources e keepLoop) :=
  resolveWith (applyCall modifiers (resolveDataAt modifiers dataDepth) sources
    (evaluateNested modifiers (resolveDataAt modifiers dataDepth) sources _)) e sources keepLoop

/-- So does content. -/
theorem resolveContent [HasContent p] (modifiers : table.OnlyFails p) (sources : List Source) (v : Value) :
    OnlyFails p (DynamicBlocks.resolveContent table sources v) :=
  resolveIn (evaluate modifiers sources) v

/-- So does a template that is filled. -/
theorem substituteWith [HasContent p] (guard : String → String) (modifiers : table.OnlyFails p) (sources : List Source)
    (s : String) : OnlyFails p (DynamicBlocks.substituteWith guard table sources s) :=
  fillTemplate s fun source => (evaluate modifiers sources source).bind fun v => (display v).bind fun _ => ok _

/-- So does a call. -/
theorem applyModifier [HasContent p] (modifiers : table.OnlyFails p) (sources : List Source) (v : Value) (name : String)
    (args : List Argument) : OnlyFails p (DynamicBlocks.applyModifier table sources v name args) :=
  applyCall modifiers (resolveDataAt modifiers dataDepth) sources (evaluate modifiers sources) v name args

/-! ## Blocks and patterns -/

/-- What is no mapping lacks a member. -/
theorem asMapping [HasContent p] (v : Value) : OnlyFails p v.asMapping := by
  unfold Value.asMapping
  split
  · exact ok _
  · exact error (lacks _ _)

/-- Entries are asked of what has none, or holds no pairs. -/
theorem toEntriesOrNone [HasForgiven p] (v : Value) : OnlyFails p v.toEntriesOrNone := by
  have asPair (item : Value) : OnlyFails p item.asPair := by
    refine (series item).bind fun parts => ?_
    split
    · split
      · exact ok _
      · exact error (HasForgiven.forgiven _ rfl)
    · exact error (HasForgiven.forgiven _ rfl)
  unfold Value.toEntriesOrNone
  split
  · unfold Value.toEntries
    split
    · exact ok _
    · exact (series v).bind fun items => foldlM (fun item _ entries => (asPair item).bind fun pair => ok _) []
  · exact ok []

/-- A name is asked for as text. -/
theorem nameOf [HasContent p] (v : Value) : OnlyFails p (Block.nameOf v) := by
  unfold Block.nameOf
  split
  · exact ok _
  · split
    · exact error HasContent.missingMember
    · exact ok _
  · split
    · exact error HasContent.missingMember
    · exact ok _
  · exact error (HasForgiven.forgiven _ rfl)

mutual

/-- A block fails to be read if a name, or what should be entries or blocks, is something else: an induction on the
value. -/
theorem ofValue [HasContent p] : (v : Value) → OnlyFails p (Block.ofValue v)
  | .map entries => by
    have rest (name : Value) (attrs : Entries) (inner : Option (List Block)) :
        OnlyFails p ((Entries.field entries "context").toEntriesOrNone >>= fun context =>
          (pure ⟨name, attrs, inner.getD [], context, .tuple⟩ : Except Failure Block)) :=
      (toEntriesOrNone _).bind fun _ => ok _
    unfold Block.ofValue
    refine (nameOf _).bind fun name => (toEntriesOrNone _).bind fun attrs =>
      (innerOf "innerBlocks" entries).bind fun inner => ?_
    cases inner with
    | some blocks => exact rest name attrs (some blocks)
    | none => exact (innerOf "inner_blocks" entries).bind fun blocks => rest name attrs blocks
  | .built (.block _) fields => by
    unfold Block.ofValue
    exact (toEntriesOrNone _).bind fun _ => (builtInner fields).bind fun _ => (toEntriesOrNone _).bind fun _ => ok _
  | .built .preset _ => error (lacks _ _)
  | .built .entry _ => error (lacks _ _)
  | .built .source _ => error (lacks _ _)
  | .null => error (lacks _ _)
  | .bool _ => error (lacks _ _)
  | .int _ => error (lacks _ _)
  | .double _ => error (lacks _ _)
  | .text _ => error (lacks _ _)
  | .list _ => error (lacks _ _)
  | .loop _ _ => error (lacks _ _)
  | .date _ => error (lacks _ _)
  | .moment _ => error (lacks _ _)
  | .object _ _ => error (lacks _ _)

/-- The blocks inside fail to be read as they do one by one. -/
theorem innerOf [HasContent p] (name : String) :
    (entries : List (Value × Value)) → OnlyFails p (Block.innerOf name entries)
  | [] => ok _
  | (key, value) :: entries => by
    unfold Block.innerOf
    split
    · exact (ofSeries value).map _
    · exact innerOf name entries

/-- So do those inside a block already built. -/
theorem builtInner [HasContent p] : (fields : List (String × Value)) → OnlyFails p (Block.builtInner fields)
  | [] => ok _
  | (name, value) :: fields => by
    unfold Block.builtInner
    split
    · exact ofSeries value
    · exact builtInner fields

/-- So do those of a series, unless it cannot be gone through. -/
theorem ofSeries [HasContent p] : (v : Value) → OnlyFails p (Block.ofSeries v)
  | .list items => by
    unfold Block.ofSeries
    exact ofItems items
  | .map entries => by
    unfold Block.ofSeries
    split
    · exact ok _
    · exact error HasContent.missingMember
  | .text s => by
    unfold Block.ofSeries
    split
    · exact ok _
    · exact error HasContent.missingMember
  | .null => ok _
  | .bool b => by cases b <;> first | exact ok _ | exact error (HasForgiven.forgiven _ rfl)
  | .int n => by
    unfold Block.ofSeries
    split <;> first | exact ok _ | exact error (HasForgiven.forgiven _ rfl)
  | .double x => by
    unfold Block.ofSeries
    split <;> first | exact ok _ | exact error (HasForgiven.forgiven _ rfl)
  | .loop _ _ => by
    unfold Block.ofSeries
    split <;> first | exact ok _ | exact error (HasForgiven.forgiven _ rfl)
  | .date _ => by
    unfold Block.ofSeries
    split <;> first | exact ok _ | exact error (HasForgiven.forgiven _ rfl)
  | .moment _ => by
    unfold Block.ofSeries
    split <;> first | exact ok _ | exact error (HasForgiven.forgiven _ rfl)
  | .object _ _ => by
    unfold Block.ofSeries
    split <;> first | exact ok _ | exact error (HasForgiven.forgiven _ rfl)
  | .built _ _ => by
    unfold Block.ofSeries
    split <;> first | exact ok _ | exact error (HasForgiven.forgiven _ rfl)

/-- So do those of a list. -/
theorem ofItems [HasContent p] : (items : List Value) → OnlyFails p (Block.ofItems items)
  | [] => ok _
  | item :: items => by
    unfold Block.ofItems
    exact (ofValue item).bind fun _ => (ofItems items).bind fun _ => ok _

end

/-- A pattern of a table, unless the table does not list it. -/
theorem find_table [HasContent p] (missing : ∀ fault, p (.patternNotFound fault))
    (patterns : List (String × PatternData))
    (ref : String) : OnlyFails p ((PatternLoader.table patterns).find ref) := by
  unfold PatternLoader.table
  dsimp only
  split
  · rename_i data _
    cases data with
    | built pattern => exact ok pattern
    | described data =>
      exact (asMapping data).bind fun _ => (seriesOrNone _).bind fun _ => (ofSeries _).bind fun _ => ok _
  · exact error (missing _)

end OnlyFails

end DynamicBlocks
