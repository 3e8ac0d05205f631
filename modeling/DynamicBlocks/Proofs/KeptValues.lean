import DynamicBlocks.Proofs.Failures
import DynamicBlocks.Proofs.PartsOfValues

/-!
# What modifiers make of values

`OnlyGives fine` bounds the values an outcome may come to, as `OnlyFails` bounds its failures. A modifier keeps what
holds throughout the value it is applied to and throughout its arguments if it holds throughout its result. The built-in
modifiers keep whatever is lasting: they pick parts, put parts into lists, and else make texts, numbers and booleans.
-/

set_option autoImplicit false

namespace DynamicBlocks

/-- Every value of an outcome is one of some. -/
def OnlyGives {α : Type} (fine : α → Prop) (outcome : Except Failure α) : Prop :=
  ∀ x, outcome = .ok x → fine x

namespace OnlyGives

/-! ## Sequences of outcomes -/

section

variable {α β : Type} {fine : α → Prop} {finer : β → Prop}

/-- A fine value is a fine outcome. -/
theorem ok {x : α} (h : fine x) : OnlyGives fine (.ok x) := by
  intro y given
  cases given
  exact h

/-- A failure comes to no value. -/
theorem error (f : Failure) : OnlyGives fine (.error f) := fun _ given => nomatch given

/-- An outcome is fine if what follows is, for every fine value that comes before. -/
theorem bind {outcome : Except Failure α} {next : α → Except Failure β} (h : OnlyGives fine outcome)
    (rest : ∀ x, fine x → OnlyGives finer (next x)) : OnlyGives finer (outcome >>= next) := by
  intro y given
  obtain ⟨x, first, second⟩ := exists_of_bind_eq_ok given
  exact rest x (h x first) y second

/-- What comes first does not matter if all that may follow is fine. -/
theorem after {outcome : Except Failure α} {next : α → Except Failure β} (rest : ∀ x, OnlyGives finer (next x)) :
    OnlyGives finer (outcome >>= next) := by
  intro y given
  obtain ⟨x, _, second⟩ := exists_of_bind_eq_ok given
  exact rest x y second

/-- A function with fine values comes to fine outcomes. -/
theorem map {outcome : Except Failure α} {f : α → β} (h : ∀ x, finer (f x)) : OnlyGives finer (f <$> outcome) := by
  cases outcome with
  | error g => exact error g
  | ok x => exact ok (h x)

/-- Items whose values are fine one by one: an induction on them. -/
theorem mapM {items : List α} {f : α → Except Failure β} (each : ∀ item ∈ items, OnlyGives finer (f item)) :
    OnlyGives (fun results => ∀ x ∈ results, finer x) (items.mapM f) := by
  induction items with
  | nil => exact ok fun x there => nomatch there
  | cons item items ih =>
    rw [List.mapM_cons]
    refine (each item List.mem_cons_self).bind fun x hx => ?_
    refine (ih fun other there => each other (List.mem_cons_of_mem item there)).bind fun results hresults => ?_
    exact ok (List.forall_mem_cons.mpr ⟨hx, hresults⟩)

end

/-! ## Modifiers -/

section

variable {good : Value → Prop} [Value.Lasting good]

/-- Texts are fine whatever they are made of. -/
theorem text {α : Type} {outcome : Except Failure α} (f : α → String) :
    OnlyGives (Value.Throughout good) (outcome >>= fun x => pure (.text (f x))) :=
  after fun _ => ok (Value.throughout_text _)

/-- A text that is changed is a text. -/
theorem mapText (f : String → String) (v : Value) : OnlyGives (Value.Throughout good) (v.mapText f) := text f

/-- So is a text that is encoded. -/
theorem urlEncoded (v : Value) : OnlyGives (Value.Throughout good) v.urlEncoded := by
  refine after fun text => ?_
  split
  · exact ok (Value.throughout_text _)
  · exact error _

/-- So is a text that is trimmed. -/
theorem trimmed (v : Value) (chars : Option Value) : OnlyGives (Value.Throughout good) (v.trimmed chars) := by
  refine after fun _ => ?_
  split
  · exact ok (Value.throughout_text _)
  · exact ok (Value.throughout_text _)
  · exact error _

/-- So is a text that is cut. -/
theorem truncated (v : Value) (length suffix : Option Value) :
    OnlyGives (Value.Throughout good) (v.truncated length suffix) := by
  refine after fun _ => after fun _ => ?_
  split
  · exact ok (Value.throughout_text _)
  · split
    · exact ok (Value.throughout_text _)
    · exact error _

/-- A text that is split is a list of texts. -/
theorem splitText (v : Value) (separator : Option Value) :
    OnlyGives (Value.Throughout good) (v.splitText separator) := by
  refine after fun text => ?_
  dsimp only
  split
  · exact ok (by simp)
  · split
    · split
      · exact ok (by simp)
      · exact error _
    · exact ok (by simp)

/-- Values that are put together are the items of lists, or a text. -/
theorem concatenated {v : Value} {others : List Value} (h : v.Throughout good)
    (rest : ∀ other ∈ others, other.Throughout good) : OnlyGives (Value.Throughout good) (v.concatenated others) := by
  unfold Value.concatenated
  split
  · rename_i items
    refine ok (Value.throughout_list.mpr fun item there => ?_)
    rcases List.mem_append.mp there with own | more
    · exact h.items item own
    · obtain ⟨other, hother, inside⟩ := List.mem_flatMap.mp more
      split at inside
      · exact (rest _ hother).items item inside
      · rw [List.mem_singleton.mp inside]
        exact rest other hother
  · exact after fun text => OnlyGives.text fun texts => text ++ String.join texts

/-- Items that are joined are a text. -/
theorem joined (v : Value) (separator : Option Value) : OnlyGives (Value.Throughout good) (v.joined separator) := by
  unfold Value.joined
  split
  · exact after fun separator => text (Text.join separator)
  · exact mapText id _

/-- A length is a number. -/
theorem lengthOf (v : Value) : OnlyGives (Value.Throughout good) v.lengthOf := by
  unfold Value.lengthOf
  split
  · exact ok (Value.throughout_int _)
  · exact ok (Value.throughout_int _)
  · exact ok (Value.throughout_int _)
  · exact ok (Value.throughout_int _)
  · exact after fun _ => ok (Value.throughout_int _)

/-- An item of a list is a part of it, and a character of a text is a text. -/
theorem element {v : Value} (h : v.Throughout good) (index : Int) : (v.element index).Throughout good := by
  unfold Value.element
  split
  · rename_i items
    refine .getD (fun w found => ?_) Value.throughout_null
    unfold elementAt? at found
    split at found
    · exact h.items w (List.mem_of_getElem? found)
    · split at found
      · exact h.items w (List.mem_of_getElem? found)
      · cases found
  · refine .getD (fun w found => ?_) Value.throughout_null
    obtain ⟨c, _, rfl⟩ := Option.map_eq_some_iff.mp found
    exact Value.throughout_text _
  · exact Value.throughout_null

/-- So is the item at an index that a value gives. -/
theorem atIndex {v : Value} (h : v.Throughout good) (index : Value) :
    OnlyGives (Value.Throughout good) (v.atIndex index) := by
  unfold Value.atIndex
  split
  · exact map fun n => element h n
  · exact ok Value.throughout_null

/-- A part of a list holds items of it. -/
theorem slice {v : Value} (h : v.Throughout good) (start : Int) (stop : Option Int) :
    (v.slice start stop).Throughout good := by
  unfold Value.slice
  split
  · refine Value.throughout_list.mpr fun item there => h.items item ?_
    unfold sliceOf at there
    exact List.mem_of_mem_take (List.mem_of_mem_drop there)
  · exact Value.throughout_text _
  · exact h

/-- So does the part between bounds that values give. -/
theorem sliced {v : Value} (h : v.Throughout good) (start stop : Option Value) :
    OnlyGives (Value.Throughout good) (v.sliced start stop) := by
  have rest (stop : Option Int) : OnlyGives (Value.Throughout good) ((start.getD (.int 0)).toInt >>= fun start =>
      (pure (v.slice start stop) : Except Failure Value)) := after fun start => ok (slice h start stop)
  unfold Value.sliced
  split
  · dsimp only
    split
    · exact rest none
    · exact after rest
  · exact ok h

/-- A list back to front holds its items. -/
theorem reversed {v : Value} (h : v.Throughout good) : v.reversed.Throughout good := by
  unfold Value.reversed
  split
  · exact Value.throughout_list.mpr fun item there => h.items item (List.mem_reverse.mp there)
  · exact Value.throughout_text _
  · exact h

/-- The answer to a search is a boolean. -/
theorem includes (v needle : Value) : OnlyGives (Value.Throughout good) (v.includes needle) := by
  unfold Value.includes
  split
  · exact after fun _ => ok (Value.throughout_bool _)
  · exact ok (Value.throughout_bool _)
  · exact ok (Value.throughout_bool _)
  · exact ok (Value.throughout_bool _)

/-- What is filtered holds items of the list. -/
theorem filtered {v : Value} (h : v.Throughout good) (key expected : Option Value) :
    OnlyGives (Value.Throughout good) (v.filtered key expected) := by
  have fewer {items : List Value} (h : (Value.list items).Throughout good) (keep : Value → Bool) :
      (Value.list (items.filter keep)).Throughout good :=
    Value.throughout_list.mpr fun item there => h.items item (List.mem_filter.mp there).1
  unfold Value.filtered
  split
  · refine after fun name => ?_
    split
    · exact ok (fewer h _)
    · exact ok (fewer h _)
  · exact ok h

/-- What is plucked are parts of the items. -/
theorem plucked {v : Value} (h : v.Throughout good) (key : Value) :
    OnlyGives (Value.Throughout good) (v.plucked key) := by
  refine after fun name => ?_
  split
  · refine ok (Value.throughout_list.mpr fun item there => ?_)
    obtain ⟨own, hown, rfl⟩ := List.mem_map.mp there
    exact (h.items own hown).heldUnder name
  · exact ok (h.heldUnder name)

/-- A number that is rounded is a number. -/
theorem rounded (v : Value) (precision : Option Value) : OnlyGives (Value.Throughout good) (v.rounded precision) := by
  refine after fun places => after fun n => ?_
  cases n with
  | int n => exact ok (Value.throughout_int _)
  | double x =>
    dsimp only
    split
    · split
      · exact ok (Value.throughout_int _)
      · exact ok (Value.throughout_double _)
    · exact error _

/-- So is one that is rounded up. -/
theorem ceiling (v : Value) : OnlyGives (Value.Throughout good) v.ceiling := by
  refine after fun n => ?_
  cases n <;> exact ok (Value.throughout_int _)

/-- So is one that is rounded down. -/
theorem floored (v : Value) : OnlyGives (Value.Throughout good) v.floored := by
  refine after fun n => ?_
  cases n <;> exact ok (Value.throughout_int _)

/-- So is one without its sign. -/
theorem absolute (v : Value) : OnlyGives (Value.Throughout good) v.absolute := by
  refine after fun n => ?_
  cases n with
  | int n => exact ok (Value.throughout_int _)
  | double x => exact ok (Value.throughout_double _)

/-- A value shown by a date pattern is a text, or stays. -/
theorem byPattern (zone : LocalZone) {v : Value} (h : v.Throughout good) (pattern : String) :
    OnlyGives (Value.Throughout good) (v.byPattern zone pattern) := by
  unfold Value.byPattern
  split
  · exact ok h
  · split
    · exact ok (Value.throughout_text _)
    · exact error _

/-- A number that is formatted is a text, or stays. -/
theorem numberFormatted (zone : LocalZone) (n : Number) (format : String) :
    OnlyGives (Value.Throughout good) (Value.numberFormatted zone n format) := by
  unfold Value.numberFormatted
  split
  · unfold Value.withPlaces
    dsimp only
    split
    · split
      · exact ok (Value.throughout_text _)
      · exact error _
    · exact error _
  · split
    · exact ok (Value.throughout_text _)
    · exact error _
    · exact byPattern zone (Value.throughout_ofNumber n) format

/-- So is any value that is formatted. -/
theorem formatted (zone : LocalZone) {v : Value} (h : v.Throughout good) (format : Option Value) :
    OnlyGives (Value.Throughout good) (v.formatted zone format) := by
  refine after fun text => ?_
  split
  · exact numberFormatted zone _ text
  · exact numberFormatted zone _ text
  · exact byPattern zone h text

/-- A value, or what stands in for it, is fine if both are. -/
theorem withFallback {v : Value} (h : v.Throughout good) {fallback : Option Value}
    (given : ∀ w, fallback = some w → w.Throughout good) : (v.withFallback fallback).Throughout good := by
  have other : (fallback.getD (.text "")).Throughout good := .getD given (Value.throughout_text _)
  unfold Value.withFallback
  dsimp only
  split
  · exact other
  · split
    · exact other
    · exact h
  · split
    · exact other
    · exact h
  · exact h

end

end OnlyGives

/-! ## Tables of modifiers -/

/-- Something holds throughout all arguments. -/
structure Arguments.Throughout (good : Value → Prop) (args : Arguments) : Prop where
  positional : ∀ v ∈ args.positional, v.Throughout good
  named : ∀ arg ∈ args.named, arg.2.Throughout good

/-- What is bound to the parameters are the arguments. -/
theorem Arguments.Throughout.bind {good : Value → Prop} {args : Arguments} (h : args.Throughout good)
    (parameters : List Parameter) :
    OnlyGives (fun given => ∀ (v : Option Value), v ∈ given → ∀ w, v = some w → w.Throughout good)
      (args.bind parameters) := by
  have bound (parameters : List Parameter) {v : Option Value} {w : Value}
      (there : v ∈ (parameters.map fun parameter => (parameter, args.named.lookup parameter.name)).map (·.2))
      (same : v = some w) : w.Throughout good := by
    simp only [List.map_map, List.mem_map] at there
    obtain ⟨parameter, _, found⟩ := there
    exact h.named (parameter.name, w) (mem_of_lookup_eq_some (found.trans same))
  unfold Arguments.bind
  dsimp only
  split
  · exact .error _
  · split
    · exact .error _
    · split
      · exact .error _
      · refine .ok fun v there w same => ?_
        rcases List.mem_append.mp there with placed | named
        · obtain ⟨x, hx, rfl⟩ := List.mem_map.mp placed
          cases same
          exact h.positional w hx
        · exact bound _ named same

/-- Something holds throughout all sources. -/
def SourcesThroughout (good : Value → Prop) (sources : List Source) : Prop :=
  ∀ source ∈ sources, source.value.Throughout good

/-- A modifier that resolves no expressions keeps what holds throughout its value, its arguments and the sources. -/
def Modifier.Keeps (good : Value → Prop) : Modifier → Prop
  | .plain run => ∀ v args, v.Throughout good → args.Throughout good → OnlyGives (Value.Throughout good) (run v args)
  | .scoped run => ∀ sources v args, SourcesThroughout good sources → v.Throughout good → args.Throughout good →
    OnlyGives (Value.Throughout good) (run sources v args)
  | .applyData => True

/-- The modifiers of a table keep what holds throughout. -/
def ModifierTable.Keeps (good : Value → Prop) (table : ModifierTable) : Prop :=
  ∀ entry ∈ table, entry.2.Keeps good

namespace Modifier.Keeps

variable {good : Value → Prop}

/-- A modifier without parameters keeps what its function keeps. -/
theorem simple {run : Value → Except Failure Value}
    (h : ∀ v : Value, v.Throughout good → OnlyGives (Value.Throughout good) (run v)) :
    (Modifier.simple run).Keeps good := fun v _ hv _ => .after fun _ => h v hv

/-- So does a modifier with one parameter. -/
theorem unary {name : String} {run : Value → Value → Except Failure Value}
    (h : ∀ v first : Value, v.Throughout good → first.Throughout good →
      OnlyGives (Value.Throughout good) (run v first)) : (Modifier.unary name run).Keeps good := by
  intro v args hv hargs
  refine (hargs.bind _).bind fun given hgiven => ?_
  split
  · exact h v _ hv (hgiven _ List.mem_cons_self _ rfl)
  · exact .error _

/-- So does a modifier whose one parameter may be left out. -/
theorem unary? {name : String} {run : Value → Option Value → Except Failure Value}
    (h : ∀ (v : Value) (first : Option Value), v.Throughout good → (∀ w, first = some w → w.Throughout good) →
      OnlyGives (Value.Throughout good) (run v first)) : (Modifier.unary? name run).Keeps good := by
  intro v args hv hargs
  refine (hargs.bind _).bind fun given hgiven => ?_
  split
  · exact h v _ hv (hgiven _ List.mem_cons_self)
  · exact .error _

/-- So does a modifier with two parameters. -/
theorem binary {first second : Parameter} {run : Value → Option Value → Option Value → Except Failure Value}
    (h : ∀ (v : Value) (a b : Option Value), v.Throughout good → (∀ w, a = some w → w.Throughout good) →
      (∀ w, b = some w → w.Throughout good) → OnlyGives (Value.Throughout good) (run v a b)) :
    (Modifier.binary first second run).Keeps good := by
  intro v args hv hargs
  refine (hargs.bind _).bind fun given hgiven => ?_
  split
  · exact h v _ _ hv (hgiven _ List.mem_cons_self) (hgiven _ (List.mem_cons_of_mem _ List.mem_cons_self))
  · exact .error _

/-- So does a modifier with any number of parameters. -/
theorem variadic {run : Value → List Value → Except Failure Value}
    (h : ∀ (v : Value) (others : List Value), v.Throughout good → (∀ other ∈ others, other.Throughout good) →
      OnlyGives (Value.Throughout good) (run v others)) : (Modifier.variadic run).Keeps good := by
  intro v args hv hargs
  dsimp only
  split
  · exact h v _ hv hargs.positional
  · exact .error _

end Modifier.Keeps

open OnlyGives Modifier.Keeps in
/-- The built-in modifiers keep whatever is lasting. -/
theorem builtinModifiersIn_keeps {good : Value → Prop} [Value.Lasting good] {zone : LocalZone} :
    (builtinModifiersIn zone).Keeps good := by
  unfold ModifierTable.Keeps builtinModifiersIn
  simp only [List.forall_mem_cons]
  refine ⟨simple fun v _ => mapText _ v, simple fun v _ => mapText _ v, simple fun v _ => mapText _ v,
    simple fun v _ => mapText _ v, unary? fun v chars _ _ => trimmed v chars,
    binary fun v length suffix _ _ _ => truncated v length suffix, unary? fun v separator _ _ => splitText v separator,
    simple fun v _ => mapText _ v, simple fun v _ => urlEncoded v,
    variadic fun v others hv hothers => concatenated hv hothers,
    simple fun v _ => map Value.throughout_int, simple fun v _ => map Value.throughout_ofNumber,
    simple fun v _ => mapText id v, simple fun v _ => ok (Value.throughout_bool _),
    simple fun v _ => map Value.throughout_text, simple fun v _ => lengthOf v,
    unary fun v index hv _ => atIndex hv index,
    binary fun v start stop hv _ _ => sliced hv start stop, simple fun v hv => ok (element hv 0),
    simple fun v hv => ok (element hv (-1)), simple fun v hv => ok (reversed hv),
    unary? fun v separator _ _ => joined v separator, unary fun v needle _ _ => includes v needle,
    binary fun v key expected hv _ _ => filtered hv key expected, unary fun v key hv _ => plucked hv key,
    unary? fun v precision _ _ => rounded v precision, simple fun v _ => ceiling v, simple fun v _ => floored v,
    simple fun v _ => absolute v, unary? fun v format hv _ => formatted zone hv format,
    unary? fun v fallback hv given => ok (withFallback hv given), trivial, fun _ none_there => nomatch none_there⟩

end DynamicBlocks
