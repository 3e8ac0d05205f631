import DynamicBlocks.Proofs.Failures
import Mathlib

/-!
# Data that asks for data

A value that `applyData` is applied to is resolved as content, and in it `applyData` may be asked for again. How often
this may happen is cut off at some depth. Here it is said what the depth decides. Data that comes to an outcome at one
depth comes to it at every greater one (`resolveDataAt_of_le`), and there is none at a depth exactly if what is asked
for is nested deeper (`resolveDataAt_eq_endless_iff`): if there is a chain of values as long as the depth, each of which
asks for the next one. So data has no outcome at any depth exactly if there are such chains of every length from it.

Resolution takes the data of other values through a resolver, and else does the same whichever it is given. Runs with
several resolvers are therefore compared by one induction: a relation that outcomes alone have, and that is kept where
outcomes follow one another, is carried from the resolvers to the whole run (`Carried`). It is used three times: for
outcomes that stay with more depth, for a failure that nothing fails with, and for what becomes of a run that lacks the
data of one value.
-/

set_option autoImplicit false

namespace DynamicBlocks

/-- A failure that modifiers are forgiven. -/
def Failure.Forgiven (f : Failure) : Prop :=
  f.isForgiven = true

instance : HasForgiven Failure.Forgiven where
  forgiven _ forgiven := forgiven

/-! ## Runs with several resolvers -/

/-- A relation between the outcomes of several runs that resolution carries from the data to the result. -/
structure Carried {ι : Type} (related : {α : Type} → (ι → Except Failure α) → Prop) : Prop where
  /-- Outcomes that do not depend on the run. -/
  same {α : Type} {outcome : Except Failure α} : OnlyFails Failure.Forgiven outcome → related fun _ => outcome
  /-- Outcomes one after another. -/
  bind {α β : Type} {outcomes : ι → Except Failure α} {next : ι → α → Except Failure β} :
    related outcomes → (∀ x, related fun i => next i x) → related fun i => outcomes i >>= next i
  /-- Outcomes of a modifier, whose failures are forgiven. -/
  forgive (v : Value) {outcomes : ι → Except Failure Value} :
    related outcomes → related fun i => forgive v (outcomes i)

namespace Carried

variable {ι : Type} {related : {α : Type} → (ι → Except Failure α) → Prop} (carried : Carried related)

include carried

/-- Outcomes that something is made of. -/
theorem map {α β : Type} (f : α → β) {outcomes : ι → Except Failure α} (h : related outcomes) :
    related fun i => f <$> outcomes i := by
  simp only [map_eq_pure_bind]
  exact carried.bind h fun x => carried.same (.ok (f x))

/-- One outcome for each item: an induction on the items. -/
theorem mapM {α β : Type} {f : ι → α → Except Failure β} (each : ∀ x, related fun i => f i x) (items : List α) :
    related fun i => items.mapM (f i) := by
  induction items with
  | nil => exact carried.same (.ok [])
  | cons item items ih =>
    simp only [List.mapM_cons]
    exact carried.bind (each item) fun y => carried.bind ih fun ys => carried.same (.ok (y :: ys))

/-- Arguments evaluated, the positional ones first. -/
theorem evaluateArgs {evaluate : ι → String → Except Failure Value} (each : ∀ text, related fun i => evaluate i text)
    (args : List Argument) : related fun i => DynamicBlocks.evaluateArgs (evaluate i) args := by
  refine carried.bind (carried.mapM (fun argument : Argument => each argument.source) _) fun positional => ?_
  refine carried.bind (carried.mapM (fun argument : Argument => ?_) _) fun named => carried.same (.ok _)
  exact carried.bind (each argument.source) fun value => carried.same (.ok _)

variable {table : ModifierTable} (fails : table.OnlyFails Failure.Forgiven) {sources : List Source}
  {data : ι → DataResolver} (resolved : ∀ v, related fun i => data i sources v)

include resolved in
/-- A modifier run: only `applyData` takes data. -/
theorem run {modifier : Modifier} (fails : modifier.OnlyFails Failure.Forgiven) (v : Value) (args : Arguments) :
    related fun i => modifier.run (data i) sources v args :=
  match modifier, fails with
  | .plain _, fails => carried.same (fails v args)
  | .scoped _, fails => carried.same (fails sources v args)
  | .applyData, _ => carried.bind (carried.same (.bindArguments args [])) fun _ => resolved v

include fails resolved in
/-- A call applied, which forgives its modifier. -/
theorem applyCall {evaluate : ι → String → Except Failure Value} (each : ∀ text, related fun i => evaluate i text)
    (v : Value) (name : String) (args : List Argument) :
    related fun i => DynamicBlocks.applyCall table (data i) sources (evaluate i) v name args := by
  unfold DynamicBlocks.applyCall ModifierTable.get?
  cases known : List.lookup name table with
  | none => exact carried.same (.ok v)
  | some modifier =>
    refine carried.bind (carried.evaluateArgs each args) fun args => carried.forgive v ?_
    exact carried.run resolved (fails _ (mem_of_lookup_eq_some known)) v args

/-- A walk along segments: an induction on them. -/
theorem walk {call : ι → Value → String → List Argument → Except Failure Value}
    (each : ∀ v name args, related fun i => call i v name args) (v : Value) (segments : List Segment) :
    related fun i => DynamicBlocks.walk (call i) v segments := by
  induction segments generalizing v with
  | nil => exact carried.same (.ok _)
  | cons segment segments ih =>
    cases segment with
    | key name =>
      refine carried.bind (carried.same (.unwrap v)) fun w => ?_
      cases w.lookup? name with
      | none => exact carried.same (.ok _)
      | some next => exact ih next
    | call name args =>
      exact carried.bind (carried.same (.unwrap v)) fun w => carried.bind (each w name args) ih

/-- An expression resolved with calls. -/
theorem resolveWith {call : ι → Value → String → List Argument → Except Failure Value}
    (each : ∀ v name args, related fun i => call i v name args) (e : Expression) (keepLoop : Bool) :
    related fun i => e.resolveWith sources keepLoop (call i) := by
  unfold Expression.resolveWith
  split
  · exact carried.same (.ok _)
  · cases findSource? e.root sources with
    | none => exact carried.same (.ok _)
    | some v =>
      refine carried.bind (carried.walk each v _) fun reached => ?_
      cases reached with
      | none => exact carried.same (.ok _)
      | some w => exact carried.same (.settle keepLoop w)

/-- A template resolved with the texts of its expressions. -/
theorem resolveTemplate {evaluate : ι → String → Except Failure Value}
    (each : ∀ text, related fun i => evaluate i text) (s : String) :
    related fun i => DynamicBlocks.resolveTemplate (evaluate i) s := by
  unfold DynamicBlocks.resolveTemplate
  split
  · exact each _
  · refine carried.map _ (carried.bind (carried.mapM (fun token => ?_) _) fun parts => carried.same (.ok _))
    cases token with
    | literal chars => exact carried.same (.ok _)
    | expression chars => exact carried.bind (each _) fun v => carried.same (.display v)

mutual

/-- A value resolved: an induction on its form. -/
theorem resolveIn {evaluate : ι → String → Except Failure Value} (each : ∀ text, related fun i => evaluate i text) :
    (v : Value) → related fun i => DynamicBlocks.resolveIn (evaluate i) v
  | .text s => by
    unfold DynamicBlocks.resolveIn
    split
    · exact carried.same (.ok _)
    · exact carried.resolveTemplate each s
  | .list items => by
    unfold DynamicBlocks.resolveIn
    exact carried.bind (resolveInItems each items) fun _ => carried.same (.ok _)
  | .map entries => by
    unfold DynamicBlocks.resolveIn
    exact carried.bind (resolveInEntries each entries) fun _ => carried.same (.ok _)
  | .null => carried.same (.ok _)
  | .bool _ => carried.same (.ok _)
  | .int _ => carried.same (.ok _)
  | .double _ => carried.same (.ok _)
  | .loop _ _ => carried.same (.ok _)
  | .date _ => carried.same (.ok _)
  | .moment _ => carried.same (.ok _)
  | .object _ _ => carried.same (.ok _)
  | .built _ _ => carried.same (.ok _)

/-- Items resolved one by one. -/
theorem resolveInItems {evaluate : ι → String → Except Failure Value}
    (each : ∀ text, related fun i => evaluate i text) :
    (items : List Value) → related fun i => DynamicBlocks.resolveInItems (evaluate i) items
  | [] => carried.same (.ok [])
  | item :: items => by
    unfold DynamicBlocks.resolveInItems
    exact carried.bind (resolveIn each item) fun _ =>
      carried.bind (resolveInItems each items) fun _ => carried.same (.ok _)

/-- Entries resolved one by one, with their keys as they are. -/
theorem resolveInEntries {evaluate : ι → String → Except Failure Value}
    (each : ∀ text, related fun i => evaluate i text) :
    (entries : List (Value × Value)) → related fun i => DynamicBlocks.resolveInEntries (evaluate i) entries
  | [] => carried.same (.ok [])
  | (_, value) :: entries => by
    unfold DynamicBlocks.resolveInEntries
    exact carried.bind (resolveIn each value) fun _ =>
      carried.bind (resolveInEntries each entries) fun _ => carried.same (.ok _)

end

include fails resolved

/-- The text of an expression evaluated: an induction on the nesting that is left. -/
theorem evaluateNested (nesting : Nat) (text : String) :
    related fun i => DynamicBlocks.evaluateNested table (data i) sources nesting text := by
  induction nesting generalizing text with
  | zero => exact carried.same (.ok _)
  | succ nesting ih =>
    unfold DynamicBlocks.evaluateNested
    cases literal? text with
    | some v => exact carried.same (.ok v)
    | none => exact carried.resolveWith (fun v name args => carried.applyCall fails resolved ih v name args) _ false

end Carried

/-- What a run against sources makes of a resolver for data, if it does nothing else with it than take data from it. -/
structure TakesData {α : Type} (sources : List Source) (run : DataResolver → Except Failure α) : Prop where
  carry {ι : Type} {related : {α : Type} → (ι → Except Failure α) → Prop} : Carried related →
    ∀ data : ι → DataResolver, (∀ v, related fun i => data i sources v) → related fun i => run (data i)

section

variable {table : ModifierTable} (fails : table.OnlyFails Failure.Forgiven) (sources : List Source)

include fails

/-- The text of an expression is evaluated so. -/
theorem takesData_text (text : String) : TakesData sources fun data => evaluateText table data sources text where
  carry carried _ resolved := carried.evaluateNested fails resolved _ text

/-- An expression is resolved so. -/
theorem takesData_expression (e : Expression) (keepLoop : Bool) :
    TakesData sources fun data => resolveExpression table data sources e keepLoop where
  carry carried _ resolved := carried.resolveWith (fun v name args =>
    carried.applyCall fails resolved (carried.evaluateNested fails resolved _) v name args) e keepLoop

/-- A value is resolved so. -/
theorem takesData_value (v : Value) :
    TakesData sources fun data => resolveIn (evaluateText table data sources) v where
  carry carried _ resolved := carried.resolveIn (fun text => carried.evaluateNested fails resolved _ text) v

end

/-! ## Outcomes stay -/

/-- The second of two outcomes is the first one, unless that is given up. -/
def StaysUnlessEndless {α : Type} (outcome outcome' : Except Failure α) : Prop :=
  outcome ≠ .error .endless → outcome' = outcome

/-- Outcomes one after another stay if each of them does. -/
theorem StaysUnlessEndless.bind {α β : Type} {outcome outcome' : Except Failure α} {next next' : α → Except Failure β}
    (h : StaysUnlessEndless outcome outcome') (rest : ∀ x, StaysUnlessEndless (next x) (next' x)) :
    StaysUnlessEndless (outcome >>= next) (outcome' >>= next') := by
  intro came
  cases outcome with
  | error f =>
    obtain rfl : outcome' = .error f := h fun same => came (by rw [same]; rfl)
    rfl
  | ok x =>
    obtain rfl : outcome' = .ok x := h nofun
    exact rest x came

/-- Outcomes of a modifier stay, since it is not forgiven what is given up. -/
theorem StaysUnlessEndless.forgive {outcome outcome' : Except Failure Value} (h : StaysUnlessEndless outcome outcome')
    (v : Value) : StaysUnlessEndless (DynamicBlocks.forgive v outcome) (DynamicBlocks.forgive v outcome') := by
  intro came
  rw [h fun endless => came (by rw [endless]; rfl)]

/-- Where data stays, runs that take it do. -/
theorem carried_staysUnlessEndless :
    Carried fun {_} outcomes => StaysUnlessEndless (outcomes false) (outcomes true) where
  same _ _ := rfl
  bind h rest := h.bind rest
  forgive v {_} h := StaysUnlessEndless.forgive h v

/-- What takes data comes to the same with data that stays, if it comes to an outcome. -/
theorem TakesData.staysUnlessEndless {α : Type} {sources : List Source} {run : DataResolver → Except Failure α}
    (takes : TakesData sources run) {data data' : DataResolver}
    (stays : ∀ v, StaysUnlessEndless (data sources v) (data' sources v)) : StaysUnlessEndless (run data) (run data') :=
  takes.carry carried_staysUnlessEndless (fun second : Bool => if second then data' else data) stays

section

variable {table : ModifierTable} (fails : table.OnlyFails Failure.Forgiven) {sources : List Source}

include fails

/-- Data that comes to an outcome at one depth comes to the same at every greater one: an induction on the depth. -/
theorem resolveDataAt_of_le {depth more : Nat} (le : depth ≤ more) (v : Value) :
    StaysUnlessEndless (resolveDataAt table depth sources v) (resolveDataAt table more sources v) := by
  induction depth generalizing more v with
  | zero => exact fun came => absurd rfl came
  | succ depth ih =>
    obtain ⟨more, rfl⟩ : ∃ n, more = n + 1 := ⟨more - 1, by omega⟩
    exact (takesData_value fails sources v).staysUnlessEndless (ih (Nat.le_of_succ_le_succ le))

end

/-! ## What is asked for -/

open Classical in
/-- The data of all values but one. In the place of this one's there is a failure that no modifier is forgiven and that
nothing else fails with. -/
noncomputable def DataResolver.without (data : DataResolver) (w : Value) : DataResolver :=
  fun sources v => if v = w then .error .noSession else data sources v

/-- A run asks for the data of a value at some depth: where this data is missing, the run fails for it. -/
def AsksFor {α : Type} (table : ModifierTable) (run : DataResolver → Except Failure α) (w : Value) : Prop :=
  ∃ depth, run (DataResolver.without (resolveDataAt table depth) w) = .error .noSession

/-- What the data of a value asks for comes to an outcome within a depth: all of it is nested less deep. -/
def NestedWithin (table : ModifierTable) (sources : List Source) : (depth : Nat) → Value → Prop
  | 0, _ => False
  | depth + 1, v => ∀ w, AsksFor table (fun data => resolveIn (evaluateText table data sources) v) w →
      NestedWithin table sources depth w

/-- A failure that is not forgiven is there after forgiving exactly if it was there before. -/
theorem forgive_eq_error_iff {f : Failure} (unforgiven : f.isForgiven = false) {v : Value}
    {outcome : Except Failure Value} : forgive v outcome = .error f ↔ outcome = .error f := by
  unfold forgive
  cases outcome with
  | ok w => simp
  | error g =>
    dsimp only
    split
    · rename_i forgiven
      constructor
      · exact nofun
      · rintro ⟨⟩
        rw [unforgiven] at forgiven
        cases forgiven
    · rfl

/-- A failure that nothing else fails with is no failure of a run, if it is none of the data. -/
theorem carried_ne_noSession :
    Carried fun {_} (outcomes : Unit → Except Failure _) => outcomes () ≠ .error .noSession where
  same fails missing := nomatch fails _ missing
  bind {α β outcomes next} h rest := by
    dsimp only at h rest ⊢
    cases first : outcomes () with
    | error f =>
      intro missing
      cases missing
      exact h first
    | ok x => exact rest x
  forgive v {_} h missing := h ((forgive_eq_error_iff rfl).mp missing)

/-- Data is never the failure that stands for missing data: an induction on the depth. -/
theorem resolveDataAt_ne_noSession {table : ModifierTable} (fails : table.OnlyFails Failure.Forgiven)
    {sources : List Source} (depth : Nat) (v : Value) : resolveDataAt table depth sources v ≠ .error .noSession := by
  induction depth generalizing v with
  | zero => exact nofun
  | succ depth ih =>
    exact (takesData_value fails sources v).carry carried_ne_noSession (fun _ => resolveDataAt table depth) ih

/-- Outcomes of runs with all data, and without that of one value each. If there is none with all data, then because of
some value that lacks data; if there is one, values that lack data do not matter. -/
structure TellsAsked (lacks : Value → Prop) {α : Type} (outcomes : Option Value → Except Failure α) : Prop where
  asked : outcomes none = .error .endless → ∃ w, lacks w ∧ outcomes (some w) = .error .noSession
  present : outcomes none ≠ .error .noSession
  unasked : outcomes none ≠ .error .endless → ∀ w, lacks w → outcomes (some w) = outcomes none

namespace TellsAsked

variable {lacks : Value → Prop} {α β : Type}

/-- Outcomes that do not depend on what is lacking, and are neither given up nor lack anything. -/
theorem same {outcome : Except Failure α} (fails : OnlyFails Failure.Forgiven outcome) :
    TellsAsked lacks fun _ => outcome where
  asked endless := nomatch fails _ endless
  present missing := nomatch fails _ missing
  unasked _ _ _ := rfl

/-- Outcomes one after another: where the first ones are failures these are the outcomes, and else it is the next
ones that tell. -/
theorem bind {outcomes : Option Value → Except Failure α} {next : Option Value → α → Except Failure β}
    (h : TellsAsked lacks outcomes) (rest : ∀ x, TellsAsked lacks fun i => next i x) :
    TellsAsked lacks fun i => outcomes i >>= next i := by
  cases first : outcomes none with
  | error f =>
    have all : (outcomes none >>= next none) = .error f := by rw [first]; rfl
    constructor
    · intro endless
      obtain rfl : f = .endless := Except.error.inj (all.symm.trans endless)
      obtain ⟨w, lacking, missing⟩ := h.asked first
      exact ⟨w, lacking, by rw [missing]; rfl⟩
    · intro missing
      obtain rfl : f = .noSession := Except.error.inj (all.symm.trans missing)
      exact h.present first
    · intro came w lacking
      have given : outcomes none ≠ .error .endless := fun same => came (by rw [same]; rfl)
      rw [h.unasked given w lacking, first]
      rfl
  | ok x =>
    have all : (outcomes none >>= next none) = next none x := by rw [first]; rfl
    have each (w : Value) (lacking : lacks w) : (outcomes (some w) >>= next (some w)) = next (some w) x := by
      rw [h.unasked (by rw [first]; exact nofun) w lacking, first]
      rfl
    constructor
    · intro endless
      obtain ⟨w, lacking, missing⟩ := (rest x).asked (all.symm.trans endless)
      exact ⟨w, lacking, (each w lacking).trans missing⟩
    · intro missing
      exact (rest x).present (all.symm.trans missing)
    · intro came w lacking
      rw [each w lacking, all]
      exact (rest x).unasked (fun given => came (all.trans given)) w lacking

/-- Outcomes of a modifier: neither of the two failures is forgiven. -/
theorem forgive {outcomes : Option Value → Except Failure Value} (h : TellsAsked lacks outcomes) (v : Value) :
    TellsAsked lacks fun i => DynamicBlocks.forgive v (outcomes i) where
  asked endless := by
    obtain ⟨w, lacking, missing⟩ := h.asked ((forgive_eq_error_iff rfl).mp endless)
    exact ⟨w, lacking, (forgive_eq_error_iff rfl).mpr missing⟩
  present missing := h.present ((forgive_eq_error_iff rfl).mp missing)
  unasked came w lacking := by
    rw [h.unasked (fun endless => came ((forgive_eq_error_iff rfl).mpr endless)) w lacking]

end TellsAsked

/-- What data tells about what is lacking, a run that takes it tells. -/
theorem carried_tellsAsked (lacks : Value → Prop) : Carried (TellsAsked lacks) where
  same fails := .same fails
  bind h rest := h.bind rest
  forgive v {_} h := h.forgive v

section

variable {table : ModifierTable} (fails : table.OnlyFails Failure.Forgiven) {sources : List Source}

include fails

/-- Where a run comes to nothing at a depth, it asks for the data of a value that comes to nothing there, and the other
way round. -/
theorem TakesData.eq_endless_iff {α : Type} {run : DataResolver → Except Failure α} (takes : TakesData sources run)
    (depth : Nat) :
    run (resolveDataAt table depth) = .error .endless ↔
      ∃ w, AsksFor table run w ∧ resolveDataAt table depth sources w = .error .endless := by
  have tells : TellsAsked (fun w => resolveDataAt table depth sources w = .error .endless) fun i : Option Value =>
      run (i.elim (resolveDataAt table depth) fun w => DataResolver.without (resolveDataAt table depth) w) := by
    refine takes.carry (carried_tellsAsked _) (fun i : Option Value =>
      i.elim (resolveDataAt table depth) fun w => DataResolver.without (resolveDataAt table depth) w) fun v => ?_
    have present : resolveDataAt table depth sources v ≠ .error .noSession := resolveDataAt_ne_noSession fails depth v
    refine ⟨fun endless => ⟨v, endless, if_pos rfl⟩, present, fun came w lacking => if_neg ?_⟩
    rintro rfl
    exact came lacking
  constructor
  · intro endless
    obtain ⟨w, lacking, missing⟩ := tells.asked endless
    exact ⟨w, ⟨depth, missing⟩, lacking⟩
  · rintro ⟨w, ⟨other, missing⟩, lacking⟩
    -- The run lacks this data at the other depth, so it lacks it at this one: of two depths the greater one changes no
    -- outcome.
    by_contra came
    have unasked : run (DataResolver.without (resolveDataAt table depth) w) = run (resolveDataAt table depth) :=
      tells.unasked came w lacking
    have stays {n m : Nat} (le : n ≤ m)
        (came : run (DataResolver.without (resolveDataAt table n) w) ≠ .error .endless) :
        run (DataResolver.without (resolveDataAt table m) w) =
          run (DataResolver.without (resolveDataAt table n) w) := by
      refine takes.staysUnlessEndless (fun v => ?_) came
      unfold DataResolver.without
      split
      · exact fun _ => rfl
      · exact resolveDataAt_of_le fails le v
    rcases le_total other depth with le | le
    · have same := stays le (by rw [missing]; simp)
      exact tells.present (unasked.symm.trans (same.trans missing))
    · have same := stays le (by rw [unasked]; exact came)
      exact tells.present (unasked.symm.trans (same.symm.trans missing))

/-- Data is given up at a depth exactly if it is nested deeper: an induction on the depth. -/
theorem resolveDataAt_eq_endless_iff (depth : Nat) (v : Value) :
    resolveDataAt table depth sources v = .error .endless ↔ ¬NestedWithin table sources depth v := by
  induction depth generalizing v with
  | zero => exact ⟨fun _ => id, fun _ => rfl⟩
  | succ depth ih =>
    rw [resolveDataAt, NestedWithin, (takesData_value fails sources v).eq_endless_iff fails depth]
    simp only [ih, not_forall, exists_prop]

end

end DynamicBlocks
