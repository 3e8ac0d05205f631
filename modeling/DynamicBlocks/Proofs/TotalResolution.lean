import DynamicBlocks.Proofs.ArgumentNesting
import DynamicBlocks.Proofs.KeptValues
import DynamicBlocks.Proofs.NestedData
import Mathlib

/-!
# Expressions come to values

Content never fails: whatever a modifier fails with is forgiven and the value it was applied to stays, a key that leads
nowhere is null. What is left are loop references, which are replaced by their items outside of any modifier: they
have to be of something that can be gone through. Where this holds throughout the sources it holds of every value on the
way, since the built-in modifiers keep what is lasting. So an expression comes to a value, unless `applyData` is asked
for deeper than it may; and an expression that does not ask for it always comes to one. With more depth more expressions
come to a value, and none to another one.
-/

set_option autoImplicit false

namespace DynamicBlocks

/-! ## Loop references -/

/-- A loop reference, if the value is one, is of something that can be gone through. -/
def Value.HasItems (v : Value) : Prop :=
  ∀ key data, v = .loop key data → ∃ items, data.series = .ok items

/-- What is lasting and lets loop references be replaced by their items. -/
class Value.Settling (good : Value → Prop) : Prop extends Value.Lasting good where
  hasItems : ∀ v, good v → v.HasItems

instance : Value.Settling Value.HasItems where
  bare v bare key data same := by simp [same, Value.parts] at bare
  list _ _ _ same := nomatch same
  named _ _ _ _ same := nomatch same
  rekeyed _ _ _ _ _ _ same := nomatch same
  loop key items _ data same := by
    cases same
    exact ⟨items, rfl⟩
  hasItems _ h := h

namespace Value.Throughout

variable {good : Value → Prop} [Value.Settling good] {v : Value}

/-- A reference, or a mapping marked as one, has items. -/
theorem exists_items (h : v.Throughout good) {r : LoopRef} (stands : LoopRef.ofValue? v = some r) :
    ∃ items, r.items = .ok items := by
  cases v with
  | loop key data =>
    cases stands
    exact Value.Settling.hasItems _ h.here key data rfl
  | map entries =>
    exact ⟨Entries.dataItems entries, by rw [LoopRef.items, LoopRef.data_of_map stands]; rfl⟩
  | null | bool | int | double | text | list | date | moment | object | built => cases stands

/-- A value throughout which references have items is replaced by what is such a value again. -/
theorem exists_unwrap (h : v.Throughout good) : ∃ w, v.unwrap = .ok w ∧ w.Throughout good := by
  have gives (w : Value) (unwrapped : v.unwrap = .ok w) : ∃ w, v.unwrap = .ok w ∧ w.Throughout good :=
    ⟨w, unwrapped, h.unwrap unwrapped⟩
  cases stands : LoopRef.ofValue? v with
  | none => exact gives v (by rw [Value.unwrap, stands])
  | some r =>
    obtain ⟨items, hitems⟩ := h.exists_items stands
    exact gives (.list items) (by simp [Value.unwrap, stands, hitems])

/-- So is what a walk comes to when it is settled. -/
theorem exists_settle (h : v.Throughout good) (keepLoop : Bool) :
    ∃ w, settle keepLoop v = .ok w ∧ w.Throughout good := by
  cases keepLoop with
  | false => exact h.exists_unwrap
  | true =>
    cases v with
    | map entries =>
      cases stands : LoopRef.ofValue? (.map entries) with
      | none => exact ⟨.map entries, by simp [settle, stands], h⟩
      | some r =>
        -- The data of a mapping is a list, so the reference made of it is good whatever its key.
        have same := LoopRef.data_of_map stands
        have held := h.reference stands
        rw [same] at held
        refine ⟨.loop r.key (.list _), ?_, throughout_loop_list.mpr held.items⟩
        simp [settle, stands, LoopRef.toValue, same]
    | loop key data => exact ⟨_, rfl, h⟩
    | null | bool | int | double | text | list | date | moment | object | built => exact ⟨_, rfl, h⟩

end Value.Throughout

/-! ## Outcomes -/

/-- What an outcome may come to and how it may fail. -/
structure Ends {α : Type} (fine : α → Prop) (p : Failure → Prop) (outcome : Except Failure α) : Prop where
  gives : OnlyGives fine outcome
  fails : OnlyFails p outcome

/-- The failures that are forgiven, and some others. -/
def OrForgiven (p : Failure → Prop) (f : Failure) : Prop :=
  f.isForgiven = true ∨ p f

instance (p : Failure → Prop) : HasForgiven (OrForgiven p) where
  forgiven _ forgiven := .inl forgiven

namespace Ends

section

variable {α β : Type} {fine : α → Prop} {finer : β → Prop} {p : Failure → Prop}

/-- A fine value is a fine outcome. -/
theorem ok {x : α} (h : fine x) : Ends fine p (.ok x) := ⟨.ok h, .ok x⟩

/-- Outcomes one after the other come to fine values, and fail in one way, if each of them does. -/
theorem bind {outcome : Except Failure α} {next : α → Except Failure β} (h : Ends fine p outcome)
    (rest : ∀ x, fine x → Ends finer p (next x)) : Ends finer p (outcome >>= next) := by
  cases outcome with
  | error f => exact ⟨.error f, .error (h.fails f rfl)⟩
  | ok x => exact rest x (h.gives x rfl)

/-- An outcome may be said to fail in more ways. -/
theorem mono {q : Failure → Prop} (more : ∀ f, p f → q f) {outcome : Except Failure α} (h : Ends fine p outcome) :
    Ends fine q outcome :=
  ⟨h.gives, fun f failed => more f (h.fails f failed)⟩

/-- Items come to fine values one by one: an induction on them. -/
theorem mapM {f : α → Except Failure β} {items : List α} (each : ∀ x ∈ items, Ends finer p (f x)) :
    Ends (fun results => ∀ y ∈ results, finer y) p (items.mapM f) := by
  induction items with
  | nil => exact ok (by simp)
  | cons item items ih =>
    rw [List.mapM_cons]
    refine (each item List.mem_cons_self).bind fun y hy => ?_
    refine (ih fun x there => each x (List.mem_cons_of_mem item there)).bind fun ys hys => ?_
    exact ok (List.forall_mem_cons.mpr ⟨hy, hys⟩)

/-- An outcome is a value or a failure. -/
theorem exists_or {outcome : Except Failure α} (h : Ends fine p outcome) :
    (∃ x, outcome = .ok x) ∨ ∃ f, outcome = .error f ∧ p f := by
  cases outcome with
  | ok x => exact .inl ⟨x, rfl⟩
  | error f => exact .inr ⟨f, rfl, h.fails f rfl⟩

end

variable {good : Value → Prop} {p : Failure → Prop} {table : ModifierTable}
  {data : DataResolver} {sources : List Source}

/-! ## Calls -/

/-- Arguments come to fine values if their texts do. -/
theorem evaluateArgs {evaluate : String → Except Failure Value}
    (each : ∀ text, Ends (Value.Throughout good) p (evaluate text)) (args : List Argument) :
    Ends (Arguments.Throughout good) p (DynamicBlocks.evaluateArgs evaluate args) := by
  -- The last of several values for a name wins, so that all values are among the given ones.
  have kept (given : List (String × Value)) (hgiven : ∀ arg ∈ given, arg.2.Throughout good) :
      ∀ all : List (String × Value), (∀ arg ∈ all, arg.2.Throughout good) →
        ∀ arg ∈ given.foldl (fun all arg => setNamed all arg.1 arg.2) all, arg.2.Throughout good := by
    induction given with
    | nil => exact fun all hall => hall
    | cons first given ih =>
      intro all hall
      refine ih (fun arg there => hgiven arg (List.mem_cons_of_mem first there)) _ fun arg there => ?_
      rcases List.mem_append.mp there with old | new
      · exact hall arg (List.mem_filter.mp old).1
      · rw [List.mem_singleton.mp new]
        exact hgiven first List.mem_cons_self
  refine (mapM fun argument _ => each argument.source).bind fun positional hpositional => ?_
  have named : Ends (fun given : List (String × Value) => ∀ arg ∈ given, arg.2.Throughout good) p
      ((namedArgs args).mapM fun argument => do
        let value ← evaluate argument.source
        pure (bareKeyword (argument.keyword.getD ""), value)) :=
    mapM fun argument _ => (each argument.source).bind fun value hvalue => ok hvalue
  exact named.bind fun given hgiven => ok ⟨hpositional, kept given hgiven [] (by simp)⟩

/-- A modifier comes to a good value for good ones, or fails in a way that is forgiven or that data may fail in. -/
theorem run {modifier : Modifier} (keeps : modifier.Keeps good) (fails : modifier.OnlyFails (OrForgiven p))
    (resolved : ∀ v : Value, v.Throughout good → Ends (Value.Throughout good) (OrForgiven p) (data sources v))
    (sound : SourcesThroughout good sources) {v : Value} (hv : v.Throughout good) {args : Arguments}
    (hargs : args.Throughout good) :
    Ends (Value.Throughout good) (OrForgiven p) (modifier.run data sources v args) :=
  match modifier, keeps, fails with
  | .plain _, keeps, fails => ⟨keeps v args hv hargs, fails v args⟩
  | .scoped _, keeps, fails => ⟨keeps sources v args sound hv hargs, fails sources v args⟩
  | .applyData, _, _ =>
    ⟨.after fun _ => (resolved v hv).gives, (OnlyFails.bindArguments args []).bind fun _ => (resolved v hv).fails⟩

/-- A value takes the place of a failure that is forgiven. -/
theorem forgive {v : Value} (hv : v.Throughout good) {outcome : Except Failure Value}
    (h : Ends (Value.Throughout good) (OrForgiven p) outcome) :
    Ends (Value.Throughout good) p (DynamicBlocks.forgive v outcome) := by
  cases outcome with
  | ok w => exact ok (h.gives w rfl)
  | error f =>
    unfold DynamicBlocks.forgive
    dsimp only
    split
    · exact ok hv
    · rename_i unforgiven
      exact ⟨.error f, .error ((h.fails f rfl).resolve_left unforgiven)⟩

/-- A call comes to a good value, for what its modifier is forgiven is left out. -/
theorem applyCall (keeps : table.Keeps good) (fails : table.OnlyFails (OrForgiven p))
    (resolved : ∀ v : Value, v.Throughout good → Ends (Value.Throughout good) (OrForgiven p) (data sources v))
    (sound : SourcesThroughout good sources) {evaluate : String → Except Failure Value}
    (each : ∀ text, Ends (Value.Throughout good) p (evaluate text)) {v : Value} (hv : v.Throughout good) (name : String)
    (args : List Argument) :
    Ends (Value.Throughout good) p (DynamicBlocks.applyCall table data sources evaluate v name args) := by
  unfold DynamicBlocks.applyCall ModifierTable.get?
  cases known : List.lookup name table with
  | none => exact ok hv
  | some modifier =>
    have there : (name, modifier) ∈ table := mem_of_lookup_eq_some known
    refine (evaluateArgs each args).bind fun args hargs => ?_
    exact forgive hv (run (keeps _ there) (fails _ there) resolved sound hv hargs)

/-! ## Content -/

/-- A template comes to a good value, or fails for an expression in it that cannot be shown. -/
theorem resolveTemplate [Value.Settling good] {evaluate : String → Except Failure Value}
    (each : ∀ text, Ends (Value.Throughout good) (OrForgiven p) (evaluate text)) (s : String) :
    Ends (Value.Throughout good) (OrForgiven p) (DynamicBlocks.resolveTemplate evaluate s) := by
  unfold DynamicBlocks.resolveTemplate
  split
  · exact each _
  · have filled : OnlyFails (OrForgiven p) (fillTemplate s fun source => evaluate source >>= Value.display) :=
      .fillTemplate s fun source => (each source).fails.bind .display
    exact ⟨.map Value.throughout_text, filled.map _⟩

mutual

/-- Content comes to good content: an induction on the value. -/
theorem resolveIn [Value.Settling good] {evaluate : String → Except Failure Value}
    (each : ∀ text, Ends (Value.Throughout good) (OrForgiven p) (evaluate text)) :
    (v : Value) → v.Throughout good → Ends (Value.Throughout good) (OrForgiven p) (DynamicBlocks.resolveIn evaluate v)
  | .text s, h => by
    unfold DynamicBlocks.resolveIn
    split
    · exact ok h
    · exact resolveTemplate each s
  | .list items, h => by
    unfold DynamicBlocks.resolveIn
    exact (resolveInItems each items h.items).bind fun _ hresults => ok (Value.throughout_list.mpr hresults)
  | .map entries, h => by
    unfold DynamicBlocks.resolveIn
    refine (resolveInEntries each entries fun entry there => h.value there).bind fun _ ⟨keys, values⟩ => ?_
    exact ok (Value.throughout_map_of_keys keys h values)
  | .null, h => ok h
  | .bool _, h => ok h
  | .int _, h => ok h
  | .double _, h => ok h
  | .loop _ _, h => ok h
  | .date _, h => ok h
  | .moment _, h => ok h
  | .object _ _, h => ok h
  | .built _ _, h => ok h

/-- Items come to good items. -/
theorem resolveInItems [Value.Settling good] {evaluate : String → Except Failure Value}
    (each : ∀ text, Ends (Value.Throughout good) (OrForgiven p) (evaluate text)) :
    (items : List Value) → (∀ item ∈ items, item.Throughout good) →
      Ends (fun results => ∀ result ∈ results, result.Throughout good) (OrForgiven p)
        (DynamicBlocks.resolveInItems evaluate items)
  | [], _ => ok (by simp)
  | item :: items, h => by
    obtain ⟨first, rest⟩ := List.forall_mem_cons.mp h
    unfold DynamicBlocks.resolveInItems
    refine (resolveIn each item first).bind fun result hresult => ?_
    exact (resolveInItems each items rest).bind fun results hresults =>
      ok (List.forall_mem_cons.mpr ⟨hresult, hresults⟩)

/-- Entries come to entries under the same keys with good values. -/
theorem resolveInEntries [Value.Settling good] {evaluate : String → Except Failure Value}
    (each : ∀ text, Ends (Value.Throughout good) (OrForgiven p) (evaluate text)) :
    (entries : List (Value × Value)) → (∀ entry ∈ entries, entry.2.Throughout good) →
      Ends (fun results => results.map (·.1) = entries.map (·.1) ∧ ∀ result ∈ results, result.2.Throughout good)
        (OrForgiven p) (DynamicBlocks.resolveInEntries evaluate entries)
  | [], _ => ok ⟨rfl, by simp⟩
  | (key, value) :: entries, h => by
    obtain ⟨first, rest⟩ := List.forall_mem_cons.mp h
    unfold DynamicBlocks.resolveInEntries
    refine (resolveIn each value first).bind fun result hresult => ?_
    refine (resolveInEntries each entries rest).bind fun results ⟨keys, hresults⟩ => ?_
    exact ok ⟨congrArg (key :: ·) keys, List.forall_mem_cons.mpr ⟨hresult, hresults⟩⟩

end

/-! ## Expressions -/

variable [Value.Settling good]

/-- A walk along segments: an induction on them. -/
theorem walk {call : Value → String → List Argument → Except Failure Value}
    (each : ∀ v : Value, v.Throughout good → ∀ name args, Ends (Value.Throughout good) p (call v name args)) {v : Value}
    (hv : v.Throughout good) (segments : List Segment) :
    Ends (fun reached => ∀ w, reached = some w → w.Throughout good) p (DynamicBlocks.walk call v segments) := by
  induction segments generalizing v with
  | nil =>
    refine ok fun w same => ?_
    cases same
    exact hv
  | cons segment segments ih =>
    obtain ⟨items, unwrapped, hitems⟩ := hv.exists_unwrap
    cases segment with
    | key name =>
      rw [DynamicBlocks.walk, unwrapped]
      refine (ok hitems).bind fun items hitems => ?_
      split
      · rename_i next found
        exact ih (hitems.lookup? found)
      · exact ok (by simp)
    | call name args =>
      rw [DynamicBlocks.walk, unwrapped]
      exact (each items hitems name args).bind fun next hnext => ih hnext

/-- An expression comes to a good value if calls on its way do. -/
theorem resolveWith {call : Value → String → List Argument → Except Failure Value}
    (each : ∀ v : Value, v.Throughout good → ∀ name args, Ends (Value.Throughout good) p (call v name args))
    (sound : SourcesThroughout good sources) (e : Expression) (keepLoop : Bool) :
    Ends (Value.Throughout good) p (e.resolveWith sources keepLoop call) := by
  unfold Expression.resolveWith
  split
  · exact ok Value.throughout_null
  · cases found : findSource? e.root sources with
    | none => exact ok Value.throughout_null
    | some v =>
      obtain ⟨source, there, rfl⟩ := Option.map_eq_some_iff.mp found
      have hv := sound source (List.mem_reverse.mp (List.mem_of_find?_eq_some there))
      refine (walk each hv _).bind fun reached hreached => ?_
      cases reached with
      | none => exact ok Value.throughout_null
      | some w =>
        obtain ⟨x, settled, hx⟩ := (hreached w rfl).exists_settle keepLoop
        dsimp only
        rw [settled]
        exact ok hx

section

variable (keeps : table.Keeps good) (fails : table.OnlyFails (OrForgiven p)) (sound : SourcesThroughout good sources)

include keeps fails sound

/-- The text of an expression evaluated: an induction on the nesting that is left. -/
theorem evaluateNested
    (resolved : ∀ v : Value, v.Throughout good → Ends (Value.Throughout good) (OrForgiven p) (data sources v))
    (nesting : Nat) (text : String) :
    Ends (Value.Throughout good) p (DynamicBlocks.evaluateNested table data sources nesting text) := by
  induction nesting generalizing text with
  | zero => exact ok Value.throughout_null
  | succ nesting ih =>
    unfold DynamicBlocks.evaluateNested
    cases literal : literal? text with
    | some v => exact ok (throughout_of_literal? literal)
    | none =>
      exact resolveWith (fun _ hv name args => applyCall keeps fails resolved sound ih hv name args) sound _ false

/-- An expression comes to a good value if data does. -/
theorem resolveExpression
    (resolved : ∀ v : Value, v.Throughout good → Ends (Value.Throughout good) (OrForgiven p) (data sources v))
    (e : Expression) (keepLoop : Bool) :
    Ends (Value.Throughout good) p (DynamicBlocks.resolveExpression table data sources e keepLoop) :=
  resolveWith (fun _ hv name args =>
    applyCall keeps fails resolved sound (evaluateNested keeps fails sound resolved _) hv name args) sound e keepLoop

variable (endless : p .endless)

include endless

/-- Data resolved so many times over: an induction on the depth. -/
theorem resolveDataAt (depth : Nat) : ∀ v : Value, v.Throughout good →
    Ends (Value.Throughout good) (OrForgiven p) (DynamicBlocks.resolveDataAt table depth sources v) := by
  induction depth with
  | zero => exact fun _ _ => ⟨.error _, .error (.inr endless)⟩
  | succ depth ih =>
    exact resolveIn fun text => (evaluateNested keeps fails sound ih _ text).mono fun _ => .inr

/-- The text of an expression comes to a good value, whatever depth data may ask for itself in. -/
theorem evaluateAt (depth : Nat) (text : String) :
    Ends (Value.Throughout good) p (DynamicBlocks.evaluateAt table depth sources text) :=
  evaluateNested keeps fails sound (resolveDataAt keeps fails sound endless depth) _ text

/-- So does an expression. -/
theorem resolveAt (depth : Nat) (e : Expression) (keepLoop : Bool) :
    Ends (Value.Throughout good) p (DynamicBlocks.resolveAt table depth sources e keepLoop) :=
  resolveExpression keeps fails sound (resolveDataAt keeps fails sound endless depth) e keepLoop

end

end Ends

/-! ## Expressions that ask for no data -/

/-- No call of an expression is one of `applyData`, be it in an argument. -/
def Expression.AsksNoData (table : ModifierTable) (e : Expression) : Prop :=
  ∀ name args, .call name args ∈ e.segments →
    table.get? name ≠ some .applyData ∧ ∀ argument ∈ args, DynamicBlocks.AsksNoData table argument.source

/-- The text of such an expression comes to the same whatever data is resolved to. -/
theorem AsksNoData.evaluateText_eq {table : ModifierTable} {text : String} (free : AsksNoData table text)
    (data data' : DataResolver) (sources : List Source) :
    evaluateText table data sources text = evaluateText table data' sources text :=
  (free.evaluateNested_eq data sources (Nat.lt_succ_self text.length)).trans
    (free.evaluateNested_eq data' sources (Nat.lt_succ_self text.length)).symm

/-- Such an expression comes to the same whatever data is resolved to. -/
theorem Expression.AsksNoData.resolveExpression_eq {table : ModifierTable} {text : String}
    (free : (Expression.ofText text).AsksNoData table) (data data' : DataResolver) (sources : List Source)
    (keepLoop : Bool) :
    resolveExpression table data sources (.ofText text) keepLoop =
      resolveExpression table data' sources (.ofText text) keepLoop := by
  unfold resolveExpression
  apply Expression.resolveWith_congr
  intro v name args there
  obtain ⟨plain, arguments⟩ := free name args there
  rw [applyCall_of_ne_applyData plain data']
  apply applyCall_congr
  intro argument given
  have shorter := length_argument_lt there given
  exact ((arguments argument given).evaluateNested_eq data sources shorter).trans
    ((arguments argument given).evaluateNested_eq data' sources shorter).symm

/-! ## Resolution with the built-in modifiers -/

/-- A run comes to a value just where it may ask as deep as the data is nested that it asks for, and to the same one
where it may ask deeper. -/
structure ValueWithin (table : ModifierTable) (sources : List Source) (run : DataResolver → Except Failure Value) :
    Prop where
  exists_iff (depth : Nat) : (∃ v, run (resolveDataAt table depth) = .ok v) ↔
    ∀ w, AsksFor table run w → NestedWithin table sources depth w
  stays {depth more : Nat} (le : depth ≤ more) {v : Value} (came : run (resolveDataAt table depth) = .ok v) :
    run (resolveDataAt table more) = .ok v

/-- What takes data and comes to a value or is given up comes to a value within some depth, if data does. -/
theorem TakesData.valueWithin {table : ModifierTable} (fails : table.OnlyFails Failure.Forgiven) {sources : List Source}
    {run : DataResolver → Except Failure Value} (takes : TakesData sources run)
    (ends : ∀ depth, (∃ v, run (resolveDataAt table depth) = .ok v) ∨ run (resolveDataAt table depth) = .error .endless) :
    ValueWithin table sources run where
  exists_iff depth := by
    have endless := takes.eq_endless_iff fails depth
    simp only [resolveDataAt_eq_endless_iff fails] at endless
    constructor
    · rintro ⟨v, came⟩ w asks
      by_contra deeper
      have given : run (resolveDataAt table depth) = .error .endless := endless.mpr ⟨w, asks, deeper⟩
      rw [came] at given
      cases given
    · intro within
      refine (ends depth).resolve_right fun given => ?_
      obtain ⟨w, asks, deeper⟩ := endless.mp given
      exact deeper (within w asks)
  stays {depth more} le {v} came := by
    have stays := takes.staysUnlessEndless (fun v => resolveDataAt_of_le fails le v)
    rw [stays (by rw [came]; exact nofun), came]

/-- Against sources whose loop references are of something that can be gone through, every text comes to a value as an
expression and as a literal or an expression, unless `applyData` asks for itself deeper than it may. With enough depth
it comes to one: that is, if the data it asks for is nested within the depth, and with any depth if no call is one of
`applyData`. Of the built-in modifiers each is forgiven whatever it fails with. -/
theorem exists_resolve_or_endless (zone : LocalZone) {sources : List Source}
    (sound : SourcesThroughout Value.HasItems sources) (text : String) (keepLoop : Bool) :
    let table := builtinModifiersIn zone
    let e := Expression.ofText text
    (∀ depth, (∃ v, resolveAt table depth sources e keepLoop = .ok v) ∨
      resolveAt table depth sources e keepLoop = .error .endless) ∧
    (∀ depth, (∃ v, evaluateAt table depth sources text = .ok v) ∨
      evaluateAt table depth sources text = .error .endless) ∧
    ValueWithin table sources (fun data => resolveExpression table data sources e keepLoop) ∧
    ValueWithin table sources (fun data => evaluateText table data sources text) ∧
    (e.AsksNoData table → (∃ v, ∀ depth, resolveAt table depth sources e keepLoop = .ok v) ∧
      ∃ v, ∀ depth, evaluateAt table depth sources text = .ok v) ∧
    table.OnlyFails fun f => f.isForgiven = true := by
  intro table e
  have keeps : table.Keeps Value.HasItems := builtinModifiersIn_keeps
  have fails : table.OnlyFails Failure.Forgiven := builtinModifiersIn_onlyFails
  have fails' (p : Failure → Prop) : table.OnlyFails (OrForgiven p) := builtinModifiersIn_onlyFails
  have resolved (depth : Nat) : (∃ v, resolveAt table depth sources e keepLoop = .ok v) ∨
      resolveAt table depth sources e keepLoop = .error .endless := by
    rcases (Ends.resolveAt keeps (fails' (· = .endless)) sound rfl depth e keepLoop).exists_or with
      value | ⟨f, failed, rfl⟩
    · exact .inl value
    · exact .inr failed
  have evaluated (depth : Nat) : (∃ v, evaluateAt table depth sources text = .ok v) ∨
      evaluateAt table depth sources text = .error .endless := by
    rcases (Ends.evaluateAt keeps (fails' (· = .endless)) sound rfl depth text).exists_or with value | ⟨f, failed, rfl⟩
    · exact .inl value
    · exact .inr failed
  let asIs : DataResolver := fun _ v => .ok v
  have kept (v : Value) (hv : v.Throughout Value.HasItems) :
      Ends (Value.Throughout Value.HasItems) (OrForgiven fun _ => False) (asIs sources v) := .ok hv
  refine ⟨resolved, evaluated, (takesData_expression fails sources e keepLoop).valueWithin fails resolved,
    (takesData_text fails sources text).valueWithin fails evaluated, fun free => ⟨?_, ?_⟩, fails⟩
  · -- No data is asked for, so it may as well be left as it is.
    have ends := Ends.resolveExpression keeps (fails' fun _ => False) sound kept e keepLoop
    obtain ⟨v, came⟩ | ⟨_, _, impossible⟩ := ends.exists_or
    · exact ⟨v, fun depth => (free.resolveExpression_eq _ _ sources keepLoop).trans came⟩
    · exact impossible.elim
  · have ends := Ends.evaluateNested keeps (fails' fun _ => False) sound kept (text.length + 1) text
    have asksNone : AsksNoData table text :=
      .intro (fun _ name args there => (free name args there).1) fun _ name args there => (free name args there).2
    obtain ⟨v, came⟩ | ⟨_, _, impossible⟩ := ends.exists_or
    · exact ⟨v, fun depth => (asksNone.evaluateText_eq _ _ sources).trans came⟩
    · exact impossible.elim

/-- A page with a key that is a date, a number that is none, and a loop reference. -/
def datedPage : List Source :=
  [⟨.text "page", .map [(.date ⟨2024, 1, 9⟩, .double (.nan none)), (.text "posts", .loop "posts" (.text "ab"))]⟩]

/-- The items of its reference turned around by a call that takes no such argument. -/
theorem exists_resolve_or_endless_datedPage :
    SourcesThroughout Value.HasItems datedPage ∧
      (∃ v, ∀ depth, resolveAt builtinModifiers depth datedPage (.ofText "page.posts.reverse(page)") false = .ok v) ∧
      ∃ v, ∀ depth, evaluateAt builtinModifiers depth datedPage "page.posts.reverse(page)" = .ok v := by
  have posts : (Value.loop "posts" (.text "ab")).Throughout Value.HasItems := by
    refine .intro (fun key data same => ?_) (by simp [Value.parts])
    cases same
    exact ⟨_, rfl⟩
  have sound : SourcesThroughout Value.HasItems datedPage := by
    refine List.forall_mem_singleton.mpr (.map (fun _ _ same => nomatch same) ?_)
    simpa using posts
  have segments : (Expression.ofText "page.posts.reverse(page)").segments =
      [.key "page", .key "posts", .call "reverse" [⟨"page", none⟩]] := by cbv
  have page : (Expression.ofText "page").segments = [.key "page"] := by cbv
  have free : (Expression.ofText "page.posts.reverse(page)").AsksNoData builtinModifiers := by
    intro name args there
    simp only [segments, List.mem_cons, List.not_mem_nil, or_false, reduceCtorEq, false_or, Segment.call.injEq] at there
    obtain ⟨rfl, rfl⟩ := there
    refine ⟨by simp [ModifierTable.get?, builtinModifiers, builtinModifiersIn, List.lookup, Modifier.simple], ?_⟩
    refine List.forall_mem_singleton.mpr (.intro (fun _ name args there => ?_) fun _ name args there => ?_) <;>
      simp [page] at there
  obtain ⟨-, -, -, -, same, -⟩ := exists_resolve_or_endless .utc sound "page.posts.reverse(page)" false
  exact ⟨sound, same free⟩

end DynamicBlocks
