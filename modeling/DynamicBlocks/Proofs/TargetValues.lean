import DynamicBlocks.Proofs.ArgumentNesting
import Mathlib

/-!
# Loop targets and values of expressions

The items of a target are found by an evaluator of their own, which follows the target name by name and looks out for
presets, loop references and texts that mean one of these. Where none of them comes up it should find the items of what
the target is as an expression.

It does so as long as calls stand where it takes them for modifiers, which is behind a list and there not behind nothing
at all; before a list is reached a call is a key with parameters, and a target that leads to nothing is given up. What
is more, a target in brackets is JSON, and the name at the start is read as an expression again.
-/

set_option autoImplicit false

namespace DynamicBlocks

/-- A mapping that is not marked as a loop reference is none. -/
theorem LoopRef.ofValue?_map_eq_none {entries : Entries} (unmarked : entries.isLoop = false) :
    LoopRef.ofValue? (.map entries) = none := by
  show (if Entries.isLoop entries = true then _ else none) = none
  rw [unmarked]
  rfl

/-- The value that keys lead to, one after the other. -/
def Value.reach? : Value → List String → Option Value
  | v, [] => some v
  | v, name :: names => (v.lookup? name).bind fun w => w.reach? names

/-- A value from which no key leads to a loop reference. -/
def Value.NoLoops (v : Value) : Prop :=
  ∀ names w, v.reach? names = some w → LoopRef.ofValue? w = none

namespace Value

/-- What a step leads to holds no loops if the value holds none. -/
theorem NoLoops.of_lookup? {v w : Value} {name : String} (h : v.NoLoops) (there : v.lookup? name = some w) :
    w.NoLoops := by
  intro names x reached
  apply h (name :: names) x
  rw [reach?, there]
  exact reached

/-- A value without loops stands for none. -/
theorem NoLoops.ofValue? {v : Value} (h : v.NoLoops) : LoopRef.ofValue? v = none :=
  h [] v rfl

end Value

namespace Engine

variable {engine : Engine} {sources : List Source}

/-- A value that a target takes as it is: no loop reference, and no text that names a preset or means a list or a
mapping. -/
structure StandsForItself (engine : Engine) (sources : List Source) (v : Value) : Prop where
  noLoop : LoopRef.ofValue? v = none
  unknown : ∀ s, v = .text s → engine.loops.knows (.text s) = false
  noCollection : ∀ s, v = .text s → engine.collection? sources s = .ok none

/-- A value from which keys lead only to values that stand for themselves. -/
def Inert (engine : Engine) (sources : List Source) (v : Value) : Prop :=
  ∀ names w, v.reach? names = some w → engine.StandsForItself sources w

namespace Inert

/-- What a step leads to is inert if the value is. -/
theorem of_lookup? {v w : Value} {name : String} (h : engine.Inert sources v) (there : v.lookup? name = some w) :
    engine.Inert sources w := by
  intro names x reached
  apply h (name :: names) x
  rw [Value.reach?, there]
  exact reached

/-- An inert value stands for itself. -/
theorem standsForItself {v : Value} (h : engine.Inert sources v) : engine.StandsForItself sources v :=
  h [] v rfl

/-- An inert value holds no loops. -/
theorem noLoops {v : Value} (h : engine.Inert sources v) : v.NoLoops :=
  fun names w reached => (h names w reached).noLoop

/-- A value is inert if it stands for itself and every key leads to an inert one. -/
theorem intro {v : Value} (here : engine.StandsForItself sources v)
    (there : ∀ name w, v.lookup? name = some w → engine.Inert sources w) : engine.Inert sources v := by
  intro names w reached
  cases names with
  | nil =>
    obtain rfl := Option.some.inj reached
    exact here
  | cons name names =>
    obtain ⟨next, found, reached⟩ := Option.bind_eq_some_iff.mp reached
    exact there name next found names w reached

/-- A text is inert if it names no preset and no collection. -/
theorem text {s : String} (unknown : engine.loops.knows (.text s) = false)
    (noCollection : engine.collection? sources s = .ok none) : engine.Inert sources (.text s) := by
  refine intro ⟨rfl, ?_, ?_⟩ fun name w there => ?_
  · rintro _ ⟨⟩
    exact unknown
  · rintro _ ⟨⟩
    exact noCollection
  · have nothing : (Value.text s).lookup? name = none := by
      show (Value.text s).member? name = none
      unfold Value.member?
      split <;> rfl
    rw [nothing] at there
    cases there

/-- A list is inert if its items are. -/
theorem list {items : List Value} (each : ∀ item ∈ items, engine.Inert sources item) :
    engine.Inert sources (.list items) := by
  refine intro ⟨rfl, nofun, nofun⟩ fun name w there => ?_
  obtain ⟨n, _, found⟩ := Option.bind_eq_some_iff.mp there
  exact each w (List.mem_of_getElem? found)

/-- A mapping is inert if it stands for no loop and its values are inert. -/
theorem map {entries : Entries} (noLoop : entries.isLoop = false) (each : ∀ entry ∈ entries, engine.Inert sources entry.2) :
    engine.Inert sources (.map entries) := by
  have held {key v : Value} (found : Entries.get? entries key = some v) : engine.Inert sources v := by
    obtain ⟨entry, there, rfl⟩ := Option.map_eq_some_iff.mp found
    exact each entry (List.mem_of_find?_eq_some there)
  refine intro ⟨LoopRef.ofValue?_map_eq_none noLoop, nofun, nofun⟩ fun name w there => ?_
  unfold Value.lookup? at there
  dsimp only at there
  split at there
  · rename_i found
    obtain rfl := Option.some.inj there
    exact held found
  · obtain ⟨n, _, found⟩ := Option.bind_eq_some_iff.mp there
    exact held found

end Inert

/-- Segments from a value on, and whether it is reached by way of a list, whose calls all stand behind a list, where
none is applied to nothing or comes to a value that holds a loop reference. -/
def WellPlaced (engine : Engine) (sources : List Source) : (v : Value) → (listed : Bool) → List Segment → Prop
  | _, _, [] => True
  | v, listed, .key name :: segments =>
    ∀ w, v.lookup? name = some w → engine.WellPlaced sources w (listed || w.isList) segments
  | v, listed, .call name args :: segments =>
    listed = true ∧ v.isNull = false ∧
      ∀ w, applyModifier engine.modifiers sources v name args = .ok w →
        w.NoLoops ∧ engine.WellPlaced sources w true segments

/-- A target that is an expression and not JSON written in place, and whose root is a name, means itself and no
preset. -/
structure PlainTarget (engine : Engine) (target : String) : Prop where
  enclosed : mayBeJson (Text.trimChars target.toList) = true →
    Json.read? (String.ofList (Text.trimChars target.toList)) = none ∧
      ∃ inner, standalone? (Text.trimChars target.toList) = some inner ∧ standalone? (Text.trimChars inner) = none
  root : ∀ segment, (Expression.ofText target).segments.head? = some segment →
    segment = .key segment.name ∧ (Expression.ofText segment.name).segments = [.key segment.name] ∧
      engine.loops.knows (.text segment.name) = false

/-! ## The value behind segments -/

/-- The value that segments lead to, null if to none. -/
def walked (engine : Engine) (sources : List Source) (v : Value) (segments : List Segment) : Except Failure Value := do
  match ← walk (applyModifier engine.modifiers sources) v segments with
  | some w => settle false w
  | none => pure .null

/-- A value that stands for no loop is not replaced by items. -/
theorem unwrap_of_noLoop {v : Value} (plain : LoopRef.ofValue? v = none) : v.unwrap = .ok v := by
  unfold Value.unwrap
  rw [plain]

/-- An empty walk comes to the value itself. -/
theorem walked_nil {v : Value} (plain : LoopRef.ofValue? v = none) : engine.walked sources v [] = .ok v :=
  unwrap_of_noLoop plain

/-- A key is a step to what it leads to. -/
theorem walk_key (call : Value → String → List Argument → Except Failure Value) {v : Value}
    (plain : LoopRef.ofValue? v = none) (name : String) (segments : List Segment) :
    walk call v (.key name :: segments) =
      match v.lookup? name with
      | some next => walk call next segments
      | none => pure none := by
  rw [walk, unwrap_of_noLoop plain]
  rfl

/-- A walk with a key in front goes on from what the key leads to. -/
theorem walked_key {v : Value} (plain : LoopRef.ofValue? v = none) (name : String) (segments : List Segment) :
    engine.walked sources v (.key name :: segments) =
      match v.lookup? name with
      | none => .ok .null
      | some w => engine.walked sources w segments := by
  unfold walked
  rw [walk_key _ plain]
  cases v.lookup? name <;> rfl

/-- A walk with a call in front goes on from what the call comes to. -/
theorem walked_call {v : Value} (plain : LoopRef.ofValue? v = none) (name : String) (args : List Argument)
    (segments : List Segment) :
    engine.walked sources v (.call name args :: segments) =
      applyModifier engine.modifiers sources v name args >>= fun w => engine.walked sources w segments := by
  have step : walk (applyModifier engine.modifiers sources) v (.call name args :: segments) =
      applyModifier engine.modifiers sources v name args >>= fun next =>
        walk (applyModifier engine.modifiers sources) next segments := by
    rw [walk, unwrap_of_noLoop plain]
    rfl
  unfold walked
  rw [step, bind_assoc]

/-- A walk from null, as a target takes it, comes to null. -/
theorem walked_null {listed : Bool} {segments : List Segment}
    (placed : engine.WellPlaced sources .null listed segments) : engine.walked sources .null segments = .ok .null := by
  cases segments with
  | nil => exact walked_nil rfl
  | cons segment segments =>
    cases segment with
    | key name =>
      have nothing : Value.null.lookup? name = none := by
        show Value.null.member? name = none
        unfold Value.member?
        split <;> rfl
      rw [walked_key rfl, nothing]
    | call name args => cases placed.2.1

/-- An expression is the walk along its segments from the source of its root. -/
theorem resolveWith_eq {text root : String} {segments : List Segment}
    (read : (Expression.ofText text).segments = .key root :: segments) (sources : List Source) (keepLoop : Bool)
    (call : Value → String → List Argument → Except Failure Value) :
    (Expression.ofText text).resolveWith sources keepLoop call =
      match findSource? root sources with
      | none => .ok .null
      | some v => walk call v segments >>= fun reached => (match reached with
        | some w => settle keepLoop w
        | none => pure .null) := by
  unfold Expression.resolveWith Expression.root Expression.rootCall?
  rw [read]
  rfl

/-- The value of an expression is what its segments lead to from the source of its root. -/
theorem valueOf_eq (engine : Engine) (sources : List Source) {text : String} {root : String} {segments : List Segment}
    (read : (Expression.ofText text).segments = .key root :: segments) :
    engine.valueOf sources text false =
      match findSource? root sources with
      | none => .ok .null
      | some v => engine.walked sources v segments := by
  unfold valueOf
  rw [resolve_ofText, resolveWith_eq read]
  rfl

/-! ## Steps of a target -/

/-- A target that has reached a value that stands for itself goes on from it. -/
theorem StandsForItself.reached {v : Value} (h : engine.StandsForItself sources v) (params : Entries) :
    engine.reached sources v params = pure (v, v.isList) := by
  unfold Engine.reached
  rw [h.noLoop]
  dsimp only
  split
  · rename_i s
    split
    · rfl
    · rw [h.unknown s rfl, h.noCollection s rfl]
      rfl
  · rfl

/-- A target that has reached null has reached nothing. -/
theorem StandsForItself.reachedIfAny {v : Value} (h : engine.StandsForItself sources v) (params : Entries) :
    engine.reachedIfAny sources v params = pure (if v.isNull then none else some (v, v.isList)) := by
  unfold Engine.reachedIfAny
  rw [h.reached, pure_bind]

/-- Null stands for itself. -/
theorem standsForItself_null : engine.StandsForItself sources .null :=
  ⟨rfl, nofun, nofun⟩

/-- What a target comes to behind a value that it has reached, unless the value is nothing. -/
def followFrom (engine : Engine) (sources : List Source) (v : Value) (listed : Bool) (segments : List Segment) :
    LoopM (List Value) :=
  if v.isNull then pure [] else engine.followTarget sources (some v) listed segments

/-- A target follows its segments from a value that stands for itself. -/
theorem StandsForItself.followFrom {v : Value} (h : engine.StandsForItself sources v) (params : Entries)
    (segments : List Segment) :
    (engine.reachedIfAny sources v params >>= fun found => match found with
      | none => pure []
      | some (w, listed) => engine.followTarget sources (some w) listed segments) =
      engine.followFrom sources v v.isList segments := by
  rw [h.reachedIfAny, pure_bind]
  unfold Engine.followFrom
  cases v.isNull <;> rfl

/-- A target whose root is no preset starts with what the root resolves to. -/
theorem stepTo_root {root : String} (unknown : engine.loops.knows (.text root) = false) :
    engine.stepTo sources none (.key root) =
      ofExcept (engine.valueOf sources root true) >>= fun v => engine.reachedIfAny sources v [] := by
  show (if engine.loops.knows (.text root) = true then _ else _) = _
  rw [unknown]
  rfl

/-- Before a list a call is a key with parameters. -/
theorem stepTo_some (engine : Engine) (sources : List Source) (v : Value) (segment : Segment) :
    engine.stepTo sources (some v) segment =
      ofExcept (engine.callParams sources segment.args) >>= fun params =>
        engine.reachedIfAny sources ((v.lookup? segment.name).getD .null) params :=
  rfl

/-- A name that means no preset is the source that a target starts from. -/
theorem followTarget_root {root : String} (unknown : engine.loops.knows (.text root) = false)
    (again : (Expression.ofText root).segments = [.key root])
    (itself : ∀ v, findSource? root sources = some v → engine.StandsForItself sources v) (segments : List Segment) :
    engine.followTarget sources none false (.key root :: segments) =
      match findSource? root sources with
      | none => pure []
      | some v => engine.followFrom sources v v.isList segments := by
  have alone : engine.valueOf sources root true = (findSource? root sources).elim (.ok .null) (settle true) := by
    unfold valueOf
    rw [resolve_ofText, resolveWith_eq again]
    cases findSource? root sources <;> rfl
  unfold followTarget
  rw [stepTo_root unknown, alone]
  cases found : findSource? root sources with
  | none => rfl
  | some v =>
    have kept : settle true v = .ok v := by
      unfold settle
      rw [(itself v found).noLoop]
      rfl
    rw [Option.elim_some, kept]
    exact (itself v found).followFrom [] segments

/-- A target with a key in front goes on from what the key leads to. -/
theorem followTarget_key {v : Value} (inert : engine.Inert sources v) (name : String) (segments : List Segment) :
    engine.followTarget sources (some v) false (.key name :: segments) =
      match v.lookup? name with
      | none => pure []
      | some w => engine.followFrom sources w w.isList segments := by
  have step : engine.stepTo sources (some v) (.key name) =
      engine.reachedIfAny sources ((v.lookup? name).getD .null) [] := rfl
  unfold followTarget
  rw [step]
  cases there : v.lookup? name with
  | none => exact standsForItself_null.followFrom [] segments
  | some w => exact (inert.of_lookup? there).standsForItself.followFrom [] segments

/-- Null is the one value that is null. -/
theorem isNull_iff {v : Value} : v.isNull = true ↔ v = .null := by
  cases v <;> simp [Value.isNull]

/-- From a value on, null or not, a target goes on as an expression does. -/
theorem followFrom_eq {w : Value} {listed : Bool} {segments : List Segment}
    (placed : engine.WellPlaced sources w listed segments)
    (rest : engine.followTarget sources (some w) listed segments =
      ofExcept (itemsOf <$> engine.walked sources w segments)) :
    engine.followFrom sources w listed segments = ofExcept (itemsOf <$> engine.walked sources w segments) := by
  unfold followFrom
  cases null : w.isNull with
  | true =>
    obtain rfl := isNull_iff.mp null
    rw [walked_null placed]
    rfl
  | false => exact rest

/-- A target with a call in front goes on from what the call comes to. -/
theorem followTarget_call (engine : Engine) (sources : List Source) (v : Value) (name : String) (args : List Argument)
    (segments : List Segment) :
    engine.followTarget sources (some v) true (.call name args :: segments) =
      ofExcept (applyModifier engine.modifiers sources v name args) >>= fun w =>
        engine.followFrom sources w true segments := by
  unfold followFrom
  rw [followTarget]
  dsimp only [stepBehind]
  cases applyModifier engine.modifiers sources v name args <;> rfl

/-- Behind a list a target goes on as an expression does: an induction on the segments. -/
theorem followTarget_listed {v : Value} (plain : v.NoLoops) {segments : List Segment}
    (placed : engine.WellPlaced sources v true segments) :
    engine.followTarget sources (some v) true segments = ofExcept (itemsOf <$> engine.walked sources v segments) := by
  induction segments generalizing v with
  | nil =>
    rw [walked_nil plain.ofValue?]
    rfl
  | cons segment segments ih =>
    cases segment with
    | key name =>
      unfold followTarget
      rw [walked_key plain.ofValue?]
      dsimp only [stepBehind]
      cases there : v.lookup? name with
      | none => rfl
      | some w => exact followFrom_eq (placed w there) (ih (plain.of_lookup? there) (placed w there))
    | call name args =>
      obtain ⟨-, -, next⟩ := placed
      rw [walked_call plain.ofValue?, followTarget_call]
      cases applied : applyModifier engine.modifiers sources v name args with
      | error f => rfl
      | ok w =>
        obtain ⟨plain, placed⟩ := next w applied
        exact followFrom_eq placed (ih plain placed)

/-- Before a list a target goes by keys as an expression does: an induction on the segments, up to the first list. -/
theorem followTarget_inert {v : Value} (inert : engine.Inert sources v) {segments : List Segment}
    (placed : engine.WellPlaced sources v v.isList segments) :
    engine.followTarget sources (some v) v.isList segments =
      ofExcept (itemsOf <$> engine.walked sources v segments) := by
  induction segments generalizing v with
  | nil =>
    rw [walked_nil inert.noLoops.ofValue?]
    cases v.isList <;> rfl
  | cons segment segments ih =>
    cases listed : v.isList with
    | true =>
      -- From here on the target is behind a list.
      rw [listed] at placed
      exact followTarget_listed inert.noLoops placed
    | false =>
      rw [listed] at placed
      cases segment with
      | call name args => cases placed.1
      | key name =>
        rw [walked_key inert.noLoops.ofValue?, followTarget_key inert]
        cases there : v.lookup? name with
        | none => rfl
        | some w => exact followFrom_eq (placed w there) (ih (inert.of_lookup? there) (placed w there))

/-- A target without blanks around it has the items of the target. -/
theorem expressionItems_trimChars (engine : Engine) (sources : List Source) {target : String} {cs : List Char}
    (same : bareExpression (String.ofList cs) = bareExpression target) :
    engine.expressionItems sources cs = engine.followTarget sources none false (Expression.ofText target).segments := by
  unfold expressionItems Expression.ofText
  rw [same]

/-- Blanks around a text make no difference to its bare expression. -/
theorem bareExpression_trimChars (text : String) :
    bareExpression (String.ofList (Text.trimChars text.toList)) = bareExpression text := by
  unfold bareExpression
  rw [String.toList_ofList, trimChars_trimChars]

/-- A target that does not stand in brackets is followed along the segments of its expression. -/
theorem targetItems_of_unenclosed {target : String} (unenclosed : mayBeJson (Text.trimChars target.toList) = false)
    (engine : Engine) (sources : List Source) :
    engine.targetItems sources target =
      engine.followTarget sources none false (Expression.ofText target).segments := by
  unfold targetItems
  dsimp only
  rw [unenclosed]
  split
  · rename_i empty
    have nothing : bareExpression target = "" := by
      unfold bareExpression
      rw [List.isEmpty_iff.mp empty]
      rfl
    unfold Expression.ofText
    rw [nothing]
    rfl
  · rw [if_neg Bool.false_ne_true]
    exact engine.expressionItems_trimChars sources (bareExpression_trimChars target)

/-- A plain target has the items that its segments lead to. -/
theorem PlainTarget.targetItems {target : String} (plain : engine.PlainTarget target) (sources : List Source) :
    engine.targetItems sources target =
      engine.followTarget sources none false (Expression.ofText target).segments := by
  cases json : mayBeJson (Text.trimChars target.toList) with
  | false => exact targetItems_of_unenclosed json engine sources
  | true =>
    obtain ⟨unread, inner, enclosed, single⟩ := plain.enclosed json
    have filled : (Text.trimChars target.toList).isEmpty = false := by
      cases shape : Text.trimChars target.toList with
      | nil =>
        rw [shape] at json
        cases json
      | cons c cs => rfl
    unfold Engine.targetItems
    dsimp only
    rw [filled, json, unread, enclosed, if_neg Bool.false_ne_true, if_pos rfl]
    apply engine.expressionItems_trimChars sources
    unfold bareExpression
    rw [String.toList_ofList, trimChars_trimChars]
    dsimp only
    rw [single, enclosed]

end Engine

/-- The value of a source that is found is that of one of the sources. -/
theorem mem_of_findSource? {root : String} {sources : List Source} {v : Value}
    (found : findSource? root sources = some v) : ∃ source ∈ sources, source.value = v := by
  obtain ⟨source, there, rfl⟩ := Option.map_eq_some_iff.mp found
  exact ⟨source, List.mem_reverse.mp (List.mem_of_find?_eq_some there), rfl⟩

/-- The items of a target are those of its value as an expression, as long as the sources hold nothing that a target
takes for more than it is, and calls stand behind lists. The modifiers may be any. -/
theorem Engine.targetItems_eq_itemsOf_valueOf (engine : Engine) {sources : List Source} {target : String}
    (plain : engine.PlainTarget target) (inert : ∀ source ∈ sources, engine.Inert sources source.value)
    (placed : ∀ v, findSource? (Expression.ofText target).root sources = some v →
      engine.WellPlaced sources v v.isList ((Expression.ofText target).segments.drop 1)) (s : LoopState) :
    engine.targetItems sources target s = (itemsOf <$> engine.valueOf sources target false, s) := by
  rw [plain.targetItems]
  cases read : (Expression.ofText target).segments with
  | nil =>
    have nothing : engine.valueOf sources target false = .ok .null := by
      unfold valueOf
      rw [resolve_ofText]
      unfold Expression.resolveWith
      rw [read]
      rfl
    rw [nothing]
    rfl
  | cons segment segments =>
    obtain ⟨name, again, unknown⟩ := plain.root segment (by rw [read]; rfl)
    generalize segment.name = root at name again unknown
    subst name
    have rooted : (Expression.ofText target).root = root := by
      unfold Expression.root
      rw [read]
      rfl
    rw [rooted, read] at placed
    have inert : ∀ v, findSource? root sources = some v → engine.Inert sources v := by
      intro v found
      obtain ⟨source, there, rfl⟩ := mem_of_findSource? found
      exact inert source there
    rw [valueOf_eq engine sources read,
      followTarget_root unknown again fun v found => (inert v found).standsForItself]
    cases found : findSource? root sources with
    | none => rfl
    | some v =>
      have rest := followFrom_eq (placed v found) (followTarget_inert (inert v found) (placed v found))
      exact congrFun rest s

/-! ## Where targets part from expressions -/

namespace Engine

variable {engine : Engine} {sources : List Source}

/-- A value without the key that is called ends the target. -/
theorem followTarget_call_of_missing {v : Value} {name : String} {args : List Argument} {params : Entries}
    (given : engine.callParams sources args = .ok params) (missing : v.lookup? name = none) (segments : List Segment) :
    engine.followTarget sources (some v) false (.call name args :: segments) = pure [] := by
  unfold followTarget
  rw [stepTo_some]
  dsimp only [Segment.args, Segment.name]
  rw [given, missing]
  exact standsForItself_null.followFrom params segments

/-- Behind a list nothing ends the target, whatever is called on it. -/
theorem followTarget_call_of_null {v : Value} {name : String} {args : List Argument}
    (nothing : applyModifier engine.modifiers sources v name args = .ok .null) (segments : List Segment) :
    engine.followTarget sources (some v) true (.call name args :: segments) = pure [] := by
  rw [followTarget_call, nothing]
  rfl

/-- A root that means nothing when it is read again ends the target, whether there is such a source or not. -/
theorem followTarget_root_of_null {root : String} (unknown : engine.loops.knows (.text root) = false)
    (nothing : engine.valueOf sources root true = .ok .null) (segments : List Segment) :
    engine.followTarget sources none false (.key root :: segments) = pure [] := by
  unfold followTarget
  rw [stepTo_root unknown, nothing]
  exact standsForItself_null.followFrom [] segments

end Engine

/-- A service without presets knows no names. -/
theorem LoopService.knows_of_empty {service : LoopService} (empty : service.presets = []) (name : Value) :
    service.knows name = false := by
  have nothing : service.idOf? name = none := by
    unfold idOf? idOfKey?
    rw [empty]
    cases name with
    | text s =>
      dsimp only
      split <;> rfl
    | _ => rfl
  unfold knows
  rw [nothing]
  rfl

/-- An engine with the modifiers of the library and no presets. -/
def bareEngine : Engine :=
  ⟨builtinModifiers, ⟨[], defaultHandlers, none, Digest.sha256⟩⟩

/-- A line of text and tags. -/
def tagged : Value :=
  .map [(.text "csv", .text "a,b"), (.text "tags", .list [.text "x", .text "y"]), (.text "empty", .list [])]

/-- A page with these, and a source whose name has a point in it. -/
def taggedPage : List Source :=
  [⟨.text "page", tagged⟩, ⟨.text "a.b", .list [.text "z"]⟩]

/-- The page is found among the sources. -/
theorem findSource?_page : findSource? "page" taggedPage = some tagged := by cbv

/-- The tags are found on the page. -/
theorem lookup?_tags : tagged.lookup? "tags" = some (.list [.text "x", .text "y"]) := by cbv

/-- A text that names no collection is inert on the page. -/
theorem inert_text_taggedPage {s : String} (noCollection : bareEngine.collection? taggedPage s = .ok none) :
    bareEngine.Inert taggedPage (.text s) :=
  .text (LoopService.knows_of_empty rfl _) noCollection

/-- Everything on the page is inert. -/
theorem inert_taggedPage : ∀ source ∈ taggedPage, bareEngine.Inert taggedPage source.value := by
  intro source there
  simp only [taggedPage, List.mem_cons, List.not_mem_nil, or_false] at there
  rcases there with rfl | rfl
  · apply Engine.Inert.map (by cbv)
    intro entry inside
    simp only [List.mem_cons, List.not_mem_nil, or_false] at inside
    rcases inside with rfl | rfl | rfl
    · exact inert_text_taggedPage (by cbv)
    · apply Engine.Inert.list
      intro item inside
      simp only [List.mem_cons, List.not_mem_nil, or_false] at inside
      rcases inside with rfl | rfl
      · exact inert_text_taggedPage (by cbv)
      · exact inert_text_taggedPage (by cbv)
    · exact .list fun item inside => absurd inside List.not_mem_nil
  · apply Engine.Inert.list
    intro item inside
    obtain rfl := List.mem_singleton.mp inside
    exact inert_text_taggedPage (by cbv)

/-- A target of keys and calls that is no JSON is a plain one. -/
theorem plainTarget_bareEngine {target root : String} {segments : List Segment}
    (unenclosed : Engine.mayBeJson (Text.trimChars target.toList) = false)
    (read : (Expression.ofText target).segments = .key root :: segments)
    (again : (Expression.ofText root).segments = [.key root]) : bareEngine.PlainTarget target := by
  constructor
  · intro json
    rw [unenclosed] at json
    cases json
  · intro segment first
    rw [read] at first
    obtain rfl := Option.some.inj first
    exact ⟨rfl, again, LoopService.knows_of_empty rfl _⟩

/-- The page is named by a single segment. -/
theorem segments_page : (Expression.ofText "page").segments = [.key "page"] := by cbv

/-- The tags in reverse, as a target and as an expression. -/
theorem targetItems_taggedPage :
    bareEngine.targetItems taggedPage "page.tags.reverse()" .start =
        (itemsOf <$> bareEngine.valueOf taggedPage "page.tags.reverse()" false, .start) ∧
      bareEngine.valueOf taggedPage "page.tags.reverse()" false = .ok (.list [.text "y", .text "x"]) := by
  have segments : (Expression.ofText "page.tags.reverse()").segments =
      [.key "page", .key "tags", .call "reverse" []] := by cbv
  have plain : bareEngine.PlainTarget "page.tags.reverse()" :=
    plainTarget_bareEngine (by cbv) segments segments_page
  have root : (Expression.ofText "page.tags.reverse()").root = "page" := by
    unfold Expression.root
    rw [segments]
    rfl
  have reversed : applyModifier bareEngine.modifiers taggedPage (.list [.text "x", .text "y"]) "reverse" [] =
      .ok (.list [.text "y", .text "x"]) := by cbv
  have texts : bareEngine.Inert taggedPage (.list [.text "y", .text "x"]) := by
    apply Engine.Inert.list
    intro item inside
    simp only [List.mem_cons, List.not_mem_nil, or_false] at inside
    rcases inside with rfl | rfl
    · exact inert_text_taggedPage (by cbv)
    · exact inert_text_taggedPage (by cbv)
  refine ⟨bareEngine.targetItems_eq_itemsOf_valueOf plain inert_taggedPage ?_ .start, by cbv⟩
  rw [root, segments, findSource?_page]
  intro v found w there
  obtain rfl := Option.some.inj found
  obtain rfl := Option.some.inj (lookup?_tags.symm.trans there)
  refine ⟨rfl, rfl, fun w applied => ?_⟩
  obtain rfl := Except.ok.inj (reversed.symm.trans applied)
  exact ⟨texts.noLoops, trivial⟩

/-- A target follows its segments from a field of the page. -/
theorem followTarget_page {name : String} {w : Value} (there : tagged.lookup? name = some w)
    (segments : List Segment) :
    bareEngine.followTarget taggedPage none false (.key "page" :: .key name :: segments) =
      bareEngine.followFrom taggedPage w w.isList segments := by
  have inert : bareEngine.Inert taggedPage tagged := inert_taggedPage ⟨.text "page", tagged⟩ List.mem_cons_self
  have only (v : Value) (found : findSource? "page" taggedPage = some v) : bareEngine.StandsForItself taggedPage v := by
    obtain rfl := Option.some.inj (findSource?_page.symm.trans found)
    exact inert.standsForItself
  rw [Engine.followTarget_root (LoopService.knows_of_empty rfl _) segments_page only, findSource?_page]
  show bareEngine.followTarget taggedPage (some tagged) false (.key name :: segments) = _
  rw [Engine.followTarget_key inert, there]

/-- A target is not what it is as an expression where a call stands before a list, where one stands behind nothing,
where one comes to a loop reference, where the target stands in brackets, and where its root is a name with a point
in it. -/
theorem targetItems_ne_valueOf :
    (∀ source ∈ taggedPage, bareEngine.Inert taggedPage source.value) ∧
      ((bareEngine.targetItems taggedPage "page.csv.split(',')" .start).1 = .ok [] ∧
        itemsOf <$> bareEngine.valueOf taggedPage "page.csv.split(',')" false = .ok [.text "a", .text "b"]) ∧
      ((bareEngine.targetItems taggedPage "page.empty.first().default([\"x\"])" .start).1 = .ok [] ∧
        itemsOf <$> bareEngine.valueOf taggedPage "page.empty.first().default([\"x\"])" false = .ok [.text "x"]) ∧
      ((bareEngine.targetItems taggedPage "page.empty.default(\x7b\"prop-type\":\"loop\"\x7d)" .start).1.map
          List.length = .ok 1 ∧
        itemsOf <$> bareEngine.valueOf taggedPage "page.empty.default(\x7b\"prop-type\":\"loop\"\x7d)" false =
          .ok []) ∧
      ((bareEngine.targetItems taggedPage "[page]" .start).1 = .ok [] ∧
        itemsOf <$> bareEngine.valueOf taggedPage "[page]" false = .ok [tagged]) ∧
      ((bareEngine.targetItems taggedPage "['a.b'].reverse()" .start).1 = .ok [] ∧
        itemsOf <$> bareEngine.valueOf taggedPage "['a.b'].reverse()" false = .ok [.text "z"]) := by
  refine ⟨inert_taggedPage, ⟨?_, by cbv⟩, ⟨?_, by cbv⟩, ⟨?_, by cbv⟩, ⟨?_, by cbv⟩, ⟨?_, by cbv⟩⟩
  · have segments : (Expression.ofText "page.csv.split(',')").segments =
        [.key "page", .key "csv", .call "split" [⟨"','", none⟩]] := by cbv
    rw [(plainTarget_bareEngine (by cbv) segments segments_page).targetItems, segments,
      followTarget_page (w := .text "a,b") (by cbv)]
    show (bareEngine.followTarget taggedPage (some (.text "a,b")) false _ .start).1 = _
    have given : bareEngine.callParams taggedPage [⟨"','", none⟩] = .ok [] := rfl
    rw [Engine.followTarget_call_of_missing given (by cbv)]
    rfl
  · have segments : (Expression.ofText "page.empty.first().default([\"x\"])").segments =
        [.key "page", .key "empty", .call "first" [], .call "default" [⟨"[\"x\"]", none⟩]] := by cbv
    rw [(plainTarget_bareEngine (by cbv) segments segments_page).targetItems, segments,
      followTarget_page (w := .list []) (by cbv)]
    show (bareEngine.followTarget taggedPage (some (.list [])) true _ .start).1 = _
    rw [Engine.followTarget_call_of_null (by cbv)]
    rfl
  · have segments : (Expression.ofText "page.empty.default(\x7b\"prop-type\":\"loop\"\x7d)").segments =
        [.key "page", .key "empty", .call "default" [⟨"\x7b\"prop-type\":\"loop\"\x7d", none⟩]] := by cbv
    rw [(plainTarget_bareEngine (by cbv) segments segments_page).targetItems, segments,
      followTarget_page (w := .list []) (by cbv)]
    cbv
  · have unread : Json.read? "[page]" = none := Option.isNone_iff_eq_none.mp rfl
    have trimmed : Text.trimChars "[page]".toList = "[page]".toList := by cbv
    have enclosed : Engine.mayBeJson "[page]".toList = true := by cbv
    have filled : "[page]".toList.isEmpty = false := by cbv
    have unbraced : standalone? "[page]".toList = none := by cbv
    unfold Engine.targetItems
    rw [trimmed, filled, enclosed, String.ofList_toList, unread, unbraced]
    rfl
  · have segments : (Expression.ofText "['a.b'].reverse()").segments = [.key "a.b", .call "reverse" []] := by cbv
    have nothing : bareEngine.valueOf taggedPage "a.b" true = .ok .null := by cbv
    rw [Engine.targetItems_of_unenclosed (by cbv), segments,
      Engine.followTarget_root_of_null (LoopService.knows_of_empty rfl _) nothing]
    rfl

end DynamicBlocks
