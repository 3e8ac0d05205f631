import DynamicBlocks.Proofs.Answers
import DynamicBlocks.Proofs.TargetValues
import DynamicBlocks.Proofs.WrittenCalls
import DynamicBlocks.Render.Settings

/-!
# Two ways to loop over a preset

A loop may name its preset, with parameters beside it and calls in its target, or have the call of the preset with the
same parameters and calls written out as its target. Both ask for the same items and apply the same calls to them. They
differ in what they do with the outcome: where the preset is named, what is no list leaves the items of the preset as
they were, while a target goes over a mapping as a single item and over nothing else. And a target is given up as soon
as one of its calls comes to nothing.
-/

set_option autoImplicit false

namespace DynamicBlocks

namespace RenderM

/-- The items that a loop goes over (`renderLoop_eq`). -/
def loopItems (env : Environment) (block : Block) (sources : List Source) : RenderM (List Value) := do
  let data ← loopData env block sources
  ofExcept data.seriesOrNone

/-- A loop renders the blocks inside it for the items that it goes over. -/
theorem renderLoop_eq (env : Environment) (block : Block) (inner : RenderM String) :
    renderLoop env block inner = sourcesOf block >>= fun sources =>
      loopItems env block sources >>= fun items => renderItems block inner 0 items := by
  unfold renderLoop loopItems
  simp only [bind_assoc]

/-- An action of the engine and the next one are taken over one after the other. -/
theorem ofLoops_bind {α β : Type} (action : LoopM α) (next : α → LoopM β) :
    ofLoops (action >>= next) = ofLoops action >>= fun x => ofLoops (next x) := by
  funext s
  rcases done : action s.loops with ⟨outcome, loops⟩
  have after : (action >>= next) s.loops = ExceptT.bindCont next outcome loops := by
    show ExceptT.bindCont next (action s.loops).1 (action s.loops).2 = _
    rw [done]
  have first : ofLoops action s = (outcome, { s with loops := loops }) := by
    unfold ofLoops
    rw [done]
  cases outcome with
  | error f =>
    rw [bind_of_error first]
    unfold ofLoops
    rw [after]
    rfl
  | ok x =>
    rw [bind_of_ok first]
    unfold ofLoops
    rw [after]
    rfl

/-- A loop without a name loops over the items of its target. -/
theorem loopItems_of_target {env : Environment} {block : Block} (unnamed : block.loopId? = none)
    (sources : List Source) :
    loopItems env block sources = ofLoops (env.engine.targetItems sources block.loopTarget) := by
  unfold loopItems loopData
  rw [unnamed]
  dsimp only
  rw [bind_map_left]
  simp only [Value.seriesOrNone_list]
  exact bind_pure _

/-- What is made of the outcome of an action makes a difference only where the action succeeds. -/
theorem bind_ofExcept_eq_iff {α β : Type} {action : RenderM α} {f g : α → Except Failure β} {s : Session} :
    (action >>= fun x => ofExcept (f x)) s = (action >>= fun x => ofExcept (g x)) s ↔
      ∀ x t, action s = (.ok x, t) → f x = g x := by
  rcases done : action s with ⟨outcome, t⟩
  cases outcome with
  | error e =>
    rw [bind_of_error done, bind_of_error done]
    exact ⟨fun _ x t found => absurd (congrArg Prod.fst found) nofun, fun _ => rfl⟩
  | ok x =>
    rw [bind_of_ok done, bind_of_ok done]
    constructor
    · intro same y t' found
      obtain rfl := Except.ok.inj (congrArg Prod.fst found)
      exact congrArg Prod.fst same
    · intro same
      exact congrArg (·, t) (same x t rfl)

end RenderM

namespace Engine

/-- A value with a call applied; keys leave it as it is. -/
def called (engine : Engine) (sources : List Source) (v : Value) : Segment → Except Failure Value
  | .call name args => applyModifier engine.modifiers sources v name args
  | .key _ => .ok v

/-- A value with calls applied, one after the other. -/
def chained (engine : Engine) (sources : List Source) (v : Value) (calls : List Segment) : Except Failure Value :=
  calls.foldlM (engine.called sources) v

/-- Whether a call other than the last comes to nothing. -/
def PassesNull (engine : Engine) (sources : List Source) : Value → List Segment → Prop
  | _, [] => False
  | v, call :: calls =>
    ∃ w, engine.called sources v call = .ok w ∧ (w.isNull = true ∧ calls ≠ [] ∨ engine.PassesNull sources w calls)

/-- What a loop that names its preset makes of its items. -/
def keptItems (engine : Engine) (sources : List Source) (calls : List Segment) (items : Value) :
    Except Failure (List Value) := do
  let v ← engine.chained sources items calls
  (if v.isList then v else items).seriesOrNone

variable {engine : Engine} {sources : List Source}

/-- What a target that only modifies makes of items: a chain of calls that has to end in a list. -/
theorem modifiedItems_eq (items : Value) (target : String) :
    engine.modifiedItems sources items target =
      engine.chained sources items (Expression.ofText target).segments >>= fun v =>
        pure (if v.isList then v else items) := by
  have step : (fun (v : Value) (segment : Segment) => match segment with
      | .call name args => applyModifier engine.modifiers sources v name args
      | .key _ => .ok v) = engine.called sources := by
    funext v segment
    cases segment <;> rfl
  exact congrArg (fun f => (Expression.ofText target).segments.foldlM f items >>= fun v =>
    pure (if v.isList then v else items)) step

/-- A chain applies its first call and then the others. -/
theorem chained_cons (v : Value) (call : Segment) (calls : List Segment) :
    engine.chained sources v (call :: calls) = engine.called sources v call >>= fun w =>
      engine.chained sources w calls := by
  unfold chained
  rw [List.foldlM_cons]

/-- Calls behind a list come to what they come to one after the other, unless one before the last comes to nothing: an
induction on the calls. -/
theorem followTarget_calls (engine : Engine) (sources : List Source) {calls : List Segment}
    (calling : ∀ call ∈ calls, call.isCall = true) (v : Value) :
    (engine.PassesNull sources v calls → engine.followTarget sources (some v) true calls = pure []) ∧
      (¬ engine.PassesNull sources v calls →
        engine.followTarget sources (some v) true calls = ofExcept (itemsOf <$> engine.chained sources v calls)) := by
  induction calls generalizing v with
  | nil => exact ⟨fun passes => passes.elim, fun _ => rfl⟩
  | cons call calls ih =>
    have ih := ih fun other there => calling other (List.mem_cons_of_mem call there)
    have first : engine.followTarget sources (some v) true (call :: calls) =
        ofExcept (engine.called sources v call) >>= fun w => engine.followFrom sources w true calls := by
      cases call with
      | key name => cases calling (.key name) List.mem_cons_self
      | call name args => exact engine.followTarget_call sources v name args calls
    rw [first, chained_cons]
    cases result : engine.called sources v call with
    | error f =>
      refine ⟨fun ⟨w, impossible, _⟩ => ?_, fun _ => rfl⟩
      rw [result] at impossible
      cases impossible
    | ok w =>
      have here : engine.PassesNull sources v (call :: calls) ↔
          w.isNull = true ∧ calls ≠ [] ∨ engine.PassesNull sources w calls := by
        refine ⟨fun ⟨x, same, passes⟩ => ?_, fun passes => ⟨w, result, passes⟩⟩
        obtain rfl := Except.ok.inj (result.symm.trans same)
        exact passes
      show (_ → engine.followFrom sources w true calls = _) ∧ (_ → engine.followFrom sources w true calls = _)
      rw [here]
      unfold followFrom
      cases null : w.isNull with
      | false =>
        constructor
        · intro passes
          exact (ih w).1 (passes.resolve_left fun h => by cases h.1)
        · intro straight
          exact (ih w).2 fun passes => straight (.inr passes)
      | true =>
        refine ⟨fun _ => rfl, fun straight => ?_⟩
        cases calls with
        | nil =>
          obtain rfl := isNull_iff.mp null
          rfl
        | cons next calls => exact absurd (.inl ⟨rfl, List.cons_ne_nil next calls⟩) straight

/-- Items are kept unless calls come to a list, so they are the items of what calls come to exactly if that is a list or
goes for the same items. -/
theorem keptItems_eq_iff (calls : List Segment) (items : Value) :
    engine.keptItems sources calls items = itemsOf <$> engine.chained sources items calls ↔
      ∀ v, engine.chained sources items calls = .ok v → v.isList = true ∨ items.seriesOrNone = .ok (itemsOf v) := by
  unfold keptItems
  cases engine.chained sources items calls with
  | error f => exact ⟨fun _ v impossible => (nomatch impossible), fun _ => rfl⟩
  | ok v =>
    show (if v.isList = true then v else items).seriesOrNone = .ok (itemsOf v) ↔ _
    cases listed : v.isList with
    | false =>
      constructor
      · intro same w found
        obtain rfl := Except.ok.inj found
        exact .inr same
      · intro same
        exact (same v rfl).resolve_left (by rw [listed]; decide)
    | true =>
      constructor
      · intro _ w found
        obtain rfl := Except.ok.inj found
        exact .inl listed
      · intro _
        cases v with
        | list found => exact Value.seriesOrNone_list found
        | _ => cases listed

/-- A text that starts with a word character is not taken for JSON. -/
theorem mayBeJson_trimChars_cons {c : Char} (word : Text.isWord c = true) (cs : List Char) :
    mayBeJson (Text.trimChars (c :: cs)) = false := by
  have other {d : Char} (special : Text.isWord d = false) : (some c == some d) = false := by
    rw [beq_eq_false_iff_ne]
    rintro ⟨⟩
    rw [special] at word
    cases word
  rw [trimChars_cons (isBlank_of_isWord word)]
  unfold mayBeJson
  rw [List.head?_cons, other (by decide), other (by decide)]
  rfl

/-- The parameters written in a call are those beside a name, with a dollar sign in front. -/
theorem givenParams_written (engine : Engine) (sources : List Source) (params : List WrittenParam) :
    engine.givenParams sources (.map (params.map fun param => (.text param.name, .text param.text))) =
      engine.callParams sources (params.map WrittenParam.toArgument) := by
  have named : namedArgs (params.map WrittenParam.toArgument) = params.map WrittenParam.toArgument := by
    apply List.filter_eq_self.mpr
    intro arg there
    obtain ⟨param, _, rfl⟩ := List.mem_map.mp there
    rfl
  have entries (all : Entries) :
      engine.givenParams sources (.map all) = all.foldlM (engine.addParam sources) [] := by
    cases all <;> rfl
  unfold callParams
  rw [entries, named, List.foldlM_map, List.foldlM_map]
  refine congrArg (fun step => List.foldlM step [] params) (funext fun known => funext fun param => ?_)
  obtain ⟨c, cs, shape, starts⟩ : ∃ c cs, param.name.toList = c :: cs ∧ startsKeyword c = true := by
    have named := param.named
    cases shape : param.name.toList with
    | nil =>
      rw [shape] at named
      cases named
    | cons c cs =>
      rw [shape] at named
      exact ⟨c, cs, rfl, (Bool.and_eq_true_iff.mp named).1⟩
  have undollared : c ≠ '$' := by
    rintro rfl
    exact absurd starts (by decide)
  -- With a dollar sign in front the name is neither empty nor a dollar sign alone, so neither reader drops it.
  have name : dollarName? param.name = some ("$" ++ param.name) := by
    unfold dollarName?
    rw [shape, List.all_cons, beq_false_of_ne undollared, List.head?_cons,
      if_neg (fun same => undollared (Option.some.inj same))]
    rfl
  have plain : ¬ ("$" ++ param.name = "" ∨ "$" ++ param.name = "$") := by
    have length : ("$" ++ param.name).toList.length = cs.length + 2 := by
      rw [String.toList_append, shape]
      rfl
    rintro (same | same)
    · rw [same] at length
      cases length
    · rw [same] at length
      have length : 1 = cs.length + 2 := length
      omega
  unfold addParam WrittenParam.toArgument
  dsimp only
  rw [name, if_neg plain]

end Engine

/-- A loop that names a preset, with parameters beside the name and calls in its target. -/
structure Block.NamesPreset (block : Block) (name : String) (params : List WrittenParam) (chain : String) : Prop where
  id : block.loopId? = some name
  given : Entries.field block.attrs "loopParams" =
    .map (params.map fun param => (.text param.name, .text param.text))
  target : block.loopTarget = "." ++ chain

/-- A loop whose target is the call of a preset with parameters and calls behind it. -/
structure Block.CallsPreset (block : Block) (name : String) (params : List WrittenParam) (chain : String) : Prop where
  id : block.loopId? = none
  target : block.loopTarget = String.ofList (callChars name params) ++ "." ++ chain

namespace RenderM

/-- The items of a preset for parameters. -/
def presetItems (env : Environment) (sources : List Source) (name : String) (params : List WrittenParam) :
    RenderM Value := do
  let given ← ofExcept (env.engine.callParams sources (params.map WrittenParam.toArgument))
  ofLoops (env.engine.presetItems name given)

variable {env : Environment} {block : Block} {name : String} {params : List WrittenParam} {chain : String}

/-- A name is its own loop name. -/
theorem loopName_of_isName (named : isName name.toList = true) : loopName name = name := by
  have unopened : name.toList.contains '(' = false := by
    rw [Bool.eq_false_iff]
    intro opened
    exact absurd (isWord_of_mem_name named '(' (List.contains_iff_mem.mp opened)) (by decide)
  unfold loopName
  rw [trimChars_key (isKey_of_isName named)]
  dsimp only
  rw [unopened, String.ofList_toList]
  rfl

/-- Where a preset is named, its items are asked for and then changed by the calls. -/
theorem loopItems_of_namesPreset (written : block.NamesPreset name params chain) (named : isName name.toList = true)
    (sources : List Source) :
    loopItems env block sources = presetItems env sources name params >>= fun items =>
      ofExcept (env.engine.keptItems sources (Expression.ofText ("." ++ chain)).segments items) := by
  have filled : "." ++ chain ≠ "" := by
    intro empty
    have lengths := congrArg String.length empty
    rw [String.length_append] at lengths
    exact absurd lengths (by simp)
  have kept (items : Value) :
      (ofExcept (env.engine.modifiedItems sources items ("." ++ chain)) >>= fun data => ofExcept data.seriesOrNone) =
        ofExcept (env.engine.keptItems sources (Expression.ofText ("." ++ chain)).segments items) := by
    rw [Engine.modifiedItems_eq]
    unfold Engine.keptItems
    cases env.engine.chained sources items (Expression.ofText ("." ++ chain)).segments <;> rfl
  unfold loopItems loopData presetItems Engine.presetItems
  rw [written.id, written.given, written.target]
  dsimp only
  rw [Engine.givenParams_written, loopName_of_isName named]
  simp only [filled, if_false, bind_assoc, kept]

/-- Where the call of a preset is written out, its items are asked for and then the rest of the target is followed. -/
theorem loopItems_of_callsPreset (written : block.CallsPreset name params chain) (named : isName name.toList = true)
    (known : env.engine.loops.knows (.text name) = true) (sources : List Source) :
    loopItems env block sources = presetItems env sources name params >>= fun items =>
      ofLoops (env.engine.followTarget sources (some items) true (Expression.ofText ("." ++ chain)).segments) := by
  have unenclosed : Engine.mayBeJson (Text.trimChars block.loopTarget.toList) = false := by
    obtain ⟨c, cs, shape, word⟩ := exists_cons_of_isName named
    have front : block.loopTarget.toList = c :: (cs ++ '(' :: paramsChars params ++ ')' :: '.' :: chain.toList) := by
      rw [written.target, String.toList_append, String.toList_append, String.toList_ofList, callChars, shape]
      simp
    rw [front]
    exact Engine.mayBeJson_trimChars_cons word _
  have followed (segments : List Segment) :
      env.engine.followTarget sources none false (.call name (params.map WrittenParam.toArgument) :: segments) =
        DynamicBlocks.ofExcept (env.engine.callParams sources (params.map WrittenParam.toArgument)) >>= fun given =>
          env.engine.presetItems name given >>= fun items =>
            env.engine.followTarget sources (some items) true segments := by
    rw [Engine.followTarget]
    · unfold Engine.stepTo
      dsimp only [Segment.args, Segment.name]
      simp only [known, if_true, bind_assoc, pure_bind]
    · intro v impossible
      cases impossible
  rw [loopItems_of_target written.id, Engine.targetItems_of_unenclosed unenclosed, written.target,
    segments_call_dot named, followed, ofLoops_bind]
  unfold presetItems
  rw [bind_assoc]
  apply bind_congr
  intro given
  rw [ofLoops_bind]

/-- What calls behind a list come to, and when it is what a loop makes of them that names the preset. -/
theorem exists_outcome_of_calls (env : Environment) (sources : List Source) {calls : List Segment}
    (calling : ∀ call ∈ calls, call.isCall = true) (items : Value) :
    ∃ outcome : Except Failure (List Value),
      ofLoops (env.engine.followTarget sources (some items) true calls) = ofExcept outcome ∧
        (env.engine.keptItems sources calls items = outcome ↔
          (¬ env.engine.PassesNull sources items calls → ∀ v, env.engine.chained sources items calls = .ok v →
              v.isList = true ∨ items.seriesOrNone = .ok (itemsOf v)) ∧
            (env.engine.PassesNull sources items calls → env.engine.keptItems sources calls items = .ok [])) := by
  obtain ⟨nothing, something⟩ := env.engine.followTarget_calls sources calling items
  by_cases passes : env.engine.PassesNull sources items calls
  · rw [nothing passes]
    exact ⟨.ok [], rfl, fun same => ⟨fun straight => absurd passes straight, fun _ => same⟩, fun h => h.2 passes⟩
  · rw [something passes]
    refine ⟨itemsOf <$> env.engine.chained sources items calls, rfl, ?_⟩
    rw [Engine.keptItems_eq_iff]
    exact ⟨fun same => ⟨fun _ => same, fun through => absurd through passes⟩, fun h => h.1 passes⟩

/-- Two loops over a preset, one that names it and one that calls it, with the same parameters and calls, go over the
same items exactly if, where no call before the last comes to nothing, the calls come to a list or to what goes for the
items of the preset, and, where one does, the loop that names the preset goes over nothing. -/
theorem loopItems_namesPreset_eq_iff {byName byCall : Block} (named : isName name.toList = true)
    (known : env.engine.loops.knows (.text name) = true) (first : byName.NamesPreset name params chain)
    (second : byCall.CallsPreset name params chain)
    (calling : ∀ call ∈ (Expression.ofText ("." ++ chain)).segments, call.isCall = true) (sources : List Source)
    (s : Session) :
    loopItems env byName sources s = loopItems env byCall sources s ↔
      ∀ items t, presetItems env sources name params s = (.ok items, t) →
        let calls := (Expression.ofText ("." ++ chain)).segments
        (¬ env.engine.PassesNull sources items calls → ∀ v, env.engine.chained sources items calls = .ok v →
            v.isList = true ∨ items.seriesOrNone = .ok (itemsOf v)) ∧
          (env.engine.PassesNull sources items calls → env.engine.keptItems sources calls items = .ok []) := by
  choose outcome followed using exists_outcome_of_calls env sources calling
  rw [loopItems_of_namesPreset first named, loopItems_of_callsPreset second named known,
    bind_congr fun items => (followed items).1, bind_ofExcept_eq_iff]
  exact forall_congr' fun items => forall_congr' fun t => imp_congr_right fun _ => (followed items).2

end RenderM

/-! ## A preset with items of its own -/

/-- A preset with data that stand in its configuration. -/
def postsPreset (data : Value) : LoopPreset :=
  ⟨"posts", .structuredData, [(.text "data", data)], "", ""⟩

/-- An environment with this preset. -/
def postsEnvironment (data : Value) : Environment :=
  { Environment.ofPatterns [] with
    engine := ⟨builtinModifiers, ⟨[("posts", postsPreset data)], defaultHandlers, none, Digest.sha256⟩⟩ }

/-- A parameter that is a text in quotes. -/
def kindParam : WrittenParam where
  name := "kind"
  text := "'x'"
  named := by decide
  trimmed := by decide
  closed := by decide
  uncut := ⟨some '\'', by decide⟩

/-- A loop over the preset by its name. -/
def postsByName (chain : String) : Block :=
  ⟨.text "loop", [(.text "loopId", .text "posts"), (.text "loopParams", .map [(.text "kind", .text "'x'")]),
    (.text "target", .text ("." ++ chain))], [], [], .tuple⟩

/-- A loop over the preset by its call. -/
def postsByCall (chain : String) : Block :=
  ⟨.text "loop", [(.text "target", .text ("posts($kind: 'x')" ++ "." ++ chain))], [], [], .tuple⟩

/-- The parameters of the call that is written in the loops of posts. -/
theorem callParams_kindParam (engine : Engine) (sources : List Source) :
    engine.callParams sources [kindParam.toArgument] = .ok [(.text "$kind", .text "x")] := by
  cbv

/-- The loop over posts that is named by its `loopId` names this preset. -/
theorem namesPreset_posts (chain : String) : (postsByName chain).NamesPreset "posts" [kindParam] chain where
  id := by cbv
  given := by cbv
  target := by
    have field : Entries.field (postsByName chain).attrs "target" = .text ("." ++ chain) := by cbv
    unfold Block.loopTarget
    rw [field]

/-- The loop over posts that calls them in its `target` calls this preset. -/
theorem callsPreset_posts (chain : String) : (postsByCall chain).CallsPreset "posts" [kindParam] chain where
  id := by cbv
  target := by
    have field : Entries.field (postsByCall chain).attrs "target" = .text ("posts($kind: 'x')" ++ "." ++ chain) := by
      cbv
    have call : String.ofList (callChars "posts" [kindParam]) = "posts($kind: 'x')" := by cbv
    unfold Block.loopTarget
    rw [field, call]

/-- The preset of posts is the one registered under its name. -/
theorem lookup_posts (data : Value) :
    (postsEnvironment data).engine.loops.presets.lookup "posts" = some (postsPreset data) :=
  List.lookup_cons_self

/-- Posts are found by their name. -/
theorem idOf?_posts (data : Value) : (postsEnvironment data).engine.loops.idOf? (.text "posts") = some "posts" := by
  have filled : Text.isBlankText "posts" = false := by decide
  have name : loopName "posts" = "posts" := RenderM.loopName_of_isName (by decide)
  unfold LoopService.idOf?
  dsimp only
  rw [filled, name, lookup_posts]
  rfl

/-- The engine knows posts. -/
theorem knows_posts (data : Value) : (postsEnvironment data).engine.loops.knows (.text "posts") = true := by
  unfold LoopService.knows
  rw [idOf?_posts]
  rfl

/-- What the preset has is found as long as nothing has been asked for. -/
theorem items_posts {data : Value} {params : Entries} {items : List Value} {text : String}
    (written : requestText "posts" params = .ok text) (bound : configuredItems (postsPreset data) params = .ok items) :
    ((postsEnvironment data).engine.loops.items (.text "posts") params .start).1 = .ok (.list items) := by
  have meant : (postsEnvironment data).engine.loops.preset? (.text "posts") = some (postsPreset data) := by
    unfold LoopService.preset?
    rw [idOf?_posts]
    exact lookup_posts data
  have found : (postsEnvironment data).engine.loops.found (postsPreset data) params = .list items := by
    have run : (LoopHandler.data.run none (postsPreset data) params).1 =
        .list <$> configuredItems (postsPreset data) params := rfl
    have handled : (postsEnvironment data).engine.loops.handlers.lookup (postsPreset data).type = some .data := rfl
    unfold LoopService.found
    rw [handled]
    dsimp only
    have answer : (LoopHandler.data.run (postsEnvironment data).engine.loops.backend (postsPreset data) params).1 =
        .ok (.list items) := by
      show (LoopHandler.data.run none (postsPreset data) params).1 = _
      rw [run, bound]
      rfl
    rw [answer]
  have request : requestText (postsPreset data).id params = .ok text := written
  rw [LoopService.items_fst, meant]
  unfold LoopService.answer
  dsimp only
  rw [request, found]
  rfl

/-- These are the items of the preset for a call at the start of a render. -/
theorem presetItems_posts {data : Value} {items : List Value}
    (bound : configuredItems (postsPreset data) [(.text "$kind", .text "x")] = .ok items) :
    ∃ t, RenderM.presetItems (postsEnvironment data) [] "posts" [kindParam] (.start .silent) = (.ok (.list items), t) := by
  have written : requestText "posts" [(.text "$kind", .text "x")] = .ok "posts\x00\x7b\"$kind\": \"x\"\x7d" := by cbv
  unfold RenderM.presetItems
  rw [List.map_singleton, callParams_kindParam]
  exact ⟨_, Prod.ext (items_posts written bound) rfl⟩

/-- Two posts, the first of a kind that is given. -/
def twoPosts : Value :=
  .list [.ofFields [("id", .text "$kind")], .ofFields [("id", .text "y")]]

/-- The two items posts are configured with, when their parameter is filled in. -/
theorem bound_twoPosts : configuredItems (postsPreset twoPosts) [(.text "$kind", .text "x")] =
    .ok [.ofFields [("id", .text "x")], .ofFields [("id", .text "y")]] := by
  cbv

/-- The items of the preset and what a loop that names it makes of them. -/
theorem fst_loopItems_postsByName {data : Value} {chain : String} {items : List Value}
    (bound : configuredItems (postsPreset data) [(.text "$kind", .text "x")] = .ok items) :
    (RenderM.loopItems (postsEnvironment data) (postsByName chain) [] (.start .silent)).1 =
      (postsEnvironment data).engine.keptItems [] (Expression.ofText ("." ++ chain)).segments (.list items) := by
  obtain ⟨t, found⟩ := presetItems_posts bound
  rw [RenderM.loopItems_of_namesPreset (namesPreset_posts chain) (by decide), RenderM.bind_of_ok found]
  rfl

/-- The items of the preset and what a loop that calls it makes of them. -/
theorem fst_loopItems_postsByCall {data : Value} {chain : String} {items : List Value}
    (bound : configuredItems (postsPreset data) [(.text "$kind", .text "x")] = .ok items)
    (calling : ∀ call ∈ (Expression.ofText ("." ++ chain)).segments, call.isCall = true) :
    (RenderM.loopItems (postsEnvironment data) (postsByCall chain) [] (.start .silent)).1 =
      ((postsEnvironment data).engine.followTarget [] (some (.list items)) true
        (Expression.ofText ("." ++ chain)).segments .start).1 := by
  obtain ⟨t, found⟩ := presetItems_posts bound
  rw [RenderM.loopItems_of_callsPreset (callsPreset_posts chain) (by decide) (knows_posts data),
    RenderM.bind_of_ok found]
  generalize (Expression.ofText ("." ++ chain)).segments = calls at calling
  obtain ⟨outcome, followed, _⟩ := RenderM.exists_outcome_of_calls (postsEnvironment data) [] calling (.list items)
  have here : ((postsEnvironment data).engine.followTarget [] (some (.list items)) true calls .start).1 = outcome :=
    congrArg Prod.fst (congrFun followed (.start .silent))
  rw [followed, here]
  rfl

/-- Both loops go over the posts in reverse. -/
theorem loopItems_posts_reverse :
    RenderM.loopItems (postsEnvironment twoPosts) (postsByName "reverse()") [] (.start .silent) =
        RenderM.loopItems (postsEnvironment twoPosts) (postsByCall "reverse()") [] (.start .silent) ∧
      (RenderM.loopItems (postsEnvironment twoPosts) (postsByName "reverse()") [] (.start .silent)).1 =
        .ok [.ofFields [("id", .text "y")], .ofFields [("id", .text "x")]] := by
  have segments : (Expression.ofText ("." ++ "reverse()")).segments = [.call "reverse" []] := by cbv
  have reversed : (postsEnvironment twoPosts).engine.chained []
      (.list [.ofFields [("id", .text "x")], .ofFields [("id", .text "y")]]) [.call "reverse" []] =
        .ok (.list [.ofFields [("id", .text "y")], .ofFields [("id", .text "x")]]) := by
    cbv
  constructor
  · refine (RenderM.loopItems_namesPreset_eq_iff (by decide) (knows_posts twoPosts) (namesPreset_posts _)
      (callsPreset_posts _) ?_ [] (.start .silent)).mpr fun items t found => ?_
    · rw [segments]
      decide
    · obtain ⟨_, there⟩ := presetItems_posts bound_twoPosts
      obtain rfl := Except.ok.inj (congrArg Prod.fst (found.symm.trans there))
      rw [segments]
      constructor
      · intro _ v chained
        obtain rfl := Except.ok.inj (reversed.symm.trans chained)
        exact .inl rfl
      · rintro ⟨w, called, null⟩
        rcases null with ⟨_, more⟩ | passes
        · exact absurd rfl more
        · exact passes.elim
  · rw [fst_loopItems_postsByName bound_twoPosts, segments]
    unfold Engine.keptItems
    rw [reversed]
    rfl

/-- The two loops go over different items where the calls come to a mapping, to a text or to nothing, and where a call
before the last does. -/
theorem loopItems_posts_ne :
    ((RenderM.loopItems (postsEnvironment twoPosts) (postsByName "first()") [] (.start .silent)).1 =
          .ok [.ofFields [("id", .text "x")], .ofFields [("id", .text "y")]] ∧
        (RenderM.loopItems (postsEnvironment twoPosts) (postsByCall "first()") [] (.start .silent)).1 =
          .ok [.ofFields [("id", .text "x")]]) ∧
      ((RenderM.loopItems (postsEnvironment twoPosts) (postsByName "join(',')") [] (.start .silent)).1 =
          .ok [.ofFields [("id", .text "x")], .ofFields [("id", .text "y")]] ∧
        (RenderM.loopItems (postsEnvironment twoPosts) (postsByCall "join(',')") [] (.start .silent)).1 = .ok []) ∧
      ((RenderM.loopItems (postsEnvironment twoPosts) (postsByName "first().first()") [] (.start .silent)).1 =
          .ok [.ofFields [("id", .text "x")], .ofFields [("id", .text "y")]] ∧
        (RenderM.loopItems (postsEnvironment twoPosts) (postsByCall "first().first()") [] (.start .silent)).1 = .ok []) ∧
      ((RenderM.loopItems (postsEnvironment (.list [])) (postsByName "first().default([\"z\"])") []
          (.start .silent)).1 = .ok [.text "z"] ∧
        (RenderM.loopItems (postsEnvironment (.list [])) (postsByCall "first().default([\"z\"])") []
          (.start .silent)).1 = .ok []) := by
  have empty : configuredItems (postsPreset (.list [])) [(.text "$kind", .text "x")] = .ok [] := by cbv
  have first : (Expression.ofText ("." ++ "first()")).segments = [.call "first" []] := by cbv
  have joined : (Expression.ofText ("." ++ "join(',')")).segments = [.call "join" [⟨"','", none⟩]] := by cbv
  have twice : (Expression.ofText ("." ++ "first().first()")).segments = [.call "first" [], .call "first" []] := by cbv
  have defaulted : (Expression.ofText ("." ++ "first().default([\"z\"])")).segments =
      [.call "first" [], .call "default" [⟨"[\"z\"]", none⟩]] := by cbv
  refine ⟨⟨?_, ?_⟩, ⟨?_, ?_⟩, ⟨?_, ?_⟩, ⟨?_, ?_⟩⟩
  · rw [fst_loopItems_postsByName bound_twoPosts, first]
    cbv
  · rw [fst_loopItems_postsByCall bound_twoPosts (by rw [first]; decide), first]
    cbv
  · rw [fst_loopItems_postsByName bound_twoPosts, joined]
    cbv
  · rw [fst_loopItems_postsByCall bound_twoPosts (by rw [joined]; decide), joined]
    cbv
  · rw [fst_loopItems_postsByName bound_twoPosts, twice]
    cbv
  · rw [fst_loopItems_postsByCall bound_twoPosts (by rw [twice]; decide), twice]
    cbv
  · rw [fst_loopItems_postsByName empty, defaulted]
    cbv
  · rw [fst_loopItems_postsByCall empty (by rw [defaulted]; decide), defaulted]
    cbv

end DynamicBlocks
