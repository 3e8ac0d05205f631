import DynamicBlocks.Proofs.ForwardedLoops
import DynamicBlocks.Proofs.OtherModifiers

/-!
# Previews

A preview stands in for a source while a page is looked at before it is published, so it has to win over everything that
a render puts on the stack. The sources that a block sees end with those of the previews, and no scope of a render
changes the previews. So they are last wherever loops, bodies and slot content lead: an expression on the name of a
preview starts from its value there, and modifiers come to see no other sources (`ModifierTable.AlikeOn`). Only a
default that refers to properties is not resolved at all, whatever previews there are.
-/

set_option autoImplicit false

namespace DynamicBlocks

open Text RenderM

/-! ## Names of previews -/

/-- The sources of the previews, in the order of their registry. -/
def Provider.previews (provider : Provider) : List Source :=
  Entry.sources provider.preview.entries

/-- A name means what is registered under it last. -/
theorem Registry.findSource?_entries (registry : Registry) {key : String} (filled : key ≠ "") :
    findSource? key (Entry.sources registry.entries) =
      (registry.sources.reverse.find? fun source => source.1 == key).map (·.2) := by
  have each (source : String × Value) :
      (Entry.toSource? ⟨registry.kind, .text source.1, source.2, []⟩).any (fun source => source.key.same (.text key)) =
        (source.1 == key) := by
    by_cases same : source.1 = key
    · subst same
      simp [Entry.toSource?, Value.isTruthy, Value.same, filled]
    · unfold Entry.toSource?
      split <;> simp [Value.same, same]
  have matching : (fun source : String × Value =>
      ((Entry.toSource? ∘ fun source => ⟨registry.kind, .text source.1, source.2, []⟩) source).any
        fun source => source.key.same (.text key)) = fun source => source.1 == key := funext each
  unfold findSource? Entry.sources entries
  rw [List.filterMap_map, ← List.filterMap_reverse, List.find?_filterMap, matching]
  cases found : registry.sources.reverse.find? fun source => source.1 == key with
  | none => rfl
  | some source =>
    have same : source.1 = key := by simpa using List.find?_some found
    simp [Entry.toSource?, Value.isTruthy, same, filled]

/-- A value set in its place is the last one of its name, for all others of the name are replaced. -/
theorem Registry.find?_setInPlace (sources : List (String × Value)) (key : String) (v : Value) :
    ((setInPlace sources key v).reverse.find? fun source => source.1 == key).map (·.2) = some v := by
  unfold setInPlace
  split
  · rename_i there
    obtain ⟨source, among, same⟩ := List.any_eq_true.mp there
    have matching : ((fun source : String × Value => source.1 == key) ∘ fun source =>
        if source.1 == key then (key, v) else source) = fun source => source.1 == key := by
      funext source
      by_cases same : source.1 = key <;> simp [same]
    rw [← List.map_reverse, List.find?_map, matching]
    cases found : sources.reverse.find? fun source => source.1 == key with
    | none => exact absurd same (List.find?_eq_none.mp found source (List.mem_reverse.mpr among))
    | some last =>
      have replaced : last.1 = key := by simpa using List.find?_some found
      simp [replaced]
  · simp

/-- What is registered under a name is what the name means, whether the name moves to the end or not. -/
theorem Registry.findSource?_register (registry : Registry) {key : String} (filled : isBlankText key = false)
    (v : Value) : findSource? key (Entry.sources (registry.register key v).entries) = some v := by
  have named : key ≠ "" := by
    rintro rfl
    cases filled
  rw [findSource?_entries _ named]
  unfold register
  rw [if_neg (by simp [filled])]
  dsimp only
  cases registry.movesToEnd with
  | true =>
    rw [if_pos rfl]
    simp
  | false =>
    rw [if_neg Bool.false_ne_true]
    exact find?_setInPlace registry.sources key v

/-- A preview that is enqueued under a name is what the name means among the previews. -/
theorem Provider.findSource?_enqueuePreview (provider : Provider) {key : String} (filled : isBlankText key = false)
    (v : Value) : ∃ after, provider.enqueuePreview (.text key) v = .ok after ∧
      findSource? key after.previews = some v :=
  ⟨{ provider with preview := provider.preview.register key v }, rfl, provider.preview.findSource?_register filled v⟩

/-- Whatever is resolved against the sources under a name starts from a value. -/
structure StartsAt (seen : List Source) (key : String) (v : Value) : Prop where
  found : findSource? key seen = some v
  /-- Expressions, as loops resolve their targets and the names that they reach. -/
  resolved : ∀ table text keepLoop, (Expression.ofText text).root = key →
    resolve table seen (.ofText text) keepLoop =
      (Expression.ofText text).resolveWith [⟨.text key, v⟩] keepLoop (applyModifier table seen)
  /-- Texts that are no literals, as they stand in braces, in arguments and in parameters of loops. -/
  evaluated : ∀ table text, literal? text = none → (Expression.ofText text).root = key →
    evaluate table seen text =
      (Expression.ofText text).resolveWith [⟨.text key, v⟩] false (applyModifier table seen)
  /-- Templates that are one expression, as elements and instances have them for attributes. -/
  content : ∀ table s inner, standalone? s.toList = some inner → literal? (String.ofList inner) = none →
    (Expression.ofText (String.ofList inner)).root = key →
    resolveContent table seen (.text s) =
      (Expression.ofText (String.ofList inner)).resolveWith [⟨.text key, v⟩] false (applyModifier table seen)
  /-- Defaults are resolved as such content, unless they refer to properties. -/
  default : ∀ (scope : PropScope) definition s, scope.sources = seen → definition.default = .text s →
    scope.defaultValue definition =
      if contains s "\x7bprops." then pure definition.primitive.emptyValue
      else ofExcept (resolveContent scope.modifiers seen (.text s)) >>= scope.propValue definition

/-- An expression whose root is found needs no other source. -/
theorem Expression.resolveWith_of_found {e : Expression} {seen : List Source} {v : Value}
    (found : findSource? e.root seen = some v) (keepLoop : Bool)
    (call : Value → String → List Argument → Except Failure Value) :
    e.resolveWith seen keepLoop call = e.resolveWith [⟨.text e.root, v⟩] keepLoop call := by
  have alone : findSource? e.root [⟨.text e.root, v⟩] = some v := findSource?_append_self e.root [] v
  unfold resolveWith
  rw [found, alone]

/-- What the last of the sources say of a name counts. -/
theorem startsAt_of_suffix {last seen : List Source} {key : String} {v : Value} (found : findSource? key last = some v)
    (suffix : last <:+ seen) : StartsAt seen key v := by
  have found : findSource? key seen = some v := by
    obtain ⟨before, rfl⟩ := suffix
    rw [findSource?_append, found]
    rfl
  have evaluated (table : ModifierTable) (text : String) (unwritten : literal? text = none)
      (root : (Expression.ofText text).root = key) :
      evaluate table seen text =
        (Expression.ofText text).resolveWith [⟨.text key, v⟩] false (applyModifier table seen) := by
    subst root
    rw [evaluate_of_literal?_eq_none unwritten]
    exact Expression.resolveWith_of_found found false _
  refine ⟨found, ?_, evaluated, ?_, ?_⟩
  · rintro table text keepLoop rfl
    rw [resolve_ofText]
    exact Expression.resolveWith_of_found found keepLoop _
  · intro table s inner alone unwritten root
    rw [resolveContent_of_standalone? alone]
    exact evaluated table _ unwritten root
  · rintro scope definition s rfl default
    have some : scope.sources.isEmpty = false := by
      cases sources : scope.sources with
      | nil =>
        rw [sources] at found
        cases found
      | cons source sources => rfl
    unfold PropScope.defaultValue PropScope.refersToProps PropScope.givenDefault
    rw [default]
    dsimp only
    rw [some]
    rfl

/-! ## Where a render gets to -/

/-- Wherever scopes lead, the sources that a block sees end with the previews. -/
theorem Surroundings.Within.previews_suffix {start a : Surroundings} (within : start.Within a) (context : Entries) :
    start.context.previews <:+ a.context.sources context := by
  have replaced : a.context.withEntries [] = start.context.withEntries [] := within.sameButStack []
  have same : a.context.preview = start.context.preview := (congrArg Provider.preview replaced :)
  rw [Provider.sources_eq, same]
  exact List.suffix_append _ _

/-- A render beside itself within surroundings, whatever the guard. -/
def Correspondence.alongside (env : Environment) (start : Surroundings) : Correspondence env env :=
  .ofGuards env env.slotGuard env.slotGuard start.Within (fun _ _ => True) (fun _ => False)
    (Surroundings.keptByScopes_within start)
    (fun {a name frame _} _ _ => by
      generalize (env.guardedBy env.slotGuard).answer a.guard (frame.guardKey name) = answer
      cases answer with
      | enter => exact .enter
      | refuse => exact .refuse
      | repeated => exact .repeated fun _ _ _ _ remembered => ⟨remembered.1, remembered.2.1, trivial⟩)
    fun _ _ => False.elim

section

variable {env : Environment} {start : Surroundings} {table : ModifierTable} {P : Prop}

/-- An action that is in step with one is in step with any that does the same within the surroundings. -/
theorem InStep.congr_right {a b b' : RenderM String} (h : InStep (.alongside env start) P a b) (right : Restores b')
    (same : ∀ t : Session, start.Within t.toSurroundings → b' t = b t) : InStep (.alongside env start) P a b' where
  left := h.left
  right := right
  stays _ := False.elim
  agree given s t around remembered := by
    have within : start.Within t.toSurroundings := around.1 ▸ around.2
    unfold Correspondence.AgreeAt
    rw [same t within]
    exact h.agree given s t around remembered

/-- Every kind of block does the same with tables that agree on the sources it sees. -/
theorem keptByBlocks_withModifiers
    (same : ∀ a, start.Within a → ∀ context, env.engine.modifiers.SameAt table (a.context.sources context)) :
    KeptByBlocks env (env.withModifiers table) (· = ·) (fun P a b => InStep (.alongside env start) P a b) := by
  have kept := InStep.keptByBlocks (.alongside env start)
  have sameAt (block : Block) (t : Session) (within : start.Within t.toSurroundings) :
      env.engine.modifiers.SameAt table (t.context.sources block.context) := same _ within block.context
  exact {
    weaken := kept.weaken
    renderers := rfl
    child := kept.child
    body := kept.body
    nothing := kept.nothing
    unnamed := kept.unnamed
    endless := kept.endless
    append := kept.append
    text := fun P block => (kept.text P block).congr_right (Restores.renderText _ block) fun t within =>
      renderText_withModifiers (sameAt block t within)
    element := fun block _ _ h => (kept.element block h).congr_right (Restores.renderElement _ block h.right)
      fun t within => renderElement_withModifiers (sameAt block t within) _
    loop := fun block _ _ h => (kept.loop block h).congr_right (Restores.renderLoop _ block h.right)
      fun t within => renderLoop_withModifiers (sameAt block t within) _
    component := fun block _ q _ _ h => (kept.component block h).congr_right
      (Restores.renderComponent _ q block fun ref blocks => (h ref blocks).right)
      fun t within => renderComponent_withModifiers (sameAt block t within) q _
    placeholder := fun P block _ _ h => kept.placeholder P block h
    extension := fun name plan block p q a b registered h => by
      have unchanged : renderExtension (env.withModifiers table) plan q block (renderAnew (env.withModifiers table) b) =
          renderExtension env plan q block (renderAnew env b) := by
        have anew : renderAnew (env.withModifiers table) b = renderAnew env b := rfl
        unfold renderExtension
        simp only [anew, follow_withModifiers]
      rw [unchanged]
      exact kept.extension name plan block registered h }

/-- So does a page. -/
theorem renderPage_withModifiers
    (same : ∀ a, start.Within a → ∀ context, env.engine.modifiers.SameAt table (a.context.sources context))
    (blocks sources : Value) :
    InStep (.alongside env start) True (renderPage env blocks sources)
      (renderPage (env.withModifiers table) blocks sources) := by
  have rendered (blocks : List Block) : InStep (.alongside env start) True (renderBlocks env .page blocks)
      (renderBlocks (env.withModifiers table) .page blocks) := by
    refine ⟨Restores.renderBlocks env .page blocks, Restores.renderBlocks _ .page blocks, fun _ => False.elim, ?_⟩
    intro _ s t around remembered
    have levels : levelsLeft (env.withModifiers table) t = levelsLeft env s := by
      unfold levelsLeft
      rw [around.1]
      rfl
    unfold Correspondence.AgreeAt
    rw [renderBlocks_apply, renderBlocks_apply, levels, ← around.1]
    exact ((keptByBlocks_withModifiers same).renderAt _ _ .page .page blocks).agree rfl s t around remembered
  rw [renderPage_eq, renderPage_eq]
  have found : InStep (.alongside env start) True _ _ := (InStep.ofExcept (Entry.ofInitials sources)).bind fun entries =>
    ((InStep.ofExcept (Block.ofSeries blocks)).bind rendered).inside
      ((Correspondence.alongside env start).pushed entries)
  exact found.inside (Correspondence.alongside env start).activated

end

/-! ## Previews win -/

/-- Previews win in every scope of a render. Wherever its scopes lead, the sources of a block end with the previews in
the order of their registry. The render looks at no other sources: it does not tell tables apart whose modifiers do the
same where the previews come last. And where they do, the name of a preview means its value, which is what was enqueued
under it, and from which everything starts that is resolved under the name. -/
theorem previews_win (env : Environment) (blocks sources : Value) (s : Session) :
    (∀ a, s.toSurroundings.Within a → ∀ context, s.context.previews <:+ a.context.sources context) ∧
      (∀ table, env.engine.modifiers.AlikeOn (s.context.previews <:+ ·) table →
        let rendered := renderPage env blocks sources s
        let rendered' := renderPage (env.withModifiers table) blocks sources s
        rendered.1 = rendered'.1 ∧ rendered.2.patterns = rendered'.2.patterns ∧
          rendered.2.loops = rendered'.2.loops) ∧
      (∀ key v, isBlankText key = false → ∃ after, s.context.enqueuePreview (.text key) v = .ok after ∧
        findSource? key after.previews = some v) ∧
      ∀ key v, findSource? key s.context.previews = some v → ∀ seen, s.context.previews <:+ seen →
        StartsAt seen key v := by
  refine ⟨fun a within => within.previews_suffix, ?_, fun key v filled => s.context.findSource?_enqueuePreview filled v,
    fun key v found seen => startsAt_of_suffix found⟩
  intro table alike
  have same (a : Surroundings) (within : s.toSurroundings.Within a) (context : Entries) :
      env.engine.modifiers.SameAt table (a.context.sources context) := alike.sameAt (within.previews_suffix context)
  have agree := (renderPage_withModifiers same blocks sources).agree trivial s s ⟨rfl, .here⟩ ⟨rfl, rfl, trivial⟩
  obtain ⟨outcome, patterns, loops, _⟩ := agree.together id
  exact ⟨outcome, patterns, loops⟩

/-- A session with a preview of `item`. -/
def previewingItem : Session :=
  { Session.start .silent with context.preview := Registry.previews.register "item" (.text "p") }

/-- A modifier that gives the source of the name `item`. -/
def itemInSight : Modifier :=
  .scoped fun sources _ _ => .ok ((findSource? "item" sources).getD .null)

/-- In a loop an item comes before the preview of its name, and a modifier sees the preview everywhere. -/
theorem previews_win_item :
    let seen := (previewingItem.pushed [.ofLocal (.text "item") (.int 1)]).context.sources []
    let env : Environment := { Environment.ofPatterns [] with engine.modifiers := [("look", itemInSight)] }
    resolve builtinModifiers seen (.ofText "item") false = .ok (.text "p") ∧
      ∀ blocks sources, (renderPage env blocks sources previewingItem).1 =
        (renderPage (env.withModifiers [("look", .scoped fun _ _ _ => .ok (.text "p"))]) blocks sources
          previewingItem).1 := by
  intro seen env
  have item : findSource? "item" previewingItem.context.previews = some (.text "p") := by cbv
  constructor
  · obtain ⟨within, -, -, starts⟩ := previews_win env .null .null previewingItem
    have started := starts "item" (.text "p") item seen (within _ (.pushed _ .here) [])
    have root : (Expression.ofText "item").root = "item" := by cbv
    rw [started.resolved builtinModifiers "item" false root]
    cbv
  · intro blocks sources
    refine ((previews_win env blocks sources previewingItem).2.1 _ ?_).1
    intro name
    have seeing : itemInSight.AlikeOn (previewingItem.context.previews <:+ ·) (.scoped fun _ _ _ => .ok (.text "p")) := by
      refine .seeing fun sources last => ?_
      rw [(startsAt_of_suffix item last).found]
      rfl
    have registered (modifier : Modifier) :
        ModifierTable.get? [("look", modifier)] name = if name = "look" then some modifier else none := by
      unfold ModifierTable.get?
      rw [List.lookup_cons]
      by_cases named : name = "look"
      · rw [if_pos named, named]
        rfl
      · rw [if_neg named, beq_false_of_ne named]
        rfl
    show Option.Rel _ (ModifierTable.get? [("look", itemInSight)] name) _
    rw [registered, registered]
    split
    · exact .some seeing
    · exact .none

/-- A component with a text for a property, which has a default. -/
def showing (default : String) : Settings :=
  .ofPatterns [("card", .built ⟨"card", [⟨.text "text", [(.text "content", .text "\x7bprops.t\x7d")], [], [], .tuple⟩],
    [⟨"t", .string, .null, .text default⟩]⟩)]

/-- A page with an instance of it, and a preview. -/
def cardPage : Page :=
  ⟨.list [describing "component" [(.text "ref", .text "card")] []], .null, .null, .ofFields [("given", .text "v")]⟩

/-- A default that refers to properties besides a preview is left empty, though as content it starts from the preview.
-/
theorem outcome_cardPage_ne :
    (showing "\x7bgiven\x7d\x7bprops.x\x7d").outcome cardPage = .ok "" ∧
      (showing "\x7bgiven\x7d").outcome cardPage = .ok "v" ∧
      (resolveContent builtinModifiers [⟨.text "given", .text "v"⟩] (.text "\x7bgiven\x7d\x7bprops.x\x7d") >>=
        Value.display) = .ok "v" := by
  refine ⟨eq_ok_of_toOption ?_, eq_ok_of_toOption ?_, eq_ok_of_toOption ?_⟩
  · decide +kernel
  · decide +kernel
  · decide +kernel

end DynamicBlocks
