import DynamicBlocks.Proofs.NestedCalls
import DynamicBlocks.Proofs.RefusedSlots
import Mathlib

/-!
# Limits on depth

A component is refused where components are nested as deep as allowed, and nothing else of a render looks at the limit.
So the limit is kept everywhere, for all that leads further down is a component; and it does nothing as long as no
component is refused, for which there would be a warning that reads like no other (`compact_tooDeep_ne`).

The recursion that counts levels and frames does not show this, for with another limit it counts other levels.
`renderNoDeeper` is the recursion without these counts: it stops after some number of calls, and at blocks that are
deeper than a limit of its own. A render comes to the same (`Environment.exists_renderNoDeeper`), and two renders with
different limits then go through the same calls (`SameUnlessWarned.renderNoDeeper`).
-/

set_option autoImplicit false

namespace DynamicBlocks

open RenderM

namespace RenderM

/-- An action where components are nested as deep as a limit at most, and a failure where they are nested deeper. -/
def noDeeper {α : Type} (limit : Int) (f : Failure) (action : RenderM α) : RenderM α := fun s =>
  if limit < s.depth then (.error f, s) else action s

/-- The ways on with nothing counted, given how a block is rendered. -/
def waysDown (render : Place → Block → RenderM String) : WaysOn where
  body ref blocks := renderEach render (.body ref) 0 blocks
  fill content := renderEach render content.place 0 content.blocks
  anew _ _ := render

/-- A block rendered with as many calls inside of each other, and with a failure for whatever block there would be more
of them or components would be nested deeper than a limit. -/
def renderNoDeeper (env : Environment) (limit : Int) (f : Failure) : (calls : Nat) → Place → Block → RenderM String
  | 0, _, _ => throw f
  | calls + 1, place, block =>
    noDeeper limit f (renderNamed env (waysDown (renderNoDeeper env limit f calls)) place block
      (renderEach (renderNoDeeper env limit f calls) place 0 block.inner))

end RenderM

/-! ## Blocks that are not too deep -/

section

variable {env : Environment} {levels : Nat} {frames : FrameSlots} {s : Session}

/-- Where levels are left up to a limit it is not too deep. -/
theorem Session.Stands.noDeeper_eq {α : Type} (h : s.Stands env levels frames) {bound limit : Int}
    (bounded : env.maxDepth.bound = some bound) (within : bound ≤ limit) (f : Failure) (action : RenderM α) :
    noDeeper limit f action s = action s := by
  have sum : bound = s.depth + levels := Option.some.inj (bounded.symm.trans h.bound)
  exact if_neg (by omega)

/-- Blocks one by one: an induction on the blocks, each of which leaves the session where it stands. -/
theorem renderEach_congr {noExtension : ∀ name plan, env.renderers.lookup name ≠ some (.extension plan)}
    {a b : Place → Block → RenderM String}
    (same : ∀ place block t, Session.Stands t env levels frames → a place block t = b place block t)
    (kept : ∀ place block, InStep (.itself noExtension) True (b place block) (b place block))
    (h : s.Stands env levels frames) (place : Place) (position : Nat) (blocks : List Block) :
    renderEach a place position blocks s = renderEach b place position blocks s := by
  induction blocks generalizing position s with
  | nil => rfl
  | cons block blocks ih =>
    unfold renderEach
    refine bind_congr_at (same _ block s h) fun text t done => ?_
    exact bind_congr_at (ih (h.after (kept _ block) done) (position + 1)) fun rest u _ => rfl

/-- Calls that fail where there would be more of them are in step with themselves: an induction on their number. -/
theorem inStep_renderCalls (noExtension : ∀ name plan, env.renderers.lookup name ≠ some (.extension plan))
    (f : Failure) (calls components slots : Nat) (p q : Place) (block : Block) :
    InStep (.itself noExtension) ((Correspondence.itself noExtension).place p q)
      (renderCalls env (fun _ _ => throw f) calls components slots p block)
      (renderCalls env (fun _ _ => throw f) calls components slots q block) := by
  induction calls generalizing components slots p q block with
  | zero => exact InStep.throw f
  | succ calls ih =>
    have each (components slots : Nat) (p q : Place) (blocks : List Block) :=
      InStep.renderEach (ih components slots) p q 0 blocks
    have failing (p q : Place) (blocks : List Block) :=
      InStep.renderEach (c := .itself noExtension) (a := fun _ _ => throw f) (b := fun _ _ => throw f)
        (fun _ _ _ => InStep.throw f) p q 0 blocks
    refine (InStep.keptByBlocks _).renderNamed
      ⟨fun ref blocks => ?_, fun p q blocks => ?_, fun _ _ => ih components slots⟩ p q block
      (each components slots p q block.inner)
    · cases components with
      | zero => exact (failing (.body ref) (.body ref) blocks).weaken fun _ => rfl
      | succ components => exact (each components slots (.body ref) (.body ref) blocks).weaken fun _ => rfl
    · cases slots with
      | zero => exact failing p q blocks
      | succ slots => exact each components slots p q blocks

/-- Calls that count nothing but refuse what is too deep do what calls do that count: an induction on the calls. -/
theorem renderNoDeeper_eq (noExtension : ∀ name plan, env.renderers.lookup name ≠ some (.extension plan))
    {bound limit : Int} (bounded : env.maxDepth.bound = some bound) (within : bound ≤ limit) (f : Failure)
    (calls : Nat) {slots : Nat} (room : frames.length + levels ≤ slots) (place : Place) (block : Block)
    (h : s.Stands env levels frames) :
    renderNoDeeper env limit f calls place block s =
      renderCalls env (fun _ _ => throw f) calls levels slots place block s := by
  induction calls generalizing levels frames slots place block s with
  | zero => rfl
  | succ calls ih =>
    have kept (levels slots : Nat) (place : Place) (block : Block) :=
      (inStep_renderCalls noExtension f calls levels slots place place block).weaken fun _ : True => rfl
    have each {levels : Nat} {frames : FrameSlots} {slots : Nat} (room : frames.length + levels ≤ slots)
        (place : Place) (blocks : List Block) {t : Session} (stands : t.Stands env levels frames) :
        renderEach (renderNoDeeper env limit f calls) place 0 blocks t =
          renderEach (renderCalls env (fun _ _ => throw f) calls levels slots) place 0 blocks t :=
      renderEach_congr (fun place block _ => ih room place block) (kept levels slots) stands place 0 blocks
    have ways : WaysOn.AgreeAt env levels frames place block (waysDown (renderNoDeeper env limit f calls))
        (waysThrough (fun _ _ => throw f) (renderCalls env (fun _ _ => throw f) calls) levels slots) := by
      refine ⟨fun pattern left t _ less stands => ?_, fun name top beneath content t _ shape _ stands => ?_⟩
      · subst less
        refine each ?_ (.body block.ref.plain) pattern.blocks stands
        rw [List.length_cons]
        omega
      · subst shape
        rw [List.length_cons] at room
        obtain ⟨left, rfl⟩ : ∃ left, slots = left + 1 := ⟨slots - 1, by omega⟩
        exact each (by omega) content.place content.blocks stands
    have inside := (InStep.renderEach (inStep_renderCalls noExtension f calls levels slots) place place 0
      block.inner).weaken fun _ : True => rfl
    show noDeeper limit f (renderNamed env (waysDown (renderNoDeeper env limit f calls)) place block
        (renderEach (renderNoDeeper env limit f calls) place 0 block.inner)) s = _
    rw [h.noDeeper_eq bounded within]
    exact renderNamed_congr noExtension ways (fun _ => each room place block.inner) inside h

end

/-- A page rendered with blocks rendered in some way, after its sources have been registered. -/
theorem renderThrough_eq_registering (env : Environment) (render : Place → Block → RenderM String) (page : Page) :
    env.renderThrough render page =
      (registering page.globals page.previews >>= fun _ => renderPageThrough render page.blocks page.sources)
        (Session.start env.host) := by
  unfold registering
  rw [bind_assoc]
  rfl

/-- A page is rendered with components nested as deep as allowed at most: with enough calls it makes no difference what
is done with a block that is deeper. -/
theorem Environment.exists_renderNoDeeper (env : Environment)
    (noExtension : ∀ name plan, env.renderers.lookup name ≠ some (.extension plan)) {limit : Nat}
    (bound : env.maxDepth.bound = some (limit : Int)) (page : Page) :
    ∃ enough, ∀ calls, enough ≤ calls → ∀ f (deepest : Int), limit ≤ deepest →
      env.renderThrough (renderNoDeeper env deepest f calls) page = env.render page := by
  obtain ⟨enough, comes⟩ : ∃ enough, ∀ blocks, Block.ofSeries page.blocks = .ok blocks →
      BlocksComeThrough env enough limit [] .page 0 blocks := by
    cases described : Block.ofSeries page.blocks with
    | error f => exact ⟨0, fun _ impossible => nomatch impossible⟩
    | ok blocks =>
      obtain ⟨enough, comes⟩ := exists_enough noExtension limit [] .page blocks
      exact ⟨enough, fun _ same => Except.ok.inj same ▸ comes⟩
  refine ⟨enough, fun calls many f deepest within => ?_⟩
  rw [renderThrough_eq_registering, render_eq_registering]
  refine bind_congr_at rfl fun _ t registered => ?_
  obtain ⟨context, -, same⟩ := registering_snd page.globals page.previews env.host
  rw [registered] at same
  obtain rfl : t = { Session.start env.host with context := context } := same
  have stands : Session.Stands { Session.start env.host with context := context } env limit [] :=
    ⟨bound.trans (by simp [Session.start]), rfl, PatternCache.faithful_empty env.loader⟩
  have room : ([] : FrameSlots).length + limit ≤ limit := by simp
  refine renderPageThrough_congr page.sources (fun given described u standing => ?_) stands
  have counted : renderEach (renderNoDeeper env deepest f calls) .page 0 given u =
      renderEach (renderCalls env (fun _ _ => throw f) calls limit limit) .page 0 given u :=
    renderEach_congr (fun place block _ => renderNoDeeper_eq noExtension bound within f calls room place block)
      (fun place block => (inStep_renderCalls noExtension f calls limit limit place place block).weaken fun _ => rfl)
      standing .page 0 given
  exact counted.trans (comes given described calls many _ limit room u standing)

/-! ## Warnings -/

/-- Whether a session has been warned of a component that was too deep. -/
def Session.Warned (s : Session) (env : Environment) : Prop :=
  ∃ ref, (tooDeep env ref).compact ∈ s.loops.journal.warnings

/-- A text with another one behind it begins as it does. -/
theorem head?_toList_append {s : String} {c : Char} (first : s.toList.head? = some c) (t : String) :
    (s ++ t).toList.head? = some c := by
  rw [String.toList_append, List.head?_append, first, Option.some_or]

/-- A warning of a component that was too deep begins with the code of the failure or with its message. -/
theorem head?_compact_tooDeep (env : Environment) (ref : Value) :
    (tooDeep env ref).compact.toList.head? = some 'S' ∨ (tooDeep env ref).compact.toList.head? = some 'M' := by
  have message : (tooDeep env ref).message.toList.head? = some 'M' := by
    unfold tooDeep Failure.message
    iterate 4 apply head?_toList_append
    rfl
  have coded : (FailureCode.renderDepth.text ++ ": " ++ (tooDeep env ref).message).toList.head? = some 'S' := by
    iterate 2 apply head?_toList_append
    rfl
  have compact : (tooDeep env ref).compact = if Text.contains (tooDeep env ref).message FailureCode.renderDepth.text
      then (tooDeep env ref).message else FailureCode.renderDepth.text ++ ": " ++ (tooDeep env ref).message := rfl
  rw [compact]
  split
  · exact .inr message
  · exact .inl coded

/-- No other warning that a render leaves reads like that of a component that was too deep. -/
theorem compact_tooDeep_ne (env : Environment) (ref : Value) :
    (∀ other, (tooDeep env ref).compact ≠ missingPattern other) ∧
      (∀ preset, (tooDeep env ref).compact ≠ LoopService.noHandler preset) ∧
        ∀ preset, (tooDeep env ref).compact ≠ LoopService.handlerFailed preset := by
  have other {warning : String} {c : Char} (first : warning.toList.head? = some c) (differs : c ≠ 'S' ∧ c ≠ 'M') :
      (tooDeep env ref).compact ≠ warning := by
    rintro rfl
    rcases head?_compact_tooDeep env ref with code | message
    · exact differs.1 (Option.some.inj (first.symm.trans code))
    · exact differs.2 (Option.some.inj (first.symm.trans message))
  refine ⟨fun ref => other (c := 'C') ?_ (by decide), fun preset => other (c := 'N') ?_ (by decide),
    fun preset => other (c := 'L') ?_ (by decide)⟩
  · iterate 2 apply head?_toList_append
    rfl
  · iterate 4 apply head?_toList_append
    rfl
  · iterate 2 apply head?_toList_append
    rfl

/-- A request leaves the warnings that there are. -/
theorem LoopService.mem_warnings_items {warning : String} (service : LoopService) (name : Value) (params : Entries)
    (s : LoopState) (there : warning ∈ s.journal.warnings) :
    warning ∈ (service.items name params s).2.journal.warnings := by
  have asked (handler : LoopHandler) (preset : LoopPreset) (s : LoopState) (there : warning ∈ s.journal.warnings) :
      warning ∈ (service.ask handler preset params s).2.journal.warnings := by
    unfold LoopService.ask
    dsimp only
    split
    · exact there
    · exact List.mem_append_left _ there
  have under (key : String) (preset : LoopPreset) :
      warning ∈ (service.itemsUnder key preset params s).2.journal.warnings := by
    unfold LoopService.itemsUnder
    dsimp only
    split
    · exact there
    · split
      · exact List.mem_append_left _ there
      · exact asked _ preset _ there
  unfold LoopService.items
  cases service.preset? name with
  | none => exact there
  | some preset =>
    dsimp only
    cases requestText preset.id params with
    | error f => exact there
    | ok text => exact under _ preset

/-! ## Two limits -/

/-- Two actions that leave the session in the surroundings they found it in and, under an assumption, do the same,
unless the first one leaves a warning of a component that was too deep. It keeps those that there are. -/
structure SameUnlessWarned (env : Environment) (P : Prop) {α : Type} (a b : RenderM α) : Prop where
  left : Restores a
  right : Restores b
  stays : ∀ s, s.Warned env → (a s).2.Warned env
  same : P → ∀ s, (a s).2.Warned env ∨ a s = b s

namespace SameUnlessWarned

variable {env : Environment} {P Q : Prop} {α β : Type}

/-- An action does the same as itself. -/
theorem refl {action : RenderM α} (restores : Restores action) (stays : ∀ s, s.Warned env → (action s).2.Warned env) :
    SameUnlessWarned env P action action :=
  ⟨restores, restores, stays, fun _ _ => .inr rfl⟩

/-- An outcome is the same with both limits. -/
theorem ofExcept (outcome : Except Failure α) :
    SameUnlessWarned env P (RenderM.ofExcept outcome) (RenderM.ofExcept outcome) :=
  refl (Restores.ofExcept outcome) fun _ => id

/-- So is a value. -/
theorem pure (x : α) : SameUnlessWarned env P (Pure.pure x : RenderM α) (Pure.pure x) := ofExcept (.ok x)

/-- So is a failure. -/
theorem throw (f : Failure) : SameUnlessWarned env P (MonadExcept.throw f : RenderM α) (MonadExcept.throw f) :=
  ofExcept (.error f)

/-- What is the same under a condition is so under a stronger one. -/
theorem weaken {a b : RenderM α} (h : SameUnlessWarned env P a b) (implied : Q → P) : SameUnlessWarned env Q a b :=
  ⟨h.left, h.right, h.stays, fun given => h.same (implied given)⟩

/-- Actions one after the other are the same unless one of them warns. -/
theorem bind {a b : RenderM α} {f g : α → RenderM β} (first : SameUnlessWarned env P a b)
    (second : ∀ x, SameUnlessWarned env P (f x) (g x)) : SameUnlessWarned env P (a >>= f) (b >>= g) := by
  have stays (s : Session) (warned : (a s).2.Warned env) : ((a >>= f) s).2.Warned env := by
    rcases done : a s with ⟨outcome, t⟩
    rw [done] at warned
    cases outcome with
    | error e =>
      rw [bind_of_error done]
      exact warned
    | ok x =>
      rw [bind_of_ok done]
      exact (second x).stays t warned
  refine ⟨first.left.bind fun x => (second x).left, first.right.bind fun x => (second x).right,
    fun s warned => stays s (first.stays s warned), fun given s => ?_⟩
  rcases first.same given s with warned | same
  · exact .inl (stays s warned)
  · rcases done : a s with ⟨outcome, t⟩
    rw [done] at same
    cases outcome with
    | error e => exact .inr ((bind_of_error done).trans (bind_of_error same.symm).symm)
    | ok x =>
      rw [bind_of_ok done, bind_of_ok same.symm]
      exact (second x).same given t

/-- Requests for items are the same with both limits. -/
theorem ofLoops {service : LoopService} {p : Failure → Prop} {action : LoopM α} (asking : Asking service p action) :
    SameUnlessWarned env P (RenderM.ofLoops action) (RenderM.ofLoops action) :=
  refl (Restores.ofLoops action) fun s warned =>
    asking.keeps (fun l => ∃ ref, (tooDeep env ref).compact ∈ l.journal.warnings)
      (fun name params l ⟨ref, there⟩ => ⟨ref, service.mem_warnings_items name params l there⟩) s.loops warned

/-- A warning is the same with both limits. -/
theorem warn (warning : String) : SameUnlessWarned env P (RenderM.warn warning) (RenderM.warn warning) :=
  refl (Restores.warn warning) fun _ ⟨ref, there⟩ => ⟨ref, List.mem_append_left _ there⟩

/-- So are the sources of a block. -/
theorem sourcesOf (block : Block) : SameUnlessWarned env P (RenderM.sourcesOf block) (RenderM.sourcesOf block) :=
  refl (Restores.sourcesOf block) fun _ => id

/-! ## Scopes -/

/-- Actions that are the same are so inside other surroundings. -/
theorem inside {a b : RenderM α} (h : SameUnlessWarned env P a b) (change : Surroundings → Surroundings) :
    SameUnlessWarned env P (RenderM.inside change a) (RenderM.inside change b) where
  left := Restores.inside change a
  right := Restores.inside change b
  stays s warned := h.stays (s.surround (change s.toSurroundings)) warned
  same given s := by
    refine (h.same given (s.surround (change s.toSurroundings))).imp id fun same => ?_
    unfold RenderM.inside
    rw [same]

/-- So they are with entries pushed. -/
theorem withPushed {a b : RenderM α} (h : SameUnlessWarned env P a b) (entries : List Entry) :
    SameUnlessWarned env P (RenderM.withPushed entries a) (RenderM.withPushed entries b) := by
  rw [h.left.withPushed_eq, h.right.withPushed_eq]
  exact h.inside (·.pushed entries)

/-- So they are where depth is given up. -/
theorem absorbDepth {a b : RenderM (Option String)} (h : SameUnlessWarned env P a b) :
    SameUnlessWarned env P (RenderM.absorbDepth a) (RenderM.absorbDepth b) := by
  have stays (s : Session) (warned : (a s).2.Warned env) : (RenderM.absorbDepth a s).2.Warned env := by
    unfold RenderM.absorbDepth
    split
    · rename_i done
      rw [done] at warned
      obtain ⟨ref, there⟩ := warned
      exact ⟨ref, List.mem_append_left _ there⟩
    · exact warned
  refine ⟨h.left.absorbDepth, h.right.absorbDepth, fun s warned => stays s (h.stays s warned), fun given s => ?_⟩
  refine (h.same given s).imp (stays s) fun same => ?_
  unfold RenderM.absorbDepth
  rw [same]

/-- So they are under a limit of their own. -/
theorem noDeeper {a b : RenderM α} (h : SameUnlessWarned env P a b) (limit : Int) (f : Failure) :
    SameUnlessWarned env P (RenderM.noDeeper limit f a) (RenderM.noDeeper limit f b) := by
  have restores {action : RenderM α} (h : Restores action) : Restores (RenderM.noDeeper limit f action) := by
    intro s
    unfold RenderM.noDeeper
    split
    · rfl
    · exact h s
  refine ⟨restores h.left, restores h.right, fun s warned => ?_, fun given s => ?_⟩
  · unfold RenderM.noDeeper
    split
    · exact warned
    · exact h.stays s warned
  · unfold RenderM.noDeeper
    split
    · exact .inr rfl
    · exact h.same given s

/-! ## Every kind of block -/

variable {deeper : DepthLimit}

/-- Texts are processed in the same way with both limits. -/
theorem postProcess (block : Block) (text : String) :
    SameUnlessWarned env P (RenderM.postProcess env block text)
      (RenderM.postProcess { env with maxDepth := deeper } block text) := ofExcept _

/-- A text is the same with both limits. -/
theorem renderText (block : Block) :
    SameUnlessWarned env P (RenderM.renderText env block)
      (RenderM.renderText { env with maxDepth := deeper } block) := by
  unfold RenderM.renderText
  cases block.content? with
  | none => exact pure ""
  | some content => exact (sourcesOf block).bind fun _ => (ofExcept _).bind fun text => postProcess block text

/-- An element is the same if the blocks inside it are. -/
theorem renderElement (block : Block) {a b : RenderM String} (h : SameUnlessWarned env P a b) :
    SameUnlessWarned env P (RenderM.renderElement env block a)
      (RenderM.renderElement { env with maxDepth := deeper } block b) := by
  refine (sourcesOf block).bind fun _ => (ofExcept _).bind fun _ => ?_
  dsimp only
  split
  · exact postProcess block _
  · exact h.bind fun _ => postProcess block _

/-- What a loop goes over is the same with both limits. -/
theorem loopData (block : Block) (sources : List Source) :
    SameUnlessWarned env P (RenderM.loopData env block sources)
      (RenderM.loopData { env with maxDepth := deeper } block sources) := by
  unfold RenderM.loopData
  split
  · exact (ofLoops (Engine.asking_targetItems env.engine.modifiers.onlyFails_any sources _)).bind fun _ => pure _
  · have asked (name : Value) (params : Entries) :
        Asking env.engine.loops AnyFailure (env.engine.loops.items name params) := Asking.items name params
    refine (ofExcept _).bind fun params => (ofLoops (asked _ params)).bind fun _ => ?_
    split
    · exact pure _
    · exact ofExcept _

/-- The items of a loop: an induction on the items. -/
theorem renderItems (block : Block) {a b : RenderM String} (h : SameUnlessWarned env P a b) (index : Nat)
    (items : List Value) :
    SameUnlessWarned env P (RenderM.renderItems block a index items) (RenderM.renderItems block b index items) := by
  induction items generalizing index with
  | nil => exact pure ""
  | cons item items ih =>
    unfold RenderM.renderItems
    exact (h.withPushed _).bind fun _ => (ih (index + 1)).bind fun _ => pure _

/-- A loop is the same if the blocks inside it are. -/
theorem renderLoop (block : Block) {a b : RenderM String} (h : SameUnlessWarned env P a b) :
    SameUnlessWarned env P (RenderM.renderLoop env block a)
      (RenderM.renderLoop { env with maxDepth := deeper } block b) :=
  (sourcesOf block).bind fun sources => (loopData block sources).bind fun data =>
    (ofExcept data.seriesOrNone).bind fun items => renderItems block h 0 items

/-- The props of an instance are the same with both limits. -/
theorem propsOf (block : Block) (pattern : Pattern) :
    SameUnlessWarned env P (RenderM.propsOf env block pattern)
      (RenderM.propsOf { env with maxDepth := deeper } block pattern) :=
  (sourcesOf block).bind fun _ => (ofExcept _).bind fun _ =>
    ofLoops (PropScope.asking_properties env.engine.modifiers.onlyFails_any rfl _ _)

/-- The body of a pattern. Where it is too deep for the smaller limit there is a warning, whatever the other limit
says. -/
theorem renderBody (less : ∀ depth, deeper.isReached depth → env.maxDepth.isReached depth) {a b : RenderM String}
    (h : SameUnlessWarned env P a b) (ref : Value) (frame : SlotFrame) (props : List (String × Value)) :
    SameUnlessWarned env P (RenderM.renderBody env ref frame props a)
      (RenderM.renderBody { env with maxDepth := deeper } ref frame props b) := by
  have entered := ((h.inside (·.inBody frame props)).bind fun text => pure (some text)).absorbDepth
  refine ⟨h.left.renderBody env ref frame props, h.right.renderBody _ ref frame props, fun s warned => ?_,
    fun given s => ?_⟩
  all_goals cases reached : env.maxDepth.isReached s.depth
  · rw [renderBody_of_not_reached h.left reached]
    exact entered.stays s warned
  · rw [renderBody_of_reached h.left reached]
    exact ⟨ref, List.mem_append_right _ (List.mem_singleton_self _)⟩
  · have free : { env with maxDepth := deeper }.maxDepth.isReached s.depth = false :=
      Bool.eq_false_iff.mpr fun there => Bool.false_ne_true (reached.symm.trans (less _ there))
    rw [renderBody_of_not_reached h.left reached,
      renderBody_of_not_reached h.right free]
    exact entered.same given s
  · rw [renderBody_of_reached h.left reached]
    exact .inl ⟨ref, List.mem_append_right _ (List.mem_singleton_self _)⟩

/-- A component is the same unless it is refused under the lower limit, for which there is a warning. -/
theorem renderComponent (less : ∀ depth, deeper.isReached depth → env.maxDepth.isReached depth) (place : Place)
    (block : Block) {a b : String → List Block → RenderM String}
    (h : ∀ ref blocks, SameUnlessWarned env P (a ref blocks) (b ref blocks)) :
    SameUnlessWarned env P (RenderM.renderComponent env place block a)
      (RenderM.renderComponent { env with maxDepth := deeper } place block b) := by
  have found : SameUnlessWarned env P (RenderM.findPattern env block.ref) (RenderM.findPattern env block.ref) :=
    refl (Restores.findPattern env block.ref) fun _ => id
  have framed : SameUnlessWarned env P (frameOf env place block) (frameOf env place block) :=
    refl (fun _ => rfl) fun _ => id
  unfold RenderM.renderComponent
  split
  · exact pure ""
  · refine found.bind fun answer => ?_
    cases answer with
    | none => exact (warn _).bind fun _ => pure ""
    | some pattern =>
      dsimp only
      split
      · exact pure ""
      · refine (propsOf block pattern).bind fun props => framed.bind fun frame =>
          ((h _ _).renderBody less block.ref frame props).bind fun rendered => ?_
        cases rendered with
        | none => exact pure ""
        | some text => exact postProcess block text

/-- A slot that is filled is the same if its content is. -/
theorem renderFilled {a b : RenderM String} (h : SameUnlessWarned env P a b) (frame : SlotFrame) (name : String) :
    SameUnlessWarned env P (RenderM.renderFilled env frame name a)
      (RenderM.renderFilled { env with maxDepth := deeper } frame name b) := by
  have entered := h.inside (·.inSlot frame name)
  have answered (s : Session) : Environment.answer { env with maxDepth := deeper } s.guard (frame.guardKey name) =
    env.answer s.guard (frame.guardKey name) := rfl
  refine ⟨h.left.renderFilled env frame name, h.right.renderFilled _ frame name, fun s warned => ?_, fun given s => ?_⟩
  · rw [renderFilled_eq h.left]
    dsimp only
    split
    · exact entered.stays s warned
    · exact warned
    · exact entered.stays s warned
  · rw [renderFilled_eq h.left, renderFilled_eq h.right]
    dsimp only
    rw [answered]
    split
    · exact entered.same given s
    · exact .inr rfl
    · refine (entered.same given s).imp id fun same => ?_
      unfold noting
      rw [same]

/-- A placeholder is the same if the contents of slots are. -/
theorem renderPlaceholder (block : Block) {a b : SlotContent → RenderM String}
    (h : ∀ content, SameUnlessWarned env P (a content) (b content)) :
    SameUnlessWarned env P (RenderM.renderPlaceholder env block a)
      (RenderM.renderPlaceholder { env with maxDepth := deeper } block b) := by
  have current : SameUnlessWarned env P currentFrame? currentFrame? := refl (fun _ => rfl) fun _ => id
  unfold RenderM.renderPlaceholder
  split
  · exact pure ""
  · refine current.bind fun frame => ?_
    cases frame with
    | none => exact pure ""
    | some frame =>
      dsimp only
      split
      · exact pure ""
      · exact (h _).renderFilled frame _

/-- Blocks one by one: an induction on the blocks. -/
theorem renderEach {a b : Place → Block → RenderM String}
    (h : ∀ p q block, SameUnlessWarned env (p = q) (a p block) (b q block)) (p q : Place) (position : Nat)
    (blocks : List Block) :
    SameUnlessWarned env (p = q) (RenderM.renderEach a p position blocks)
      (RenderM.renderEach b q position blocks) := by
  induction blocks generalizing position with
  | nil => exact pure ""
  | cons block blocks ih =>
    exact ((h _ _ block).weaken (congrArg (·.child position))).bind fun _ => (ih (position + 1)).bind fun _ => pure _

/-- Every kind of block does the same with a larger limit, unless the smaller one is hit, if what is inside it does. -/
theorem keptByBlocks (noExtension : ∀ name plan, env.renderers.lookup name ≠ some (.extension plan))
    (less : ∀ depth, deeper.isReached depth → env.maxDepth.isReached depth) :
    KeptByBlocks env { env with maxDepth := deeper } (fun p q => p = q) (fun P a b => SameUnlessWarned env P a b) where
  weaken implied h := h.weaken implied
  renderers := rfl
  child i same := congrArg (·.child i) same
  body _ := rfl
  nothing _ := pure ""
  unnamed _ := throw .wrongType
  endless := throw .endless
  append first rest := first.bind fun _ => rest.bind fun _ => pure _
  text _ := renderText
  element block _ _ := renderElement block
  loop block _ _ := renderLoop block
  component block p q _ _ h :=
    ⟨(renderComponent less p block h).left, (renderComponent less q block h).right,
      (renderComponent less p block h).stays, fun same => same ▸ (renderComponent less p block h).same trivial⟩
  placeholder _ block _ _ h :=
    renderPlaceholder block fun content => (h content.place content.place content.blocks).weaken fun _ => rfl
  extension name plan _ _ _ _ _ registered _ := absurd registered (noExtension name plan)

/-- A block with a number of calls: an induction on their number. -/
theorem renderNoDeeper (noExtension : ∀ name plan, env.renderers.lookup name ≠ some (.extension plan))
    (less : ∀ depth, deeper.isReached depth → env.maxDepth.isReached depth) (limit : Int) (f : Failure) (calls : Nat)
    (p q : Place) (block : Block) :
    SameUnlessWarned env (p = q) (RenderM.renderNoDeeper env limit f calls p block)
      (RenderM.renderNoDeeper { env with maxDepth := deeper } limit f calls q block) := by
  induction calls generalizing p q block with
  | zero => exact throw f
  | succ calls ih =>
    have ways : RelatedOn (fun p q => p = q) (fun P a b => SameUnlessWarned env P a b)
        (waysDown (RenderM.renderNoDeeper env limit f calls))
        (waysDown (RenderM.renderNoDeeper { env with maxDepth := deeper } limit f calls)) :=
      ⟨fun ref blocks => (renderEach ih (.body ref) (.body ref) 0 blocks).weaken fun _ => rfl,
        fun p q blocks => renderEach ih p q 0 blocks, fun _ _ => ih⟩
    exact ((keptByBlocks noExtension less).renderNamed ways p q block
      (renderEach ih p q 0 block.inner)).noDeeper limit f

/-- A page is the same if its blocks are, one by one. -/
theorem renderPageThrough {a b : Place → Block → RenderM String}
    (h : ∀ p q block, SameUnlessWarned env (p = q) (a p block) (b q block)) (blocks sources : Value) :
    SameUnlessWarned env True (RenderM.renderPageThrough a blocks sources)
      (RenderM.renderPageThrough b blocks sources) := by
  have pushed (entries : List Entry) :=
    ((ofExcept (P := True) (Block.ofSeries blocks)).bind fun blocks =>
      (renderEach h .page .page 0 blocks).weaken fun _ => rfl).withPushed entries
  have found := (ofExcept (P := True) (Entry.ofInitials sources)).bind pushed
  unfold RenderM.renderPageThrough
  rw [found.left.withActive_eq, found.right.withActive_eq]
  exact found.inside Surroundings.activated

end SameUnlessWarned

/-! ## Pages with two limits -/

/-- A page whose blocks do the same, unless a warning is left. -/
theorem renderThrough_eq_of_not_warned {env other : Environment} (host : other.host = env.host)
    {a b : Place → Block → RenderM String}
    (h : ∀ p q block, SameUnlessWarned env (p = q) (a p block) (b q block)) {page : Page}
    (quiet : ¬(env.renderThrough a page).2.Warned env) : other.renderThrough b page = env.renderThrough a page := by
  rw [renderThrough_eq_registering] at quiet
  rw [renderThrough_eq_registering, renderThrough_eq_registering, host]
  refine bind_congr_at rfl fun _ t registered => ?_
  rw [bind_of_ok registered] at quiet
  exact (((SameUnlessWarned.renderPageThrough h page.blocks page.sources).same trivial t).resolve_left quiet).symm

/-- A limit that is reached nowhere before another one. -/
theorem DepthLimit.isReached_of_le {limit deeper : DepthLimit} {least more : Nat}
    (bound : limit.bound = some (least : Int)) (further : deeper.bound = some (more : Int)) (le : least ≤ more)
    (depth : Int) (reached : deeper.isReached depth) : limit.isReached depth := by
  unfold DepthLimit.isReached at reached ⊢
  rw [further] at reached
  rw [bound]
  have there : (more : Int) ≤ depth := of_decide_eq_true reached
  exact decide_eq_true (by omega)

/-- A limit on depth is kept, and does nothing as long as it is not hit. Components are never nested deeper: a render in
which any block that is deeper fails, in whatever way, comes to the same. No failure for depth gets out of the render.
And if the render leaves no warning of a component that was too deep, then with any limit as large or larger the page
comes to the same, down to what has been remembered. -/
theorem Environment.Calm.render_limited {env : Environment} (calm : env.Calm) {limit : Nat}
    (bound : env.maxDepth.bound = some (limit : Int)) (page : Page) :
    (∃ calls, ∀ f, env.renderThrough (renderNoDeeper env limit f calls) page = env.render page) ∧
      OnlyFails Failure.NotForDepth (env.render page).1 ∧
        (¬(env.render page).2.Warned env → ∀ (deeper : DepthLimit) (more : Nat), deeper.bound = some (more : Int) →
          limit ≤ more → { env with maxDepth := deeper }.render page = env.render page) := by
  obtain ⟨enough, comes⟩ := env.exists_renderNoDeeper calm.renderers bound page
  refine ⟨⟨enough, fun f => comes enough le_rfl f limit le_rfl⟩, calm.onlyFails_render page,
    fun quiet deeper more further le => ?_⟩
  obtain ⟨enough', comes'⟩ :=
    Environment.exists_renderNoDeeper { env with maxDepth := deeper } calm.renderers further page
  -- Both renders go through the same calls, which refuse what is deeper than the larger limit.
  have small := comes (max enough enough') (le_max_left _ _) .endless more (Int.ofNat_le.mpr le)
  have large := comes' (max enough enough') (le_max_right _ _) .endless more le_rfl
  rw [← small] at quiet ⊢
  rw [← large]
  exact renderThrough_eq_of_not_warned rfl
    (SameUnlessWarned.renderNoDeeper calm.renderers (DepthLimit.isReached_of_le bound further le) more .endless _) quiet

/-- A component of a pattern. -/
def instanceOf (ref : String) : Block :=
  ⟨.text "component", [(.text "ref", .text ref)], [], [], .tuple⟩

/-- Two patterns, the first of which holds an instance of the second. -/
def badgedPatterns : List (String × PatternData) :=
  [("card", .built ⟨"card", [instanceOf "badge"], []⟩),
    ("badge", .built ⟨"badge", [⟨.text "text", [(.text "content", .text "new")], [], [], .tuple⟩], []⟩)]

/-- An environment with room for both. -/
def badgedEnvironment : Environment :=
  { Environment.ofPatterns badgedPatterns with maxDepth := .ofInt 2 }

def badgedPage : Page :=
  ⟨.list (Block.toValues [instanceOf "card"]), .null, .null, .null⟩

/-- A page that fits. -/
theorem render_limited_badged :
    (badgedEnvironment.render badgedPage).1 = .ok "new" ∧
      (∃ calls, ∀ f, badgedEnvironment.renderThrough (renderNoDeeper badgedEnvironment 2 f calls) badgedPage =
        badgedEnvironment.render badgedPage) ∧
        { badgedEnvironment with maxDepth := .ofInt 5 }.render badgedPage = badgedEnvironment.render badgedPage := by
  have bound : badgedEnvironment.maxDepth.bound = some ((2 : Nat) : Int) := rfl
  have calm : badgedEnvironment.Calm := by
    obtain ⟨modifiers, loader, postProcessors, renderers⟩ := Environment.calm_ofPatterns badgedPatterns
    exact ⟨modifiers, loader, postProcessors, renderers⟩
  have quiet : (badgedEnvironment.render badgedPage).2.loops.journal.warnings = [] := by cbv
  have unwarned : ¬(badgedEnvironment.render badgedPage).2.Warned badgedEnvironment := by
    rintro ⟨ref, there⟩
    rw [quiet] at there
    cases there
  obtain ⟨shallow, -, further⟩ := calm.render_limited bound badgedPage
  exact ⟨by cbv, shallow, further unwarned (.ofInt 5) 5 rfl (by decide)⟩

end DynamicBlocks
