import DynamicBlocks.Proofs.KeptValues
import DynamicBlocks.Proofs.Pages
import DynamicBlocks.Render.Settings
import Mathlib

/-!
# Data is no markup

Where values are escaped and no element is rendered, a page is put together of what its text blocks say outside of
expressions, and of escaped values. If the former is without the characters that open and close tags and attributes, so
is the page: whatever sources, properties, items and slot content hold, and wherever the text blocks stand. What carries
the induction is that all blocks that a session may lead to are unmarked: those that frames keep for slots, and those of
the patterns it has found.

An element writes its attributes between double quotes; the values between them are escaped in any environment.
-/

set_option autoImplicit false

namespace DynamicBlocks

open RenderM

/-! ## Texts -/

/-- A text without the characters that open and close tags and attributes. -/
def Html.Unmarked (s : String) : Prop :=
  ∀ c ∈ s.toList, c ≠ '<' ∧ c ≠ '>' ∧ c ≠ '"'

namespace Html.Unmarked

/-- An empty text is unmarked. -/
theorem empty : Html.Unmarked "" := by
  intro c there
  cases there

/-- Two unmarked texts are unmarked together. -/
theorem append {s t : String} (first : Html.Unmarked s) (second : Html.Unmarked t) : Html.Unmarked (s ++ t) := by
  intro c there
  rw [String.toList_append] at there
  rcases List.mem_append.mp there with left | right
  · exact first c left
  · exact second c right

/-- Unmarked texts are unmarked together. -/
theorem join {texts : List String} (each : ∀ text ∈ texts, Html.Unmarked text) : Html.Unmarked (String.join texts) := by
  induction texts with
  | nil => exact empty
  | cons text texts ih =>
    rw [String.join_cons]
    exact (each text List.mem_cons_self).append (ih fun other there => each other (List.mem_cons_of_mem text there))

/-- An escaped text is unmarked. -/
theorem escape (s : String) : Html.Unmarked (Html.escape s) := by
  intro c there
  rw [Html.escape, String.toList_ofList] at there
  obtain ⟨d, _, inside⟩ := List.mem_flatMap.mp there
  exact Html.escapeChar_safe d c inside

end Html.Unmarked

/-- A template of which nothing outside of expressions is markup. -/
def UnmarkedLiterals (s : String) : Prop :=
  ∀ chars, Token.literal chars ∈ tokenize s → Html.Unmarked (String.ofList chars)

/-- A template filled with unmarked texts is unmarked. -/
theorem UnmarkedLiterals.fillTemplate {s : String} (literals : UnmarkedLiterals s)
    {replace : String → Except Failure String} (each : ∀ source, OnlyGives Html.Unmarked (replace source)) :
    OnlyGives Html.Unmarked (DynamicBlocks.fillTemplate s replace) := by
  refine .bind (.mapM fun token there => ?_) fun parts (unmarked : ∀ part ∈ parts, Html.Unmarked part) =>
    .ok (.join unmarked)
  cases token with
  | literal chars => exact .ok (literals chars there)
  | expression chars => exact each _

/-! ## Blocks -/

/-- A block tree without elements, in which the texts are unmarked outside of expressions. -/
inductive Block.Unmarked : Block → Prop where
  | intro {block : Block} (noElement : block.name ≠ .text "element")
      (literals : block.name = .text "text" → ∀ s, block.content? = some s → UnmarkedLiterals s)
      (inside : ∀ child ∈ block.inner, Unmarked child) : Unmarked block

namespace Block.Unmarked

variable {block : Block}

/-- An unmarked block is no element. -/
theorem noElement (h : block.Unmarked) : block.name ≠ .text "element" := by
  cases h with
  | intro noElement _ _ => exact noElement

/-- The literal parts of an unmarked text are unmarked. -/
theorem literals (h : block.Unmarked) (isText : block.name = .text "text") {s : String}
    (content : block.content? = some s) : UnmarkedLiterals s := by
  cases h with
  | intro _ literals _ => exact literals isText s content

/-- The blocks inside an unmarked block are unmarked. -/
theorem inside (h : block.Unmarked) : ∀ child ∈ block.inner, child.Unmarked := by
  cases h with
  | intro _ _ inside => exact inside

end Block.Unmarked

/-- An environment without extensions and post-processors that escapes values, with unmarked patterns. -/
structure Environment.Escapes (env : Environment) : Prop where
  autoescape : env.autoescape = true
  renderers : env.renderers = defaultRenderers
  postProcessors : env.postProcessors = []
  patterns : ∀ ref pattern, PatternCache.load env.loader ref = .ok (some pattern) →
    ∀ block ∈ pattern.blocks, block.Unmarked

/-- A frame that keeps unmarked blocks for its slots. -/
def SlotFrame.Unmarked (frame : SlotFrame) : Prop :=
  ∀ slot ∈ frame.slots, ∀ block ∈ slot.2.blocks, block.Unmarked

/-- What is known of a reference, if that is no pattern or one of unmarked blocks. -/
def UnmarkedPattern (known : Option Pattern) : Prop :=
  ∀ pattern, known = some pattern → ∀ block ∈ pattern.blocks, block.Unmarked

/-- A session that leads to unmarked blocks only. -/
structure Session.Unmarked (s : Session) : Prop where
  frames : ∀ frame ∈ s.frames, frame.Unmarked
  patterns : ∀ entry ∈ s.patterns.entries, UnmarkedPattern entry.2

/-- The slots of an instance are filled with blocks from inside of it. -/
theorem Surroundings.unmarked_frameFor {block : Block} (unmarked : block.Unmarked) (a : Surroundings)
    (env : Environment) (place : Place) : (a.frameFor env place block).Unmarked := by
  intro slot there inner inside
  have given := (firstOfName_sublist _).mem there
  obtain ⟨⟨child, position⟩, counted, filled⟩ := List.mem_filterMap.mp given
  dsimp only [Block.filledSlot?] at filled
  split at filled
  · obtain ⟨name, _, rfl⟩ := Option.map_eq_some_iff.mp filled
    exact (unmarked.inside child (List.fst_mem_of_mem_zipIdx counted)).inside inner inside
  · cases filled

/-- What is found for a reference is unmarked, and so is all that is known then. -/
theorem PatternCache.unmarked_get {cache : PatternCache} (known : ∀ entry ∈ cache.entries, UnmarkedPattern entry.2)
    {env : Environment} (escapes : env.Escapes) (ref : Value) :
    OnlyGives UnmarkedPattern (cache.get env.loader ref).1 ∧
      ∀ entry ∈ (cache.get env.loader ref).2.entries, UnmarkedPattern entry.2 := by
  unfold PatternCache.get PatternCache.find
  split
  · exact ⟨.ok fun _ found => (nomatch found), known⟩
  split
  · rename_i found there
    exact ⟨.ok (known (ref.plain, found) (mem_of_lookup_eq_some there)), known⟩
  split
  · rename_i found loaded
    have unmarked : UnmarkedPattern found := by
      rintro pattern rfl
      exact escapes.patterns ref.plain pattern loaded
    exact ⟨.ok unmarked, List.forall_mem_append.mpr ⟨known, List.forall_mem_singleton.mpr unmarked⟩⟩
  · exact ⟨.error _, known⟩

/-! ## Actions -/

/-- An action that comes to fine values and goes on leading to unmarked blocks. -/
def StaysUnmarked {α : Type} (fine : α → Prop) (action : RenderM α) : Prop :=
  ∀ s, Session.Unmarked s → OnlyGives fine (action s).1 ∧ (action s).2.Unmarked

namespace StaysUnmarked

section

variable {α β : Type} {fine : α → Prop} {finer : β → Prop}

/-- An action that only comes to a value leaves a session as it is. -/
theorem pure {x : α} (h : fine x) : StaysUnmarked fine (Pure.pure x : RenderM α) := fun _ unmarked => ⟨.ok h, unmarked⟩

/-- So does one that only comes to an outcome. -/
theorem ofExcept {outcome : Except Failure α} (h : OnlyGives fine outcome) :
    StaysUnmarked fine (RenderM.ofExcept outcome) := fun _ unmarked => ⟨h, unmarked⟩

/-- Actions one after the other keep a session unmarked if both do. -/
theorem bind {action : RenderM α} {next : α → RenderM β} (first : StaysUnmarked fine action)
    (rest : ∀ x, fine x → StaysUnmarked finer (next x)) : StaysUnmarked finer (action >>= next) := by
  intro s unmarked
  obtain ⟨gives, stays⟩ := first s unmarked
  rcases done : action s with ⟨outcome, t⟩
  rw [done] at gives stays
  cases outcome with
  | error f =>
    rw [bind_of_error done]
    exact ⟨.error f, stays⟩
  | ok x =>
    rw [bind_of_ok done]
    exact rest x (gives x rfl) t stays

/-- A function of the value is fine if it keeps what is fine. -/
theorem map {action : RenderM α} (h : StaysUnmarked fine action) {f : α → β} (finish : ∀ x, fine x → finer (f x)) :
    StaysUnmarked finer (f <$> action) := by
  rw [map_eq_pure_bind]
  exact h.bind fun x hx => pure (finish x hx)

/-- A failure comes to nothing that could be marked. -/
theorem throw (f : Failure) : StaysUnmarked fine (MonadExcept.throw f : RenderM α) :=
  fun _ unmarked => ⟨.error f, unmarked⟩

/-- What leaves frames and patterns alone stays unmarked. -/
theorem of_eq {action : RenderM α} (gives : ∀ s, OnlyGives fine (action s).1)
    (frames : ∀ s, (action s).2.frames = s.frames) (patterns : ∀ s, (action s).2.patterns = s.patterns) :
    StaysUnmarked fine action := by
  intro s unmarked
  refine ⟨gives s, ?_, ?_⟩
  · rw [frames]
    exact unmarked.frames
  · rw [patterns]
    exact unmarked.patterns

/-- The sources of a block come with nothing marked. -/
theorem sourcesOf (block : Block) : StaysUnmarked (fun _ => True) (RenderM.sourcesOf block) :=
  of_eq (fun _ _ _ => trivial) (fun _ => rfl) fun _ => rfl

/-- Loops keep a session unmarked, for they have no access to its frames. -/
theorem ofLoops (action : LoopM α) : StaysUnmarked (fun _ => True) (RenderM.ofLoops action) :=
  of_eq (fun _ _ _ => trivial) (fun _ => rfl) fun _ => rfl

/-- A warning keeps a session unmarked. -/
theorem warn (warning : String) : StaysUnmarked (fun _ => True) (RenderM.warn warning) :=
  of_eq (fun _ _ _ => trivial) (fun _ => rfl) fun _ => rfl

/-- So does a change of the context. -/
theorem changeContext (change : Provider → Except Failure Provider) :
    StaysUnmarked (fun _ => True) (RenderM.changeContext change) := by
  refine of_eq (fun _ _ _ => trivial) (fun s => ?_) fun s => ?_
  all_goals
    unfold RenderM.changeContext
    cases change s.context <;> rfl

/-- The frame of an unmarked block is unmarked. -/
theorem frameOf {block : Block} (unmarked : block.Unmarked) (env : Environment) (place : Place) :
    StaysUnmarked SlotFrame.Unmarked (RenderM.frameOf env place block) :=
  of_eq (fun s => .ok (s.unmarked_frameFor unmarked env place)) (fun _ => rfl) fun _ => rfl

/-! ## Scopes -/

/-- An action is followed by what undoes its surroundings, which keeps them unmarked. -/
theorem undoing {undo : Session → Except Failure Unit × Session}
    (keeps : ∀ s, Session.Unmarked s → (undo s).2.Unmarked) {action : RenderM α} (h : StaysUnmarked fine action) :
    StaysUnmarked fine (RenderM.undoing undo action) := by
  intro s unmarked
  obtain ⟨gives, stays⟩ := h s unmarked
  rcases done : action s with ⟨outcome, inside⟩
  rw [done] at gives stays
  have undone := keeps inside stays
  unfold RenderM.undoing
  rw [done]
  dsimp only
  rcases hundo : undo inside with ⟨outcome', after⟩
  rw [hundo] at undone
  cases outcome' with
  | ok _ => exact ⟨gives, undone⟩
  | error f => exact ⟨.error f, undone⟩

/-- An action with entries pushed keeps a session unmarked. -/
theorem withPushed (entries : List Entry) {action : RenderM α} (h : StaysUnmarked fine action) :
    StaysUnmarked fine (RenderM.withPushed entries action) := fun s unmarked =>
  undoing (fun _ inside => ⟨inside.frames, inside.patterns⟩) h (s.pushEntries entries)
    ⟨unmarked.frames, unmarked.patterns⟩

/-- So does one with the context isolated. -/
theorem withIsolated (entries : List Entry) {action : RenderM α} (h : StaysUnmarked fine action) :
    StaysUnmarked fine (RenderM.withIsolated entries action) := fun s unmarked =>
  undoing (fun _ inside => ⟨inside.frames, inside.patterns⟩) h (s.surround (s.isolated entries))
    ⟨unmarked.frames, unmarked.patterns⟩

/-- So does one within a component. -/
theorem withComponent (env : Environment) (ref : Value) {action : RenderM α} (h : StaysUnmarked fine action) :
    StaysUnmarked fine (RenderM.withComponent env ref action) := by
  intro s unmarked
  unfold RenderM.withComponent Session.enterComponent
  split
  · rename_i entered there
    split at there
    · cases there
    · cases there
      exact undoing (fun _ inside => ⟨inside.frames, inside.patterns⟩) h _ ⟨unmarked.frames, unmarked.patterns⟩
  · exact ⟨.error _, unmarked⟩

/-- The frame of an instance is dropped again, whatever stands below. -/
theorem withFrame {frame : SlotFrame} (own : frame.Unmarked) {action : RenderM α} (h : StaysUnmarked fine action) :
    StaysUnmarked fine (RenderM.withFrame frame action) := by
  intro s unmarked
  refine undoing (fun t inside => ?_) h (s.surround (s.framed frame))
    ⟨List.forall_mem_cons.mpr ⟨own, unmarked.frames⟩, unmarked.patterns⟩
  unfold Session.leaveFrame SlotFrames.pop
  have frames := inside.frames
  cases opened : t.frames with
  | nil => exact inside
  | cons top rest =>
    rw [opened] at frames
    exact ⟨(List.forall_mem_cons.mp frames).2, inside.patterns⟩

/-- The frame that was hidden is put back on those that are there then. -/
theorem withOuterFrames {action : RenderM α} (h : StaysUnmarked fine action) :
    StaysUnmarked fine (RenderM.withOuterFrames action) := by
  intro s unmarked
  have parts : (∀ frame ∈ (SlotFrames.hide s.frames).1.toList, frame.Unmarked) ∧
      ∀ frame ∈ (SlotFrames.hide s.frames).2, frame.Unmarked := by
    have frames := unmarked.frames
    rw [← SlotFrames.restore_hide s.frames] at frames
    exact List.forall_mem_append.mp frames
  refine undoing (fun t inside => ⟨?_, inside.patterns⟩) h (s.surround s.uncovered) ⟨parts.2, unmarked.patterns⟩
  exact List.forall_mem_append.mpr ⟨parts.1, inside.frames⟩

/-- So does one with a slot guarded. -/
theorem withGuard (key : GuardKey) {action : RenderM α} (h : StaysUnmarked fine action) :
    StaysUnmarked fine (RenderM.withGuard key action) := by
  intro s unmarked
  refine undoing (fun t inside => ?_) h (s.enterSlot key) ⟨unmarked.frames, unmarked.patterns⟩
  unfold Session.leaveSlot
  split
  · exact inside
  · exact ⟨inside.frames, inside.patterns⟩

/-- So does one with the session active. -/
theorem withActive {action : RenderM α} (h : StaysUnmarked fine action) :
    StaysUnmarked fine (RenderM.withActive action) := fun s unmarked =>
  undoing (fun _ inside => ⟨inside.frames, inside.patterns⟩) h (s.surround s.activated)
    ⟨unmarked.frames, unmarked.patterns⟩

/-- Without post-processors a text stays what it is. -/
theorem postProcess {env : Environment} (none : env.postProcessors = []) (block : Block) {text : String}
    (unmarked : Html.Unmarked text) : StaysUnmarked Html.Unmarked (RenderM.postProcess env block text) := by
  unfold RenderM.postProcess
  rw [none]
  exact ofExcept (.ok unmarked)

/-- A pattern that is found holds unmarked blocks. -/
theorem findPattern {env : Environment} (escapes : env.Escapes) (ref : Value) :
    StaysUnmarked UnmarkedPattern (RenderM.findPattern env ref) := by
  intro s unmarked
  obtain ⟨gives, stays⟩ := PatternCache.unmarked_get unmarked.patterns escapes ref
  exact ⟨gives, unmarked.frames, stays⟩

/-- An instance that is too deep comes to nothing. -/
theorem absorbDepth {fine : Option String → Prop} {action : RenderM (Option String)} (h : StaysUnmarked fine action)
    (nothing : fine none) : StaysUnmarked fine (RenderM.absorbDepth action) := by
  intro s unmarked
  obtain ⟨gives, stays⟩ := h s unmarked
  unfold RenderM.absorbDepth
  split
  · rename_i after failed
    rw [failed] at stays
    exact ⟨.ok nothing, stays.frames, stays.patterns⟩
  · exact ⟨gives, stays⟩

/-- A slot that is guarded comes to nothing. -/
theorem unlessGuarded (env : Environment) (key : GuardKey) {action : RenderM String}
    (h : StaysUnmarked Html.Unmarked action) : StaysUnmarked Html.Unmarked (RenderM.unlessGuarded env key action) := by
  intro s unmarked
  unfold RenderM.unlessGuarded
  split
  · exact h.withGuard key s unmarked
  · exact ⟨.ok .empty, unmarked⟩
  · obtain ⟨gives, stays⟩ := h.withGuard key s unmarked
    exact ⟨gives, stays.frames, stays.patterns⟩

end

/-! ## Kinds of blocks -/

section

variable {env : Environment} {block : Block} {inner : RenderM String}

/-- A text comes to an unmarked text, since the values in it are escaped. -/
theorem renderText (escapes : env.Escapes) (literals : ∀ s, block.content? = some s → UnmarkedLiterals s) :
    StaysUnmarked Html.Unmarked (RenderM.renderText env block) := by
  unfold RenderM.renderText
  split
  · exact pure .empty
  · rename_i content there
    refine (sourcesOf block).bind fun sources _ => ?_
    refine (ofExcept ?_).bind fun text unmarked => postProcess escapes.postProcessors block unmarked
    unfold Environment.substitute substituteWith
    rw [if_pos escapes.autoescape]
    exact (literals content there).fillTemplate fun source => .after fun v => .after fun shown => .ok (.escape shown)

/-- Items one by one: an induction on them. -/
theorem renderItems (block : Block) (h : StaysUnmarked Html.Unmarked inner) (index : Nat) (items : List Value) :
    StaysUnmarked Html.Unmarked (RenderM.renderItems block inner index items) := by
  induction items generalizing index with
  | nil => exact pure .empty
  | cons item items ih =>
    exact (h.withPushed _).bind fun first hfirst => (ih (index + 1)).bind fun rest hrest => pure (hfirst.append hrest)

/-- The items of a loop do not matter, for they are seen by expressions only. -/
theorem renderLoop (env : Environment) (block : Block) (h : StaysUnmarked Html.Unmarked inner) :
    StaysUnmarked Html.Unmarked (RenderM.renderLoop env block inner) := by
  refine (sourcesOf block).bind fun sources _ => ?_
  have data : StaysUnmarked (fun _ => True) (RenderM.loopData env block sources) := by
    unfold RenderM.loopData
    split
    · exact (ofLoops _).map fun _ _ => trivial
    · refine (ofExcept fun _ _ => trivial).bind fun params _ => (ofLoops _).bind fun items _ => ?_
      split
      · exact pure trivial
      · exact ofExcept fun _ _ => trivial
  exact data.bind fun v _ => (ofExcept fun _ _ => trivial).bind fun items _ => renderItems block h 0 items

/-- An instance comes to what its pattern comes to. -/
theorem renderInstance (escapes : env.Escapes) (unmarked : block.Unmarked) (place : Place) (pattern : Pattern)
    {body : RenderM String} (h : StaysUnmarked Html.Unmarked body) :
    StaysUnmarked Html.Unmarked (RenderM.renderInstance env place block pattern body) := by
  have props : StaysUnmarked (fun _ => True) (RenderM.propsOf env block pattern) :=
    (sourcesOf block).bind fun sources _ => (ofExcept fun _ _ => trivial).bind fun attributes _ => ofLoops _
  refine props.bind fun props _ => (frameOf unmarked env place).bind fun frame own => ?_
  have rendered : StaysUnmarked (fun text => ∀ t, text = some t → Html.Unmarked t)
      (RenderM.renderBody env block.ref frame props body) := by
    refine absorbDepth (map (withComponent env block.ref (withIsolated _ (withFrame own h))) fun text unmarked => ?_)
      fun _ nothing => nomatch nothing
    rintro t ⟨⟩
    exact unmarked
  refine rendered.bind fun text unmarked => ?_
  cases text with
  | none => exact pure .empty
  | some text => exact postProcess escapes.postProcessors block (unmarked text rfl)

/-- So does a component, whatever pattern it asks for. -/
theorem renderComponent (escapes : env.Escapes) (unmarked : block.Unmarked) (place : Place)
    {body : String → List Block → RenderM String}
    (h : ∀ ref blocks, (∀ inner ∈ blocks, inner.Unmarked) → StaysUnmarked Html.Unmarked (body ref blocks)) :
    StaysUnmarked Html.Unmarked (RenderM.renderComponent env place block body) := by
  unfold RenderM.renderComponent
  split
  · exact pure .empty
  · refine (findPattern escapes block.ref).bind fun found fromPattern => ?_
    cases found with
    | none => exact (warn _).bind fun _ _ => pure .empty
    | some pattern =>
      dsimp only
      split
      · exact pure .empty
      · exact renderInstance escapes unmarked place pattern (h _ pattern.blocks (fromPattern pattern rfl))

/-- The content of a slot comes from a frame, whose blocks are unmarked. -/
theorem renderPlaceholder (env : Environment) (block : Block) {fill : SlotContent → RenderM String}
    (h : ∀ content : SlotContent, (∀ inner ∈ content.blocks, inner.Unmarked) →
      StaysUnmarked Html.Unmarked (fill content)) :
    StaysUnmarked Html.Unmarked (RenderM.renderPlaceholder env block fill) := by
  unfold RenderM.renderPlaceholder
  split
  · exact pure .empty
  · rename_i name _
    have current : StaysUnmarked (fun top => ∀ frame, top = some frame → frame.Unmarked) RenderM.currentFrame? := by
      intro s unmarked
      refine ⟨.ok fun frame top => ?_, unmarked⟩
      exact unmarked.frames frame (List.mem_of_head? top)
    refine current.bind fun top own => ?_
    cases top with
    | none => exact pure .empty
    | some frame =>
      dsimp only
      split
      · exact pure .empty
      · rename_i content filled
        obtain ⟨found, -⟩ := Option.filter_eq_some_iff.mp filled
        have unmarked := own frame rfl (name, content) (mem_of_lookup_eq_some found)
        exact unlessGuarded env _ ((h content unmarked).withIsolated _).withOuterFrames

end

end StaysUnmarked

/-! ## Trees -/

/-- Ways on that lead from unmarked blocks to unmarked texts. -/
structure WaysOn.StayUnmarked (on : WaysOn) : Prop where
  body : ∀ ref blocks, (∀ block ∈ blocks, block.Unmarked) → StaysUnmarked Html.Unmarked (on.body ref blocks)
  fill : ∀ content : SlotContent, (∀ block ∈ content.blocks, block.Unmarked) →
    StaysUnmarked Html.Unmarked (on.fill content)

namespace Environment.Escapes

variable {env : Environment}

/-- One block, given the ways on and what is inside. -/
theorem renderNamed (escapes : env.Escapes) {on : WaysOn} (ways : on.StayUnmarked) (place : Place) {block : Block}
    (unmarked : block.Unmarked) {inside : RenderM String} (h : StaysUnmarked Html.Unmarked inside) :
    StaysUnmarked Html.Unmarked (RenderM.renderNamed env on place block inside) := by
  unfold RenderM.renderNamed Environment.rendererFor
  rw [escapes.renderers]
  split
  · rename_i name named
    rw [ofExcept_ok_bind]
    cases found : defaultRenderers.lookup name with
    | none => exact h
    | some renderer =>
      have listed := mem_of_lookup_eq_some found
      unfold defaultRenderers at listed
      simp only [List.mem_cons, Prod.mk.injEq, List.not_mem_nil, or_false] at listed
      rcases listed with ⟨rfl, rfl⟩ | ⟨rfl, rfl⟩ | ⟨rfl, rfl⟩ | ⟨rfl, rfl⟩ | ⟨rfl, rfl⟩ | ⟨rfl, rfl⟩
      · exact .renderText escapes fun _ content => unmarked.literals named content
      · exact absurd named unmarked.noElement
      · exact .renderComponent escapes unmarked place ways.body
      · exact .renderLoop env block h
      · exact .renderPlaceholder env block ways.fill
      · exact .pure .empty
  · split
    · exact h
    · exact .throw _

/-- The children of a place, given how each of them is rendered. -/
theorem renderFrom_of_each {on : WaysOn} {blocks : List Block}
    (each : ∀ block ∈ blocks, ∀ place, StaysUnmarked Html.Unmarked (renderBlock env on place block)) (place : Place)
    (position : Nat) : StaysUnmarked Html.Unmarked (RenderM.renderFrom env on place position blocks) := by
  induction blocks generalizing position with
  | nil =>
    unfold RenderM.renderFrom
    exact .pure .empty
  | cons block blocks ih =>
    unfold RenderM.renderFrom
    have rest := ih (fun other there => each other (List.mem_cons_of_mem block there)) (position + 1)
    exact (each block List.mem_cons_self _).bind fun first hfirst => rest.bind fun text htext =>
      .pure (hfirst.append htext)

/-- One block, given the ways on: an induction on the tree. -/
theorem renderBlock (escapes : env.Escapes) {on : WaysOn} (ways : on.StayUnmarked) {block : Block}
    (unmarked : block.Unmarked) (place : Place) :
    StaysUnmarked Html.Unmarked (RenderM.renderBlock env on place block) := by
  induction unmarked generalizing place with
  | intro noElement literals inside ih =>
    rw [renderBlock_eq]
    exact escapes.renderNamed ways place (.intro noElement literals inside) (renderFrom_of_each ih place 0)

/-- Blocks come to unmarked texts if the ways on do: an induction on the blocks. -/
theorem renderFrom (escapes : env.Escapes) {on : WaysOn} (ways : on.StayUnmarked) {blocks : List Block}
    (unmarked : ∀ block ∈ blocks, block.Unmarked) (place : Place) (position : Nat) :
    StaysUnmarked Html.Unmarked (RenderM.renderFrom env on place position blocks) :=
  renderFrom_of_each (fun block there place => escapes.renderBlock ways (unmarked block there) place) place position

/-- The ways on with a number of frames in sight: an induction on that number, for slot content sees one frame less. -/
theorem waysOn (escapes : env.Escapes) (anew : BlockRender) {body : Nat → String → List Block → RenderM String}
    (bodies : ∀ frames ref blocks, (∀ block ∈ blocks, block.Unmarked) →
      StaysUnmarked Html.Unmarked (body frames ref blocks)) (frames : Nat) :
    (RenderM.waysOn env anew body frames).StayUnmarked := by
  induction frames with
  | zero => exact ⟨bodies 1, fun _ _ => .pure .empty⟩
  | succ frames ih =>
    exact ⟨bodies (frames + 2), fun content unmarked => escapes.renderFrom ih unmarked content.place 0⟩

/-- The body of a pattern: an induction on the levels left, for a component inside it has one level less. -/
theorem bodyAt (escapes : env.Escapes) (anew : BlockRender) (levels frames : Nat) (ref : String) (blocks : List Block)
    (unmarked : ∀ block ∈ blocks, block.Unmarked) :
    StaysUnmarked Html.Unmarked (RenderM.bodyAt env anew levels frames ref blocks) := by
  induction levels generalizing frames ref blocks with
  | zero => exact .throw .endless
  | succ levels ih => exact escapes.renderFrom (escapes.waysOn anew ih frames) unmarked (.body ref) 0

/-- Unmarked blocks come to an unmarked text. -/
theorem renderBlocks (escapes : env.Escapes) {blocks : List Block} (unmarked : ∀ block ∈ blocks, block.Unmarked)
    (place : Place) : StaysUnmarked Html.Unmarked (RenderM.renderBlocks env place blocks) := by
  intro s
  rw [renderBlocks_apply]
  exact escapes.renderFrom (escapes.waysOn _ (escapes.bodyAt _ _) _) unmarked place 0 s

/-- A page of unmarked blocks comes to an unmarked text. -/
theorem renderPage (escapes : env.Escapes) {blocks : Value} (sources : Value)
    (unmarked : ∀ read, Block.ofSeries blocks = .ok read → ∀ block ∈ read, block.Unmarked) :
    StaysUnmarked Html.Unmarked (RenderM.renderPage env blocks sources) := by
  refine .withActive (.bind (.ofExcept fun _ _ => trivial) fun entries _ => .withPushed entries ?_)
  exact (StaysUnmarked.ofExcept unmarked).bind fun read hread => escapes.renderBlocks hread .page

end Environment.Escapes

/-! ## Elements -/

/-- An attribute in an opening tag, with a value between double quotes or without one. -/
def writtenAttribute : String × Option String → String
  | (name, none) => " " ++ name
  | (name, some value) => " " ++ name ++ "=\"" ++ value ++ "\""

/-- The keys of the attributes that an element is given. -/
def Block.attributeKeys (block : Block) : List Value :=
  match Entries.field block.attrs "attributes" with
  | .map entries => entries.map Prod.fst
  | _ => []

/-- Whether an opening tag has some of the attributes that the element is given, in their order, and no value with a
character that could close it. -/
def Block.OpensWith (block : Block) (opening : String) : Prop :=
  ∃ written : List (String × Option String),
    opening = "<" ++ block.tag ++ String.join (written.map writtenAttribute) ++ ">" ∧
      (written.map fun entry => Value.text entry.1).Sublist block.attributeKeys ∧
      ∀ entry ∈ written, ∀ value, entry.2 = some value → Html.Unmarked value

/-- Texts joined with nothing between them are the texts one after the other. -/
theorem join_empty (texts : List String) : Text.join "" texts = String.join texts := by
  induction texts with
  | nil => rfl
  | cons text texts ih =>
    rw [String.join_cons, ← ih]
    cases texts with
    | nil => simp [Text.join]
    | cons next texts => simp [Text.join]

/-- An entry gives no attribute, or the one under its key; a value is escaped. -/
theorem Environment.exists_written_of_elementAttribute {env : Environment} {sources : List Source}
    {entry : Value × Value} {text : String} (h : env.elementAttribute sources entry = .ok text) :
    text = "" ∨ ∃ name value, entry.1 = .text name ∧ text = writtenAttribute (name, value) ∧
      ∀ shown, value = some shown → Html.Unmarked shown := by
  unfold Environment.elementAttribute at h
  split at h
  · rename_i name key
    split at h
    · exact .inl (Except.ok.inj h).symm
    · obtain ⟨v, _, h⟩ := exists_of_bind_eq_ok h
      unfold Environment.attributeText at h
      split at h
      · exact .inl (Except.ok.inj h).symm
      · exact .inl (Except.ok.inj h).symm
      · exact .inr ⟨name, none, key, (Except.ok.inj h).symm, by simp⟩
      · obtain ⟨shown, _, h⟩ := exists_of_bind_eq_ok h
        refine .inr ⟨name, some (Html.escape shown), key, (Except.ok.inj h).symm, ?_⟩
        rintro _ ⟨⟩
        exact .escape shown
  · exact .inl (Except.ok.inj h).symm

/-- Entries one by one: an induction on them, where those that give nothing are passed over. -/
theorem Environment.exists_written_of_mapM {env : Environment} {sources : List Source} {entries : Entries}
    {texts : List String} (h : entries.mapM (env.elementAttribute sources) = .ok texts) :
    ∃ written : List (String × Option String),
      String.join texts = String.join (written.map writtenAttribute) ∧
        (written.map fun entry => Value.text entry.1).Sublist (entries.map Prod.fst) ∧
        ∀ entry ∈ written, ∀ value, entry.2 = some value → Html.Unmarked value := by
  induction entries generalizing texts with
  | nil =>
    obtain rfl : texts = [] := (Except.ok.inj h).symm
    exact ⟨[], rfl, List.Sublist.refl _, fun _ there => nomatch there⟩
  | cons entry entries ih =>
    rw [List.mapM_cons] at h
    obtain ⟨text, hentry, h⟩ := exists_of_bind_eq_ok h
    obtain ⟨rest, hentries, h⟩ := exists_of_bind_eq_ok h
    obtain rfl : texts = text :: rest := (Except.ok.inj h).symm
    obtain ⟨written, joined, sublist, unmarked⟩ := ih hentries
    rw [String.join_cons, joined]
    rcases exists_written_of_elementAttribute hentry with rfl | ⟨name, value, key, rfl, own⟩
    · exact ⟨written, String.empty_append, sublist.cons _, unmarked⟩
    · refine ⟨(name, value) :: written, ?_, ?_, List.forall_mem_cons.mpr ⟨own, unmarked⟩⟩
      · rw [List.map_cons, String.join_cons]
      · rw [List.map_cons, List.map_cons, key]
        exact sublist.cons_cons _

/-- The tag of an element opens with the name of the element and its attributes. -/
theorem Environment.opensWith_of_elementAttributes {env : Environment} {sources : List Source} {block : Block}
    {text : String} (h : env.elementAttributes sources (Entries.field block.attrs "attributes") = .ok text) :
    block.OpensWith ("<" ++ block.tag ++ text ++ ">") := by
  have finish (entries : Entries) (known : (entries.map Prod.fst).Sublist block.attributeKeys)
      (h : (do let texts ← entries.mapM (env.elementAttribute sources); pure (Text.join "" texts)) = .ok text) :
      block.OpensWith ("<" ++ block.tag ++ text ++ ">") := by
    obtain ⟨texts, each, h⟩ := exists_of_bind_eq_ok h
    obtain ⟨written, joined, sublist, unmarked⟩ := exists_written_of_mapM each
    obtain rfl : text = String.join (written.map writtenAttribute) := by
      rw [← joined, ← join_empty]
      exact (Except.ok.inj h).symm
    exact ⟨written, rfl, sublist.trans known, unmarked⟩
  unfold Environment.elementAttributes at h
  dsimp only at h
  split at h
  · obtain ⟨entries, given, h⟩ := exists_of_bind_eq_ok h
    refine finish entries ?_ h
    unfold Value.asEntries at given
    split at given
    · rename_i own there
      obtain rfl := Except.ok.inj given
      have keys : block.attributeKeys = own.map Prod.fst := by
        unfold Block.attributeKeys
        rw [there]
      exact keys ▸ List.Sublist.refl _
    · cases given
  · exact finish [] (List.nil_sublist _) h

/-- An element is its opening tag, with what is inside and the closing tag behind it unless it is void. -/
theorem opensWith_of_renderElement {env : Environment} {block : Block} {inner : RenderM String} {s t : Session}
    {out : String} (h : renderElement env block inner s = (.ok out, t)) :
    ∃ opening rest u, block.OpensWith opening ∧
      (rest = "" ∧ u = s ∨ ∃ text, inner s = (.ok text, u) ∧ rest = text ++ "</" ++ block.tag ++ ">") ∧
      postProcess env block (opening ++ rest) u = (.ok out, t) := by
  have read : sourcesOf block s = (.ok (s.context.sources block.context), s) := rfl
  unfold renderElement at h
  rw [bind_of_ok read] at h
  let sources := s.context.sources block.context
  cases attributes : env.elementAttributes sources (Entries.field block.attrs "attributes") with
  | error f =>
    rw [attributes, ofExcept_error_bind] at h
    cases h
  | ok text =>
    rw [attributes, ofExcept_ok_bind] at h
    have opens := Environment.opensWith_of_elementAttributes attributes
    split at h
    · refine ⟨_, "", s, opens, .inl ⟨rfl, rfl⟩, ?_⟩
      rw [String.append_empty]
      exact h
    · rcases done : inner s with ⟨outcome, u⟩
      cases outcome with
      | error f =>
        rw [bind_of_error done] at h
        cases h
      | ok text =>
        rw [bind_of_ok done] at h
        refine ⟨_, text ++ "</" ++ block.tag ++ ">", u, opens, .inr ⟨text, rfl, rfl⟩, ?_⟩
        rw [← h]
        simp only [String.append_assoc]

/-! ## Pages -/

/-- Where values are escaped and no element is rendered, a page whose text blocks are unmarked outside of expressions is
unmarked. An element has some of the attributes it is given, in their order, and no value with a character that could
close it, whatever the environment. -/
theorem render_unmarked (env : Environment) :
    (env.Escapes → ∀ page : Page,
      (∀ blocks, Block.ofSeries page.blocks = .ok blocks → ∀ block ∈ blocks, block.Unmarked) →
        ∀ text, (env.render page).1 = .ok text → Html.Unmarked text) ∧
    ∀ block inner s out t, renderElement env block inner s = (.ok out, t) →
      ∃ opening rest u, block.OpensWith opening ∧
        (rest = "" ∧ u = s ∨ ∃ text, inner s = (.ok text, u) ∧ rest = text ++ "</" ++ block.tag ++ ">") ∧
        postProcess env block (opening ++ rest) u = (.ok out, t) := by
  refine ⟨fun escapes page unmarked text rendered => ?_, fun _ _ _ _ _ => opensWith_of_renderElement⟩
  have registered : StaysUnmarked (fun _ => True) (registering page.globals page.previews) :=
    (StaysUnmarked.changeContext _).bind fun _ _ => .changeContext _
  have rendering := registered.bind fun _ _ => escapes.renderPage page.sources unmarked
  have start : (Session.start env.host).Unmarked := ⟨fun _ there => (nomatch there), fun _ there => nomatch there⟩
  rw [render_eq_registering] at rendered
  exact (rendering (Session.start env.host) start).1 text rendered

/-! ## A letter -/

/-- An environment of built patterns without markup escapes. -/
theorem Environment.escapes_ofPatterns {patterns : List (String × Pattern)}
    (unmarked : ∀ entry ∈ patterns, ∀ block ∈ entry.2.blocks, block.Unmarked) :
    (Environment.ofPatterns (patterns.map fun entry => (entry.1, .built entry.2))).Escapes where
  autoescape := rfl
  renderers := rfl
  postProcessors := rfl
  patterns := by
    intro ref pattern loaded
    unfold Environment.ofPatterns PatternCache.load PatternLoader.table at loaded
    dsimp only at loaded
    split at loaded
    · rename_i found there
      obtain rfl := Option.some.inj (Except.ok.inj loaded)
      split at there
      · rename_i data listed
        obtain ⟨entry, own, same⟩ := List.mem_map.mp (List.mem_reverse.mp (mem_of_lookup_eq_some listed))
        cases same
        obtain rfl := Except.ok.inj there
        exact unmarked entry own
      · cases there
    · cases loaded
    · cases loaded

/-- A text block. -/
def textOf (s : String) : Block :=
  ⟨.text "text", [(.text "content", .text s)], [], [], .tuple⟩

/-- A text block with unmarked literals is unmarked. -/
theorem unmarked_textOf {s : String} (literals : UnmarkedLiterals s) : (textOf s).Unmarked := by
  refine .intro (by simp [textOf]) (fun _ t content => ?_) fun _ there => nomatch there
  have field : Entries.field (textOf s).attrs "content" = .text s := by
    simp [textOf, Entries.field, Entries.field?, Entries.get?, Value.agrees, Value.same]
  unfold Block.content? at content
  rw [field] at content
  dsimp only at content
  split at content
  · cases content
  · cases content
    exact literals

/-- A pattern of a letter, with a slot for whom it is to. -/
def letterPattern : Pattern :=
  ⟨"letter", [textOf "Dear ", ⟨.text "slot-placeholder", [(.text "name", .text "to")], [], [], .tuple⟩], []⟩

/-- A letter to a name. -/
def namedLetter : Block :=
  ⟨.text "component", [(.text "ref", .text "letter")],
    [⟨.text "slot-content", [(.text "name", .text "to")], [textOf "\x7bname\x7d!"], [], .tuple⟩], [], .tuple⟩

/-- A link that has the name for a title. -/
def namedLink : Block :=
  ⟨.text "element", [(.text "tag", .text "a"),
    (.text "attributes", .map [(.text "title", .text "\x7bname\x7d"), (.text "hidden", .bool true)])], [], [], .tuple⟩

def letterEnvironment : Environment :=
  Environment.ofPatterns [("letter", .built letterPattern)]

/-- A page with the letter, to a name with markup in it. -/
def letterPage : Page :=
  ⟨.list [namedLetter.toValue], .map [(.text "name", .text "<b>")], .null, .null⟩

/-- The environment of the letter escapes. -/
theorem escapes_letterEnvironment : letterEnvironment.Escapes := by
  have dear : UnmarkedLiterals "Dear " := by
    intro chars there
    have tokens : tokenize "Dear " = [.literal ['D', 'e', 'a', 'r', ' ']] := by cbv
    rw [tokens, List.mem_singleton] at there
    rw [Token.literal.inj there]
    simp [Html.Unmarked]
  have slot : Block.Unmarked ⟨.text "slot-placeholder", [(.text "name", .text "to")], [], [], .tuple⟩ :=
    .intro (by simp) (by simp) fun _ there => nomatch there
  have unmarked : ∀ entry ∈ [("letter", letterPattern)], ∀ block ∈ entry.2.blocks, block.Unmarked :=
    List.forall_mem_singleton.mpr
      (List.forall_mem_cons.mpr ⟨unmarked_textOf dear, List.forall_mem_singleton.mpr slot⟩)
  exact Environment.escapes_ofPatterns unmarked

/-- The letter holds nothing marked. -/
theorem unmarked_namedLetter : namedLetter.Unmarked := by
  have name : UnmarkedLiterals "\x7bname\x7d!" := by
    intro chars there
    have tokens : tokenize "\x7bname\x7d!" = [.expression "name".toList, .literal ['!']] := by cbv
    simp only [tokens, List.mem_cons, reduceCtorEq, Token.literal.injEq, List.not_mem_nil, or_false, false_or] at there
    rw [there]
    simp [Html.Unmarked]
  refine .intro (by simp [namedLetter]) (by simp [namedLetter]) (List.forall_mem_singleton.mpr ?_)
  exact .intro (by simp) (by simp) (List.forall_mem_singleton.mpr (unmarked_textOf name))

/-- A session that knows the name. -/
def namedSession : Session :=
  (Session.start .silent).withStack ⟨[.ofLocal (.text "name") (.text "<b>")]⟩

/-- A letter to a name with markup in it, and a link that has the name for a title. -/
theorem render_unmarked_letter :
    letterEnvironment.Escapes ∧
      (∀ blocks, Block.ofSeries letterPage.blocks = .ok blocks → ∀ block ∈ blocks, block.Unmarked) ∧
      (letterEnvironment.render letterPage).1 = .ok "Dear &lt;b&gt;!" ∧ Html.Unmarked "Dear &lt;b&gt;!" ∧
      ∃ opening rest u, namedLink.OpensWith opening ∧
        (rest = "" ∧ u = namedSession ∨
          ∃ text, (pure "x" : RenderM String) namedSession = (.ok text, u) ∧
            rest = text ++ "</" ++ namedLink.tag ++ ">") ∧
        postProcess letterEnvironment namedLink (opening ++ rest) u =
          (.ok "<a title=\"&lt;b&gt;\" hidden>x</a>", namedSession) := by
  have blocks : ∀ blocks, Block.ofSeries letterPage.blocks = .ok blocks → ∀ block ∈ blocks, block.Unmarked := by
    have read : Block.ofSeries letterPage.blocks = .ok [namedLetter] := by cbv
    rintro blocks described
    obtain rfl := Except.ok.inj (read.symm.trans described)
    exact List.forall_mem_singleton.mpr unmarked_namedLetter
  have rendered : (letterEnvironment.render letterPage).1 = .ok "Dear &lt;b&gt;!" := by cbv
  have link : renderElement letterEnvironment namedLink (pure "x") namedSession =
      (.ok "<a title=\"&lt;b&gt;\" hidden>x</a>", namedSession) := by cbv
  exact ⟨escapes_letterEnvironment, blocks, rendered,
    (render_unmarked letterEnvironment).1 escapes_letterEnvironment letterPage blocks _ rendered,
    (render_unmarked letterEnvironment).2 namedLink (pure "x") _ _ _ link⟩

end DynamicBlocks
