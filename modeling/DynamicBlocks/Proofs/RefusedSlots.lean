import DynamicBlocks.Proofs.Answers
import DynamicBlocks.Proofs.DepthFailures
import DynamicBlocks.Proofs.MovedBlocks
import DynamicBlocks.Proofs.SlotGuards
import DynamicBlocks.Render.Settings
import Mathlib

/-!
# What refused slots cost

The guard in use refuses slots that would be rendered without it. How much of the text is lost then is told by the
notes of the render without a guard: all it made of the slots that it noted is missing, and nothing else. So the two
renders come to the same text exactly if the noted slots came to nothing (`Shortened`).

This takes more than that the guards disagree at one point, for the renders go on after it. What a refused slot would
have learned is not known later on, which must not matter: a loader says the same of a reference at any time, and so
does a handler, as long as no two requests are confused. And nothing that is done to a text may depend on it, so there
are neither extensions nor post-processors here.
-/

set_option autoImplicit false

namespace DynamicBlocks

open RenderM

/-! ## One render from memories that have the same answers -/

/-- Slots are noted only where nothing guards them. -/
theorem Environment.slotGuard_of_repeated (env : Environment) {guard : List GuardKey} {key : GuardKey}
    (noted : env.answer guard key = .repeated) : env.slotGuard = .off := by
  unfold Environment.answer at noted
  cases slotGuard : env.slotGuard with
  | off => rfl
  | byBlock =>
    rw [slotGuard] at noted
    dsimp only at noted
    split at noted <;> cases noted
  | byInstance =>
    rw [slotGuard] at noted
    dsimp only at noted
    split at noted <;> cases noted

/-- A render in the same surroundings from two memories that have the same answers. If nothing is ever noted, or it
does not matter, something may be known of the notes. -/
def Correspondence.steady (env : Environment) (coherent : env.engine.loops.Coherent)
    (noExtension : ∀ name plan, env.renderers.lookup name ≠ some (.extension plan)) (start : LoopState)
    (noted : List RepeatedSlot → Prop)
    (unseen : env.slotGuard = .off → ∀ slot slots, noted slots → noted (slot :: slots)) : Correspondence env env where
  place p q := p = q
  around a b := a = b
  memory m n := m.Steady env start ∧ n.Steady env start ∧ noted n.repeated
  apart _ := False
  seen _ _ := False
  frame _ _ := False
  toSameServices := .refl env
  inside := .eq
  sources context same := congrArg (·.context.sources context) same
  level same := by
    rw [same]
    exact ⟨rfl, rfl⟩
  pushed entries same := congrArg (·.pushed entries) same
  activated same := congrArg (·.activated) same
  component block := by
    rintro rfl rfl
    exact ⟨rfl, fun _ => rfl⟩
  slot {a _} name := by
    rintro rfl
    cases a.slot? name with
    | none => exact .inl ⟨rfl, rfl⟩
    | some found =>
      obtain ⟨frame, content⟩ := found
      refine .inr ⟨frame, frame, content.place, content.place, content.blocks, rfl, rfl, rfl, rfl, ?_⟩
      cases answer : env.answer a.guard (frame.guardKey name) with
      | enter => exact .enter
      | refuse => exact .refuse
      | repeated =>
        have off := env.slotGuard_of_repeated answer
        exact .repeated fun _ _ _ slot ⟨left, right, notes⟩ => ⟨left, right, unseen off slot _ notes⟩
  warn _ remembered := remembered
  warnDepth _ remembered := remembered
  pattern ref := by
    rintro ⟨steady, steady', notes⟩
    obtain ⟨same, learned, learned'⟩ := (Memory.answerAlike_steady coherent start).pattern ref ⟨steady, steady'⟩
    exact ⟨same, learned, learned', notes⟩
  items name params := by
    rintro ⟨steady, steady', notes⟩
    obtain ⟨same, learned, learned'⟩ := (Memory.answerAlike_steady coherent start).items name params ⟨steady, steady'⟩
    exact ⟨same, learned, learned', notes⟩
  apart_note _ _ := False.elim
  extension name plan registered := absurd registered (noExtension name plan)

/-! ## Shortened texts -/

/-- Outcomes with the guard in use and without a guard, where the latter has made some notes: what is lost is what the
noted slots came to. -/
inductive Shortened (notes : List RepeatedSlot) : Except Failure String → Except Failure String → Prop where
  | text {short text : String} (shorter : short.length ≤ text.length)
      (same : short = text ↔ ∀ slot ∈ notes, slot.outcome = .ok "") : Shortened notes (.ok short) (.ok text)
  | failed {outcome : Except Failure String} {f : Failure}
      (same : (∀ slot ∈ notes, ∀ g, slot.outcome ≠ .error g) → outcome = .error f) : Shortened notes outcome (.error f)

namespace Shortened

/-- Without notes nothing is lost. -/
theorem refl (outcome : Except Failure String) : Shortened [] outcome outcome := by
  cases outcome with
  | error f => exact .failed fun _ => rfl
  | ok text => exact .text (Nat.le_refl _) ⟨fun _ => nofun, fun _ => rfl⟩

/-- A change of texts that tells them apart and makes no longer one shorter. -/
theorem map {notes : List RepeatedSlot} {outcome outcome' : Except Failure String}
    (h : Shortened notes outcome outcome')
    {change : String → String} (injective : ∀ {x y}, change x = change y → x = y)
    (monotone : ∀ {x y : String}, x.length ≤ y.length → (change x).length ≤ (change y).length) :
    Shortened notes (outcome.map change) (outcome'.map change) := by
  cases h with
  | text shorter same =>
    exact .text (monotone shorter) ⟨fun h => same.mp (injective h), fun h => congrArg _ (same.mpr h)⟩
  | failed same =>
    refine .failed fun succeeded => ?_
    rw [same succeeded]
    rfl

/-- A refused slot loses what it would have come to. -/
theorem refused {notes : List RepeatedSlot} {outcome outcome' : Except Failure String}
    (h : Shortened notes outcome outcome') (key : GuardKey) :
    Shortened (⟨key, outcome'⟩ :: notes) (.ok "") outcome' := by
  cases h with
  | failed same => exact .failed fun succeeded => absurd rfl (succeeded _ List.mem_cons_self _)
  | @text short text shorter same =>
    refine .text (Nat.zero_le _) ⟨?_, ?_⟩
    · rintro rfl
      have none : short = "" := String.length_eq_zero_iff.mp (Nat.le_zero.mp shorter)
      rw [List.forall_mem_cons]
      exact ⟨rfl, same.mp none⟩
    · intro nothing
      have noted : (Except.ok text : Except Failure String) = .ok "" := nothing _ List.mem_cons_self
      exact (Except.ok.inj noted).symm

/-- Two texts in a row. -/
theorem append {first second : List RepeatedSlot} {x x' y y' : String}
    (h : Shortened first (.ok x) (.ok x')) (h' : Shortened second (.ok y) (.ok y')) :
    Shortened (second ++ first) (.ok (x ++ y)) (.ok (x' ++ y')) := by
  cases h with
  | text shorter same =>
    cases h' with
    | text shorter' same' =>
      refine .text ?_ ⟨fun equal => ?_, fun nothing => ?_⟩
      · rw [String.length_append, String.length_append]
        omega
      · -- The texts can only be equal if neither part is shorter.
        have lengths := congrArg String.length equal
        rw [String.length_append, String.length_append] at lengths
        have parts := List.append_inj (by simpa using congrArg String.toList equal)
          (show x.toList.length = x'.toList.length by simp only [String.length_toList]; omega)
        rw [List.forall_mem_append]
        exact ⟨same'.mp (String.toList_inj.mp parts.2), same.mp (String.toList_inj.mp parts.1)⟩
      · rw [List.forall_mem_append] at nothing
        rw [same.mpr nothing.2, same'.mpr nothing.1]

end Shortened

/-! ## Two renders -/

/-- Sessions of the two renders, as long as both go on: the same surroundings, and memories that have the same
answers. -/
structure Session.Beside (env : Environment) (s t : Session) : Prop where
  surroundings : s.toSurroundings = t.toSurroundings
  left : s.patterns.Faithful env.loader
  right : t.patterns.Faithful env.loader
  answers : env.engine.loops.SameAnswers s.loops t.loops

/-- From two sessions the second of two actions makes some notes, and all that the first one lacks is in them. -/
def ShortenedAt (env : Environment) (a b : RenderM String) (s t : Session) : Prop :=
  ∃ notes, (b t).2.repeated = notes ++ t.repeated ∧ Shortened notes (a s).1 (b t).1 ∧
    ∀ text, (b t).1 = .ok text → Session.Beside env (a s).2 (b t).2

/-- From two sessions two actions come to the same, and the second one makes no notes. -/
structure SameAt {α : Type} (env : Environment) (a b : RenderM α) (s t : Session) : Prop where
  outcome : (a s).1 = (b t).1
  quiet : (b t).2.repeated = t.repeated
  beside : Session.Beside env (a s).2 (b t).2

section

variable {env : Environment}

/-- Actions that come to the same lose nothing. -/
theorem SameAt.shortenedAt {a b : RenderM String} {s t : Session} (h : SameAt env a b s t) : ShortenedAt env a b s t :=
  ⟨[], h.quiet, h.outcome ▸ Shortened.refl _, fun _ _ => h.beside⟩

/-- After actions that come to the same, nothing is lost but by what follows. -/
theorem SameAt.bind {α : Type} {first first' : RenderM α} {s t : Session} (h : SameAt env first first' s t)
    {a b : α → RenderM String}
    (rest : ∀ x s' t', first s = (.ok x, s') → first' t = (.ok x, t') → Session.Beside env s' t' →
      ShortenedAt env (a x) (b x) s' t') :
    ShortenedAt env (first >>= a) (first' >>= b) s t := by
  obtain ⟨outcome, quiet, beside⟩ := h
  rcases done : first s with ⟨x, s'⟩
  rcases done' : first' t with ⟨x', t'⟩
  rw [done, done'] at outcome beside
  rw [done'] at quiet
  obtain rfl : x = x' := outcome
  unfold ShortenedAt
  cases x with
  | error f =>
    rw [bind_of_error done, bind_of_error done']
    exact ⟨[], quiet, .refl _, fun _ => nofun⟩
  | ok x =>
    rw [bind_of_ok done, bind_of_ok done']
    have quiet : t'.repeated = t.repeated := quiet
    rw [← quiet]
    exact rest x s' t' done done' beside

/-- Two renders in a row. -/
theorem ShortenedAt.append {a b c d : RenderM String} {s t : Session} (first : ShortenedAt env a b s t)
    (second : ∀ s' t', (∃ x, a s = (.ok x, s')) → Session.Beside env s' t' → ShortenedAt env c d s' t') :
    ShortenedAt env (do let first ← a; let rest ← c; pure (first ++ rest))
      (do let first ← b; let rest ← d; pure (first ++ rest)) s t := by
  obtain ⟨notes, noted, shortened, beside⟩ := first
  rcases done : a s with ⟨x, s'⟩
  rcases done' : b t with ⟨x', t'⟩
  rw [done'] at noted
  rw [done, done'] at shortened beside
  unfold ShortenedAt
  cases shortened with
  | failed same =>
    -- The first side has gone on if its failure was refused along with a slot.
    rw [bind_of_error done']
    refine ⟨notes, noted, .failed fun succeeded => ?_, fun _ => nofun⟩
    rw [bind_of_error (done.trans (congrArg (·, s') (same succeeded)))]
  | @text short text shorter same =>
    obtain ⟨notes', noted', shortened', beside'⟩ := second s' t' ⟨short, done⟩ (beside text rfl)
    rw [bind_of_ok done, bind_of_ok done']
    rcases then_ : c s' with ⟨y, s''⟩
    rcases then' : d t' with ⟨y', t''⟩
    rw [then'] at noted'
    rw [then_, then'] at shortened' beside'
    have notedInAll : t''.repeated = (notes' ++ notes) ++ t.repeated := by
      rw [List.append_assoc, ← show t'.repeated = notes ++ t.repeated from noted]
      exact noted'
    cases shortened' with
    | failed same' =>
      rw [bind_of_error then']
      refine ⟨notes' ++ notes, notedInAll, .failed fun succeeded => ?_, fun _ => nofun⟩
      have succeeded := (List.forall_mem_append.mp succeeded).1
      rw [bind_of_error (then_.trans (congrArg (·, s'') (same' succeeded)))]
    | @text short' text' shorter' same' =>
      rw [bind_of_ok then_, bind_of_ok then']
      exact ⟨notes' ++ notes, notedInAll, (Shortened.text shorter same).append (.text shorter' same'),
        fun _ _ => beside' text' rfl⟩

/-- A render whose text is put into another one. -/
theorem ShortenedAt.map {a b : RenderM String} {s t : Session} (h : ShortenedAt env a b s t) {change : String → String}
    (injective : ∀ {x y}, change x = change y → x = y)
    (monotone : ∀ {x y : String}, x.length ≤ y.length → (change x).length ≤ (change y).length) :
    ShortenedAt env (change <$> a) (change <$> b) s t := by
  obtain ⟨notes, noted, shortened, beside⟩ := h
  unfold ShortenedAt
  rw [map_apply, map_apply]
  refine ⟨notes, noted, shortened.map injective monotone, fun text there => ?_⟩
  rcases outcome : (b t).1 with f | text'
  · rw [outcome] at there
    cases there
  · exact beside text' outcome

/-- A render in changed surroundings. -/
theorem ShortenedAt.inside {a b : RenderM String} {change : Surroundings → Surroundings} {s t : Session}
    (start : Session.Beside env s t)
    (h : ∀ s' t', s'.toSurroundings = change s.toSurroundings → Session.Beside env s' t' → ShortenedAt env a b s' t') :
    ShortenedAt env (RenderM.inside change a) (RenderM.inside change b) s t := by
  have changed : Session.Beside env (s.surround (change s.toSurroundings)) (t.surround (change t.toSurroundings)) :=
    ⟨congrArg change start.surroundings, start.left, start.right, start.answers⟩
  obtain ⟨notes, noted, shortened, beside⟩ := h _ _ rfl changed
  refine ⟨notes, noted, shortened, fun text there => ?_⟩
  obtain ⟨_, left, right, answers⟩ := beside text there
  exact ⟨start.surroundings, left, right, answers⟩

/-- An action in which nothing is guarded, beside itself. -/
theorem SameAt.of_inStep (coherent : env.engine.loops.Coherent) (calm : env.Calm) {α : Type} {action : RenderM α}
    (h : ∀ start notes, InStep (.steady (env.guardedBy .byBlock) coherent calm.renderers start (· = notes) nofun) True
      action action) {s t : Session} (beside : Session.Beside env s t) : SameAt env action action s t := by
  have agree := (h s.loops t.repeated).agree trivial s t beside.surroundings
    ⟨⟨beside.left, fun _ _ _ => rfl⟩, ⟨beside.right, beside.answers⟩, rfl⟩
  obtain ⟨same, ⟨left, answers⟩, ⟨right, answers'⟩, quiet⟩ := agree.together id
  refine ⟨same, quiet, ?_, left, right, ?_⟩
  · rw [(h s.loops t.repeated).left s, (h s.loops t.repeated).left t, beside.surroundings]
  · exact fun preset given served => (answers preset given served).symm.trans (answers' preset given served)

end

/-- A render with the guard in use and a render of the same without a guard. -/
structure Refusing (env : Environment) (coherent : env.engine.loops.Coherent) (calm : env.Calm) (P : Prop)
    (a b : RenderM String) : Prop where
  left : Restores a ∧ NeverForDepth a
  right : Restores b ∧ NeverForDepth b
  /-- What the second one learns is what could be known before. -/
  steady : ∀ start, InStep
    (.steady (env.guardedBy .off) coherent calm.renderers start (fun _ => True) fun _ _ _ _ => trivial) P b b
  shortened : P → ∀ s t, Session.Beside env s t → ShortenedAt env a b s t

namespace Refusing

variable {env : Environment} {coherent : env.engine.loops.Coherent} {calm : env.Calm} {P : Prop}
  {a b : RenderM String}

/-- What an element lacks with the guard is in the notes it makes without one. -/
theorem shortenedAt_element (noPost : env.postProcessors = []) (h : Refusing env coherent calm P a b) (given : P)
    (block : Block) {s t : Session} (beside : Session.Beside env s t) :
    ShortenedAt env (RenderM.renderElement (env.guardedBy .byBlock) block a)
      (RenderM.renderElement (env.guardedBy .off) block b) s t := by
  have sources : SameAt env (RenderM.sourcesOf block) (RenderM.sourcesOf block) s t :=
    .of_inStep coherent calm (fun _ _ => .sourcesOf block) beside
  refine sources.bind fun sources s' t' _ _ beside' => ?_
  have attributes : SameAt env _ _ s' t' := .of_inStep coherent calm (fun _ _ =>
    .ofExcept (env.elementAttributes sources (Entries.field block.attrs "attributes"))) beside'
  refine attributes.bind fun attributes s'' t'' _ _ beside'' => ?_
  dsimp only
  split
  · exact SameAt.shortenedAt (.of_inStep coherent calm (fun _ _ => .postProcess block _) beside'')
  · have unprocessed (inner : RenderM String) (guard : SlotGuard) (change : String → String) :
        (inner >>= fun text => postProcess (env.guardedBy guard) block (change text)) = change <$> inner := by
      have post : (env.guardedBy guard).postProcessors = [] := noPost
      unfold postProcess
      rw [post, map_eq_pure_bind]
      rfl
    rw [unprocessed a .byBlock fun text => "<" ++ block.tag ++ attributes ++ ">" ++ text ++ "</" ++ block.tag ++ ">",
      unprocessed b .off fun text => "<" ++ block.tag ++ attributes ++ ">" ++ text ++ "</" ++ block.tag ++ ">"]
    refine (h.shortened given s'' t'' beside'').map (fun same => ?_) fun shorter => ?_
    · simpa only [String.append_left_inj, String.append_right_inj] using same
    · simp only [String.length_append]
      omega

/-- The items of a loop: an induction on the items, each rendered with entries of its own. -/
theorem shortenedAt_items (h : Refusing env coherent calm P a b) (given : P) (block : Block) (index : Nat)
    (items : List Value) {s t : Session} (beside : Session.Beside env s t) :
    ShortenedAt env (RenderM.renderItems block a index items) (RenderM.renderItems block b index items) s t := by
  induction items generalizing index s t with
  | nil => exact SameAt.shortenedAt (.of_inStep coherent calm (fun _ _ => .pure "") beside)
  | cons item items ih =>
    unfold RenderM.renderItems
    rw [h.left.1.withPushed_eq, h.right.1.withPushed_eq]
    refine ShortenedAt.append ?_ fun s' t' _ beside' => ih (index + 1) beside'
    exact .inside beside fun s' t' _ beside' => h.shortened given s' t' beside'

/-- So it is with a loop. -/
theorem shortenedAt_loop (h : Refusing env coherent calm P a b) (given : P) (block : Block) {s t : Session}
    (beside : Session.Beside env s t) :
    ShortenedAt env (RenderM.renderLoop (env.guardedBy .byBlock) block a)
      (RenderM.renderLoop (env.guardedBy .off) block b) s t := by
  have sources : SameAt env (RenderM.sourcesOf block) (RenderM.sourcesOf block) s t :=
    .of_inStep coherent calm (fun _ _ => .sourcesOf block) beside
  refine sources.bind fun sources s' t' _ _ beside' => ?_
  have data : SameAt env (RenderM.loopData env block sources) (RenderM.loopData env block sources) s' t' :=
    .of_inStep coherent calm (fun _ _ => .loopData block sources) beside'
  refine data.bind fun data s'' t'' _ _ beside'' => ?_
  have items : SameAt env (RenderM.ofExcept data.seriesOrNone) (RenderM.ofExcept data.seriesOrNone) s'' t'' :=
    .of_inStep coherent calm (fun _ _ => .ofExcept _) beside''
  exact items.bind fun items _ _ _ _ beside => h.shortenedAt_items given block 0 items beside

/-- An instance of a pattern, which is too deep in both renders or in none. -/
theorem shortenedAt_instance (noPost : env.postProcessors = []) (h : Refusing env coherent calm P a b) (given : P)
    (place : Place) (block : Block) (pattern : Pattern) {s t : Session} (beside : Session.Beside env s t) :
    ShortenedAt env (RenderM.renderInstance (env.guardedBy .byBlock) place block pattern a)
      (RenderM.renderInstance (env.guardedBy .off) place block pattern b) s t := by
  obtain ⟨outcome, quiet, beside'⟩ : SameAt env (RenderM.propsOf env block pattern) (RenderM.propsOf env block pattern)
    s t := .of_inStep coherent calm (fun _ _ => .propsOf block pattern) beside
  rcases known : RenderM.propsOf env block pattern s with ⟨props, s'⟩
  rcases known' : RenderM.propsOf env block pattern t with ⟨props', t'⟩
  rw [known, known'] at outcome beside'
  rw [known'] at quiet
  obtain rfl : props = props' := outcome
  have known : RenderM.propsOf (env.guardedBy .byBlock) block pattern s = (props, s') := known
  have known' : RenderM.propsOf (env.guardedBy .off) block pattern t = (props, t') := known'
  have around : s'.toSurroundings = t'.toSurroundings := beside'.surroundings
  unfold ShortenedAt
  cases props with
  | error f =>
    unfold RenderM.renderInstance
    rw [bind_of_error known, bind_of_error known']
    exact ⟨[], quiet, .refl _, fun _ => nofun⟩
  | ok props =>
    cases reached : env.maxDepth.isReached t'.depth with
    | true =>
      have reached' : env.maxDepth.isReached s'.depth = true := by rw [around, reached]
      rw [renderInstance_of_reached h.left.1 known reached', renderInstance_of_reached h.right.1 known' reached]
      exact ⟨[], quiet, .refl _, fun _ _ => ⟨around, beside'.left, beside'.right, beside'.answers⟩⟩
    | false =>
      -- In the body both sides are in the same surroundings, though not in the same memory.
      have free : env.maxDepth.isReached s'.depth = false := by rw [around, reached]
      have post : (env.guardedBy .byBlock).postProcessors = [] := noPost
      have post' : (env.guardedBy .off).postProcessors = [] := noPost
      rw [renderInstance_of_not_reached post h.left.1 h.left.2 known free,
        renderInstance_of_not_reached post' h.right.1 h.right.2 known' reached]
      have frames : s'.frameFor (env.guardedBy .byBlock) place block =
          t'.frameFor (env.guardedBy .off) place block := by
        rw [around]
        rfl
      rw [frames, ← show t'.repeated = t.repeated from quiet]
      exact ShortenedAt.inside beside' fun s t _ beside => h.shortened given s t beside

/-- So it is with a component. -/
theorem shortenedAt_component (noPost : env.postProcessors = []) {a b : String → List Block → RenderM String}
    (h : ∀ ref blocks, Refusing env coherent calm True (a ref blocks) (b ref blocks)) (place : Place) (block : Block)
    {s t : Session} (beside : Session.Beside env s t) :
    ShortenedAt env (RenderM.renderComponent (env.guardedBy .byBlock) place block a)
      (RenderM.renderComponent (env.guardedBy .off) place block b) s t := by
  have nothing {s t : Session} (beside : Session.Beside env s t) : ShortenedAt env (pure "") (pure "") s t :=
    SameAt.shortenedAt (.of_inStep coherent calm (fun _ _ => .pure "") beside)
  unfold RenderM.renderComponent
  split
  · exact nothing beside
  · have found : SameAt env (RenderM.findPattern env block.ref) (RenderM.findPattern env block.ref) s t :=
      .of_inStep coherent calm (fun _ _ => .findPattern block.ref) beside
    refine found.bind fun found s' t' _ _ beside' => ?_
    cases found with
    | none =>
      have warned : SameAt env (RenderM.warn (missingPattern block.ref))
          (RenderM.warn (missingPattern block.ref)) s' t' :=
        .of_inStep coherent calm (fun _ _ => .warn _) beside'
      exact warned.bind fun _ _ _ _ _ beside => nothing beside
    | some pattern =>
      dsimp only
      split
      · exact nothing beside'
      · exact (h _ _).shortenedAt_instance noPost trivial place block pattern beside'

/-- The content of a slot that the guard in use refuses. What it would have learned could be known before. -/
theorem shortenedAt_refused (h : Refusing env coherent calm P a b) (given : P) (key : GuardKey)
    (change : Surroundings → Surroundings) {s t : Session} (beside : Session.Beside env s t) :
    ShortenedAt env (pure "") (noting key (RenderM.inside change b)) s t := by
  have inner : ShortenedAt env (RenderM.inside change a) (RenderM.inside change b) s t :=
    .inside beside fun s' t' _ beside' => h.shortened given s' t' beside'
  obtain ⟨notes, noted, shortened, -⟩ := inner
  -- The first side has learned nothing, and `inner` is about one that renders the content as well.
  have learned := (h.steady s.loops).agree given (t.surround (change t.toSurroundings))
    (t.surround (change t.toSurroundings)) rfl ⟨⟨beside.right, beside.answers⟩, ⟨beside.right, beside.answers⟩, trivial⟩
  obtain ⟨-, -, ⟨right, answers⟩, -⟩ := learned.together id
  exact ⟨⟨key, (RenderM.inside change b t).1⟩ :: notes, congrArg (List.cons _) noted, shortened.refused key,
    fun _ _ => ⟨beside.surroundings, beside.left, right, answers⟩⟩

/-- A placeholder, whose slot the guard in use refuses exactly if it is noted without a guard. -/
theorem shortenedAt_placeholder {a b : SlotContent → RenderM String}
    (h : ∀ p q blocks, Refusing env coherent calm (p = q) (a ⟨p, blocks⟩) (b ⟨q, blocks⟩)) (block : Block)
    {s t : Session} (beside : Session.Beside env s t) :
    ShortenedAt env (RenderM.renderPlaceholder (env.guardedBy .byBlock) block a)
      (RenderM.renderPlaceholder (env.guardedBy .off) block b) s t := by
  have nothing : ShortenedAt env (pure "") (pure "") s t :=
    SameAt.shortenedAt (.of_inStep coherent calm (fun _ _ => .pure "") beside)
  cases named : block.slotName? with
  | none =>
    unfold RenderM.renderPlaceholder
    rw [named]
    exact nothing
  | some name =>
    have slots : s.slot? name = t.slot? name := congrArg (·.slot? name) beside.surroundings
    have guards : s.guard = t.guard := congrArg (·.guard) beside.surroundings
    unfold ShortenedAt
    rw [renderPlaceholder_apply named, renderPlaceholder_apply named, slots]
    cases t.slot? name with
    | none => exact nothing
    | some found =>
      obtain ⟨frame, place, blocks⟩ := found
      have content := h place place blocks
      dsimp only
      rw [renderFilled_eq content.left.1, renderFilled_eq content.right.1]
      unfold Environment.answer Environment.guardedBy
      dsimp only
      rw [guards]
      cases t.guard.any (frame.guardKey name).same with
      | true => exact content.shortenedAt_refused rfl _ _ beside
      | false => exact ShortenedAt.inside beside fun s t _ beside => content.shortened rfl s t beside

/-- The same content, at places that are the same. -/
theorem steady_fill {a b : SlotContent → RenderM String}
    (h : ∀ p q blocks, Refusing env coherent calm (p = q) (a ⟨p, blocks⟩) (b ⟨q, blocks⟩)) (start : LoopState)
    (p q : Place) (blocks : List Block) :
    InStep (.steady (env.guardedBy .off) coherent calm.renderers start (fun _ => True) fun _ _ _ _ => trivial) (p = q)
      (b ⟨p, blocks⟩) (b ⟨q, blocks⟩) where
  left := (h p p blocks).right.1
  right := (h q q blocks).right.1
  stays := ((h q q blocks).steady start).stays
  agree same := by
    subst same
    exact ((h p p blocks).steady start).agree rfl

/-- Every kind of block loses what the slots inside it that the guard in use refuses would have come to. -/
theorem keptByBlocks (coherent : env.engine.loops.Coherent) (calm : env.Calm) (noPost : env.postProcessors = []) :
    KeptByBlocks (env.guardedBy .byBlock) (env.guardedBy .off) Eq (Refusing env coherent calm) := by
  have calm₁ : (env.guardedBy .byBlock).Calm := ⟨calm.modifiers, calm.loader, calm.postProcessors, calm.renderers⟩
  have calm₂ : (env.guardedBy .off).Calm := ⟨calm.modifiers, calm.loader, calm.postProcessors, calm.renderers⟩
  -- For each kind of block the parts on either side alone come from the comparisons before.
  have left := NeverForDepth.keptByBlocks calm₁
  have right := NeverForDepth.keptByBlocks calm₂
  have steady (start : LoopState) := InStep.keptByBlocks
    (.steady (env.guardedBy .off) coherent calm.renderers start (fun _ => True) fun _ _ _ _ => trivial)
  have same {action : RenderM String} (h : ∀ start notes,
      InStep (.steady (env.guardedBy .byBlock) coherent calm.renderers start (· = notes) nofun) True action action)
      (s t : Session) (beside : Session.Beside env s t) : ShortenedAt env action action s t :=
    (SameAt.of_inStep coherent calm h beside).shortenedAt
  exact {
    weaken := fun implied h =>
      ⟨h.left, h.right, fun start => (h.steady start).weaken implied, fun given => h.shortened (implied given)⟩
    renderers := rfl
    child := fun i places => congrArg (·.child i) places
    body := fun _ => rfl
    nothing := fun P => ⟨left.nothing True, right.nothing True, fun start => (steady start).nothing P,
      fun _ => same fun _ _ => .pure ""⟩
    unnamed := fun P => ⟨left.unnamed True, right.unnamed True, fun start => (steady start).unnamed P,
      fun _ => same fun _ _ => .throw .wrongType⟩
    endless := ⟨left.endless, right.endless, fun start => (steady start).endless,
      fun _ => same fun _ _ => .throw .endless⟩
    append := fun {P a b c d} first rest => ⟨left.append (P := True) (b := a) (d := c) first.left rest.left,
      right.append (P := True) (b := b) (d := d) first.right rest.right,
      fun start => (steady start).append (first.steady start) (rest.steady start),
      fun given s t beside => (first.shortened given s t beside).append fun s' t' _ beside' =>
        rest.shortened given s' t' beside'⟩
    text := fun P block => ⟨left.text True block, right.text True block, fun start => (steady start).text P block,
      fun _ => same fun _ _ => .renderText block⟩
    element := fun {P} block {a b} h => ⟨left.element (P := True) (b := a) block h.left,
      right.element (P := True) (b := b) block h.right,
      fun start => (steady start).element block (h.steady start),
      fun given _ _ beside => h.shortenedAt_element noPost given block beside⟩
    loop := fun {P} block {a b} h => ⟨left.loop (P := True) (b := a) block h.left,
      right.loop (P := True) (b := b) block h.right,
      fun start => (steady start).loop block (h.steady start),
      fun given _ _ beside => h.shortenedAt_loop given block beside⟩
    component := fun block {p q a b} h => ⟨left.component (q := p) (b := a) block fun ref blocks => (h ref blocks).left,
      right.component (q := q) (b := b) block fun ref blocks => (h ref blocks).right,
      fun start => ((steady start).component (p := q) block fun ref blocks => (h ref blocks).steady start).weaken
        fun _ => rfl,
      fun places _ _ beside => places ▸ shortenedAt_component noPost h p block beside⟩
    placeholder := fun P block {a b} h => ⟨left.placeholder (b := a) True block fun p q blocks => (h p p blocks).left,
      right.placeholder (b := b) True block fun p q blocks => (h p p blocks).right,
      fun start => (steady start).placeholder P block fun p q blocks => steady_fill h start p q blocks,
      fun _ _ _ beside => shortenedAt_placeholder h block beside⟩
    extension := fun name plan _ _ _ _ _ registered _ => absurd registered (calm.renderers name plan) }

/-- So it is with blocks. -/
theorem shortenedAt_renderBlocks (coherent : env.engine.loops.Coherent) (calm : env.Calm)
    (noPost : env.postProcessors = []) (place : Place) (blocks : List Block) {s t : Session}
    (beside : Session.Beside env s t) :
    ShortenedAt env (RenderM.renderBlocks (env.guardedBy .byBlock) place blocks)
      (RenderM.renderBlocks (env.guardedBy .off) place blocks) s t := by
  have depth : s.depth = t.depth := congrArg (·.depth) beside.surroundings
  have frames : s.frames = t.frames := congrArg (·.frames) beside.surroundings
  have rendered := ((keptByBlocks coherent calm noPost).renderAt (env.maxDepth.levelsFrom t.depth) t.frames.length place
    place blocks).shortened rfl s t beside
  unfold ShortenedAt at rendered ⊢
  rw [renderBlocks_apply, renderBlocks_apply]
  unfold levelsLeft
  rw [depth, frames]
  exact rendered

/-- So it is with a page. -/
theorem shortenedAt_renderPage (coherent : env.engine.loops.Coherent) (calm : env.Calm)
    (noPost : env.postProcessors = []) (blocks sources : Value) {s t : Session} (beside : Session.Beside env s t) :
    ShortenedAt env (RenderM.renderPage (env.guardedBy .byBlock) blocks sources)
      (RenderM.renderPage (env.guardedBy .off) blocks sources) s t := by
  rw [renderPage_eq, renderPage_eq]
  refine ShortenedAt.inside beside fun s t _ beside => ?_
  have initial : SameAt env (RenderM.ofExcept (Entry.ofInitials sources)) (RenderM.ofExcept (Entry.ofInitials sources))
    s t := .of_inStep coherent calm (fun _ _ => .ofExcept _) beside
  refine initial.bind fun entries s t _ _ beside => ?_
  refine ShortenedAt.inside beside fun s t _ beside => ?_
  have series : SameAt env (RenderM.ofExcept (Block.ofSeries blocks)) (RenderM.ofExcept (Block.ofSeries blocks)) s t :=
    .of_inStep coherent calm (fun _ _ => .ofExcept _) beside
  exact series.bind fun blocks _ _ _ _ beside => shortenedAt_renderBlocks coherent calm noPost .page blocks beside

end Refusing

/-- What the guard in use loses of a page is what the slots come to that are noted without it. -/
theorem shortened_render (env : Environment) (coherent : env.engine.loops.Coherent) (calm : env.Calm)
    (noPost : env.postProcessors = []) (page : Page) :
    Shortened ((env.guardedBy .off).render page).2.repeated ((env.guardedBy .byBlock).render page).1
      ((env.guardedBy .off).render page).1 := by
  obtain ⟨context, -, ⟨f, failed⟩ | rendered⟩ := render_cases env.host page.globals page.previews
  · rw [failed (env.guardedBy .byBlock) rfl, failed (env.guardedBy .off) rfl]
    exact .refl _
  · rw [rendered (env.guardedBy .byBlock) rfl, rendered (env.guardedBy .off) rfl]
    have faithful := PatternCache.faithful_empty env.loader
    obtain ⟨notes, noted, shortened, _⟩ := Refusing.shortenedAt_renderPage coherent calm noPost page.blocks page.sources
      (s := { Session.start env.host with context := context }) ⟨rfl, faithful, faithful, fun _ _ _ => rfl⟩
    rw [noted]
    exact (List.append_nil notes).symm ▸ shortened

/-- The guard in use goes by the blocks of instances, and cuts off more than what would be rendered within itself. No
slot of an instance is ever rendered within itself, so that a guard which tells instances apart would refuse nothing.
The guard in use refuses nothing either as long as the render without a guard does not come to a slot of the same name
of the same block once more. Where it does, the two renders differ in just what the slots come to that are noted then:
if the render without a guard comes to a text, they come to the same text exactly if all of these come to nothing, and
a failure outside of them is the same failure. -/
theorem render_byBlock_eq_iff (env : Environment) (page : Page) :
    let free := (env.guardedBy .off).render page
    let guarded := (env.guardedBy .byBlock).render page
    ((env.guardedBy .byInstance).render page).1 = free.1 ∧
      (free.2.repeated = [] → guarded.1 = free.1) ∧
      (env.engine.loops.Coherent → env.Calm → env.postProcessors = [] →
        (∀ text, free.1 = .ok text → (guarded.1 = .ok text ↔ ∀ slot ∈ free.2.repeated, slot.outcome = .ok "")) ∧
          ∀ f, free.1 = .error f → (∀ slot ∈ free.2.repeated, ∀ g, slot.outcome ≠ .error g) →
            guarded.1 = .error f) := by
  intro free guarded
  refine ⟨render_byInstance env page, render_byBlock env page, fun coherent calm noPost => ?_⟩
  have shortened : Shortened free.2.repeated guarded.1 free.1 := shortened_render env coherent calm noPost page
  constructor
  · intro text came
    rw [came] at shortened
    generalize guarded.1 = outcome at shortened ⊢
    cases shortened with
    | @text short _ _ same => rw [← same, Except.ok.injEq]
  · intro f failed succeeded
    rw [failed] at shortened
    generalize guarded.1 = outcome at shortened ⊢
    cases shortened with
    | failed same => exact same succeeded

/-! ## A slot forwarded within itself -/

/-- A placeholder for the slot `s`. -/
def slotHere : Block :=
  ⟨.text "slot-placeholder", [(.text "name", .text "s")], [], [], .tuple⟩

/-- An instance that fills the slot `s`. -/
def filling (ref : String) (content : List Block) : Block :=
  ⟨.text "component", [(.text "ref", .text ref)],
    [⟨.text "slot-content", [(.text "name", .text "s")], content, [], .tuple⟩], [], .tuple⟩

/-- A pattern that forwards its slot to a component inside it, and that component. -/
def forwardingPatterns : List (String × PatternData) :=
  [("outer", .built ⟨"outer", [filling "inner" [slotHere]], []⟩), ("inner", .built ⟨"inner", [slotHere], []⟩)]

/-- Two instances of the pattern, one in the slot content of the other. -/
def forwardingPage : Page :=
  ⟨.list (Block.toValues
    [filling "outer" [filling "outer" [⟨.text "text", [(.text "content", .text "x")], [], [], .tuple⟩]]]),
    .null, .null, .null⟩

set_option maxRecDepth 2000 in
/-- Without a guard the text is there, once the slot of the component inside has been come to again. -/
theorem render_off_forwarding :
    let free := ((Environment.ofPatterns forwardingPatterns).guardedBy .off).render forwardingPage
    free.1 = .ok "x" ∧ free.2.repeated.map (·.outcome) = [.ok "x"] := by
  constructor
  · cbv
  · cbv

/-- The component inside is one block with two instances, and the slot of the first is being rendered when the guard in
use comes to that of the second. -/
theorem render_byBlock_forwarding :
    (((Environment.ofPatterns forwardingPatterns).guardedBy .byBlock).render forwardingPage).1 = .ok "" ∧
      (((Environment.ofPatterns forwardingPatterns).guardedBy .byInstance).render forwardingPage).1 = .ok "x" := by
  constructor
  · cbv
  · rw [render_byInstance]
    exact render_off_forwarding.1

/-- Nothing in an environment of patterns alone fails for depth. -/
theorem Environment.calm_ofPatterns (patterns : List (String × PatternData)) : (ofPatterns patterns).Calm where
  modifiers := builtinModifiersIn_onlyFails
  loader _ same ref := by
    obtain rfl := Option.some.inj same
    exact OnlyFails.find_table (fun _ _ _ => nofun) patterns ref
  postProcessors _ there := absurd there List.not_mem_nil
  renderers _ _ registered := defaultRenderers_ne_extension registered

/-- What was noted without a guard tells that the text is not the same with the guard in use. -/
theorem render_byBlock_eq_iff_forwarding :
    (((Environment.ofPatterns forwardingPatterns).guardedBy .off).render forwardingPage).1 = .ok "x" ∧
      (((Environment.ofPatterns forwardingPatterns).guardedBy .byBlock).render forwardingPage).1 ≠ .ok "x" := by
  obtain ⟨free, noted⟩ := render_off_forwarding
  have coherent : (Environment.ofPatterns forwardingPatterns).engine.loops.Coherent := by
    rintro preset other params others text text' ⟨name, served⟩
    have none : (Environment.ofPatterns forwardingPatterns).engine.loops.preset? name = none := by
      unfold LoopService.preset?
      cases (Environment.ofPatterns forwardingPatterns).engine.loops.idOf? name <;> rfl
    rw [none] at served
    cases served
  refine ⟨free, fun same => ?_⟩
  obtain ⟨-, -, exactly⟩ := render_byBlock_eq_iff (Environment.ofPatterns forwardingPatterns) forwardingPage
  have nothing := ((exactly coherent (Environment.calm_ofPatterns forwardingPatterns) rfl).1 "x" free).mp same
  have all : ∀ outcome ∈ [(Except.ok "x" : Except Failure String)], outcome = .ok "" := by
    rw [← noted]
    intro outcome there
    obtain ⟨slot, inNotes, rfl⟩ := List.mem_map.mp there
    exact nothing slot inNotes
  exact absurd (Except.ok.inj (all _ List.mem_cons_self)) (by decide)

end DynamicBlocks
