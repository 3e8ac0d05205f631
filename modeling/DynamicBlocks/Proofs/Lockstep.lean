import DynamicBlocks.Proofs.Pages
import DynamicBlocks.Proofs.Requests

/-!
# Two renders in lockstep

Many a property of renders compares two of them: with one guard and with another, from one stack and from another,
at one depth and one level further down. The sessions of the two are never equal then, but they correspond, and
whatever is read from them is the same. This file says what has to be the same (`Correspondence`) and shows that two
renders of the same blocks then come to the same text or the same failure (`InStep.keptByBlocks`).

Some comparisons hold up to a point only, say until one guard refuses what the other one lets pass. From there on the
second render is told apart by the slots it has noted, and nothing is said about the two any more.
-/

set_option autoImplicit false

namespace DynamicBlocks

open RenderM

/-! ## What has to correspond -/

/-- Answers that the guards of two renders may give to a slot, if the renders are to correspond afterwards, or the
second one is to be told apart. -/
inductive AnswersAgree (memory : Memory → Memory → Prop) (apart : List RepeatedSlot → Prop) :
    GuardAnswer → GuardAnswer → Prop where
  | enter : AnswersAgree memory apart .enter .enter
  | refuse : AnswersAgree memory apart .refuse .refuse
  /-- Both note the slot, and the relation does not look at notes. -/
  | repeated : (∀ m n slot slot', memory m n → memory (m.note slot) (n.note slot')) →
      AnswersAgree memory apart .repeated .repeated
  /-- The second one notes the slot, and the relation does not look at its notes. -/
  | noted : (∀ m n slot, memory m n → memory m (n.note slot)) → AnswersAgree memory apart .enter .repeated
  /-- The second one renders what the first one refuses, and is told apart by its note. -/
  | parted : (∀ slot slots, apart (slot :: slots)) → AnswersAgree memory apart .refuse .repeated

/-- A plan that goes by no more of what it sees than a relation between views says. -/
inductive Plan.DecidedBy (seen : View → View → Prop) : Plan → Prop where
  | done (text : String) : DecidedBy seen (.done text)
  | fail (failure : Failure) : DecidedBy seen (.fail failure)
  | inner {next : Except Failure String → Plan} (rest : ∀ outcome, DecidedBy seen (next outcome)) :
      DecidedBy seen (.inner next)
  | block {place : Place} {block : Block} {next : Except Failure String → Plan}
      (rest : ∀ outcome, DecidedBy seen (next outcome)) : DecidedBy seen (.block place block next)
  | items {name : Value} {params : Entries} {next : Except Failure Value → Plan}
      (rest : ∀ outcome, DecidedBy seen (next outcome)) : DecidedBy seen (.items name params next)
  | pattern {ref : Value} {next : Except Failure (Option Pattern) → Plan}
      (rest : ∀ outcome, DecidedBy seen (next outcome)) : DecidedBy seen (.pattern ref next)
  | within {scope : PlanScope} {plan : View → Plan} {next : Except Failure String → Plan}
      (same : ∀ v w, seen v w → plan v = plan w) (inside : ∀ v, DecidedBy seen (plan v))
      (rest : ∀ outcome, DecidedBy seen (next outcome)) : DecidedBy seen (.within scope plan next)
  | guarded {owner name : Value} {plan : Bool → Plan} {next : Except Failure String → Plan}
      (inside : ∀ free, DecidedBy seen (plan free)) (rest : ∀ outcome, DecidedBy seen (next outcome)) :
      DecidedBy seen (.guarded owner name plan next)

/-- Scopes that extensions open in two renders: the same ones, with frames that correspond. -/
inductive PlanScope.Alike (frame : SlotFrame → SlotFrame → Prop) : PlanScope → PlanScope → Prop where
  | pushed (entries : List Entry) : Alike frame (.pushed entries) (.pushed entries)
  | isolated (entries : List Entry) : Alike frame (.isolated entries) (.isolated entries)
  | component (ref : Value) : Alike frame (.component ref) (.component ref)
  | framed {f g : SlotFrame} (frames : frame f g) : Alike frame (.framed f) (.framed g)
  | outerFrames : Alike frame .outerFrames .outerFrames
  | active : Alike frame .active .active

/-- Plans of two renders that do the same, with blocks at places and with frames that correspond, as long as what they
see corresponds. -/
inductive Plan.Alike (corresponds : Place → Place → Prop) (frame : SlotFrame → SlotFrame → Prop)
    (seen : View → View → Prop) : Plan → Plan → Prop where
  | done (text : String) : Alike corresponds frame seen (.done text) (.done text)
  | fail (failure : Failure) : Alike corresponds frame seen (.fail failure) (.fail failure)
  | inner {next next' : Except Failure String → Plan}
      (rest : ∀ outcome, Alike corresponds frame seen (next outcome) (next' outcome)) :
      Alike corresponds frame seen (.inner next) (.inner next')
  | block {p q : Place} {block : Block} {next next' : Except Failure String → Plan} (places : corresponds p q)
      (rest : ∀ outcome, Alike corresponds frame seen (next outcome) (next' outcome)) :
      Alike corresponds frame seen (.block p block next) (.block q block next')
  | items {name : Value} {params : Entries} {next next' : Except Failure Value → Plan}
      (rest : ∀ outcome, Alike corresponds frame seen (next outcome) (next' outcome)) :
      Alike corresponds frame seen (.items name params next) (.items name params next')
  | pattern {ref : Value} {next next' : Except Failure (Option Pattern) → Plan}
      (rest : ∀ outcome, Alike corresponds frame seen (next outcome) (next' outcome)) :
      Alike corresponds frame seen (.pattern ref next) (.pattern ref next')
  | within {scope scope' : PlanScope} {plan plan' : View → Plan} {next next' : Except Failure String → Plan}
      (opened : scope.Alike frame scope')
      (inside : ∀ v w, seen v w → Alike corresponds frame seen (plan v) (plan' w))
      (rest : ∀ outcome, Alike corresponds frame seen (next outcome) (next' outcome)) :
      Alike corresponds frame seen (.within scope plan next) (.within scope' plan' next')
  | guarded {owner name : Value} {plan plan' : Bool → Plan} {next next' : Except Failure String → Plan}
      (inside : ∀ free, Alike corresponds frame seen (plan free) (plan' free))
      (rest : ∀ outcome, Alike corresponds frame seen (next outcome) (next' outcome)) :
      Alike corresponds frame seen (.guarded owner name plan next) (.guarded owner name plan' next')

/-- A scope is opened like itself, if its frame corresponds to itself. -/
theorem PlanScope.alike_refl {frame : SlotFrame → SlotFrame → Prop} (frames : ∀ f, frame f f) (scope : PlanScope) :
    scope.Alike frame scope := by
  cases scope with
  | pushed entries => exact .pushed entries
  | isolated entries => exact .isolated entries
  | component ref => exact .component ref
  | framed frame => exact .framed (frames frame)
  | outerFrames => exact .outerFrames
  | active => exact .active

/-- A plan that goes by no more of what it sees does the same in both renders, wherever places and frames correspond to
themselves. -/
theorem Plan.DecidedBy.alike {corresponds : Place → Place → Prop} {frame : SlotFrame → SlotFrame → Prop}
    {seen : View → View → Prop} (anywhere : ∀ p, corresponds p p) (frames : ∀ f, frame f f) {plan : Plan}
    (decided : plan.DecidedBy seen) : plan.Alike corresponds frame seen plan := by
  induction decided with
  | done text => exact .done text
  | fail failure => exact .fail failure
  | inner _ ih => exact .inner ih
  | block _ ih => exact .block (anywhere _) ih
  | items _ ih => exact .items ih
  | pattern _ ih => exact .pattern ih
  | @within scope plan _ same _ _ inPlan ih =>
    refine .within (scope.alike_refl frames) (fun v w alike => ?_) ih
    rw [same v w alike]
    exact inPlan w
  | guarded _ _ inPlan ih => exact .guarded inPlan ih

/-- What has to be the same for extensions and the scopes that they open. -/
structure ScopesAgree (env other : Environment) (corresponds : Place → Place → Prop)
    (around : Surroundings → Surroundings → Prop) (frame : SlotFrame → SlotFrame → Prop)
    (seen : View → View → Prop) : Prop where
  maxDepth : other.maxDepth = env.maxDepth
  view : ∀ {a b : Surroundings} {p q : Place} (block : Block), around a b → corresponds p q →
    seen (a.view p block) (b.view q block)
  isolated : ∀ {a b : Surroundings} (entries : List Entry), around a b →
    around (a.isolated entries) (b.isolated entries)
  reached : ∀ {a b : Surroundings}, around a b → env.maxDepth.isReached a.depth = env.maxDepth.isReached b.depth
  deeper : ∀ {a b : Surroundings}, around a b → around a.deeper b.deeper
  framed : ∀ {a b : Surroundings} {f g : SlotFrame}, frame f g → around a b →
    around (a.framed { f with level := a.opened }) (b.framed { g with level := b.opened })
  uncovered : ∀ {a b : Surroundings}, around a b → around a.uncovered b.uncovered
  guarding : ∀ {a b : Surroundings} (owner name : Value), around a b →
    around (a.guarding (.named owner name)) (b.guarding (.named owner name))
  guarded : ∀ {a b : Surroundings} (owner name : Value), around a b →
    a.guard.any (GuardKey.same (.named owner name)) = b.guard.any (GuardKey.same (.named owner name))

/-- Environments with the same services: the guards, the limits and the loader may be others. -/
structure SameServices (env other : Environment) : Prop where
  engine : other.engine = env.engine
  autoescape : other.autoescape = env.autoescape
  postProcessors : other.postProcessors = env.postProcessors
  renderers : other.renderers = env.renderers

/-- An environment has the services that it has. -/
theorem SameServices.refl (env : Environment) : SameServices env env := ⟨rfl, rfl, rfl, rfl⟩

/-- A relation between places that holds inside of two blocks if it holds of the blocks. -/
structure Place.Inherited (corresponds : Place → Place → Prop) : Prop where
  child : ∀ {p q : Place} (i : Nat), corresponds p q → corresponds (p.child i) (q.child i)
  body : ∀ ref : String, corresponds (.body ref) (.body ref)

/-- Places that are equal have equal children. -/
theorem Place.Inherited.eq : Inherited fun p q => p = q where
  child i same := congrArg (·.child i) same
  body _ := rfl

/-- How the sessions of two renders correspond, with all that makes the renders come to the same. -/
structure Correspondence (env other : Environment) extends SameServices env other where
  /-- Places of the same block in both renders. -/
  place : Place → Place → Prop
  /-- Surroundings in which the same is rendered. -/
  around : Surroundings → Surroundings → Prop
  /-- What the renders have learned by then. -/
  memory : Memory → Memory → Prop
  /-- Notes that tell the second render apart from the first for good. -/
  apart : List RepeatedSlot → Prop
  /-- What an extension sees in both. -/
  seen : View → View → Prop
  /-- Frames that an extension opens in both. -/
  frame : SlotFrame → SlotFrame → Prop
  inside : Place.Inherited place
  sources : ∀ {a b : Surroundings} (context : Entries), around a b →
    a.context.sources context = b.context.sources context
  /-- As many levels are left in both renders, and as many frames are in sight. -/
  level : ∀ {a b : Surroundings}, around a b →
    env.maxDepth.levelsFrom a.depth = other.maxDepth.levelsFrom b.depth ∧ a.frames.length = b.frames.length
  pushed : ∀ {a b : Surroundings} (entries : List Entry), around a b → around (a.pushed entries) (b.pushed entries)
  activated : ∀ {a b : Surroundings}, around a b → around a.activated b.activated
  /-- A component is too deep in both or in none, and its body is rendered in surroundings that correspond. -/
  component : ∀ {a b : Surroundings} {p q : Place} (block : Block), around a b → place p q →
    env.maxDepth.isReached a.depth = other.maxDepth.isReached b.depth ∧
      ∀ props, around (a.inBody (a.frameFor env p block) props) (b.inBody (b.frameFor other q block) props)
  /-- A slot has no content in both, or the same content, to which the guards may answer what they do. -/
  slot : ∀ {a b : Surroundings} (name : String), around a b →
    (a.slot? name = none ∧ b.slot? name = none) ∨
      ∃ f g p q blocks, a.slot? name = some (f, ⟨p, blocks⟩) ∧ b.slot? name = some (g, ⟨q, blocks⟩) ∧ place p q ∧
        around (a.inSlot f name) (b.inSlot g name) ∧
        AnswersAgree memory apart (env.answer a.guard (f.guardKey name)) (other.answer b.guard (g.guardKey name))
  warn : ∀ {m n : Memory} (warning : String), memory m n → memory (m.warn warning) (n.warn warning)
  /-- Both renders warn of what is too deep, if with other limits. -/
  warnDepth : ∀ {m n : Memory} (ref : Value), memory m n →
    memory (m.warn (tooDeep env ref).compact) (n.warn (tooDeep other ref).compact)
  pattern : ∀ {m n : Memory} (ref : Value), memory m n →
    (m.patterns.get env.loader ref).1 = (n.patterns.get other.loader ref).1 ∧
      memory { m with patterns := (m.patterns.get env.loader ref).2 }
        { n with patterns := (n.patterns.get other.loader ref).2 }
  items : ∀ {m n : Memory} (name : Value) (params : Entries), memory m n →
    (env.engine.loops.items name params m.loops).1 = (env.engine.loops.items name params n.loops).1 ∧
      memory { m with loops := (env.engine.loops.items name params m.loops).2 }
        { n with loops := (env.engine.loops.items name params n.loops).2 }
  apart_note : ∀ (slot : RepeatedSlot) {slots : List RepeatedSlot}, apart slots → apart (slot :: slots)
  extension : ∀ (name : String) (plan : View → Block → Plan), env.renderers.lookup name = some (.extension plan) →
    ScopesAgree env other place around frame seen ∧
      ∀ v w block, seen v w → (plan v block).Alike place frame seen (plan w block)

variable {env other : Environment}

/-- Two actions, started in two sessions, come to the same and leave memories behind that correspond, or the second
one is told apart. -/
def Correspondence.AgreeAt (c : Correspondence env other) {α : Type} (a b : RenderM α) (s t : Session) : Prop :=
  c.apart (b t).2.repeated ∨ ((a s).1 = (b t).1 ∧ c.memory (a s).2.toMemory (b t).2.toMemory)

/-- Where nothing tells the second one apart, both come to the same. -/
theorem Correspondence.AgreeAt.together {c : Correspondence env other} {α : Type} {a b : RenderM α} {s t : Session}
    (agree : c.AgreeAt a b s t) (never : ¬c.apart (b t).2.repeated) :
    (a s).1 = (b t).1 ∧ c.memory (a s).2.toMemory (b t).2.toMemory :=
  agree.resolve_left never

/-- Two actions that take back what they did to the surroundings and, under an assumption, agree wherever the sessions
correspond. -/
structure InStep (c : Correspondence env other) (P : Prop) {α : Type} (a b : RenderM α) : Prop where
  left : Restores a
  right : Restores b
  stays : ∀ t, c.apart t.repeated → c.apart (b t).2.repeated
  agree : P → ∀ s t, c.around s.toSurroundings t.toSurroundings → c.memory s.toMemory t.toMemory → c.AgreeAt a b s t

namespace InStep

variable {c : Correspondence env other} {P Q : Prop} {α β : Type}

/-! ## Actions without scopes -/

/-- An outcome is the same in both renders. -/
theorem ofExcept (outcome : Except Failure α) : InStep c P (RenderM.ofExcept outcome) (RenderM.ofExcept outcome) where
  left := Restores.ofExcept outcome
  right := Restores.ofExcept outcome
  stays _ already := already
  agree _ _ _ _ remembered := .inr ⟨rfl, remembered⟩

/-- So is a value. -/
theorem pure (x : α) : InStep c P (Pure.pure x : RenderM α) (Pure.pure x) := ofExcept (.ok x)

/-- So is a failure. -/
theorem throw (f : Failure) : InStep c P (MonadExcept.throw f : RenderM α) (MonadExcept.throw f) := ofExcept (.error f)

/-- Once apart, the second of two sequences stays apart. -/
theorem stays_bind {action : RenderM α} {next : α → RenderM β} {t : Session}
    (first : c.apart (action t).2.repeated)
    (second : ∀ x t, c.apart t.repeated → c.apart (next x t).2.repeated) :
    c.apart ((action >>= next) t).2.repeated := by
  rcases done : action t with ⟨outcome, t'⟩
  rw [done] at first
  cases outcome with
  | error f =>
    rw [bind_of_error done]
    exact first
  | ok x =>
    rw [bind_of_ok done]
    exact second x t' first

/-- Two actions that agree from two sessions, and what follows them. -/
theorem agreeAt_bind {a b : RenderM α} {f g : α → RenderM β} {s t : Session} (first : c.AgreeAt a b s t)
    (stays : ∀ x t, c.apart t.repeated → c.apart (g x t).2.repeated)
    (second : ∀ x s' t', a s = (.ok x, s') → b t = (.ok x, t') → c.memory s'.toMemory t'.toMemory →
      c.AgreeAt (f x) (g x) s' t') : c.AgreeAt (a >>= f) (b >>= g) s t := by
  rcases first with parted | ⟨same, learned⟩
  · -- What follows on the first side is of no concern any more.
    exact .inl (stays_bind parted stays)
  · rcases done : a s with ⟨outcome, s'⟩
    rcases done' : b t with ⟨outcome', t'⟩
    rw [done, done'] at same learned
    obtain rfl : outcome = outcome' := same
    unfold Correspondence.AgreeAt
    cases outcome with
    | error e =>
      rw [bind_of_error done, bind_of_error done']
      exact .inr ⟨rfl, learned⟩
    | ok x =>
      rw [bind_of_ok done, bind_of_ok done']
      exact second x s' t' done done' learned

/-- Actions one after the other are in step if each of them is. -/
theorem bind {a b : RenderM α} {f g : α → RenderM β} (first : InStep c P a b) (second : ∀ x, InStep c P (f x) (g x)) :
    InStep c P (a >>= f) (b >>= g) where
  left := first.left.bind fun x => (second x).left
  right := first.right.bind fun x => (second x).right
  stays t already := stays_bind (first.stays t already) fun x => (second x).stays
  agree given s t around remembered := by
    refine agreeAt_bind (first.agree given s t around remembered) (fun x => (second x).stays) ?_
    intro x s' t' done done' learned
    -- Both first actions took back what they did to the surroundings, so these still correspond.
    have kept : s'.toSurroundings = s.toSurroundings := by rw [← first.left s, done]
    have kept' : t'.toSurroundings = t.toSurroundings := by rw [← first.right t, done']
    refine (second x).agree given s' t' ?_ learned
    rw [kept, kept']
    exact around

/-- Requests for items are in step, since both renders ask the same service. -/
theorem ofLoops {action : LoopM α} (asking : Asking env.engine.loops AnyFailure action) :
    InStep c P (RenderM.ofLoops action) (RenderM.ofLoops action) where
  left := Restores.ofLoops action
  right := Restores.ofLoops action
  stays _ already := already
  agree _ s t _ remembered :=
    .inr (asking.agrees (fun l l' => c.memory { s.toMemory with loops := l } { t.toMemory with loops := l' })
      (fun name params _ _ related => c.items name params related) s.loops t.loops remembered)

/-- Requests for patterns are in step, since both renders ask the same loader. -/
theorem findPattern (ref : Value) : InStep c P (RenderM.findPattern env ref) (RenderM.findPattern other ref) where
  left := Restores.findPattern env ref
  right := Restores.findPattern other ref
  stays _ already := already
  agree _ _ _ _ remembered := .inr (c.pattern ref remembered)

/-- Warnings are in step, since nothing is read of them. -/
theorem warn (warning : String) : InStep c P (RenderM.warn warning) (RenderM.warn warning) where
  left := Restores.warn warning
  right := Restores.warn warning
  stays _ already := already
  agree _ _ _ _ remembered := .inr ⟨rfl, c.warn warning remembered⟩

/-- The sources of a block are the same in both renders. -/
theorem sourcesOf (block : Block) : InStep c P (RenderM.sourcesOf block) (RenderM.sourcesOf block) where
  left := Restores.sourcesOf block
  right := Restores.sourcesOf block
  stays _ already := already
  agree _ _ _ around remembered := .inr ⟨congrArg Except.ok (c.sources block.context around), remembered⟩

/-- A text is processed in the same way in both renders. -/
theorem postProcess (block : Block) (text : String) :
    InStep c P (RenderM.postProcess env block text) (RenderM.postProcess other block text) := by
  unfold RenderM.postProcess
  rw [c.postProcessors]
  exact ofExcept _

/-- Actions whose failures are caught are in step if they are without. -/
theorem attempt {a b : RenderM α} (h : InStep c P a b) : InStep c P (RenderM.attempt a) (RenderM.attempt b) where
  left := h.left.attempt
  right := h.right.attempt
  stays := h.stays
  agree given s t around remembered := by
    rcases h.agree given s t around remembered with parted | ⟨same, learned⟩
    · exact .inl parted
    · exact .inr ⟨congrArg Except.ok same, learned⟩

/-- Actions in step stay so under a stronger condition. -/
theorem weaken {a b : RenderM α} (h : InStep c P a b) (implied : Q → P) : InStep c Q a b :=
  ⟨h.left, h.right, h.stays, fun given => h.agree (implied given)⟩

/-! ## Scopes -/

/-- Actions in surroundings that correspond. -/
theorem agreeAt_inside {a b : RenderM α} (h : InStep c P a b) (given : P) {change change' : Surroundings → Surroundings}
    {s t : Session} (around : c.around (change s.toSurroundings) (change' t.toSurroundings))
    (remembered : c.memory s.toMemory t.toMemory) :
    c.AgreeAt (RenderM.inside change a) (RenderM.inside change' b) s t :=
  h.agree given (s.surround (change s.toSurroundings)) (t.surround (change' t.toSurroundings)) around remembered

/-- A scope does not bring back what is apart. -/
theorem stays_inside {a b : RenderM α} (h : InStep c P a b) (change : Surroundings → Surroundings) (t : Session)
    (already : c.apart t.repeated) : c.apart (RenderM.inside change b t).2.repeated :=
  h.stays (t.surround (change t.toSurroundings)) already

/-- Actions in step stay so inside surroundings that correspond. -/
theorem inside {a b : RenderM α} (h : InStep c P a b) {change change' : Surroundings → Surroundings}
    (changes : ∀ {x y}, c.around x y → c.around (change x) (change' y)) :
    InStep c P (RenderM.inside change a) (RenderM.inside change' b) where
  left := Restores.inside change a
  right := Restores.inside change' b
  stays := h.stays_inside change'
  agree given _ _ around remembered := h.agreeAt_inside given (changes around) remembered

/-- So do actions with the same entries pushed. -/
theorem withPushed {a b : RenderM α} (h : InStep c P a b) (entries : List Entry) :
    InStep c P (RenderM.withPushed entries a) (RenderM.withPushed entries b) := by
  rw [h.left.withPushed_eq, h.right.withPushed_eq]
  exact h.inside (c.pushed entries)

/-- Outcomes that agree do so with a function applied to them. -/
theorem agreeAt_map {a b : RenderM α} (f : α → β) {s t : Session} (h : c.AgreeAt a b s t) :
    c.AgreeAt (f <$> a) (f <$> b) s t := by
  unfold Correspondence.AgreeAt
  rw [map_apply, map_apply]
  rcases h with parted | ⟨same, learned⟩
  · exact .inl parted
  · exact .inr ⟨congrArg (Except.map f) same, learned⟩

/-- A failure for depth that is absorbed adds no note. -/
theorem repeated_absorbDepth (action : RenderM (Option String)) (t : Session) :
    (absorbDepth action t).2.repeated = (action t).2.repeated := by
  unfold absorbDepth
  split
  · rename_i done
    rw [done]
    rfl
  · rfl

/-- So they do where depth is given up. -/
theorem agreeAt_absorbDepth {a b : RenderM (Option String)} {s t : Session} (h : c.AgreeAt a b s t) :
    c.AgreeAt (absorbDepth a) (absorbDepth b) s t := by
  rcases h with parted | ⟨same, learned⟩
  · left
    rw [repeated_absorbDepth]
    exact parted
  · right
    unfold absorbDepth
    rcases done : a s with ⟨outcome, s'⟩
    rcases done' : b t with ⟨outcome', t'⟩
    rw [done, done'] at same learned
    have same : outcome = outcome' := same
    subst same
    cases outcome with
    | ok text => exact ⟨rfl, learned⟩
    | error f =>
      cases f with
      | renderDepth ref limit => exact ⟨rfl, c.warn _ learned⟩
      | _ => exact ⟨rfl, learned⟩

/-! ## Every kind of block -/

/-- A text is rendered in step. -/
theorem renderText (block : Block) : InStep c P (RenderM.renderText env block) (RenderM.renderText other block) := by
  have substituted (sources : List Source) (content : String) :
      other.substitute sources content = env.substitute sources content := by
    unfold Environment.substitute
    rw [c.engine, c.autoescape]
  unfold RenderM.renderText
  cases block.content? with
  | none => exact pure ""
  | some content =>
    refine (sourcesOf block).bind fun sources => ?_
    rw [substituted]
    exact (ofExcept _).bind fun text => postProcess block text

/-- An element is rendered in step if the blocks inside it are. -/
theorem renderElement (block : Block) {a b : RenderM String} (h : InStep c P a b) :
    InStep c P (RenderM.renderElement env block a) (RenderM.renderElement other block b) := by
  have evaluated (sources : List Source) (attributes : Value) :
      other.elementAttributes sources attributes = env.elementAttributes sources attributes := by
    unfold Environment.elementAttributes Environment.elementAttribute Environment.resolveContent
    rw [c.engine]
  refine (sourcesOf block).bind fun sources => ?_
  rw [evaluated]
  refine (ofExcept _).bind fun attributes => ?_
  dsimp only
  split
  · exact postProcess block _
  · exact h.bind fun text => postProcess block _

/-- What a loop goes over is the same in both renders. -/
theorem loopData (block : Block) (sources : List Source) :
    InStep c P (RenderM.loopData env block sources) (RenderM.loopData other block sources) := by
  unfold RenderM.loopData
  rw [c.engine]
  split
  · exact (ofLoops (Engine.asking_targetItems env.engine.modifiers.onlyFails_any sources _)).bind fun items => pure _
  · refine (ofExcept _).bind fun params => (ofLoops (Asking.items _ params)).bind fun items => ?_
    split
    · exact pure items
    · exact ofExcept _

/-- The items of a loop: an induction on the items, each of which is pushed on both sides. -/
theorem renderItems (block : Block) {a b : RenderM String} (h : InStep c P a b) (index : Nat) (items : List Value) :
    InStep c P (RenderM.renderItems block a index items) (RenderM.renderItems block b index items) := by
  induction items generalizing index with
  | nil => exact pure ""
  | cons item items ih =>
    unfold RenderM.renderItems
    exact (h.withPushed _).bind fun first => (ih (index + 1)).bind fun rest => pure _

/-- A loop is rendered in step if the blocks inside it are. -/
theorem renderLoop (block : Block) {a b : RenderM String} (h : InStep c P a b) :
    InStep c P (RenderM.renderLoop env block a) (RenderM.renderLoop other block b) :=
  (sourcesOf block).bind fun sources => (loopData block sources).bind fun data =>
    (ofExcept data.seriesOrNone).bind fun items => renderItems block h 0 items

/-- The props of an instance are the same in both renders. -/
theorem propsOf (block : Block) (pattern : Pattern) :
    InStep c P (RenderM.propsOf env block pattern) (RenderM.propsOf other block pattern) := by
  unfold RenderM.propsOf Environment.instanceAttributes Environment.resolveContent Environment.propScope
  rw [c.engine]
  exact (sourcesOf block).bind fun sources => (ofExcept _).bind fun attributes =>
    ofLoops (PropScope.asking_properties env.engine.modifiers.onlyFails_any rfl _ _)

/-- The body of a pattern, entered in both renders or in none. -/
theorem agreeAt_renderBody {a b : RenderM String} (h : InStep c P a b) (given : P) {f g : SlotFrame} {s t : Session}
    (ref : Value) (props : List (String × Value))
    (limit : env.maxDepth.isReached s.depth = other.maxDepth.isReached t.depth)
    (around : c.around (s.inBody f props) (t.inBody g props)) (remembered : c.memory s.toMemory t.toMemory) :
    c.AgreeAt (renderBody env ref f props a) (renderBody other ref g props b) s t := by
  unfold Correspondence.AgreeAt
  cases reached : env.maxDepth.isReached s.depth with
  | true =>
    rw [renderBody_of_reached h.left reached, renderBody_of_reached h.right (limit ▸ reached)]
    exact .inr ⟨rfl, c.warnDepth ref remembered⟩
  | false =>
    rw [renderBody_of_not_reached h.left reached, renderBody_of_not_reached h.right (limit ▸ reached)]
    exact agreeAt_absorbDepth (agreeAt_map some (h.agreeAt_inside given around remembered))

/-- The body of a pattern does not bring back what is apart. -/
theorem stays_renderBody {a b : RenderM String} (h : InStep c P a b) (ref : Value) (g : SlotFrame)
    (props : List (String × Value)) (t : Session) (already : c.apart t.repeated) :
    c.apart (renderBody other ref g props b t).2.repeated := by
  cases reached : other.maxDepth.isReached t.depth with
  | true =>
    rw [renderBody_of_reached h.right reached]
    exact already
  | false =>
    rw [renderBody_of_not_reached h.right reached, repeated_absorbDepth, map_apply]
    exact h.stays_inside (·.inBody g props) t already

/-- What follows the frame of an instance gets it from the session. -/
theorem frameOf_bind (env : Environment) (place : Place) (block : Block) (next : SlotFrame → RenderM α)
    (s : Session) : (frameOf env place block >>= next) s = next (s.frameFor env place block) s :=
  bind_of_ok rfl

/-- An instance of a pattern from its frame on. The frames are not the same, so this is not a sequence of actions
that agree by themselves. -/
theorem renderFramed (block : Block) {p q : Place} (props : List (String × Value)) {a b : RenderM String}
    (h : InStep c True a b) :
    InStep c (c.place p q) (frameOf env p block >>= fun frame => renderBody env block.ref frame props a)
      (frameOf other q block >>= fun frame => renderBody other block.ref frame props b) where
  left := (show Restores (frameOf env p block) from fun _ => rfl).bind fun frame =>
    Restores.renderBody env block.ref frame props h.left
  right := (show Restores (frameOf other q block) from fun _ => rfl).bind fun frame =>
    Restores.renderBody other block.ref frame props h.right
  stays t already := by
    rw [frameOf_bind]
    exact h.stays_renderBody block.ref _ props t already
  agree places s t around remembered := by
    obtain ⟨limit, bodies⟩ := c.component block around places
    unfold Correspondence.AgreeAt
    rw [frameOf_bind, frameOf_bind]
    exact h.agreeAt_renderBody trivial block.ref props limit (bodies props) remembered

/-- Instances at places that correspond are rendered in step if the bodies of their pattern are. -/
theorem renderInstance (block : Block) {p q : Place} (pattern : Pattern) {a b : RenderM String}
    (h : InStep c True a b) :
    InStep c (c.place p q) (RenderM.renderInstance env p block pattern a)
      (RenderM.renderInstance other q block pattern b) := by
  refine (propsOf block pattern).bind fun props => ?_
  rw [← bind_assoc, ← bind_assoc]
  refine (renderFramed block props h).bind fun rendered => ?_
  cases rendered with
  | none => exact pure ""
  | some text => exact postProcess block text

/-- Components at places that correspond are rendered in step if the bodies of patterns are. -/
theorem renderComponent (block : Block) {p q : Place} {a b : String → List Block → RenderM String}
    (h : ∀ ref blocks, InStep c True (a ref blocks) (b ref blocks)) :
    InStep c (c.place p q) (RenderM.renderComponent env p block a) (RenderM.renderComponent other q block b) := by
  unfold RenderM.renderComponent
  split
  · exact pure ""
  · refine (findPattern block.ref).bind fun found => ?_
    cases found with
    | none => exact (warn _).bind fun _ => pure ""
    | some pattern =>
      dsimp only
      split
      · exact pure ""
      · exact renderInstance block pattern (h _ _)

/-- The content of a slot, as both guards say. -/
theorem agreeAt_renderFilled {a b : RenderM String} (h : InStep c P a b) (given : P) {f g : SlotFrame} {name : String}
    {s t : Session} (around : c.around (s.inSlot f name) (t.inSlot g name))
    (answers : AnswersAgree c.memory c.apart (env.answer s.guard (f.guardKey name))
      (other.answer t.guard (g.guardKey name)))
    (remembered : c.memory s.toMemory t.toMemory) :
    c.AgreeAt (renderFilled env f name a) (renderFilled other g name b) s t := by
  have entered : c.AgreeAt (RenderM.inside (·.inSlot f name) a) (RenderM.inside (·.inSlot g name) b) s t :=
    h.agreeAt_inside given around remembered
  unfold Correspondence.AgreeAt at entered ⊢
  rw [renderFilled_eq h.left, renderFilled_eq h.right]
  dsimp only
  -- The guards count by their answers only, of which the relation names all pairs that can come up.
  generalize env.answer s.guard (f.guardKey name) = answer at answers ⊢
  generalize other.answer t.guard (g.guardKey name) = answer' at answers ⊢
  cases answers with
  | enter => exact entered
  | refuse => exact .inr ⟨rfl, remembered⟩
  | repeated unseen =>
    rcases entered with parted | ⟨same, learned⟩
    · exact .inl (c.apart_note _ parted)
    · exact .inr ⟨same, unseen _ _ _ _ learned⟩
  | noted unseen =>
    rcases entered with parted | ⟨same, learned⟩
    · exact .inl (c.apart_note _ parted)
    · exact .inr ⟨same, unseen _ _ _ learned⟩
  | parted away => exact .inl (away _ _)

/-- The content of a slot does not bring back what is apart. -/
theorem stays_renderFilled {a b : RenderM String} (h : InStep c P a b) (g : SlotFrame) (name : String) (t : Session)
    (already : c.apart t.repeated) : c.apart (renderFilled other g name b t).2.repeated := by
  have entered := h.stays_inside (·.inSlot g name) t already
  rw [renderFilled_eq h.right]
  dsimp only
  cases other.answer t.guard (g.guardKey name) with
  | enter => exact entered
  | refuse => exact already
  | repeated => exact c.apart_note _ entered

/-- A placeholder is rendered in step if contents of slots at places that correspond are. -/
theorem renderPlaceholder (block : Block) {a b : SlotContent → RenderM String}
    (h : ∀ p q blocks, InStep c (c.place p q) (a ⟨p, blocks⟩) (b ⟨q, blocks⟩)) :
    InStep c P (RenderM.renderPlaceholder env block a) (RenderM.renderPlaceholder other block b) where
  left := Restores.renderPlaceholder env block fun content => (h content.place .page content.blocks).left
  right := Restores.renderPlaceholder other block fun content => (h .page content.place content.blocks).right
  stays t already := by
    cases named : block.slotName? with
    | none =>
      unfold RenderM.renderPlaceholder
      rw [named]
      exact already
    | some name =>
      rw [renderPlaceholder_apply named]
      split
      · exact already
      · rename_i g content _
        exact (h .page content.place content.blocks).stays_renderFilled g name t already
  agree _ s t around remembered := by
    unfold Correspondence.AgreeAt
    cases named : block.slotName? with
    | none =>
      unfold RenderM.renderPlaceholder
      rw [named]
      exact .inr ⟨rfl, remembered⟩
    | some name =>
      rw [renderPlaceholder_apply named, renderPlaceholder_apply named]
      rcases c.slot name around with ⟨empty, empty'⟩ | ⟨f, g, p, q, blocks, there, there', places, inSlot, answers⟩
      · rw [empty, empty']
        exact .inr ⟨rfl, remembered⟩
      · rw [there, there']
        exact (h p q blocks).agreeAt_renderFilled places inSlot answers remembered

/-! ## Extensions -/

/-- A component entered by an extension, in both renders or in none. -/
theorem withComponent (scopes : ScopesAgree env other c.place c.around c.frame c.seen) (ref : Value)
    {a b : RenderM α} (h : InStep c P a b) :
    InStep c P (RenderM.withComponent env ref a) (RenderM.withComponent other ref b) where
  left := h.left.withComponent env ref
  right := h.right.withComponent other ref
  stays t already := by
    rw [h.right.withComponent_eq]
    dsimp only
    split
    · exact already
    · exact h.stays_inside _ t already
  agree given s t around remembered := by
    unfold Correspondence.AgreeAt
    rw [h.left.withComponent_eq, h.right.withComponent_eq]
    dsimp only
    rw [scopes.maxDepth, scopes.reached around]
    split
    · unfold tooDeep
      rw [scopes.maxDepth]
      exact .inr ⟨rfl, remembered⟩
    · exact h.agreeAt_inside given (scopes.deeper around) remembered

/-- Actions in step stay so within scopes of extensions that are alike. -/
theorem withinScope (scopes : ScopesAgree env other c.place c.around c.frame c.seen) {scope scope' : PlanScope}
    (opened : scope.Alike c.frame scope') {a b : RenderM α} (h : InStep c P a b) :
    InStep c P (RenderM.withinScope env scope a) (RenderM.withinScope other scope' b) := by
  cases opened with
  | pushed entries => exact h.withPushed entries
  | isolated entries =>
    show InStep c P (RenderM.withIsolated entries a) (RenderM.withIsolated entries b)
    rw [h.left.withIsolated_eq, h.right.withIsolated_eq]
    exact h.inside (scopes.isolated entries)
  | component ref => exact h.withComponent scopes ref
  | @framed f g frames =>
    show InStep c P (RenderM.withOwnFrame f a) (RenderM.withOwnFrame g b)
    rw [h.left.withOwnFrame_eq, h.right.withOwnFrame_eq]
    exact h.inside (scopes.framed frames)
  | outerFrames =>
    show InStep c P (RenderM.withOuterFrames a) (RenderM.withOuterFrames b)
    rw [h.left.withOuterFrames_eq, h.right.withOuterFrames_eq]
    exact h.inside scopes.uncovered
  | active =>
    show InStep c P (RenderM.withActive a) (RenderM.withActive b)
    rw [h.left.withActive_eq, h.right.withActive_eq]
    exact h.inside c.activated

/-- Actions that depend on whether a slot is free are in step if they are either way. -/
theorem ifFree (scopes : ScopesAgree env other c.place c.around c.frame c.seen) (owner name : Value)
    {a b : Bool → RenderM α} (h : ∀ free, InStep c P (a free) (b free)) :
    InStep c P (RenderM.ifFree (.named owner name) a) (RenderM.ifFree (.named owner name) b) where
  left := Restores.ifFree _ fun free => (h free).left
  right := Restores.ifFree _ fun free => (h free).right
  stays t already := by
    unfold RenderM.ifFree
    rw [(h true).right.withGuard_eq]
    split
    · exact (h false).stays t already
    · exact (h true).stays_inside _ t already
  agree given s t around remembered := by
    have same : s.isGuarded (.named owner name) = t.isGuarded (.named owner name) := scopes.guarded owner name around
    unfold Correspondence.AgreeAt RenderM.ifFree
    rw [(h true).left.withGuard_eq, (h true).right.withGuard_eq, same]
    split
    · exact (h false).agree given s t around remembered
    · exact (h true).agreeAt_inside given (scopes.guarding owner name around) remembered

/-- What an extension does after it has looked at the session. What it sees corresponds only where the sessions do, so
that it restores and stays apart has to be known whatever it sees. -/
theorem afterLook (scopes : ScopesAgree env other c.place c.around c.frame c.seen) (block : Block) {p q : Place}
    {a b : View → RenderM α} (left : ∀ v, Restores (a v)) (right : ∀ w, Restores (b w))
    (stays : ∀ w t, c.apart t.repeated → c.apart (b w t).2.repeated)
    (h : ∀ v w, c.seen v w → InStep c (c.place p q) (a v) (b w)) :
    InStep c (c.place p q) (get >>= fun s => a (s.view p block)) (get >>= fun t => b (t.view q block)) where
  left := Restores.get.bind fun s => left (s.view p block)
  right := Restores.get.bind fun t => right (t.view q block)
  stays t already := stays (t.view q block) t already
  agree places s t around remembered :=
    (h _ _ (scopes.view block around places)).agree places s t around remembered

/-- A block rendered where the sessions stand, with the same number of levels left and of frames in sight. -/
theorem renderAnew {a b : BlockRender}
    (h : ∀ levels frames p q block, InStep c (c.place p q) (a levels frames p block) (b levels frames q block))
    (p q : Place) (block : Block) :
    InStep c (c.place p q) (RenderM.renderAnew env a p block) (RenderM.renderAnew other b q block) where
  left := Restores.renderAnew env (fun levels frames p block => (h levels frames p q block).left) p block
  right := Restores.renderAnew other (fun levels frames q block => (h levels frames p q block).right) q block
  stays t already := (h _ _ p q block).stays t already
  agree places s t around remembered := by
    have agree := (h (levelsLeft env s) s.frames.length p q block).agree places s t around remembered
    obtain ⟨levels, frames⟩ := c.level around
    show c.AgreeAt (a (env.maxDepth.levelsFrom s.depth) s.frames.length p block)
      (b (other.maxDepth.levelsFrom t.depth) t.frames.length q block) s t
    rw [← levels, ← frames]
    exact agree

/-- Blocks one by one: an induction on the blocks. -/
theorem renderEach {a b : Place → Block → RenderM String}
    (h : ∀ p q block, InStep c (c.place p q) (a p block) (b q block)) (p q : Place) (position : Nat)
    (blocks : List Block) :
    InStep c (c.place p q) (RenderM.renderEach a p position blocks) (RenderM.renderEach b q position blocks) := by
  induction blocks generalizing position with
  | nil => exact pure ""
  | cons block blocks ih =>
    exact ((h _ _ block).weaken (c.inside.child position)).bind fun _ => (ih (position + 1)).bind fun _ => pure _

/-- No scope that an extension opens brings back what is apart. -/
theorem stays_withinScope {b : RenderM α} (right : Restores b)
    (stays : ∀ t, c.apart t.repeated → c.apart (b t).2.repeated) (scope : PlanScope) (t : Session)
    (already : c.apart t.repeated) : c.apart (RenderM.withinScope other scope b t).2.repeated := by
  have inside (change : Surroundings → Surroundings) : c.apart (RenderM.inside change b t).2.repeated :=
    stays (t.surround (change t.toSurroundings)) already
  unfold RenderM.withinScope
  cases scope with
  | pushed entries =>
    dsimp only
    rw [right.withPushed_eq]
    exact inside _
  | isolated entries =>
    dsimp only
    rw [right.withIsolated_eq]
    exact inside _
  | component ref =>
    dsimp only
    rw [right.withComponent_eq]
    dsimp only
    split
    · exact already
    · exact inside _
  | framed frame =>
    dsimp only
    rw [right.withOwnFrame_eq]
    exact inside _
  | outerFrames =>
    dsimp only
    rw [right.withOuterFrames_eq]
    exact inside _
  | active =>
    dsimp only
    rw [right.withActive_eq]
    exact inside _

/-- No plan brings back what is apart: an induction on the plan. -/
theorem stays_follow {b : Place → Block → RenderM String} (right : ∀ place block, Restores (b place block))
    (stays : ∀ place block t, c.apart t.repeated → c.apart (b place block t).2.repeated) (place : Place)
    (block : Block) (plan : Plan) (t : Session) (already : c.apart t.repeated) :
    c.apart (RenderM.follow other place block b plan t).2.repeated := by
  induction plan generalizing t with
  | done text => exact already
  | fail failure => exact already
  | inner next ih =>
    have each (position : Nat) (blocks : List Block) (t : Session) (already : c.apart t.repeated) :
        c.apart (RenderM.renderEach b place position blocks t).2.repeated := by
      induction blocks generalizing position t with
      | nil => exact already
      | cons block blocks ih =>
        exact stays_bind (stays _ block t already) fun _ t already => stays_bind (ih _ t already) fun _ _ => id
    exact stays_bind (each 0 block.inner t already) fun outcome => ih outcome
  | block inside inner next ih => exact stays_bind (stays inside inner t already) fun outcome => ih outcome
  | items name params next ih =>
    exact stays_bind (show c.apart (RenderM.attempt (RenderM.ofLoops _) t).2.repeated from already) fun outcome =>
      ih outcome
  | pattern ref next ih =>
    exact stays_bind (show c.apart (RenderM.attempt (RenderM.findPattern other ref) t).2.repeated from already)
      fun outcome => ih outcome
  | within scope plan next inPlan ih =>
    have looked : Restores (get >>= fun s => RenderM.follow other place block b (plan (s.view place block))) :=
      Restores.get.bind fun s => Restores.follow other place block right _
    exact stays_bind (stays_withinScope looked (fun t already => inPlan _ t already) scope t already) fun outcome =>
      ih outcome
  | guarded owner name plan next inPlan ih =>
    have followed (free : Bool) : Restores (RenderM.follow other place block b (plan free)) :=
      Restores.follow other place block right _
    have free : c.apart (RenderM.ifFree (.named owner name)
        (fun free => RenderM.follow other place block b (plan free)) t).2.repeated := by
      unfold RenderM.ifFree
      rw [(followed true).withGuard_eq]
      split
      · exact inPlan false t already
      · exact inPlan true _ already
    exact stays_bind free fun outcome => ih outcome

/-- Plans of an extension that do the same: an induction on what they do. -/
theorem follow (scopes : ScopesAgree env other c.place c.around c.frame c.seen) (block : Block) {p q : Place}
    {a b : Place → Block → RenderM String} (h : ∀ p q block, InStep c (c.place p q) (a p block) (b q block))
    {plan plan' : Plan} (alike : plan.Alike c.place c.frame c.seen plan') :
    InStep c (c.place p q) (RenderM.follow env p block a plan) (RenderM.follow other q block b plan') := by
  have left (place : Place) (block : Block) : Restores (a place block) := (h place place block).left
  have right (place : Place) (block : Block) : Restores (b place block) := (h place place block).right
  induction alike with
  | done text => exact pure text
  | fail failure => exact throw failure
  | inner _ ih => exact (renderEach h p q 0 block.inner).attempt.bind ih
  | @block place place' inner _ _ places _ ih =>
    have rendered : InStep c (c.place p q) (a place inner) (b place' inner) :=
      (h place place' inner).weaken fun _ => places
    exact rendered.attempt.bind ih
  | @items name params _ _ _ ih =>
    have asked : InStep c (c.place p q) (RenderM.ofLoops (env.engine.loops.items name params))
      (RenderM.ofLoops (env.engine.loops.items name params)) := ofLoops (Asking.items name params)
    unfold RenderM.follow
    rw [c.engine]
    exact asked.attempt.bind ih
  | pattern _ ih => exact (findPattern _).attempt.bind ih
  | within opened _ _ inPlan ih =>
    have looked := afterLook scopes block (fun v => Restores.follow env p block left _)
      (fun w => Restores.follow other q block right _)
      (fun w => stays_follow right (fun place block => (h place place block).stays) q block _) inPlan
    exact (withinScope scopes opened looked).attempt.bind ih
  | guarded _ _ inPlan ih => exact (ifFree scopes _ _ inPlan).attempt.bind ih

/-- Every kind of block is in step if what is inside it is. -/
theorem keptByBlocks (c : Correspondence env other) :
    KeptByBlocks env other c.place (fun P a b => InStep c P a b) where
  weaken implied h := h.weaken implied
  renderers := c.renderers
  child := c.inside.child
  body := c.inside.body
  nothing _ := pure ""
  unnamed _ := throw .wrongType
  endless := throw .endless
  append first rest := first.bind fun _ => rest.bind fun _ => pure _
  text _ := renderText
  element block _ _ := renderElement block
  loop block _ _ := renderLoop block
  component block _ _ _ _ := renderComponent block
  placeholder _ block _ _ := renderPlaceholder block
  extension name plan block _ _ _ _ registered blocks := by
    obtain ⟨scopes, alike⟩ := c.extension name plan registered
    have rendered := renderAnew blocks
    exact afterLook scopes block
      (fun v => Restores.follow env _ block (fun place block => (rendered place place block).left) _)
      (fun w => Restores.follow other _ block (fun place block => (rendered place place block).right) _)
      (fun w => stays_follow (fun place block => (rendered place place block).right)
        (fun place block => (rendered place place block).stays) _ block _)
      fun v w same => follow scopes block rendered (alike v w block same)

/-- Blocks at places that correspond, with the same number of levels left and of frames in sight. -/
theorem renderAt (c : Correspondence env other) (levels frames : Nat) (p q : Place) (blocks : List Block) :
    InStep c (c.place p q) (RenderM.renderAt env levels frames p blocks)
      (RenderM.renderAt other levels frames q blocks) :=
  (keptByBlocks c).renderAt levels frames p q blocks

end InStep

/-- None of the renderers that come with the library is an extension. -/
theorem defaultRenderers_ne_extension {name : String} {plan : View → Block → Plan}
    (registered : defaultRenderers.lookup name = some (.extension plan)) : False := by
  have there : (name, Renderer.extension plan) ∈ defaultRenderers := mem_of_lookup_eq_some registered
  unfold defaultRenderers at there
  simp only [List.mem_cons, Prod.mk.injEq, reduceCtorEq, and_false, List.not_mem_nil, or_self] at there

/-! ## Pages -/

namespace InStep

variable {c : Correspondence env other}

/-- Blocks at places that correspond are rendered in step. -/
theorem renderBlocks (p q : Place) (blocks : List Block) :
    InStep c (c.place p q) (RenderM.renderBlocks env p blocks) (RenderM.renderBlocks other q blocks) where
  left := Restores.renderBlocks env p blocks
  right := Restores.renderBlocks other q blocks
  stays t already := by
    rw [renderBlocks_apply]
    exact (renderAt c _ _ p q blocks).stays t already
  agree places s t around remembered := by
    obtain ⟨levels, frames⟩ := c.level around
    have agree := (renderAt c (levelsLeft env s) s.frames.length p q blocks).agree places s t around remembered
    unfold Correspondence.AgreeAt at agree ⊢
    rw [renderBlocks_apply, renderBlocks_apply]
    unfold levelsLeft at agree ⊢
    rw [← levels, ← frames]
    exact agree

/-- Pages are rendered in step. -/
theorem renderPage (places : c.place .page .page) (blocks sources : Value) :
    InStep c True (RenderM.renderPage env blocks sources) (RenderM.renderPage other blocks sources) := by
  rw [renderPage_eq, renderPage_eq]
  have found : InStep c True _ _ := (ofExcept (Entry.ofInitials sources)).bind fun entries =>
    ((ofExcept (Block.ofSeries blocks)).bind fun blocks =>
      (renderBlocks .page .page blocks).weaken fun _ => places).inside (c.pushed entries)
  exact found.inside c.activated

end InStep

/-- A page rendered in sessions that correspond at the start. -/
theorem Correspondence.agree_render (c : Correspondence env other) (places : c.place .page .page)
    (host : other.host = env.host)
    (around : ∀ context, c.around { (Session.start env.host).toSurroundings with context := context }
      { (Session.start env.host).toSurroundings with context := context })
    (remembered : c.memory (Session.start env.host).toMemory (Session.start env.host).toMemory) (page : Page) :
    c.apart (other.render page).2.repeated ∨
      ((env.render page).1 = (other.render page).1 ∧
        c.memory (env.render page).2.toMemory (other.render page).2.toMemory) := by
  obtain ⟨context, -, ⟨f, failed⟩ | rendered⟩ := render_cases env.host page.globals page.previews
  · rw [failed env rfl, failed other host]
    exact .inr ⟨rfl, remembered⟩
  · rw [rendered env rfl, rendered other host]
    exact (InStep.renderPage places page.blocks page.sources).agree trivial _ _ (around context) remembered

end DynamicBlocks
