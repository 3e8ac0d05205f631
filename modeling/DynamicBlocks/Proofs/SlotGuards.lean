import DynamicBlocks.Proofs.Lockstep
import Mathlib

/-!
# What the slot guard cuts off

A placeholder is refused the content of a slot that is being rendered, so that content which asks for itself does not
go on forever. Three guards are compared: none, one that tells component instances apart, and the one in use, which
tells them by their blocks.

Rendering the content of a slot hides the frame it was found in, and a frame that comes on top later has a higher
level. So no placeholder ever finds the frame of a slot that is being rendered, and a guard
that tells instances apart has nothing to do (`Nested`). The guard in use sees one block where there may be two
instances of it, one in the slot content of the other; then it refuses a slot that is not being rendered at all. It
does not, and everything is as without a guard, exactly as long as the render without a guard comes to no slot twice.
-/

set_option autoImplicit false

namespace DynamicBlocks

/-! ## Two guards side by side -/

/-- The environment with another guard. -/
def Environment.guardedBy (env : Environment) (guard : SlotGuard) : Environment :=
  { env with slotGuard := guard }

/-- Every plan goes by what it sees. -/
theorem Plan.decidedBy_eq (plan : Plan) : plan.DecidedBy Eq := by
  induction plan with
  | done text => exact .done text
  | fail failure => exact .fail failure
  | inner next ih => exact .inner ih
  | block place block next ih => exact .block ih
  | items name params next ih => exact .items ih
  | pattern ref next ih => exact .pattern ih
  | within scope plan next inPlan ih => exact .within (fun _ _ same => congrArg plan same) inPlan ih
  | guarded owner name plan next inPlan ih => exact .guarded inPlan ih

/-- A property of surroundings that all scopes keep. -/
structure KeptByScopes (good : Surroundings → Prop) : Prop where
  pushed : ∀ {a : Surroundings} (entries : List Entry), good a → good (a.pushed entries)
  isolated : ∀ {a : Surroundings} (entries : List Entry), good a → good (a.isolated entries)
  deeper : ∀ {a : Surroundings}, good a → good a.deeper
  framed : ∀ {a : Surroundings} (frame : SlotFrame), good a → good (a.framed { frame with level := a.opened })
  uncovered : ∀ {a : Surroundings}, good a → good a.uncovered
  activated : ∀ {a : Surroundings}, good a → good a.activated
  guarding : ∀ {a : Surroundings} (owner name : Value), good a → good (a.guarding (.named owner name))
  inBody : ∀ {a : Surroundings} (env : Environment) (place : Place) (block : Block) (props : List (String × Value)),
    good a → good (a.inBody (a.frameFor env place block) props)
  inSlot : ∀ {a : Surroundings} {name : String} {frame : SlotFrame} {content : SlotContent},
    a.slot? name = some (frame, content) → good a → good (a.inSlot frame name)

/-- Memories that differ in their notes on slots at most. -/
def Memory.UpTo (noted : List RepeatedSlot → List RepeatedSlot → Prop) (m n : Memory) : Prop :=
  m.patterns = n.patterns ∧ m.loops = n.loops ∧ noted m.repeated n.repeated

/-- Renders with two guards in the same surroundings, if the guards never disagree there but for notes, or tell the
renders apart where they do. -/
def Correspondence.ofGuards (env : Environment) (guard guard' : SlotGuard) (good : Surroundings → Prop)
    (noted : List RepeatedSlot → List RepeatedSlot → Prop) (apart : List RepeatedSlot → Prop)
    (kept : KeptByScopes good)
    (answers : ∀ {a : Surroundings} {name : String} {frame : SlotFrame} {content : SlotContent}, good a →
      a.slot? name = some (frame, content) → AnswersAgree (Memory.UpTo noted) apart
        ((env.guardedBy guard).answer a.guard (frame.guardKey name))
        ((env.guardedBy guard').answer a.guard (frame.guardKey name)))
    (apart_note : ∀ (slot : RepeatedSlot) {slots : List RepeatedSlot}, apart slots → apart (slot :: slots)) :
    Correspondence (env.guardedBy guard) (env.guardedBy guard') where
  place p q := p = q
  around a b := a = b ∧ good a
  memory := Memory.UpTo noted
  apart := apart
  seen v w := v = w
  frame f g := f = g
  toSameServices := ⟨rfl, rfl, rfl, rfl⟩
  inside := .eq
  sources context same := congrArg (·.context.sources context) same.1
  level same := by
    obtain ⟨rfl, _⟩ := same
    exact ⟨rfl, rfl⟩
  pushed entries := by
    rintro ⟨rfl, h⟩
    exact ⟨rfl, kept.pushed entries h⟩
  activated {_ _} := by
    rintro ⟨rfl, h⟩
    exact ⟨rfl, kept.activated h⟩
  component block := by
    rintro ⟨rfl, h⟩ rfl
    exact ⟨rfl, fun props => ⟨rfl, kept.inBody (env.guardedBy guard) _ block props h⟩⟩
  slot {a b} name := by
    rintro ⟨rfl, h⟩
    cases there : a.slot? name with
    | none => exact .inl ⟨rfl, rfl⟩
    | some found =>
      obtain ⟨frame, content⟩ := found
      exact .inr ⟨frame, frame, content.place, content.place, content.blocks, rfl, rfl, rfl,
        ⟨rfl, kept.inSlot there h⟩, answers h there⟩
  warn warning := by
    rintro ⟨patterns, loops, notes⟩
    exact ⟨patterns, congrArg (·.warn warning) loops, notes⟩
  warnDepth ref := by
    rintro ⟨patterns, loops, notes⟩
    exact ⟨patterns, congrArg (·.warn (tooDeep env ref).compact) loops, notes⟩
  pattern {m n} ref := by
    obtain ⟨patterns, loops, repeated⟩ := m
    obtain ⟨_, _, repeated'⟩ := n
    rintro ⟨rfl, rfl, notes⟩
    exact ⟨rfl, rfl, rfl, notes⟩
  items {m n} name params := by
    obtain ⟨patterns, loops, repeated⟩ := m
    obtain ⟨_, _, repeated'⟩ := n
    rintro ⟨rfl, rfl, notes⟩
    exact ⟨rfl, rfl, rfl, notes⟩
  apart_note := apart_note
  extension name plan _ := by
    refine ⟨⟨rfl, ?_, ?_, ?_, ?_, ?_, ?_, ?_, ?_⟩, ?_⟩
    · rintro a b p q block ⟨rfl, _⟩ rfl
      rfl
    · rintro a b entries ⟨rfl, h⟩
      exact ⟨rfl, kept.isolated entries h⟩
    · rintro a b ⟨rfl, _⟩
      rfl
    · rintro a b ⟨rfl, h⟩
      exact ⟨rfl, kept.deeper h⟩
    · rintro a b frame _ rfl ⟨rfl, h⟩
      exact ⟨rfl, kept.framed frame h⟩
    · rintro a b ⟨rfl, h⟩
      exact ⟨rfl, kept.uncovered h⟩
    · rintro a b owner name ⟨rfl, h⟩
      exact ⟨rfl, kept.guarding owner name h⟩
    · rintro a b owner name ⟨rfl, _⟩
      rfl
    · rintro v w block rfl
      exact (plan v block).decidedBy_eq.alike (fun _ => rfl) fun _ => rfl

/-! ## The guard in use -/

/-- Any surroundings will do. -/
theorem keptByScopes_true : KeptByScopes fun _ => True :=
  ⟨fun _ _ => trivial, fun _ _ => trivial, fun _ => trivial, fun _ _ => trivial, fun _ => trivial, fun _ => trivial,
    fun _ _ _ => trivial, fun _ _ _ _ _ => trivial, fun _ _ => trivial⟩

/-- The guard in use refuses what a render without a guard notes. -/
theorem answersAgree_byBlock (env : Environment) (guard : List GuardKey) (key : GuardKey) :
    AnswersAgree (Memory.UpTo Eq) (· ≠ []) ((env.guardedBy .byBlock).answer guard key)
      ((env.guardedBy .off).answer guard key) := by
  unfold Environment.answer Environment.guardedBy
  dsimp only
  split
  · exact .parted fun slot slots => List.cons_ne_nil slot slots
  · exact .enter

/-- The guard in use beside none: equal renders, until the one without a guard comes to a slot once more. -/
def Correspondence.byBlock (env : Environment) :
    Correspondence (env.guardedBy .byBlock) (env.guardedBy .off) :=
  .ofGuards env .byBlock .off (fun _ => True) Eq (· ≠ []) keptByScopes_true
    (fun _ _ => answersAgree_byBlock env _ _) fun slot _ _ => List.cons_ne_nil slot _

/-! ## A guard that tells instances apart -/

/-- Frames each of which has a higher level than those below it, none of which has a slot that is being rendered. -/
structure Nested (a : Surroundings) : Prop where
  below : ∀ frame ∈ a.frames, frame.level < a.opened
  decreasing : a.frames.Pairwise fun above beneath => beneath.level < above.level
  free : ∀ place level name, GuardKey.slot place level name ∈ a.guard →
    level < a.opened ∧ ∀ frame ∈ a.frames, frame.level ≠ level

namespace Nested

variable {a : Surroundings}

/-- A frame that is opened has a higher level than all others. -/
theorem framed (h : Nested a) (frame : SlotFrame) (next : frame.level = a.opened) : Nested (a.framed frame) where
  below := by
    intro other there
    rcases List.mem_cons.mp there with rfl | under
    · rw [next]
      exact Int.lt_succ a.opened
    · exact Int.lt_trans (h.below other under) (Int.lt_succ a.opened)
  decreasing := by
    refine List.pairwise_cons.mpr ⟨fun other under => ?_, h.decreasing⟩
    rw [next]
    exact h.below other under
  free := by
    intro place level name marked
    obtain ⟨lower, others⟩ := h.free place level name marked
    refine ⟨Int.lt_trans lower (Int.lt_succ a.opened), fun other there => ?_⟩
    rcases List.mem_cons.mp there with rfl | under
    · rw [next]
      exact (Int.ne_of_lt lower).symm
    · exact others other under

/-- The level of a component and the live stack do not matter. -/
theorem of_same {b : Surroundings} (h : Nested a) (frames : b.frames = a.frames) (guard : b.guard = a.guard)
    (opened : b.opened = a.opened) : Nested b := by
  refine ⟨?_, ?_, ?_⟩
  · rw [frames, opened]
    exact h.below
  · rw [frames]
    exact h.decreasing
  · rw [frames, guard, opened]
    exact h.free

/-- A slot that is found belongs to the frame on top. -/
theorem frames_of_slot? {name : String} {frame : SlotFrame} {content : SlotContent}
    (there : a.slot? name = some (frame, content)) : ∃ frames, a.frames = frame :: frames := by
  unfold Surroundings.slot? at there
  cases frames : a.frames with
  | nil =>
    rw [frames] at there
    cases there
  | cons top beneath =>
    rw [frames, List.head?_cons, Option.bind_some, Option.map_eq_some_iff] at there
    obtain ⟨_, _, same⟩ := there
    exact ⟨beneath, by rw [← (Prod.mk.inj same).1]⟩

/-- The frame of a slot that is being rendered is hidden, and those that remain have lower levels. -/
theorem inSlot (h : Nested a) {name : String} {frame : SlotFrame} {content : SlotContent}
    (there : a.slot? name = some (frame, content)) : Nested (a.inSlot frame name) := by
  obtain ⟨beneath, frames⟩ := frames_of_slot? there
  have hidden : (a.inSlot frame name).frames = beneath := by
    show (SlotFrames.hide a.frames).2 = beneath
    rw [frames]
    rfl
  obtain ⟨below, decreasing, free⟩ := h
  rw [frames] at below decreasing free
  obtain ⟨under, decreasing⟩ := List.pairwise_cons.mp decreasing
  refine ⟨?_, ?_, ?_⟩
  · rw [hidden]
    exact fun other there => below other (List.mem_cons_of_mem frame there)
  · rw [hidden]
    exact decreasing
  · intro place level called marked
    rw [hidden]
    rcases List.mem_cons.mp marked with new | old
    · obtain ⟨-, rfl, -⟩ := GuardKey.slot.inj new
      exact ⟨below frame List.mem_cons_self, fun other there => Int.ne_of_lt (under other there)⟩
    · obtain ⟨lower, others⟩ := free place level called old
      exact ⟨lower, fun other there => others other (List.mem_cons_of_mem frame there)⟩

/-- Without the frame on top the others remain. -/
theorem hide_sublist (frames : SlotFrames) : (SlotFrames.hide frames).2.Sublist frames := by
  cases frames with
  | nil => exact .slnil
  | cons frame frames => exact .cons frame (List.Sublist.refl frames)

/-- Frames stay nested where previews are uncovered. -/
theorem uncovered (h : Nested a) : Nested a.uncovered where
  below frame there := h.below frame ((hide_sublist a.frames).subset there)
  decreasing := h.decreasing.sublist (hide_sublist a.frames)
  free place level name marked := by
    obtain ⟨lower, others⟩ := h.free place level name marked
    exact ⟨lower, fun frame there => others frame ((hide_sublist a.frames).subset there)⟩

/-- Nesting is kept by all scopes of a render. -/
theorem keptByScopes : KeptByScopes Nested where
  pushed _ h := h.of_same rfl rfl rfl
  isolated _ h := h.of_same rfl rfl rfl
  deeper h := h.of_same rfl rfl rfl
  framed _ h := h.framed _ rfl
  uncovered := uncovered
  activated h := h.of_same rfl rfl rfl
  guarding owner name h := ⟨h.below, h.decreasing, fun place level called marked => by
    rcases List.mem_cons.mp marked with new | old
    · cases new
    · exact h.free place level called old⟩
  inBody {a} env place block props h := by
    let frame := a.frameFor env place block
    have entered : Nested (a.deeper.isolated [propsEntry frame.entries props, slotsEntry frame.slots]) :=
      h.of_same rfl rfl rfl
    exact entered.framed frame rfl
  inSlot there h := h.inSlot there

/-- A slot that is found is not being rendered, for all that a guard knows that tells instances apart. -/
theorem not_guarded (h : Nested a) {name : String} {frame : SlotFrame} {content : SlotContent}
    (there : a.slot? name = some (frame, content)) : a.guard.any (frame.guardKey name).sameInstance = false := by
  obtain ⟨beneath, frames⟩ := frames_of_slot? there
  have onTop : frame ∈ a.frames := by
    rw [frames]
    exact List.mem_cons_self
  rw [List.any_eq_false]
  intro key marked same
  cases key with
  | named owner called => cases same
  | slot place level called =>
    -- The frame of a slot that is being rendered is hidden, so no frame in sight is on the level of a mark.
    have sameLevel : frame.level = level := by
      unfold SlotFrame.guardKey GuardKey.sameInstance at same
      simp only [Bool.and_eq_true, beq_iff_eq] at same
      exact same.1
    exact (h.free place level called marked).2 frame onTop sameLevel

/-- A guard that tells instances apart lets every slot pass that is found. -/
theorem answersAgree_byInstance (h : Nested a) (env : Environment) {name : String} {frame : SlotFrame}
    {content : SlotContent} (there : a.slot? name = some (frame, content)) :
    AnswersAgree (Memory.UpTo fun _ _ => True) (fun _ => False)
      ((env.guardedBy .byInstance).answer a.guard (frame.guardKey name))
      ((env.guardedBy .off).answer a.guard (frame.guardKey name)) := by
  unfold Environment.answer Environment.guardedBy
  dsimp only
  rw [h.not_guarded there, if_neg Bool.false_ne_true]
  split
  · exact .noted fun _ _ _ remembered => ⟨remembered.1, remembered.2.1, trivial⟩
  · exact .enter

/-- There are no frames and no marks at the start. -/
theorem start (host : Host) (context : Provider) :
    Nested { (Session.start host).toSurroundings with context := context } where
  below _ there := absurd there List.not_mem_nil
  decreasing := List.Pairwise.nil
  free _ _ _ marked := absurd marked List.not_mem_nil

end Nested

/-- A guard that tells instances apart beside none. -/
def Correspondence.byInstance (env : Environment) :
    Correspondence (env.guardedBy .byInstance) (env.guardedBy .off) :=
  .ofGuards env .byInstance .off Nested (fun _ _ => True) (fun _ => False) Nested.keptByScopes
    (fun nested there => nested.answersAgree_byInstance env there) fun _ _ => False.elim

/-! ## Pages -/

/-- A guard that tells instances apart changes nothing. -/
theorem render_byInstance (env : Environment) (page : Page) :
    ((env.guardedBy .byInstance).render page).1 = ((env.guardedBy .off).render page).1 := by
  have agree := (Correspondence.byInstance env).agree_render rfl rfl
    (fun context => ⟨rfl, Nested.start env.host context⟩) ⟨rfl, rfl, trivial⟩ page
  exact (agree.resolve_left id).1

/-- The guard in use changes nothing, as long as no slot is come to once more without it. -/
theorem render_byBlock (env : Environment) (page : Page)
    (none : ((env.guardedBy .off).render page).2.repeated = []) :
    ((env.guardedBy .byBlock).render page).1 = ((env.guardedBy .off).render page).1 := by
  have agree := (Correspondence.byBlock env).agree_render rfl rfl
    (fun context => ⟨rfl, trivial⟩) ⟨rfl, rfl, rfl⟩ page
  rcases agree with parted | ⟨same, _⟩
  · exact absurd none parted
  · exact same

end DynamicBlocks
