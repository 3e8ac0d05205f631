import DynamicBlocks.Proofs.Answers
import DynamicBlocks.Proofs.Lockstep
import Mathlib.Data.List.Forall2

/-!
# Blocks somewhere else

A place only tells a block from other blocks. If the blocks of a page stand at other places, with no two of them at
one place, then the guards of slots answer what they did, frames hold the same content, and the render comes to the
same text or the same failure (`Correspondence.elsewhere`). So blocks may stand behind others, or inside of another
block, without that a text shows it.

An extension is told where its block stands. It has to leave that alone but for having blocks rendered there
(`Environment.IgnoresPlaces`).
-/

set_option autoImplicit false

namespace DynamicBlocks

open RenderM

/-! ## Places -/

/-- A relation between places that goes down the tree and tells no blocks apart that it should not. -/
structure Place.Moves (moved : Place → Place → Prop) : Prop extends Place.Inherited moved where
  oneToOne : ∀ {p q p' q' : Place}, moved p q → moved p' q' → (p = p' ↔ q = q')

/-- Equal places have equal children and bodies. -/
theorem Place.Moves.eq : Moves fun p q => p = q where
  toInherited := .eq
  oneToOne := by
    rintro p _ p' _ rfl rfl
    rfl

/-- Places on pages whose ways from the root begin with ways that correspond, and equal places in bodies of patterns.
Of a way the last position comes first. -/
inductive Place.Below (tops : List Nat → List Nat → Prop) : Place → Place → Prop where
  | page {a b : List Nat} (path : List Nat) (top : tops a b) : Below tops ⟨none, path ++ a⟩ ⟨none, path ++ b⟩
  | body (ref : String) (path : List Nat) : Below tops ⟨some ref, path⟩ ⟨some ref, path⟩

/-- Ways that begin with others of one length only are told apart by these or by the rest. -/
theorem Place.moves_below {tops : List Nat → List Nat → Prop} {m n : Nat}
    (left : ∀ {a b : List Nat}, tops a b → a.length = m) (right : ∀ {a b : List Nat}, tops a b → b.length = n)
    (oneToOne : ∀ {a b a' b' : List Nat}, tops a b → tops a' b' → (a = a' ↔ b = b')) : Moves (Below tops) where
  child i below := by
    cases below with
    | page path top => exact .page (i :: path) top
    | body ref path => exact .body ref (i :: path)
  body ref := .body ref []
  oneToOne below below' := by
    cases below with
    | body ref path =>
      cases below' with
      | page path' top' => simp
      | body ref' path' => rfl
    | @page a b path top =>
      cases below' with
      | body ref' path' => simp
      | @page a' b' path' top' =>
        simp only [Place.mk.injEq, true_and]
        constructor
        · intro same
          obtain ⟨rest, tops⟩ := List.append_inj' same ((left top).trans (left top').symm)
          rw [rest, (oneToOne top top').mp tops]
        · intro same
          obtain ⟨rest, tops⟩ := List.append_inj' same ((right top).trans (right top').symm)
          rw [rest, (oneToOne top top').mpr tops]

variable {moved : Place → Place → Prop}

/-! ## Slots and guards -/

/-- The same slot with the same blocks, somewhere else. -/
structure SlotContent.Moved (moved : Place → Place → Prop) (slot slot' : String × SlotContent) : Prop where
  name : slot.1 = slot'.1
  place : moved slot.2.place slot'.2.place
  blocks : slot.2.blocks = slot'.2.blocks

/-- The first slots of each name are moved if all slots are. -/
theorem moved_firstOfName {slots slots' : List (String × SlotContent)}
    (h : List.Forall₂ (SlotContent.Moved moved) slots slots') :
    List.Forall₂ (SlotContent.Moved moved) (firstOfName slots) (firstOfName slots') := by
  induction h with
  | nil => exact .nil
  | @cons slot slot' _ _ first _ ih =>
    refine .cons first (List.rel_filter ?_ ih)
    intro later later' same
    dsimp only
    rw [same.name, first.name]

/-- An instance fills the same slots with the same blocks wherever it stands. -/
theorem Block.moved_slots (inside : Place.Inherited moved) {p q : Place} (places : moved p q) (block : Block)
    (slotBlock : String) :
    List.Forall₂ (SlotContent.Moved moved) (block.slots p slotBlock) (block.slots q slotBlock) := by
  apply moved_firstOfName
  refine List.rel_filterMap ?_ (List.forall₂_same.mpr fun _ _ => rfl)
  rintro ⟨child, position⟩ _ rfl
  unfold Block.filledSlot?
  dsimp only
  split
  · cases child.slotName? with
    | none => exact .none
    | some name => exact .some ⟨rfl, inside.child position places, rfl⟩
  · exact .none

/-- A body finds the same slots filled. -/
theorem slotsEntry_eq_of_moved {slots slots' : List (String × SlotContent)}
    (h : List.Forall₂ (SlotContent.Moved moved) slots slots') : slotsEntry slots = slotsEntry slots' := by
  have filled : slots.map (fun slot => (slot.1, Value.ofFields [("empty", .bool slot.2.blocks.isEmpty)])) =
      slots'.map fun slot => (slot.1, Value.ofFields [("empty", .bool slot.2.blocks.isEmpty)]) := by
    induction h with
    | nil => rfl
    | cons first _ ih => rw [List.map_cons, List.map_cons, first.name, first.blocks, ih]
  unfold slotsEntry
  rw [filled]

/-- A slot of a name is there among both or neither of moved slots, and its blocks are the same. -/
theorem lookup_of_moved {slots slots' : List (String × SlotContent)}
    (h : List.Forall₂ (SlotContent.Moved moved) slots slots') (name : String) :
    (slots.lookup name = none ∧ slots'.lookup name = none) ∨
      ∃ p q blocks, slots.lookup name = some ⟨p, blocks⟩ ∧ slots'.lookup name = some ⟨q, blocks⟩ ∧ moved p q := by
  induction h with
  | nil => exact .inl ⟨rfl, rfl⟩
  | @cons slot slot' _ _ first _ ih =>
    obtain ⟨called, p, blocks⟩ := slot
    obtain ⟨called', q, blocks'⟩ := slot'
    obtain ⟨rfl, place, rfl⟩ := first
    rw [List.lookup_cons, List.lookup_cons]
    dsimp only
    split
    · exact .inr ⟨p, q, blocks, rfl, rfl, place⟩
    · exact ih

/-- Frames of one instance at two places. -/
structure SlotFrame.Moved (moved : Place → Place → Prop) (f g : SlotFrame) : Prop where
  slots : List.Forall₂ (SlotContent.Moved moved) f.slots g.slots
  place : moved f.place g.place
  level : f.level = g.level
  entries : f.entries = g.entries

/-- A moved frame has the same contents at moved places. -/
theorem SlotFrame.Moved.content? {f g : SlotFrame} (h : f.Moved moved g) (name : String) :
    (f.content? name = none ∧ g.content? name = none) ∨
      ∃ p q blocks, f.content? name = some ⟨p, blocks⟩ ∧ g.content? name = some ⟨q, blocks⟩ ∧ moved p q := by
  unfold SlotFrame.content?
  rcases lookup_of_moved h.slots name with ⟨none, none'⟩ | ⟨p, q, blocks, there, there', place⟩
  · rw [none, none']
    exact .inl ⟨rfl, rfl⟩
  · rw [there, there', Option.filter_some, Option.filter_some]
    cases blocks.isEmpty with
    | true => exact .inl ⟨rfl, rfl⟩
    | false => exact .inr ⟨p, q, blocks, rfl, rfl, place⟩

/-- Keys of one slot at two places. -/
inductive GuardKey.Moved (moved : Place → Place → Prop) : GuardKey → GuardKey → Prop where
  | slot {p q : Place} (place : moved p q) (level : Int) (name : String) :
      Moved moved (.slot p level name) (.slot q level name)
  | named (owner name : Value) : Moved moved (.named owner name) (.named owner name)

/-- A moved frame guards its slots by moved keys. -/
theorem SlotFrame.Moved.guardKey {f g : SlotFrame} (h : f.Moved moved g) (name : String) :
    (f.guardKey name).Moved moved (g.guardKey name) := by
  unfold SlotFrame.guardKey
  rw [h.level]
  exact .slot h.place _ name

namespace GuardKey

/-- Keys that are told apart are told apart somewhere else, too. -/
theorem Moved.same_eq (moves : Place.Moves moved) {key key' other other' : GuardKey} (h : key.Moved moved key')
    (h' : other.Moved moved other') : key.same other = key'.same other' := by
  cases h with
  | named owner name => cases h' <;> rfl
  | @slot p q place level name =>
    cases h' with
    | named owner called => rfl
    | @slot p' q' place' level' called =>
      have places : (p == p') = (q == q') := by
        rw [Bool.eq_iff_iff, beq_iff_eq, beq_iff_eq]
        exact moves.oneToOne place place'
      unfold same
      dsimp only
      rw [places]

/-- Moved keys mean the same instances. -/
theorem Moved.sameInstance_eq {key key' other other' : GuardKey} (h : key.Moved moved key')
    (h' : other.Moved moved other') : key.sameInstance other = key'.sameInstance other' := by
  cases h <;> cases h' <;> rfl

/-- A test that does not look at places has the same answer for moved keys. -/
theorem any_of_moved {test test' : GuardKey → Bool} (same : ∀ {key key' : GuardKey}, key.Moved moved key' →
    test key = test' key') {guard guard' : List GuardKey} (h : List.Forall₂ (GuardKey.Moved moved) guard guard') :
    guard.any test = guard'.any test' := by
  induction h with
  | nil => rfl
  | cons first _ ih => rw [List.any_cons, List.any_cons, same first, ih]

end GuardKey

/-- The guard of an environment answers the same wherever the blocks stand. -/
theorem Environment.answer_of_moved (env : Environment) (moves : Place.Moves moved) {key key' : GuardKey}
    (h : key.Moved moved key') {guard guard' : List GuardKey}
    (marks : List.Forall₂ (GuardKey.Moved moved) guard guard') : env.answer guard key = env.answer guard' key' := by
  have byBlock : guard.any key.same = guard'.any key'.same :=
    GuardKey.any_of_moved (fun mark => h.same_eq moves mark) marks
  have byInstance : guard.any key.sameInstance = guard'.any key'.sameInstance :=
    GuardKey.any_of_moved (fun mark => h.sameInstance_eq mark) marks
  unfold Environment.answer
  rw [byBlock, byInstance]

/-! ## Surroundings -/

/-- Surroundings of the same blocks at two places. -/
structure Surroundings.Moved (moved : Place → Place → Prop) (a b : Surroundings) : Prop where
  context : a.context = b.context
  frames : List.Forall₂ (SlotFrame.Moved moved) a.frames b.frames
  guard : List.Forall₂ (GuardKey.Moved moved) a.guard b.guard
  depth : a.depth = b.depth
  opened : a.opened = b.opened
  active : a.active = b.active

namespace Surroundings.Moved

variable {a b : Surroundings}

/-- Surroundings in which no block has moved. -/
theorem refl (same : ∀ p, moved p p) (a : Surroundings) : a.Moved moved a where
  context := rfl
  frames := List.forall₂_same.mpr fun _ _ => ⟨List.forall₂_same.mpr fun _ _ => ⟨rfl, same _, rfl⟩, same _, rfl, rfl⟩
  guard := by
    refine List.forall₂_same.mpr fun key _ => ?_
    cases key with
    | slot component level name => exact .slot (same component) level name
    | named owner name => exact .named owner name
  depth := rfl
  opened := rfl
  active := rfl

/-- Where there is no component yet, any blocks may have moved. -/
theorem outside (a : Surroundings) (frames : a.frames = []) (guard : a.guard = []) : a.Moved moved a := by
  refine ⟨rfl, ?_, ?_, rfl, rfl, rfl⟩
  · rw [frames]
    exact .nil
  · rw [guard]
    exact .nil

/-- Surroundings that are moved stay so with another context. -/
theorem withContext (h : a.Moved moved b) {context context' : Provider} (same : context = context') :
    Moved moved { a with context := context } { b with context := context' } :=
  ⟨same, h.frames, h.guard, h.depth, h.opened, h.active⟩

/-- They stay so with entries pushed. -/
theorem pushed (h : a.Moved moved b) (entries : List Entry) : (a.pushed entries).Moved moved (b.pushed entries) :=
  h.withContext (by rw [h.context])

/-- They stay so with the context isolated. -/
theorem isolated (h : a.Moved moved b) (entries : List Entry) :
    (a.isolated entries).Moved moved (b.isolated entries) :=
  h.withContext (by rw [h.context])

/-- They stay so within a component. -/
theorem deeper (h : a.Moved moved b) : a.deeper.Moved moved b.deeper :=
  ⟨h.context, h.frames, h.guard, congrArg (· + 1) h.depth, h.opened, h.active⟩

/-- They stay so when active. -/
theorem activated (h : a.Moved moved b) : a.activated.Moved moved b.activated :=
  ⟨h.context, h.frames, h.guard, h.depth, h.opened, rfl⟩

/-- They stay so with moved frames pushed. -/
theorem framed (h : a.Moved moved b) {f g : SlotFrame} (frames : f.Moved moved g) :
    (a.framed f).Moved moved (b.framed g) :=
  ⟨h.context, .cons frames h.frames, h.guard, h.depth, congrArg (· + 1) h.opened, h.active⟩

/-- They stay so with moved keys guarded. -/
theorem guarding (h : a.Moved moved b) {key key' : GuardKey} (keys : key.Moved moved key') :
    (a.guarding key).Moved moved (b.guarding key') :=
  ⟨h.context, h.frames, .cons keys h.guard, h.depth, h.opened, h.active⟩

/-- They stay so with frames hidden. -/
theorem uncovered (h : a.Moved moved b) : a.uncovered.Moved moved b.uncovered where
  context := h.context
  frames := by
    have frames := h.frames
    show List.Forall₂ (SlotFrame.Moved moved) (SlotFrames.hide a.frames).2 (SlotFrames.hide b.frames).2
    generalize a.frames = frames₁ at frames ⊢
    generalize b.frames = frames₂ at frames ⊢
    cases frames with
    | nil => exact .nil
    | cons _ beneath => exact beneath
  guard := h.guard
  depth := h.depth
  opened := h.opened
  active := h.active

/-- The frames of an instance at moved places are moved. -/
theorem frameFor (h : a.Moved moved b) (inside : Place.Inherited moved) (env : Environment) {p q : Place}
    (places : moved p q) (block : Block) :
    (a.frameFor env p block).Moved moved (b.frameFor env q block) where
  slots := block.moved_slots inside places env.slotBlock
  place := places
  level := h.opened
  entries := by
    show a.context.nonGlobal = b.context.nonGlobal
    rw [h.context]

/-- The body of an instance, wherever the instance stands. -/
theorem inBody (h : a.Moved moved b) {f g : SlotFrame} (frames : f.Moved moved g) (props : List (String × Value)) :
    (a.inBody f props).Moved moved (b.inBody g props) := by
  unfold Surroundings.inBody
  rw [frames.entries, slotsEntry_eq_of_moved frames.slots]
  exact (h.deeper.isolated _).framed frames

/-- Surroundings stay moved inside a slot of moved frames. -/
theorem inSlot (h : a.Moved moved b) {f g : SlotFrame} (frames : f.Moved moved g) (name : String) :
    (a.inSlot f name).Moved moved (b.inSlot g name) := by
  unfold Surroundings.inSlot
  rw [frames.entries]
  exact (h.guarding (frames.guardKey name)).uncovered.isolated _

/-- A slot has the same content in both. -/
theorem slot? (h : a.Moved moved b) (name : String) :
    (a.slot? name = none ∧ b.slot? name = none) ∨
      ∃ f g p q blocks, a.slot? name = some (f, ⟨p, blocks⟩) ∧ b.slot? name = some (g, ⟨q, blocks⟩) ∧ moved p q ∧
        f.Moved moved g := by
  have frames := h.frames
  unfold Surroundings.slot?
  generalize a.frames = frames₁ at frames ⊢
  generalize b.frames = frames₂ at frames ⊢
  cases frames with
  | nil => exact .inl ⟨rfl, rfl⟩
  | @cons f g _ _ top _ =>
    simp only [List.head?_cons, Option.bind_some]
    rcases top.content? name with ⟨none, none'⟩ | ⟨p, q, blocks, there, there', place⟩
    · rw [none, none']
      exact .inl ⟨rfl, rfl⟩
    · rw [there, there']
      exact .inr ⟨f, g, p, q, blocks, rfl, rfl, place, top⟩

end Surroundings.Moved

/-! ## Extensions -/

/-- What an extension sees of one block at two places. -/
structure View.Moved (moved : Place → Place → Prop) (v w : View) : Prop where
  place : moved v.place w.place
  sources : v.sources = w.sources
  stack : v.stack = w.stack
  liveEntries : v.liveEntries = w.liveEntries
  slotDepth : v.slotDepth = w.slotDepth
  componentDepth : v.componentDepth = w.componentDepth
  guardedSlots : v.guardedSlots = w.guardedSlots
  active : v.active = w.active

/-- No extension goes by where blocks stand: a block somewhere else gets the same plan, but for the places. -/
def Environment.IgnoresPlaces (env : Environment) : Prop :=
  ∀ name plan, env.renderers.lookup name = some (.extension plan) → ∀ moved, Place.Moves moved →
    ∀ v w block, View.Moved moved v w →
      (plan v block).Alike moved (SlotFrame.Moved moved) (View.Moved moved) (plan w block)

/-- Without extensions there is nothing to go by. -/
theorem Environment.ignoresPlaces_of_noExtension {env : Environment}
    (noExtension : ∀ name plan, env.renderers.lookup name ≠ some (.extension plan)) : env.IgnoresPlaces :=
  fun name plan registered => absurd registered (noExtension name plan)

/-- What an extension sees of moved surroundings is moved. -/
theorem Surroundings.Moved.view {a b : Surroundings} (h : a.Moved moved b) {p q : Place} (places : moved p q)
    (block : Block) : (a.view p block).Moved moved (b.view q block) where
  place := places
  sources := congrArg (·.sources block.context) h.context
  stack := congrArg (·.fullStack) h.context
  liveEntries := congrArg (·.stack.entries.length) h.context
  slotDepth := h.frames.length_eq
  componentDepth := h.depth
  guardedSlots := h.guard.length_eq
  active := h.active

/-- Scopes that an extension opens keep the blocks where they are. -/
theorem scopesAgree_moved (env : Environment) (moves : Place.Moves moved) :
    ScopesAgree env env moved (Surroundings.Moved moved) (SlotFrame.Moved moved) (View.Moved moved) where
  maxDepth := rfl
  view block h places := h.view places block
  isolated entries h := h.isolated entries
  reached h := by rw [h.depth]
  deeper h := h.deeper
  framed frames h := h.framed ⟨frames.slots, frames.place, h.opened, frames.entries⟩
  uncovered h := h.uncovered
  guarding owner name h := h.guarding (.named owner name)
  guarded owner name h :=
    GuardKey.any_of_moved (fun mark => (GuardKey.Moved.named owner name).same_eq moves mark) h.guard

/-! ## Two renders -/

/-- The same blocks at two places, from memories that have the same answers. -/
def Correspondence.elsewhere (env : Environment) (moves : Place.Moves moved)
    (ignores : env.IgnoresPlaces) {memory : Memory → Memory → Prop} (alike : Memory.AnswerAlike env memory) :
    Correspondence env env where
  place := moved
  around := Surroundings.Moved moved
  memory := memory
  apart _ := False
  seen := View.Moved moved
  frame := SlotFrame.Moved moved
  toSameServices := .refl env
  inside := moves.toInherited
  sources context h := congrArg (·.sources context) h.context
  level h := ⟨congrArg env.maxDepth.levelsFrom h.depth, h.frames.length_eq⟩
  pushed entries h := h.pushed entries
  activated h := h.activated
  component block h places :=
    ⟨congrArg _ h.depth, fun props => h.inBody (h.frameFor moves.toInherited env places block) props⟩
  slot {a b} name h := by
    rcases h.slot? name with nothing | ⟨f, g, p, q, blocks, there, there', place, frames⟩
    · exact .inl nothing
    · refine .inr ⟨f, g, p, q, blocks, there, there', place, h.inSlot frames name, ?_⟩
      rw [env.answer_of_moved moves (frames.guardKey name) h.guard]
      cases env.answer b.guard (g.guardKey name) with
      | enter => exact .enter
      | refuse => exact .refuse
      | repeated => exact .repeated fun _ _ slot slot' remembered => alike.note slot slot' remembered
  warn := alike.warn
  warnDepth ref := alike.warn _
  pattern := alike.pattern
  items := alike.items
  apart_note _ _ := False.elim
  extension name plan registered := ⟨scopesAgree_moved env moves, ignores name plan registered _ moves⟩

/-- What is in step with itself goes on having its answers. -/
theorem InStep.memory_after {env : Environment} {ignores : env.IgnoresPlaces} {memory : Memory → Memory → Prop}
    {alike : Memory.AnswerAlike env memory} {α : Type} {action : RenderM α}
    (kept : InStep (.elsewhere env Place.Moves.eq ignores alike) True action action) {s : Session}
    (remembered : memory s.toMemory s.toMemory) : memory (action s).2.toMemory (action s).2.toMemory := by
  have same : s.toSurroundings.Moved (fun p q => p = q) s.toSurroundings := .refl (fun _ => rfl) s.toSurroundings
  exact ((kept.agree trivial s s same remembered).together id).2

/-- Blocks at places of which the children at some positions on correspond. -/
theorem InStep.renderFrom_from {env other : Environment} (c : Correspondence env other) {p q : Place} {i j : Nat}
    (places : ∀ k, c.place (p.child (i + k)) (q.child (j + k))) (levels frames : Nat) (blocks : List Block) :
    InStep c True (renderFrom env (waysFrom env levels frames) p i blocks)
      (renderFrom other (waysFrom other levels frames) q j blocks) := by
  have kept := InStep.keptByBlocks c
  induction blocks generalizing i j with
  | nil =>
    unfold renderFrom
    exact InStep.pure ""
  | cons block blocks ih =>
    have first : InStep c True (renderBlock env (waysFrom env levels frames) (p.child i) block)
        (renderBlock other (waysFrom other levels frames) (q.child j) block) :=
      (kept.renderBlock (kept.waysFrom levels frames) _ _ block).weaken fun _ => places 0
    have rest := @ih (i + 1) (j + 1) fun k => by
      rw [Nat.add_right_comm i, Nat.add_right_comm j]
      exact places (k + 1)
    unfold renderFrom
    exact first.bind fun _ => rest.bind fun _ => InStep.pure _

end DynamicBlocks
