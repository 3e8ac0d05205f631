import DynamicBlocks.Proofs.Answers
import DynamicBlocks.Proofs.Lockstep
import Mathlib.Data.List.Forall2

/-!
# One level further down

The blocks of a page are compared with the same blocks as the slot content of a component that adds nothing of its
own. The sessions of the two renders differ in a good deal all the while: blocks stand two steps further down their
tree, every component is one level deeper, there is the mark of the slot below everything on the live stack and among
what the frames keep of it, its key is below all others that are guarded, and the pattern of the wrapper is remembered
from the start. None of it shows, if components may be nested one level deeper (`Correspondence.wrapped`).
-/

set_option autoImplicit false

namespace DynamicBlocks

open RenderM

/-! ## What entries show -/

namespace Entry

/-- What an entry shows: its kind, and the source it is. A mere mark shows nothing. -/
def shown? (entry : Entry) : Option (EntryKind × Source) :=
  entry.toSource?.map fun source => (entry.kind, source)

/-- What entries show, in order. -/
def shown (entries : List Entry) : List (EntryKind × Source) :=
  entries.filterMap shown?

/-- Entries one after the other are shown one after the other. -/
theorem shown_append (first second : List Entry) : shown (first ++ second) = shown first ++ shown second :=
  List.filterMap_append

/-- The sources among entries are what they show, but for the kinds. -/
theorem map_snd_shown (entries : List Entry) : (shown entries).map (·.2) = sources entries := by
  unfold shown sources
  rw [List.map_filterMap]
  congr 1
  funext entry
  unfold shown?
  cases entry.toSource? <;> rfl

/-- Entries of some kinds show what all show, but for that of other kinds. -/
theorem shown_filter (keep : EntryKind → Bool) (entries : List Entry) :
    shown (entries.filter fun entry => keep entry.kind) = (shown entries).filter fun shown => keep shown.1 := by
  unfold shown
  induction entries with
  | nil => rfl
  | cons entry entries ih =>
    have kind (s : EntryKind × Source) (there : entry.shown? = some s) : s.1 = entry.kind := by
      unfold shown? at there
      rw [Option.map_eq_some_iff] at there
      obtain ⟨_, _, rfl⟩ := there
      rfl
    cases there : entry.shown? with
    | none =>
      rw [List.filterMap_cons_none there, ← ih, List.filter_cons]
      split
      · exact List.filterMap_cons_none there
      · rfl
    | some s =>
      rw [List.filterMap_cons_some there, List.filter_cons, List.filter_cons, kind s there, ← ih]
      split
      · exact List.filterMap_cons_some there
      · rfl

end Entry

/-! ## Two steps further down -/

/-- Where a block of the page stands if the page is wrapped: in the first block inside the only block there is. The
bodies of patterns are what they are. -/
def Place.wrapped (place : Place) : Place :=
  { place with path := if place.pattern = none then place.path ++ [0, 0] else place.path }

namespace Place

/-- The wrapper is the only block of its page. -/
def wrapper : Place := page.child 0

/-- A child of a wrapped place is the wrapped child. -/
theorem wrapped_child (place : Place) (i : Nat) : (place.child i).wrapped = place.wrapped.child i := by
  obtain ⟨pattern, path⟩ := place
  cases pattern <;> rfl

/-- Children of wrapped places are wrapped as their blocks are. -/
theorem inherited_wrapped : Inherited fun p q => q = p.wrapped where
  child {p _} i := by
    rintro rfl
    exact (p.wrapped_child i).symm
  body _ := rfl

/-- Different places are still different. -/
theorem wrapped_inj {p q : Place} (same : p.wrapped = q.wrapped) : p = q := by
  obtain ⟨pattern, path⟩ := p
  obtain ⟨other, way⟩ := q
  simp only [wrapped, mk.injEq] at same
  obtain ⟨rfl, paths⟩ := same
  cases pattern with
  | none => rw [List.append_cancel_right (show path ++ [0, 0] = way ++ [0, 0] from paths)]
  | some ref => rw [show path = way from paths]

/-- No block inside is the wrapper. -/
theorem wrapped_ne_wrapper (place : Place) : place.wrapped ≠ wrapper := by
  obtain ⟨pattern, path⟩ := place
  intro same
  simp only [wrapped, wrapper, child, page, mk.injEq] at same
  obtain ⟨rfl, paths⟩ := same
  have lengths := congrArg List.length paths
  rw [if_pos rfl, List.length_append, List.length_cons, List.length_singleton] at lengths
  omega

end Place

/-- Slot content of a wrapped page. -/
def SlotContent.wrapped (content : SlotContent) : SlotContent :=
  { content with place := content.place.wrapped }

/-- The key of a slot of a wrapped page. -/
def GuardKey.wrapped : GuardKey → GuardKey
  | .slot component level name => .slot component.wrapped (level + 1) name
  | .named owner name => .named owner name

/-- The key of the slot that the wrapper fills. -/
def GuardKey.ofWrapper (name : String) : GuardKey :=
  .slot .wrapper 0 name

namespace GuardKey

/-- Keys that are told apart are told apart inside of a wrapper, too. -/
theorem same_wrapped (key other : GuardKey) : key.wrapped.same other.wrapped = key.same other := by
  cases key with
  | named owner name => cases other <;> rfl
  | slot place level name =>
    cases other with
    | named owner called => rfl
    | slot place' level' called =>
      have places : (place.wrapped == place'.wrapped) = (place == place') := by
        rw [Bool.eq_iff_iff, beq_iff_eq, beq_iff_eq]
        exact ⟨Place.wrapped_inj, fun same => by rw [same]⟩
      unfold wrapped same
      dsimp only
      rw [places]

/-- The slot of the wrapper is not a slot inside. -/
theorem same_ofWrapper (component : Place) (level : Int) (called name : String) :
    (slot component level called).wrapped.same (ofWrapper name) = false := by
  unfold wrapped ofWrapper same
  dsimp only
  rw [beq_false_of_ne component.wrapped_ne_wrapper, Bool.false_and]

/-- The key of the wrapper's slot below all others refuses nothing. -/
theorem any_same_wrapped (guard : List GuardKey) (component : Place) (level : Int) (called name : String) :
    (guard.map wrapped ++ [ofWrapper name]).any (slot component level called).wrapped.same =
      guard.any (slot component level called).same := by
  rw [List.any_append, List.any_map, List.any_cons, List.any_nil, same_ofWrapper, Bool.or_false, Bool.or_false]
  congr 1
  funext key
  exact same_wrapped _ key

end GuardKey

/-! ## Slots of a wrapped page -/

/-- The first content of each name is the same one when all contents are wrapped. -/
theorem firstOfName_map_wrapped (slots : List (String × SlotContent)) :
    firstOfName (slots.map (Prod.map id SlotContent.wrapped)) =
      (firstOfName slots).map (Prod.map id SlotContent.wrapped) := by
  induction slots with
  | nil => rfl
  | cons slot slots ih =>
    rw [List.map_cons, firstOfName, firstOfName, ih, List.map_cons, List.filter_map]
    rfl

/-- An instance fills the same slots with the same blocks. -/
theorem Block.slots_wrapped (block : Block) (place : Place) (slotBlock : String) :
    block.slots place.wrapped slotBlock = (block.slots place slotBlock).map (Prod.map id SlotContent.wrapped) := by
  have filled (child : Block × Nat) : child.1.filledSlot? (place.wrapped.child child.2) slotBlock =
      (child.1.filledSlot? (place.child child.2) slotBlock).map (Prod.map id SlotContent.wrapped) := by
    unfold Block.filledSlot?
    rw [← Place.wrapped_child]
    split
    · rw [Option.map_map]
      rfl
    · rfl
  unfold Block.slots
  rw [← firstOfName_map_wrapped, List.map_filterMap]
  congr 2
  funext child
  exact filled child

/-- The content of a name is found wrapped when all contents are. -/
theorem lookup_map_wrapped (slots : List (String × SlotContent)) (name : String) :
    (slots.map (Prod.map id SlotContent.wrapped)).lookup name = (slots.lookup name).map SlotContent.wrapped := by
  induction slots with
  | nil => rfl
  | cons slot slots ih =>
    obtain ⟨called, content⟩ := slot
    rw [List.map_cons, List.lookup_cons, Prod.map_apply, List.lookup_cons, ih]
    dsimp only [id]
    split <;> rfl

/-- A body finds the same slots filled. -/
theorem slotsEntry_wrapped (slots : List (String × SlotContent)) :
    slotsEntry (slots.map (Prod.map id SlotContent.wrapped)) = slotsEntry slots := by
  unfold slotsEntry
  rw [List.map_map]
  rfl

/-- Frames of an instance on a page and on the page wrapped. -/
structure SlotFrame.Wrapped (f g : SlotFrame) : Prop where
  slots : g.slots = f.slots.map (Prod.map id SlotContent.wrapped)
  place : g.place = f.place.wrapped
  level : g.level = f.level + 1
  entries : Entry.shown f.entries = Entry.shown g.entries

namespace SlotFrame.Wrapped

variable {f g : SlotFrame}

/-- The content a wrapped frame has of a slot is the frame's own, wrapped. -/
theorem content? (h : f.Wrapped g) (name : String) : g.content? name = (f.content? name).map SlotContent.wrapped := by
  unfold SlotFrame.content?
  rw [h.slots, lookup_map_wrapped]
  cases f.slots.lookup name with
  | none => rfl
  | some content =>
    have blocks : content.wrapped.blocks = content.blocks := rfl
    rw [Option.map_some, Option.filter_some, Option.filter_some, blocks]
    cases content.blocks.isEmpty <;> rfl

/-- The guard key of a wrapped frame is the frame's own, wrapped. -/
theorem guardKey (h : f.Wrapped g) (name : String) : g.guardKey name = (f.guardKey name).wrapped := by
  unfold SlotFrame.guardKey
  rw [h.place, h.level]
  rfl

end SlotFrame.Wrapped

/-- Surroundings on a page and on the page wrapped. -/
structure Surroundings.Wrapped (name : String) (a b : Surroundings) : Prop where
  host : a.context.host = b.context.host
  registry : a.context.registry = b.context.registry
  preview : a.context.preview = b.context.preview
  stack : Entry.shown a.context.stack.entries = Entry.shown b.context.stack.entries
  frames : List.Forall₂ SlotFrame.Wrapped a.frames b.frames
  guard : b.guard = a.guard.map GuardKey.wrapped ++ [.ofWrapper name]
  depth : b.depth = a.depth + 1
  opened : b.opened = a.opened + 1

namespace Surroundings.Wrapped

variable {called : String} {a b : Surroundings}

/-- Surroundings one level apart give the same global entries. -/
theorem globalEntries (h : Wrapped called a b) : a.context.globalEntries = b.context.globalEntries := by
  unfold Provider.globalEntries
  rw [h.host, h.registry]

/-- Surroundings one level apart give the same sources. -/
theorem sources (h : Wrapped called a b) (context : Entries) :
    a.context.sources context = b.context.sources context := by
  have stack : Entry.sources a.context.stack.entries = Entry.sources b.context.stack.entries := by
    rw [← Entry.map_snd_shown, h.stack, Entry.map_snd_shown]
  unfold Provider.sources Provider.sourcesAmong Provider.entriesBelow
  dsimp only
  simp only [Entry.sources_append, h.globalEntries, h.preview, stack]

/-- Frames keep the same of the caller but for marks. -/
theorem nonGlobal (h : Wrapped called a b) : Entry.shown a.context.nonGlobal = Entry.shown b.context.nonGlobal := by
  unfold Provider.nonGlobal ContextStack.withoutKind
  rw [Entry.shown_filter (fun kind => decide (kind ≠ .globalValue)),
    Entry.shown_filter (fun kind => decide (kind ≠ .globalValue)), h.stack]

/-- They stay one level apart under stacks that show the same. -/
theorem withStack (h : Wrapped called a b) {stack stack' : ContextStack}
    (same : Entry.shown stack.entries = Entry.shown stack'.entries) :
    Wrapped called { a with context.stack := stack } { b with context.stack := stack' } :=
  ⟨h.host, h.registry, h.preview, same, h.frames, h.guard, h.depth, h.opened⟩

/-- They stay one level apart when both are given the same entries. -/
theorem pushed (h : Wrapped called a b) (entries : List Entry) :
    Wrapped called (a.pushed entries) (b.pushed entries) := by
  refine h.withStack ?_
  show Entry.shown (a.context.stack.entries ++ entries) = Entry.shown (b.context.stack.entries ++ entries)
  rw [Entry.shown_append, Entry.shown_append, h.stack]

/-- The bodies of an instance, which is one level deeper in the wrapper. -/
theorem inBody (h : Wrapped called a b) {env other : Environment} (slotBlock : other.slotBlock = env.slotBlock)
    (place : Place) (block : Block) (props : List (String × Value)) :
    Wrapped called (a.inBody (a.frameFor env place block) props)
      (b.inBody (b.frameFor other place.wrapped block) props) where
  host := h.host
  registry := h.registry
  preview := h.preview
  stack := by
    have slots : (b.frameFor other place.wrapped block).slots =
        (a.frameFor env place block).slots.map (Prod.map id SlotContent.wrapped) := by
      show block.slots place.wrapped other.slotBlock = _
      rw [slotBlock]
      exact block.slots_wrapped place env.slotBlock
    -- The notes of the properties differ, for the callers' entries do.
    have notes (callers : List Entry) (slots : Entry) :
        Entry.shown [propsEntry callers props, slots] = Entry.shown [propsEntry [] props, slots] := rfl
    show Entry.shown [propsEntry _ props, slotsEntry _] = Entry.shown [propsEntry _ props, slotsEntry _]
    rw [slots, slotsEntry_wrapped]
    exact (notes _ _).trans (notes _ _).symm
  frames := .cons ⟨by
    show block.slots place.wrapped other.slotBlock = _
    rw [slotBlock]
    exact block.slots_wrapped place env.slotBlock, rfl, h.opened, h.nonGlobal⟩ h.frames
  guard := h.guard
  depth := congrArg (· + 1) h.depth
  opened := congrArg (· + 1) h.opened

/-- A slot has the same content in both. -/
theorem slot? (h : Wrapped called a b) (name : String) :
    (a.slot? name = none ∧ b.slot? name = none) ∨
      ∃ f g content, a.slot? name = some (f, content) ∧ b.slot? name = some (g, content.wrapped) ∧ f.Wrapped g := by
  have frames := h.frames
  unfold Surroundings.slot?
  generalize a.frames = frames₁ at frames ⊢
  generalize b.frames = frames₂ at frames ⊢
  cases frames with
  | nil => exact .inl ⟨rfl, rfl⟩
  | @cons f g _ _ top _ =>
    simp only [List.head?_cons, Option.bind_some]
    rw [top.content?]
    cases f.content? name with
    | none => exact .inl ⟨rfl, rfl⟩
    | some content => exact .inr ⟨f, g, content, rfl, rfl, top⟩

/-- They stay one level apart inside the slot of a frame and of the same frame wrapped. -/
theorem inSlot (h : Wrapped called a b) {f g : SlotFrame} (frames : f.Wrapped g) (name : String) :
    Wrapped called (a.inSlot f name) (b.inSlot g name) where
  host := h.host
  registry := h.registry
  preview := h.preview
  stack := by
    show Entry.shown (f.entries ++ [slotMark name]) = Entry.shown (g.entries ++ [slotMark name])
    rw [Entry.shown_append, Entry.shown_append, frames.entries]
  frames := by
    have frames := h.frames
    show List.Forall₂ SlotFrame.Wrapped (SlotFrames.hide a.frames).2 (SlotFrames.hide b.frames).2
    generalize a.frames = frames₁ at frames ⊢
    generalize b.frames = frames₂ at frames ⊢
    cases frames with
    | nil => exact .nil
    | cons _ beneath => exact beneath
  guard := by
    show g.guardKey name :: b.guard = _
    rw [frames.guardKey, h.guard]
    rfl
  depth := h.depth
  opened := h.opened

end Surroundings.Wrapped

/-! ## Two renders -/

/-- The environment with a limit on how deep components are nested. -/
def Environment.limitedTo (env : Environment) (limit : Int) : Environment :=
  { env with maxDepth := .ofInt limit }

/-- A limit is reached one level further down exactly if the limit below it is reached here. -/
theorem DepthLimit.isReached_ofInt_succ (limit depth : Int) :
    (ofInt (limit + 1)).isReached (depth + 1) = (ofInt limit).isReached depth := by
  show decide (limit + 1 ≤ depth + 1) = decide (limit ≤ depth)
  rw [decide_eq_decide]
  omega

/-- One level further down as many levels are left to a limit as are left here to the limit below it. -/
theorem DepthLimit.levelsFrom_ofInt_succ (limit depth : Int) :
    (ofInt (limit + 1)).levelsFrom (depth + 1) = (ofInt limit).levelsFrom depth := by
  show (limit + 1 - (depth + 1)).toNat = (limit - depth).toNat
  rw [Int.add_sub_add_right]

/-- A page and the page wrapped, with one level more. -/
def Correspondence.wrapped (env : Environment)
    (noExtension : ∀ name plan, env.renderers.lookup name ≠ some (.extension plan))
    (guard : env.slotGuard = .byBlock) (limit : Int) (name : String) :
    Correspondence (env.limitedTo limit) (env.limitedTo (limit + 1)) where
  place p q := q = p.wrapped
  around := Surroundings.Wrapped name
  memory m n := m.patterns.Faithful env.loader ∧ n.patterns.Faithful env.loader ∧ m.loops.cache = n.loops.cache
  apart _ := False
  seen _ _ := False
  frame _ _ := False
  toSameServices := ⟨rfl, rfl, rfl, rfl⟩
  inside := Place.inherited_wrapped
  sources context h := h.sources context
  level {a b} h := by
    refine ⟨?_, h.frames.length_eq⟩
    rw [h.depth]
    exact (DepthLimit.levelsFrom_ofInt_succ limit a.depth).symm
  pushed entries h := h.pushed entries
  activated h := ⟨h.host, h.registry, h.preview, h.stack, h.frames, h.guard, h.depth, h.opened⟩
  component {a b p _} block h := by
    rintro rfl
    refine ⟨?_, fun props => h.inBody rfl p block props⟩
    rw [h.depth]
    exact (DepthLimit.isReached_ofInt_succ limit a.depth).symm
  slot {a b} called h := by
    rcases h.slot? called with nothing | ⟨f, g, content, there, there', frames⟩
    · exact .inl nothing
    · refine .inr ⟨f, g, content.place, content.place.wrapped, content.blocks, there, there', rfl,
        h.inSlot frames called, ?_⟩
      have answer (key : GuardKey) (keys : List GuardKey) (l : Int) :
          (env.limitedTo l).answer keys key = if keys.any key.same then .refuse else .enter := by
        unfold Environment.answer Environment.limitedTo
        dsimp only
        rw [guard]
      have refused : b.guard.any (g.guardKey called).same = a.guard.any (f.guardKey called).same := by
        rw [frames.guardKey, h.guard]
        exact GuardKey.any_same_wrapped a.guard f.place f.level called name
      rw [answer, answer, refused]
      split
      · exact .refuse
      · exact .enter
  warn _ remembered := remembered
  warnDepth _ remembered := remembered
  pattern := (Memory.answerAlike_cache env).pattern
  items := (Memory.answerAlike_cache env).items
  apart_note _ _ := False.elim
  extension name plan registered := absurd registered (noExtension name plan)

end DynamicBlocks
