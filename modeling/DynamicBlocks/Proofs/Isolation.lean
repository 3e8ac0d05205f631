import DynamicBlocks.Proofs.Answers
import DynamicBlocks.Proofs.Lockstep
import DynamicBlocks.Render.Settings
import Mathlib

/-!
# Isolation of components

The body of a pattern sees the properties of its instance, which slots are filled and the global sources, and nothing
else of where the instance stands. This is stated of two renders of one instance from sessions with different live
stacks: if the properties come out the same, so does the text.

Something of the caller does get into the body, out of reach of expressions: the frame of the instance keeps the
caller's entries for slot content, and the entry of the properties has them among its notes. So the surroundings of
the two bodies are the same but for notes on the stack, and for entries of frames without slots (`ApartFromCaller`).
-/

set_option autoImplicit false

namespace DynamicBlocks

open RenderM

/-! ## Entries without their notes -/

namespace Entry

/-- The entry without its notes. -/
def bare (entry : Entry) : Entry :=
  { entry with metadata := [] }

/-- Notes are no sources. -/
theorem sources_map_bare (entries : List Entry) : sources (entries.map bare) = sources entries := by
  unfold sources
  rw [List.filterMap_map]
  rfl

/-- Entries that are the same but for notes are the same sources. -/
theorem sources_of_bare {entries entries' : List Entry} (same : entries.map bare = entries'.map bare) :
    sources entries = sources entries' := by
  rw [← sources_map_bare entries, same, sources_map_bare]

/-- Entries of a kind are picked by their kind alone. -/
theorem map_bare_filter (keep : EntryKind → Bool) (entries : List Entry) :
    (entries.filter fun entry => keep entry.kind).map bare =
      (entries.map bare).filter fun entry => keep entry.kind := by
  rw [List.filter_map]
  rfl

end Entry

/-- Views that differ in the notes of entries at most. -/
structure View.ButNotes (v w : View) : Prop where
  place : v.place = w.place
  sources : v.sources = w.sources
  stack : v.stack.map Entry.bare = w.stack.map Entry.bare
  liveEntries : v.liveEntries = w.liveEntries
  slotDepth : v.slotDepth = w.slotDepth
  componentDepth : v.componentDepth = w.componentDepth
  guardedSlots : v.guardedSlots = w.guardedSlots
  active : v.active = w.active

/-- No extension goes by the notes of entries. -/
def Environment.IgnoresNotes (env : Environment) : Prop :=
  ∀ name plan, env.renderers.lookup name = some (.extension plan) →
    (∀ v w block, v.ButNotes w → plan v block = plan w block) ∧ ∀ v block, (plan v block).DecidedBy View.ButNotes

/-! ## Inside of a body -/

/-- Frames of one instance in two renders; what the frames keep of the caller is the same but for notes, unless there
is no slot content to use it. -/
structure SlotFrame.ApartFromCaller (f g : SlotFrame) : Prop where
  slots : f.slots = g.slots
  place : f.place = g.place
  level : f.level = g.level
  entries : f.slots = [] ∨ f.entries.map Entry.bare = g.entries.map Entry.bare

/-- Frames are the same as themselves. -/
theorem forall₂_refl (frames : SlotFrames) : List.Forall₂ SlotFrame.ApartFromCaller frames frames :=
  List.forall₂_same.mpr fun _ _ => ⟨rfl, rfl, rfl, .inr rfl⟩

/-- Surroundings of one body in two renders of its instance from different live stacks. -/
structure Surroundings.ApartFromCaller (a b : Surroundings) : Prop where
  host : a.context.host = b.context.host
  registry : a.context.registry = b.context.registry
  preview : a.context.preview = b.context.preview
  stack : a.context.stack.entries.map Entry.bare = b.context.stack.entries.map Entry.bare
  frames : List.Forall₂ SlotFrame.ApartFromCaller a.frames b.frames
  guard : a.guard = b.guard
  depth : a.depth = b.depth
  opened : a.opened = b.opened
  active : a.active = b.active

namespace Surroundings.ApartFromCaller

variable {a b : Surroundings}

/-- Surroundings that are apart as callers give the same global entries. -/
theorem globalEntries (h : a.ApartFromCaller b) : a.context.globalEntries = b.context.globalEntries := by
  unfold Provider.globalEntries
  rw [h.host, h.registry]

/-- They give the same sources. -/
theorem sources (h : a.ApartFromCaller b) (context : Entries) :
    a.context.sources context = b.context.sources context := by
  unfold Provider.sources Provider.sourcesAmong Provider.entriesBelow
  dsimp only
  simp only [Entry.sources_append, h.globalEntries, h.preview, Entry.sources_of_bare h.stack]

/-- The caller's entries that a frame keeps are the same but for notes. -/
theorem nonGlobal (h : a.ApartFromCaller b) :
    a.context.nonGlobal.map Entry.bare = b.context.nonGlobal.map Entry.bare := by
  unfold Provider.nonGlobal ContextStack.withoutKind
  rw [Entry.map_bare_filter (fun kind => decide (kind ≠ .globalValue)),
    Entry.map_bare_filter (fun kind => decide (kind ≠ .globalValue)), h.stack]

/-- Extensions see the same but for notes. -/
theorem view (h : a.ApartFromCaller b) (place : Place) (block : Block) :
    (a.view place block).ButNotes (b.view place block) where
  place := rfl
  sources := h.sources block.context
  stack := by
    show a.context.fullStack.map Entry.bare = b.context.fullStack.map Entry.bare
    unfold Provider.fullStack
    simp only [List.map_append, h.globalEntries, h.stack, h.preview]
  liveEntries := by
    have length := congrArg List.length h.stack
    rw [List.length_map, List.length_map] at length
    exact length
  slotDepth := h.frames.length_eq
  componentDepth := h.depth
  guardedSlots := congrArg List.length h.guard
  active := h.active

/-- They stay apart so under stacks with the same bare entries. -/
theorem withStack (h : a.ApartFromCaller b) {stack stack' : ContextStack}
    (same : stack.entries.map Entry.bare = stack'.entries.map Entry.bare) :
    ApartFromCaller { a with context.stack := stack } { b with context.stack := stack' } :=
  ⟨h.host, h.registry, h.preview, same, h.frames, h.guard, h.depth, h.opened, h.active⟩

/-- They stay apart so in the body of a component. -/
theorem inBody (h : a.ApartFromCaller b) (env : Environment) (place : Place) (block : Block)
    (props : List (String × Value)) :
    (a.inBody (a.frameFor env place block) props).ApartFromCaller (b.inBody (b.frameFor env place block) props) where
  host := h.host
  registry := h.registry
  preview := h.preview
  stack := rfl
  frames := .cons ⟨rfl, rfl, h.opened, .inr h.nonGlobal⟩ h.frames
  guard := h.guard
  depth := congrArg (· + 1) h.depth
  opened := congrArg (· + 1) h.opened
  active := h.active

/-- They stay apart so where previews are uncovered. -/
theorem uncovered (h : a.ApartFromCaller b) : a.uncovered.ApartFromCaller b.uncovered where
  host := h.host
  registry := h.registry
  preview := h.preview
  stack := h.stack
  frames := by
    have frames := h.frames
    show List.Forall₂ SlotFrame.ApartFromCaller (SlotFrames.hide a.frames).2 (SlotFrames.hide b.frames).2
    generalize a.frames = frames₁ at frames ⊢
    generalize b.frames = frames₂ at frames ⊢
    cases frames with
    | nil => exact .nil
    | cons _ beneath => exact beneath
  guard := h.guard
  depth := h.depth
  opened := h.opened
  active := h.active

/-- A slot has the same content in both, and the frames that hold it keep the same of the caller but for notes. -/
theorem slot? (h : a.ApartFromCaller b) (name : String) :
    (a.slot? name = none ∧ b.slot? name = none) ∨
      ∃ f g content, a.slot? name = some (f, content) ∧ b.slot? name = some (g, content) ∧
        f.guardKey name = g.guardKey name ∧ f.entries.map Entry.bare = g.entries.map Entry.bare := by
  have frames := h.frames
  unfold Surroundings.slot?
  generalize a.frames = frames₁ at frames ⊢
  generalize b.frames = frames₂ at frames ⊢
  cases frames with
  | nil => exact .inl ⟨rfl, rfl⟩
  | @cons f g _ _ top _ =>
    have contents : f.content? name = g.content? name := by
      unfold SlotFrame.content?
      rw [top.slots]
    simp only [List.head?_cons, Option.bind_some]
    rw [← contents]
    cases there : f.content? name with
    | none => exact .inl ⟨rfl, rfl⟩
    | some content =>
      refine .inr ⟨f, g, content, rfl, rfl, ?_, ?_⟩
      · unfold SlotFrame.guardKey
        rw [top.place, top.level]
      · rcases top.entries with empty | same
        · unfold SlotFrame.content? at there
          rw [empty] at there
          cases there
        · exact same

/-- They stay apart so in slots with the same guard and the same bare entries. -/
theorem inSlot (h : a.ApartFromCaller b) {f g : SlotFrame} {name : String} (key : f.guardKey name = g.guardKey name)
    (entries : f.entries.map Entry.bare = g.entries.map Entry.bare) :
    (a.inSlot f name).ApartFromCaller (b.inSlot g name) where
  host := h.host
  registry := h.registry
  preview := h.preview
  stack := by
    show (f.entries ++ [slotMark name]).map Entry.bare = (g.entries ++ [slotMark name]).map Entry.bare
    rw [List.map_append, List.map_append, entries]
  frames := h.uncovered.frames
  guard := by
    show f.guardKey name :: a.guard = g.guardKey name :: b.guard
    rw [key, h.guard]
  depth := h.depth
  opened := h.opened
  active := h.active

end Surroundings.ApartFromCaller

/-- Two renders in one environment apart from the caller of the outermost component. -/
def Correspondence.apartFromCaller (env : Environment) (coherent : env.engine.loops.Coherent)
    (ignores : env.IgnoresNotes) : Correspondence env env where
  place p q := p = q
  around := Surroundings.ApartFromCaller
  memory m n := m.patterns = n.patterns ∧ env.engine.loops.SameAnswers m.loops n.loops
  apart _ := False
  seen := View.ButNotes
  frame f g := f = g
  toSameServices := .refl env
  inside := .eq
  sources context h := h.sources context
  level h := ⟨congrArg env.maxDepth.levelsFrom h.depth, h.frames.length_eq⟩
  pushed entries h := h.withStack (by
    simp only [ContextStack.pushAll, List.map_append, h.stack])
  activated h := ⟨h.host, h.registry, h.preview, h.stack, h.frames, h.guard, h.depth, h.opened, rfl⟩
  component {a b p q} block h same := by
    subst same
    exact ⟨congrArg _ h.depth, fun props => h.inBody env p block props⟩
  slot {a b} name h := by
    rcases h.slot? name with nothing | ⟨f, g, content, there, there', key, entries⟩
    · exact .inl nothing
    · refine .inr ⟨f, g, content.place, content.place, content.blocks, there, there', rfl, h.inSlot key entries, ?_⟩
      rw [key, h.guard]
      cases env.answer b.guard (g.guardKey name) with
      | enter => exact .enter
      | refuse => exact .refuse
      | repeated => exact .repeated fun _ _ _ _ remembered => remembered
  warn _ remembered := remembered
  warnDepth _ remembered := remembered
  pattern {m n} ref remembered := by
    obtain ⟨patterns, loops⟩ := remembered
    rw [patterns]
    exact ⟨rfl, rfl, loops⟩
  items name params remembered := by
    obtain ⟨same, loops⟩ := remembered.2.items coherent name params
    exact ⟨same, remembered.1, loops⟩
  apart_note _ _ := False.elim
  extension name plan registered := by
    obtain ⟨same, decided⟩ := ignores name plan registered
    refine ⟨⟨rfl, ?_, ?_, ?_, ?_, ?_, ?_, ?_, ?_⟩, fun v w block alike => ?_⟩
    · rintro a b p q block h rfl
      exact h.view p block
    · intro a b entries h
      exact h.withStack rfl
    · intro a b h
      rw [h.depth]
    · intro a b h
      exact ⟨h.host, h.registry, h.preview, h.stack, h.frames, h.guard, congrArg (· + 1) h.depth, h.opened, h.active⟩
    · rintro a b frame _ rfl h
      exact ⟨h.host, h.registry, h.preview, h.stack, .cons ⟨rfl, rfl, h.opened, .inr rfl⟩ h.frames, h.guard, h.depth,
        congrArg (· + 1) h.opened, h.active⟩
    · intro a b h
      exact h.uncovered
    · intro a b owner name h
      exact ⟨h.host, h.registry, h.preview, h.stack, h.frames, congrArg (List.cons _) h.guard, h.depth, h.opened,
        h.active⟩
    · intro a b owner name h
      rw [h.guard]
    · rw [same v w block alike]
      exact (decided w block).alike (fun _ => rfl) fun _ => rfl

/-! ## The instance itself -/

/-- An instance fills no slot if none of the blocks directly inside it is slot content. -/
theorem Block.slots_eq_nil {block : Block} {slotBlock : String}
    (none : ∀ child ∈ block.inner, child.name.same (.text slotBlock) = false) (place : Place) :
    block.slots place slotBlock = [] := by
  unfold Block.slots
  rw [List.filterMap_eq_nil_iff.mpr]
  · rfl
  · rintro ⟨child, position⟩ there
    have inside : child ∈ block.inner := (List.mem_zipIdx there).2.2 ▸ List.getElem_mem _
    unfold Block.filledSlot?
    simp only [none child inside, Bool.false_eq_true, if_false]

/-- The same properties come out of a session with other patterns in its cache. -/
theorem propsOf_fst_withPatterns (env : Environment) (block : Block) (pattern : Pattern) (s : Session)
    (patterns : PatternCache) :
    (propsOf env block pattern { s with patterns := patterns }).1 = (propsOf env block pattern s).1 := by
  rw [propsOf_apply, propsOf_apply]
  dsimp only
  cases env.instanceAttributes (s.context.sources block.context) block <;> rfl

/-- Finding the properties of an instance changes no answer and no pattern. -/
theorem propsOf_snd (env : Environment) (coherent : env.engine.loops.Coherent) (block : Block) (pattern : Pattern)
    (s : Session) :
    (propsOf env block pattern s).2.toSurroundings = s.toSurroundings ∧
      (propsOf env block pattern s).2.patterns = s.patterns ∧
      env.engine.loops.SameAnswers s.loops (propsOf env block pattern s).2.loops := by
  rw [propsOf_apply]
  cases env.instanceAttributes (s.context.sources block.context) block with
  | error f => exact ⟨rfl, rfl, fun _ _ _ => rfl⟩
  | ok attributes =>
    exact ⟨rfl, rfl, LoopService.sameAnswers_asking coherent
      (PropScope.asking_properties env.engine.modifiers.onlyFails_any rfl _ _) s.loops⟩

namespace Correspondence

variable {env : Environment} {coherent : env.engine.loops.Coherent} {ignores : env.IgnoresNotes}

/-- An instance of a pattern from two live stacks, if the properties are the same. -/
theorem agreeAt_renderInstance {place : Place} {block : Block} (noSlots : block.slots place env.slotBlock = [])
    {pattern : Pattern} {s : Session} {stack : ContextStack}
    (sameProps : (propsOf env block pattern s).1 = (propsOf env block pattern (s.withStack stack)).1)
    {body : RenderM String} (h : InStep (apartFromCaller env coherent ignores) True body body) :
    (apartFromCaller env coherent ignores).AgreeAt (renderInstance env place block pattern body)
      (renderInstance env place block pattern body) s (s.withStack stack) := by
  have same : (apartFromCaller env coherent ignores).AgreeAt (propsOf env block pattern)
      (propsOf env block pattern) s (s.withStack stack) := by
    obtain ⟨-, patterns, answers⟩ := propsOf_snd env coherent block pattern s
    obtain ⟨-, patterns', answers'⟩ := propsOf_snd env coherent block pattern (s.withStack stack)
    exact .inr ⟨sameProps, patterns.trans patterns'.symm, fun preset params served =>
      (answers preset params served).symm.trans (answers' preset params served)⟩
  refine InStep.agreeAt_bind same (fun _ _ => False.elim) fun props t t' done done' learned => ?_
  have kept : t.toSurroundings = s.toSurroundings := by
    rw [← (propsOf_snd env coherent block pattern s).1, done]
  have kept' : t'.toSurroundings = (s.withStack stack).toSurroundings := by
    rw [← (propsOf_snd env coherent block pattern (s.withStack stack)).1, done']
  have limit : env.maxDepth.isReached t.depth = env.maxDepth.isReached t'.depth := by
    rw [kept, kept']
    rfl
  -- The two frames keep different entries of the caller, but have no slot that these could be for.
  have bodies : (t.inBody (t.frameFor env place block) props).ApartFromCaller
      (t'.inBody (t'.frameFor env place block) props) := by
    rw [kept, kept']
    exact ⟨rfl, rfl, rfl, rfl, .cons ⟨rfl, rfl, rfl, .inl noSlots⟩ (forall₂_refl s.frames), rfl, rfl, rfl, rfl⟩
  unfold AgreeAt
  rw [InStep.frameOf_bind, InStep.frameOf_bind]
  refine InStep.agreeAt_bind (h.agreeAt_renderBody trivial block.ref props limit bodies learned)
    (fun _ _ => False.elim) fun rendered _ _ _ _ learned => ?_
  cases rendered with
  | none => exact .inr ⟨rfl, learned⟩
  | some text => exact .inr ⟨rfl, learned⟩

/-- A component from two live stacks, if the properties of the instance are the same. -/
theorem agreeAt_renderComponent {place : Place} {block : Block} (noSlots : block.slots place env.slotBlock = [])
    {s : Session} {stack : ContextStack}
    (sameProps : ∀ pattern, (RenderM.findPattern env block.ref s).1 = .ok (some pattern) →
      (propsOf env block pattern s).1 = (propsOf env block pattern (s.withStack stack)).1)
    {body : String → List Block → RenderM String}
    (h : ∀ ref blocks, InStep (apartFromCaller env coherent ignores) True (body ref blocks) (body ref blocks)) :
    (apartFromCaller env coherent ignores).AgreeAt (renderComponent env place block body)
      (renderComponent env place block body) s (s.withStack stack) := by
  have start : (apartFromCaller env coherent ignores).memory s.toMemory s.toMemory := ⟨rfl, fun _ _ _ => rfl⟩
  unfold renderComponent
  split
  · exact .inr ⟨rfl, start⟩
  · have found : (apartFromCaller env coherent ignores).AgreeAt (RenderM.findPattern env block.ref)
        (RenderM.findPattern env block.ref) s (s.withStack stack) :=
      .inr ((apartFromCaller env coherent ignores).pattern block.ref start)
    refine InStep.agreeAt_bind found (fun _ _ => False.elim) fun answer t t' done done' learned => ?_
    cases answer with
    | none => exact .inr ⟨rfl, learned⟩
    | some pattern =>
      dsimp only
      split
      · exact .inr ⟨rfl, learned⟩
      · have answered : (RenderM.findPattern env block.ref s).1 = .ok (some pattern) := by rw [done]
        obtain rfl : { s with patterns := (s.patterns.get env.loader block.ref).2 } = t := (Prod.mk.inj done).2
        obtain rfl : Session.withStack { s with patterns := (s.patterns.get env.loader block.ref).2 } stack = t' :=
          (Prod.mk.inj done').2
        refine agreeAt_renderInstance noSlots ?_ (h _ _)
        rw [propsOf_fst_withPatterns]
        exact (sameProps pattern answered).trans (propsOf_fst_withPatterns env block pattern _ _).symm

end Correspondence

/-- Isolation of components: an instance without slot content becomes the same text, or fails in the same way,
whatever is on the live stack where it stands, if only its properties come out the same there. -/
theorem renderComponentHere_withStack (env : Environment) (coherent : env.engine.loops.Coherent)
    (ignores : env.IgnoresNotes) (place : Place) (block : Block)
    (noContent : ∀ child ∈ block.inner, child.name.same (.text env.slotBlock) = false)
    (s : Session) (stack : ContextStack)
    (sameProps : ∀ pattern, (RenderM.findPattern env block.ref s).1 = .ok (some pattern) →
      (propsOf env block pattern s).1 = (propsOf env block pattern (s.withStack stack)).1) :
    (renderComponentHere env place block s).1 = (renderComponentHere env place block (s.withStack stack)).1 := by
  have seen (s : Session) : (get : RenderM Session) s = (.ok s, s) := rfl
  have bodies (frames : Nat) (ref : String) (blocks : List Block) :
      InStep (Correspondence.apartFromCaller env coherent ignores) True
        (renderBodyAt env (levelsLeft env s) frames ref blocks)
        (renderBodyAt env (levelsLeft env s) frames ref blocks) :=
    (InStep.keptByBlocks _).renderBodyAt _ frames ref blocks
  have agree : (Correspondence.apartFromCaller env coherent ignores).AgreeAt _ _ s (s.withStack stack) :=
    Correspondence.agreeAt_renderComponent (Block.slots_eq_nil noContent place) sameProps
      (bodies (s.frames.length + 1))
  unfold renderComponentHere
  rw [bind_of_ok (seen s), bind_of_ok (seen (s.withStack stack))]
  rcases agree with impossible | ⟨same, _⟩
  · exact impossible.elim
  · exact same

/-- A pattern that shows the property `label`, and would show `item` if it could see it. -/
def labelPattern : Pattern :=
  ⟨"label", [⟨.text "text", [(.text "content", .text "\x7bprops.label\x7d\x7bitem\x7d")], [], [], .tuple⟩],
    [⟨"label", .number, .null, .null⟩]⟩

/-- An instance of it. -/
def labelInstance : Block :=
  ⟨.text "component", [(.text "ref", .text "label"), (.text "attributes", .map [(.text "label", .int 7)])], [], [], .tuple⟩

/-- An environment with that pattern and a preset. -/
def labelEnvironment : Environment :=
  { Environment.ofPatterns [("label", .built labelPattern)] with
    engine.loops.presets := [("news", ⟨"news", .structuredData, [], "", ""⟩)]
    engine.loops.handlers := [(.structuredData, .custom fun _ _ => .ok (.list [.text "a"]))] }

/-- The instance by itself, and as it stands in a loop. -/
theorem renderComponentHere_withStack_label :
    (renderComponentHere labelEnvironment .page labelInstance (Session.start .silent)).1 =
      (renderComponentHere labelEnvironment .page labelInstance
        ((Session.start .silent).withStack ⟨[.ofLocal (.text "item") (.int 3)]⟩)).1 := by
  have found : (RenderM.findPattern labelEnvironment labelInstance.ref (Session.start .silent)).1 =
      .ok (some labelPattern) := by cbv
  have props : (propsOf labelEnvironment labelInstance labelPattern (Session.start .silent)).1 =
      .ok [("label", .int 7)] := by cbv
  have propsInLoop : (propsOf labelEnvironment labelInstance labelPattern
      ((Session.start .silent).withStack ⟨[.ofLocal (.text "item") (.int 3)]⟩)).1 = .ok [("label", .int 7)] := by cbv
  refine renderComponentHere_withStack labelEnvironment (LoopService.coherent_of_single rfl fun _ => rfl)
    (fun name plan registered => (defaultRenderers_ne_extension registered).elim) .page labelInstance
    (fun child inside => absurd inside List.not_mem_nil) _ _ fun pattern known => ?_
  obtain rfl : labelPattern = pattern := Option.some.inj (Except.ok.inj (found.symm.trans known))
  exact props.trans propsInLoop.symm

end DynamicBlocks
