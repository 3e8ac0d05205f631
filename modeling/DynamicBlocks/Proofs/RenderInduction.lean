import DynamicBlocks.Render.Page

/-!
# Induction over a render

A render goes down a tree, from components into the bodies of patterns and from placeholders back into slot
content. What is to be shown of all renders is shown of each kind of block, given that it holds of whatever is
rendered inside the block; this file does the induction once and for all.

It is stated for two renders side by side, of the same blocks in two environments and at two places. Some of what is
to be shown depends on whether the places correspond, so a relation between two actions comes with the assumption
under which it says what it says. A property of single renders is the case where the second render is not looked at
and nothing is assumed.
-/

set_option autoImplicit false

namespace DynamicBlocks

open RenderM

/-- A relation between actions, under an assumption, that every kind of block keeps: it holds of the two renders of a
block if it holds of the two renders of what is inside. -/
structure KeptByBlocks (env other : Environment) (corresponds : Place → Place → Prop)
    (related : Prop → RenderM String → RenderM String → Prop) : Prop where
  weaken : ∀ {P Q : Prop} {a b : RenderM String}, (Q → P) → related P a b → related Q a b
  renderers : other.renderers = env.renderers
  child : ∀ {p q : Place} (i : Nat), corresponds p q → corresponds (p.child i) (q.child i)
  body : ∀ ref : String, corresponds (.body ref) (.body ref)
  nothing : ∀ P : Prop, related P (pure "") (pure "")
  /-- A name that cannot be looked up. -/
  unnamed : ∀ P : Prop, related P (throw .wrongType) (throw .wrongType)
  /-- A body without a level left. -/
  endless : related True (throw .endless) (throw .endless)
  append : ∀ {P : Prop} {a b c d : RenderM String}, related P a b → related P c d →
    related P (do let first ← a; let rest ← c; pure (first ++ rest))
      (do let first ← b; let rest ← d; pure (first ++ rest))
  text : ∀ (P : Prop) (block : Block), related P (renderText env block) (renderText other block)
  element : ∀ {P : Prop} (block : Block) {a b : RenderM String}, related P a b →
    related P (renderElement env block a) (renderElement other block b)
  loop : ∀ {P : Prop} (block : Block) {a b : RenderM String}, related P a b →
    related P (renderLoop env block a) (renderLoop other block b)
  component : ∀ (block : Block) {p q : Place} {a b : String → List Block → RenderM String},
    (∀ ref blocks, related True (a ref blocks) (b ref blocks)) →
    related (corresponds p q) (renderComponent env p block a) (renderComponent other q block b)
  placeholder : ∀ (P : Prop) (block : Block) {a b : SlotContent → RenderM String},
    (∀ p q blocks, related (corresponds p q) (a ⟨p, blocks⟩) (b ⟨q, blocks⟩)) →
    related P (renderPlaceholder env block a) (renderPlaceholder other block b)
  /-- Blocks that an extension has rendered may stand anywhere. -/
  extension : ∀ (name : String) (plan : View → Block → Plan) (block : Block) {p q : Place}
    {a b : BlockRender},
    env.renderers.lookup name = some (.extension plan) →
    (∀ levels frames p q block, related (corresponds p q) (a levels frames p block) (b levels frames q block)) →
    related (corresponds p q) (renderExtension env plan p block (renderAnew env a))
      (renderExtension other plan q block (renderAnew other b))

/-- Ways on that are related wherever they lead. -/
structure RelatedOn (corresponds : Place → Place → Prop) (related : Prop → RenderM String → RenderM String → Prop)
    (on on' : WaysOn) : Prop where
  body : ∀ ref blocks, related True (on.body ref blocks) (on'.body ref blocks)
  fill : ∀ p q blocks, related (corresponds p q) (on.fill ⟨p, blocks⟩) (on'.fill ⟨q, blocks⟩)
  anew : ∀ levels frames p q block,
    related (corresponds p q) (on.anew levels frames p block) (on'.anew levels frames q block)

namespace KeptByBlocks

variable {env other : Environment} {corresponds : Place → Place → Prop}
  {related : Prop → RenderM String → RenderM String → Prop}

/-- Both environments have the same renderer for a name. -/
theorem rendererFor_eq (kept : KeptByBlocks env other corresponds related) (name : Value) :
    other.rendererFor name = env.rendererFor name := by
  unfold Environment.rendererFor
  rw [kept.renderers]

/-- A renderer that is found for a name is registered under it. -/
theorem lookup_of_rendererFor {name : Value} {renderer : Renderer}
    (found : env.rendererFor name = .ok (some renderer)) : ∃ s, env.renderers.lookup s = some renderer := by
  unfold Environment.rendererFor at found
  split at found
  · rename_i s
    exact ⟨s, Except.ok.inj found⟩
  · split at found <;> cases found

/-- A name that cannot be looked up is of the wrong type. -/
theorem eq_wrongType_of_rendererFor {name : Value} {f : Failure} (failed : env.rendererFor name = .error f) :
    f = .wrongType := by
  unfold Environment.rendererFor at failed
  split at failed
  · cases failed
  · split at failed <;> cases failed
    rfl

/-- One block, given the ways on and what is inside. -/
theorem renderNamed (kept : KeptByBlocks env other corresponds related) {on on' : WaysOn}
    (ways : RelatedOn corresponds related on on') (p q : Place) (block : Block) {a b : RenderM String}
    (inside : related (corresponds p q) a b) :
    related (corresponds p q) (RenderM.renderNamed env on p block a) (RenderM.renderNamed other on' q block b) := by
  unfold RenderM.renderNamed
  rw [kept.rendererFor_eq]
  cases found : env.rendererFor block.name with
  | error f =>
    obtain rfl := eq_wrongType_of_rendererFor found
    rw [ofExcept_error_bind, ofExcept_error_bind]
    exact kept.unnamed _
  | ok answer =>
    rw [ofExcept_ok_bind, ofExcept_ok_bind]
    cases answer with
    | none => exact inside
    | some renderer =>
      cases renderer with
      | text => exact kept.text _ block
      | element => exact kept.element block inside
      | component => exact kept.component block ways.body
      | loop => exact kept.loop block inside
      | slotPlaceholder => exact kept.placeholder _ block ways.fill
      | slotContent => exact kept.nothing _
      | extension plan =>
        obtain ⟨name, registered⟩ := lookup_of_rendererFor found
        exact kept.extension name plan block registered ways.anew

mutual

/-- One block, given the ways on: an induction on the tree. -/
theorem renderBlock (kept : KeptByBlocks env other corresponds related) {on on' : WaysOn}
    (ways : RelatedOn corresponds related on on') (p q : Place) : (block : Block) →
      related (corresponds p q) (RenderM.renderBlock env on p block) (RenderM.renderBlock other on' q block)
  | ⟨_, _, inner, _, _⟩ => by
    unfold RenderM.renderBlock
    exact kept.renderNamed ways p q _ (renderFrom kept ways p q 0 inner)

/-- The children of a place from a position on, given the ways on. -/
theorem renderFrom (kept : KeptByBlocks env other corresponds related) {on on' : WaysOn}
    (ways : RelatedOn corresponds related on on') (p q : Place) : (position : Nat) → (blocks : List Block) →
      related (corresponds p q) (RenderM.renderFrom env on p position blocks)
        (RenderM.renderFrom other on' q position blocks)
  | _, [] => by
    unfold RenderM.renderFrom
    exact kept.nothing _
  | position, block :: blocks => by
    have first := renderBlock kept ways (p.child position) (q.child position) block
    unfold RenderM.renderFrom
    exact kept.append (kept.weaken (kept.child position) first) (renderFrom kept ways p q (position + 1) blocks)

end

section

variable {anew anew' : BlockRender}

/-- The ways on with a number of frames in sight: an induction on that number, for slot content sees one frame
less. -/
theorem waysOn (kept : KeptByBlocks env other corresponds related)
    (blocks : ∀ levels frames p q block,
      related (corresponds p q) (anew levels frames p block) (anew' levels frames q block))
    {body body' : Nat → String → List Block → RenderM String}
    (bodies : ∀ frames ref blocks, related True (body frames ref blocks) (body' frames ref blocks)) (frames : Nat) :
    RelatedOn corresponds related (RenderM.waysOn env anew body frames) (RenderM.waysOn other anew' body' frames) := by
  induction frames with
  | zero => exact ⟨bodies 1, fun _ _ _ => kept.nothing _, blocks⟩
  | succ frames ih => exact ⟨bodies (frames + 2), fun p q content => kept.renderFrom ih p q 0 content, blocks⟩

/-- The body of a pattern: an induction on the levels left, for a component inside it has one level less. -/
theorem bodyAt (kept : KeptByBlocks env other corresponds related)
    (blocks : ∀ levels frames p q block,
      related (corresponds p q) (anew levels frames p block) (anew' levels frames q block))
    (levels frames : Nat) (ref : String) (body : List Block) :
    related True (RenderM.bodyAt env anew levels frames ref body)
      (RenderM.bodyAt other anew' levels frames ref body) := by
  induction levels generalizing frames ref body with
  | zero => exact kept.endless
  | succ levels ih =>
    exact kept.weaken (fun _ => kept.body ref) (kept.renderFrom (kept.waysOn blocks ih frames) _ _ 0 body)

end

/-- A block of an extension: an induction on how often such blocks may lead to others. -/
theorem renderAnewAt (kept : KeptByBlocks env other corresponds related) (times levels frames : Nat) (p q : Place)
    (block : Block) :
    related (corresponds p q) (RenderM.renderAnewAt env times levels frames p block)
      (RenderM.renderAnewAt other times levels frames q block) := by
  induction times generalizing levels frames p q block with
  | zero => exact kept.weaken (fun _ => trivial) kept.endless
  | succ times ih => exact kept.renderBlock (kept.waysOn ih (kept.bodyAt ih levels) frames) p q block

/-- The body of a pattern with a number of levels left and of frames in sight. -/
theorem renderBodyAt (kept : KeptByBlocks env other corresponds related) (levels frames : Nat) (ref : String)
    (blocks : List Block) :
    related True (RenderM.renderBodyAt env levels frames ref blocks)
      (RenderM.renderBodyAt other levels frames ref blocks) :=
  kept.bodyAt (kept.renderAnewAt extensionTimes) levels frames ref blocks

/-- The ways on where a number of levels is left and a number of frames is in sight. -/
theorem waysFrom (kept : KeptByBlocks env other corresponds related) (levels frames : Nat) :
    RelatedOn corresponds related (RenderM.waysFrom env levels frames) (RenderM.waysFrom other levels frames) :=
  kept.waysOn (kept.renderAnewAt extensionTimes) (kept.renderBodyAt levels) frames

/-- Blocks with a number of levels left and of frames in sight. -/
theorem renderAt (kept : KeptByBlocks env other corresponds related) (levels frames : Nat) (p q : Place)
    (blocks : List Block) :
    related (corresponds p q) (RenderM.renderAt env levels frames p blocks)
      (RenderM.renderAt other levels frames q blocks) :=
  kept.renderFrom (kept.waysFrom levels frames) p q 0 blocks

end KeptByBlocks

end DynamicBlocks
