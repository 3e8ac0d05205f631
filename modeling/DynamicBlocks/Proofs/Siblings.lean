import DynamicBlocks.Proofs.MovedBlocks
import DynamicBlocks.Render.Settings
import Mathlib

/-!
# Blocks in a row

The text of blocks in a row is the texts that the blocks have by themselves, one after the other. What is rendered
first gives back all that it did to the surroundings, and the memories that it leaves behind have the answers that they
had at the start, as long as no two requests for items are confused. That leaves the places, for the later blocks stand
behind others; nothing shows where a block stands.
-/

set_option autoImplicit false

namespace DynamicBlocks

open RenderM

/-! ## One after the other -/

/-- The blocks that items in a row describe. -/
theorem Block.ofItems_append (first second : List Value) :
    Block.ofItems (first ++ second) = (do
      let blocks ← Block.ofItems first
      let others ← Block.ofItems second
      pure (blocks ++ others)) := by
  induction first with
  | nil =>
    rw [List.nil_append, Block.ofItems]
    exact (bind_pure _).symm
  | cons item items ih =>
    rw [List.cons_append, Block.ofItems, Block.ofItems, ih]
    simp only [bind_assoc, pure_bind, List.cons_append]

/-- Blocks of a page with others in front of them. -/
def Place.behind (n : Nat) : Place → Place → Prop :=
  Place.Below fun a b => ∃ i, a = [n + i] ∧ b = [i]

/-- Places behind others are moved by as many. -/
theorem Place.moves_behind (n : Nat) : Moves (behind n) := by
  apply Place.moves_below (m := 1) (n := 1)
  · rintro a b ⟨i, rfl, rfl⟩
    rfl
  · rintro a b ⟨i, rfl, rfl⟩
    rfl
  · rintro a b a' b' ⟨i, rfl, rfl⟩ ⟨j, rfl, rfl⟩
    simp

/-- A block on top of a page stands behind the blocks in front of it. -/
theorem Place.behind_child (n i : Nat) : behind n (page.child (n + i)) (page.child i) :=
  .page [] ⟨i, rfl, rfl⟩

section

variable {env : Environment} (coherent : env.engine.loops.Coherent) (ignores : env.IgnoresPlaces)
include coherent ignores

/-- Rendering blocks leaves a memory behind that has the same answers. -/
theorem steady_renderFrom (levels frames : Nat) (place : Place) (position : Nat) (blocks : List Block) {s : Session}
    {start : LoopState} (steady : s.toMemory.Steady env start) :
    (renderFrom env (waysFrom env levels frames) place position blocks s).2.toMemory.Steady env start := by
  have alike := Memory.answerAlike_steady coherent start
  have kept : InStep (.elsewhere env Place.Moves.eq ignores alike) True
      (renderFrom env (waysFrom env levels frames) place position blocks)
      (renderFrom env (waysFrom env levels frames) place position blocks) :=
    InStep.renderFrom_from _ (fun _ => rfl) levels frames blocks
  exact (kept.memory_after ⟨steady, steady⟩).1

/-- The blocks of a page one after the other: what comes of later ones is what comes of them by themselves. -/
theorem renderBlocks_append (first second : List Block) {s : Session} (frames : s.frames = []) (guard : s.guard = [])
    (faithful : s.patterns.Faithful env.loader) :
    (renderBlocks env .page (first ++ second) s).1 = (do
      let text ← (renderBlocks env .page first s).1
      let rest ← (renderBlocks env .page second s).1
      pure (text ++ rest)) := by
  let on := waysFrom env (levelsLeft env s) s.frames.length
  have read (blocks : List Block) : renderBlocks env .page blocks s = renderFrom env on .page 0 blocks s :=
    renderBlocks_apply env .page blocks s
  have steady : s.toMemory.Steady env s.loops := ⟨faithful, fun _ _ _ => rfl⟩
  have learned : (renderFrom env on .page 0 first s).2.toMemory.Steady env s.loops :=
    steady_renderFrom coherent ignores _ _ .page 0 first steady
  have restored : (renderFrom env on .page 0 first s).2.toSurroundings = s.toSurroundings :=
    Restores.renderAt env _ _ .page first s
  have behind : InStep (.elsewhere env (Place.moves_behind first.length) ignores
      (Memory.answerAlike_steady coherent s.loops)) True (renderFrom env on .page first.length second)
      (renderFrom env on .page 0 second) := by
    apply InStep.renderFrom_from
    intro k
    rw [Nat.zero_add]
    exact Place.behind_child first.length k
  rw [read, read, read, renderFrom_append, Nat.zero_add]
  rcases done : renderFrom env on .page 0 first s with ⟨outcome, t⟩
  rw [done] at learned restored
  cases outcome with
  | error f =>
    rw [bind_of_error done]
    rfl
  | ok text =>
    have around : t.toSurroundings.Moved (Place.behind first.length) s.toSurroundings := by
      rw [show t.toSurroundings = s.toSurroundings from restored]
      exact .outside s.toSurroundings frames guard
    rw [bind_of_ok done, ← map_eq_pure_bind, map_apply]
    have agree := behind.agree trivial t s around ⟨learned, steady⟩
    rw [(agree.together id).1]
    exact map_eq_pure_bind (m := Except Failure) _ _

end

/-- Siblings do not affect each other: blocks in a row come to a text exactly if the first ones and the other ones do by
themselves, and then it is the one text after the other. So nothing that the first blocks do is seen in the others, be
it loops, components and slots, references to nothing, requests that fail or components that are too deep. -/
theorem Environment.render_append (env : Environment) (coherent : env.engine.loops.Coherent)
    (ignores : env.IgnoresPlaces) (first second : List Value) (sources globals previews : Value) (text : String) :
    (env.render ⟨.list (first ++ second), sources, globals, previews⟩).1 = .ok text ↔
      ∃ a b, (env.render ⟨.list first, sources, globals, previews⟩).1 = .ok a ∧
        (env.render ⟨.list second, sources, globals, previews⟩).1 = .ok b ∧ text = a ++ b := by
  obtain ⟨context, _, ⟨f, failed⟩ | rendered⟩ := render_cases env.host globals previews
  · rw [failed env rfl, failed env rfl, failed env rfl]
    simp
  · have series (items : List Value) : Block.ofSeries (.list items) = Block.ofItems items := by rw [Block.ofSeries]
    rw [rendered env rfl, rendered env rfl, rendered env rfl, renderPage_fst, renderPage_fst, renderPage_fst, series,
      series, series, Block.ofItems_append]
    let start : Session := { Session.start env.host with context := context }
    have joined (entries : List Entry) (blocks others : List Block) :=
      renderBlocks_append coherent ignores blocks others (s := start.surround (start.activated.pushed entries)) rfl rfl
        (PatternCache.faithful_empty env.loader)
    -- A page comes to a text if its sources and its blocks are what they should be, and the blocks come to a text.
    simp only [bind_eq_ok_iff, pure, Except.pure, Except.ok.injEq]
    constructor
    · rintro ⟨entries, given, _, ⟨blocks, described, others, described', rfl⟩, came⟩
      obtain ⟨a, came, rest⟩ := exists_of_bind_eq_ok ((joined entries blocks others).symm.trans came)
      obtain ⟨b, came', same⟩ := exists_of_bind_eq_ok rest
      exact ⟨a, b, ⟨entries, given, blocks, described, came⟩, ⟨entries, given, others, described', came'⟩,
        (Except.ok.inj same).symm⟩
    · rintro ⟨a, b, ⟨entries, given, blocks, described, came⟩, ⟨entries', given', others, described', came'⟩, rfl⟩
      obtain rfl : entries = entries' := Except.ok.inj (given.symm.trans given')
      refine ⟨entries, given, _, ⟨blocks, described, others, described', rfl⟩, (joined entries blocks others).trans ?_⟩
      exact bind_eq_ok_iff.mpr ⟨a, came, bind_eq_ok_iff.mpr ⟨b, came', rfl⟩⟩

/-! ## Texts, a component and an extension -/

/-- A plan that changes the text of the blocks inside does so wherever they stand. -/
theorem Plan.alike_mapInner {moved : Place → Place → Prop} {frame : SlotFrame → SlotFrame → Prop}
    {seen : View → View → Prop} (change : String → String) :
    (mapInner change).Alike moved frame seen (mapInner change) := by
  refine .inner fun outcome => ?_
  cases outcome with
  | ok text => exact .done (change text)
  | error f => exact .fail f

/-- A text that shows the source `item`. -/
def itemText : Block :=
  ⟨.text "text", [(.text "content", .text "\x7bitem\x7d;")], [], [], .tuple⟩

/-- A component whose pattern shows `item` if it sees it. -/
def itemComponent : Block :=
  ⟨.text "component", [(.text "ref", .text "shown")], [], [], .tuple⟩

/-- An environment with a preset, that pattern, and an extension that marks text. -/
def rowEnvironment : Environment :=
  { Environment.ofPatterns [("shown", .built ⟨"shown", [itemText], []⟩)] with
    engine.loops.presets := [("news", ⟨"news", .structuredData, [], "", ""⟩)]
    engine.loops.handlers := [(.structuredData, .custom fun _ _ => .ok (.list [.text "a", .text "b"]))]
    renderers := defaultRenderers ++
      [("strong", .extension fun _ _ => .mapInner fun text => "<b>" ++ text ++ "</b>")] }

/-- The extension is the only one. -/
theorem plan_rowEnvironment {name : String} {plan : View → Block → Plan}
    (registered : rowEnvironment.renderers.lookup name = some (.extension plan)) :
    plan = fun _ _ => .mapInner fun text => "<b>" ++ text ++ "</b>" := by
  have there : (name, Renderer.extension plan) ∈ rowEnvironment.renderers := mem_of_lookup_eq_some registered
  rcases List.mem_append.mp there with default | strong
  · unfold defaultRenderers at default
    simp at default
  · obtain ⟨-, same⟩ := Prod.mk.inj (List.mem_singleton.mp strong)
    exact Renderer.extension.inj same

/-- No renderer of rows looks at the place. -/
theorem ignoresPlaces_rowEnvironment : rowEnvironment.IgnoresPlaces := by
  intro name plan registered moved _ v w block _
  rw [plan_rowEnvironment registered]
  exact Plan.alike_mapInner _

/-- A component in front of text in an extension. -/
theorem render_append_row :
    (rowEnvironment.render ⟨.list (Block.toValues [itemText, itemComponent] ++
        Block.toValues [⟨.text "strong", [], [itemText], [], .tuple⟩]), .map [(.text "item", .text "x")], .null, .null⟩).1 =
      .ok "x;;<b>x;</b>" := by
  have first : (rowEnvironment.render ⟨.list (Block.toValues [itemText, itemComponent]),
      .map [(.text "item", .text "x")], .null, .null⟩).1 = .ok "x;;" := by cbv
  have second : (rowEnvironment.render ⟨.list (Block.toValues [⟨.text "strong", [], [itemText], [], .tuple⟩]),
      .map [(.text "item", .text "x")], .null, .null⟩).1 = .ok "<b>x;</b>" := by cbv
  exact (Environment.render_append rowEnvironment (LoopService.coherent_of_single rfl fun _ => rfl)
    ignoresPlaces_rowEnvironment _ _ _ .null .null _).mpr ⟨"x;;", "<b>x;</b>", first, second, rfl⟩

end DynamicBlocks
