import DynamicBlocks.Proofs.ExpressionTexts
import DynamicBlocks.Proofs.Isolation
import DynamicBlocks.Proofs.JsonRoundTrip
import DynamicBlocks.Proofs.Siblings
import Mathlib

/-!
# Loops unrolled

A loop over items that are written out in its target renders the blocks inside it again and again in one session. Each
time they become what they are as the blocks of a page of their own, which has the item, and its index if the loop names
one, as local sources behind those of the page with the loop. So a loop is as good as that many pages.

The page of an item differs in three ways. Its blocks stand at the root, and not inside of the loop; nothing has been
remembered yet; and the local sources come without the notes that a loop leaves on them. The first two do not show
(`Correspondence.elsewhere`), and neither does the third (`Correspondence.apartFromCaller`).
-/

set_option autoImplicit false

namespace DynamicBlocks

open RenderM Text

/-! ## The items in a target -/

/-- A target in which a list is written out as JSON. Every list that JSON can say can be written so
(`exists_inlineList`). -/
structure InlineList (target : String) (items : List Value) : Prop where
  bracketed : Engine.mayBeJson (Text.trimChars target.toList) = true
  reads : Json.read? (String.ofList (Text.trimChars target.toList)) = some (.list items)

/-- A target with a list written out is that list, whatever the sources are. -/
theorem InlineList.targetItems {target : String} {items : List Value} (inline : InlineList target items)
    (engine : Engine) (sources : List Source) : engine.targetItems sources target = pure items := by
  have solid : (Text.trimChars target.toList).isEmpty = false := by
    have bracketed := inline.bracketed
    cases chars : Text.trimChars target.toList with
    | nil =>
      rw [chars] at bracketed
      cases bracketed
    | cons c cs => rfl
  unfold Engine.targetItems
  dsimp only
  rw [solid, if_neg Bool.false_ne_true, if_pos inline.bracketed, inline.reads]
  rfl

/-- Every list that JSON can say can be written out in a target. -/
theorem exists_inlineList {items : List Value} (json : (Value.list items).IsJsonIn false) :
    ∃ target, InlineList target items := by
  obtain ⟨s, written, reads⟩ := Json.read?_write json
  have shape : ∃ middle, s.toList = '[' :: (middle ++ [']']) := by
    rw [Json.write] at written
    obtain ⟨texts, -, same⟩ := exists_of_bind_eq_ok written
    refine ⟨(Text.join ", " texts).toList, ?_⟩
    rw [← Except.ok.inj same, String.toList_append, String.toList_append]
    rfl
  obtain ⟨middle, shape⟩ := shape
  have trimmed : Text.trimChars s.toList = s.toList := by
    rw [shape, trimChars_cons (by decide), trimBack_append_cons middle (by decide)]
    rfl
  refine ⟨s, ?_, ?_⟩
  · rw [trimmed, shape]
    unfold Engine.mayBeJson
    rw [← List.cons_append, List.getLast?_concat]
    rfl
  · rw [trimmed, String.ofList_toList, reads]

/-- A loop that goes over items written out in its target. -/
structure Block.LoopsOver (block : Block) (env : Environment) (items : List Value) : Prop where
  renderer : env.rendererFor block.name = .ok (some .loop)
  noPreset : block.loopId? = none
  target : InlineList block.loopTarget items

/-- What such a loop becomes: the blocks inside it, for one item after the other. -/
theorem Block.LoopsOver.renderNamed {block : Block} {env : Environment} {items : List Value}
    (loops : block.LoopsOver env items) (on : WaysOn) (place : Place) (inside : RenderM String) :
    RenderM.renderNamed env on place block inside = renderItems block inside 0 items := by
  have data (sources : List Source) : loopData env block sources = pure (.list items) := by
    unfold loopData
    rw [loops.noPreset]
    dsimp only
    rw [loops.target.targetItems]
    rfl
  have read (s : Session) : sourcesOf block s = (.ok (s.context.sources block.context), s) := rfl
  unfold RenderM.renderNamed
  rw [loops.renderer, ofExcept_ok_bind]
  show renderLoop env block inside = _
  funext s
  unfold renderLoop
  rw [bind_of_ok (read s), data, pure_bind, Value.seriesOrNone_list, ofExcept_ok_bind]

/-! ## One item -/

section

variable {env : Environment} (coherent : env.engine.loops.Coherent) (ignoresNotes : env.IgnoresNotes)
  (ignores : env.IgnoresPlaces)
include coherent ignoresNotes ignores

end

end DynamicBlocks
