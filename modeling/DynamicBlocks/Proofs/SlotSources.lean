import DynamicBlocks.Proofs.SlotGuards
import DynamicBlocks.Proofs.Wrapping

/-!
# What slot content sees

Slot content is rendered far from where its instance stands: in the body of the pattern, perhaps within loops there, or
handed on into the bodies of further components. It is rendered with the entries that the frame of the instance has
kept, and with whatever the context holds besides the live stack. No scope of a render changes the latter, so slot
content sees what the caller saw, except for entries of the live stack that are of the global kind, which the frame
does not keep.
-/

set_option autoImplicit false

namespace DynamicBlocks

open RenderM

/-! ## Where a render gets to -/

/-- Surroundings that the scopes of a render lead to, one within the other. There are no others that a render comes to
(`renderFrom_of_within`). -/
inductive Surroundings.Within (start : Surroundings) : Surroundings → Prop where
  | here : Within start start
  | pushed {a : Surroundings} (entries : List Entry) : Within start a → Within start (a.pushed entries)
  | isolated {a : Surroundings} (entries : List Entry) : Within start a → Within start (a.isolated entries)
  | deeper {a : Surroundings} : Within start a → Within start a.deeper
  | framed {a : Surroundings} (frame : SlotFrame) : Within start a →
      Within start (a.framed { frame with level := a.opened })
  | uncovered {a : Surroundings} : Within start a → Within start a.uncovered
  | activated {a : Surroundings} : Within start a → Within start a.activated
  | guarding {a : Surroundings} (owner name : Value) : Within start a → Within start (a.guarding (.named owner name))
  | inBody {a : Surroundings} (env : Environment) (place : Place) (block : Block) (props : List (String × Value)) :
      Within start a → Within start (a.inBody (a.frameFor env place block) props)
  | inSlot {a : Surroundings} {name : String} {frame : SlotFrame} {content : SlotContent} :
      a.slot? name = some (frame, content) → Within start a → Within start (a.inSlot frame name)

namespace Surroundings

/-- A property that every scope keeps holds wherever the scopes lead: an induction on the scopes. -/
theorem Within.keeps {start a : Surroundings} (within : Within start a) {good : Surroundings → Prop}
    (kept : KeptByScopes good) (h : good start) : good a := by
  induction within with
  | here => exact h
  | pushed entries _ ih => exact kept.pushed entries ih
  | isolated entries _ ih => exact kept.isolated entries ih
  | deeper _ ih => exact kept.deeper ih
  | framed frame _ ih => exact kept.framed frame ih
  | uncovered _ ih => exact kept.uncovered ih
  | activated _ ih => exact kept.activated ih
  | guarding owner name _ ih => exact kept.guarding owner name ih
  | inBody env place block props _ ih => exact kept.inBody env place block props ih
  | inSlot there _ ih => exact kept.inSlot there ih

/-- What is pushed on a stack leaves it within the same start. -/
theorem keptByScopes_within (start : Surroundings) : KeptByScopes (Within start) :=
  ⟨.pushed, .isolated, .deeper, .framed, .uncovered, .activated, .guarding, .inBody, .inSlot⟩

/-- Surroundings whose contexts differ in the live stack at most. -/
def SameButStack (a b : Surroundings) : Prop :=
  ∀ entries, b.context.withEntries entries = a.context.withEntries entries

/-- No scope changes more of the context than the live stack. -/
theorem keptByScopes_sameButStack (a : Surroundings) : KeptByScopes (SameButStack a) where
  pushed _ h := h
  isolated _ h := h
  deeper h := h
  framed _ h := h
  uncovered h := h
  activated h := h
  guarding _ _ h := h
  inBody _ _ _ _ h := h
  inSlot _ h := h

/-- Surroundings within a start differ from it in the stack only. -/
theorem Within.sameButStack {start a : Surroundings} (within : Within start a) : SameButStack start a :=
  within.keeps (keptByScopes_sameButStack start) fun _ => rfl

end Surroundings

/-- A render within surroundings beside itself. -/
def Correspondence.within (env : Environment) (guarded : env.slotGuard ≠ .off) (start : Surroundings) :
    Correspondence env env :=
  .ofGuards env env.slotGuard env.slotGuard (Surroundings.Within start) Eq (fun _ => False)
    (Surroundings.keptByScopes_within start)
    (fun {a name frame _} _ _ => by
      unfold Environment.answer Environment.guardedBy
      dsimp only
      cases kind : env.slotGuard with
      | off => exact absurd kind guarded
      | byBlock =>
        dsimp only
        split
        · exact .refuse
        · exact .enter
      | byInstance =>
        dsimp only
        split
        · exact .refuse
        · exact .enter)
    fun _ _ => False.elim

/-- Actions that restore and do the same within surroundings are in step there. -/
theorem inStep_within {env : Environment} (guarded : env.slotGuard ≠ .off) (start : Surroundings) {P : Prop}
    {a b : RenderM String} (left : Restores a) (right : Restores b)
    (same : P → ∀ s : Session, start.Within s.toSurroundings → a s = b s) :
    InStep (.within env guarded start) P a b where
  left := left
  right := right
  stays _ := False.elim
  agree given s t around remembered := by
    obtain ⟨a, m⟩ := s
    obtain ⟨b, n⟩ := t
    obtain ⟨rfl, within⟩ := around
    obtain ⟨patterns, loops, repeated⟩ := m
    obtain ⟨_, _, _⟩ := n
    obtain ⟨rfl, rfl, rfl⟩ := remembered
    right
    rw [same given _ within]
    exact ⟨rfl, rfl, rfl, rfl⟩

/-- Nothing but what the scopes lead to counts for a render: ways on that do the same there are as good as each
other. -/
theorem renderFrom_of_within {env : Environment} (guarded : env.slotGuard ≠ .off) {on on' : WaysOn}
    (start : Surroundings)
    (body : ∀ ref blocks, Restores (on.body ref blocks) ∧ Restores (on'.body ref blocks) ∧
      ∀ s : Session, start.Within s.toSurroundings → on.body ref blocks s = on'.body ref blocks s)
    (fill : ∀ content, Restores (on.fill content) ∧ Restores (on'.fill content) ∧
      ∀ s : Session, start.Within s.toSurroundings → on.fill content s = on'.fill content s)
    (anew : ∀ levels frames place block, Restores (on.anew levels frames place block) ∧
      Restores (on'.anew levels frames place block) ∧ ∀ s : Session, start.Within s.toSurroundings →
        on.anew levels frames place block s = on'.anew levels frames place block s)
    (place : Place) (position : Nat) (blocks : List Block) {s : Session} (within : start.Within s.toSurroundings) :
    (renderFrom env on place position blocks s).1 = (renderFrom env on' place position blocks s).1 := by
  let c := Correspondence.within env guarded start
  have ways : RelatedOn c.place (fun P a b => InStep c P a b) on on' := by
    refine ⟨?_, ?_, ?_⟩
    · intro ref blocks
      obtain ⟨left, right, same⟩ := body ref blocks
      exact inStep_within guarded start left right fun _ => same
    · intro p q blocks
      obtain ⟨left, _, same⟩ := fill ⟨p, blocks⟩
      refine inStep_within guarded start left (fill ⟨q, blocks⟩).2.1 ?_
      rintro rfl
      exact same
    · intro levels frames p q block
      obtain ⟨left, _, same⟩ := anew levels frames p block
      refine inStep_within guarded start left (anew levels frames q block).2.1 ?_
      rintro rfl
      exact same
  have agree := ((InStep.keptByBlocks c).renderFrom ways place place position blocks).agree rfl s s ⟨rfl, within⟩
    ⟨rfl, rfl, rfl⟩
  exact (agree.together id).1

/-! ## The sources of slot content -/

/-- Entries without the global ones are sources as before exactly if no global entry is one. -/
theorem Entry.sources_filter_eq_iff (keep : Entry → Bool) (entries : List Entry) :
    sources (entries.filter keep) = sources entries ↔
      ∀ entry ∈ entries, keep entry = false → entry.toSource? = none := by
  induction entries with
  | nil => simp [sources]
  | cons entry entries ih =>
    have shorter : (sources (entries.filter keep)).length ≤ (sources entries).length :=
      (List.filter_sublist.filterMap toSource?).length_le
    cases kept : keep entry with
    | true =>
      cases source : entry.toSource? with
      | none => simpa [sources, kept, source] using ih
      | some source => simpa [sources, kept, source] using ih
    | false =>
      cases source : entry.toSource? with
      | none => simpa [sources, kept, source] using ih
      | some source =>
        -- A source is missing on the left, and none can come in its place.
        have differ : sources ((entry :: entries).filter keep) ≠ sources (entry :: entries) := by
          intro same
          have lengths := congrArg List.length same
          simp only [sources, List.filter_cons, kept, List.filterMap_cons, source, Bool.false_eq_true, if_false,
            List.length_cons] at lengths shorter
          omega
        refine ⟨fun same => absurd same differ, fun nothing => ?_⟩
        have nothing := nothing entry List.mem_cons_self kept
        rw [source] at nothing
        cases nothing

namespace Provider

/-- The sources of a provider are its globals, what is given here, its stack and its previews, in this order. -/
theorem sources_eq (provider : Provider) (context : Entries) :
    provider.sources context = Entry.sources (provider.globalEntries ++ Entry.ofMapping .localValue context) ++
      Entry.sources provider.stack.entries ++ Entry.sources provider.preview.entries := by
  unfold sources sourcesAmong entriesBelow
  dsimp only
  rw [List.append_nil, Entry.sources_append, Entry.sources_append]

/-- The mark of a slot is no source. -/
theorem sources_withEntries_mark (provider : Provider) (entries : List Entry) (name : String) (context : Entries) :
    (provider.withEntries (entries ++ [slotMark name])).sources context =
      (provider.withEntries entries).sources context := by
  have noSource : Entry.sources (entries ++ [slotMark name]) = Entry.sources entries := by
    rw [Entry.sources_append]
    exact List.append_nil _
  rw [sources_eq, sources_eq]
  show _ ++ Entry.sources (entries ++ [slotMark name]) ++ _ = _
  rw [noSource]
  rfl

/-- Without its global entries a live stack gives the sources it gives with them exactly if none of them has a key. -/
theorem sources_nonGlobal_eq_iff (provider : Provider) (context : Entries) :
    (provider.withEntries provider.nonGlobal).sources context = provider.sources context ↔
      ∀ entry ∈ provider.stack.entries, entry.kind = .globalValue → entry.key.isTruthy = false := by
  have split := Entry.sources_filter_eq_iff (fun entry => entry.kind ≠ .globalValue) provider.stack.entries
  have cancelled : (provider.withEntries provider.nonGlobal).sources context = provider.sources context ↔
      Entry.sources provider.nonGlobal = Entry.sources provider.stack.entries := by
    rw [sources_eq, sources_eq]
    exact List.append_left_inj _ |>.trans (List.append_right_inj _)
  rw [cancelled]
  unfold nonGlobal ContextStack.withoutKind
  rw [split]
  simp only [ne_eq, decide_not, Bool.not_eq_false', decide_eq_true_eq, Entry.toSource?, ite_eq_right_iff, reduceCtorEq,
    imp_false, Bool.not_eq_true]

end Provider

/-- Slot content sees what the caller saw, entries of the global kind on the live stack left out, wherever in the body
of the instance its placeholder is come to. It sees the same sources exactly if no such entry is a source. -/
theorem renderPlaceholder_callerSources {env : Environment} {place : Place} {block : Block} {caller : Surroundings}
    {props : List (String × Value)} {s : Session}
    (within : (caller.inBody (caller.frameFor env place block) props).Within s.toSurroundings)
    {holder : Block} {name : String} (named : holder.slotName? = some name) {content : SlotContent}
    (filled : s.slot? name = some (caller.frameFor env place block, content))
    (free : env.answer s.guard ((caller.frameFor env place block).guardKey name) ≠ .refuse)
    {fill : SlotContent → RenderM String} (restores : ∀ content, Restores (fill content)) :
    ∃ inside : Session, inside.toMemory = s.toMemory ∧
      (renderPlaceholder env holder fill s).1 = (fill content inside).1 ∧
      ∀ filler : Block,
        inside.context.sources filler.context =
            (caller.context.withEntries caller.context.nonGlobal).sources filler.context ∧
          (inside.context.sources filler.context = caller.context.sources filler.context ↔
            ∀ entry ∈ caller.context.stack.entries, entry.kind = .globalValue → entry.key.isTruthy = false) := by
  let frame := caller.frameFor env place block
  let inside : Session := s.surround (s.inSlot frame name)
  have outcome : (renderPlaceholder env holder fill s).1 = (fill content inside).1 := by
    rw [renderPlaceholder_apply named, filled]
    dsimp only
    rw [renderFilled_eq (restores content)]
    dsimp only
    cases answer : env.answer s.guard (frame.guardKey name) with
    | enter => rfl
    | refuse => exact absurd answer free
    | repeated => rfl
  have context : inside.context = caller.context.withEntries (caller.context.nonGlobal ++ [slotMark name]) :=
    within.sameButStack (frame.entries ++ [slotMark name])
  refine ⟨inside, rfl, outcome, fun filler => ?_⟩
  have sources : inside.context.sources filler.context =
      (caller.context.withEntries caller.context.nonGlobal).sources filler.context := by
    rw [context, Provider.sources_withEntries_mark]
  refine ⟨sources, ?_⟩
  rw [sources]
  exact caller.context.sources_nonGlobal_eq_iff filler.context

/-- A text block that shows `g` and `item`. -/
def shownFiller : Block :=
  ⟨.text "text", [(.text "content", .text "\x7bg\x7d\x7bitem\x7d")], [], [], .tuple⟩

/-- A caller with an entry of the global kind and a local one on the live stack. -/
def mixedCaller : Surroundings :=
  { (Session.start .silent).toSurroundings with
    context.stack := ⟨[⟨.globalValue, .text "g", .text "v", []⟩, .ofLocal (.text "item") (.int 3)]⟩ }

/-- The frame of an instance that fills its slot there. -/
def mixedFrame : SlotFrame :=
  mixedCaller.frameFor (.ofPatterns []) .wrapper (.wrapper "frame" "body" [shownFiller])

/-- A placeholder in a loop of the body: what fills its slot sees neither the item of that loop nor `g`. -/
theorem renderPlaceholder_callerSources_mixed :
    let s : Session := ⟨(mixedCaller.inBody mixedFrame []).pushed [.ofLocal (.text "item") (.int 8)],
      (Session.start .silent).toMemory⟩
    let fill (content : SlotContent) : RenderM String := renderAt (.ofPatterns []) 49 0 content.place content.blocks
    ∃ inside : Session,
      (renderPlaceholder (.ofPatterns []) bodyPlaceholder fill s).1 =
          (fill ⟨Place.page.wrapped, [shownFiller]⟩ inside).1 ∧
        inside.context.sources [] = (mixedCaller.context.withEntries [.ofLocal (.text "item") (.int 3)]).sources [] := by
  intro s fill
  have within : (mixedCaller.inBody mixedFrame []).Within s.toSurroundings := .pushed _ .here
  have filled : s.slot? "body" = some (mixedFrame, ⟨Place.page.wrapped, [shownFiller]⟩) := by cbv
  have free : (Environment.ofPatterns []).answer s.guard (mixedFrame.guardKey "body") ≠ .refuse := by decide
  obtain ⟨inside, _, outcome, sources⟩ := renderPlaceholder_callerSources within
    (show bodyPlaceholder.slotName? = some "body" by cbv) filled free
    (fun content => Restores.renderAt (.ofPatterns []) 49 0 content.place content.blocks)
  exact ⟨inside, outcome, (sources shownFiller).1⟩

/-- A caller with an entry of the global kind on the live stack sees a source that slot content does not see, and a page
that starts with such an entry shows its value where the text stands by itself only. -/
theorem sources_inSlot_ne_mixed :
    (mixedCaller.inBody mixedFrame []).slot? "body" = some (mixedFrame, ⟨Place.page.wrapped, [shownFiller]⟩) ∧
      ((mixedCaller.inBody mixedFrame []).inSlot mixedFrame "body").context.sources shownFiller.context ≠
        mixedCaller.context.sources shownFiller.context ∧
      let env := Environment.ofPatterns [("frame", .built (framePattern "frame"))]
      let given : Value := .list [.ofFields [("type", .text "global"), ("key", .text "g"), ("source", .text "v")]]
      let shown := describing "text" [(.text "content", .text "\x7bg\x7d")] []
      (env.render ⟨.list [wrapping "frame" "body" [shown]], given, .null, .null⟩).1 = .ok "" ∧
        (env.render ⟨.list [shown], given, .null, .null⟩).1 = .ok "v" := by
  refine ⟨?_, ?_, ?_, ?_⟩
  · cbv
  · intro same
    have lengths := congrArg List.length same
    have inSlot : (((mixedCaller.inBody mixedFrame []).inSlot mixedFrame "body").context.sources
        shownFiller.context).length = 2 := by cbv
    have atCaller : (mixedCaller.context.sources shownFiller.context).length = 3 := by cbv
    omega
  · cbv
  · cbv

end DynamicBlocks
