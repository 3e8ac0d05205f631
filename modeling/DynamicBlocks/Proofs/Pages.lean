import DynamicBlocks.Proofs.Restoration

/-!
# Pages

What a page does before any block is rendered: sources are registered, which may fail and changes nothing but the
registries, and initial sources are pushed on the live stack, which is empty until then. Comparisons of two renders of
a page begin here, for both start in the same session (`render_cases`).
-/

set_option autoImplicit false

namespace DynamicBlocks

open RenderM

/-! ## Blocks in a row -/

/-- A block is rendered by its name, given the blocks inside it. -/
theorem renderBlock_eq (env : Environment) (on : WaysOn) (place : Place) (block : Block) :
    renderBlock env on place block = renderNamed env on place block (renderFrom env on place 0 block.inner) := by
  obtain ⟨name, attrs, inner, context, held⟩ := block
  rw [renderBlock]

/-- A list of one block is rendered as the block. -/
theorem renderFrom_singleton (env : Environment) (on : WaysOn) (place : Place) (position : Nat) (block : Block) :
    renderFrom env on place position [block] = renderBlock env on (place.child position) block := by
  rw [renderFrom, renderFrom]
  simp only [pure_bind, String.append_empty, bind_pure]

/-- Children in a row: the first ones, and those from the next position on. -/
theorem renderFrom_append (env : Environment) (on : WaysOn) (place : Place) (position : Nat)
    (first second : List Block) :
    renderFrom env on place position (first ++ second) = (do
      let text ← renderFrom env on place position first
      let rest ← renderFrom env on place (position + first.length) second
      pure (text ++ rest)) := by
  induction first generalizing position with
  | nil =>
    rw [List.nil_append, List.length_nil, Nat.add_zero, renderFrom, pure_bind]
    simp only [String.empty_append, bind_pure]
  | cons block blocks ih =>
    have next : position + 1 + blocks.length = position + (block :: blocks).length := by
      rw [List.length_cons]
      omega
    rw [List.cons_append, renderFrom, renderFrom, ih, next]
    simp only [bind_assoc, pure_bind, String.append_assoc]

/-! ## Blocks of a page -/

/-- Blocks are rendered with the levels left and the frames in sight where the session stands. -/
theorem renderBlocks_apply (env : Environment) (place : Place) (blocks : List Block) (s : Session) :
    renderBlocks env place blocks s = renderAt env (levelsLeft env s) s.frames.length place blocks s := by
  have seen : (get : RenderM Session) s = (.ok s, s) := rfl
  unfold renderBlocks
  rw [bind_of_ok seen]

/-- The two scopes of a page. -/
theorem renderPage_eq (env : Environment) (blocks sources : Value) :
    renderPage env blocks sources =
      RenderM.inside Surroundings.activated (RenderM.ofExcept (Entry.ofInitials sources) >>= fun entries =>
        RenderM.inside (·.pushed entries) (RenderM.ofExcept (Block.ofSeries blocks) >>= fun blocks =>
          renderBlocks env .page blocks)) := by
  have read : Restores (RenderM.ofExcept (Block.ofSeries blocks) >>= fun blocks => renderBlocks env .page blocks) :=
    (Restores.ofExcept _).bind fun blocks => Restores.renderBlocks env .page blocks
  have pushed : Restores (RenderM.ofExcept (Entry.ofInitials sources) >>= fun entries =>
      withPushed entries (RenderM.ofExcept (Block.ofSeries blocks) >>= fun blocks => renderBlocks env .page blocks)) :=
    (Restores.ofExcept _).bind fun entries => read.withPushed entries
  unfold renderPage
  rw [pushed.withActive_eq]
  simp only [read.withPushed_eq]

/-- Blocks with initial sources are rendered as blocks with the sources on the live stack. -/
theorem renderPage_fst (env : Environment) (blocks sources : Value) (s : Session) :
    (renderPage env blocks sources s).1 = Entry.ofInitials sources >>= fun entries =>
      Block.ofSeries blocks >>= fun blocks =>
        (renderBlocks env .page blocks (s.surround (s.activated.pushed entries))).1 := by
  rw [renderPage_eq]
  cases Entry.ofInitials sources with
  | error f => rfl
  | ok entries =>
    rw [ofExcept_ok_bind, inside_inside]
    unfold RenderM.inside
    dsimp only
    cases Block.ofSeries blocks <;> rfl

/-! ## Sources that are registered -/

/-- Registering sources leaves the live stack alone. -/
theorem Provider.stack_enqueueAll {enqueue : Provider → Value → Value → Except Failure Provider}
    (keeps : ∀ provider key value after, enqueue provider key value = .ok after → after.stack = provider.stack)
    {provider after : Provider} {v : Value} (done : provider.enqueueAll enqueue v = .ok after) :
    after.stack = provider.stack := by
  have folded (entries : Entries) (provider : Provider)
      (done : entries.foldlM (fun provider entry => enqueue provider entry.1 entry.2) provider = .ok after) :
      after.stack = provider.stack := by
    induction entries generalizing provider with
    | nil =>
      cases done
      rfl
    | cons entry entries ih =>
      rw [List.foldlM_cons] at done
      obtain ⟨next, first, rest⟩ := exists_of_bind_eq_ok done
      exact (ih next rest).trans (keeps provider entry.1 entry.2 next first)
  unfold Provider.enqueueAll at done
  split at done
  · obtain ⟨entries, _, done⟩ := exists_of_bind_eq_ok done
    exact folded entries provider done
  · cases done
    rfl

/-- Queueing a source leaves the stack as it is. -/
theorem Provider.stack_enqueue {provider after : Provider} {key value : Value}
    (done : provider.enqueue key value = .ok after) : after.stack = provider.stack := by
  obtain ⟨registry, _, done⟩ := exists_of_bind_eq_ok done
  rw [← Except.ok.inj done]

/-- So does queueing a preview. -/
theorem Provider.stack_enqueuePreview {provider after : Provider} {key value : Value}
    (done : provider.enqueuePreview key value = .ok after) : after.stack = provider.stack := by
  obtain ⟨preview, _, done⟩ := exists_of_bind_eq_ok done
  rw [← Except.ok.inj done]

/-- A change of the context that leaves the live stack alone leaves all but the registries as it is. -/
theorem changeContext_snd {change : Provider → Except Failure Provider}
    (keeps : ∀ provider after, change provider = .ok after → after.stack = provider.stack) (s : Session) :
    ∃ context, context.stack = s.context.stack ∧ (changeContext change s).2 = { s with context := context } := by
  unfold changeContext
  cases done : change s.context with
  | ok context => exact ⟨context, keeps s.context context done, rfl⟩
  | error f => exact ⟨s.context, rfl, rfl⟩

/-- What a page registers before it is rendered. -/
def registering (globals previews : Value) : RenderM Unit := do
  changeContext fun provider => provider.enqueueAll Provider.enqueue globals
  changeContext fun provider => provider.enqueueAll Provider.enqueuePreview previews

/-- After that there is still nothing on the live stack, and all but the context is as it is at the start. -/
theorem registering_snd (globals previews : Value) (host : Host) :
    ∃ context, context.stack = .empty ∧
      (registering globals previews (Session.start host)).2 = { Session.start host with context := context } := by
  unfold registering
  obtain ⟨context, stack, first⟩ := changeContext_snd
    (fun _ _ done => Provider.stack_enqueueAll (fun _ _ _ _ => Provider.stack_enqueue) done) (Session.start host)
  rcases done : changeContext (fun provider => provider.enqueueAll Provider.enqueue globals)
    (Session.start host) with ⟨outcome, s⟩
  rw [done] at first
  obtain rfl : s = { Session.start host with context := context } := first
  cases outcome with
  | error f =>
    rw [bind_of_error done]
    exact ⟨context, stack, rfl⟩
  | ok _ =>
    obtain ⟨context', stack', second⟩ := changeContext_snd
      (fun _ _ done => Provider.stack_enqueueAll (fun _ _ _ _ => Provider.stack_enqueuePreview) done)
      { Session.start host with context := context }
    rw [bind_of_ok done]
    exact ⟨context', stack'.trans stack, second⟩

/-- A page is rendered after its sources have been registered. -/
theorem render_eq_registering (env : Environment) (page : Page) :
    env.render page = (registering page.globals page.previews >>= fun _ => renderPage env page.blocks page.sources)
      (Session.start env.host) := by
  unfold registering
  rw [bind_assoc]
  rfl

/-- Pages that register the same for the same host are all rendered in one session, or they all fail with nothing
rendered. -/
theorem render_cases (host : Host) (globals previews : Value) :
    ∃ context : Provider, context.stack = .empty ∧
      ((∃ f, ∀ env : Environment, env.host = host → ∀ blocks sources,
        env.render ⟨blocks, sources, globals, previews⟩ = (.error f, { Session.start host with context := context })) ∨
      ∀ env : Environment, env.host = host → ∀ blocks sources,
        env.render ⟨blocks, sources, globals, previews⟩ =
          renderPage env blocks sources { Session.start host with context := context }) := by
  obtain ⟨context, stack, same⟩ := registering_snd globals previews host
  refine ⟨context, stack, ?_⟩
  rcases done : registering globals previews (Session.start host) with ⟨outcome, s⟩
  rw [done] at same
  obtain rfl : s = { Session.start host with context := context } := same
  cases outcome with
  | error f =>
    refine .inl ⟨f, fun env sameHost blocks sources => ?_⟩
    rw [render_eq_registering, sameHost, bind_of_error done]
  | ok _ =>
    refine .inr fun env sameHost blocks sources => ?_
    rw [render_eq_registering, sameHost, bind_of_ok done]

end DynamicBlocks
