import DynamicBlocks.Context.Provider

/-!
# Reset modes

A block may leave out part of what surrounds it: nothing, all that is not global, or everything but what it adds for
itself and the previews. Each mode lists its entries from scratch (`Provider.entriesBelow`), so that a layer put in the
wrong place would change what shadows what and nothing would fail. Two things are shown of all states of a render. The
modes nest: what a stricter mode shows is shown by the laxer one too, in the same order. And they do not leak: the list
of a mode is a function of the layers that the mode keeps, so states that differ only in the layers left out cannot be
told apart (`Provider.SameGlobals`).
-/

set_option autoImplicit false

namespace DynamicBlocks

/-- The context that the host attached to a block, as it is given to the render: a mapping, or nothing. -/
def hostContext (context : Option Entries) : Value :=
  context.elim .null .map

/-- Two contexts that differ at most in the entries of their live stacks that are not global. -/
structure Provider.SameGlobals (one other : Provider) : Prop where
  host : other.host = one.host
  registry : other.registry = one.registry
  preview : other.preview = one.preview
  live : other.stack.ofKind .globalValue = one.stack.ofKind .globalValue

/-! ## Layers and their order -/

/-- Fewer entries in the same order have fewer sources in the same order, marks among them or not. -/
theorem Entry.sources_sublist {fewer more : List Entry} (within : fewer.Sublist more) :
    (sources fewer).Sublist (sources more) :=
  within.filterMap toSource?

/-- The global entries of the live stack stand in it in the order in which they were pushed. -/
theorem ContextStack.ofKind_sublist (stack : ContextStack) (kind : EntryKind) :
    (stack.ofKind kind).Sublist stack.entries :=
  List.filter_sublist

namespace Provider

variable (provider : Provider) (block added : List Entry)

/-- What a block adds for itself stands behind the global entries, so nothing global comes to shadow it. -/
theorem entriesBelow_all_sublist :
    (provider.entriesBelow .all block added).Sublist (provider.entriesBelow .keepGlobal block added) :=
  List.sublist_append_right _ added

/-- What is global keeps its place when the block's own context and the rest of the live stack come in between. -/
theorem entriesBelow_keepGlobal_sublist :
    (provider.entriesBelow .keepGlobal block added).Sublist (provider.entriesBelow .none block added) := by
  have live : (provider.stack.ofKind .globalValue).Sublist provider.stack.entries :=
    provider.stack.ofKind_sublist .globalValue
  have global : provider.globalEntries.Sublist (provider.globalEntries ++ block) :=
    List.sublist_append_left _ block
  exact (global.append live).append (List.Sublist.refl added)

/-- Previews come last in all modes, so the sources of two modes nest as their entries below the previews do. -/
theorem sourcesAmong_sublist {strict lax : ResetMode}
    (within : (provider.entriesBelow strict block added).Sublist (provider.entriesBelow lax block added)) :
    (provider.sourcesAmong strict block added).Sublist (provider.sourcesAmong lax block added) := by
  rw [sourcesAmong_preview, sourcesAmong_preview]
  exact (Entry.sources_sublist within).append (List.Sublist.refl _)

/-! ## What a mode looks at -/

/-- A mapping or nothing at all is a context that a block can have. -/
theorem exists_blockEntries (context : Option Entries) :
    ∃ block, blockEntries (hostContext context) = .ok block := by
  rcases context with _ | _ | ⟨first, rest⟩
  · exact ⟨[], rfl⟩
  · exact ⟨[], rfl⟩
  · exact ⟨Entry.ofMapping .localValue (first :: rest), rfl⟩

/-- Where nothing is left out, the context of the block is one of the layers. -/
theorem sourcesFor_none {context : Value} {block : List Entry} (is : blockEntries context = .ok block) :
    provider.sourcesFor context added .none = .ok (provider.sourcesAmong .none block added) := by
  unfold sourcesFor
  rw [if_pos rfl, is]
  rfl

/-- A mode that leaves something out leaves the context of the block out, which is not even looked at. -/
theorem sourcesFor_of_ne_none (context : Value) {mode : ResetMode} (strict : mode ≠ .none) :
    provider.sourcesFor context added mode = .ok (provider.sourcesAmong mode [] added) := by
  unfold sourcesFor
  rw [if_neg strict]
  rfl

/-- The block's own context is no part of what is left where only global entries are kept, or none. -/
theorem sourcesAmong_of_ne_none {mode : ResetMode} (strict : mode ≠ .none) :
    provider.sourcesAmong mode block added = provider.sourcesAmong mode [] added := by
  cases mode with
  | none => exact absurd rfl strict
  | keepGlobal => rfl
  | all => rfl

variable {provider} {other : Provider}

/-- Whoever sees only global entries cannot tell apart two states that have the same. -/
theorem SameGlobals.sourcesAmong (same : provider.SameGlobals other) :
    other.sourcesAmong .keepGlobal block added = provider.sourcesAmong .keepGlobal block added := by
  unfold Provider.sourcesAmong entriesBelow globalEntries
  rw [same.host, same.registry, same.preview, same.live]

/-- Whoever sees nothing of the surroundings cannot tell apart two states that have the same previews. -/
theorem sourcesAmong_all_of_preview (preview : other.preview = provider.preview) :
    other.sourcesAmong .all block added = provider.sourcesAmong .all block added := by
  unfold Provider.sourcesAmong entriesBelow
  rw [preview]

/-! ## Modes nest and do not leak -/

/-- Whatever the state of a render, the context of a block and the entries that it adds, each mode shows the block a
list of sources. What is left where everything is left out is, in this order, among what is left with the global
entries, and that is among what a block sees which leaves nothing out. The list with the global entries is the same in
all states with these entries, and the list without them in all states with these previews, whatever context the block
has there. -/
theorem sourcesFor_nested (provider : Provider) (context : Option Entries) (added : List Entry) :
    ∃ every kept own : List Source,
      provider.sourcesFor (hostContext context) added .none = .ok every ∧
      provider.sourcesFor (hostContext context) added .keepGlobal = .ok kept ∧
      provider.sourcesFor (hostContext context) added .all = .ok own ∧
      own.Sublist kept ∧ kept.Sublist every ∧
      (∀ (other : Provider) (context : Value), provider.SameGlobals other →
        other.sourcesFor context added .keepGlobal = .ok kept) ∧
      (∀ (other : Provider) (context : Value), other.preview = provider.preview →
        other.sourcesFor context added .all = .ok own) := by
  obtain ⟨block, is⟩ := exists_blockEntries context
  refine ⟨provider.sourcesAmong .none block added, provider.sourcesAmong .keepGlobal [] added,
    provider.sourcesAmong .all [] added, provider.sourcesFor_none added is,
    provider.sourcesFor_of_ne_none added _ (by decide), provider.sourcesFor_of_ne_none added _ (by decide),
    ?nested, ?among, ?global, ?alone⟩
  case nested => exact provider.sourcesAmong_sublist [] added (provider.entriesBelow_all_sublist [] added)
  case among =>
    have within := provider.sourcesAmong_sublist block added (provider.entriesBelow_keepGlobal_sublist block added)
    rwa [provider.sourcesAmong_of_ne_none block added (by decide)] at within
  case global =>
    intro other context same
    rw [other.sourcesFor_of_ne_none added context (by decide), same.sourcesAmong]
  case alone =>
    intro other context preview
    rw [other.sourcesFor_of_ne_none added context (by decide), sourcesAmong_all_of_preview _ _ preview]

/-- A state with an entity, a user that is registered, a preview of the user, and a live stack with a mark, a user of
its own, a global site and a property list. -/
def crowded : Provider where
  host := { entity := .text "home" }
  registry := Registry.globals.register "user" (.text "ada")
  preview := Registry.previews.register "user" (.text "bob")
  stack := ⟨[⟨.component, .null, .null, []⟩, .ofLocal (.text "user") (.text "eve"),
    ⟨.globalValue, .text "site", .text "here", []⟩, ⟨.component, .text "props", .map [], []⟩]⟩

/-- The same state with another item on the live stack in place of all that is not global. -/
def quiet : Provider :=
  crowded.withEntries [⟨.globalValue, .text "site", .text "here", []⟩, .ofLocal (.text "item") (.text "one")]

/-- A block that keeps what is global sees the same in both states, though its contexts differ; one that keeps nothing
sees what a fresh state with the previews shows it. -/
theorem sourcesFor_crowded :
    crowded.SameGlobals quiet ∧
      quiet.sourcesFor .null [] .keepGlobal = crowded.sourcesFor (.map [(.text "page", .bool true)]) [] .keepGlobal ∧
      (⟨.silent, .globals, crowded.preview, .empty⟩ : Provider).sourcesFor .null [] .all =
        crowded.sourcesFor (.map [(.text "page", .bool true)]) [] .all := by
  have same : crowded.SameGlobals quiet := ⟨rfl, rfl, rfl, rfl⟩
  obtain ⟨_, kept, own, -, keeps, owns, -, -, global, alone⟩ :=
    sourcesFor_nested crowded (some [(.text "page", .bool true)]) []
  exact ⟨same, (global quiet .null same).trans keeps.symm, (alone _ .null rfl).trans owns.symm⟩

end Provider

end DynamicBlocks
