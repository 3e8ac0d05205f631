import DynamicBlocks.Proofs.RememberedItems
import DynamicBlocks.Proofs.WritableValues

/-!
# Asking for items

Whoever asks a service for items gets a list, none for a name that means nothing, for a preset without a handler and
for a handler that fails. The one thing that is not absorbed is the key of the request: parameters are written down
before they are looked up, and mappings in them, at any depth, may have keys that JSON refuses or that cannot be put in
order; and the identifier of the preset is digested with them, unless there is a surrogate in it. So a call comes to a
list exactly if its name means no preset, or one with an identifier that can be digested and its parameters can be
written.
-/

set_option autoImplicit false

namespace DynamicBlocks

/-- A request can be written down exactly if bytes can be made of its identifier and its parameters can be written in
the order of their names. -/
theorem exists_requestText_iff (id : String) {params : Entries} :
    (∃ text, requestText id params = .ok text) ↔
      Text.isEncodable id = true ∧ Json.Writable .canonical (.map params) := by
  rw [← Json.exists_write_iff]
  constructor
  · rintro ⟨text, done⟩
    obtain ⟨payload, written, -⟩ := exists_of_requestText done
    rw [requestText_of_write written] at done
    split at done
    · rename_i encodable
      exact ⟨encodable, payload, written⟩
    · cases done
  · rintro ⟨encodable, payload, written⟩
    exact ⟨_, by rw [requestText_of_write written, if_pos encodable]⟩

/-- A request that cannot be written down fails for the type of a key in its parameters, or for its identifier. -/
theorem requestText_eq_error {id : String} {params : Entries} {f : Failure} (failed : requestText id params = .error f) :
    f = .wrongType ∨ f = .badValue ∧ Text.isEncodable id = false := by
  have : HasWrongType (· = .wrongType) := ⟨rfl⟩
  have fails : OnlyFails (· = .wrongType) (Json.write .canonical (.map params)) := OnlyFails.write _ _
  cases written : Json.write .canonical (.map params) with
  | error g =>
    unfold requestText at failed
    rw [written] at failed
    cases failed
    exact .inl (fails _ written)
  | ok payload =>
    rw [requestText_of_write written] at failed
    split at failed
    · cases failed
    · rename_i surrogate
      cases failed
      exact .inr ⟨rfl, Bool.eq_false_iff.mpr surrogate⟩

namespace LoopService

variable {service : LoopService}

/-- Where all that is remembered was found for a request, items under a key are a list. -/
theorem Accounted.exists_list_itemsUnder {s : LoopState} (accounted : service.Accounted s) (lists : service.FindsLists)
    (key : String) (preset : LoopPreset) (params : Entries) :
    ∃ items, (service.itemsUnder key preset params s).1 = .list items := by
  rw [itemsUnder_fst]
  cases known : (s.cache.find key).1 with
  | none => exact lists.exists_list preset params
  | some items =>
    obtain ⟨request, _, _, found⟩ := accounted.known key items known
    rw [Option.getD_some, found]
    exact lists.exists_list request.preset request.params

/-- Nothing is found where there is no handler and where the handler fails. -/
theorem found_of_fails {preset : LoopPreset} {params : Entries}
    (fails : ∀ handler, service.handlers.lookup preset.type = some handler →
      ∃ f, (handler.run service.backend preset params).1 = .error f) :
    service.found preset params = .list [] := by
  unfold found
  cases there : service.handlers.lookup preset.type with
  | none => rfl
  | some handler =>
    obtain ⟨f, failed⟩ := fails handler there
    dsimp only
    rw [failed]

/-- A call about a preset comes to the items under the key of its request. -/
theorem itemsGiven_fst_of_preset (service : LoopService) {name : Value} {preset : LoopPreset}
    (meant : service.preset? name = some preset) {given : Value} {params : Entries}
    (read : given.toEntriesOrNone = .ok params) (s : LoopState) :
    (service.itemsGiven name given s).1 =
      (fun text => (service.itemsUnder (service.digest text) preset params s).1) <$> requestText preset.id params := by
  rw [service.itemsGiven_of_preset meant, read]
  dsimp only
  cases requestText preset.id params <;> rfl

/-- Let the handlers of a service find lists whenever they do not fail. After any calls, a further one comes to a list
exactly if its name means no preset, or one whose identifier can be digested and its parameters can be written with
their names in order. It fails for the type of a key else, or for a surrogate in the identifier of the preset. It comes to no items if its name means no preset; and so it does if nothing is remembered for its
parameters and there is no handler or the handler fails. -/
theorem exists_list_itemsGiven_iff (lists : service.FindsLists) (calls : List LoopCall) (name : Value) {given : Value}
    {params : Entries} (read : given.toEntriesOrNone = .ok params) :
    let s := (service.itemsOfCalls calls .start).2
    ((∃ items, (service.itemsGiven name given s).1 = .ok (.list items)) ↔
      ∀ preset, service.preset? name = some preset →
        Text.isEncodable preset.id = true ∧ Json.Writable .canonical (.map params)) ∧
    (∀ f, (service.itemsGiven name given s).1 = .error f → f = .wrongType ∨
      f = .badValue ∧ ∃ preset, service.preset? name = some preset ∧ Text.isEncodable preset.id = false) ∧
    (service.preset? name = none → (service.itemsGiven name given s).1 = .ok (.list [])) ∧
    ∀ preset text, service.preset? name = some preset → requestText preset.id params = .ok text →
      (s.cache.find (service.digest text)).1 = none →
      (∀ handler, service.handlers.lookup preset.type = some handler →
        ∃ f, (handler.run service.backend preset params).1 = .error f) →
      (service.itemsGiven name given s).1 = .ok (.list []) := by
  intro s
  have accounted : service.Accounted s := (accounted_start service).itemsOfCalls calls
  cases meant : service.preset? name with
  | none =>
    rw [service.itemsGiven_of_none meant]
    exact ⟨⟨fun _ preset impossible => (nomatch impossible), fun _ => ⟨[], rfl⟩⟩, fun f failed => (nomatch failed),
      fun _ => rfl, fun preset text impossible => (nomatch impossible)⟩
  | some preset =>
    have listed (text : String) : ∃ items, (service.itemsUnder (service.digest text) preset params s).1 = .list items :=
      accounted.exists_list_itemsUnder lists _ preset params
    rw [service.itemsGiven_fst_of_preset meant read]
    refine ⟨?_, fun f failed => ?_, fun impossible => (nomatch impossible), ?_⟩
    · constructor
      · rintro ⟨items, done⟩ other ⟨⟩
        exact (exists_requestText_iff preset.id).mp (exists_map_iff.mp ⟨_, done⟩)
      · intro can
        obtain ⟨text, written⟩ := (exists_requestText_iff preset.id).mpr (can preset rfl)
        obtain ⟨items, hitems⟩ := listed text
        exact ⟨items, by rw [written, ← hitems]; rfl⟩
    · cases written : requestText preset.id params with
      | ok text =>
        rw [written] at failed
        cases failed
      | error g =>
        rw [written] at failed
        cases failed
        rcases requestText_eq_error written with wrong | ⟨bad, surrogate⟩
        · exact .inl wrong
        · exact .inr ⟨bad, preset, rfl, surrogate⟩
    · intro other text same written nothing fails
      cases same
      have found := service.itemsUnder_fst (service.digest text) preset params s
      rw [nothing, Option.getD_none, found_of_fails fails] at found
      rw [written, ← found]
      rfl

/-- Parameters with numbers as keys of a mapping. -/
def numberedParams : Entries :=
  [(.text "$b", .map [(.int 1, .text "x"), (.double (.infinite false), .null)]), (.text "$a", .date ⟨2024, 1, 9⟩)]

/-- Counted posts find lists. -/
theorem findsLists_countedPosts : countedPosts.FindsLists := by
  refine List.forall_mem_singleton.mpr fun run same preset params v done => ?_
  obtain rfl := LoopHandler.custom.inj same
  unfold countParams at done
  split at done
  · cases done
  · cases done
    exact ⟨_, rfl⟩

/-- After other calls, one with numbers as keys of a mapping comes to a list. -/
theorem exists_list_itemsGiven_iff_countedPosts :
    countedPosts.FindsLists ∧ (Value.map numberedParams).toEntriesOrNone = .ok numberedParams ∧
      ∃ items, (countedPosts.itemsGiven (.text "posts") (.map numberedParams)
        (countedPosts.itemsOfCalls countingCalls .start).2).1 = .ok (.list items) := by
  have read := Value.toEntriesOrNone_map numberedParams
  have inner : Json.Writable .canonical (.map [(.int 1, .text "x"), (.double (.infinite false), .null)]) := by
    refine .map (by simp [Value.IsJsonKey, Value.number?]) (fun _ => .inr (.inl ?_)) ?_
    · simp [Value.number?]
    · simpa using ⟨.other rfl rfl, .other rfl rfl⟩
  have writable : Json.Writable .canonical (.map numberedParams) := by
    refine .map (by simp [numberedParams, Value.IsJsonKey]) (fun _ => .inl (by simp [numberedParams])) ?_
    simpa [numberedParams] using ⟨inner, .other rfl rfl⟩
  refine ⟨findsLists_countedPosts, read, ?_⟩
  refine (exists_list_itemsGiven_iff findsLists_countedPosts countingCalls (.text "posts") read).1.mpr
    fun preset meant => ⟨?_, writable⟩
  have ids : countedPosts.HasEncodableIds := List.forall_mem_singleton.mpr (by decide)
  exact ids.of_meant meant

/-- A preset of a single item. -/
def singlePost : LoopService where
  presets := [("posts", ⟨"posts", .structuredData, [(.text "data", .list [.int 1])], "", ""⟩)]
  handlers := defaultHandlers
  backend := none
  digest := id

/-- A number and a text as keys of one mapping fail the call. -/
theorem itemsGiven_mixedKeys :
    singlePost.FindsLists ∧
      (singlePost.itemsGiven (.text "posts") (.map [(.text "$d", .map [(.int 1, .text "a"), (.text "x", .text "b")])])
        .start).1 = .error .wrongType := by
  have lists : singlePost.FindsLists := by
    intro entry there run same
    simp only [singlePost, defaultHandlers, List.mem_cons, List.not_mem_nil, or_false] at there
    rcases there with rfl | rfl | rfl | rfl <;> cases same
  have meant : singlePost.preset? (.text "posts") =
      some ⟨"posts", .structuredData, [(.text "data", .list [.int 1])], "", ""⟩ := by
    rw [preset?, show singlePost.idOf? (.text "posts") = some "posts" by decide]
    rfl
  refine ⟨lists, ?_⟩
  rw [singlePost.itemsGiven_fst_of_preset meant (Value.toEntriesOrNone_map _)]
  have refused : requestText "posts" [(.text "$d", .map [(.int 1, .text "a"), (.text "x", .text "b")])] =
      .error .wrongType := by cbv
  rw [refused]
  rfl

end LoopService

end DynamicBlocks
