import DynamicBlocks.Proofs.Answers
import DynamicBlocks.Proofs.RequestKeys
import Mathlib

/-!
# Remembered items

A service that remembers items is compared with one that asks a handler for every call. What is remembered is kept in
account (`Accounted`): it was found for a request that a handler was asked, under the key of the request, and no request
of that key was asked before unless null was found. Every call keeps the account, so it holds of all runs.

From it follows when remembering goes unnoticed. Where each preset has an identifier of its own, one that can be
digested (`HasEncodableIds`), and handlers take no notice of the order of parameters, every call comes to what it would come to without a cache (`itemsOfCalls_eq`), as
long as no text of the parameters has a high surrogate directly before a low one: the key is made of JSON text, in which
such two surrogates are written like the one character they make (`itemsOfCalls_surrogates_ne`). Where presets share an
identifier, a call may come to items of another preset; it never does exactly if what is kept for one is what is found
for the other (`itemsOfCalls_own_iff`).
-/

set_option autoImplicit false

namespace DynamicBlocks

/-- A value other than null is not null. -/
theorem Value.isNull_eq_false {v : Value} (other : v ≠ .null) : v.isNull = false := by
  cases v with
  | null => exact absurd rfl other
  | _ => rfl

/-- A cache holds no null. -/
theorem LoopCache.ne_null_of_find (cache : LoopCache) {key : String} {items : Value}
    (known : (cache.find key).1 = some items) : items ≠ .null := by
  rintro rfl
  unfold find at known
  split at known
  · rename_i there
    obtain rfl := Option.some.inj known
    obtain ⟨-, notNull⟩ := Option.filter_eq_some_iff.mp there
    cases notNull
  · cases known

/-- A call for items: the name of a preset, and parameters as they are handed over. -/
structure LoopCall where
  name : Value
  params : Value
  deriving Inhabited

/-- Whether the parameters of a call are none, or a mapping that JSON can say. In its texts no high surrogate stands
directly before a low one, since JSON does not tell the two from the one character they make. -/
def LoopCall.IsJson (call : LoopCall) : Prop :=
  call.params = .null ∨ ∃ params, call.params = .map params ∧ (Value.map params).IsJson

namespace LoopService

/-- What calls come to one after another, and the state behind them. -/
def itemsOfCalls (service : LoopService) : List LoopCall → LoopState → List (Except Failure Value) × LoopState
  | [], s => ([], s)
  | call :: calls, s =>
    let (outcome, s) := service.itemsGiven call.name call.params s
    let (outcomes, s) := itemsOfCalls service calls s
    (outcome :: outcomes, s)

/-- What a call comes to if nothing is remembered: no items for a name that means no preset, or else what the handler
finds. -/
def unremembered (service : LoopService) (call : LoopCall) : Except Failure Value :=
  match service.preset? call.name with
  | none => .ok (.list [])
  | some preset => service.found preset <$> call.params.toEntriesOrNone

/-! ## What is remembered -/

/-- Whether a request is known by a key. -/
def HasKey (service : LoopService) (request : LoopRequest) (key : String) : Prop :=
  ∃ text, requestText request.preset.id request.params = .ok text ∧ service.digest text = key

/-- A request has one key. -/
theorem HasKey.unique {service : LoopService} {request : LoopRequest} {key other : String}
    (hasKey : service.HasKey request key) (hasOther : service.HasKey request other) : key = other := by
  obtain ⟨text, written, rfl⟩ := hasKey
  obtain ⟨text', written', rfl⟩ := hasOther
  rw [Except.ok.inj (written.symm.trans written')]

/-- What is found for a request. -/
def foundFor (service : LoopService) (request : LoopRequest) : Value :=
  service.found request.preset request.params

/-- All that a cache holds is accounted for by the requests that handlers were asked. -/
structure Accounted (service : LoopService) (s : LoopState) : Prop where
  /-- What is remembered was found for a request of that key. -/
  known : ∀ key items, (s.cache.find key).1 = some items →
    ∃ request ∈ s.journal.requests, service.HasKey request key ∧ items = service.foundFor request
  /-- What was found is remembered, unless it was null. -/
  kept : ∀ request ∈ s.journal.requests, service.foundFor request ≠ .null →
    ∀ key, service.HasKey request key → (s.cache.find key).1 ≠ none
  /-- Of one key another request is asked only after null was found. -/
  once : s.journal.requests.Pairwise fun first second =>
    ∀ key, service.HasKey first key → service.HasKey second key → service.foundFor first = .null
  /-- Requests are about presets that names mean, and there is a handler for them. -/
  served : ∀ request ∈ s.journal.requests,
    service.Serves request.preset ∧ (service.handlers.lookup request.preset.type).isSome = true

/-- Nothing is remembered at the start. -/
theorem accounted_start (service : LoopService) : service.Accounted .start where
  known _ _ impossible := nomatch impossible
  kept _ impossible := nomatch impossible
  once := .nil
  served _ impossible := nomatch impossible

/-- Items come from the cache, which stays as it is; or a handler is asked and what it finds is set under the key. -/
theorem itemsUnder_cases (service : LoopService) (key : String) (preset : LoopPreset) (params : Entries)
    (s : LoopState) :
    let after := (service.itemsUnder key preset params s).2
    (((s.cache.find key).1 = none → service.handlers.lookup preset.type = none) ∧
        after.journal.requests = s.journal.requests ∧ ∀ other, (after.cache.find other).1 = (s.cache.find other).1) ∨
      (s.cache.find key).1 = none ∧ (service.handlers.lookup preset.type).isSome = true ∧
        after.journal.requests = s.journal.requests ++ [⟨preset, params⟩] ∧
        (after.cache.find key).1 = (some (service.found preset params)).filter (fun items => !items.isNull) ∧
        ∀ other, other ≠ key → (after.cache.find other).1 = (s.cache.find other).1 := by
  have hrequests (handler : LoopHandler) (t : LoopState) :
      (service.ask handler preset params t).2.journal.requests = t.journal.requests ++ [⟨preset, params⟩] := by
    unfold ask
    rcases handler.run service.backend preset params with ⟨outcome, query⟩
    cases outcome <;> rfl
  unfold itemsUnder
  cases known : (s.cache.find key).1 with
  | some items =>
    left
    simp only [known]
    exact ⟨nofun, trivial, s.cache.find_find key⟩
  | none =>
    cases there : service.handlers.lookup preset.type with
    | none =>
      left
      simp only [known]
      exact ⟨fun _ => trivial, rfl, s.cache.find_find key⟩
    | some handler =>
      right
      simp only [known]
      rw [service.ask_cache, service.ask_fst preset params there, hrequests]
      refine ⟨trivial, rfl, rfl, LoopCache.find_set_self _ key _, fun other different => ?_⟩
      rw [LoopCache.find_set_of_ne _ _ different]
      exact s.cache.find_find key other

/-- The account is kept: an induction over calls starts from `accounted_start` and goes on with this step. -/
theorem Accounted.itemsUnder {service : LoopService} {s : LoopState} (accounted : service.Accounted s)
    {preset : LoopPreset} (serves : service.Serves preset) {params : Entries} {key : String}
    (hasKey : service.HasKey ⟨preset, params⟩ key) : service.Accounted (service.itemsUnder key preset params s).2 := by
  rcases service.itemsUnder_cases key preset params s with
    ⟨-, hrequests, hfind⟩ | ⟨nothing, handled, hrequests, hset, hfind⟩
  · refine ⟨?_, ?_, ?_, ?_⟩
    · intro other items known
      rw [hfind] at known
      rw [hrequests]
      exact accounted.known other items known
    · rw [hrequests]
      intro request there found other hasOther
      rw [hfind]
      exact accounted.kept request there found other hasOther
    · rw [hrequests]
      exact accounted.once
    · rw [hrequests]
      exact accounted.served
  · refine ⟨?_, ?_, ?_, ?_⟩
    · intro other items known
      rw [hrequests]
      by_cases same : other = key
      · subst same
        rw [hset, Option.filter_eq_some_iff] at known
        exact ⟨⟨preset, params⟩, by simp, hasKey, (Option.some.inj known.1).symm⟩
      · rw [hfind other same] at known
        obtain ⟨request, there, hasOther, found⟩ := accounted.known other items known
        exact ⟨request, List.mem_append_left _ there, hasOther, found⟩
    · rw [hrequests]
      intro request there found other hasOther
      rcases List.mem_append.mp there with earlier | last
      · have held := accounted.kept request earlier found other hasOther
        have different : other ≠ key := fun same => held (same ▸ nothing)
        rw [hfind other different]
        exact held
      · obtain rfl := List.mem_singleton.mp last
        obtain rfl := hasKey.unique hasOther
        have notNull : (service.found preset params).isNull = false := Value.isNull_eq_false found
        rw [hset, Option.filter_some, notNull]
        exact Option.some_ne_none _
    · rw [hrequests, List.pairwise_append]
      refine ⟨accounted.once, List.pairwise_singleton _ _, fun first earlier second last other hasFirst hasSecond => ?_⟩
      obtain rfl := List.mem_singleton.mp last
      obtain rfl := hasKey.unique hasSecond
      -- Had something been found for the earlier request, the cache would hold it.
      by_contra found
      exact accounted.kept first earlier found key hasFirst nothing
    · rw [hrequests]
      intro request there
      rcases List.mem_append.mp there with earlier | last
      · exact accounted.served request earlier
      · obtain rfl := List.mem_singleton.mp last
        exact ⟨serves, handled⟩

/-! ## Calls -/

/-- A name that is known means a preset. -/
theorem exists_preset?_of_knows {service : LoopService} {name : Value} (knows : service.knows name = true) :
    ∃ preset, service.preset? name = some preset := by
  obtain ⟨id, meant⟩ := Option.isSome_iff_exists.mp knows
  have hthere : (service.presets.lookup id).isSome = true := by
    unfold idOf? at meant
    split at meant
    · split at meant
      · cases meant
      · dsimp only at meant
        split at meant
        · rename_i there
          exact Option.some.inj meant ▸ there
        · unfold idOfKey? at meant
          obtain ⟨entry, found, rfl⟩ := Option.map_eq_some_iff.mp meant
          exact List.lookup_isSome_iff.mpr ⟨entry, List.mem_of_find?_eq_some found, beq_self_eq_true _⟩
    · cases meant
  obtain ⟨preset, there⟩ := Option.isSome_iff_exists.mp hthere
  refine ⟨preset, ?_⟩
  rw [preset?, meant, Option.bind_some, there]

/-- A call about a preset reads its parameters, writes the request down, and finds the items under its key. -/
theorem itemsGiven_of_preset (service : LoopService) {name : Value} {preset : LoopPreset}
    (meant : service.preset? name = some preset) (given : Value) (s : LoopState) :
    service.itemsGiven name given s =
      match given.toEntriesOrNone with
      | .error f => (.error f, s)
      | .ok params =>
        match requestText preset.id params with
        | .error f => (.error f, s)
        | .ok text =>
          let after := service.itemsUnder (service.digest text) preset params s
          (.ok after.1, after.2) := by
  have knows : service.knows name = true := by
    obtain ⟨id, hid, -⟩ := Option.bind_eq_some_iff.mp meant
    rw [LoopService.knows, hid]
    rfl
  unfold itemsGiven
  rw [if_pos knows]
  cases given.toEntriesOrNone with
  | error f => rfl
  | ok params =>
    show service.items name params s = _
    unfold items
    rw [meant]
    dsimp only
    cases requestText preset.id params <;> rfl

/-- A name that means no preset comes to no items, and nothing is asked or remembered. -/
theorem itemsGiven_of_none (service : LoopService) {name : Value} (meant : service.preset? name = none)
    (given : Value) (s : LoopState) : service.itemsGiven name given s = (.ok (.list []), s) := by
  unfold itemsGiven
  split
  · rename_i knows
    obtain ⟨preset, there⟩ := exists_preset?_of_knows knows
    rw [meant] at there
    cases there
  · rfl

/-- A call for items keeps the account. -/
theorem Accounted.itemsGiven {service : LoopService} {s : LoopState} (accounted : service.Accounted s)
    (name given : Value) : service.Accounted (service.itemsGiven name given s).2 := by
  cases meant : service.preset? name with
  | none =>
    rw [service.itemsGiven_of_none meant]
    exact accounted
  | some preset =>
    rw [service.itemsGiven_of_preset meant]
    cases given.toEntriesOrNone with
    | error f => exact accounted
    | ok params =>
      dsimp only
      cases written : requestText preset.id params with
      | error f => exact accounted
      | ok text => exact accounted.itemsUnder ⟨name, meant⟩ ⟨text, written, rfl⟩

/-- Calls one after the other keep the account. -/
theorem Accounted.itemsOfCalls {service : LoopService} {s : LoopState} (accounted : service.Accounted s)
    (calls : List LoopCall) : service.Accounted (service.itemsOfCalls calls s).2 := by
  induction calls generalizing s with
  | nil => exact accounted
  | cons call calls ih => exact ih (accounted.itemsGiven call.name call.params)

/-! ## Presets that share an identifier -/

/-- Whether an outcome of a call is one of the preset that its name means: what is found for that preset and parameters
that the request of the call cannot be told from. -/
def IsOwn (service : LoopService) (call : LoopCall) (outcome : Except Failure Value) : Prop :=
  match service.preset? call.name with
  | none => outcome = .ok (.list [])
  | some preset => ∀ params text, call.params.toEntriesOrNone = .ok params → requestText preset.id params = .ok text →
    ∃ own, requestText preset.id own = .ok text ∧ outcome = .ok (service.found preset own)

/-- Whether what is kept for a preset is found for every other with its identifier. -/
def SharesItems (service : LoopService) : Prop :=
  ∀ preset other, service.Serves preset → service.Serves other → other.id = preset.id →
    (service.handlers.lookup other.type).isSome = true → ∀ params text, requestText preset.id params = .ok text →
      service.found other params ≠ .null →
        ∃ own, requestText preset.id own = .ok text ∧ service.found other params = service.found preset own

/-- Where presets with one identifier share their items, a call comes to items of its own preset. -/
theorem isOwn_itemsGiven {service : LoopService} (injective : Function.Injective service.digest)
    (shares : service.SharesItems) {s : LoopState} (accounted : service.Accounted s) (call : LoopCall) :
    service.IsOwn call (service.itemsGiven call.name call.params s).1 := by
  unfold IsOwn
  cases meant : service.preset? call.name with
  | none => rw [service.itemsGiven_of_none meant]
  | some preset =>
    intro params text given written
    rw [service.itemsGiven_of_preset meant, given]
    dsimp only
    rw [written]
    dsimp only
    rw [service.itemsUnder_fst]
    cases known : (s.cache.find (service.digest text)).1 with
    | none => exact ⟨params, written, rfl⟩
    | some items =>
      obtain ⟨request, there, ⟨text', written', same⟩, rfl⟩ := accounted.known _ items known
      obtain rfl := injective same
      have hid : request.preset.id = preset.id := id_eq_of_requestText written' written
      obtain ⟨serves, handled⟩ := accounted.served request there
      have notNull : service.found request.preset request.params ≠ .null := s.cache.ne_null_of_find known
      obtain ⟨own, hown, hfound⟩ :=
        shares preset request.preset ⟨_, meant⟩ serves hid handled request.params text' (hid ▸ written') notNull
      exact ⟨own, hown, congrArg Except.ok hfound⟩

/-- Every call comes to items of its own if presets share theirs: an induction on the calls. -/
theorem forall₂_isOwn_itemsOfCalls {service : LoopService} (injective : Function.Injective service.digest)
    (shares : service.SharesItems) {s : LoopState} (accounted : service.Accounted s) (calls : List LoopCall) :
    List.Forall₂ service.IsOwn calls (service.itemsOfCalls calls s).1 := by
  induction calls generalizing s with
  | nil => exact .nil
  | cons call calls ih =>
    exact .cons (isOwn_itemsGiven injective shares accounted call) (ih (accounted.itemsGiven call.name call.params))

/-- A call about a preset with parameters is answered under the key of the request that they make. -/
theorem itemsGiven_of_requestText {service : LoopService} {name : Value} {preset : LoopPreset}
    (meant : service.preset? name = some preset) {params : Entries} {text : String}
    (written : requestText preset.id params = .ok text) (s : LoopState) :
    service.itemsGiven name (.map params) s =
      (.ok (service.itemsUnder (service.digest text) preset params s).1,
        (service.itemsUnder (service.digest text) preset params s).2) := by
  rw [service.itemsGiven_of_preset meant, Value.toEntriesOrNone_map]
  dsimp only
  rw [written]

/-- Two calls that make one request come to what is found for the first. -/
theorem itemsOfCalls_pair {service : LoopService} {name name' : Value} {preset other : LoopPreset}
    (meant : service.preset? name = some preset) (meant' : service.preset? name' = some other)
    (handled : (service.handlers.lookup other.type).isSome = true) {params others : Entries} {text : String}
    (written : requestText preset.id params = .ok text) (written' : requestText other.id others = .ok text)
    (found : service.found other others ≠ .null) :
    (service.itemsOfCalls [⟨name', .map others⟩, ⟨name, .map params⟩] .start).1 =
      [.ok (service.found other others), .ok (service.found other others)] := by
  have hnothing : (LoopState.start.cache.find (service.digest text)).1 = none := rfl
  have hset : ((service.itemsUnder (service.digest text) other others .start).2.cache.find (service.digest text)).1 =
      some (service.found other others) := by
    rcases service.itemsUnder_cases (service.digest text) other others .start with ⟨alone, -⟩ | ⟨-, -, -, hset, -⟩
    · rw [alone hnothing] at handled
      cases handled
    · rw [hset]
      exact Option.filter_eq_some_iff.mpr ⟨rfl, by simpa using Value.isNull_eq_false found⟩
  unfold itemsOfCalls itemsOfCalls itemsOfCalls
  rw [itemsGiven_of_requestText meant' written']
  dsimp only
  rw [itemsGiven_of_requestText meant written]
  dsimp only
  rw [service.itemsUnder_fst, service.itemsUnder_fst, hnothing, hset]
  rfl

/-- Whatever is called for, calls come to items of their own presets exactly if presets with one identifier share their
items. -/
theorem itemsOfCalls_own_iff {service : LoopService} (injective : Function.Injective service.digest) :
    (∀ calls, List.Forall₂ service.IsOwn calls (service.itemsOfCalls calls .start).1) ↔ service.SharesItems := by
  constructor
  · rintro own preset other ⟨name, meant⟩ ⟨name', meant'⟩ sameId handled params text written found
    have hpair := own [⟨name', .map params⟩, ⟨name, .map params⟩]
    rw [itemsOfCalls_pair meant meant' handled written (sameId ▸ written) found] at hpair
    obtain - | ⟨-, second⟩ := hpair
    obtain - | ⟨second, -⟩ := second
    unfold IsOwn at second
    rw [meant] at second
    obtain ⟨own, hown, hfound⟩ := second params text (Value.toEntriesOrNone_map params) written
    exact ⟨own, hown, Except.ok.inj hfound⟩
  · exact fun shares calls => forall₂_isOwn_itemsOfCalls injective shares (accounted_start service) calls

/-- A preset of a single item, built under one identifier whatever the item is. -/
def builtPost (n : Int) : LoopPreset :=
  ⟨"posts", .structuredData, [(.text "data", .list [.int n])], "", ""⟩

/-- A service of two such presets. -/
def builtPosts : LoopService where
  presets := [("a", builtPost 1), ("b", builtPost 2)]
  handlers := defaultHandlers
  backend := none
  digest := id

/-- The presets that were built with one identifier come to their own items exactly if they share these. -/
theorem itemsOfCalls_own_iff_builtPosts :
    Function.Injective builtPosts.digest ∧
      ((∀ calls, List.Forall₂ builtPosts.IsOwn calls (builtPosts.itemsOfCalls calls .start).1) ↔
        builtPosts.SharesItems) :=
  ⟨fun _ _ same => same, itemsOfCalls_own_iff fun _ _ same => same⟩

/-- For one of the two presets a call comes to the items of the other. -/
theorem itemsOfCalls_builtPosts_ne :
    presetsOf [(.text "a", (builtPost 1).asBuilt), (.text "b", (builtPost 2).asBuilt)] = .ok builtPosts.presets ∧
      builtPosts.idOf? (.text "a") = some "a" ∧ builtPosts.idOf? (.text "b") = some "b" ∧
      builtPosts.preset? (.text "b") = some (builtPost 2) ∧
      (∀ params, builtPosts.found (builtPost 2) params = .list [.int 2]) ∧
      (builtPosts.itemsOfCalls [⟨.text "a", .map []⟩, ⟨.text "b", .map []⟩] .start).1 =
        [.ok (.list [.int 1]), .ok (.list [.int 1])] := by
  have hidA : builtPosts.idOf? (.text "a") = some "a" := by cbv
  have hidB : builtPosts.idOf? (.text "b") = some "b" := by cbv
  have hmeantA : builtPosts.preset? (.text "a") = some (builtPost 1) := by
    rw [preset?, hidA]
    rfl
  have hmeantB : builtPosts.preset? (.text "b") = some (builtPost 2) := by
    rw [preset?, hidB]
    rfl
  have hfound (n : Int) (params : Entries) : builtPosts.found (builtPost n) params = .list [.int n] := by
    have hdata : Entries.field (builtPost n).config "data" = .list [.int n] := by cbv
    have hhandler : builtPosts.handlers.lookup (builtPost n).type = some .data := rfl
    unfold found
    rw [hhandler]
    dsimp only [LoopHandler.run]
    unfold configuredItems
    rw [hdata]
    rfl
  have hpair := itemsOfCalls_pair hmeantB hmeantA rfl (show requestText _ [] = .ok "posts\x00\x7b\x7d" by cbv)
    (show requestText _ [] = .ok "posts\x00\x7b\x7d" by cbv) (by simp [hfound])
  rw [hfound] at hpair
  exact ⟨rfl, hidA, hidB, hmeantB, hfound 2, hpair⟩

/-! ## Presets with identifiers of their own -/

/-- Whether every preset stands under its own identifier. -/
def OwnIds (service : LoopService) : Prop :=
  ∀ entry ∈ service.presets, entry.2.id = entry.1

/-- Presets given as mappings stand under their own identifiers. -/
theorem ownIds_of_presetsOf {service : LoopService} {registry : Entries}
    (built : presetsOf registry = .ok service.presets)
    (mappings : ∀ entry ∈ registry, ∃ entries, entry.2 = .map entries) : service.OwnIds := by
  have hmore : ∀ (given : Entries) (done presets : List (String × LoopPreset)),
      (∀ entry ∈ given, ∃ entries, entry.2 = .map entries) → (∀ entry ∈ done, entry.2.id = entry.1) →
      given.foldlM (fun (presets : List (String × LoopPreset)) entry => do
        let preset ← LoopPreset.ofValue entry.1.plain entry.2
        pure (if presets.any fun known => known.1 = entry.1.plain then
          presets.map fun known : String × LoopPreset => if known.1 = entry.1.plain then (known.1, preset) else known
        else presets ++ [(entry.1.plain, preset)])) done = (.ok presets : Except Failure _) →
      ∀ entry ∈ presets, entry.2.id = entry.1 := by
    intro given
    induction given with
    | nil =>
      intro done presets _ own h
      obtain rfl := Except.ok.inj h
      exact own
    | cons entry given ih =>
      intro done presets mappings own h
      rw [List.foldlM_cons] at h
      obtain ⟨next, hnext, h⟩ := exists_of_bind_eq_ok h
      obtain ⟨preset, hpreset, hnext⟩ := exists_of_bind_eq_ok hnext
      refine ih next presets (fun other there => mappings other (List.mem_cons_of_mem _ there)) ?_ h
      obtain ⟨entries, hentries⟩ := mappings entry List.mem_cons_self
      have hid : preset.id = entry.1.plain := by
        rw [hentries] at hpreset
        obtain ⟨type, -, hpreset⟩ := exists_of_bind_eq_ok hpreset
        rw [← Except.ok.inj hpreset]
      rw [← Except.ok.inj hnext]
      split
      · intro other there
        obtain ⟨known, hknown, rfl⟩ := List.mem_map.mp there
        split
        · rename_i same
          exact hid.trans same.symm
        · exact own known hknown
      · intro other there
        rcases List.mem_append.mp there with earlier | last
        · exact own other earlier
        · obtain rfl := List.mem_singleton.mp last
          exact hid
  exact hmore registry [] service.presets mappings (List.forall_mem_nil _) built

/-- Whether bytes can be made of the identifiers of all presets. -/
def HasEncodableIds (service : LoopService) : Prop :=
  ∀ entry ∈ service.presets, Text.isEncodable entry.2.id = true

/-- They can be made of the identifier of a preset that a name means. -/
theorem HasEncodableIds.of_meant {service : LoopService} (ids : service.HasEncodableIds) {name : Value}
    {preset : LoopPreset} (meant : service.preset? name = some preset) : Text.isEncodable preset.id = true := by
  obtain ⟨id, -, there⟩ := Option.bind_eq_some_iff.mp meant
  exact ids (id, preset) (mem_of_lookup_eq_some there)

/-- Where presets stand under their own identifiers, a name means the preset of its identifier. -/
theorem OwnIds.eq_of_id_eq {service : LoopService} (own : service.OwnIds) {preset other : LoopPreset}
    (serves : service.Serves preset) (serves' : service.Serves other) (sameId : preset.id = other.id) :
    preset = other := by
  have hlookup {preset : LoopPreset} (serves : service.Serves preset) :
      service.presets.lookup preset.id = some preset := by
    obtain ⟨name, meant⟩ := serves
    obtain ⟨id, -, there⟩ := Option.bind_eq_some_iff.mp meant
    have hid : preset.id = id := own (id, preset) (mem_of_lookup_eq_some there)
    rw [hid]
    exact there
  have hpreset := hlookup serves
  rw [sameId, hlookup serves'] at hpreset
  exact (Option.some.inj hpreset).symm

/-! ## Remembering goes unnoticed -/

/-- Whether the order of parameters is of no account to what is found for a preset. -/
def BlindToOrder (service : LoopService) : Prop :=
  ∀ preset params others, service.Serves preset → (Value.map params).IsJson →
    (Value.map params).Rearranged (.map others) → service.found preset params = service.found preset others

/-- A call with JSON parameters has them as entries. -/
theorem exists_of_isJson {call : LoopCall} (json : call.IsJson) :
    ∃ params, call.params.toEntriesOrNone = .ok params ∧ (Value.map params).IsJson := by
  rcases json with none | ⟨params, given, json⟩
  · rw [none]
    exact ⟨[], rfl, by simp [Value.IsJsonIn, Value.AreJsonEntriesIn]⟩
  · rw [given]
    exact ⟨params, Value.toEntriesOrNone_map params, json⟩

/-- Whether all requests of a journal have parameters that JSON can say. -/
def OnlyJson (s : LoopState) : Prop :=
  ∀ request ∈ s.journal.requests, (Value.map request.params).IsJson

/-- Behind what is remembered of presets with identifiers of their own, and of handlers that are blind to the order of
parameters, a call comes to what it would come to if nothing were remembered. -/
theorem itemsGiven_fst_eq {service : LoopService} (injective : Function.Injective service.digest) (own : service.OwnIds)
    (ids : service.HasEncodableIds) (blind : service.BlindToOrder) {s : LoopState} (accounted : service.Accounted s)
    (only : OnlyJson s) {call : LoopCall} (json : call.IsJson) :
    (service.itemsGiven call.name call.params s).1 = service.unremembered call := by
  unfold unremembered
  cases meant : service.preset? call.name with
  | none => rw [service.itemsGiven_of_none meant]
  | some preset =>
    obtain ⟨params, given, json⟩ := exists_of_isJson json
    obtain ⟨text, written⟩ := exists_requestText (ids.of_meant meant) json
    rw [service.itemsGiven_of_preset meant, given]
    dsimp only
    rw [written]
    dsimp only
    rw [service.itemsUnder_fst]
    refine congrArg Except.ok ?_
    cases known : (s.cache.find (service.digest text)).1 with
    | none => rfl
    | some items =>
      obtain ⟨request, there, ⟨text', written', same⟩, rfl⟩ := accounted.known _ items known
      obtain rfl := injective same
      obtain ⟨serves, -⟩ := accounted.served request there
      -- One key means one preset, and parameters that the handler cannot tell apart.
      obtain ⟨sameId, rearranged⟩ := (requestText_inj_of_isJson (only request there) json written' written).mp rfl
      have hpreset : request.preset = preset := own.eq_of_id_eq serves ⟨_, meant⟩ sameId
      show service.found request.preset request.params = service.found preset params
      rw [hpreset]
      exact blind preset request.params params ⟨_, meant⟩ (only request there) rearranged

/-- A call with JSON parameters asks for nothing else. -/
theorem onlyJson_itemsGiven {service : LoopService} {s : LoopState} (only : OnlyJson s) {call : LoopCall}
    (json : call.IsJson) : OnlyJson (service.itemsGiven call.name call.params s).2 := by
  cases meant : service.preset? call.name with
  | none =>
    rw [service.itemsGiven_of_none meant]
    exact only
  | some preset =>
    obtain ⟨params, given, json⟩ := exists_of_isJson json
    rw [service.itemsGiven_of_preset meant, given]
    dsimp only
    cases requestText preset.id params with
    | error f => exact only
    | ok text =>
      show ∀ request ∈ (service.itemsUnder _ preset params s).2.journal.requests, _
      rcases service.itemsUnder_cases (service.digest text) preset params s with
        ⟨-, hrequests, -⟩ | ⟨-, -, hrequests, -⟩
      · rw [hrequests]
        exact only
      · rw [hrequests]
        intro request there
        rcases List.mem_append.mp there with earlier | last
        · exact only request earlier
        · obtain rfl := List.mem_singleton.mp last
          exact json

/-- Calls with JSON parameters come to what they come to without a cache: an induction on them. -/
theorem itemsOfCalls_fst_eq {service : LoopService} (injective : Function.Injective service.digest)
    (own : service.OwnIds) (ids : service.HasEncodableIds) (blind : service.BlindToOrder) {s : LoopState}
    (accounted : service.Accounted s) (only : OnlyJson s) {calls : List LoopCall}
    (json : ∀ call ∈ calls, call.IsJson) :
    (service.itemsOfCalls calls s).1 = calls.map service.unremembered ∧ OnlyJson (service.itemsOfCalls calls s).2 := by
  induction calls generalizing s with
  | nil => exact ⟨rfl, only⟩
  | cons call calls ih =>
    have hcall := json call List.mem_cons_self
    obtain ⟨hmore, honly⟩ := ih (accounted.itemsGiven call.name call.params) (onlyJson_itemsGiven only hcall)
      fun other there => json other (List.mem_cons_of_mem _ there)
    refine ⟨?_, honly⟩
    rw [List.map_cons, ← hmore, ← itemsGiven_fst_eq injective own ids blind accounted only hcall]
    rfl

/-- The handlers that extend a service find lists, unless they fail. -/
def FindsLists (service : LoopService) : Prop :=
  ∀ entry ∈ service.handlers, ∀ run, entry.2 = .custom run → ∀ preset params v, run preset params = .ok v →
    ∃ items, v = .list items

/-- So do the handlers of the library. -/
theorem FindsLists.exists_list {service : LoopService} (lists : service.FindsLists) (preset : LoopPreset)
    (params : Entries) : ∃ items, service.found preset params = .list items := by
  unfold found
  cases there : service.handlers.lookup preset.type with
  | none => exact ⟨[], rfl⟩
  | some handler =>
    have hown := lists (preset.type, handler) (mem_of_lookup_eq_some there)
    cases handler with
    | custom run =>
      dsimp only [LoopHandler.run]
      cases outcome : run preset params with
      | error f => exact ⟨[], rfl⟩
      | ok v => exact hown run rfl preset params v outcome
    | data =>
      dsimp only [LoopHandler.run]
      cases configuredItems preset params with
      | error f => exact ⟨[], rfl⟩
      | ok items => exact ⟨items, rfl⟩
    | query kind =>
      dsimp only [LoopHandler.run]
      cases queryOf kind preset params with
      | error f => exact ⟨[], rfl⟩
      | ok asked =>
        cases service.backend with
        | none => exact ⟨[], rfl⟩
        | some backend =>
          dsimp only
          cases backend asked with
          | error f => exact ⟨[], rfl⟩
          | ok answer => exact ⟨itemsOf answer, rfl⟩

/-- Remembering goes unnoticed. Let presets be given as mappings, under identifiers without surrogates, and handlers be
blind to the order of parameters. Then calls with parameters that JSON can say, one after another, all come to what they
would come to if nothing were remembered; and if handlers find lists, none is asked twice about one identifier and
parameters that are rearranged. -/
theorem itemsOfCalls_eq {service : LoopService} {registry : Entries} (built : presetsOf registry = .ok service.presets)
    (mappings : ∀ entry ∈ registry, ∃ entries, entry.2 = .map entries) (injective : Function.Injective service.digest)
    (ids : service.HasEncodableIds) (blind : service.BlindToOrder) {calls : List LoopCall} (json : ∀ call ∈ calls, call.IsJson) :
    (service.itemsOfCalls calls .start).1 = calls.map service.unremembered ∧
      ((∀ preset params, service.Serves preset → ∃ items, service.found preset params = .list items) →
        (service.itemsOfCalls calls .start).2.journal.requests.Pairwise fun first second =>
          ¬(first.preset.id = second.preset.id ∧ (Value.map first.params).Rearranged (.map second.params))) := by
  have own := ownIds_of_presetsOf built mappings
  have accounted := (accounted_start service).itemsOfCalls calls
  obtain ⟨houtcomes, only⟩ := itemsOfCalls_fst_eq injective own ids blind (accounted_start service)
    (List.forall_mem_nil _) json
  refine ⟨houtcomes, fun lists => ?_⟩
  refine accounted.once.imp_of_mem fun {first second} there there' once ⟨sameId, rearranged⟩ => ?_
  have encodable (request : LoopRequest) (there : request ∈ (service.itemsOfCalls calls .start).2.journal.requests) :
      Text.isEncodable request.preset.id = true := by
    obtain ⟨⟨name, meant⟩, -⟩ := accounted.served request there
    exact ids.of_meant meant
  obtain ⟨text, written⟩ := exists_requestText (encodable first there) (only first there)
  obtain ⟨text', written'⟩ := exists_requestText (encodable second there') (only second there')
  have same : text = text' :=
    (requestText_inj_of_isJson (only first there) (only second there') written written').mpr ⟨sameId, rearranged⟩
  have null := once (service.digest text) ⟨text, written, rfl⟩ ⟨text', written', congrArg service.digest same.symm⟩
  obtain ⟨items, found⟩ := lists first.preset first.params (accounted.served first there).1
  cases found.symm.trans null

/-- How many parameters there are, as the single item; a failure if there are none. -/
def countParams (_ : LoopPreset) (params : Entries) : Except Failure Value :=
  if params.isEmpty then .error .wrongType else .ok (.list [.int params.length])

/-- A service of a single preset whose handler counts parameters. -/
def countedPosts : LoopService where
  presets := [("posts", ⟨"posts", .structuredData, [], "recentPosts", ""⟩)]
  handlers := [(.structuredData, .custom countParams)]
  backend := none
  digest := id

/-- What the handler finds depends on the number of parameters only. -/
theorem found_countedPosts (preset : LoopPreset) (params : Entries) : countedPosts.found preset params =
    if preset.type = .structuredData ∧ params.length ≠ 0 then .list [.int params.length] else .list [] := by
  unfold found
  cases htype : preset.type with
  | structuredData =>
    cases params with
    | nil => rfl
    | cons entry params => rfl
  | _ => rfl

/-- The counting handler takes no notice of the order. -/
theorem blindToOrder_countedPosts : countedPosts.BlindToOrder := by
  intro preset params others _ _ rearranged
  obtain ⟨given, hgiven, between, perm, values⟩ := Value.Rearranged.of_map rearranged
  obtain rfl := Value.map.inj hgiven
  rw [found_countedPosts, found_countedPosts, perm.length_eq, values.length_eq]

/-- The preset asked for by its identifier, by its key with the parameters the other way round, and by a call in text
with none, where the handler fails; and a name that means nothing. -/
def countingCalls : List LoopCall :=
  [⟨.text "posts", .map [(.text "$a", .int 1), (.text "$b", .null)]⟩,
    ⟨.text "recentPosts", .map [(.text "$b", .null), (.text "$a", .int 1)]⟩,
    ⟨.text "posts($a: 1)", .null⟩, ⟨.text "pages", .null⟩]

/-- Calls of a preset by identifier, by key and for an unknown name come to what they come to without a cache, and the
handler is asked once for each count. -/
theorem itemsOfCalls_countedPosts :
    (countedPosts.itemsOfCalls countingCalls .start).1 =
        [.ok (.list [.int 2]), .ok (.list [.int 2]), .ok (.list []), .ok (.list [])] ∧
      (countedPosts.itemsOfCalls countingCalls .start).2.journal.requests.Pairwise fun first second =>
        ¬(first.preset.id = second.preset.id ∧ (Value.map first.params).Rearranged (.map second.params)) := by
  have hbuilt : presetsOf [(.text "posts", .map [(.text "key", .text "recentPosts")])] = .ok countedPosts.presets := by
    cbv
  have hjson : ∀ call ∈ countingCalls, call.IsJson := by
    simp [countingCalls, LoopCall.IsJson, Value.IsJsonIn, Value.AreJsonEntriesIn]
    decide
  have hids : countedPosts.HasEncodableIds := List.forall_mem_singleton.mpr (by decide)
  obtain ⟨houtcomes, once⟩ :=
    itemsOfCalls_eq hbuilt (by simp) (fun _ _ same => same) hids blindToOrder_countedPosts hjson
  refine ⟨?_, once fun preset params _ => ?_⟩
  · rw [houtcomes]
    have hmeant {name : String} (known : countedPosts.idOf? (.text name) = some "posts") :
        countedPosts.preset? (.text name) = some ⟨"posts", .structuredData, [], "recentPosts", ""⟩ := by
      rw [preset?, known]
      rfl
    have hposts := hmeant (show countedPosts.idOf? (.text "posts") = some "posts" by decide)
    have hkey := hmeant (show countedPosts.idOf? (.text "recentPosts") = some "posts" by decide)
    have hcall := hmeant (show countedPosts.idOf? (.text "posts($a: 1)") = some "posts" by decide)
    have hnone : countedPosts.preset? (.text "pages") = none := by
      rw [preset?, show countedPosts.idOf? (.text "pages") = none by decide]
      rfl
    simp [countingCalls, unremembered, hposts, hkey, hcall, hnone, found_countedPosts, Value.toEntriesOrNone,
      Value.toEntries, Value.isTruthy]
  · rw [found_countedPosts]
    split
    · exact ⟨_, rfl⟩
    · exact ⟨_, rfl⟩

/-! ## Two surrogates and their character -/

/-- How many characters a text has; other values have none. -/
def charactersOf : Value → Nat
  | .text s => s.length
  | _ => 0

/-- Rearranged values have as many characters. -/
theorem charactersOf_eq_of_rearranged {v w : Value} (same : v.Rearranged w) : charactersOf v = charactersOf w := by
  induction same with
  | refl v => rfl
  | trans _ _ first second => exact first.trans second
  | perm | item | entry => rfl

/-- How many characters all parameters have together, as the single item. -/
def countCharacters (_ : LoopPreset) (params : Entries) : Except Failure Value :=
  .ok (.list [.int (params.map fun param => charactersOf param.2).sum])

/-- A preset that says nothing of its items. -/
def plainPost : LoopPreset :=
  ⟨"posts", .structuredData, [], "", ""⟩

/-- A service of a single preset whose handler counts characters. -/
def countedCharacters : LoopService where
  presets := [("posts", plainPost)]
  handlers := [(.structuredData, .custom countCharacters)]
  backend := none
  digest := id

/-- The items found count the characters of all parameters. -/
theorem found_countedCharacters (preset : LoopPreset) (params : Entries) : countedCharacters.found preset params =
    if preset.type = .structuredData then .list [.int (params.map fun param => charactersOf param.2).sum]
    else .list [] := by
  unfold found
  cases htype : preset.type <;> rfl

/-- Rearranged parameters have the same characters one by one. -/
theorem map_charactersOf_eq {params others : Entries} (each : List.Forall₂ Value.RearrangedEntry params others) :
    params.map (fun param => charactersOf param.2) = others.map fun param => charactersOf param.2 := by
  induction each with
  | nil => rfl
  | cons first _ ih => exact congrArg₂ (· :: ·) (charactersOf_eq_of_rearranged first.2) ih

/-- The handler that counts characters takes no notice of the order. -/
theorem blindToOrder_countedCharacters : countedCharacters.BlindToOrder := by
  intro preset params others _ _ rearranged
  obtain ⟨given, hgiven, between, perm, values⟩ := Value.Rearranged.of_map rearranged
  obtain rfl := Value.map.inj hgiven
  rw [found_countedCharacters, found_countedCharacters, (perm.map _).sum_eq, map_charactersOf_eq values]

/-- The two surrogates of a pair, one behind the other, and the character of the pair. -/
def surrogates : String := String.ofList [Text.ofCodePoint 0xd83d, Text.ofCodePoint 0xde00]

def grin : String := String.ofList [Text.ofCodePoint 0x1f600]

/-- Surrogates that are written by code are written like the character that they are as a pair, so the second call
comes to the items of the first, though the handler would find others. -/
theorem itemsOfCalls_surrogates_ne :
    presetsOf [(.text "posts", .map [])] = .ok countedCharacters.presets ∧
      Function.Injective countedCharacters.digest ∧ countedCharacters.HasEncodableIds ∧
      countedCharacters.BlindToOrder ∧
      (Value.map [(.text "$a", .text surrogates)]).IsJsonIn false ∧ surrogates ≠ grin ∧
      (countedCharacters.itemsOfCalls
        [⟨.text "posts", .map [(.text "$a", .text surrogates)]⟩, ⟨.text "posts", .map [(.text "$a", .text grin)]⟩]
        .start).1 = [.ok (.list [.int 2]), .ok (.list [.int 2])] ∧
      countedCharacters.unremembered ⟨.text "posts", .map [(.text "$a", .text grin)]⟩ = .ok (.list [.int 1]) := by
  have meant : countedCharacters.preset? (.text "posts") = some plainPost := by
    rw [preset?, show countedCharacters.idOf? (.text "posts") = some "posts" by decide]
    rfl
  have written : requestText plainPost.id [(.text "$a", .text surrogates)] =
      .ok "posts\x00\x7b\"$a\": \"\\ud83d\\ude00\"\x7d" := by cbv
  have written' : requestText plainPost.id [(.text "$a", .text grin)] =
      .ok "posts\x00\x7b\"$a\": \"\\ud83d\\ude00\"\x7d" := by cbv
  have found : countedCharacters.found plainPost [(.text "$a", .text surrogates)] = .list [.int 2] := by cbv
  have pair := itemsOfCalls_pair meant meant rfl written' written (by simp [found])
  rw [found] at pair
  refine ⟨by cbv, fun _ _ same => same, List.forall_mem_singleton.mpr (by decide), blindToOrder_countedCharacters, ?_,
    by decide, pair, ?_⟩
  · simp [Value.IsJsonIn, Value.AreJsonEntriesIn]
  · unfold unremembered
    rw [meant]
    cbv

end LoopService

end DynamicBlocks
