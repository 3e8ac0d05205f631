import DynamicBlocks.Pattern.Cache
import DynamicBlocks.Proofs.Requests
import DynamicBlocks.Render.Session

/-!
# What a request comes to

A request for items is answered from the cache or by a handler. Taken together these are one function from
requests to answers, and a state of the cache is as good as another if the function is the same. Provided that
requests which share a key of the cache find the same items, no request changes this function: not even one that
fails, or one whose items are kept under the key of another request.

Patterns are simpler, for what a loader says of a reference is all there is to remember of it.

What a render has learned is both together. Memories answer alike as long as they do so in either respect
(`Memory.AnswerAlike`).
-/

set_option autoImplicit false

namespace DynamicBlocks

namespace LoopCache

/-- Under another key a cache holds what it held before items were set. -/
theorem find_set_of_ne (cache : LoopCache) {key other : String} (items : Value) (h : other ≠ key) :
    ((cache.set key items).find other).1 = (cache.find other).1 := by
  have lookup : (cache.set key items).entries.lookup other = cache.entries.lookup other := by
    unfold set
    dsimp only
    split
    · generalize cache.entries = entries
      induction entries with
      | nil => rfl
      | cons entry entries ih =>
        obtain ⟨name, old⟩ := entry
        by_cases same : name = key
        · simp [same, List.lookup_cons, beq_false_of_ne h, ih]
        · simp [same, List.lookup_cons, ih]
    · rw [List.lookup_append]
      simp [List.lookup_cons, beq_false_of_ne h]
  unfold find
  rw [lookup]
  split <;> rfl

/-- Under its key a cache holds what was set, unless that is null. -/
theorem find_set_self (cache : LoopCache) (key : String) (items : Value) :
    ((cache.set key items).find key).1 = (some items).filter fun items => !items.isNull := by
  unfold find
  rw [lookup_set]
  split
  · rename_i there
    rw [there]
  · rename_i there
    rw [there]

/-- Counting a lookup changes nothing of what a cache holds. -/
theorem find_find (cache : LoopCache) (key other : String) :
    ((cache.find key).2.find other).1 = (cache.find other).1 := by
  have entries : (cache.find key).2.entries = cache.entries := by
    unfold find
    split <;> rfl
  unfold find at entries ⊢
  rw [entries]
  split <;> rfl

end LoopCache

namespace LoopService

/-- What the handler of a preset finds, as if nothing were remembered: no items without a handler or where it
fails. -/
def found (service : LoopService) (preset : LoopPreset) (params : Entries) : Value :=
  match service.handlers.lookup preset.type with
  | none => .list []
  | some handler =>
    match (handler.run service.backend preset params).1 with
    | .ok items => items
    | .error _ => .list []

/-- What a request comes to: what the cache holds for it, or else what is found. -/
def answer (service : LoopService) (cache : LoopCache) (preset : LoopPreset) (params : Entries) :
    Except Failure Value := do
  let text ← requestText preset.id params
  pure ((cache.find (service.digest text)).1.getD (service.found preset params))

/-- Whether some name means a preset. -/
def Serves (service : LoopService) (preset : LoopPreset) : Prop :=
  ∃ name, service.preset? name = some preset

/-- Requests that share a key of the cache find the same items. -/
def Coherent (service : LoopService) : Prop :=
  ∀ (preset other : LoopPreset) (params others : Entries) (text text' : String),
    service.Serves preset → service.Serves other →
    requestText preset.id params = .ok text → requestText other.id others = .ok text' →
    service.digest text = service.digest text' → service.found preset params = service.found other others

/-- Two states in which every request comes to the same. -/
def SameAnswers (service : LoopService) (s t : LoopState) : Prop :=
  ∀ preset params, service.Serves preset → service.answer s.cache preset params = service.answer t.cache preset params

/-- A handler that is asked finds what it finds. -/
theorem ask_fst (service : LoopService) (preset : LoopPreset) (params : Entries) {handler : LoopHandler}
    (there : service.handlers.lookup preset.type = some handler) (s : LoopState) :
    (service.ask handler preset params s).1 = service.found preset params := by
  unfold ask found
  rw [there]
  dsimp only
  rcases handler.run service.backend preset params with ⟨outcome, query⟩
  cases outcome <;> rfl

/-- Asking a handler leaves the cache alone. -/
theorem ask_cache (service : LoopService) (handler : LoopHandler) (preset : LoopPreset) (params : Entries)
    (s : LoopState) : (service.ask handler preset params s).2.cache = s.cache := by
  unfold ask
  rcases handler.run service.backend preset params with ⟨outcome, query⟩
  cases outcome <;> rfl

/-- Items come from the cache, or else they are what is found. -/
theorem itemsUnder_fst (service : LoopService) (key : String) (preset : LoopPreset) (params : Entries)
    (s : LoopState) :
    (service.itemsUnder key preset params s).1 = (s.cache.find key).1.getD (service.found preset params) := by
  unfold itemsUnder
  cases known : (s.cache.find key).1 with
  | some items => simp only [known, Option.getD_some]
  | none =>
    cases there : service.handlers.lookup preset.type with
    | none => simp only [known, there, Option.getD_none, found]
    | some handler =>
      simp only [known, Option.getD_none]
      exact service.ask_fst preset params there _

/-- After a request the cache holds what it held, or, under the key of the request, what was found for it where
there was nothing before. -/
theorem find_itemsUnder (service : LoopService) (key other : String) (preset : LoopPreset) (params : Entries)
    (s : LoopState) :
    let after := (service.itemsUnder key preset params s).2.cache
    (after.find other).1 = (s.cache.find other).1 ∨
      other = key ∧ (s.cache.find key).1 = none ∧
        (after.find key).1 = (some (service.found preset params)).filter fun items => !items.isNull := by
  unfold itemsUnder
  cases known : (s.cache.find key).1 with
  | some items =>
    left
    simp only [known]
    exact s.cache.find_find key other
  | none =>
    cases there : service.handlers.lookup preset.type with
    | none =>
      left
      simp only [known]
      exact s.cache.find_find key other
    | some handler =>
      simp only [known]
      rw [service.ask_cache, service.ask_fst preset params there]
      by_cases same : other = key
      · right
        exact ⟨same, trivial, LoopCache.find_set_self _ key _⟩
      · left
        rw [LoopCache.find_set_of_ne _ _ same]
        exact s.cache.find_find key other

/-- The outcome of a request can be told before it is made. -/
theorem items_fst (service : LoopService) (name : Value) (params : Entries) (s : LoopState) :
    (service.items name params s).1 =
      match service.preset? name with
      | none => .ok (.list [])
      | some preset => service.answer s.cache preset params := by
  unfold items answer
  cases service.preset? name with
  | none => rfl
  | some preset =>
    dsimp only
    cases requestText preset.id params with
    | error f => rfl
    | ok text => exact congrArg Except.ok (service.itemsUnder_fst _ preset params s)

/-- What is remembered of requests decides what a request comes to and what is remembered then; the journal has no
part in it. -/
theorem items_of_cache (service : LoopService) (name : Value) (params : Entries) {s t : LoopState}
    (same : s.cache = t.cache) :
    (service.items name params s).1 = (service.items name params t).1 ∧
      (service.items name params s).2.cache = (service.items name params t).2.cache := by
  constructor
  · rw [service.items_fst, service.items_fst, same]
  · unfold items
    cases service.preset? name with
    | none => exact same
    | some preset =>
      dsimp only
      cases requestText preset.id params with
      | error f => exact same
      | ok text =>
        dsimp only
        unfold itemsUnder
        rw [same]
        cases known : (t.cache.find (service.digest text)).1 with
        | some items => simp only [known]
        | none =>
          cases there : service.handlers.lookup preset.type with
          | none =>
            simp only [known]
            rfl
          | some handler =>
            simp only [known]
            rw [service.ask_cache, service.ask_cache, service.ask_fst preset params there,
              service.ask_fst preset params there]

/-- No request changes what any request comes to. -/
theorem sameAnswers_items {service : LoopService} (coherent : service.Coherent) (name : Value) (params : Entries)
    (s : LoopState) : service.SameAnswers s (service.items name params s).2 := by
  intro other others served
  unfold items
  cases meant : service.preset? name with
  | none => rfl
  | some preset =>
    dsimp only
    cases written : requestText preset.id params with
    | error f => rfl
    | ok text =>
      dsimp only
      unfold answer
      cases written' : requestText other.id others with
      | error f => rfl
      | ok text' =>
        refine congrArg Except.ok ?_
        rcases service.find_itemsUnder (service.digest text) (service.digest text') preset params s with
          same | ⟨shared, nothing, set⟩
        · rw [same]
        · -- Both requests share the key, so what is remembered for one is what would be found for the other.
          have alike := coherent preset other params others text text' ⟨name, meant⟩ served written written' shared.symm
          rw [shared, nothing, set, alike]
          cases null : (service.found other others).isNull with
          | true => simp [Option.filter, null]
          | false => simp [Option.filter, null]

/-- From states in which every request comes to the same, a request comes to the same and leaves such states
behind. -/
theorem SameAnswers.items {service : LoopService} (coherent : service.Coherent) {s t : LoopState}
    (same : service.SameAnswers s t) (name : Value) (params : Entries) :
    (service.items name params s).1 = (service.items name params t).1 ∧
      service.SameAnswers (service.items name params s).2 (service.items name params t).2 := by
  constructor
  · rw [service.items_fst, service.items_fst]
    cases meant : service.preset? name with
    | none => rfl
    | some preset => exact same preset params ⟨name, meant⟩
  · intro preset given served
    rw [← sameAnswers_items coherent name params s preset given served,
      ← sameAnswers_items coherent name params t preset given served]
    exact same preset given served

/-- Whatever asks for items leaves all answers as they were. -/
theorem sameAnswers_asking {service : LoopService} (coherent : service.Coherent) {α : Type}
    {p : Failure → Prop} {action : LoopM α} (asking : Asking service p action) (s : LoopState) :
    service.SameAnswers s (action s).2 :=
  asking.keeps (service.SameAnswers s)
    (fun name params t kept preset given served =>
      (kept preset given served).trans (sameAnswers_items coherent name params t preset given served))
    s fun _ _ _ => rfl

/-- Requests find the same items if there is one preset only and it does not look at parameters. -/
theorem coherent_of_single {service : LoopService} {id : String} {preset : LoopPreset} {items : Value}
    (single : service.presets = [(id, preset)]) (constant : ∀ params, service.found preset params = items) :
    service.Coherent := by
  have only (other : LoopPreset) (served : service.Serves other) : other = preset := by
    obtain ⟨name, meant⟩ := served
    unfold preset? at meant
    rw [single, Option.bind_eq_some_iff] at meant
    obtain ⟨known, _, there⟩ := meant
    rw [List.lookup_cons] at there
    split at there
    · exact (Option.some.inj there).symm
    · cases there
  intro first second params others text text' served served' _ _ _
  rw [only first served, only second served', constant, constant]

end LoopService

namespace PatternCache

/-- All that a cache remembers of references is what a loader says. -/
def Faithful (cache : PatternCache) (loader : Option PatternLoader) : Prop :=
  ∀ ref known, cache.entries.lookup ref = some known → load loader ref = .ok known

variable {cache : PatternCache} {loader : Option PatternLoader}

/-- A cache that knows nothing remembers nothing wrong. -/
theorem faithful_empty (loader : Option PatternLoader) : empty.Faithful loader :=
  fun _ _ impossible => nomatch impossible

/-- Faithful caches all have the same answers. -/
theorem Faithful.get_fst (h : cache.Faithful loader) (ref : Value) :
    (cache.get loader ref).1 = if asksNothing ref then .ok none else load loader ref.plain := by
  unfold get
  split
  · rfl
  · unfold find
    split
    · rename_i known there
      exact (h ref.plain known there).symm
    · cases load loader ref.plain <;> rfl

/-- A faithful cache remembers only what the loader says of the next reference, too. -/
theorem Faithful.get_snd (h : cache.Faithful loader) (ref : Value) : (cache.get loader ref).2.Faithful loader := by
  unfold get
  split
  · exact h
  · unfold find
    split
    · exact h
    · cases loaded : load loader ref.plain with
      | error f => exact h
      | ok pattern =>
        intro other known there
        have there : (cache.entries ++ [(ref.plain, pattern)]).lookup other = some known := there
        rw [List.lookup_append, Option.or_eq_some_iff] at there
        rcases there with there | ⟨_, there⟩
        · exact h other known there
        · rw [List.lookup_cons] at there
          split at there
          · rename_i same
            rw [beq_iff_eq.mp same, loaded, Option.some.inj there]
          · cases there

end PatternCache

/-- A relation between memories that have the same answers, and go on having them. It does not look at notes. -/
structure Memory.AnswerAlike (env : Environment) (memory : Memory → Memory → Prop) : Prop where
  warn : ∀ {m n : Memory} (warning : String), memory m n → memory (m.warn warning) (n.warn warning)
  note : ∀ {m n : Memory} (slot slot' : RepeatedSlot), memory m n → memory (m.note slot) (n.note slot')
  pattern : ∀ {m n : Memory} (ref : Value), memory m n →
    (m.patterns.get env.loader ref).1 = (n.patterns.get env.loader ref).1 ∧
      memory { m with patterns := (m.patterns.get env.loader ref).2 }
        { n with patterns := (n.patterns.get env.loader ref).2 }
  items : ∀ {m n : Memory} (name : Value) (params : Entries), memory m n →
    (env.engine.loops.items name params m.loops).1 = (env.engine.loops.items name params n.loops).1 ∧
      memory { m with loops := (env.engine.loops.items name params m.loops).2 }
        { n with loops := (env.engine.loops.items name params n.loops).2 }

/-- A memory that knows of patterns what the loader says, and of items what was known at the start. -/
def Memory.Steady (m : Memory) (env : Environment) (start : LoopState) : Prop :=
  m.patterns.Faithful env.loader ∧ env.engine.loops.SameAnswers start m.loops

/-- Memories that know the same as at the start answer alike, unless requests are confused. -/
theorem Memory.answerAlike_steady {env : Environment} (coherent : env.engine.loops.Coherent) (start : LoopState) :
    AnswerAlike env fun m n => m.Steady env start ∧ n.Steady env start where
  warn _ remembered := remembered
  note _ _ remembered := remembered
  pattern ref := by
    rintro ⟨⟨faithful, answers⟩, ⟨faithful', answers'⟩⟩
    exact ⟨(faithful.get_fst ref).trans (faithful'.get_fst ref).symm, ⟨faithful.get_snd ref, answers⟩,
      ⟨faithful'.get_snd ref, answers'⟩⟩
  items {m n} name params := by
    rintro ⟨⟨faithful, answers⟩, ⟨faithful', answers'⟩⟩
    have alike : env.engine.loops.SameAnswers m.loops n.loops := fun preset given served =>
      (answers preset given served).symm.trans (answers' preset given served)
    refine ⟨(alike.items coherent name params).1, ⟨faithful, ?_⟩, ⟨faithful', ?_⟩⟩
    · exact fun preset given served => (answers preset given served).trans
        (LoopService.sameAnswers_items coherent name params m.loops preset given served)
    · exact fun preset given served => (answers' preset given served).trans
        (LoopService.sameAnswers_items coherent name params n.loops preset given served)

/-- Memories that know the same items answer alike. -/
theorem Memory.answerAlike_cache (env : Environment) :
    AnswerAlike env fun m n =>
      m.patterns.Faithful env.loader ∧ n.patterns.Faithful env.loader ∧ m.loops.cache = n.loops.cache where
  warn _ remembered := remembered
  note _ _ remembered := remembered
  pattern ref := by
    rintro ⟨faithful, faithful', loops⟩
    exact ⟨(faithful.get_fst ref).trans (faithful'.get_fst ref).symm, faithful.get_snd ref, faithful'.get_snd ref,
      loops⟩
  items name params := by
    rintro ⟨faithful, faithful', loops⟩
    obtain ⟨same, learned⟩ := env.engine.loops.items_of_cache name params loops
    exact ⟨same, faithful, faithful', learned⟩

end DynamicBlocks
