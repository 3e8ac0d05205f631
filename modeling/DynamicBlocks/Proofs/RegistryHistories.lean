import DynamicBlocks.Proofs.Previews

/-!
# Registries and what was done to them

A registry answers for its whole history. A key is in it if it was registered and has neither been taken back nor
cleared away since, and it has the value of its latest registration. Keys that move to the end stand in the order of
these registrations; keys that keep their place stand in the order in which they came in, which is the first
registration since they were last absent. Both orders are read off the calls by their places (`LatestAt`,
`PresentSince`), and one more call is looked at once for each side: what it does to the registry
(`Registry.step_cases`), and what it does to the places (`latestAt_concat`, `presentSince_concat`).
-/

set_option autoImplicit false

namespace DynamicBlocks

open Text

/-- What is done to a registry. -/
inductive RegistryCall where
  | enqueue (key value : Value)
  | dequeue (key : Value)
  | clear

namespace RegistryCall

/-- The registry that a call leads to. -/
def run (registry : Registry) : RegistryCall → Except Failure Registry
  | .enqueue key value => registry.enqueue key value
  | .dequeue key => registry.dequeue key
  | .clear => .ok registry.clear

/-- Whether a call registers a value under a key. -/
def Registers (call : RegistryCall) (key : String) (value : Value) : Prop :=
  call = .enqueue (.text key) value ∧ isBlankText key = false

/-- Whether no registration of a key outlasts a call. -/
def Drops (call : RegistryCall) (key : String) : Prop :=
  call = .dequeue (.text key) ∨ call = .clear

/-- Whether what was registered under a key before a call is replaced or gone behind it. -/
def Ends (call : RegistryCall) (key : String) : Prop :=
  (∃ value, call.Registers key value) ∨ call.Drops key

section

variable {call : RegistryCall} {key other : String} {value v : Value}

/-- A call that registers a value registers this one only. -/
theorem Registers.registers_iff (registers : call.Registers key value) :
    call.Registers other v ↔ other = key ∧ v = value := by
  obtain ⟨rfl, filled⟩ := registers
  constructor
  · rintro ⟨same, -⟩
    cases same
    exact ⟨rfl, rfl⟩
  · rintro ⟨rfl, rfl⟩
    exact ⟨rfl, filled⟩

/-- A call that registers does not drop anything. -/
theorem Registers.not_drops (registers : call.Registers key value) : ¬call.Drops other := by
  obtain ⟨rfl, -⟩ := registers
  rintro (dropped | cleared)
  · cases dropped
  · cases cleared

/-- A registration ends what its own key had, and no more. -/
theorem Registers.ends_iff (registers : call.Registers key value) : call.Ends other ↔ other = key := by
  unfold Ends
  rw [or_iff_left registers.not_drops]
  constructor
  · rintro ⟨v, registers'⟩
    exact (registers.registers_iff.mp registers').1
  · rintro rfl
    exact ⟨value, registers⟩

/-- Taking a key back ends what it had, and no more. -/
theorem ends_dequeue_iff : (dequeue (.text key)).Ends other ↔ other = key := by
  constructor
  · rintro (⟨v, registers⟩ | dropped | cleared)
    · cases registers.1
    · cases dropped
      rfl
    · cases cleared
  · rintro rfl
    exact .inr (.inl rfl)

end

end RegistryCall

/-- The registry behind one more call; a call that fails leaves it as it was. -/
def Registry.step (registry : Registry) (call : RegistryCall) : Registry :=
  match call.run registry with
  | .ok after => after
  | .error _ => registry

/-- The registry behind a run of calls. -/
def Registry.after (registry : Registry) (calls : List RegistryCall) : Registry :=
  calls.foldl step registry

/-- Whether a place in the calls has the latest registration of a key, with its value, and the key is still there. -/
def LatestAt (calls : List RegistryCall) (key : String) (value : Value) (place : Nat) : Prop :=
  ∃ call, calls[place]? = some call ∧ call.Registers key value ∧ ∀ later ∈ calls.drop (place + 1), ¬later.Ends key

/-- Whether a key is there at the end of the calls. -/
def IsPresent (calls : List RegistryCall) (key : String) : Prop :=
  ∃ value place, LatestAt calls key value place

/-- Whether a place in the calls has the first registration of a key since it was last absent, and the key is still
there. -/
def PresentSince (calls : List RegistryCall) (key : String) (place : Nat) : Prop :=
  ∃ call value, calls[place]? = some call ∧ call.Registers key value ∧ ¬IsPresent (calls.take place) key ∧
    ∀ later ∈ calls.drop (place + 1), ¬later.Drops key

/-! ## One more call for the places -/

section Concat

variable {calls : List RegistryCall} {call : RegistryCall} {key : String} {value : Value} {place : Nat}

/-- A latest registration is one of the calls. -/
theorem LatestAt.lt_length (latest : LatestAt calls key value place) : place < calls.length := by
  obtain ⟨call, there, -⟩ := latest
  exact (List.getElem?_eq_some_iff.mp there).1

/-- A registration that stayed is one of the calls. -/
theorem PresentSince.lt_length (since : PresentSince calls key place) : place < calls.length := by
  obtain ⟨call, value, there, -⟩ := since
  exact (List.getElem?_eq_some_iff.mp there).1

/-- A call followed by such calls only is the last one, or it was followed by such calls before and the last one is such
a call too. -/
theorem followed_concat {found : RegistryCall} {follows : RegistryCall → Prop} :
    (calls ++ [call])[place]? = some found ∧ (∀ later ∈ (calls ++ [call]).drop (place + 1), follows later) ↔
      (place = calls.length ∧ found = call) ∨
        (place < calls.length ∧ (calls[place]? = some found ∧ ∀ later ∈ calls.drop (place + 1), follows later) ∧
          follows call) := by
  constructor
  · rintro ⟨there, each⟩
    have bound : place < (calls ++ [call]).length := (List.getElem?_eq_some_iff.mp there).1
    rw [List.length_append, List.length_singleton] at bound
    rcases Nat.lt_or_eq_of_le (Nat.le_of_lt_succ bound) with before | rfl
    · rw [List.getElem?_append_left before] at there
      rw [List.drop_append_of_le_length before] at each
      obtain ⟨earlier, last⟩ := List.forall_mem_append.mp each
      exact .inr ⟨before, ⟨there, earlier⟩, last call (List.mem_singleton_self call)⟩
    · rw [List.getElem?_concat_length] at there
      exact .inl ⟨rfl, (Option.some.inj there).symm⟩
  · rintro (⟨rfl, rfl⟩ | ⟨before, ⟨there, earlier⟩, last⟩)
    · exact ⟨List.getElem?_concat_length, by simp⟩
    · rw [List.getElem?_append_left before, List.drop_append_of_le_length before]
      exact ⟨there, List.forall_mem_append.mpr ⟨earlier, List.forall_mem_singleton.mpr last⟩⟩

/-- The latest registration of a key is the last call, or it was the latest before and the last call does not end it. -/
theorem latestAt_concat :
    LatestAt (calls ++ [call]) key value place ↔
      (place = calls.length ∧ call.Registers key value) ∨ (LatestAt calls key value place ∧ ¬call.Ends key) := by
  constructor
  · rintro ⟨found, there, registers, kept⟩
    rcases followed_concat.mp ⟨there, kept⟩ with ⟨rfl, rfl⟩ | ⟨-, ⟨there, kept⟩, goes_on⟩
    · exact .inl ⟨rfl, registers⟩
    · exact .inr ⟨⟨found, there, registers, kept⟩, goes_on⟩
  · rintro (⟨rfl, registers⟩ | ⟨latest, goes_on⟩)
    · obtain ⟨there, kept⟩ := followed_concat.mpr (.inl ⟨rfl, rfl⟩)
      exact ⟨call, there, registers, kept⟩
    · have before := latest.lt_length
      obtain ⟨found, there, registers, kept⟩ := latest
      obtain ⟨there, kept⟩ := followed_concat.mpr (.inr ⟨before, ⟨there, kept⟩, goes_on⟩)
      exact ⟨found, there, registers, kept⟩

/-- A key is there since the last call if that registers it anew, and since an earlier one if the last call does not
drop it. -/
theorem presentSince_concat :
    PresentSince (calls ++ [call]) key place ↔
      (place = calls.length ∧ (∃ value, call.Registers key value) ∧ ¬IsPresent calls key) ∨
        (PresentSince calls key place ∧ ¬call.Drops key) := by
  constructor
  · rintro ⟨found, value, there, registers, absent, kept⟩
    rcases followed_concat.mp ⟨there, kept⟩ with ⟨rfl, rfl⟩ | ⟨before, ⟨there, kept⟩, goes_on⟩
    · rw [List.take_left] at absent
      exact .inl ⟨rfl, ⟨value, registers⟩, absent⟩
    · rw [List.take_append_of_le_length before.le] at absent
      exact .inr ⟨⟨found, value, there, registers, absent, kept⟩, goes_on⟩
  · rintro (⟨rfl, ⟨value, registers⟩, absent⟩ | ⟨since, goes_on⟩)
    · obtain ⟨there, kept⟩ := followed_concat.mpr (.inl ⟨rfl, rfl⟩)
      exact ⟨call, value, there, registers, by rwa [List.take_left], kept⟩
    · have before := since.lt_length
      obtain ⟨found, value, there, registers, absent, kept⟩ := since
      obtain ⟨there, kept⟩ := followed_concat.mpr (.inr ⟨before, ⟨there, kept⟩, goes_on⟩)
      exact ⟨found, value, there, registers, by rwa [List.take_append_of_le_length before.le], kept⟩

end Concat

/-- A key has one latest registration. -/
theorem LatestAt.place_unique {calls : List RegistryCall} {key : String} {value other : Value} {place place' : Nat}
    (latest : LatestAt calls key value place) (latest' : LatestAt calls key other place') : place = place' := by
  induction calls using List.reverseRecOn with
  | nil => exact absurd latest.lt_length (Nat.not_lt_zero _)
  | append_singleton calls call ih =>
    rcases latestAt_concat.mp latest with ⟨rfl, registers⟩ | ⟨latest, goes_on⟩ <;>
      rcases latestAt_concat.mp latest' with ⟨rfl, registers'⟩ | ⟨latest', goes_on'⟩
    · rfl
    · exact absurd (.inl ⟨value, registers⟩) goes_on'
    · exact absurd (.inl ⟨other, registers'⟩) goes_on
    · exact ih latest latest'

/-- A key that is there since some place is there. -/
theorem PresentSince.isPresent {calls : List RegistryCall} {key : String} {place : Nat}
    (since : PresentSince calls key place) : IsPresent calls key := by
  induction calls using List.reverseRecOn with
  | nil => exact absurd since.lt_length (Nat.not_lt_zero _)
  | append_singleton calls call ih =>
    rcases presentSince_concat.mp since with ⟨rfl, ⟨value, registers⟩, -⟩ | ⟨since, goes_on⟩
    · exact ⟨value, calls.length, latestAt_concat.mpr (.inl ⟨rfl, registers⟩)⟩
    · obtain ⟨value, place, latest⟩ := ih since
      by_cases ends : call.Ends key
      · obtain ⟨other, registers⟩ := ends.resolve_right goes_on
        exact ⟨other, calls.length, latestAt_concat.mpr (.inl ⟨rfl, registers⟩)⟩
      · exact ⟨value, place, latestAt_concat.mpr (.inr ⟨latest, ends⟩)⟩

/-- There is one place only since which a key has stayed. -/
theorem PresentSince.place_unique {calls : List RegistryCall} {key : String} {place place' : Nat}
    (since : PresentSince calls key place) (since' : PresentSince calls key place') : place = place' := by
  induction calls using List.reverseRecOn with
  | nil => exact absurd since.lt_length (Nat.not_lt_zero _)
  | append_singleton calls call ih =>
    rcases presentSince_concat.mp since with ⟨rfl, -, absent⟩ | ⟨since, -⟩ <;>
      rcases presentSince_concat.mp since' with ⟨rfl, -, absent'⟩ | ⟨since', -⟩
    · rfl
    · exact absurd since'.isPresent absent
    · exact absurd since.isPresent absent'
    · exact ih since since'

/-! ## One more call for the registry -/

namespace Registry

/-- The keys of a registry in order. -/
def keys (registry : Registry) : List String :=
  registry.sources.map Prod.fst

/-- All that a call can do: it registers a value, it takes a key back, it clears the registry, or it leaves the registry
as it is and ends nothing. -/
theorem step_cases (registry : Registry) (call : RegistryCall) :
    (∃ key value, call.Registers key value ∧ registry.step call = registry.register key value) ∨
      (∃ key, call = .dequeue (.text key) ∧
        registry.step call = { registry with sources := without registry.sources key }) ∨
      (call = .clear ∧ registry.step call = registry.clear) ∨
      ((∀ key, ¬call.Ends key) ∧ registry.step call = registry) := by
  cases call with
  | enqueue key value =>
    have untouched (idle : ∀ s, key = .text s → isBlankText s = true) (s : String) :
        ¬(RegistryCall.enqueue key value).Ends s := by
      rintro (⟨other, same, filled⟩ | dropped | cleared)
      · rw [idle s (RegistryCall.enqueue.inj same).1] at filled
        cases filled
      · cases dropped
      · cases cleared
    by_cases text : ∃ s, key = .text s
    · obtain ⟨s, rfl⟩ := text
      by_cases blank : isBlankText s = true
      · refine .inr (.inr (.inr ⟨untouched fun other same => Value.text.inj same ▸ blank, ?_⟩))
        exact if_pos blank
      · exact .inl ⟨s, value, ⟨rfl, Bool.eq_false_iff.mpr blank⟩, rfl⟩
    · refine .inr (.inr (.inr ⟨untouched fun other same => absurd ⟨other, same⟩ text, ?_⟩))
      unfold step RegistryCall.run enqueue
      cases key with
      | text s => exact absurd ⟨s, rfl⟩ text
      | null | bool | int | double | list | map | loop | date | moment | object | built =>
        dsimp only
        split
        · rename_i ran
          split at ran
          · cases ran
          · exact (Except.ok.inj ran).symm
        · rfl
  | dequeue key =>
    by_cases text : ∃ s, key = .text s
    · obtain ⟨s, rfl⟩ := text
      exact .inr (.inl ⟨s, rfl, rfl⟩)
    · refine .inr (.inr (.inr ⟨?_, ?_⟩))
      · rintro s (⟨other, same, -⟩ | dropped | cleared)
        · cases same
        · exact text ⟨s, RegistryCall.dequeue.inj dropped⟩
        · cases cleared
      · cases key with
        | text s => exact absurd ⟨s, rfl⟩ text
        | null | bool | int | double | list | map | loop | date | moment | object | built => rfl
  | clear => exact .inr (.inr (.inl ⟨rfl, rfl⟩))

section Sources

variable {sources : List (String × Value)} {registry : Registry} {call : RegistryCall} {key k : String} {value v : Value}

/-- A source is left without a key if it is there under another one. -/
theorem mem_without : (k, v) ∈ without sources key ↔ (k, v) ∈ sources ∧ k ≠ key := by
  simp [without]

/-- The keys left are all others, in their order. -/
theorem keys_without : (without sources key).map Prod.fst = (sources.map Prod.fst).filter (· != key) := by
  unfold without
  rw [List.filter_map]
  rfl

/-- A source is there with a value set if it is that one, or there under another key. -/
theorem mem_setInPlace : (k, v) ∈ setInPlace sources key value ↔ (k = key ∧ v = value) ∨ ((k, v) ∈ sources ∧ k ≠ key) := by
  unfold setInPlace
  split
  · rename_i there
    obtain ⟨source, among, same⟩ := List.any_eq_true.mp there
    constructor
    · intro replaced
      obtain ⟨other, among', same'⟩ := List.mem_map.mp replaced
      split at same'
      · exact .inl (Prod.mk.inj same'.symm)
      · rename_i differs
        subst same'
        exact .inr ⟨among', fun same => differs (by simp [same])⟩
    · rintro (⟨rfl, rfl⟩ | ⟨among', differs⟩)
      · exact List.mem_map.mpr ⟨source, among, if_pos same⟩
      · exact List.mem_map.mpr ⟨(k, v), among', if_neg (by simpa using differs)⟩
  · rename_i absent
    have others : (k, v) ∈ sources → k ≠ key := fun among same =>
      absent (List.any_eq_true.mpr ⟨(k, v), among, by simp [same]⟩)
    rw [List.mem_append, List.mem_singleton, Prod.mk.injEq, or_comm]
    exact or_congr_right ⟨fun among => ⟨among, others among⟩, And.left⟩

/-- The keys with a value set are the same, unless the key is new and put behind. -/
theorem keys_setInPlace :
    (setInPlace sources key value).map Prod.fst =
      if key ∈ sources.map Prod.fst then sources.map Prod.fst else sources.map Prod.fst ++ [key] := by
  have there : (sources.any fun source => source.1 == key) = true ↔ key ∈ sources.map Prod.fst := by
    simp
  unfold setInPlace
  by_cases among : key ∈ sources.map Prod.fst
  · rw [if_pos (there.mpr among), if_pos among, List.map_map]
    refine List.map_congr_left fun source _ => ?_
    by_cases same : source.1 = key <;> simp [same]
  · rw [if_neg (mt there.mp among), if_neg among, List.map_append]
    rfl

/-- A source is registered if it is the new one, or there under another key. -/
theorem mem_register (filled : isBlankText key = false) :
    (k, v) ∈ (registry.register key value).sources ↔
      (k = key ∧ v = value) ∨ ((k, v) ∈ registry.sources ∧ k ≠ key) := by
  unfold register
  rw [if_neg (by simp [filled])]
  dsimp only
  split
  · rw [List.mem_append, mem_without, List.mem_singleton, Prod.mk.injEq, or_comm]
  · exact mem_setInPlace

/-- Where registering moves to the end, the key stands behind all others. -/
theorem keys_register_of_moving (moving : registry.movesToEnd = true) (filled : isBlankText key = false) :
    (registry.register key value).keys = registry.keys.filter (· != key) ++ [key] := by
  unfold keys register
  rw [if_neg (by simp [filled]), moving]
  dsimp only
  rw [if_pos rfl, List.map_append, keys_without]
  rfl

/-- Where it does not, the keys stay as they are, unless the key is new and put behind. -/
theorem keys_register_of_keeping (keeping : registry.movesToEnd = false) (filled : isBlankText key = false) :
    (registry.register key value).keys = if key ∈ registry.keys then registry.keys else registry.keys ++ [key] := by
  unfold keys register
  rw [if_neg (by simp [filled]), keeping]
  dsimp only
  rw [if_neg Bool.false_ne_true, keys_setInPlace]

/-- What is registered behind a call was registered by it, or was registered before and the call did not end it. -/
theorem mem_step :
    (k, v) ∈ (registry.step call).sources ↔ call.Registers k v ∨ ((k, v) ∈ registry.sources ∧ ¬call.Ends k) := by
  rcases registry.step_cases call with
    ⟨key, value, registers, after⟩ | ⟨key, rfl, after⟩ | ⟨rfl, after⟩ | ⟨idle, after⟩
  · rw [after, mem_register registers.2, registers.registers_iff, registers.ends_iff]
  · have unregistered : ¬(RegistryCall.dequeue (.text key)).Registers k v := fun registers => by cases registers.1
    rw [after, mem_without, RegistryCall.ends_dequeue_iff, or_iff_right unregistered]
  · have unregistered : ¬RegistryCall.clear.Registers k v := fun registers => by cases registers.1
    have ends : RegistryCall.clear.Ends k := .inr (.inr rfl)
    rw [after]
    exact ⟨fun there => absurd there List.not_mem_nil, fun there => absurd ends (there.resolve_left unregistered).2⟩
  · rw [after, or_iff_right fun registers => idle k (.inl ⟨v, registers⟩), and_iff_left (idle k)]

/-- A call that registers nothing leaves some of the keys in their order, and does not end those. -/
theorem keys_step_cases (registry : Registry) (call : RegistryCall) :
    (∃ key value, call.Registers key value ∧ registry.step call = registry.register key value) ∨
      ((registry.step call).keys.Sublist registry.keys ∧ ∀ key ∈ (registry.step call).keys, ¬call.Ends key) := by
  rcases registry.step_cases call with registers | ⟨key, rfl, after⟩ | ⟨rfl, after⟩ | ⟨idle, after⟩
  · exact .inl registers
  · have left : (registry.step (.dequeue (.text key))).keys = registry.keys.filter (· != key) := by
      rw [after]
      exact keys_without
    rw [left]
    refine .inr ⟨List.filter_sublist, fun other among => mt RegistryCall.ends_dequeue_iff.mp ?_⟩
    simpa using (List.mem_filter.mp among).2
  · rw [after]
    exact .inr ⟨List.nil_sublist _, List.forall_mem_nil _⟩
  · rw [after]
    exact .inr ⟨List.Sublist.refl _, fun other _ => idle other⟩

/-- A call does not change the kind of a registry. -/
theorem kind_step : (registry.step call).kind = registry.kind := by
  rcases registry.step_cases call with ⟨key, value, -, after⟩ | ⟨key, -, after⟩ | ⟨-, after⟩ | ⟨-, after⟩ <;> rw [after]
  · unfold register
    split <;> rfl
  · rfl

/-- Nor does it change whether registering moves to the end. -/
theorem movesToEnd_step : (registry.step call).movesToEnd = registry.movesToEnd := by
  rcases registry.step_cases call with ⟨key, value, -, after⟩ | ⟨key, -, after⟩ | ⟨-, after⟩ | ⟨-, after⟩ <;> rw [after]
  · unfold register
    split <;> rfl
  · rfl

end Sources

/-! ## Runs -/

/-- After one more call a registry is what that call makes of it. -/
theorem after_concat (registry : Registry) (calls : List RegistryCall) (call : RegistryCall) :
    registry.after (calls ++ [call]) = (registry.after calls).step call :=
  List.foldl_append

/-- No calls change the kind of a registry. -/
theorem kind_after (registry : Registry) (calls : List RegistryCall) : (registry.after calls).kind = registry.kind := by
  induction calls using List.reverseRecOn with
  | nil => rfl
  | append_singleton calls call ih => rw [after_concat, kind_step, ih]

/-- No calls change whether registering moves to the end. -/
theorem movesToEnd_after (registry : Registry) (calls : List RegistryCall) :
    (registry.after calls).movesToEnd = registry.movesToEnd := by
  induction calls using List.reverseRecOn with
  | nil => rfl
  | append_singleton calls call ih => rw [after_concat, movesToEnd_step, ih]

section Runs

variable {registry : Registry} (empty : registry.sources = [])
include empty

/-- A registry that was empty at first holds the keys that are there behind the calls, with their latest values. -/
theorem mem_after (calls : List RegistryCall) (key : String) (value : Value) :
    (key, value) ∈ (registry.after calls).sources ↔ ∃ place, LatestAt calls key value place := by
  induction calls using List.reverseRecOn with
  | nil =>
    have none : (key, value) ∉ registry.sources := empty ▸ List.not_mem_nil
    exact ⟨fun there => absurd there none, fun ⟨_, latest⟩ => absurd latest.lt_length (Nat.not_lt_zero _)⟩
  | append_singleton calls call ih =>
    rw [after_concat, mem_step, ih]
    constructor
    · rintro (registers | ⟨⟨place, latest⟩, goes_on⟩)
      · exact ⟨calls.length, latestAt_concat.mpr (.inl ⟨rfl, registers⟩)⟩
      · exact ⟨place, latestAt_concat.mpr (.inr ⟨latest, goes_on⟩)⟩
    · rintro ⟨place, latest⟩
      rcases latestAt_concat.mp latest with ⟨-, registers⟩ | ⟨latest, goes_on⟩
      · exact .inl registers
      · exact .inr ⟨⟨place, latest⟩, goes_on⟩

/-- The keys of a registry are those that are present after the calls. -/
theorem mem_keys_after (calls : List RegistryCall) (key : String) :
    key ∈ (registry.after calls).keys ↔ IsPresent calls key := by
  unfold keys
  rw [List.mem_map]
  constructor
  · rintro ⟨⟨key, value⟩, there, rfl⟩
    exact ⟨value, (mem_after empty calls key value).mp there⟩
  · rintro ⟨value, latest⟩
    exact ⟨(key, value), (mem_after empty calls key value).mpr latest, rfl⟩

end Runs

end Registry

/-! ## The order of keys -/

/-- Keys in the order of their places. -/
def InOrder (placed : String → Nat → Prop) (keys : List String) : Prop :=
  keys.Pairwise fun key other => ∃ place place', placed key place ∧ placed other place' ∧ place < place'

namespace InOrder

variable {placed placed' : String → Nat → Prop} {keys : List String}

/-- No key is twice in an order, for it has one place. -/
theorem nodup (ordered : InOrder placed keys)
    (unique : ∀ key place place', placed key place → placed key place' → place = place') : keys.Nodup := by
  refine List.Pairwise.imp ?_ ordered
  rintro key other ⟨place, place', here, there, before⟩ rfl
  exact absurd (unique key place place' here there) before.ne

/-- Keys that keep their places stay in order when others go. -/
theorem sublist (ordered : InOrder placed keys) {left : List String} (sub : left.Sublist keys)
    (kept : ∀ key ∈ left, ∀ place, placed key place → placed' key place) : InOrder placed' left := by
  refine List.Pairwise.imp_of_mem ?_ (List.Pairwise.sublist sub ordered)
  rintro key other among among' ⟨place, place', here, there, before⟩
  exact ⟨place, place', kept key among place here, kept other among' place' there, before⟩

/-- A key with a place behind those of all others comes last. -/
theorem concat (ordered : InOrder placed keys) {key : String} {last : Nat} (here : placed key last)
    (earlier : ∀ other ∈ keys, ∃ place, placed other place ∧ place < last) : InOrder placed (keys ++ [key]) := by
  refine List.pairwise_append.mpr ⟨ordered, List.pairwise_singleton _ _, fun other among last' single => ?_⟩
  obtain rfl := List.mem_singleton.mp single
  obtain ⟨place, there, before⟩ := earlier other among
  exact ⟨place, last, there, here, before⟩

end InOrder

/-- Whether a place has the latest registration of a key that is still there. -/
def LatestPlace (calls : List RegistryCall) (key : String) (place : Nat) : Prop :=
  ∃ value, LatestAt calls key value place

/-- A key that is there is there since some place. -/
theorem IsPresent.exists_since {calls : List RegistryCall} {key : String} (present : IsPresent calls key) :
    ∃ place, PresentSince calls key place := by
  induction calls using List.reverseRecOn with
  | nil =>
    obtain ⟨value, place, latest⟩ := present
    exact absurd latest.lt_length (Nat.not_lt_zero _)
  | append_singleton calls call ih =>
    obtain ⟨value, place, latest⟩ := present
    rcases latestAt_concat.mp latest with ⟨-, registers⟩ | ⟨latest, goes_on⟩
    · by_cases before : IsPresent calls key
      · obtain ⟨place, since⟩ := ih before
        exact ⟨place, presentSince_concat.mpr (.inr ⟨since, registers.not_drops⟩)⟩
      · exact ⟨calls.length, presentSince_concat.mpr (.inl ⟨rfl, ⟨value, registers⟩, before⟩)⟩
    · obtain ⟨place, since⟩ := ih ⟨value, place, latest⟩
      exact ⟨place, presentSince_concat.mpr (.inr ⟨since, fun dropped => goes_on (.inr dropped)⟩)⟩

namespace Registry

variable {registry : Registry} (empty : registry.sources = []) (calls : List RegistryCall)
include empty

/-- Keys that move to the end are in the order of their latest registrations. -/
theorem inOrder_of_moving (moving : registry.movesToEnd = true) :
    InOrder (LatestPlace calls) (registry.after calls).keys := by
  induction calls using List.reverseRecOn with
  | nil =>
    show InOrder _ (registry.sources.map Prod.fst)
    rw [empty]
    exact List.Pairwise.nil
  | append_singleton calls call ih =>
    have kept (key : String) (goes_on : ¬call.Ends key) (place : Nat) :
        LatestPlace calls key place → LatestPlace (calls ++ [call]) key place :=
      fun ⟨value, latest⟩ => ⟨value, latestAt_concat.mpr (.inr ⟨latest, goes_on⟩)⟩
    rw [after_concat]
    rcases (registry.after calls).keys_step_cases call with ⟨key, value, registers, after⟩ | ⟨left, goes_on⟩
    · have stay : ∀ other ∈ (registry.after calls).keys.filter (· != key), ∀ place,
          LatestPlace calls other place → LatestPlace (calls ++ [call]) other place :=
        fun other among => kept other (mt registers.ends_iff.mp (by simpa using (List.mem_filter.mp among).2))
      have moved := (registry.movesToEnd_after calls).trans moving
      rw [after, keys_register_of_moving moved registers.2]
      refine (ih.sublist List.filter_sublist stay).concat
        ⟨value, latestAt_concat.mpr (.inl ⟨rfl, registers⟩)⟩ fun other among => ?_
      obtain ⟨v, place, latest⟩ := (mem_keys_after empty calls other).mp (List.mem_filter.mp among).1
      exact ⟨place, stay other among place ⟨v, latest⟩, latest.lt_length⟩
    · exact ih.sublist left fun other among => kept other (goes_on other among)

/-- Keys that keep their places are in the order in which they came in since they were absent. -/
theorem inOrder_of_keeping (keeping : registry.movesToEnd = false) :
    InOrder (PresentSince calls) (registry.after calls).keys := by
  induction calls using List.reverseRecOn with
  | nil =>
    show InOrder _ (registry.sources.map Prod.fst)
    rw [empty]
    exact List.Pairwise.nil
  | append_singleton calls call ih =>
    have kept (key : String) (goes_on : ¬call.Drops key) (place : Nat) :
        PresentSince calls key place → PresentSince (calls ++ [call]) key place :=
      fun since => presentSince_concat.mpr (.inr ⟨since, goes_on⟩)
    rw [after_concat]
    rcases (registry.after calls).keys_step_cases call with ⟨key, value, registers, after⟩ | ⟨left, goes_on⟩
    · have stay := ih.sublist (List.Sublist.refl _) fun other _ => kept other registers.not_drops
      have still := (registry.movesToEnd_after calls).trans keeping
      rw [after, keys_register_of_keeping still registers.2]
      split
      · exact stay
      · rename_i absent
        rw [mem_keys_after empty] at absent
        refine stay.concat (presentSince_concat.mpr (.inl ⟨rfl, ⟨value, registers⟩, absent⟩)) fun other among => ?_
        obtain ⟨place, since⟩ := ((mem_keys_after empty calls other).mp among).exists_since
        exact ⟨place, kept other registers.not_drops place since, since.lt_length⟩
    · exact ih.sublist left fun other among => kept other fun dropped => goes_on other among (.inr dropped)

end Registry

/-! ## What the keys of a registry mean -/

/-- A key has one latest value. -/
theorem LatestAt.value_unique {calls : List RegistryCall} {key : String} {value other : Value} {place place' : Nat}
    (latest : LatestAt calls key value place) (latest' : LatestAt calls key other place') : value = other := by
  obtain rfl := latest.place_unique latest'
  obtain ⟨call, there, registers, -⟩ := latest
  obtain ⟨call', there', registers', -⟩ := latest'
  obtain rfl := Option.some.inj (there.symm.trans there')
  exact (registers'.registers_iff.mp registers).2

/-- What a key means among the sources of a registry is registered under it. -/
theorem Registry.mem_of_findSource?_entries {registry : Registry} {key : String} {value : Value}
    (found : findSource? key (Entry.sources registry.entries) = some value) : (key, value) ∈ registry.sources := by
  obtain ⟨source, last, rfl⟩ := Option.map_eq_some_iff.mp found
  have named : source.key = .text key := by
    have same := List.find?_some last
    exact Value.same_text_iff.mp same
  obtain ⟨entry, among, made⟩ := List.mem_filterMap.mp (List.mem_reverse.mp (List.mem_of_find?_eq_some last))
  obtain ⟨⟨k, v⟩, registered, rfl⟩ := List.mem_map.mp among
  unfold Entry.toSource? at made
  split at made
  · cases made
    cases named
    exact registered
  · cases made

/-- Whether entries are what is left of calls. -/
structure Registry.Reflects (kind : EntryKind) (placed : List RegistryCall → String → Nat → Prop) (calls : List RegistryCall)
    (entries : List Entry) : Prop where
  /-- The entries are the keys that are there, each with its latest value. -/
  mem_iff : ∀ entry, entry ∈ entries ↔
    ∃ key value place, LatestAt calls key value place ∧ entry = ⟨kind, .text key, value, []⟩
  /-- No key is there twice. -/
  nodup : (entries.map Entry.key).Nodup
  /-- The entries stand in the order of the places of their keys. -/
  ordered : entries.Pairwise fun entry other => ∃ key key' place place', entry.key = .text key ∧ other.key = .text key' ∧
    placed calls key place ∧ placed calls key' place' ∧ place < place'
  /-- As a source a key means its latest value, and nothing if it is not there. -/
  found_iff : ∀ key value, findSource? key (Entry.sources entries) = some value ↔ ∃ place, LatestAt calls key value place
  /-- An expression that is a key comes to its latest value. -/
  resolved : ∀ table text key value place keepLoop, (Expression.ofText text).segments = [.key key] →
    LatestAt calls key value place → resolve table (Entry.sources entries) (.ofText text) keepLoop = settle keepLoop value

/-- A registry that was empty at first reflects the calls in the order of its keys. -/
theorem Registry.reflects_of_inOrder {registry : Registry} (empty : registry.sources = [])
    {placed : List RegistryCall → String → Nat → Prop} (calls : List RegistryCall)
    (unique : ∀ key place place', placed calls key place → placed calls key place' → place = place')
    (ordered : InOrder (placed calls) (registry.after calls).keys) :
    Reflects registry.kind placed calls (registry.after calls).entries := by
  have found_iff (key : String) (value : Value) :
      findSource? key (Entry.sources (registry.after calls).entries) = some value ↔
        ∃ place, LatestAt calls key value place := by
    constructor
    · exact fun found => (mem_after empty calls key value).mp (mem_of_findSource?_entries found)
    · rintro ⟨place, latest⟩
      have there := (mem_after empty calls key value).mpr ⟨place, latest⟩
      have filled : key ≠ "" := by
        rintro rfl
        obtain ⟨call, -, registers, -⟩ := latest
        cases registers.2
      obtain ⟨v, found⟩ : ∃ v, findSource? key (Entry.sources (registry.after calls).entries) = some v := by
        rw [findSource?_entries _ filled, ← Option.isSome_iff_exists, Option.isSome_map, List.find?_isSome]
        exact ⟨(key, value), List.mem_reverse.mpr there, beq_self_eq_true key⟩
      obtain ⟨place', latest'⟩ := (mem_after empty calls key v).mp (mem_of_findSource?_entries found)
      rw [found, latest.value_unique latest']
  refine ⟨fun entry => ?_, ?_, ?_, found_iff, ?_⟩
  · unfold entries
    rw [List.mem_map, kind_after]
    constructor
    · rintro ⟨⟨key, value⟩, there, rfl⟩
      obtain ⟨place, latest⟩ := (mem_after empty calls key value).mp there
      exact ⟨key, value, place, latest, rfl⟩
    · rintro ⟨key, value, place, latest, rfl⟩
      exact ⟨(key, value), (mem_after empty calls key value).mpr ⟨place, latest⟩, rfl⟩
  · have keys_eq : (registry.after calls).entries.map Entry.key = (registry.after calls).keys.map Value.text := by
      unfold entries keys
      rw [List.map_map, List.map_map]
      rfl
    rw [keys_eq]
    exact (ordered.nodup unique).map fun _ _ same => Value.text.inj same
  · refine List.pairwise_map.mpr (List.Pairwise.imp ?_ (List.pairwise_map.mp ordered))
    rintro ⟨key, value⟩ ⟨key', value'⟩ ⟨place, place', here, there, before⟩
    exact ⟨key, key', place, place', rfl, rfl, here, there, before⟩
  · intro table text key value place keepLoop alone latest
    rw [resolve_ofText, Engine.resolveWith_eq alone, (found_iff key value).mpr ⟨place, latest⟩]
    rfl

/-- Whatever was enqueued, dequeued and cleared, the registry of global sources lists the keys that are left in the
order of their latest registrations, and the registry of previews in the order in which they came in. -/
theorem Registry.entries_reflect (calls : List RegistryCall) :
    Reflects .globalValue LatestPlace calls (globals.after calls).entries ∧
      Reflects .preview PresentSince calls (previews.after calls).entries := by
  constructor
  · have ordered : InOrder (LatestPlace calls) (globals.after calls).keys := inOrder_of_moving rfl calls rfl
    exact globals.reflects_of_inOrder rfl calls
      (fun key place place' ⟨_, latest⟩ ⟨_, latest'⟩ => latest.place_unique latest') ordered
  · have ordered : InOrder (PresentSince calls) (previews.after calls).keys := inOrder_of_keeping rfl calls rfl
    exact previews.reflects_of_inOrder rfl calls (fun key place place' since since' => since.place_unique since') ordered

/-- Keys that are enqueued again, one of them after it was dequeued, and a blank one. -/
def enqueuedAgain : List RegistryCall :=
  [.enqueue (.text "site") (.int 1), .enqueue (.text "user") (.int 2), .dequeue (.text "site"),
    .enqueue (.text " ") (.int 3),
    .enqueue (.text "site") (.int 4), .enqueue (.text "user") (.int 5)]

/-- The key that was enqueued last is the last of the global sources, and the first of the previews. -/
theorem Registry.entries_reflect_enqueuedAgain :
    (globals.after enqueuedAgain).entries =
        [⟨.globalValue, .text "site", .int 4, []⟩, ⟨.globalValue, .text "user", .int 5, []⟩] ∧
      (previews.after enqueuedAgain).entries =
        [⟨.preview, .text "user", .int 5, []⟩, ⟨.preview, .text "site", .int 4, []⟩] ∧
      (∃ place place', PresentSince enqueuedAgain "user" place ∧ PresentSince enqueuedAgain "site" place' ∧
        place < place') ∧
      (Expression.ofText "user").segments = [.key "user"] ∧ LatestAt enqueuedAgain "user" (.int 5) 5 ∧
      resolve builtinModifiers (Entry.sources (globals.after enqueuedAgain).entries) (.ofText "user") false = .ok (.int 5) ∧
      resolve builtinModifiers (Entry.sources (previews.after enqueuedAgain).entries) (.ofText "user") false =
        .ok (.int 5) := by
  have listed : (previews.after enqueuedAgain).entries =
      [⟨.preview, .text "user", .int 5, []⟩, ⟨.preview, .text "site", .int 4, []⟩] := by cbv
  have alone : (Expression.ofText "user").segments = [.key "user"] := by cbv
  have latest : LatestAt enqueuedAgain "user" (.int 5) 5 := ⟨_, rfl, ⟨rfl, by decide⟩, List.forall_mem_nil _⟩
  obtain ⟨globals_reflect, previews_reflect⟩ := entries_reflect enqueuedAgain
  have ordered := previews_reflect.ordered
  rw [listed] at ordered
  obtain ⟨key, key', place, place', here, there, since, since', before⟩ := List.pairwise_pair.mp ordered
  obtain rfl := Value.text.inj here
  obtain rfl := Value.text.inj there
  exact ⟨by cbv, listed, ⟨place, place', since, since', before⟩, alone, latest,
    globals_reflect.resolved _ _ _ _ _ _ alone latest, previews_reflect.resolved _ _ _ _ _ _ alone latest⟩

end DynamicBlocks
