import DynamicBlocks.CacheStats
import DynamicBlocks.Json.Writer

/-!
# Loop cache

During a render the items of a loop are found once for every set of parameters. An entry is known by a digest
of the preset's identifier and of the parameters as JSON text in the order of their names, so that the order in
which parameters were given does not matter. Items are kept as they were found, a list as a rule; null is kept
too, but stands for nothing found. Surrogates may stand in the parameters, where they are written by their codes; the
identifier is digested as it is, and a digest takes bytes, which there are none of for an identifier with a surrogate.
-/

set_option autoImplicit false

namespace DynamicBlocks

/-- What an entry of the cache is about, before it is digested. -/
def requestText (id : String) (params : Entries) : Except Failure String := do
  let text ← Json.write .canonical (.map params)
  if Text.isEncodable id then pure (id ++ "\x00" ++ text) else throw .badValue

/-- Items by the digest of what was asked for. -/
structure LoopCache where
  entries : List (String × Value)
  hits : Nat
  misses : Nat
  deriving Inhabited

namespace LoopCache

def empty : LoopCache := ⟨[], 0, 0⟩

/-- The items under a key, with the lookup counted. -/
def find (cache : LoopCache) (key : String) : Option Value × LoopCache :=
  match (cache.entries.lookup key).filter fun items => !items.isNull with
  | some items => (some items, { cache with hits := cache.hits + 1 })
  | none => (none, { cache with misses := cache.misses + 1 })

/-- The cache with items under a key. -/
def set (cache : LoopCache) (key : String) (items : Value) : LoopCache :=
  { cache with
    entries :=
      if (cache.entries.lookup key).isSome then
        cache.entries.map fun entry => if entry.1 = key then (key, items) else entry
      else cache.entries ++ [(key, items)] }

/-- The counts since the cache was last cleared. -/
def stats (cache : LoopCache) : CacheStats :=
  ⟨cache.hits, cache.misses, cache.entries.length⟩

/-- Items that are set are found. -/
theorem lookup_set (cache : LoopCache) (key : String) (items : Value) :
    (cache.set key items).entries.lookup key = some items := by
  unfold set
  dsimp only
  split
  · rename_i known
    generalize cache.entries = entries at known
    induction entries with
    | nil => simp at known
    | cons entry entries ih =>
      obtain ⟨name, old⟩ := entry
      by_cases same : name = key
      · simp [same]
      · have other : (key == name) = false := by simpa using Ne.symm same
        simp only [List.lookup_cons, other] at known
        simpa [List.lookup_cons, same, other] using ih known
  · rename_i absent
    rw [List.lookup_append]
    simp only [Option.not_isSome_iff_eq_none] at absent
    simp [absent]

end LoopCache

end DynamicBlocks
