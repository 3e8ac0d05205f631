import DynamicBlocks.CacheStats
import DynamicBlocks.Pattern.Loader

/-!
# Pattern cache

During a render every reference is looked up once. The cache remembers patterns and also that there is none,
so a broken reference repeated on a page costs one lookup. References are compared by their text; null and the
empty text ask for nothing.
-/

set_option autoImplicit false

namespace DynamicBlocks

/-- What is known about references so far. -/
structure PatternCache where
  entries : List (String × Option Pattern)
  hits : Nat
  misses : Nat
  /-- The references that the loader was asked for, the latest first; clearing does not forget them. -/
  asked : List String
  deriving Inhabited

namespace PatternCache

def empty : PatternCache := ⟨[], 0, 0, []⟩

/-- What a loader says about a reference: a pattern, or that there is none. -/
def load (loader : Option PatternLoader) (ref : String) : Except Failure (Option Pattern) :=
  match loader with
  | none => .ok none
  | some loader =>
    match loader.find ref with
    | .ok pattern => .ok (some pattern)
    | .error (.patternNotFound _) => .ok none
    | .error f => .error f

/-- The cache after a lookup that it could not answer itself. -/
def missed (cache : PatternCache) (loader : Option PatternLoader) (ref : String) : PatternCache :=
  { cache with
    misses := cache.misses + 1
    asked := if loader.isSome then ref :: cache.asked else cache.asked }

/-- The pattern of a reference text, from the cache or else from the loader. -/
def find (cache : PatternCache) (loader : Option PatternLoader) (ref : String) :
    Except Failure (Option Pattern) × PatternCache :=
  match cache.entries.lookup ref with
  | some known => (.ok known, { cache with hits := cache.hits + 1 })
  | none =>
    match load loader ref with
    | .ok pattern =>
      let missed := cache.missed loader ref
      (.ok pattern, { missed with entries := missed.entries ++ [(ref, pattern)] })
    | .error f => (.error f, cache.missed loader ref)

/-- Whether a reference asks for nothing. -/
def asksNothing (ref : Value) : Bool :=
  ref.isNull || ref.isEmptyText

def get (cache : PatternCache) (loader : Option PatternLoader) (ref : Value) :
    Except Failure (Option Pattern) × PatternCache :=
  if asksNothing ref then (.ok none, cache) else cache.find loader ref.plain

/-- The blocks of a pattern, none where there is no pattern. -/
def getBlocks (cache : PatternCache) (loader : Option PatternLoader) (ref : Value) :
    Except Failure (List Block) × PatternCache :=
  ((cache.get loader ref).1.map fun pattern => pattern.elim [] Pattern.blocks, (cache.get loader ref).2)

/-- The properties that a pattern declares, none where there is no pattern. -/
def getProps (cache : PatternCache) (loader : Option PatternLoader) (ref : Value) :
    Except Failure (List PropDefinition) × PatternCache :=
  ((cache.get loader ref).1.map fun pattern => pattern.elim [] Pattern.props, (cache.get loader ref).2)

/-- The cache with all patterns and counts forgotten. -/
def clear (cache : PatternCache) : PatternCache :=
  { empty with asked := cache.asked }

/-- The counts since the cache was last cleared. -/
def stats (cache : PatternCache) : CacheStats :=
  ⟨cache.hits, cache.misses, cache.entries.length⟩

end PatternCache

end DynamicBlocks
