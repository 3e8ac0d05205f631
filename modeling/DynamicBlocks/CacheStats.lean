/-!
# Counts of a cache

How often a cache could answer a lookup itself, how often it could not, and how much it holds.
-/

set_option autoImplicit false

namespace DynamicBlocks

/-- Counts of a cache. -/
structure CacheStats where
  hits : Nat
  misses : Nat
  size : Nat
  deriving DecidableEq, Inhabited

end DynamicBlocks
