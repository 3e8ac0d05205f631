import DynamicBlocks.Value.Basic

/-!
# Sources

What an expression can refer to is an ordered list of named values, oldest first. A name means the value that
was given it last; older ones of the same name are shadowed.
-/

set_option autoImplicit false

namespace DynamicBlocks

/-- A named value. Names are texts as a rule; a source under anything else cannot be referred to. -/
structure Source where
  key : Value
  value : Value
  deriving Inhabited

/-- The source as a value of its own, for content that holds sources already built. -/
def Source.asBuilt (source : Source) : Value :=
  .built .source [("key", source.key), ("source", source.value)]

/-- The value that a name means. -/
def findSource? (root : String) (sources : List Source) : Option Value :=
  (sources.reverse.find? fun source => source.key.same (.text root)).map (·.value)

/-- Of two lists of sources, one behind the other, the second is asked first. -/
theorem findSource?_append (root : String) (first second : List Source) :
    findSource? root (first ++ second) = (findSource? root second).or (findSource? root first) := by
  unfold findSource?
  rw [List.reverse_append, List.find?_append, Option.map_or]

/-- The last source of a name is the one that counts. -/
theorem findSource?_append_self (root : String) (sources : List Source) (value : Value) :
    findSource? root (sources ++ [⟨.text root, value⟩]) = some value := by
  simp [findSource?, Value.same]

/-- A source of another name does not count. -/
theorem findSource?_append_other (root : String) (sources : List Source) (source : Source)
    (h : source.key.same (.text root) = false) :
    findSource? root (sources ++ [source]) = findSource? root sources := by
  simp [findSource?, h]

end DynamicBlocks
