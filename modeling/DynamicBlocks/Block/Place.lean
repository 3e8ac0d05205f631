/-!
# Places of blocks

Two blocks that look alike are still two blocks. What tells them apart is the tree they stand in, the page or
the body of a pattern, and the way to them from its root. The body of a pattern is the same tree every time it
is rendered.

Places stand in for the identity of block objects. They tell apart what identity does not where the host hands one
object out at two places: a block it put into two lists, or a pattern it serves under two names, has two places here and
is one object there. Trees that are read of mappings share no blocks, and for them the two are the same.
-/

set_option autoImplicit false

namespace DynamicBlocks

/-- Where a block stands. -/
structure Place where
  /-- The pattern whose body holds the block, none for the page. -/
  pattern : Option String
  /-- The positions on the way from the root, the last one first. -/
  path : List Nat
  deriving DecidableEq, Inhabited

namespace Place

/-- The root of the page. -/
def page : Place := ⟨none, []⟩

/-- The root of a pattern's body. -/
def body (ref : String) : Place := ⟨some ref, []⟩

def child (place : Place) (position : Nat) : Place :=
  { place with path := position :: place.path }

end Place

end DynamicBlocks
