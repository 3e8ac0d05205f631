/-!
# Expressions

An expression names a source and leads from it to a value: `item.author.name.upper()`. It is a run of
segments, of which the first names the source. A key segment is a step into a value, a call segment applies a
modifier. The arguments of a call stay text, since what they mean depends on the sources in force when the
call is made.
-/

set_option autoImplicit false

namespace DynamicBlocks

/-- An argument of a call: its text, and its name if it is passed by name. -/
structure Argument where
  source : String
  keyword : Option String
  deriving DecidableEq, Inhabited

/-- One segment of an expression. -/
inductive Segment where
  /-- A key of a mapping or an index of a list. -/
  | key (name : String)
  /-- A modifier, or a loop preset, with its arguments. -/
  | call (name : String) (args : List Argument)
  deriving DecidableEq, Inhabited

/-- An expression with the text it was read from. -/
structure Expression where
  source : String
  segments : List Segment
  deriving DecidableEq, Inhabited

namespace Segment

def name : Segment → String
  | .key name => name
  | .call name _ => name

def isCall : Segment → Bool
  | .key _ => false
  | .call .. => true

/-- The arguments of a segment; a key has none. -/
def args : Segment → List Argument
  | .key _ => []
  | .call _ args => args

end Segment

def positionalArgs (args : List Argument) : List Argument :=
  args.filter fun argument => argument.keyword.isNone

def namedArgs (args : List Argument) : List Argument :=
  args.filter fun argument => argument.keyword.isSome

namespace Expression

/-- The name of the source; empty for an expression without segments. -/
def root (e : Expression) : String :=
  match e.segments with
  | [] => ""
  | segment :: _ => segment.name

/-- The first segment if it is a call. -/
def rootCall? (e : Expression) : Option Segment :=
  e.segments.head?.filter Segment.isCall

/-- The keys after the source, up to the first call. -/
def path (e : Expression) : List String :=
  ((e.segments.drop 1).takeWhile fun segment => !segment.isCall).map Segment.name

/-- The calls after the source, in the order they are applied. -/
def modifiers (e : Expression) : List Segment :=
  (e.segments.drop 1).filter Segment.isCall

end Expression

end DynamicBlocks
