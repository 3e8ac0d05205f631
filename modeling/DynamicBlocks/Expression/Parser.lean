import DynamicBlocks.Expression.Template

/-!
# Reading expressions

An expression is read from its text, blanks and one pair of braces around it aside: the path is cut into parts
and each part is a key or a call.
-/

set_option autoImplicit false

namespace DynamicBlocks

open Text

/-- A part of a path as a segment. -/
def Segment.ofPart (part : String) : Segment :=
  match callParts? part with
  | some (name, args) => .call name ((splitArgs args).map Argument.ofText)
  | none => .key part

/-- The text of an expression without blanks and braces around it. -/
def bareExpression (text : String) : String :=
  let trimmed := trimChars text.toList
  match standalone? trimmed with
  | some inner => String.ofList (trimChars inner)
  | none => String.ofList trimmed

def Expression.ofText (source : String) : Expression :=
  ⟨source, (splitPath (bareExpression source)).map Segment.ofPart⟩

end DynamicBlocks
