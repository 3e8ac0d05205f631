import DynamicBlocks.Json.Reader
import DynamicBlocks.Text.Case

/-!
# Literals

Texts that are values by themselves, whatever the sources: nothing at all, a text between equal quotes, a
number, true or false in any case, and JSON arrays and objects.
-/

set_option autoImplicit false

namespace DynamicBlocks

open Text

/-- The text between equal quotes at both ends. -/
def unquoted? (cs : List Char) : Option (List Char) :=
  match cs with
  | [] => none
  | [_] => none
  | mark :: rest =>
    if (mark = '"' ∨ mark = '\'') ∧ rest.getLast? = some mark then some rest.dropLast else none

/-- Whether the text starts and ends like a JSON array or object. -/
def looksLikeJson (cs : List Char) : Bool :=
  (cs.head? == some '[' && cs.getLast? == some ']') || (cs.head? == some '\x7b' && cs.getLast? == some '\x7d')

/-- True or false written in any case. -/
def truth? (text : String) : Option Bool :=
  let lowered := lower text
  if lowered = "true" then some true else if lowered = "false" then some false else none

/-- A JSON array or object that makes up the text. -/
def jsonLiteral? (text : String) : Option Value :=
  if looksLikeJson text.toList then Json.read? text else none

/-- The value that a text is by itself, blanks around it aside. -/
def literal? (text : String) : Option Value :=
  let trimmed := trim text
  if trimmed = "" then some (.text "")
  else
    match unquoted? trimmed.toList with
    | some inner => some (.text (String.ofList inner))
    | none =>
      match Number.ofText? trimmed with
      | some number => some (.ofNumber number)
      | none =>
        match truth? trimmed with
        | some b => some (.bool b)
        | none => jsonLiteral? trimmed

end DynamicBlocks
