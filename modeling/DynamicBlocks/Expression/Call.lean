import DynamicBlocks.Expression.Basic
import DynamicBlocks.Expression.Path
import DynamicBlocks.Text.Blank
import DynamicBlocks.Text.Word

/-!
# Calls and their arguments

A call is a name followed by arguments in parentheses. Arguments are separated by commas outside quotes and
brackets; a quote behind a backslash is an ordinary character. An argument passed by name starts with the name
and a colon, and its name is kept with a dollar sign in front.
-/

set_option autoImplicit false

namespace DynamicBlocks

open Text

/-- A text taken apart as a call: the name, and what follows the opening parenthesis. -/
def callHead? (cs : List Char) : Option (List Char × List Char) :=
  match cs.takeWhile isWord, cs.dropWhile isWord with
  | [], _ => none
  | name, '(' :: body => some (name, body)
  | _, _ => none

/-- Whether the characters end with a closing parenthesis. -/
def endsClosed (cs : List Char) : Bool :=
  cs.getLast? == some ')'

/-- Whether the text is a call; a line break may follow it. -/
def isCall (text : String) : Bool :=
  match callHead? text.toList with
  | some (_, body) => endsClosed body || (body.getLast? == some '\n' && endsClosed body.dropLast)
  | none => false

/-- The name and the argument text of a call, blanks around it aside. -/
def callParts? (part : String) : Option (String × String) :=
  match callHead? (trimChars part.toList) with
  | some (name, body) =>
    if endsClosed body then some (String.ofList name, String.ofList body.dropLast) else none
  | none => none

/-- What encloses the place reached in an argument text. -/
structure ArgState where
  /-- Open brackets of any kind. -/
  depth : Nat
  /-- The quote that is open. -/
  quote : Option Char
  /-- The character before. -/
  before : Option Char
  deriving DecidableEq, Inhabited

/-- The quote that is open behind a character. -/
def nextQuote (quote before : Option Char) (c : Char) : Option Char :=
  if (c = '"' ∨ c = '\'') ∧ before ≠ some '\\' then
    match quote with
    | none => some c
    | some open_ => if c = open_ then none else quote
  else quote

namespace ArgState

def start : ArgState := ⟨0, none, none⟩

/-- Whether the character separates arguments here. -/
def cutsAt (s : ArgState) (c : Char) : Bool :=
  (nextQuote s.quote s.before c).isNone && s.depth == 0 && c == ','

/-- What is open behind a character. -/
def step (s : ArgState) (c : Char) : ArgState :=
  let quote := nextQuote s.quote s.before c
  let depth :=
    if quote.isSome then s.depth
    else if c = '(' ∨ c = '[' ∨ c = '\x7b' then s.depth + 1
    else if c = ')' ∨ c = ']' ∨ c = '\x7d' then s.depth - 1
    else s.depth
  ⟨depth, quote, some c⟩

end ArgState

/-- The marks of an argument text from a state on. -/
def argMarks : ArgState → List Char → List Mark
  | _, [] => []
  | s, c :: cs => (if s.cutsAt c then none else some c) :: argMarks (s.step c) cs

/-- The arguments in an argument text, without blanks around them and without empty ones. -/
def splitArgs (text : String) : List String :=
  (((gather (argMarks .start text.toList)).map trimChars).filter fun piece => !piece.isEmpty).map String.ofList

/-- Whether a name of an argument may start with the character. -/
def startsKeyword (c : Char) : Bool :=
  c.isAlpha || c == '_'

/-- Whether a name of an argument may go on with the character. -/
def continuesKeyword (c : Char) : Bool :=
  isWord c || c == '-'

/-- The name in front of an argument, without dollar sign, and the text behind the colon. Two colons do not
end a name. -/
def keyword? (cs : List Char) : Option (List Char × List Char) :=
  let name := match cs with
    | '$' :: rest => rest
    | _ => cs
  match name with
  | [] => none
  | c :: more =>
    if startsKeyword c then
      match trimFront (more.dropWhile continuesKeyword) with
      | ':' :: rest =>
        if rest.head? = some ':' then none else some (c :: more.takeWhile continuesKeyword, rest)
      | _ => none
    else none

/-- An argument read from its text. -/
def Argument.ofText (raw : String) : Argument :=
  let cs := trimChars raw.toList
  match keyword? cs with
  | some (name, rest) => ⟨String.ofList (trimChars rest), some (String.ofList ('$' :: name))⟩
  | none => ⟨String.ofList cs, none⟩

end DynamicBlocks
