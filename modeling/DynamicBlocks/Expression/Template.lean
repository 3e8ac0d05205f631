import DynamicBlocks.Expression.Call
import DynamicBlocks.Failure

/-!
# Templates

A template is text with expressions in braces. Braces inside an expression nest, and quoted parts of it may
hold any brace. A brace that is never closed is text with all that follows it, and so is a pair of braces with
nothing but blanks between. A template that is one expression from end to end stands for the value of the
expression, any other for text.
-/

set_option autoImplicit false

namespace DynamicBlocks

open Text

/-- A piece of a template. -/
inductive Token where
  /-- Text that stands for itself. -/
  | literal (chars : List Char)
  /-- The inside of a pair of braces. -/
  | expression (chars : List Char)
  deriving DecidableEq, Inhabited

/-- The characters up to the brace that closes the one just opened, and what follows it. `depth` counts the
braces opened since. -/
def bracedFrom : (depth : Nat) → (quote before : Option Char) → List Char → Option (List Char × List Char)
  | _, _, _, [] => none
  | depth, quote, before, c :: cs =>
    if c = '\x7d' ∧ quote = none ∧ depth = 0 then some ([], cs)
    else
      let depth :=
        if quote = none ∧ c = '\x7b' then depth + 1
        else if quote = none ∧ c = '\x7d' then depth - 1
        else depth
      (bracedFrom depth (nextQuote quote before c) (some c) cs).map fun (inner, rest) => (c :: inner, rest)

/-- The characters behind an opening brace up to the one that closes it, and what follows. -/
def braced? (cs : List Char) : Option (List Char × List Char) :=
  bracedFrom 0 none (some '\x7b') cs

/-- The expression that a template is from end to end. -/
def standalone? (cs : List Char) : Option (List Char) :=
  match cs with
  | '\x7b' :: rest =>
    match braced? rest with
    | some (c :: inner, []) => some (c :: inner)
    | _ => none
  | _ => none

/-- Whether a template is one expression from end to end. -/
def isStandalone (text : String) : Bool :=
  (standalone? text.toList).isSome

/-- Literal characters put before tokens; literals do not stand side by side. -/
def consLiteral (chars : List Char) : List Token → List Token
  | .literal more :: tokens => .literal (chars ++ more) :: tokens
  | tokens => if chars.isEmpty then tokens else .literal chars :: tokens

/-- The tokens of a template; `skip` characters belong to a pair of braces just read. -/
def tokensFrom : (skip : Nat) → List Char → List Token
  | _, [] => []
  | skip + 1, _ :: cs => tokensFrom skip cs
  | 0, c :: cs =>
    if c = '\x7b' then
      match braced? cs with
      | none => [.literal (c :: cs)]
      | some (inner, _) =>
        if inner.all isBlank then consLiteral (c :: inner ++ ['\x7d']) (tokensFrom (inner.length + 1) cs)
        else .expression inner :: tokensFrom (inner.length + 1) cs
    else consLiteral [c] (tokensFrom 0 cs)

def tokenize (text : String) : List Token :=
  tokensFrom 0 text.toList

def Token.isExpression : Token → Bool
  | .literal _ => false
  | .expression _ => true

def hasExpressions (text : String) : Bool :=
  (tokenize text).any Token.isExpression

/-- The text of a template once its expressions are replaced. -/
def fillTemplate (text : String) (replace : String → Except Failure String) : Except Failure String := do
  let parts ← (tokenize text).mapM fun token => match token with
    | .literal chars => pure (String.ofList chars)
    | .expression chars => replace (String.ofList chars)
  pure (String.join parts)

end DynamicBlocks
