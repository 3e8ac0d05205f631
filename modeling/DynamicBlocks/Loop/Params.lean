import DynamicBlocks.Json.Writer
import DynamicBlocks.Text.Blank
import DynamicBlocks.Text.Word
import DynamicBlocks.Value.Shape

/-!
# Parameters of loops

The configuration of a loop may refer to parameters, as `$name` or as `$name ?? default`. A default is a
number, a truth value or a text between single quotes. Defaults are collected before binding, and where a
parameter has several, the first one counts everywhere.

Binding goes through the whole configuration. In a text, references with a default become the text of the
bound value; a text that is then just a parameter becomes the bound value itself, with its type; in any other
text the names are replaced by texts, the longest name first.
-/

set_option autoImplicit false

namespace DynamicBlocks

open Text

/-- A stretch of a text: a character, or a reference with a default. -/
inductive ParamPiece where
  | char (c : Char)
  | defaulted (name literal : List Char)
  deriving DecidableEq

/-- Digits in front, with a fraction if there is a complete one, and what follows. -/
def takeDefaultNumber? (cs : List Char) : Option (List Char × List Char) :=
  let (sign, digits) := match cs with
    | '-' :: rest => (['-'], rest)
    | rest => ([], rest)
  let whole := digits.takeWhile isDigit
  if whole.isEmpty then none
  else
    let rest := digits.dropWhile isDigit
    match rest with
    | '.' :: fraction =>
      let places := fraction.takeWhile isDigit
      if places.isEmpty then some (sign ++ whole, rest)
      else some (sign ++ whole ++ '.' :: places, fraction.dropWhile isDigit)
    | _ => some (sign ++ whole, rest)

/-- A text between single quotes in front, quotes included, and what follows. -/
def takeQuotedDefault? (cs : List Char) : Option (List Char × List Char) :=
  match cs with
  | '\'' :: rest =>
    match rest.dropWhile (· != '\'') with
    | '\'' :: behind => some ('\'' :: rest.takeWhile (· != '\'') ++ ['\''], behind)
    | _ => none
  | _ => none

/-- One of several phrases in front, and what follows. -/
def takePhrase? (phrases : List (List Char)) (cs : List Char) : Option (List Char × List Char) :=
  phrases.findSome? fun phrase => (dropPhrase? phrase cs).map fun rest => (phrase, rest)

/-- A default in front, and what follows. -/
def takeDefault? (cs : List Char) : Option (List Char × List Char) :=
  (takeDefaultNumber? cs).or ((takePhrase? ["true".toList, "false".toList] cs).or (takeQuotedDefault? cs))

/-- A reference with a default in front: name, default, and what follows. -/
def takeDefaulted? (cs : List Char) : Option (List Char × List Char × List Char) :=
  match cs with
  | '$' :: rest =>
    let word := rest.takeWhile isWord
    if word.isEmpty then none
    else do
      let behind ← dropPhrase? "??".toList (trimFront (rest.dropWhile isWord))
      let (literal, behind) ← takeDefault? (trimFront behind)
      some ('$' :: word, literal, behind)
  | _ => none

/-- The pieces of a text, where `skip` characters belong to a piece that is done. -/
def paramPiecesFrom : (skip : Nat) → List Char → List ParamPiece
  | _, [] => []
  | skip + 1, _ :: cs => paramPiecesFrom skip cs
  | 0, c :: cs =>
    match takeDefaulted? (c :: cs) with
    | some (name, literal, behind) => .defaulted name literal :: paramPiecesFrom (cs.length - behind.length) cs
    | none => .char c :: paramPiecesFrom 0 cs

def paramPieces (s : String) : List ParamPiece :=
  paramPiecesFrom 0 s.toList

/-- Whether a text is a whole number: digits, perhaps with a minus sign in front. -/
def isWholeLiteral (cs : List Char) : Bool :=
  match takeDefaultNumber? cs with
  | some (literal, []) => !literal.contains '.'
  | _ => false

/-- Whether a text is a decimal number: digits on both sides of a point, perhaps with a minus sign in front. -/
def isDecimalLiteral (cs : List Char) : Bool :=
  match takeDefaultNumber? cs with
  | some (literal, []) => literal.contains '.'
  | _ => false

/-- The text between quotes of one kind. -/
def betweenQuotes? (cs : List Char) : Option (List Char) :=
  match cs, cs.getLast? with
  | first :: second :: rest, some last =>
    if (first = '\'' ∨ first = '"') ∧ first = last then some ((second :: rest).dropLast) else none
  | _, _ => none

/-- The value of a default: a number, a truth value, a text between quotes, or else the text itself. -/
def defaultValue (s : String) : Value :=
  let cs := trimChars s.toList
  let text := String.ofList cs
  if isWholeLiteral cs || isDecimalLiteral cs then ((Number.ofText? text).map Value.ofNumber).getD (.text text)
  else if text = "true" then .bool true
  else if text = "false" then .bool false
  else
    match betweenQuotes? cs with
    | some inner => .text (String.ofList inner)
    | none => .text text

/-- Defaults with one more, unless its name has one already. -/
def addDefault (defaults : Entries) (name : String) (value : Value) : Entries :=
  if (Entries.field? defaults name).isSome then defaults else Entries.insert defaults (.text name) value

/-- Defaults with those of a text. -/
def addTextDefaults (defaults : Entries) (s : String) : Entries :=
  (paramPieces s).foldl (fun defaults piece => match piece with
    | .char _ => defaults
    | .defaulted name literal => addDefault defaults (String.ofList name) (defaultValue (String.ofList literal))) defaults

mutual

/-- Defaults with those of a configuration. -/
def addDefaults (defaults : Entries) : Value → Entries
  | .text s => addTextDefaults defaults s
  | .list items => addItemDefaults defaults items
  | .map entries => addEntryDefaults defaults entries
  | _ => defaults

/-- Defaults with those of items, the first item first. -/
def addItemDefaults (defaults : Entries) : List Value → Entries
  | [] => defaults
  | item :: items => addItemDefaults (addDefaults defaults item) items

/-- Defaults with those of the values of entries, the first entry first. -/
def addEntryDefaults (defaults : Entries) : List (Value × Value) → Entries
  | [] => defaults
  | (_, value) :: entries => addEntryDefaults (addDefaults defaults value) entries

end

/-- The defaults that a configuration declares. -/
def declaredDefaults (config : Value) : Entries :=
  addDefaults [] config

/-- The parameters given, and the declared defaults for all others. -/
def withDefaults (config : Value) (params : Entries) : Entries :=
  Entries.insertAll (declaredDefaults config) params

/-- The text of a value in place of a reference with a default: lists and mappings have none. -/
def scalarText : Value → String
  | .null => ""
  | .list _ => ""
  | .map _ => ""
  | .bool b => if b then "1" else ""
  | v => v.plain

/-- The text of a value in place of a plain reference: lists and mappings as JSON. -/
def replacementText (v : Value) : Except Failure String :=
  match v with
  | .list _ => Json.write .ascii v
  | .map _ => Json.write .ascii v
  | v => .ok (scalarText v)

/-- The text with every reference that has a default replaced. -/
def bindDefaulted (params : Entries) (s : String) : String :=
  String.ofList ((paramPieces s).flatMap fun
    | .char c => [c]
    | .defaulted name _ => (scalarText (Entries.field params (String.ofList name))).toList)

/-- The name of a parameter, which has to be a text. -/
def paramName : Value × Value → Except Failure (String × Value)
  | (.text name, value) => .ok (name, value)
  | _ => .error .wrongType

/-- The parameters by name, the longest first, those of one length in their order. -/
def longestFirst (params : Entries) : Except Failure (List (String × Value)) := do
  let named ← params.mapM paramName
  pure (named.mergeSort fun a b => decide (b.1.length ≤ a.1.length))

/-- The text with every occurrence of the names replaced, one name after the other. -/
def replaceNames (named : List (String × Value)) (s : String) : Except Failure String :=
  named.foldlM (fun text param =>
    if contains text param.1 then do
      let replacement ← replacementText param.2
      pure (replace param.1 replacement text)
    else pure text) s

/-- A text with parameters bound. -/
def bindText (params : Entries) (s : String) : Except Failure Value := do
  let text := bindDefaulted params s
  match Entries.field? params text with
  | some value => pure value
  | none =>
    let named ← longestFirst params
    .text <$> replaceNames named text

mutual

/-- A configuration with parameters bound. -/
def bindParams (params : Entries) : Value → Except Failure Value
  | .text s => bindText params s
  | .list items => do
    let items ← bindItems params items
    pure (.list items)
  | .map entries => do
    let entries ← bindEntries params entries
    pure (.map entries)
  | v => .ok v

/-- Items with parameters bound. -/
def bindItems (params : Entries) : List Value → Except Failure (List Value)
  | [] => .ok []
  | item :: items => do
    let item ← bindParams params item
    let items ← bindItems params items
    pure (item :: items)

/-- Entries with parameters bound in their values. -/
def bindEntries (params : Entries) : List (Value × Value) → Except Failure (List (Value × Value))
  | [] => .ok []
  | (key, value) :: entries => do
    let value ← bindParams params value
    let entries ← bindEntries params entries
    pure ((key, value) :: entries)

end

/-- The name of a loop without the arguments written behind it. -/
def loopName (s : String) : String :=
  let cs := trimChars s.toList
  if cs.contains '(' then String.ofList (trimChars (cs.takeWhile (· != '('))) else String.ofList cs

/-- Without a dollar sign no reference starts. -/
theorem takeDefaulted?_of_ne (c : Char) (cs : List Char) (h : c ≠ '$') : takeDefaulted? (c :: cs) = none := by
  unfold takeDefaulted?
  split
  · rename_i same
    exact absurd (List.cons.inj same).1 h
  · rfl

/-- Characters without dollar signs are pieces of their own. -/
theorem paramPiecesFrom_append_plain (cs : List Char) (h : ∀ c ∈ cs, c ≠ '$') (behind : List Char) :
    paramPiecesFrom 0 (cs ++ behind) = cs.map .char ++ paramPiecesFrom 0 behind := by
  induction cs with
  | nil => rfl
  | cons c cs ih =>
    have first := h c List.mem_cons_self
    simp only [List.cons_append, paramPiecesFrom, takeDefaulted?_of_ne c _ first, List.map_cons,
      ih fun d inside => h d (List.mem_cons_of_mem c inside)]

end DynamicBlocks
