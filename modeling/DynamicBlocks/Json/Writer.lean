import DynamicBlocks.Failure
import DynamicBlocks.Json.KeyOrder

/-!
# Writing JSON

Values as JSON text on one line, with a blank behind commas and colons. Keys that are numbers, booleans or
null become texts; keys of any other kind are refused. Values that JSON does not know are written as the text
of their plain form. Two choices are left open: whether characters beyond ASCII are escaped, and whether
entries are put in the order of their keys, which needs keys that can be compared. Integers are written whatever
their length.
-/

set_option autoImplicit false

namespace DynamicBlocks.Json

/-- How JSON text is written. -/
structure Style where
  /-- Characters beyond ASCII are escaped. -/
  asciiOnly : Bool
  /-- Entries stand in the order of their keys. -/
  sortKeys : Bool
  deriving DecidableEq

/-- As a text for readers: characters as they are, entries in their own order. -/
def Style.readable : Style := ⟨false, false⟩

/-- As a text for transport: ASCII only, entries in their own order. -/
def Style.ascii : Style := ⟨true, false⟩

/-- As a text for comparison: ASCII only, entries in the order of their keys. -/
def Style.canonical : Style := ⟨true, true⟩

/-- A four-digit escape of a code unit. -/
def unitEscape (code : Nat) : List Char :=
  '\\' :: 'u' :: Text.hexDigits 4 code

/-- The escape of a character: one code unit, or two beyond U+FFFF. -/
def charEscape (c : Char) : List Char :=
  let code := Text.codePoint c
  if code < 0x10000 then unitEscape code
  else unitEscape (0xd800 + (code - 0x10000) / 0x400) ++ unitEscape (0xdc00 + (code - 0x10000) % 0x400)

/-- A character of a JSON string. -/
def stringChar (asciiOnly : Bool) (c : Char) : List Char :=
  if c = '"' ∨ c = '\\' then ['\\', c]
  else if c = '\n' then ['\\', 'n']
  else if c = '\r' then ['\\', 'r']
  else if c = '\t' then ['\\', 't']
  else if c.toNat = 8 then ['\\', 'b']
  else if c.toNat = 12 then ['\\', 'f']
  else if c.toNat < 0x20 then charEscape c
  else if asciiOnly && decide (0x7f ≤ c.toNat) then charEscape c
  else [c]

def stringText (asciiOnly : Bool) (s : String) : String :=
  String.ofList ('"' :: s.toList.flatMap (stringChar asciiOnly) ++ ['"'])

/-- A double as JSON. -/
def doubleText : Double → String
  | .nan _ => "NaN"
  | .infinite negative => if negative then "-Infinity" else "Infinity"
  | x => x.text

/-- The text that a key becomes. -/
def keyText : Value → Except Failure String
  | .text s => .ok s
  | .null => .ok "null"
  | .bool b => .ok (if b then "true" else "false")
  | .int n => .ok (intText n)
  | .double x => .ok (doubleText x)
  | _ => .error .wrongType

/-- An entry ready to be written: its key, and the texts of key and value. -/
structure WrittenEntry where
  key : Value
  name : String
  value : String

/-- Entries in the order of their keys; refused if two keys cannot be compared. -/
def sortEntries (entries : List WrittenEntry) : Except Failure (List WrittenEntry) :=
  match entries with
  | [] => .ok []
  | first :: more =>
    if more.all fun entry => comparable first.key entry.key then
      .ok (inKeyOrder WrittenEntry.key entries)
    else .error .wrongType

/-- Entries as a JSON object. -/
def objectText (style : Style) (entries : List WrittenEntry) : Except Failure String := do
  let entries ← if style.sortKeys then sortEntries entries else pure entries
  pure ("\x7b" ++ Text.join ", " (entries.map fun entry =>
    stringText style.asciiOnly entry.name ++ ": " ++ entry.value) ++ "\x7d")

mutual

/-- A value as JSON text. -/
def write (style : Style) : Value → Except Failure String
  | .null => .ok "null"
  | .bool b => .ok (if b then "true" else "false")
  | .int n => .ok (intText n)
  | .double x => .ok (doubleText x)
  | .text s => .ok (stringText style.asciiOnly s)
  | .list items => do
    let texts ← writeItems style items
    pure ("[" ++ Text.join ", " texts ++ "]")
  | .map entries => do
    objectText style (← writeEntries style entries)
  | value => .ok (stringText style.asciiOnly value.plain)

/-- Items as JSON texts. -/
def writeItems (style : Style) : List Value → Except Failure (List String)
  | [] => .ok []
  | item :: items => do
    let text ← write style item
    let texts ← writeItems style items
    pure (text :: texts)

/-- Entries with their JSON texts. -/
def writeEntries (style : Style) : List (Value × Value) → Except Failure (List WrittenEntry)
  | [] => .ok []
  | (key, value) :: entries => do
    let name ← keyText key
    let text ← write style value
    let texts ← writeEntries style entries
    pure (⟨key, name, text⟩ :: texts)

end

end DynamicBlocks.Json
