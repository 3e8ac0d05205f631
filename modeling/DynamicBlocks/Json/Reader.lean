import DynamicBlocks.Calendar.Iso
import DynamicBlocks.Text.CodePoint
import DynamicBlocks.Value.Basic

/-!
# Reading JSON

JSON text as a value. Beyond the standard, `NaN`, `Infinity` and `-Infinity` are read as numbers; whatever is
read as `NaN` has one origin, number 0. Of equal keys in an object the last wins, at the place of the first. Integers
are read whatever their length.
Every value is shorter than the text it is read from, so the length of the text bounds the nesting.
-/

set_option autoImplicit false

namespace DynamicBlocks.Json

/-- Whether JSON passes over the character between values. -/
def isSpace (c : Char) : Bool :=
  c == ' ' || c == '\t' || c == '\n' || c == '\r'

def skipSpaces (cs : List Char) : List Char :=
  cs.dropWhile isSpace

/-- The value of a hexadecimal digit. -/
def hexValue? (c : Char) : Option Nat :=
  if c.isDigit then some (c.toNat - 48)
  else if 'a' ≤ c ∧ c ≤ 'f' then some (c.toNat - 87)
  else if 'A' ≤ c ∧ c ≤ 'F' then some (c.toNat - 55)
  else none

/-- Four hexadecimal digits in front, and what follows. -/
def takeUnit? : List Char → Option (Nat × List Char)
  | a :: b :: c :: d :: rest => do
    pure ((← hexValue? a) * 4096 + (← hexValue? b) * 256 + (← hexValue? c) * 16 + (← hexValue? d), rest)
  | _ => none

/-- What a letter behind a backslash stands for. -/
def escaped? (c : Char) : Option Char :=
  match c with
  | '"' => some '"'
  | '\\' => some '\\'
  | '/' => some '/'
  | 'b' => some (Char.ofNat 8)
  | 'f' => some (Char.ofNat 12)
  | 'n' => some '\n'
  | 'r' => some '\r'
  | 't' => some '\t'
  | _ => none

/-- The character of an escape by code, where a high unit takes a low one that follows with it; a surrogate alone stands
for itself. -/
def takeCode? (cs : List Char) : Option (Char × List Char) := do
  let (high, rest) ← takeUnit? cs
  match rest with
  | '\\' :: 'u' :: more =>
    match takeUnit? more with
    | some (low, after) =>
      match Text.combined? high low with
      | some code => pure (Char.ofNat code, after)
      | none => pure (Text.ofCodePoint high, rest)
    | none => pure (Text.ofCodePoint high, rest)
  | _ => pure (Text.ofCodePoint high, rest)

/-- The rest of a string after its opening quote, and what follows the closing one. -/
def takeString? : (steps : Nat) → List Char → Option (List Char × List Char)
  | 0, _ => none
  | _, [] => none
  | steps + 1, c :: cs =>
    if c = '"' then some ([], cs)
    else if c.toNat < 0x20 then none
    else if c = '\\' then
      match cs with
      | [] => none
      | 'u' :: more => do
        let (char, rest) ← takeCode? more
        let (chars, rest) ← takeString? steps rest
        pure (char :: chars, rest)
      | e :: more => do
        let char ← escaped? e
        let (chars, rest) ← takeString? steps more
        pure (char :: chars, rest)
    else do
      let (chars, rest) ← takeString? steps cs
      pure (c :: chars, rest)

/-- The digits of a whole number: a lone zero, or no zero in front. -/
def takeWhole? (cs : List Char) : Option (List Char × List Char) :=
  match cs with
  | '0' :: rest => some (['0'], rest)
  | _ =>
    let digits := cs.takeWhile Char.isDigit
    if digits.isEmpty then none else some (digits, cs.dropWhile Char.isDigit)

/-- A point with digits behind it, if there is one. -/
def takeFraction (cs : List Char) : Option (List Char) × List Char :=
  match cs with
  | '.' :: rest =>
    let digits := rest.takeWhile Char.isDigit
    if digits.isEmpty then (none, cs) else (some digits, rest.dropWhile Char.isDigit)
  | _ => (none, cs)

/-- An exponent of ASCII digits, if there is one. -/
def takePower (cs : List Char) : Option Int × List Char :=
  match cs with
  | [] => (none, [])
  | mark :: rest =>
    if mark = 'e' ∨ mark = 'E' then
      let signed := takeSign rest
      let digits := signed.2.takeWhile Char.isDigit
      if digits.isEmpty then (none, cs)
      else
        let size : Int := Text.digitsValue digits
        (some (if signed.1 then -size else size), signed.2.dropWhile Char.isDigit)
    else (none, cs)

/-- A number in front: whole if it has neither fraction nor exponent. -/
def takeNumber? (cs : List Char) : Option (Value × List Char) := do
  let (negative, cs) := match cs with
    | '-' :: rest => (true, rest)
    | cs => (false, cs)
  let (whole, cs) ← takeWhole? cs
  let (fraction, cs) := takeFraction cs
  let (power, cs) := takePower cs
  let numeral : Numeral := ⟨negative, whole, fraction, power⟩
  if fraction.isSome || power.isSome then pure (.double numeral.toDouble, cs)
  else pure (.int numeral.toInt, cs)

/-- A word in front of the text, and what follows it. -/
def takeWord? (word : String) (cs : List Char) : Option (List Char) :=
  if word.toList.isPrefixOf cs then some (cs.drop word.length) else none

/-- A value that is one word, and what follows it. -/
def takeConstant? (cs : List Char) : Option (Value × List Char) :=
  let words : List (String × Value) :=
    [("null", .null), ("true", .bool true), ("false", .bool false), ("NaN", .double (.nan (some 0))),
      ("Infinity", .double (.infinite false)), ("-Infinity", .double (.infinite true))]
  words.findSome? fun word => (takeWord? word.1 cs).map fun rest => (word.2, rest)

mutual

/-- A value in front, and what follows it. -/
def takeValue? : (depth : Nat) → List Char → Option (Value × List Char)
  | 0, _ => none
  | depth + 1, cs =>
    match cs with
    | [] => none
    | '"' :: rest => do
      let (chars, rest) ← takeString? (rest.length + 1) rest
      pure (.text (String.ofList chars), rest)
    | '[' :: rest =>
      match skipSpaces rest with
      | ']' :: after => some (.list [], after)
      | items => do
        let (items, rest) ← takeItems? depth items
        pure (.list items, rest)
    | '\x7b' :: rest =>
      match skipSpaces rest with
      | '\x7d' :: after => some (.map [], after)
      | members => do
        let (pairs, rest) ← takeMembers? depth members
        pure (.map (Entries.ofPairs pairs), rest)
    | _ => (takeConstant? cs).or (takeNumber? cs)

/-- Items separated by commas up to the closing bracket, and what follows it. -/
def takeItems? : (depth : Nat) → List Char → Option (List Value × List Char)
  | 0, _ => none
  | depth + 1, cs => do
    let (item, rest) ← takeValue? depth cs
    match skipSpaces rest with
    | ']' :: after => pure ([item], after)
    | ',' :: more => do
      let (items, rest) ← takeItems? depth (skipSpaces more)
      pure (item :: items, rest)
    | _ => none

/-- Members separated by commas up to the closing brace, and what follows it. -/
def takeMembers? : (depth : Nat) → List Char → Option (List (Value × Value) × List Char)
  | 0, _ => none
  | depth + 1, cs =>
    match cs with
    | '"' :: rest => do
      let (name, rest) ← takeString? (rest.length + 1) rest
      match skipSpaces rest with
      | ':' :: more => do
        let (value, rest) ← takeValue? depth (skipSpaces more)
        let member := (Value.text (String.ofList name), value)
        match skipSpaces rest with
        | '\x7d' :: after => pure ([member], after)
        | ',' :: more => do
          let (members, rest) ← takeMembers? depth (skipSpaces more)
          pure (member :: members, rest)
        | _ => none
      | _ => none
    | _ => none

end

/-- The value that makes up the whole text, spaces around it aside. -/
def read? (s : String) : Option Value := do
  let (value, rest) ← takeValue? (s.length + 1) (skipSpaces s.toList)
  if (skipSpaces rest).isEmpty then pure value else none

end DynamicBlocks.Json
