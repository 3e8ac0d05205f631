import DynamicBlocks.Number.Notation
import DynamicBlocks.Text.Quoted
import DynamicBlocks.Text.Search
import DynamicBlocks.Value.Basic

/-!
# Written values

The form a value has in messages and inside other written values: texts stand between quotes, lists in
square brackets, mappings in braces, and dates, loop references and parts of the library name what they are
made of. The plain form of a value is the same except that a text and a date stand for themselves, and
an object of the host for its own text. Integers are written whatever their length.
-/

set_option autoImplicit false

namespace DynamicBlocks

/-- Numbers with commas between. -/
def commaSeparated (ns : List Nat) : String :=
  Text.join ", " (ns.map fun n => intText (Int.ofNat n))

def Date.written (d : Date) : String :=
  "datetime.date(" ++ commaSeparated [d.year, d.month, d.day] ++ ")"

/-- The written form of a stretch of time: days, then seconds within a day, then microseconds. -/
def writtenSpan (microseconds : Int) : String :=
  let days := Int.fdiv microseconds 86400000000
  let rest := (Int.fmod microseconds 86400000000).toNat
  let part (name : String) (n : Int) := if n = 0 then [] else [name ++ "=" ++ intText n]
  let parts := part "days" days ++ part "seconds" (rest / 1000000 : Nat) ++ part "microseconds" (rest % 1000000 : Nat)
  "datetime.timedelta(" ++ (if parts.isEmpty then "0" else Text.join ", " parts) ++ ")"

/-- The written form of a moment; seconds and microseconds are left out where both, or the latter, are zero. -/
def Moment.written (m : Moment) : String :=
  let small := if m.microsecond ≠ 0 then [m.second, m.microsecond] else if m.second ≠ 0 then [m.second] else []
  let zone := match m.offset with
    | none => ""
    | some 0 => ", tzinfo=datetime.timezone.utc"
    | some offset => ", tzinfo=datetime.timezone(" ++ writtenSpan offset ++ ")"
  "datetime.datetime(" ++ commaSeparated ([m.date.year, m.date.month, m.date.day, m.hour, m.minute] ++ small) ++
    zone ++ ")"

/-- The name of a part of the library in its written form. -/
def BuiltKind.title : BuiltKind → String
  | .block _ => "Block"
  | .preset => "LoopPreset"
  | .entry => "DynamicContentEntry"
  | .source => "SourcePair"

/-- The written form of one of several choices: its name in capitals, and the text that stands for it. -/
def writtenChoice (choices s : String) : String :=
  let name := if s = "json" then "STRUCTURED_DATA"
    else String.ofList (s.toList.map fun c => if c = '-' then '_' else c.toUpper)
  "<" ++ choices ++ "." ++ name ++ ": " ++ Text.quoted s ++ ">"

/-- How the blocks inside a part of the library are held. -/
def BuiltKind.held : BuiltKind → SeriesKind
  | .block held => held
  | _ => .tuple

/-- Items in square or in round brackets; in round ones a comma stands behind a lone item. -/
def SeriesKind.bracketed (held : SeriesKind) (items : List String) : String :=
  match held with
  | .list => "[" ++ Text.join ", " items ++ "]"
  | .tuple => "(" ++ Text.join ", " items ++ (if items.length = 1 then ",)" else ")")

mutual

/-- The written form of a value. -/
def Value.written : Value → String
  | .null => "None"
  | .bool b => if b then "True" else "False"
  | .int n => intText n
  | .double x => x.text
  | .text s => Text.quoted s
  | .list items => SeriesKind.list.bracketed (Value.writtenItems items)
  | .map entries => "\x7b" ++ Text.join ", " (Value.writtenEntries entries) ++ "\x7d"
  | .loop key data => "LoopRef(key=" ++ Text.quoted key ++ ", data=" ++ Value.written data ++ ")"
  | .date d => d.written
  | .moment m => m.written
  | .object self _ => self.written
  | .built kind fields => kind.title ++ "(" ++ Text.join ", " (Value.writtenFields kind.held fields) ++ ")"

def Value.writtenItems : List Value → List String
  | [] => []
  | item :: items => Value.written item :: Value.writtenItems items

/-- The written forms of entries, key and value with a colon between. -/
def Value.writtenEntries : List (Value × Value) → List String
  | [] => []
  | (key, value) :: entries => (Value.written key ++ ": " ++ Value.written value) :: Value.writtenEntries entries

/-- The written forms of fields, name and value with an equals sign between. -/
def Value.writtenFields (held : SeriesKind) : List (String × Value) → List String
  | [] => []
  | (name, value) :: fields =>
    (name ++ "=" ++ Value.writtenField held name value) :: Value.writtenFields held fields

/-- The written form of the value of a field: blocks inside a block stand in the brackets of what holds them, and a
choice says what it is a choice of. -/
def Value.writtenField (held : SeriesKind) (name : String) : Value → String
  | .list items => (if name = "inner_blocks" then held else .list).bracketed (Value.writtenItems items)
  | .text s =>
    if name = "handler_type" then writtenChoice "HandlerType" s
    else if name = "kind" then writtenChoice "EntryKind" s
    else Text.quoted s
  | value => Value.written value

end

/-- The plain form of a value. -/
def Value.plain : Value → String
  | .text s => s
  | .date d => d.text
  | .moment m => m.text
  | .object self _ => self.shown
  | value => value.written

end DynamicBlocks
