import DynamicBlocks.Calendar.Moment
import DynamicBlocks.Number.Notation

/-!
# Date patterns

A pattern is a text in which single letters stand for parts of a moment; a backslash takes the next character as it is,
and all other characters stand for themselves. The seconds since the start of 1970 are counted by the clocks of a local
zone where a moment says nothing of its own.
-/

set_option autoImplicit false

namespace DynamicBlocks

/-- English names of the weekdays, Monday first. -/
def weekdayNames : List String :=
  ["Monday", "Tuesday", "Wednesday", "Thursday", "Friday", "Saturday", "Sunday"]

def monthNames : List String :=
  ["January", "February", "March", "April", "May", "June", "July", "August", "September", "October",
    "November", "December"]

/-- The hour on a twelve-hour clock. -/
def clockHour (hour : Nat) : Nat :=
  if hour % 12 = 0 then 12 else hour % 12

/-- The first three letters of a name. -/
def shortName (name : String) : String :=
  String.ofList (name.toList.take 3)

/-- What a pattern letter stands for: `none` if it is no pattern letter, `some none` if the moment has no
such part. -/
def patternPart? (zone : LocalZone) (m : Moment) (c : Char) : Option (Option String) :=
  let two (n : Nat) := some (some (Date.padded 2 n))
  let plain (n : Nat) := some (some (Date.padded 1 n))
  match c with
  | 'Y' => some (some (Date.padded 4 m.date.year))
  | 'y' => two (m.date.year % 100)
  | 'm' => two m.date.month
  | 'n' => plain m.date.month
  | 'd' => two m.date.day
  | 'j' => plain m.date.day
  | 'H' => two m.hour
  | 'G' => plain m.hour
  | 'h' => two (clockHour m.hour)
  | 'g' => plain (clockHour m.hour)
  | 'i' => two m.minute
  | 's' => two m.second
  | 'A' => some (some (if m.hour < 12 then "AM" else "PM"))
  | 'a' => some (some (if m.hour < 12 then "am" else "pm"))
  | 'D' => some (some (shortName (weekdayNames.getD m.date.weekday "")))
  | 'l' => some (some (weekdayNames.getD m.date.weekday ""))
  | 'M' => some (some (shortName (monthNames.getD (m.date.month - 1) "")))
  | 'F' => some (some (monthNames.getD (m.date.month - 1) ""))
  | 'U' => some ((m.timestamp? zone).map intText)
  | _ => none

/-- The characters of a pattern filled in; `none` if the moment lacks a part. -/
def fillPattern? (zone : LocalZone) (m : Moment) : List Char → Option (List Char)
  | [] => some []
  | ['\\'] => some []
  | '\\' :: c :: cs => (fillPattern? zone m cs).map (c :: ·)
  | c :: cs =>
    match patternPart? zone m c with
    | none => (fillPattern? zone m cs).map (c :: ·)
    | some part => do
      let part ← part
      let rest ← fillPattern? zone m cs
      pure (part.toList ++ rest)

/-- The moment written by a pattern. -/
def Moment.byPattern? (m : Moment) (pattern : String) (zone : LocalZone := .utc) : Option String :=
  (fillPattern? zone m pattern.toList).map String.ofList

end DynamicBlocks
