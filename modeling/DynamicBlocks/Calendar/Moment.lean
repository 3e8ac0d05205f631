import DynamicBlocks.Calendar.Date
import DynamicBlocks.Number.Double

/-!
# Moments

A moment is a day and a time of day to the microsecond. It may carry its distance from universal time. One that does
not is what a clock shows where the program runs, so which point in time it is depends on the local zone; it is never
equal to one that does.
-/

set_option autoImplicit false

namespace DynamicBlocks

/-- A day and a time of day. -/
structure Moment where
  date : Date
  hour : Nat
  minute : Nat
  second : Nat
  microsecond : Nat
  /-- Microseconds ahead of universal time, if known. -/
  offset : Option Int
  deriving DecidableEq, Inhabited

/-- A local zone: how many seconds its clocks are ahead of universal time, by the seconds since the start of 1970. -/
abbrev LocalZone := Int → Int

/-- The zone whose clocks show universal time. -/
def LocalZone.utc : LocalZone := fun _ => 0

namespace Moment

/-- The day number of the first of January 1970. -/
def epochDay : Nat := 719163

def ofDate (d : Date) : Moment := ⟨d, 0, 0, 0, 0, none⟩

/-- Whether day and time exist. -/
def isValid (m : Moment) : Bool :=
  m.date.isValid && decide (m.hour < 24) && decide (m.minute < 60) && decide (m.second < 60) &&
    decide (m.microsecond < 1000000)

/-- Seconds since the start of 1970 by the clock of the moment. -/
def clockSeconds (m : Moment) : Int :=
  ((m.date.dayNumber : Int) - epochDay) * 86400 + (m.hour * 3600 + m.minute * 60 + m.second : Nat)

/-- Microseconds since the start of 1970, universal time; a moment without an offset is read as if it had none to
make up for. -/
def instant (m : Moment) : Int :=
  m.clockSeconds * 1000000 + m.microsecond - m.offset.getD 0

/-- Whether two moments are the same: with known offsets the same instant, without the same clock reading. -/
def same (a b : Moment) : Bool :=
  a.offset.isSome == b.offset.isSome && a.instant == b.instant

/-- The moment in universal time that lies whole seconds and microseconds after the start of 1970, within
the years 1 to 9999. -/
def ofSeconds? (seconds : Int) (microsecond : Nat) : Option Moment :=
  let number := Int.fdiv seconds 86400 + epochDay
  let second := (Int.fmod seconds 86400).toNat
  if 1 ≤ number ∧ number ≤ Date.lastDayNumber then
    some ⟨Date.ofDayNumber number.toNat, second / 3600, second / 60 % 60, second % 60, microsecond, some 0⟩
  else none

/-- The moment that lies a number of seconds after the start of 1970. The fraction is multiplied by a million
as a double and then rounded to whole microseconds. -/
def ofDouble? (x : Double) : Option Moment :=
  if x.isFinite then
    let whole := x.truncate
    let rest := (x.ratio.1 - whole * x.ratio.2).natAbs
    let scaled := ((Double.ofRatio false rest x.ratio.2).scale 1000000).ratio
    let micro := roundQuotient scaled.1.natAbs scaled.2
    if x.isNegative then
      if micro = 0 then ofSeconds? whole 0
      else ofSeconds? (whole - 1) (1000000 - micro)
    else if micro = 1000000 then ofSeconds? (whole + 1) 0
    else ofSeconds? whole micro
  else none

/-- What clocks of a zone show at a point in time, if it lies in the years 1 to 9999. -/
def clockAt? (zone : LocalZone) (seconds : Int) : Option Int :=
  let shown := seconds + zone seconds
  let number := Int.fdiv shown 86400 + epochDay
  if 1 ≤ number ∧ number ≤ Date.lastDayNumber then some shown else none

/-- The point in time at which clocks of a zone show a number of seconds. Clocks that are set back show some of them
twice, which stands for the earlier time; clocks that are set forward leave some out, and these are read by what the
clocks are ahead before. The day before the one looked for has to be in the years 1 to 9999 too. -/
def secondsAt? (zone : LocalZone) (shown : Int) : Option Int := do
  let ahead := (← clockAt? zone shown) - shown
  let first := shown - ahead
  let there ← clockAt? zone first
  let other ← if there = shown then (fun s => s - (first - 86400)) <$> clockAt? zone (first - 86400)
    else pure (there - first)
  if there = shown ∧ other = ahead then pure first
  else
    let second := shown - other
    let again ← clockAt? zone second
    pure (if again = shown then second else if there = shown then first else max first second)

/-- Seconds since the start of 1970, cut to a whole number after passing through a double. -/
def timestamp? (zone : LocalZone) (m : Moment) : Option Int :=
  match m.offset with
  | some _ => some (Double.ofRatio (decide (m.instant < 0)) m.instant.natAbs 1000000).truncate
  | none => do
    let seconds ← secondsAt? zone m.clockSeconds
    let fraction := (Double.ofRatio false m.microsecond 1000000).ratio
    let sum := seconds * fraction.2 + fraction.1
    pure (Double.ofRatio (decide (sum < 0)) sum.natAbs fraction.2).truncate

/-- Hours and minutes of an offset with its sign; seconds and microseconds only where they are not zero. -/
def offsetText (offset : Int) : String :=
  let size := offset.natAbs
  let seconds := size / 1000000
  let micro := size % 1000000
  (if offset < 0 then "-" else "+") ++ Date.padded 2 (seconds / 3600) ++ ":" ++ Date.padded 2 (seconds / 60 % 60) ++
    (if seconds % 60 = 0 ∧ micro = 0 then "" else ":" ++ Date.padded 2 (seconds % 60)) ++
    (if micro = 0 then "" else "." ++ Date.padded 6 micro)

/-- Date and time with a mark between, microseconds only where they are not zero, and the offset if known. -/
def textWith (mark : String) (m : Moment) : String :=
  m.date.text ++ mark ++ Date.padded 2 m.hour ++ ":" ++ Date.padded 2 m.minute ++ ":" ++ Date.padded 2 m.second ++
    (if m.microsecond = 0 then "" else "." ++ Date.padded 6 m.microsecond) ++
    (match m.offset with
    | some offset => offsetText offset
    | none => "")

/-- The plain text: a blank between date and time. -/
def text (m : Moment) : String := m.textWith " "

/-- The ISO form: the letter T between date and time. -/
def isoText (m : Moment) : String := m.textWith "T"

end Moment

end DynamicBlocks
