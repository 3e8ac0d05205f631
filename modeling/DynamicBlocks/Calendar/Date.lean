/-!
# Dates

Dates of the Gregorian calendar, extended back to the year 1, and their numbering by days: day 1 is the first
of January of the year 1, a Monday. Moments, weekdays and ISO weeks are computed through the day number.
-/

set_option autoImplicit false

namespace DynamicBlocks

/-- A day of the calendar. -/
structure Date where
  year : Nat
  month : Nat
  day : Nat
  deriving DecidableEq, Inhabited

def isLeap (year : Nat) : Bool :=
  year % 4 == 0 && (year % 100 != 0 || year % 400 == 0)

/-- Days of a month; none for a month that does not exist. -/
def daysInMonth (year month : Nat) : Nat :=
  if month = 2 then if isLeap year then 29 else 28
  else if month ∈ [4, 6, 9, 11] then 30
  else if month ∈ [1, 3, 5, 7, 8, 10, 12] then 31
  else 0

def daysBeforeYear (year : Nat) : Nat :=
  let past := year - 1
  past * 365 + past / 4 - past / 100 + past / 400

def daysBeforeMonth (year month : Nat) : Nat :=
  (List.range' 1 (month - 1)).foldl (fun days earlier => days + daysInMonth year earlier) 0

namespace Date

/-- Whether the day exists, in the years 1 to 9999. -/
def isValid (d : Date) : Bool :=
  decide (1 ≤ d.year) && decide (d.year ≤ 9999) &&
    decide (1 ≤ d.day) && decide (d.day ≤ daysInMonth d.year d.month)

def dayNumber (d : Date) : Nat :=
  daysBeforeYear d.year + daysBeforeMonth d.year d.month + d.day

/-- Days since Monday: 0 to 6. -/
def weekday (d : Date) : Nat :=
  (d.dayNumber + 6) % 7

/-- The month and day of the `offset`-th day of a year, counted from 0, looked for from a month on. -/
def inYear (year : Nat) : (months month offset : Nat) → Date
  | 0, month, offset => ⟨year, month, offset + 1⟩
  | months + 1, month, offset =>
    if offset < daysInMonth year month then ⟨year, month, offset + 1⟩
    else inYear year months (month + 1) (offset - daysInMonth year month)

/-- The date of a day number: cycles of 400, 100, 4 years and single years are taken off in turn. -/
def ofDayNumber (number : Nat) : Date :=
  let day := number - 1
  let cycle := day / 146097
  let day := day % 146097
  let century := min 3 (day / 36524)
  let day := day - century * 36524
  let four := day / 1461
  let day := day % 1461
  let single := min 3 (day / 365)
  let day := day - single * 365
  inYear (cycle * 400 + century * 100 + four * 4 + single + 1) 11 1 day

/-- The number of the last day of the year 9999. -/
def lastDayNumber : Nat := 3652059

/-- The Monday of the first ISO week of a year, as day number: the week that holds the first Thursday. -/
def firstIsoMonday (year : Nat) : Int :=
  let first : Date := ⟨year, 1, 1⟩
  let monday : Int := (first.dayNumber : Int) - first.weekday
  if 3 < first.weekday then monday + 7 else monday

/-- Whether a year has a 53rd ISO week. -/
def hasLongIsoYear (year : Nat) : Bool :=
  let weekday := (⟨year, 1, 1⟩ : Date).weekday
  weekday == 3 || (weekday == 2 && isLeap year)

/-- The date of a day of an ISO week, if both exist. -/
def ofIsoWeek? (year week day : Nat) : Option Date :=
  let exists? := decide (1 ≤ week) && (decide (week ≤ 52) || (week == 53 && hasLongIsoYear year)) &&
    decide (1 ≤ day) && decide (day ≤ 7) && decide (1 ≤ year)
  let number := firstIsoMonday year + (week - 1 : Nat) * 7 + (day - 1 : Nat)
  if exists? && decide (1 ≤ number) && decide (number ≤ lastDayNumber) then some (ofDayNumber number.toNat)
  else none

/-- Numbers of two or four digits, filled up with zeros. -/
def padded (width n : Nat) : String :=
  let digits := Nat.toDigits 10 n
  String.ofList (List.replicate (width - digits.length) '0' ++ digits)

/-- Year, month and day with hyphens between. -/
def text (d : Date) : String :=
  padded 4 d.year ++ "-" ++ padded 2 d.month ++ "-" ++ padded 2 d.day

end Date

end DynamicBlocks
