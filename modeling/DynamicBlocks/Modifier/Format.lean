import DynamicBlocks.Calendar.Iso
import DynamicBlocks.Calendar.Pattern
import DynamicBlocks.Modifier.Conversion
import DynamicBlocks.Number.Format

/-!
# The format modifier

A number is shown in a number format; a count alone asks for that many decimal places. A number for which the
format makes no sense is taken as a point in time, in seconds since the start of 1970, and so is a text that
writes a number; dates, moments and texts in ISO form are shown by a date pattern. Any other value stays.
-/

set_option autoImplicit false

namespace DynamicBlocks.Value

open Text

/-- The moment that a number of seconds since the start of 1970 names. -/
def momentOfNumber? : Number → Option Moment
  | .int n => Moment.ofSeconds? n 0
  | .double x => Moment.ofDouble? x

/-- The moment that a value is or writes. -/
def toMoment? : Value → Option Moment
  | .moment m => some m
  | .date d => some (Moment.ofDate d)
  | .int n => momentOfNumber? (.int n)
  | .double x => momentOfNumber? (.double x)
  | .text s =>
    if isBlankText s then none
    else
      match Number.ofText? s with
      | some number => momentOfNumber? number
      | none => Moment.ofIso? (trim s)
  | _ => none

/-- The value shown by a date pattern, by year, month and day if the pattern is empty. -/
def byPattern (zone : LocalZone) (v : Value) (pattern : String) : Except Failure Value :=
  match v.toMoment? with
  | none => .ok v
  | some m =>
    match m.byPattern? (if pattern = "" then "Y-m-d" else pattern) zone with
    | some shown => .ok (.text shown)
    | none => .error .badValue

/-- Whether a format is a count of decimal places. -/
def asksPlaces (format : String) : Bool :=
  let cs := trimChars format.toList
  !cs.isEmpty && cs.all isDigitSign

/-- What a fault in showing a number amounts to. -/
def faultFailure : FormatFault → Failure
  | .invalid => .badValue
  | .tooLarge => .overflow

/-- A number with a count of decimal places. White space may stand around the count, information separators
may not. -/
def withPlaces (n : Number) (format : String) : Except Failure Value :=
  let cs := trimChars format.toList
  if cs.all isDigit && !format.toList.any isInformationSeparator then
    let spec := "." ++ intText (digitsValue cs) ++ "f"
    match (match n with
      | .int n => formatInt n spec
      | .double x => formatDouble x spec) with
    | .ok shown => .ok (.text shown)
    | .error fault => .error (faultFailure fault)
  else .error .badValue

/-- A number in a number format, or by a date pattern if the format is none. -/
def numberFormatted (zone : LocalZone) (n : Number) (format : String) : Except Failure Value :=
  if asksPlaces format then withPlaces n format
  else
    match (match n with
      | .int n => formatInt n format
      | .double x => formatDouble x format) with
    | .ok shown => .ok (.text shown)
    | .error .tooLarge => .error .overflow
    | .error .invalid => (ofNumber n).byPattern zone format

/-- The value in a format. -/
def formatted (zone : LocalZone) (v : Value) (format : Option Value) : Except Failure Value := do
  let format ← (format.getD (.text "")).display
  match v with
  | .int n => numberFormatted zone (.int n) format
  | .double x => numberFormatted zone (.double x) format
  | v => v.byPattern zone format

end DynamicBlocks.Value
