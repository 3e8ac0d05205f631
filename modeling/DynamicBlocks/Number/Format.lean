import DynamicBlocks.Number.Notation
import DynamicBlocks.Text.Digit

/-!
# Number formats

A format is written in one line: fill and alignment, sign, `z` to show a rounded zero without minus, `#` for
the alternate form, `0` for filling with zeros behind the sign, width, thousands separator, `.` and
precision, and a letter for the presentation, each part optional. Reading a format and laying out a number by
it are kept apart.
-/

set_option autoImplicit false

namespace DynamicBlocks

open Text

/-- Why a number cannot be shown in a format. -/
inductive FormatFault where
  /-- The format is malformed or does not suit the number. -/
  | invalid
  /-- The number is too large for the presentation. -/
  | tooLarge
  deriving DecidableEq

/-- Where a number stands in a wider field. -/
inductive Alignment where
  | left
  | right
  | center
  /-- Filling goes between sign and digits. -/
  | behindSign
  deriving DecidableEq

/-- When a sign is shown. -/
inductive SignStyle where
  /-- Minus only. -/
  | minus
  /-- Plus or minus. -/
  | always
  /-- A blank in place of plus. -/
  | blank
  deriving DecidableEq

/-- How digits are grouped. -/
inductive Grouping where
  | ungrouped
  | comma
  | underscore
  deriving DecidableEq

/-- A format taken apart. -/
structure NumberFormat where
  fill : Char
  align : Alignment
  /-- The sign that was written, if any. -/
  sign : Option SignStyle
  plainZero : Bool
  alternate : Bool
  /-- Least width of the field, if one is written. -/
  width : Option Nat
  grouping : Grouping
  precision : Option Nat
  /-- The letter of the presentation, if one is written. -/
  presentation : Option Char
  deriving DecidableEq

/-- The alignment that a character asks for. -/
def Alignment.ofChar? : Char → Option Alignment
  | '<' => some .left
  | '>' => some .right
  | '^' => some .center
  | '=' => some .behindSign
  | _ => none

/-- Fill and alignment in front. -/
def takeAlignment (cs : List Char) : Option Char × Option Alignment × List Char :=
  match cs with
  | fill :: mark :: rest =>
    match Alignment.ofChar? mark with
    | some align => (some fill, some align, rest)
    | none =>
      match Alignment.ofChar? fill with
      | some align => (none, some align, mark :: rest)
      | none => (none, none, cs)
  | [mark] =>
    match Alignment.ofChar? mark with
    | some align => (none, some align, [])
    | none => (none, none, cs)
  | [] => (none, none, [])

/-- The sign style in front. -/
def takeSignStyle : List Char → Option SignStyle × List Char
  | '+' :: rest => (some .always, rest)
  | '-' :: rest => (some .minus, rest)
  | ' ' :: rest => (some .blank, rest)
  | rest => (none, rest)

/-- Whether the character stands in front, and what follows it. -/
def takeMark (mark : Char) : List Char → Bool × List Char
  | [] => (false, [])
  | c :: cs => if c = mark then (true, cs) else (false, c :: cs)

/-- The greatest count that a format may name. -/
def greatestCount : Nat := 9223372036854775807

/-- A count in front, if there is one. -/
def takeCount (cs : List Char) : Except FormatFault (Option Nat × List Char) :=
  let digits := cs.takeWhile isDigit
  if digits.isEmpty then .ok (none, cs)
  else if greatestCount < digitsValue digits then .error .invalid
  else .ok (some (digitsValue digits), cs.dropWhile isDigit)

/-- The thousands separator in front; two different ones contradict each other. -/
def takeGrouping : List Char → Except FormatFault (Grouping × List Char)
  | ',' :: '_' :: _ => .error .invalid
  | '_' :: ',' :: _ => .error .invalid
  | ',' :: rest => .ok (.comma, rest)
  | '_' :: rest => .ok (.underscore, rest)
  | rest => .ok (.ungrouped, rest)

/-- The precision in front; a point asks for a count. -/
def takePrecision : List Char → Except FormatFault (Option Nat × List Char)
  | '.' :: rest => do
    let (count, rest) ← takeCount rest
    if count.isNone then .error .invalid else .ok (count, rest)
  | rest => .ok (none, rest)

/-- Whether a presentation can group its digits in this way. -/
def Grouping.suits (presentation : Option Char) : Grouping → Bool
  | .ungrouped => true
  | .comma => match presentation with
    | none => true
    | some c => "defgEG%F".toList.contains c
  | .underscore => match presentation with
    | none => true
    | some c => "defgEG%FboxX".toList.contains c

/-- A format read from its text. -/
def NumberFormat.ofChars (cs : List Char) : Except FormatFault NumberFormat := do
  let (fill, align, cs) := takeAlignment cs
  let (sign, cs) := takeSignStyle cs
  let (plainZero, cs) := takeMark 'z' cs
  let (alternate, cs) := takeMark '#' cs
  let (zeroFill, cs) := if fill.isSome then (false, cs) else takeMark '0' cs
  let (width, cs) ← takeCount cs
  let (grouping, cs) ← takeGrouping cs
  let (precision, cs) ← takePrecision cs
  let presentation ← match cs with
    | [] => pure none
    | [c] => pure (some c)
    | _ => .error .invalid
  if grouping.suits presentation then
    pure {
      fill := fill.getD (if zeroFill then '0' else ' ')
      align := align.getD (if zeroFill then .behindSign else .right)
      sign, plainZero, alternate, width, grouping, precision, presentation }
  else .error .invalid

/-- A number cut up for layout. -/
structure NumberParts where
  negative : Bool
  /-- What stands between sign and digits, such as `0x`. -/
  lead : List Char
  /-- The digits that may be grouped. -/
  digits : List Char
  /-- All that follows the grouped digits. -/
  rest : List Char

/-- Digits, given in reverse, in groups of `size` with a separator between, filled up with zeros to a width
that counts the separators. -/
def groupReversed (size : Nat) (separator : Option Char) : (rounds : Nat) → List Char → (width : Int) →
    List Char
  | 0, digits, _ => digits
  | rounds + 1, digits, width =>
    let length := min (size : Int) (max (max (digits.length : Int) width) 1)
    let group := digits.take length.toNat ++ zeros (length - digits.length)
    let left := digits.drop length.toNat
    let width := width - length
    if left.isEmpty && decide (width ≤ 0) then group
    else group ++ separator.toList ++ groupReversed size separator rounds left (width - separator.toList.length)

/-- Digits grouped by a separator and filled up with zeros to a width. -/
def groupDigits (size : Nat) (separator : Option Char) (digits : List Char) (width : Int) : List Char :=
  if digits.isEmpty then []
  else
    match separator with
    | none => zeros (width - digits.length) ++ digits
    | some c => (groupReversed size (some c) (digits.length + width.toNat + 1) digits.reverse width).reverse

/-- The sign that is shown. -/
def NumberFormat.signChars (format : NumberFormat) (negative : Bool) : List Char :=
  if negative then ['-']
  else
    match format.sign with
    | some .always => ['+']
    | some .blank => [' ']
    | _ => []

/-- The separator between groups, and how many digits make a group: four for the binary presentations. -/
def NumberFormat.separator (format : NumberFormat) : Nat × Option Char :=
  match format.grouping with
  | .ungrouped => (3, none)
  | .comma => (3, some ',')
  | .underscore => match format.presentation with
    | some c => (if "boxX".toList.contains c then 4 else 3, some '_')
    | none => (3, some '_')

/-- The parts laid out in the field. -/
def NumberFormat.layout (format : NumberFormat) (parts : NumberParts) : List Char :=
  let sign := format.signChars parts.negative
  let fixed : Int := (sign.length + parts.lead.length + parts.rest.length : Nat)
  let width : Int := match format.width with
    | some w => w
    | none => -1
  let (size, separator) := format.separator
  let inner := if format.fill = '0' ∧ format.align = .behindSign then width - fixed else 0
  let digits := groupDigits size separator parts.digits inner
  let padding := (width - fixed - digits.length).toNat
  let fill (n : Nat) := List.replicate n format.fill
  match format.align with
  | .left => sign ++ parts.lead ++ digits ++ parts.rest ++ fill padding
  | .right => fill padding ++ sign ++ parts.lead ++ digits ++ parts.rest
  | .center => fill (padding / 2) ++ sign ++ parts.lead ++ digits ++ parts.rest ++ fill (padding - padding / 2)
  | .behindSign => sign ++ parts.lead ++ fill padding ++ digits ++ parts.rest

/-- The greatest precision of a double. -/
def greatestPrecision : Nat := 2147483647

/-- Digits of a size with a set number of places after the point. -/
def fixedChars (num den places : Nat) (alternate : Bool) : List Char :=
  let digits := Nat.toDigits 10 (digitsAt num den (-(places : Int))).value
  positional digits (digits.length - places) places alternate

/-- Digits of a size with a set number of places in scientific form. -/
def scientificChars (num den places : Nat) (alternate : Bool) : List Char :=
  if num = 0 then scientific ['0'] 1 places alternate
  else
    let digits := digitsOf num den (places + 1)
    scientific digits.chars digits.point places alternate

/-- Digits of a size with a set number of digits, positional unless the exponent is below -4 or reaches
`limit`. The alternate form keeps zeros at the end; `whole` shows at least one digit after the point. -/
def generalChars (num den count limit : Nat) (alternate whole : Bool) : List Char :=
  let digits : Digits := if num = 0 then ⟨0, 0⟩ else digitsOf num den count
  let bare := digits.dropZeros (digits.chars.length)
  let point := if num = 0 then 1 else digits.point
  if decide (-4 < point) && decide (point ≤ limit) then
    let places : Int := if alternate then count - point else 0
    positional bare.chars point (if whole then max places 1 else places) alternate
  else
    scientific bare.chars point (if alternate then (count : Int) - 1 else 0) alternate

/-- Shortest digits of a size, laid out as in plain texts. -/
def plainChars (x : Double) (alternate : Bool) : List Char :=
  if x.isZero then ['0', '.', '0']
  else
    let digits := shortestDigits x.abs
    if isPositional digits.point then positional digits.chars digits.point 1 alternate
    else scientific digits.chars digits.point 0 alternate

/-- The unsigned text of a finite double in a presentation. -/
def presented (format : NumberFormat) (x : Double) : List Char :=
  let num := x.ratio.1.natAbs
  let den := x.ratio.2
  let precision := format.precision.getD 6
  match format.presentation with
  | none => match format.precision with
    | none => plainChars x format.alternate
    | some count => generalChars num den (max count 1) (max count 1 - 1) format.alternate true
  | some c =>
    if c = 'e' ∨ c = 'E' then scientificChars num den precision format.alternate
    else if c = 'f' ∨ c = 'F' ∨ c = '%' then fixedChars num den precision format.alternate
    else generalChars num den (max precision 1) (max precision 1) format.alternate false

/-- Whether all digits of a text are zeros. -/
def showsZero (cs : List Char) : Bool :=
  (cs.takeWhile fun c => c != 'e' && c != 'E').all fun c => c == '0' || c == '.'

/-- The double laid out by the format. -/
def NumberFormat.double (format : NumberFormat) (x : Double) : Except FormatFault String :=
  let known := match format.presentation with
    | none => true
    | some c => "eEfFgGn%".toList.contains c
  if !known || decide (greatestPrecision < format.precision.getD 0) then .error .invalid
  else
    let percent := format.presentation == some '%'
    let x := if percent then x.scale 100 else x
    let chars := match x with
      | .nan _ => "nan".toList
      | .infinite _ => "inf".toList
      | x => presented format x
    let capital := format.presentation.any Char.isUpper
    let chars := (if capital then chars.map Char.toUpper else chars) ++ (if percent then ['%'] else [])
    let negative := x.isNegative && !(format.plainZero && x.isFinite && showsZero (presented format x))
    .ok <| String.ofList <| format.layout
      ⟨negative, [], chars.takeWhile Char.isDigit, chars.dropWhile Char.isDigit⟩

/-- The base of a presentation of whole numbers, with the mark of the alternate form. -/
def baseOf (c : Char) : Nat × List Char :=
  if c = 'b' then (2, ['0', 'b'])
  else if c = 'o' then (8, ['0', 'o'])
  else if c = 'x' then (16, ['0', 'x'])
  else if c = 'X' then (16, ['0', 'X'])
  else (10, [])

/-- The whole number laid out by the format as digits of a base, or as the character of that code. -/
def NumberFormat.digitsOrChar (format : NumberFormat) (n : Int) (c : Char) : Except FormatFault String :=
  if format.precision.isSome || format.plainZero then .error .invalid
  else if c = 'c' then
    if format.sign.isSome || format.alternate then .error .invalid
    else if n < 0 ∨ 0x10ffff < n then .error .tooLarge
    else .ok <| String.ofList <| format.layout ⟨false, [], [], [Char.ofNat n.toNat]⟩
  else
    let (base, mark) := baseOf c
    let digits := Nat.toDigits base n.natAbs
    .ok <| String.ofList <| format.layout
      ⟨decide (n < 0), if format.alternate then mark else [],
        if c = 'X' then digits.map Char.toUpper else digits, []⟩

/-- The whole number laid out by the format; the presentations of doubles take the nearest double. -/
def NumberFormat.int (format : NumberFormat) (n : Int) : Except FormatFault String :=
  let c := format.presentation.getD 'd'
  if "bcdoxXn".toList.contains c then format.digitsOrChar n c
  else if "eEfFgG%".toList.contains c then
    let x := Double.ofInt n
    if x.isFinite then format.double x else .error .tooLarge
  else .error .invalid

/-- A whole number in the format that a text describes; the empty one is plain. -/
def formatInt (n : Int) (text : String) : Except FormatFault String := do
  if text.isEmpty then return intText n
  (← NumberFormat.ofChars text.toList).int n

/-- A double in the format that a text describes; the empty one is plain. -/
def formatDouble (x : Double) (text : String) : Except FormatFault String := do
  if text.isEmpty then return x.text
  (← NumberFormat.ofChars text.toList).double x

end DynamicBlocks
