import DynamicBlocks.Calendar.Moment

/-!
# Reading ISO dates

Dates are read as year, month and day or as ISO week and day, with hyphens or without. A time may follow
after any one character: hours, minutes and seconds with colons or without, a fraction, and a distance from
universal time. Only ASCII digits count. Texts are read byte by byte, each byte as the character of its number;
one stray byte before the sign of a distance is passed over.
-/

set_option autoImplicit false

namespace DynamicBlocks

def asciiDigit? (c : Char) : Option Nat :=
  if c.isDigit then some (c.toNat - 48) else none

/-- A number of exactly `count` digits in front, and what follows. -/
def takeDigits? : (count : Nat) → List Char → Option (Nat × List Char)
  | 0, cs => some (0, cs)
  | _ + 1, [] => none
  | count + 1, c :: cs => do
    let digit ← asciiDigit? c
    let (value, rest) ← takeDigits? count cs
    pure (digit * Nat.pow 10 count + value, rest)

/-- Where the date of a text ends, judged by its hyphens and the week mark `W`. -/
def isoDateLength? (cs : List Char) : Option Nat :=
  let mark (i : Nat) (c : Char) := cs[i]? == some c
  let digit (i : Nat) := (cs[i]?.map Char.isDigit).getD false
  if cs.length < 7 then none
  else if cs.length = 7 then some 7
  else if mark 4 '-' then
    if mark 5 'W' then
      if mark 8 '-' then
        if cs.length = 9 then none
        else if digit 10 then some 8
        else some 10
      else some 8
    else some 10
  else if mark 4 'W' then
    let run := 7 + ((cs.drop 7).takeWhile Char.isDigit).length
    if run < 9 then some run
    else if run % 2 = 0 then some 7
    else some 8
  else some 8

/-- The day of an ISO week after the week; the first one if it is left out. -/
def isoWeekday? (hyphens : Bool) : List Char → Option Nat
  | [] => some 1
  | c :: cs => do
    let cs ← if hyphens then (if c = '-' then some cs else none) else some (c :: cs)
    let (day, _) ← takeDigits? 1 cs
    pure day

/-- A date that makes up the whole text. -/
def isoDate? (cs : List Char) : Option Date := do
  let (year, cs) ← takeDigits? 4 cs
  let hyphens := cs.head? == some '-'
  let cs := if hyphens then cs.drop 1 else cs
  if cs.head? == some 'W' then
    let (week, cs) ← takeDigits? 2 (cs.drop 1)
    Date.ofIsoWeek? year week (← isoWeekday? hyphens cs)
  else
    let (month, cs) ← takeDigits? 2 cs
    let cs ← if hyphens then (if cs.head? == some '-' then some (cs.drop 1) else none) else some cs
    let (day, cs) ← takeDigits? 2 cs
    let date : Date := ⟨year, month, day⟩
    if cs.isEmpty && date.isValid then some date else none

/-- A time of day as read, and whether a character is left over at its end. -/
structure TimeReading where
  hour : Nat
  minute : Nat
  second : Nat
  microsecond : Nat
  leftOver : Bool

/-- Whether the character is there and is not the null character. -/
def isPresent : Option Char → Bool
  | none => false
  | some c => c != Char.ofNat 0

/-- The microseconds of a fraction, of which six digits count. -/
def fraction? (next : Option Char) (cs : List Char) : Option (Nat × Bool) := do
  let count := min 6 cs.length
  let (value, rest) ← takeDigits? count cs
  let rest := rest.dropWhile Char.isDigit
  pure (value * Nat.pow 10 (6 - count), isPresent (rest.head?.or next))

/-- The fields of a time, given those read so far; `next` is what follows the part read. Colons are used
throughout or not at all; `colons` is what the first two fields settled. -/
def timeFields? (next : Option Char) : (more : Nat) → (fields : List Nat) → (colons : Option Bool) →
    List Char → Option TimeReading
  | more, fields, colons, cs => do
    let (value, rest) ← takeDigits? 2 cs
    let fields := fields ++ [value]
    let field (i : Nat) := fields.getD i 0
    match rest with
    | [] => pure ⟨field 0, field 1, field 2, 0, isPresent next⟩
    | [c] => pure ⟨field 0, field 1, field 2, 0, isPresent (some c)⟩
    | c :: after =>
      let colons := colons.getD (c == ':')
      let withFraction (cs : List Char) : Option TimeReading := do
        let (microsecond, leftOver) ← fraction? next cs
        pure ⟨field 0, field 1, field 2, microsecond, leftOver⟩
      let continued (cs : List Char) : Option TimeReading :=
        match more with
        | 0 => withFraction cs
        | more + 1 => timeFields? next more fields (some colons) cs
      if colons && c == ':' then continued after
      else if c = '.' ∨ c = ',' then withFraction after
      else if !colons then continued (c :: after)
      else none

/-- A time of day in the part of a text before `next`. -/
def isoTime? (next : Option Char) (cs : List Char) : Option TimeReading :=
  timeFields? next 2 [] none cs

/-- Whether the character ends the time of day and starts the distance from universal time. -/
def startsOffset (c : Char) : Bool :=
  c == '+' || c == '-' || c == 'Z'

/-- The distance from universal time that starts with a sign or `Z`; it is less than a day. Parts of a second
count only beside a whole one. -/
def isoOffset? : List Char → Option Int
  | 'Z' :: rest => if isPresent rest.head? then none else some 0
  | sign :: rest => do
    let time ← isoTime? none rest
    let seconds := time.hour * 3600 + time.minute * 60 + time.second
    let size : Int := if seconds = 0 then 0 else (seconds * 1000000 + time.microsecond : Nat)
    if time.leftOver || decide (86400000000 ≤ size) then none
    else pure (if sign = '-' then -size else size)
  | [] => none

/-- The bytes of a text, each as the character of its number. -/
def byteChars (s : String) : List Char :=
  s.toList.flatMap fun c => (String.utf8EncodeChar c).map fun byte => Char.ofNat byte.toNat

/-- How many bytes the character has that starts with a byte. -/
def byteCount (first : Char) : Nat :=
  if first.toNat < 0x80 then 1
  else if first.toNat < 0xe0 then 2
  else if first.toNat < 0xf0 then 3
  else 4

/-- A date, or a date and a time, that makes up the whole text. -/
def Moment.ofIso? (s : String) : Option Moment := do
  let cs := byteChars s
  let length ← isoDateLength? cs
  let date ← isoDate? (cs.take length)
  match cs.drop length with
  | [] => pure (Moment.ofDate date)
  | mark :: clock =>
    let clock := clock.drop (byteCount mark - 1)
    let rest := clock.dropWhile fun c => !startsOffset c
    let time ← isoTime? rest.head? (clock.takeWhile fun c => !startsOffset c)
    let offset ← if rest.isEmpty then (if time.leftOver then none else some none) else (isoOffset? rest).map some
    let moment : Moment := ⟨date, time.hour, time.minute, time.second, time.microsecond, offset⟩
    if moment.isValid then some moment else none

end DynamicBlocks
