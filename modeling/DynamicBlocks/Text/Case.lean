import DynamicBlocks.Text.CaseTable
import DynamicBlocks.Text.Ranges

/-!
# Upper and lower case

Full case mapping: a character may become several, as the sharp s does in upper case. Lower case has one rule
that looks at neighbours: a capital sigma that ends a word becomes the final form of the letter.
-/

set_option autoImplicit false

namespace DynamicBlocks.Text

/-- Whether the run moves the code point. -/
def CaseRun.covers (run : CaseRun) (code : Nat) : Bool :=
  decide (run.first ≤ code) && decide (code ≤ run.last) && (code - run.first) % run.step == 0

/-- The other case of a code point according to the runs; itself where none covers it. -/
def shiftCase (runs : List CaseRun) (code : Nat) : Nat :=
  match runs.find? (·.covers code) with
  | some run => ((code : Int) + run.shift).toNat
  | none => code

/-- The upper case of one character. -/
def upperChar (c : Char) : List Char :=
  if c.toNat < 128 then [c.toUpper]
  else
    match upperExpansions.lookup c.toNat with
    | some codes => codes.map Char.ofNat
    | none => [Char.ofNat (shiftCase upperRuns c.toNat)]

/-- The lower case of one character, away from its neighbours. -/
def lowerChar (c : Char) : List Char :=
  if c.toNat < 128 then [c.toLower]
  else if c.toNat = 0x130 then [Char.ofNat 0x69, Char.ofNat 0x307]
  else [Char.ofNat (shiftCase lowerRuns c.toNat)]

/-- Whether the nearest character that is not passed over has a case. -/
def meetsCased (cs : List Char) : Bool :=
  match cs.dropWhile fun c => inRanges caseIgnorableRanges c.toNat with
  | [] => false
  | c :: _ => inRanges casedRanges c.toNat

def capitalSigma : Char := Char.ofNat 0x3a3

/-- Lower case of the characters that follow `before`, which holds the earlier ones in reverse. -/
def lowerFrom : (before : List Char) → List Char → List Char
  | _, [] => []
  | before, c :: cs =>
    (if c = capitalSigma then
      [Char.ofNat (if meetsCased before && !meetsCased cs then 0x3c2 else 0x3c3)]
    else lowerChar c) ++ lowerFrom (c :: before) cs

def upper (s : String) : String :=
  String.ofList (s.toList.flatMap upperChar)

def lower (s : String) : String :=
  String.ofList (lowerFrom [] s.toList)

end DynamicBlocks.Text
