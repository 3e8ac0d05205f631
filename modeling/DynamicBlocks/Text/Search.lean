import DynamicBlocks.Text.CodePoint

/-!
# Finding, splitting and replacing

Substring operations on characters in order. `pieces` cuts a text at every occurrence of a separator, left
to right and without overlap; replacing is cutting and joining again with another separator. An empty
separator occurs before every character and at the end.
-/

set_option autoImplicit false

namespace DynamicBlocks.Text

/-- What follows `needle` when the text starts with it. -/
def dropPhrase? : (needle text : List Char) → Option (List Char)
  | [], text => some text
  | _ :: _, [] => none
  | n :: ns, c :: cs => if n = c then dropPhrase? ns cs else none

def startsWith (needle text : List Char) : Bool :=
  (dropPhrase? needle text).isSome

def occursIn (needle : List Char) : List Char → Bool
  | [] => needle.isEmpty
  | c :: cs => startsWith needle (c :: cs) || occursIn needle cs

/-- Cutting with a piece under way: `skip` characters of a separator are still to be passed over, and
`piece` holds the characters of the current piece in reverse. -/
def piecesFrom (separator : List Char) : (skip : Nat) → (piece : List Char) → List Char → List (List Char)
  | _, piece, [] => [piece.reverse]
  | skip + 1, piece, _ :: cs => piecesFrom separator skip piece cs
  | 0, piece, c :: cs =>
    if startsWith separator (c :: cs) then
      piece.reverse :: piecesFrom separator (separator.length - 1) [] cs
    else
      piecesFrom separator 0 (c :: piece) cs

/-- The pieces of the text between occurrences of the separator. -/
def pieces (separator text : List Char) : List (List Char) :=
  if separator.isEmpty then
    [] :: text.map (fun c => [c]) ++ [[]]
  else
    piecesFrom separator 0 [] text

/-- Pieces joined with a separator between them. -/
def joinWith (separator : List Char) : List (List Char) → List Char
  | [] => []
  | [piece] => piece
  | piece :: more => piece ++ separator ++ joinWith separator more

/-- The text with every occurrence of `needle` replaced. -/
def replaceAll (needle replacement text : List Char) : List Char :=
  joinWith replacement (pieces needle text)

def join (separator : String) (parts : List String) : String :=
  separator.intercalate parts

/-- The text cut at every occurrence of a separator. -/
def split (separator text : String) : List String :=
  (pieces separator.toList text.toList).map String.ofList

/-- The text with every occurrence of `needle` replaced. -/
def replace (needle replacement text : String) : String :=
  String.ofList (replaceAll needle.toList replacement.toList text.toList)

/-- Texts without repeats, in the order of their characters. -/
def sorted (texts : List String) : List String :=
  texts.eraseDups.mergeSort fun a b => !precedes b a

def contains (text needle : String) : Bool :=
  occursIn needle.toList text.toList

@[simp] theorem dropPhrase?_nil (text : List Char) : dropPhrase? [] text = some text := by
  cases text <;> rfl

/-- A phrase is dropped exactly from its own continuations. -/
theorem dropPhrase?_eq_some {needle text rest : List Char} :
    dropPhrase? needle text = some rest ↔ text = needle ++ rest := by
  induction needle generalizing text with
  | nil => simp [eq_comm]
  | cons n ns ih =>
    cases text with
    | nil => simp [dropPhrase?]
    | cons c cs => by_cases h : n = c <;> simp [dropPhrase?, h, ih, eq_comm]

/-- Characters of a kind in front of what starts with no such character are what is taken together. -/
theorem takeWhile_of_stop {p : Char → Bool} {cs behind : List Char} (all : ∀ c ∈ cs, p c = true)
    (stop : ∀ c, behind.head? = some c → p c = false) :
    (cs ++ behind).takeWhile p = cs ∧ (cs ++ behind).dropWhile p = behind := by
  rw [List.takeWhile_append_of_pos all, List.dropWhile_append_of_pos all]
  cases behind with
  | nil => simp
  | cons c behind => simp [stop c rfl]

/-- A text that is among others already is no further one without repeats. -/
theorem eraseDups_concat_of_mem {texts : List String} {text : String} (known : text ∈ texts) :
    (texts ++ [text]).eraseDups = texts.eraseDups := by
  simp [List.eraseDups_append, List.removeAll, known]

/-- A text that is not among others comes behind them without repeats. -/
theorem eraseDups_concat_of_notMem {texts : List String} {text : String} (new : text ∉ texts) :
    (texts ++ [text]).eraseDups = texts.eraseDups ++ [text] := by
  simp [List.eraseDups_append, List.removeAll, List.eraseDups_cons, new]

/-- Joining one more piece in front puts the separator after it. -/
theorem joinWith_cons (separator piece : List Char) {more : List (List Char)} (h : more ≠ []) :
    joinWith separator (piece :: more) = piece ++ separator ++ joinWith separator more := by
  cases more with
  | nil => exact absurd rfl h
  | cons _ _ => rfl

end DynamicBlocks.Text
