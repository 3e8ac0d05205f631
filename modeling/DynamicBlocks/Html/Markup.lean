import DynamicBlocks.Html.Entities

/-!
# Text and markup

Escaping puts the five characters that markup is made of as references, so that text stays text. Going back,
tags are cut out and references, by number or by name, are put as the characters they stand for; a number that
no character has, or an unknown name, is treated as browsers treat it.
-/

set_option autoImplicit false

namespace DynamicBlocks.Html

/-- A character as text between tags or inside a quoted attribute. -/
def escapeChar (c : Char) : List Char :=
  if c = '&' then "&amp;".toList
  else if c = '<' then "&lt;".toList
  else if c = '>' then "&gt;".toList
  else if c = '"' then "&quot;".toList
  else if c = '\'' then "&#x27;".toList
  else [c]

/-- A text whose characters cannot be taken for markup. -/
def escape (s : String) : String :=
  String.ofList (s.toList.flatMap escapeChar)

/-- The characters outside of tags. A tag runs from `<` to the next `>`; without one, `<` is no tag. -/
def outsideTags : (inTag : Bool) → List Char → List Char
  | _, [] => []
  | true, c :: cs => outsideTags (c != '>') cs
  | false, c :: cs =>
    if c = '<' ∧ cs.contains '>' then outsideTags true cs else c :: outsideTags false cs

def dropTags (s : String) : String :=
  String.ofList (outsideTags false s.toList)

/-- What the codes 128 to 159 stand for, as in the old Western code page. -/
def codePage : List Nat := [
  0x20ac, 0x81, 0x201a, 0x192, 0x201e, 0x2026, 0x2020, 0x2021, 0x2c6, 0x2030, 0x160, 0x2039, 0x152, 0x8d, 0x17d, 0x8f,
  0x90, 0x2018, 0x2019, 0x201c, 0x201d, 0x2022, 0x2013, 0x2014, 0x2dc, 0x2122, 0x161, 0x203a, 0x153, 0x9d, 0x17e, 0x178]

/-- Whether a code point is a control or a non-character that a reference may not name. -/
def isRefused (code : Nat) : Bool :=
  (decide (1 ≤ code) && decide (code ≤ 8)) || code == 0xb || (decide (0xe ≤ code) && decide (code ≤ 0x1f)) ||
    code == 0x7f || (decide (0xfdd0 ≤ code) && decide (code ≤ 0xfdef)) || decide (0xfffe ≤ code % 0x10000)

/-- The text that a reference by number stands for. -/
def numbered (code : Nat) : List Char :=
  if code = 0 then [Char.ofNat 0xfffd]
  else if 0x80 ≤ code ∧ code ≤ 0x9f then [Char.ofNat (codePage.getD (code - 0x80) code)]
  else if (0xd800 ≤ code ∧ code ≤ 0xdfff) ∨ 0x10ffff < code then [Char.ofNat 0xfffd]
  else if isRefused code then []
  else [Char.ofNat code]

/-- Whether the character can stand in a reference by name. -/
def isNameChar (c : Char) : Bool :=
  !(c == '\t' || c == '\n' || c.toNat == 12 || c == ' ' || c == '<' || c == '&' || c == '#' || c == ';')

/-- The longest front part of a text, of `length` characters or fewer but at least two, that is a name without
semicolon, replaced by what it stands for. -/
def bareFront? (chars : List Char) : (length : Nat) → Option (List Char)
  | 0 => none
  | length + 1 =>
    if length + 1 < 2 then none
    else
      match named? (String.ofList (chars.take (length + 1))) false with
      | some text => some (text.toList ++ chars.drop (length + 1))
      | none => bareFront? chars length

/-- The text of a reference by name. -/
def namedReference (name : List Char) (closed : Bool) : List Char :=
  let whole := if closed then name ++ [';'] else name
  match named? (String.ofList name) closed with
  | some text => text.toList
  | none => (bareFront? whole (whole.length - 1)).getD ('&' :: whole)

/-- Whether a semicolon stands in front. -/
def isClosed (cs : List Char) : Bool :=
  cs.head? == some ';'

def isHexDigit (c : Char) : Bool :=
  c.isDigit || (decide ('a' ≤ c) && decide (c ≤ 'f')) || (decide ('A' ≤ c) && decide (c ≤ 'F'))

/-- A reference after its ampersand: the text it stands for and how many characters it takes. -/
def reference? (cs : List Char) : Option (List Char × Nat) :=
  let decimal := (cs.drop 1).takeWhile Char.isDigit
  let hex := (cs.drop 2).takeWhile isHexDigit
  let closing (used : Nat) := if isClosed (cs.drop used) then used + 1 else used
  if cs.head? = some '#' then
    if !decimal.isEmpty then
      some (numbered (decimal.foldl (fun n c => 10 * n + (c.toNat - 48)) 0), closing (1 + decimal.length))
    else if (cs[1]? = some 'x' ∨ cs[1]? = some 'X') ∧ !hex.isEmpty then
      some (numbered (hexNumber (hex.map Char.toLower)), closing (2 + hex.length))
    else none
  else
    let name := (cs.take 32).takeWhile isNameChar
    if name.isEmpty then none
    else some (namedReference name (isClosed (cs.drop name.length)), closing name.length)

/-- The characters with references resolved; `skip` of them belong to a reference just read. -/
def resolveReferences : (skip : Nat) → List Char → List Char
  | _, [] => []
  | skip + 1, _ :: cs => resolveReferences skip cs
  | 0, c :: cs =>
    if c = '&' then
      match reference? cs with
      | some (text, used) => text ++ resolveReferences used cs
      | none => c :: resolveReferences 0 cs
    else c :: resolveReferences 0 cs

/-- The text with references put as the characters they stand for. -/
def unescape (s : String) : String :=
  String.ofList (resolveReferences 0 s.toList)

/-- Characters that pass a test one by one hold none of three marks. -/
theorem ne_marks_of_all (chars : List Char) (h : chars.all (fun d => d != '<' && d != '>' && d != '"') = true) :
    ∀ d ∈ chars, d ≠ '<' ∧ d ≠ '>' ∧ d ≠ '"' := by
  intro d member
  have plain := List.all_eq_true.mp h d member
  simpa [and_assoc] using plain

/-- No escaped character can open or close a tag or an attribute. -/
theorem escapeChar_safe (c : Char) : ∀ d ∈ escapeChar c, d ≠ '<' ∧ d ≠ '>' ∧ d ≠ '"' := by
  by_cases amp : c = '&'
  · subst amp; exact ne_marks_of_all _ (by decide)
  by_cases lt : c = '<'
  · subst lt; exact ne_marks_of_all _ (by decide)
  by_cases gt : c = '>'
  · subst gt; exact ne_marks_of_all _ (by decide)
  by_cases mark : c = '"'
  · subst mark; exact ne_marks_of_all _ (by decide)
  by_cases single : c = '\''
  · subst single; exact ne_marks_of_all _ (by decide)
  intro d h
  simp only [escapeChar, if_neg amp, if_neg lt, if_neg gt, if_neg mark, if_neg single, List.mem_singleton] at h
  subst h
  exact ⟨lt, gt, mark⟩

end DynamicBlocks.Html
