import DynamicBlocks.Number.Notation
import DynamicBlocks.Proofs.ClosedTexts
import DynamicBlocks.Proofs.QuotedKeys

/-!
# Expressions written down

An expression as it is meant is a tree: a root, and segments behind it whose arguments may be expressions again. Written
down and read, it comes back as its segments. The text of every tree is closed for all readers
(`ExpressionTree.closed`), so a call keeps its arguments together for the path, and its arguments keep theirs. The path
then falls apart segment by segment (`ExpressionTree.pathReadsAs`), since each segment ends where a dot or a bracket
starts the next.
-/

set_option autoImplicit false

namespace DynamicBlocks

open Text

/-! ## Trees -/

/-- A name of a root, a field or a modifier. -/
structure Identifier where
  text : String
  named : isName text.toList = true

/-- A name of an argument. -/
structure Keyword where
  text : String
  named : isKeyword text.toList = true

/-- Characters that cannot stand in quotes. -/
def unquotable : List Char := ['"', '\'', '\\', '(', ')']

/-- Whether characters can stand in quotes. -/
def isQuotable (cs : List Char) : Bool :=
  cs.all fun c => !unquotable.contains c

/-- No character of a text that can be quoted is one that cannot. -/
theorem ne_of_isQuotable {cs : List Char} (quotable : isQuotable cs = true) {c sign : Char} (there : c ∈ cs)
    (among : sign ∈ unquotable) : c ≠ sign := by
  rintro rfl
  have plain := List.all_eq_true.mp quotable c there
  rw [List.contains_iff_mem.mpr among] at plain
  cases plain

/-- A key that can stand in quotes and brackets. -/
structure BracketKey where
  text : String
  filled : text ≠ ""
  quotable : isQuotable text.toList = true

/-- A text as it can stand in quotes. -/
structure QuotedText where
  mark : Char
  text : String
  quotes : mark = '"' ∨ mark = '\''
  quotable : isQuotable text.toList = true

mutual

/-- A root and segments behind it. -/
inductive ExpressionTree where
  | root (name : Identifier)
  | field (front : ExpressionTree) (name : Identifier)
  | key (front : ExpressionTree) (key : BracketKey)
  | index (front : ExpressionTree) (n : Int)
  | call (front : ExpressionTree) (name : Identifier) (args : List TreeArgument)
  /-- A call whose name stands in quotes and brackets. -/
  | bracketCall (front : ExpressionTree) (name : Identifier) (args : List TreeArgument)

inductive TreeArgument where
  | positional (value : TreeValue)
  | named (keyword : Keyword) (value : TreeValue)

/-- What can be passed as an argument. -/
inductive TreeValue where
  | int (n : Int)
  | quoted (text : QuotedText)
  | expression (tree : ExpressionTree)

end

/-- Texts of arguments in the parentheses of a call. -/
def inParens (texts : List (List Char)) : List Char :=
  '(' :: joinWith [',', ' '] texts ++ [')']

/-- A number in brackets. -/
def inBrackets (n : Int) : List Char :=
  '[' :: (intText n).toList ++ [']']

mutual

/-- An expression as it is written. -/
def ExpressionTree.chars : ExpressionTree → List Char
  | .root name => name.text.toList
  | .field front name => front.chars ++ '.' :: name.text.toList
  | .key front part => front.chars ++ bracketed part.text.toList
  | .index front n => front.chars ++ inBrackets n
  | .call front name args => front.chars ++ '.' :: (name.text.toList ++ inParens (argumentTexts args))
  | .bracketCall front name args => front.chars ++ (bracketed name.text.toList ++ inParens (argumentTexts args))

def TreeArgument.chars : TreeArgument → List Char
  | .positional value => value.chars
  | .named keyword value => '$' :: keyword.text.toList ++ [':', ' '] ++ value.chars

def TreeValue.chars : TreeValue → List Char
  | .int n => (intText n).toList
  | .quoted text => (inQuotes text.mark text.text).toList
  | .expression tree => tree.chars

def argumentTexts : List TreeArgument → List (List Char)
  | [] => []
  | argument :: args => argument.chars :: argumentTexts args

end

/-- The texts of arguments are those of each of them. -/
theorem argumentTexts_eq_map (args : List TreeArgument) : argumentTexts args = args.map TreeArgument.chars := by
  induction args with
  | nil => rfl
  | cons argument args ih => rw [argumentTexts, ih, List.map_cons]

def ExpressionTree.text (tree : ExpressionTree) : String :=
  String.ofList tree.chars

/-- The argument that is meant: its own text, and its name if it has one. -/
def TreeArgument.toArgument : TreeArgument → Argument
  | .positional value => ⟨String.ofList value.chars, none⟩
  | .named keyword value => ⟨String.ofList value.chars, some ("$" ++ keyword.text)⟩

/-- The segments that are meant. -/
def ExpressionTree.segments : ExpressionTree → List Segment
  | .root name => [.key name.text]
  | .field front name => front.segments ++ [.key name.text]
  | .key front part => front.segments ++ [.key part.text]
  | .index front n => front.segments ++ [.key (intText n)]
  | .call front name args => front.segments ++ [.call name.text (args.map TreeArgument.toArgument)]
  | .bracketCall front name args => front.segments ++ [.call name.text (args.map TreeArgument.toArgument)]

/-! ## Texts of trees are closed -/

/-- The characters of an integer may stand in a keyword. -/
theorem continuesKeyword_of_mem_intText {n : Int} {c : Char} (there : c ∈ (intText n).toList) :
    continuesKeyword c = true := by
  unfold intText at there
  rw [String.toList_ofList, List.mem_append] at there
  rcases there with sign | digit
  · split at sign
    · obtain rfl := List.mem_singleton.mp sign
      decide
    · cases sign
  · have digit := Nat.isDigit_of_mem_toDigits (by decide) (by decide) digit
    apply continuesKeyword_of_isWord
    have ascii : c.toNat < 128 := by
      simp only [Char.isDigit, Bool.and_eq_true, decide_eq_true_eq] at digit
      exact lt_of_le_of_lt (show c.toNat ≤ 57 from digit.2) (by decide)
    rw [isWord, if_pos ascii, isAsciiWord, Char.isAlphanum, digit, Bool.or_true]
    rfl

/-- Names and numbers are closed. -/
theorem Closed.of_continuesKeyword {enclosed : Bool} {cs : List Char} (goesOn : ∀ c ∈ cs, continuesKeyword c = true) :
    Closed enclosed cs :=
  .of_plain fun c there =>
    ⟨ne_of_continuesKeyword (goesOn c there) (by decide), notMem_argumentSigns_of_continuesKeyword (goesOn c there)⟩

/-- The characters of an identifier may stand in a keyword. -/
theorem Identifier.continuesKeyword_of_mem (name : Identifier) {c : Char} (there : c ∈ name.text.toList) :
    continuesKeyword c = true :=
  continuesKeyword_of_isWord (isWord_of_mem_name name.named c there)

/-- An identifier is closed. -/
theorem Identifier.closed {enclosed : Bool} (name : Identifier) : Closed enclosed name.text.toList :=
  .of_continuesKeyword fun _ => name.continuesKeyword_of_mem

/-- A quoted text is closed. -/
theorem closed_inQuotes {enclosed : Bool} {mark : Char} (quotes : mark = '"' ∨ mark = '\'') {text : String}
    (quotable : isQuotable text.toList = true) : Closed enclosed (inQuotes mark text).toList := by
  have other {c sign : Char} (there : c ∈ text.toList) (among : sign ∈ unquotable) : c ≠ sign :=
    ne_of_isQuotable quotable there among
  apply Closed.quoted quotes
  · intro c there
    exact ⟨other there (by decide), other there (by decide), other there (by decide)⟩
  · intro c there
    exact ⟨other there (by decide), other there (by decide)⟩

/-- A key in brackets is closed. -/
theorem closed_bracketed {text : String} (quotable : isQuotable text.toList = true) :
    Closed false (bracketed text.toList) := by
  have split : bracketed text.toList = '[' :: (inQuotes '\'' text).toList ++ [']'] := by
    unfold bracketed inQuotes
    rw [String.toList_ofList]
    simp
  rw [split]
  exact .pair (.inr ⟨rfl, rfl⟩) (closed_inQuotes (.inr rfl) quotable)

/-- An identifier can be quoted. -/
theorem Identifier.quotable (name : Identifier) : isQuotable name.text.toList = true := by
  have none : unquotable.all (fun sign => !continuesKeyword sign) = true := by decide
  apply List.all_eq_true.mpr
  intro c there
  rw [Bool.not_eq_true', ← Bool.not_eq_true, List.contains_iff_mem]
  exact notMem_of_all_not none (name.continuesKeyword_of_mem there)

/-- An index in brackets is closed. -/
theorem closed_inBrackets (n : Int) : Closed false (inBrackets n) :=
  .pair (.inr ⟨rfl, rfl⟩) (.of_continuesKeyword fun _ => continuesKeyword_of_mem_intText)

/-- Closed texts with commas between them are closed within parentheses. -/
theorem closed_joinWith {texts : List (List Char)} (closed : ∀ text ∈ texts, Closed false text) :
    Closed true (joinWith [',', ' '] texts) := by
  have separator : Closed true [',', ' '] := .append .comma (.plain (by decide) (by decide))
  induction texts with
  | nil => exact .nil
  | cons text texts ih =>
    have here := (closed text List.mem_cons_self).of_outside
    cases texts with
    | nil => exact here
    | cons next texts =>
      exact .append (.append here separator) (ih fun other there => closed other (List.mem_cons_of_mem text there))

/-- Closed texts with commas between them, in parentheses, are closed. -/
theorem closed_inParens {texts : List (List Char)} (closed : ∀ text ∈ texts, Closed false text) :
    Closed false (inParens texts) :=
  .pair (.inl ⟨rfl, rfl⟩) (closed_joinWith closed)

/-- A closed text with a dot in front is closed. -/
theorem closed_dot {cs : List Char} (closed : Closed false cs) : Closed false ('.' :: cs) := by
  have dot : Closed false ['.'] := .plain (by decide) (by decide)
  exact .append dot closed

/-- A keyword with its sign and colon is closed. -/
theorem closed_keyword (keyword : Keyword) : Closed false ('$' :: keyword.text.toList ++ [':', ' ']) := by
  have dollar : Closed false ['$'] := .plain (by decide) (by decide)
  have name : Closed false keyword.text.toList :=
    .of_continuesKeyword fun _ there => continuesKeyword_of_mem keyword.named there
  have colon : Closed false [':'] := .plain (by decide) (by decide)
  have blank : Closed false [' '] := .plain (by decide) (by decide)
  exact .append (.append dollar name) (.append colon blank)

mutual

/-- The text of a tree is closed: an induction on the tree. -/
theorem ExpressionTree.closed : (tree : ExpressionTree) → Closed false tree.chars
  | .root name => name.closed
  | .field front name => .append front.closed (closed_dot name.closed)
  | .key front part => .append front.closed (closed_bracketed part.quotable)
  | .index front n => .append front.closed (closed_inBrackets n)
  | .call front name args =>
    .append front.closed (closed_dot (.append name.closed (closed_inParens (closed_argumentTexts args))))
  | .bracketCall front name args =>
    .append front.closed (.append (closed_bracketed name.quotable) (closed_inParens (closed_argumentTexts args)))

/-- So is the text of each argument. -/
theorem TreeArgument.closed : (argument : TreeArgument) → Closed false argument.chars
  | .positional value => value.closed
  | .named keyword value => .append (closed_keyword keyword) value.closed

/-- So is the text of each value. -/
theorem TreeValue.closed : (value : TreeValue) → Closed false value.chars
  | .int _ => .of_continuesKeyword fun _ => continuesKeyword_of_mem_intText
  | .quoted text => closed_inQuotes text.quotes text.quotable
  | .expression tree => tree.closed

/-- So are the texts of all arguments. -/
theorem closed_argumentTexts : (args : List TreeArgument) → ∀ text ∈ argumentTexts args, Closed false text
  | [], _, there => nomatch there
  | argument :: args, text, there => by
    rcases List.mem_cons.mp there with rfl | there
    · exact argument.closed
    · exact closed_argumentTexts args text there

end

/-! ## Arguments are read as they are meant -/

/-- An argument is passed by name only with a colon behind the name. -/
theorem keyword?_eq_none {c : Char} (undollared : c ≠ '$') {cs : List Char}
    (behind : startsKeyword c = true → (trimFront (cs.dropWhile continuesKeyword)).head? ≠ some ':') :
    keyword? (c :: cs) = none := by
  unfold keyword?
  split
  · rename_i rest same
    exact absurd (List.cons.inj same).1 undollared
  · show (if startsKeyword c = true then _ else none) = none
    split
    · rename_i starts
      split
      · rename_i rest colon
        exact absurd (by rw [colon]; rfl) (behind starts)
      · rfl
    · rfl

/-- In front of a segment a name is no name of an argument. -/
theorem keyword?_append_eq_none {front rest : List Char} (filled : front ≠ [])
    (goesOn : ∀ c ∈ front, continuesKeyword c = true) (starts : StartsSegment rest) : keyword? (front ++ rest) = none := by
  obtain ⟨c, front, rfl⟩ := List.exists_cons_of_ne_nil filled
  apply keyword?_eq_none (ne_of_continuesKeyword (goesOn c List.mem_cons_self) (by decide))
  intro _
  rw [List.append_eq, List.dropWhile_append_of_pos fun d there => goesOn d (List.mem_cons_of_mem c there)]
  cases rest with
  | nil => decide
  | cons d rest =>
    have stops : continuesKeyword d = false ∧ isBlank d = false ∧ d ≠ ':' := by
      rcases starts d rfl with rfl | rfl <;> decide
    obtain ⟨stops, solid, other⟩ := stops
    rw [List.dropWhile_cons_of_neg (by rw [stops]; decide), trimFront_cons d rest solid]
    simpa using other

/-- A text that starts with no keyword reads as an argument without one. -/
theorem ofText_of_keyword?_eq_none {cs : List Char} (trimmed : trimChars cs = cs) (unnamed : keyword? cs = none) :
    Argument.ofText (String.ofList cs) = ⟨String.ofList cs, none⟩ := by
  unfold Argument.ofText
  rw [String.toList_ofList, trimmed]
  dsimp only
  rw [unnamed]

/-- An identifier is not empty. -/
theorem Identifier.toList_ne_nil (name : Identifier) : name.text.toList ≠ [] := by
  obtain ⟨c, cs, shape, -⟩ := exists_cons_of_isName name.named
  rw [shape]
  exact List.cons_ne_nil c cs

/-- Whether a text starts with a name that no word character follows, but the first segment behind it. -/
def StartsWithName (cs : List Char) : Prop :=
  ∃ (name : Identifier) (rest : List Char), cs = name.text.toList ++ rest ∧ StartsSegment rest

/-- A text that starts with a name still does with the start of a segment behind it. -/
theorem StartsWithName.append {cs ds : List Char} (front : StartsWithName cs) (behind : StartsSegment ds) :
    StartsWithName (cs ++ ds) := by
  obtain ⟨name, rest, rfl, starts⟩ := front
  exact ⟨name, rest ++ ds, List.append_assoc _ _ _, starts.append behind⟩

namespace ExpressionTree

/-- The text of a tree starts with a name: an induction on the tree. -/
theorem startsWithName : (tree : ExpressionTree) → StartsWithName tree.chars
  | .root name => ⟨name, [], (List.append_nil _).symm, nofun⟩
  | .field front _ => front.startsWithName.append (startsSegment_dot _)
  | .key front _ => front.startsWithName.append (startsSegment_bracket _)
  | .index front _ => front.startsWithName.append (startsSegment_bracket _)
  | .call front _ _ => front.startsWithName.append (startsSegment_dot _)
  | .bracketCall front _ _ => front.startsWithName.append (startsSegment_bracket _)

/-- A written expression ends with a name, a bracket or a parenthesis. -/
theorem exists_chars_eq_concat (tree : ExpressionTree) :
    ∃ front last, tree.chars = front ++ [last] ∧ isBlank last = false := by
  cases tree with
  | root name => exact exists_concat_of_isKey (isKey_of_isName name.named)
  | field front name =>
    obtain ⟨before, last, shape, solid⟩ := exists_concat_of_isKey (isKey_of_isName name.named)
    exact ⟨front.chars ++ '.' :: before, last, by simp [chars, shape], solid⟩
  | key front part =>
    exact ⟨front.chars ++ '[' :: '\'' :: (part.text.toList ++ ['\'']), ']', by simp [chars, bracketed], by decide⟩
  | index front n => exact ⟨front.chars ++ '[' :: (intText n).toList, ']', by simp [chars, inBrackets], by decide⟩
  | call front name args =>
    exact ⟨front.chars ++ '.' :: name.text.toList ++ '(' :: joinWith [',', ' '] (argumentTexts args), ')',
      by simp [chars, inParens], by decide⟩
  | bracketCall front name args =>
    exact ⟨front.chars ++ bracketed name.text.toList ++ '(' :: joinWith [',', ' '] (argumentTexts args), ')',
      by simp [chars, inParens], by decide⟩

/-- The text of a tree starts with a character of a word. -/
theorem exists_chars_eq_cons (tree : ExpressionTree) : ∃ c cs, tree.chars = c :: cs ∧ isWord c = true := by
  obtain ⟨name, rest, shape, -⟩ := tree.startsWithName
  obtain ⟨c, cs, first, word⟩ := exists_cons_of_isName name.named
  exact ⟨c, cs ++ rest, by rw [shape, first, List.cons_append], word⟩

/-- Nothing is trimmed off the text of a tree. -/
theorem trimChars_chars (tree : ExpressionTree) : trimChars tree.chars = tree.chars := by
  obtain ⟨c, cs, starts, word⟩ := tree.exists_chars_eq_cons
  obtain ⟨front, last, ends, solid⟩ := tree.exists_chars_eq_concat
  exact trimChars_of_ends starts (isBlank_of_isWord word) ends solid

end ExpressionTree

namespace TreeValue

variable (value : TreeValue)

/-- Nothing is trimmed off the text of a value. -/
theorem trimChars_chars : trimChars value.chars = value.chars := by
  cases value with
  | int n => exact trimChars_of_solid fun c there => isBlank_of_continuesKeyword (continuesKeyword_of_mem_intText there)
  | quoted text => exact trimChars_inQuotes text.quotes
  | expression tree => exact tree.trimChars_chars

/-- The text of a value is not empty. -/
theorem chars_ne_nil : value.chars ≠ [] := by
  cases value with
  | int n =>
    unfold chars intText
    rw [String.toList_ofList]
    exact List.append_ne_nil_of_right_ne_nil _ Nat.toDigits_ne_nil
  | quoted text =>
    unfold chars inQuotes
    rw [String.toList_ofList]
    exact List.cons_ne_nil _ _
  | expression tree =>
    obtain ⟨c, cs, shape, -⟩ := tree.exists_chars_eq_cons
    unfold chars
    rw [shape]
    exact List.cons_ne_nil c cs

/-- No value looks like one that is passed by name. -/
theorem ofText_chars : Argument.ofText (String.ofList value.chars) = ⟨String.ofList value.chars, none⟩ := by
  cases value with
  | int n =>
    have unnamed := keyword?_append_eq_none (TreeValue.int n).chars_ne_nil
      (fun _ => continuesKeyword_of_mem_intText) (show StartsSegment [] from nofun)
    rw [List.append_nil] at unnamed
    exact ofText_of_keyword?_eq_none (TreeValue.int n).trimChars_chars unnamed
  | quoted text =>
    unfold chars
    rw [String.ofList_toList]
    exact ofText_inQuotes text.quotes
  | expression tree =>
    obtain ⟨name, rest, shape, starts⟩ := tree.startsWithName
    have unnamed : keyword? tree.chars = none := by
      rw [shape]
      exact keyword?_append_eq_none name.toList_ne_nil (fun _ => name.continuesKeyword_of_mem) starts
    exact ofText_of_keyword?_eq_none tree.trimChars_chars unnamed

/-- A value passed by name is a parameter as calls with parameters by name have them. -/
def withName (keyword : Keyword) : WrittenParam where
  name := keyword.text
  text := String.ofList value.chars
  named := keyword.named
  trimmed := by rw [String.toList_ofList, value.trimChars_chars]
  closed := by rw [String.toList_ofList, parensAfter_of_closed value.closed]
  uncut := by
    rw [String.toList_ofList]
    exact isUncut_of_closed value.closed (some ' ') (by decide)

end TreeValue

namespace TreeArgument

/-- An argument with a keyword is the keyword with its sign, its colon and the value. -/
theorem chars_named (keyword : Keyword) (value : TreeValue) :
    (named keyword value).chars = (value.withName keyword).chars := by
  rw [WrittenParam.chars_eq]
  unfold chars TreeValue.withName
  simp

/-- The text of an argument is not blank. -/
theorem trimChars_chars_ne_nil (argument : TreeArgument) : trimChars argument.chars ≠ [] := by
  cases argument with
  | positional value =>
    unfold chars
    rw [value.trimChars_chars]
    exact value.chars_ne_nil
  | named keyword value =>
    rw [chars_named, WrittenParam.trimChars_chars]
    exact List.cons_ne_nil _ _

/-- The text of an argument reads as the argument. -/
theorem ofText_chars (argument : TreeArgument) :
    Argument.ofText (String.ofList (trimChars argument.chars)) = argument.toArgument := by
  cases argument with
  | positional value =>
    unfold chars
    rw [value.trimChars_chars]
    exact value.ofText_chars
  | named keyword value =>
    rw [chars_named, WrittenParam.ofText_chars]
    rfl

end TreeArgument

/-- Arguments written one after the other are split into the arguments they are. -/
theorem map_ofText_splitArgs (args : List TreeArgument) :
    (splitArgs (String.ofList (joinWith [',', ' '] (argumentTexts args)))).map Argument.ofText =
      args.map TreeArgument.toArgument := by
  have uncut : ∀ text ∈ argumentTexts args, IsUncut text := fun text there =>
    isUncut_of_closed (closed_argumentTexts args text there)
  have filled : ∀ text ∈ argumentTexts args, trimChars text ≠ [] := by
    intro text there
    rw [argumentTexts_eq_map] at there
    obtain ⟨argument, _, rfl⟩ := List.mem_map.mp there
    exact argument.trimChars_chars_ne_nil
  rw [splitArgs_joinWith uncut filled, argumentTexts_eq_map, List.map_map, List.map_map]
  apply List.map_congr_left
  intro argument _
  rw [Function.comp_apply, Function.comp_apply, argument.ofText_chars]

/-! ## Paths are read segment by segment -/

/-- The segments that the parts of a path are read as. -/
def pathSegments (cs : List Char) : List Segment :=
  (pathParts cs).map fun part => .ofPart (String.ofList part)

/-- Whether characters of a path are read as segments, whatever segments follow. -/
def PathReadsAs (cs : List Char) (segments : List Segment) : Prop :=
  ∀ rest, StartsSegment rest → pathSegments (cs ++ rest) = segments ++ pathSegments rest

/-- What is read of two parts of a path one by one is read of both together. -/
theorem PathReadsAs.append {cs ds : List Char} {segments more : List Segment} (front : PathReadsAs cs segments)
    (behind : PathReadsAs ds more) (starts : StartsSegment ds) : PathReadsAs (cs ++ ds) (segments ++ more) := by
  intro rest startsRest
  rw [List.append_assoc, front _ (starts.append startsRest), behind rest startsRest, List.append_assoc]

/-- A dot in front of a path changes nothing of what is read. -/
theorem PathReadsAs.dot {cs : List Char} {segments : List Segment} (reads : PathReadsAs cs segments) :
    PathReadsAs ('.' :: cs) segments := by
  intro rest starts
  rw [← reads rest starts]
  unfold pathSegments
  rw [List.cons_append, pathParts_dot]

/-- Characters that are cut off as one part are read as its segment. -/
theorem pathReadsAs_of_parts {cs part : List Char} {segment : Segment}
    (read : Segment.ofPart (String.ofList part) = segment)
    (parts : ∀ rest, StartsSegment rest → pathParts (cs ++ rest) = part :: pathParts rest) :
    PathReadsAs cs [segment] := by
  intro rest starts
  unfold pathSegments
  rw [parts rest starts, List.map_cons, read]
  rfl

/-- An identifier reads as a key. -/
theorem pathReadsAs_name (name : Identifier) : PathReadsAs name.text.toList [.key name.text] := by
  have keyed := isKey_of_isName name.named
  refine pathReadsAs_of_parts ?_ fun rest => pathParts_append (standsAlone_key keyed) name.toList_ne_nil
  rw [String.ofList_toList, ofPart_key keyed]

/-- A key in brackets reads as that key. -/
theorem pathReadsAs_bracketed (key : BracketKey) : PathReadsAs (bracketed key.text.toList) [.key key.text] := by
  have other {c sign : Char} (there : c ∈ key.text.toList) (among : sign ∈ unquotable) : c ≠ sign :=
    ne_of_isQuotable key.quotable there among
  have plain : ∀ c ∈ key.text.toList, c ≠ '\'' ∧ c ≠ '\\' := fun c there =>
    ⟨other there (by decide), other there (by decide)⟩
  have filled : key.text.toList ≠ [] := fun none => key.filled (String.toList_eq_nil_iff.mp none)
  have unopened : '(' ∉ key.text.toList := fun there => other there (by decide) rfl
  refine pathReadsAs_of_parts ?_ fun rest => pathParts_bracketed plain filled
  rw [String.ofList_toList, ofPart_of_notMem unopened]

/-- An index in brackets reads as the key of its digits. -/
theorem pathReadsAs_inBrackets (n : Int) : PathReadsAs (inBrackets n) [.key (intText n)] := by
  have other {c d : Char} (there : c ∈ (intText n).toList) (special : continuesKeyword d = false) : c ≠ d :=
    ne_of_continuesKeyword (continuesKeyword_of_mem_intText there) special
  have digits (more : List Char) : pathMarks ⟨0, 1, none⟩ ((intText n).toList ++ more) =
      (intText n).toList.map some ++ pathMarks ⟨0, 1, none⟩ more := by
    apply pathMarks_of_step
    intro c there
    have brackets : c ≠ '[' ∧ c ≠ ']' := ⟨other there (by decide), other there (by decide)⟩
    have quotes : c ≠ '\'' ∧ c ≠ '"' := ⟨other there (by decide), other there (by decide)⟩
    refine ⟨other there (by decide), fun next => ?_⟩
    simp [PathState.step, PathState.turnsQuote, PathState.isOutside, brackets, quotes]
  have filled : (intText n).toList ≠ [] := (TreeValue.int n).chars_ne_nil
  have unopened : '(' ∉ (intText n).toList := fun there => other there (by decide) rfl
  refine pathReadsAs_of_parts (by rw [String.ofList_toList, ofPart_of_notMem unopened]) fun rest starts => ?_
  apply pathParts_between filled
  unfold inBrackets
  rw [List.append_assoc, List.cons_append, pathMarks_bracket, digits, List.singleton_append, pathMarks_closingBracket,
    if_neg starts.head?_ne_paren]
  rfl

/-- A name with arguments reads as a call. -/
theorem pathReadsAs_call (name : Identifier) (args : List TreeArgument) :
    PathReadsAs (name.text.toList ++ inParens (argumentTexts args))
      [.call name.text (args.map TreeArgument.toArgument)] := by
  have closed := parensAfter_of_closed (closed_joinWith (closed_argumentTexts args)) 0
  have grouped : name.text.toList ++ inParens (argumentTexts args) =
      name.text.toList ++ '(' :: joinWith [',', ' '] (argumentTexts args) ++ [')'] :=
    (List.append_assoc _ _ _).symm
  have alone : StandsAlone (name.text.toList ++ inParens (argumentTexts args)) := by
    rw [grouped]
    exact standsAlone_call name.named closed
  have filled : name.text.toList ++ inParens (argumentTexts args) ≠ [] :=
    List.append_ne_nil_of_left_ne_nil name.toList_ne_nil _
  refine pathReadsAs_of_parts ?_ fun rest => pathParts_append alone filled
  rw [grouped, ofPart_of_isName name.named, map_ofText_splitArgs]

/-- A name in brackets, with arguments behind it, reads as the same call. -/
theorem pathReadsAs_bracketCall (name : Identifier) (args : List TreeArgument) :
    PathReadsAs (bracketed name.text.toList ++ inParens (argumentTexts args))
      [.call name.text (args.map TreeArgument.toArgument)] := by
  intro rest starts
  have glued : pathParts (bracketed name.text.toList ++ inParens (argumentTexts args) ++ rest) =
      pathParts (name.text.toList ++ inParens (argumentTexts args) ++ rest) := by
    rw [List.append_assoc, List.append_assoc]
    exact pathParts_bracketed_paren (isWord_of_mem_name name.named) _
  rw [← pathReadsAs_call name args rest starts]
  unfold pathSegments
  rw [glued]

namespace ExpressionTree

/-- The text of a tree reads as the segments of the tree: an induction on the tree. -/
theorem pathReadsAs : (tree : ExpressionTree) → PathReadsAs tree.chars tree.segments
  | .root name => pathReadsAs_name name
  | .field front name => front.pathReadsAs.append (pathReadsAs_name name).dot (startsSegment_dot _)
  | .key front part => front.pathReadsAs.append (pathReadsAs_bracketed part) (startsSegment_bracket _)
  | .index front n => front.pathReadsAs.append (pathReadsAs_inBrackets n) (startsSegment_bracket _)
  | .call front name args => front.pathReadsAs.append (pathReadsAs_call name args).dot (startsSegment_dot _)
  | .bracketCall front name args => front.pathReadsAs.append (pathReadsAs_bracketCall name args) (startsSegment_bracket _)

/-! ## Reading undoes writing -/

/-- The segments of the text of a tree are those of the tree. -/
theorem pathSegments_chars (tree : ExpressionTree) : pathSegments tree.chars = tree.segments := by
  have whole := tree.pathReadsAs [] nofun
  rw [List.append_nil, show pathSegments [] = [] from rfl, List.append_nil] at whole
  exact whole

/-- So are those of any text whose bare expression is the text of the tree. -/
theorem segments_of_bareExpression (tree : ExpressionTree) {text : String} (bare : bareExpression text = tree.text) :
    (Expression.ofText text).segments = tree.segments := by
  rw [Expression.segments_ofText, bare, ← tree.pathSegments_chars]
  unfold splitPath ExpressionTree.text pathSegments
  rw [String.toList_ofList, List.map_map]
  rfl

section

variable (tree : ExpressionTree) {before behind : List Char} (blankBefore : ∀ c ∈ before, isBlank c = true)
  (blankBehind : ∀ c ∈ behind, isBlank c = true)
include blankBefore blankBehind

/-- Blanks around the text of a tree are trimmed off. -/
theorem trimChars_of_blank_around : trimChars (before ++ tree.chars ++ behind) = tree.chars := by
  rw [DynamicBlocks.trimChars_of_blank_around blankBefore blankBehind, tree.trimChars_chars]

/-- The bare expression of a tree with blanks around it is its text. -/
theorem bareExpression_of_blank_around :
    bareExpression (String.ofList (before ++ tree.chars ++ behind)) = tree.text := by
  obtain ⟨c, cs, shape, word⟩ := tree.exists_chars_eq_cons
  have unbraced : tree.chars.head? ≠ some '\x7b' := by
    rw [shape]
    simpa using ne_of_notMem_signs (notMem_signs_of_isWord word) (by decide)
  refine bareExpression_of_trimmed ?_ unbraced
  rw [String.toList_ofList, tree.trimChars_of_blank_around blankBefore blankBehind]

/-- So is that of a tree in braces, with blanks inside and outside of them. -/
theorem bareExpression_of_braces_around {front back : List Char} (blankFront : ∀ c ∈ front, isBlank c = true)
    (blankBack : ∀ c ∈ back, isBlank c = true) :
    bareExpression (String.ofList (before ++ inBraces (front ++ tree.chars ++ back) ++ behind)) = tree.text := by
  have closed : Closed false (front ++ tree.chars ++ back) :=
    .append (.append (.of_blank blankFront) tree.closed) (.of_blank blankBack)
  have filled : front ++ tree.chars ++ back ≠ [] :=
    List.append_ne_nil_of_left_ne_nil (List.append_ne_nil_of_right_ne_nil _ (TreeValue.expression tree).chars_ne_nil) _
  have ends : inBraces (front ++ tree.chars ++ back) = '\x7b' :: (front ++ tree.chars ++ back) ++ ['\x7d'] := rfl
  have trimmed : trimChars (before ++ inBraces (front ++ tree.chars ++ back) ++ behind) =
      inBraces (front ++ tree.chars ++ back) := by
    rw [DynamicBlocks.trimChars_of_blank_around blankBefore blankBehind]
    exact trimChars_of_ends rfl (by decide) ends (by decide)
  rw [bareExpression_of_inBraces (by rw [String.toList_ofList, trimmed]) filled (fillsBraces_of_closed closed),
    tree.trimChars_of_blank_around blankFront blankBack]
  rfl

end

/-- Reading undoes writing: a written expression is read as the segments that are meant, each call with its arguments as
their own texts and names, and just so with blanks or braces around it. -/
theorem ofText_text (tree : ExpressionTree) :
    Expression.ofText tree.text = ⟨tree.text, tree.segments⟩ ∧
      ∀ before behind front back : List Char, (∀ c ∈ before ++ behind ++ front ++ back, isBlank c = true) →
        (Expression.ofText (String.ofList (before ++ tree.chars ++ behind))).segments = tree.segments ∧
          (Expression.ofText (String.ofList (before ++ inBraces (front ++ tree.chars ++ back) ++ behind))).segments =
            tree.segments := by
  constructor
  · have bare : bareExpression (String.ofList ([] ++ tree.chars ++ [])) = tree.text :=
      tree.bareExpression_of_blank_around (List.forall_mem_nil _) (List.forall_mem_nil _)
    rw [List.nil_append, List.append_nil] at bare
    exact Expression.ofText_eq_of_segments (tree.segments_of_bareExpression bare)
  · intro before behind front back blank
    simp only [List.forall_mem_append] at blank
    obtain ⟨⟨⟨blankBefore, blankBehind⟩, blankFront⟩, blankBack⟩ := blank
    exact ⟨tree.segments_of_bareExpression (tree.bareExpression_of_blank_around blankBefore blankBehind),
      tree.segments_of_bareExpression
        (tree.bareExpression_of_braces_around blankBefore blankBehind blankFront blankBack)⟩

/-- A loop with a call and a comma in quotes among its arguments, and a call behind it. -/
def nested : ExpressionTree :=
  .call
    (.bracketCall (.root ⟨"props", by decide +kernel⟩) ⟨"loop", by decide +kernel⟩
      [.named ⟨"count", by decide +kernel⟩
        (.expression (.call (.key (.root ⟨"props", by decide +kernel⟩) ⟨"count", by decide, by decide +kernel⟩)
          ⟨"toInt", by decide +kernel⟩ [])),
        .positional (.quoted ⟨'\'', "a, b", .inr rfl, by decide +kernel⟩)])
    ⟨"at", by decide +kernel⟩ [.positional (.int (-1))]

/-- A call within a call, with quotes, an index in brackets, and blanks and braces around it all, reads as the tree it
is of. -/
theorem ofText_text_nested :
    nested.text = "props['loop']($count: props['count'].toInt(), 'a, b').at(-1)" ∧
      Expression.ofText nested.text =
        ⟨nested.text, [.key "props", .call "loop" [⟨"props['count'].toInt()", some "$count"⟩, ⟨"'a, b'", none⟩],
          .call "at" [⟨"-1", none⟩]]⟩ ∧
      (∀ c ∈ [' '] ++ ['\n'] ++ [] ++ ['\t'], isBlank c = true) ∧
      (Expression.ofText (String.ofList ([' '] ++ inBraces ([] ++ nested.chars ++ ['\t']) ++ ['\n']))).segments =
        nested.segments := by
  have blank : ∀ c ∈ [' '] ++ ['\n'] ++ [] ++ ['\t'], isBlank c = true := List.all_eq_true.mp (by decide)
  have segments : nested.segments =
      [.key "props", .call "loop" [⟨"props['count'].toInt()", some "$count"⟩, ⟨"'a, b'", none⟩],
        .call "at" [⟨"-1", none⟩]] := by decide +kernel
  refine ⟨by decide +kernel, ?_, blank, ((ofText_text nested).2 [' '] ['\n'] [] ['\t'] blank).2⟩
  rw [← segments]
  exact (ofText_text nested).1

end ExpressionTree

end DynamicBlocks
