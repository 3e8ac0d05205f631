import DynamicBlocks.Proofs.ExpressionTexts
import DynamicBlocks.Text.Search
import Mathlib

/-!
# Calls written down

A call with parameters by name, written down with a blank behind every comma and colon, is read as what was written. It
takes texts that leave the reading as they found it: names of word characters, and arguments without blanks around them
that open and close their own parentheses and hold no comma that separates arguments.

Parentheses count for the path also where they stand in quotes, while for the arguments quotes hide them. So there are
two ways to read an argument, and it has to be closed for both.
-/

set_option autoImplicit false

namespace DynamicBlocks

open Text

/-! ## Characters of names -/

/-- No range of word characters meets a range of blanks. -/
theorem blankRanges_disjoint_wordRanges :
    ∀ blank ∈ blankRanges, ∀ word ∈ wordRanges, blank.2 < word.1 ∨ word.2 < blank.1 := by
  decide +kernel

/-- A character of a word is no blank. -/
theorem isBlank_of_isWord {c : Char} (word : isWord c = true) : isBlank c = false := by
  rw [Bool.eq_false_iff]
  intro blank
  obtain ⟨range, there, low, high⟩ := (inRanges_iff blankRanges c.toNat).mp blank
  unfold isWord at word
  split at word
  · have letters : 48 ≤ c.toNat := by
      simp only [isAsciiWord, Char.isAlphanum, Char.isAlpha, Char.isUpper, Char.isLower, Char.isDigit, Bool.or_eq_true,
        Bool.and_eq_true, decide_eq_true_eq, beq_iff_eq] at word
      rcases word with ((⟨above, _⟩ | ⟨above, _⟩) | ⟨above, _⟩) | rfl
      · exact le_trans (by decide) above
      · exact le_trans (by decide) above
      · exact above
      · decide
    have ascii : ∀ range ∈ blankRanges, range.2 < 48 ∨ 128 ≤ range.1 := by decide
    have apart := ascii range there
    omega
  · obtain ⟨other, among, below, above⟩ := (inRanges_iff wordRanges c.toNat).mp word
    have apart := blankRanges_disjoint_wordRanges range there other among
    omega

/-! ## The path of a call -/

/-- The parentheses that are open within a call behind characters that do not close it. -/
def parensAfter : (opened : Nat) → List Char → Option Nat
  | opened, [] => some opened
  | opened, [c] => if c = '\\' then none else closing opened c
  | opened, c :: d :: cs =>
    if c = '\\' then parensAfter opened cs else (closing opened c).bind fun opened => parensAfter opened (d :: cs)
where
  /-- The parentheses that are open behind one character. -/
  closing (opened : Nat) (c : Char) : Option Nat :=
    if c = '(' then some (opened + 1)
    else if c = ')' then (if opened = 0 then none else some (opened - 1))
    else some opened

/-- The marks of a path are those of its first character and of the rest, from where the first leads. -/
theorem pathMarks_cons {c : Char} (plain : c ≠ '\\') (s : PathState) (cs : List Char) :
    pathMarks s (c :: cs) = (s.step c cs.head?).1 ++ pathMarks (s.step c cs.head?).2 cs := by
  cases cs with
  | nil =>
    show (s.step c none).1 = (s.step c none).1 ++ []
    rw [List.append_nil]
  | cons d cs =>
    rw [pathMarks, if_neg plain]
    rfl

/-- Characters that leave the place as it is are read as they are. -/
theorem pathMarks_of_step {s : PathState} {cs : List Char}
    (steps : ∀ c ∈ cs, c ≠ '\\' ∧ ∀ next, s.step c next = ([some c], s)) (rest : List Char) :
    pathMarks s (cs ++ rest) = cs.map some ++ pathMarks s rest := by
  induction cs with
  | nil => rfl
  | cons c cs ih =>
    obtain ⟨plain, step⟩ := steps c List.mem_cons_self
    rw [List.cons_append, pathMarks_cons plain, step, ih fun d there => steps d (List.mem_cons_of_mem c there)]
    rfl

/-- Inside a call every character is kept, and only parentheses change what is open. -/
theorem PathState.step_inCall {opened left : Nat} {c : Char} (closed : parensAfter.closing opened c = some left)
    (next : Option Char) :
    PathState.step ⟨opened + 1, 0, none⟩ c next = ([some c], ⟨left + 1, 0, none⟩) := by
  unfold parensAfter.closing at closed
  unfold PathState.step
  by_cases opening : c = '('
  · rw [if_pos opening] at closed
    obtain rfl := Option.some.inj closed
    rw [if_pos ⟨opening, rfl, rfl⟩]
  · rw [if_neg opening] at closed
    by_cases closing : c = ')'
    · rw [if_pos closing] at closed
      split at closed
      · cases closed
      · obtain rfl := Option.some.inj closed
        rw [if_neg fun h => opening h.1, if_pos ⟨closing, rfl, rfl⟩]
        have left : opened + 1 - 1 = opened - 1 + 1 := by omega
        dsimp only
        rw [left]
    · rw [if_neg closing] at closed
      obtain rfl := Option.some.inj closed
      simp [opening, closing, turnsQuote, isOutside]

/-- The path goes on within a call behind characters that do not close it, if there are more. -/
theorem pathMarks_inCall {cs : List Char} {opened left : Nat} (closed : parensAfter opened cs = some left)
    {rest : List Char} (more : rest ≠ []) :
    pathMarks ⟨opened + 1, 0, none⟩ (cs ++ rest) = cs.map some ++ pathMarks ⟨left + 1, 0, none⟩ rest := by
  obtain ⟨r, rest, rfl⟩ := List.exists_cons_of_ne_nil more
  -- A backslash and the character behind it are passed over together, by the path as by `parensAfter`.
  fun_induction parensAfter opened cs with
  | case1 opened =>
    obtain rfl := Option.some.inj closed
    rfl
  | case2 opened => cases closed
  | case3 opened c plain =>
    show pathMarks _ (c :: r :: rest) = _
    rw [pathMarks, if_neg plain, PathState.step_inCall closed]
    rfl
  | case4 opened d cs ih =>
    show pathMarks _ ('\\' :: d :: (cs ++ r :: rest)) = _
    rw [pathMarks, if_pos rfl, ih closed]
    rfl
  | case5 opened c d cs plain ih =>
    obtain ⟨next, closing, closed⟩ := Option.bind_eq_some_iff.mp closed
    show pathMarks _ (c :: d :: (cs ++ r :: rest)) = _
    rw [pathMarks, if_neg plain, PathState.step_inCall closing]
    have after := ih next closed
    rw [List.cons_append] at after
    rw [after]
    rfl

/-- Parentheses are counted on from where a closed part has left them. -/
theorem parensAfter_append {cs : List Char} {opened left : Nat} (closed : parensAfter opened cs = some left)
    (rest : List Char) : parensAfter opened (cs ++ rest) = parensAfter left rest := by
  fun_induction parensAfter opened cs with
  | case1 opened =>
    obtain rfl := Option.some.inj closed
    rfl
  | case2 opened => cases closed
  | case3 opened c plain =>
    cases rest with
    | nil =>
      have single : parensAfter opened [c] = some left := by rw [parensAfter, if_neg plain, closed]
      exact single
    | cons r rest =>
      show parensAfter opened (c :: r :: rest) = _
      rw [parensAfter, if_neg plain, closed]
      rfl
  | case4 opened d cs ih =>
    show parensAfter opened ('\\' :: d :: (cs ++ rest)) = _
    rw [parensAfter, if_pos rfl, ih closed]
  | case5 opened c d cs plain ih =>
    obtain ⟨next, closing, closed⟩ := Option.bind_eq_some_iff.mp closed
    have after := ih next closed
    show parensAfter opened (c :: d :: (cs ++ rest)) = _
    rw [parensAfter, if_neg plain, closing]
    exact after

/-- Characters that are no parentheses and escape nothing leave the count. -/
theorem parensAfter_of_plain {cs : List Char} (plain : ∀ c ∈ cs, c ≠ '\\' ∧ c ≠ '(' ∧ c ≠ ')') (opened : Nat) :
    parensAfter opened cs = some opened := by
  fun_induction parensAfter opened cs with
  | case1 => rfl
  | case2 => exact absurd rfl (plain '\\' List.mem_cons_self).1
  | case3 opened c _ =>
    obtain ⟨_, opening, closing⟩ := plain c List.mem_cons_self
    unfold parensAfter.closing
    rw [if_neg opening, if_neg closing]
  | case4 => exact absurd rfl (plain '\\' List.mem_cons_self).1
  | case5 opened c d cs _ ih =>
    obtain ⟨_, opening, closing⟩ := plain c List.mem_cons_self
    have kept : parensAfter.closing opened c = some opened := by
      unfold parensAfter.closing
      rw [if_neg opening, if_neg closing]
    rw [kept]
    exact ih opened fun e there => plain e (List.mem_cons_of_mem c there)

/-- Characters with a meaning in paths, expressions or names of fields. -/
def signs : List Char := ['.', '(', ')', '[', ']', '\x7b', '\x7d', '"', '\'', '\\', '-']

/-- What holds of none of some characters holds of none among them. -/
theorem notMem_of_all_not {holds : Char → Bool} {others : List Char} (none : others.all (fun other => !holds other) = true)
    {c : Char} (held : holds c = true) : c ∉ others := by
  intro there
  have contrary := List.all_eq_true.mp none c there
  rw [held] at contrary
  cases contrary

/-- A character of a word is no sign. -/
theorem notMem_signs_of_isWord {c : Char} (word : isWord c = true) : c ∉ signs := by
  have none : signs.all (fun sign => !isWord sign) = true := by decide
  exact notMem_of_all_not none word

/-- A character that is no sign is different from each of them. -/
theorem ne_of_notMem_signs {c d : Char} (plain : c ∉ signs) (sign : d ∈ signs) : c ≠ d := by
  rintro rfl
  exact plain sign

/-- Characters without signs among them are read as they are. -/
theorem pathMarks_plain {part : List Char} (plain : ∀ c ∈ part, c ∉ signs) (rest : List Char) :
    pathMarks .start (part ++ rest) = part.map some ++ pathMarks .start rest := by
  apply pathMarks_of_step
  intro c there
  have other {d : Char} (sign : d ∈ signs) : c ≠ d := ne_of_notMem_signs (plain c there) sign
  refine ⟨other (by decide), fun next => ?_⟩
  simp [PathState.step, PathState.start, PathState.turnsQuote, other (d := '(') (by decide),
    other (d := ')') (by decide), other (d := '[') (by decide), other (d := ']') (by decide), other (d := '.') (by decide)]

/-- A dot in front cuts off an empty part. -/
theorem pathMarks_dot (rest : List Char) : pathMarks .start ('.' :: rest) = none :: pathMarks .start rest := by
  cases rest <;> rfl

/-- A call with closed arguments is a part of its own. -/
theorem pathMarks_call {name args : List Char} (word : ∀ c ∈ name, isWord c = true)
    (closed : parensAfter 0 args = some 0) (rest : List Char) :
    pathMarks .start (name ++ '(' :: args ++ ')' :: rest) =
      (name ++ '(' :: args ++ [')']).map some ++ pathMarks .start rest := by
  have opening : pathMarks .start ('(' :: (args ++ ')' :: rest)) =
      some '(' :: pathMarks ⟨1, 0, none⟩ (args ++ ')' :: rest) := by
    cases args <;> rfl
  have closing : pathMarks ⟨1, 0, none⟩ (')' :: rest) = some ')' :: pathMarks .start rest := by
    cases rest <;> rfl
  rw [List.append_assoc, List.cons_append, pathMarks_plain fun c there => notMem_signs_of_isWord (word c there),
    opening, pathMarks_inCall closed (List.cons_ne_nil _ _), closing]
  simp

/-! ## The arguments of a call -/

/-- What is open behind characters of which none separates arguments. -/
def uncutAfter : ArgState → List Char → Option ArgState
  | s, [] => some s
  | s, c :: cs => if s.cutsAt c then none else uncutAfter (s.step c) cs

/-- The state is carried on from where an uncut part has left it. -/
theorem uncutAfter_append {s t : ArgState} {cs : List Char} (uncut : uncutAfter s cs = some t) (rest : List Char) :
    uncutAfter s (cs ++ rest) = uncutAfter t rest := by
  induction cs generalizing s with
  | nil =>
    obtain rfl := Option.some.inj uncut
    rfl
  | cons c cs ih =>
    unfold uncutAfter at uncut
    split at uncut
    · cases uncut
    · rename_i kept
      rw [List.cons_append, uncutAfter, if_neg kept, ih uncut]

/-- The marks of arguments are all characters of an uncut part, and then those of the rest. -/
theorem argMarks_append {s t : ArgState} {cs : List Char} (uncut : uncutAfter s cs = some t) (rest : List Char) :
    argMarks s (cs ++ rest) = cs.map some ++ argMarks t rest := by
  induction cs generalizing s with
  | nil =>
    obtain rfl := Option.some.inj uncut
    rfl
  | cons c cs ih =>
    unfold uncutAfter at uncut
    split at uncut
    · cases uncut
    · rename_i kept
      rw [List.cons_append, argMarks, if_neg kept, ih uncut]
      rfl

/-- Characters that open, close or separate something in arguments. -/
def argumentSigns : List Char :=
  ['"', '\'', '(', '[', '\x7b', ')', ']', '\x7d', ',']

/-- Blanks have no meaning in arguments. -/
theorem notMem_argumentSigns_of_isBlank {c : Char} (blank : isBlank c = true) : c ∉ '\\' :: argumentSigns := by
  have solid : ('\\' :: argumentSigns).all (fun sign => !isBlank sign) = true := by decide
  exact notMem_of_all_not solid blank

/-- Other characters are passed over where no quote is open. -/
theorem ArgState.pass_of_plain {c : Char} (plain : c ∉ argumentSigns) (depth : Nat) (before : Option Char) :
    cutsAt ⟨depth, none, before⟩ c = false ∧ step ⟨depth, none, before⟩ c = ⟨depth, none, some c⟩ := by
  unfold argumentSigns at plain
  simp only [List.mem_cons, List.not_mem_nil, or_false, not_or] at plain
  simp [cutsAt, step, nextQuote, plain]

/-- A text without signs is uncut and leaves no parenthesis open. -/
theorem uncutAfter_of_plain {cs : List Char} (plain : ∀ c ∈ cs, c ∉ argumentSigns) (before : Option Char) (last : Char)
    (plainLast : last ∉ argumentSigns) :
    uncutAfter ⟨0, none, before⟩ (cs ++ [last]) = some ⟨0, none, some last⟩ := by
  induction cs generalizing before with
  | nil =>
    obtain ⟨kept, step⟩ := ArgState.pass_of_plain plainLast 0 before
    show uncutAfter _ [last] = _
    rw [uncutAfter, kept, step]
    rfl
  | cons c cs ih =>
    obtain ⟨kept, step⟩ := ArgState.pass_of_plain (plain c List.mem_cons_self) 0 before
    rw [List.cons_append, uncutAfter, kept, step]
    exact ih (fun d there => plain d (List.mem_cons_of_mem c there)) (some c)

/-- Characters that are all kept are one part. -/
theorem gather_map_some (cs : List Char) : gather (cs.map some) = [cs] := by
  induction cs with
  | nil => rfl
  | cons c cs ih => rw [List.map_cons, gather, ih]

/-! ## Arguments in a row -/

/-- Whether characters are one argument wherever they stand in a row: no comma in them separates arguments, and nothing
is open behind them. -/
def IsUncut (cs : List Char) : Prop :=
  ∀ before, before ≠ some '\\' → ∃ behind, uncutAfter ⟨0, none, before⟩ cs = some ⟨0, none, behind⟩

/-- A blank in front leaves a text uncut. -/
theorem isUncut_blank {cs : List Char} (uncut : IsUncut cs) : IsUncut (' ' :: cs) := by
  intro before _
  obtain ⟨behind, reached⟩ := uncut (some ' ') (by decide)
  have kept : ArgState.cutsAt ⟨0, none, before⟩ ' ' = false := by simp [ArgState.cutsAt]
  have step : ArgState.step ⟨0, none, before⟩ ' ' = ⟨0, none, some ' '⟩ := by simp [ArgState.step, nextQuote]
  refine ⟨behind, ?_⟩
  rw [uncutAfter, kept, step, ← reached]
  rfl

/-- Pieces joined by commas are cut where they were joined. -/
theorem gather_argMarks_joinWith {piece : List Char} {pieces : List (List Char)}
    (uncut : ∀ other ∈ piece :: pieces, IsUncut other) {before : Option Char} (unescaped : before ≠ some '\\') :
    gather (argMarks ⟨0, none, before⟩ (joinWith [','] (piece :: pieces))) = piece :: pieces := by
  induction pieces generalizing piece before with
  | nil =>
    obtain ⟨behind, reached⟩ := uncut piece List.mem_cons_self before unescaped
    have marks := argMarks_append reached []
    rw [List.append_nil, show argMarks _ [] = [] from rfl, List.append_nil] at marks
    show gather (argMarks _ piece) = _
    rw [marks, gather_map_some]
  | cons next pieces ih =>
    obtain ⟨behind, reached⟩ := uncut piece List.mem_cons_self before unescaped
    have comma (rest : List Char) :
        argMarks ⟨0, none, behind⟩ (',' :: rest) = none :: argMarks ⟨0, none, some ','⟩ rest := rfl
    have others : gather (argMarks ⟨0, none, some ','⟩ (joinWith [','] (next :: pieces))) = next :: pieces :=
      ih (fun other there => uncut other (List.mem_cons_of_mem piece there)) (by decide)
    show gather (argMarks _ (piece ++ [','] ++ joinWith [','] (next :: pieces))) = _
    rw [List.append_assoc, argMarks_append reached, List.singleton_append, comma, gather_append_cut, gather_map_some,
      others]
    rfl

/-- Pieces joined by commas are read as arguments, but for blanks around them. -/
theorem splitArgs_joinWith_comma {pieces : List (List Char)} (uncut : ∀ piece ∈ pieces, IsUncut piece)
    (filled : ∀ piece ∈ pieces, trimChars piece ≠ []) :
    splitArgs (String.ofList (joinWith [','] pieces)) = pieces.map fun piece => String.ofList (trimChars piece) := by
  cases pieces with
  | nil => rfl
  | cons piece pieces =>
    have cut : gather (argMarks .start (joinWith [','] (piece :: pieces))) = piece :: pieces :=
      gather_argMarks_joinWith uncut (by decide)
    have kept : ((piece :: pieces).map trimChars).filter (fun text => !text.isEmpty) = (piece :: pieces).map trimChars := by
      apply List.filter_eq_self.mpr
      intro text there
      obtain ⟨other, among, rfl⟩ := List.mem_map.mp there
      simpa using filled other among
    unfold splitArgs
    rw [String.toList_ofList, cut, kept, List.map_map]
    rfl

/-- A blank behind each comma stands in front of the next piece. -/
theorem joinWith_comma_blank (piece : List Char) (pieces : List (List Char)) :
    joinWith [',', ' '] (piece :: pieces) = joinWith [','] (piece :: pieces.map (' ' :: ·)) := by
  induction pieces generalizing piece with
  | nil => rfl
  | cons next pieces ih =>
    have front (more : List (List Char)) :
        joinWith [','] ((' ' :: next) :: more) = ' ' :: joinWith [','] (next :: more) := by
      cases more <;> rfl
    show piece ++ [',', ' '] ++ joinWith [',', ' '] (next :: pieces) =
      piece ++ [','] ++ joinWith [','] ((' ' :: next) :: pieces.map (' ' :: ·))
    rw [ih, front]
    simp

/-- Arguments with a comma and a blank between are read as they were before they were joined, but for blanks around
them. -/
theorem splitArgs_joinWith {pieces : List (List Char)} (uncut : ∀ piece ∈ pieces, IsUncut piece)
    (filled : ∀ piece ∈ pieces, trimChars piece ≠ []) :
    splitArgs (String.ofList (joinWith [',', ' '] pieces)) = pieces.map fun piece => String.ofList (trimChars piece) := by
  cases pieces with
  | nil => rfl
  | cons piece pieces =>
    have cases : ∀ {other}, other ∈ piece :: pieces.map (' ' :: ·) →
        other ∈ piece :: pieces ∨ ∃ bare ∈ piece :: pieces, ' ' :: bare = other := by
      intro other there
      rcases List.mem_cons.mp there with rfl | there
      · exact .inl List.mem_cons_self
      · obtain ⟨bare, among, same⟩ := List.mem_map.mp there
        exact .inr ⟨bare, List.mem_cons_of_mem piece among, same⟩
    rw [joinWith_comma_blank, splitArgs_joinWith_comma]
    · rw [List.map_cons, List.map_map]
      rfl
    · intro other there
      rcases cases there with among | ⟨bare, among, rfl⟩
      · exact uncut other among
      · exact isUncut_blank (uncut bare among)
    · intro other there
      rcases cases there with among | ⟨bare, among, rfl⟩
      · exact filled other among
      · exact filled bare among

/-! ## Parameters -/

/-- Whether characters make a name of an argument. -/
def isKeyword : List Char → Bool
  | [] => false
  | c :: cs => startsKeyword c && cs.all continuesKeyword

/-- A parameter that can be written down: a name and the text of an expression that is closed and has no blanks around
it. -/
structure WrittenParam where
  name : String
  text : String
  named : isKeyword name.toList = true
  trimmed : trimChars text.toList = text.toList
  /-- Its parentheses are closed for the path. -/
  closed : parensAfter 0 text.toList = some 0
  /-- No comma in it separates arguments. -/
  uncut : ∃ before, uncutAfter ⟨0, none, some ' '⟩ text.toList = some ⟨0, none, before⟩

/-- A character of a word may stand in a keyword. -/
theorem continuesKeyword_of_isWord {c : Char} (word : isWord c = true) : continuesKeyword c = true := by
  unfold continuesKeyword
  rw [word]
  rfl

/-- What may start a keyword may stand in it. -/
theorem continuesKeyword_of_startsKeyword {c : Char} (starts : startsKeyword c = true) : continuesKeyword c = true := by
  have word : isAsciiWord c = true := by
    unfold startsKeyword at starts
    unfold isAsciiWord Char.isAlphanum
    rcases Bool.or_eq_true_iff.mp starts with letter | underscore
    · rw [letter]
      rfl
    · rw [underscore, Bool.or_true]
  have ascii : c.toNat < 128 := by
    simp only [startsKeyword, Char.isAlpha, Char.isUpper, Char.isLower, Bool.or_eq_true, Bool.and_eq_true,
      decide_eq_true_eq, beq_iff_eq] at starts
    rcases starts with (⟨_, high⟩ | ⟨_, high⟩) | rfl
    · exact lt_of_le_of_lt (show c.toNat ≤ 90 from high) (by decide)
    · exact lt_of_le_of_lt (show c.toNat ≤ 122 from high) (by decide)
    · decide
  exact continuesKeyword_of_isWord (by rw [isWord, if_pos ascii, word])

/-- No blank stands in a keyword. -/
theorem isBlank_of_continuesKeyword {c : Char} (goesOn : continuesKeyword c = true) : isBlank c = false := by
  rcases Bool.or_eq_true_iff.mp goesOn with word | dash
  · exact isBlank_of_isWord word
  · obtain rfl := eq_of_beq dash
    decide

/-- A character of a keyword is different from any that has no place there. -/
theorem ne_of_continuesKeyword {c d : Char} (goesOn : continuesKeyword c = true) (special : continuesKeyword d = false) :
    c ≠ d := by
  rintro rfl
  rw [goesOn] at special
  cases special

/-- No sign of arguments stands in a keyword. -/
theorem notMem_argumentSigns_of_continuesKeyword {c : Char} (goesOn : continuesKeyword c = true) : c ∉ argumentSigns := by
  have none : argumentSigns.all (fun sign => !continuesKeyword sign) = true := by decide
  exact notMem_of_all_not none goesOn

/-- All characters of a keyword may stand in one. -/
theorem continuesKeyword_of_mem {name : List Char} (named : isKeyword name = true) {c : Char} (there : c ∈ name) :
    continuesKeyword c = true := by
  cases name with
  | nil => cases named
  | cons first rest =>
    obtain ⟨starts, goesOn⟩ := Bool.and_eq_true_iff.mp named
    rcases List.mem_cons.mp there with rfl | there
    · exact continuesKeyword_of_startsKeyword starts
    · exact List.all_eq_true.mp goesOn c there

namespace WrittenParam

/-- The parameter as an argument of a call. -/
def toArgument (param : WrittenParam) : Argument :=
  ⟨param.text, some ("$" ++ param.name)⟩

/-- The parameter as it is written. -/
def chars (param : WrittenParam) : List Char :=
  '$' :: param.name.toList ++ ':' :: ' ' :: param.text.toList

variable (param : WrittenParam)

/-- A character of a parameter's name is different from any that has no place in a keyword. -/
theorem ne_of_mem_name {c d : Char} (there : c ∈ param.name.toList) (special : continuesKeyword d = false) : c ≠ d :=
  ne_of_continuesKeyword (continuesKeyword_of_mem param.named there) special

/-- A written parameter is a dollar sign, its name, a colon, a blank and its text. -/
theorem chars_eq : param.chars = ('$' :: param.name.toList ++ [':'] ++ [' ']) ++ param.text.toList := by
  simp [chars]

/-- A written parameter closes the parentheses that it opens. -/
theorem closed_chars : parensAfter 0 param.chars = some 0 := by
  have front : parensAfter 0 ('$' :: param.name.toList ++ [':'] ++ [' ']) = some 0 := by
    apply parensAfter_of_plain
    intro c there
    simp only [List.cons_append, List.append_assoc, List.mem_cons, List.mem_append, List.nil_append,
      List.not_mem_nil, or_false] at there
    rcases there with rfl | there | rfl | rfl
    · decide
    · exact ⟨param.ne_of_mem_name there (by decide), param.ne_of_mem_name there (by decide),
        param.ne_of_mem_name there (by decide)⟩
    · decide
    · decide
  rw [chars_eq, parensAfter_append front, param.closed]

/-- A written parameter is not cut where arguments are split. -/
theorem isUncut_chars : IsUncut param.chars := by
  intro before _
  obtain ⟨behind, uncut⟩ := param.uncut
  have front : uncutAfter ⟨0, none, before⟩ ('$' :: param.name.toList ++ [':'] ++ [' ']) = some ⟨0, none, some ' '⟩ := by
    refine uncutAfter_of_plain (fun c there => ?_) before ' ' (by decide)
    simp only [List.cons_append, List.mem_cons, List.mem_append, List.not_mem_nil, or_false] at there
    rcases there with rfl | there | rfl
    · decide
    · exact notMem_argumentSigns_of_continuesKeyword (continuesKeyword_of_mem param.named there)
    · decide
  exact ⟨behind, by rw [chars_eq, uncutAfter_append front, uncut]⟩

/-- Behind the name and the colon only the text is trimmed. -/
theorem trimChars_chars :
    trimChars param.chars = '$' :: param.name.toList ++ ':' :: trimBack (' ' :: param.text.toList) := by
  have solid : isBlank '$' = false := by decide
  show trimChars ('$' :: (param.name.toList ++ ':' :: ' ' :: param.text.toList)) = _
  rw [trimChars_cons solid, trimBack_append_cons _ (by decide)]
  rfl

/-- A blank in front of the text is all that trimming takes away. -/
theorem trimBack_text :
    (trimBack (' ' :: param.text.toList)).head? ≠ some ':' ∧
      trimChars (trimBack (' ' :: param.text.toList)) = param.text.toList := by
  have trimmed := param.trimmed
  cases shape : param.text.toList with
  | nil => decide
  | cons c cs =>
    rw [shape] at trimmed
    have solid : isBlank c = false := by
      rw [Bool.eq_false_iff]
      intro blank
      -- Trimming would have made the text shorter.
      have dropped : trimChars (c :: cs) = trimChars cs := by
        unfold trimChars trimFront
        rw [List.dropWhile_cons_of_pos blank]
      have shorter := length_trimChars_le cs
      rw [← dropped, trimmed, List.length_cons] at shorter
      omega
    have whole : trimBack (' ' :: c :: cs) = ' ' :: c :: cs := by
      rw [trimChars_cons solid] at trimmed
      show trimBack ([' '] ++ c :: cs) = _
      rw [trimBack_append_cons _ solid, trimmed]
      rfl
    rw [whole]
    exact ⟨fun colon => absurd (Option.some.inj colon) (by decide), trimmed⟩

/-- A written parameter reads as the argument it is. -/
theorem ofText_chars : Argument.ofText (String.ofList (trimChars param.chars)) = param.toArgument := by
  obtain ⟨single, text⟩ := param.trimBack_text
  have read : keyword? (trimChars param.chars) =
      some (param.name.toList, trimBack (' ' :: param.text.toList)) := by
    rw [trimChars_chars]
    have named := param.named
    cases shape : param.name.toList with
    | nil =>
      rw [shape] at named
      cases named
    | cons c cs =>
      rw [shape] at named
      obtain ⟨starts, goesOn⟩ := Bool.and_eq_true_iff.mp named
      have goesOn : ∀ d ∈ cs, continuesKeyword d = true := List.all_eq_true.mp goesOn
      have colon : continuesKeyword ':' = false := by decide
      have behind (rest : List Char) : (cs ++ ':' :: rest).dropWhile continuesKeyword = ':' :: rest := by
        rw [List.dropWhile_append_of_pos goesOn, List.dropWhile_cons_of_neg (by rw [colon]; decide)]
      have front (rest : List Char) : (cs ++ ':' :: rest).takeWhile continuesKeyword = cs := by
        rw [List.takeWhile_append_of_pos goesOn, List.takeWhile_cons_of_neg (by rw [colon]; decide), List.append_nil]
      show (if startsKeyword c = true then _ else _) = _
      rw [if_pos starts, List.append_eq, behind, trimFront_cons ':' _ (by decide)]
      show (if _ then _ else _) = _
      rw [if_neg single, front]
  have dollar : String.ofList ('$' :: param.name.toList) = "$" ++ param.name :=
    String.toList_inj.mp (by rw [String.toList_ofList, String.toList_append]; rfl)
  unfold Argument.ofText toArgument
  rw [String.toList_ofList, trimChars_trimChars]
  dsimp only
  rw [read]
  dsimp only
  rw [text, String.ofList_toList, dollar]

end WrittenParam

/-- Parameters as they are written, a comma and a blank between. -/
def paramsChars (params : List WrittenParam) : List Char :=
  joinWith ", ".toList (params.map WrittenParam.chars)

/-- Written parameters close the parentheses that they open. -/
theorem closed_paramsChars (params : List WrittenParam) : parensAfter 0 (paramsChars params) = some 0 := by
  induction params with
  | nil => rfl
  | cons param params ih =>
    cases params with
    | nil => exact param.closed_chars
    | cons next params =>
      have comma : parensAfter 0 (param.chars ++ [',', ' ']) = some 0 := by
        rw [parensAfter_append param.closed_chars]
        rfl
      show parensAfter 0 (param.chars ++ [',', ' '] ++ paramsChars (next :: params)) = _
      rw [parensAfter_append comma, ih]

/-- Written parameters are split into the arguments they are. -/
theorem splitArgs_paramsChars (params : List WrittenParam) :
    (splitArgs (String.ofList (paramsChars params))).map Argument.ofText = params.map WrittenParam.toArgument := by
  have uncut : ∀ piece ∈ params.map WrittenParam.chars, IsUncut piece := by
    intro piece there
    obtain ⟨param, _, rfl⟩ := List.mem_map.mp there
    exact param.isUncut_chars
  have filled : ∀ piece ∈ params.map WrittenParam.chars, trimChars piece ≠ [] := by
    intro piece there
    obtain ⟨param, _, rfl⟩ := List.mem_map.mp there
    rw [param.trimChars_chars]
    exact List.cons_ne_nil _ _
  have separator : ", ".toList = [',', ' '] := rfl
  unfold paramsChars
  rw [separator, splitArgs_joinWith uncut filled, List.map_map, List.map_map]
  apply List.map_congr_left
  intro param _
  rw [Function.comp_apply, Function.comp_apply, param.ofText_chars]

/-! ## Written calls -/

/-- A part of a path that is read by itself whatever follows. -/
def StandsAlone (part : List Char) : Prop :=
  ∀ rest, pathMarks .start (part ++ rest) = part.map some ++ pathMarks .start rest

/-- In front of a cut a part ends. -/
theorem pathParts_append_of_cut {part : List Char} (alone : StandsAlone part) (filled : part ≠ []) {rest : List Char}
    {marks : List Mark} (cut : pathMarks .start rest = none :: marks) :
    pathParts (part ++ rest) = part :: pathParts rest := by
  have empty : gather (none :: marks) = [] :: gather marks := rfl
  unfold pathParts
  rw [alone, cut, gather_append_cut, gather_map_some, List.singleton_append,
    List.filter_cons_of_pos (by simpa using filled), empty]
  rfl

/-- A dot in front of a path changes nothing of its parts. -/
theorem pathParts_dot (rest : List Char) : pathParts ('.' :: rest) = pathParts rest := by
  unfold pathParts
  rw [pathMarks_dot]
  rfl

/-- A part that stands alone, with a dot behind it, is the first part of a path. -/
theorem pathParts_append_dot {part : List Char} (alone : StandsAlone part) (filled : part ≠ []) (rest : List Char) :
    pathParts (part ++ '.' :: rest) = part :: pathParts rest := by
  rw [pathParts_append_of_cut alone filled (pathMarks_dot rest), pathParts_dot]

/-- A part that stands alone is a path of one part. -/
theorem pathParts_of_standsAlone {part : List Char} (alone : StandsAlone part) (filled : part ≠ []) :
    pathParts part = [part] := by
  have marks := alone []
  rw [List.append_nil, show pathMarks .start [] = [] from rfl, List.append_nil] at marks
  unfold pathParts
  rw [marks, gather_map_some, List.filter_cons_of_pos]
  · rfl
  · cases part with
    | nil => exact absurd rfl filled
    | cons c part => rfl

/-- Without a brace in front what is left of a text after trimming is the expression. -/
theorem bareExpression_of_trimmed {text : String} {cs : List Char} (trimmed : trimChars text.toList = cs)
    (unbraced : cs.head? ≠ some '\x7b') : bareExpression text = String.ofList cs := by
  have alone : standalone? cs = none := standalone?_eq_none unbraced
  unfold bareExpression
  rw [trimmed]
  dsimp only
  rw [alone]

/-- A text in braces is the expression between them. -/
theorem bareExpression_of_inBraces {text : String} {inner : List Char} (trimmed : trimChars text.toList = inBraces inner)
    (filled : inner ≠ []) (fills : FillsBraces inner) : bareExpression text = String.ofList (trimChars inner) := by
  have alone : standalone? (inBraces inner) = some inner := standalone?_eq_some_iff.mpr ⟨rfl, filled, fills⟩
  unfold bareExpression
  rw [trimmed]
  dsimp only
  rw [alone]

/-- A text that starts with no blank and no brace is its own expression, but for blanks at its end. -/
theorem bareExpression_of_head {text : String} {c : Char} {cs : List Char} (shape : text.toList = c :: cs)
    (solid : isBlank c = false) (unbraced : c ≠ '\x7b') : bareExpression text = String.ofList (c :: trimBack cs) :=
  bareExpression_of_trimmed (by rw [shape, trimChars_cons solid]) (by simpa using unbraced)

/-- The segments of a text without braces are those of its parts. -/
theorem segments_of_head {text : String} {c : Char} {cs : List Char} (shape : text.toList = c :: cs)
    (solid : isBlank c = false) (unbraced : c ≠ '\x7b') :
    (Expression.ofText text).segments = (pathParts (c :: trimBack cs)).map fun part => .ofPart (String.ofList part) := by
  rw [Expression.segments_ofText, bareExpression_of_head shape solid unbraced]
  unfold splitPath
  rw [String.toList_ofList, List.map_map]
  rfl

/-- A text with nothing to trim at either end and no brace in front is cut as it stands. -/
theorem segments_of_ends {text : String} {c last : Char} {cs front : List Char} (shape : text.toList = c :: cs)
    (solid : isBlank c = false) (unbraced : c ≠ '\x7b') (ends : text.toList = front ++ [last])
    (solidLast : isBlank last = false) :
    (Expression.ofText text).segments = (pathParts text.toList).map fun part => .ofPart (String.ofList part) := by
  have behind : trimBack (c :: cs) = c :: trimBack cs := trimBack_append_cons [] solid cs
  have kept : trimBack (front ++ [last]) = front ++ [last] := trimBack_append_cons front solidLast []
  rw [segments_of_head shape solid unbraced, ← behind, ← shape, ends, kept]

/-- A dot in front of a text changes nothing of its segments. -/
theorem segments_dot (text : String) :
    (Expression.ofText ("." ++ text)).segments =
      (pathParts (trimBack text.toList)).map fun part => .ofPart (String.ofList part) := by
  have shape : ("." ++ text).toList = '.' :: text.toList := by
    rw [String.toList_append]
    rfl
  rw [segments_of_head shape (by decide) (by decide), pathParts_dot]

/-- Whether characters make a name: there are some, and all are word characters. -/
def isName (name : List Char) : Bool :=
  !name.isEmpty && name.all isWord

/-- Whether characters make a key: there are some, and none is a blank or a sign. -/
def isKey (key : List Char) : Bool :=
  !key.isEmpty && key.all fun c => !isBlank c && !signs.contains c

/-- A name is a key. -/
theorem isKey_of_isName {name : List Char} (named : isName name = true) : isKey name = true := by
  obtain ⟨filled, words⟩ := Bool.and_eq_true_iff.mp named
  unfold isKey
  rw [filled, Bool.true_and, List.all_eq_true]
  intro c there
  have word := List.all_eq_true.mp words c there
  have plain : signs.contains c = false := by
    rw [← Bool.not_eq_true, List.contains_iff_mem]
    exact notMem_signs_of_isWord word
  rw [isBlank_of_isWord word, plain]
  rfl

section

variable {key : String} (keyed : isKey key.toList = true)
include keyed

/-- The characters of a key are neither blanks nor signs. -/
theorem plain_of_mem_key : ∀ c ∈ key.toList, isBlank c = false ∧ c ∉ signs := by
  intro c there
  have plain := List.all_eq_true.mp (Bool.and_eq_true_iff.mp keyed).2 c there
  simp only [Bool.and_eq_true, Bool.not_eq_true'] at plain
  refine ⟨plain.1, fun sign => ?_⟩
  rw [List.contains_iff_mem.mpr sign] at plain
  exact absurd plain.2 (by decide)

/-- A key has a first character, which is neither a blank nor a sign. -/
theorem exists_cons_of_isKey : ∃ c cs, key.toList = c :: cs ∧ isBlank c = false ∧ c ∉ signs := by
  cases shape : key.toList with
  | nil =>
    rw [shape] at keyed
    cases keyed
  | cons c cs =>
    exact ⟨c, cs, rfl, plain_of_mem_key keyed c (by rw [shape]; exact List.mem_cons_self)⟩

/-- A key has a last character, which is no blank. -/
theorem exists_concat_of_isKey : ∃ front last, key.toList = front ++ [last] ∧ isBlank last = false := by
  obtain ⟨c, cs, shape, _⟩ := exists_cons_of_isKey keyed
  have split : key.toList = (c :: cs).dropLast ++ [(c :: cs).getLast (List.cons_ne_nil c cs)] := by
    rw [shape, List.dropLast_append_getLast (List.cons_ne_nil c cs)]
  exact ⟨_, _, split, (plain_of_mem_key keyed _ (by rw [split]; simp)).1⟩

/-- A key stands alone in a path. -/
theorem standsAlone_key : StandsAlone key.toList :=
  pathMarks_plain fun c there => (plain_of_mem_key keyed c there).2

/-- A key is a path of one part. -/
theorem pathParts_key : pathParts key.toList = [key.toList] := by
  obtain ⟨c, cs, shape, _⟩ := exists_cons_of_isKey keyed
  apply pathParts_of_standsAlone (standsAlone_key keyed)
  rw [shape]
  exact List.cons_ne_nil c cs

/-- Nothing is trimmed off a key. -/
theorem trimChars_key : trimChars key.toList = key.toList :=
  trimChars_of_solid fun c there => (plain_of_mem_key keyed c there).1

/-- A key reads as the segment of itself. -/
theorem ofPart_key : Segment.ofPart key = .key key :=
  ofPart_of_notMem fun opening => absurd (show '(' ∈ signs by decide) (plain_of_mem_key keyed '(' opening).2

/-- A key and a part behind it are read as the key and the part. -/
theorem segments_key_part {front : List Char} {last : Char} (alone : StandsAlone (front ++ [last]))
    (solid : isBlank last = false) :
    (Expression.ofText (key ++ "." ++ String.ofList (front ++ [last]))).segments =
      [.key key, .ofPart (String.ofList (front ++ [last]))] := by
  obtain ⟨c, cs, shape, start, plain⟩ := exists_cons_of_isKey keyed
  have unbraced : c ≠ '\x7b' := ne_of_notMem_signs plain (by decide)
  have whole : (key ++ "." ++ String.ofList (front ++ [last])).toList = key.toList ++ '.' :: (front ++ [last]) := by
    rw [String.toList_append, String.toList_append, String.toList_ofList]
    simp
  have first : (key ++ "." ++ String.ofList (front ++ [last])).toList = c :: (cs ++ '.' :: (front ++ [last])) := by
    rw [whole, shape]
    rfl
  have ends : (key ++ "." ++ String.ofList (front ++ [last])).toList = key.toList ++ '.' :: front ++ [last] := by
    rw [whole]
    simp
  have filled : key.toList ≠ [] := by
    rw [shape]
    exact List.cons_ne_nil c cs
  rw [segments_of_ends first start unbraced ends solid, whole, pathParts_append_dot (standsAlone_key keyed) filled,
    pathParts_of_standsAlone alone (by simp), List.map_cons, String.ofList_toList, ofPart_key keyed]
  rfl

/-- A key is read as itself. -/
theorem segments_key : (Expression.ofText key).segments = [.key key] := by
  have trimmed := trimChars_key keyed
  obtain ⟨c, cs, shape, solid, plain⟩ := exists_cons_of_isKey keyed
  rw [shape, trimChars_cons solid] at trimmed
  rw [segments_of_head shape solid (ne_of_notMem_signs plain (by decide)), trimmed, ← shape, pathParts_key keyed,
    List.map_singleton, String.ofList_toList, ofPart_key keyed]

/-- Two keys are read as these. -/
theorem segments_key_key {root : String} (rooted : isKey root.toList = true) :
    (Expression.ofText (root ++ "." ++ key)).segments = [.key root, .key key] := by
  have alone := standsAlone_key keyed
  obtain ⟨front, last, shape, solid⟩ := exists_concat_of_isKey keyed
  have same : key = String.ofList (front ++ [last]) := by rw [← shape, String.ofList_toList]
  rw [shape] at alone
  conv_lhs => rw [same]
  rw [segments_key_part rooted alone solid, ← same, ofPart_key keyed]

end

/-- A call with parameters by name as it is written. -/
def callChars (name : String) (params : List WrittenParam) : List Char :=
  name.toList ++ '(' :: paramsChars params ++ [')']

section

variable {name : String} (named : isName name.toList = true) (params : List WrittenParam)
include named

/-- The characters of a name are those of words. -/
theorem isWord_of_mem_name : ∀ c ∈ name.toList, isWord c = true :=
  List.all_eq_true.mp (Bool.and_eq_true_iff.mp named).2

/-- A name has a first character, which is one of a word. -/
theorem exists_cons_of_isName : ∃ c cs, name.toList = c :: cs ∧ isWord c = true := by
  cases shape : name.toList with
  | nil =>
    rw [shape] at named
    cases named
  | cons c cs => exact ⟨c, cs, rfl, isWord_of_mem_name named c (by rw [shape]; exact List.mem_cons_self)⟩

/-- A name with anything in parentheses behind it is taken apart at the first one. -/
theorem callParts?_of_isName (args : List Char) :
    callParts? (String.ofList (name.toList ++ '(' :: args ++ [')'])) = some (name, String.ofList args) := by
  obtain ⟨c, cs, shape, word⟩ := exists_cons_of_isName named
  have split : name.toList ++ '(' :: args ++ [')'] = name.toList ++ '(' :: (args ++ [')']) := by simp
  have starts : name.toList ++ '(' :: args ++ [')'] = c :: (cs ++ '(' :: args ++ [')']) := by
    rw [shape]
    rfl
  have trimmed : trimChars (name.toList ++ '(' :: args ++ [')']) = name.toList ++ '(' :: args ++ [')'] :=
    trimChars_of_ends starts (isBlank_of_isWord word) rfl (by decide)
  have head : callHead? (name.toList ++ '(' :: args ++ [')']) = some (name.toList, args ++ [')']) := by
    have opening : isWord '(' = false := by decide
    have words := isWord_of_mem_name named
    unfold callHead?
    rw [split, List.takeWhile_append_of_pos words, List.dropWhile_append_of_pos words,
      List.takeWhile_cons_of_neg (by rw [opening]; decide), List.dropWhile_cons_of_neg (by rw [opening]; decide),
      List.append_nil, shape]
    rfl
  have closed : endsClosed (args ++ [')']) = true := by
    unfold endsClosed
    rw [List.getLast?_concat]
    rfl
  unfold callParts?
  rw [String.toList_ofList, trimmed, head]
  dsimp only
  rw [closed, List.dropLast_concat, String.ofList_toList]
  rfl

/-- A name with closed arguments behind it reads as a call. -/
theorem ofPart_of_isName (args : List Char) :
    Segment.ofPart (String.ofList (name.toList ++ '(' :: args ++ [')'])) =
      .call name ((splitArgs (String.ofList args)).map Argument.ofText) := by
  unfold Segment.ofPart
  rw [callParts?_of_isName named]

/-- A call with closed arguments stands alone in a path. -/
theorem standsAlone_call {args : List Char} (closed : parensAfter 0 args = some 0) :
    StandsAlone (name.toList ++ '(' :: args ++ [')']) := by
  intro rest
  rw [← pathMarks_call (isWord_of_mem_name named) closed rest, List.append_assoc _ [')'] rest, List.singleton_append]

/-- A call with written parameters stands alone in a path. -/
theorem standsAlone_callChars : StandsAlone (callChars name params) :=
  standsAlone_call named (closed_paramsChars params)

/-- A call with written parameters reads as the call with these parameters. -/
theorem ofPart_callChars :
    Segment.ofPart (String.ofList (callChars name params)) = .call name (params.map WrittenParam.toArgument) := by
  unfold callChars
  rw [ofPart_of_isName named, splitArgs_paramsChars]

/-- A call has a first character, which is neither a blank nor a brace. -/
theorem exists_cons_of_callChars :
    ∃ c cs, callChars name params = c :: cs ∧ isBlank c = false ∧ c ≠ '\x7b' := by
  obtain ⟨c, cs, shape, word⟩ := exists_cons_of_isName named
  refine ⟨c, cs ++ '(' :: paramsChars params ++ [')'], ?_, isBlank_of_isWord word, ?_⟩
  · unfold callChars
    rw [shape]
    rfl
  · rintro rfl
    exact absurd word (by decide)

/-- A written call with more behind it is read as the call and then as what is behind it. -/
theorem segments_call_dot (chain : String) :
    (Expression.ofText (String.ofList (callChars name params) ++ "." ++ chain)).segments =
      .call name (params.map WrittenParam.toArgument) :: (Expression.ofText ("." ++ chain)).segments := by
  obtain ⟨c, cs, shape, solid, unbraced⟩ := exists_cons_of_callChars named params
  have whole : (String.ofList (callChars name params) ++ "." ++ chain).toList = c :: (cs ++ '.' :: chain.toList) := by
    rw [String.toList_append, String.toList_append, String.toList_ofList, shape]
    simp
  have trimmed : c :: trimBack (cs ++ '.' :: chain.toList) = callChars name params ++ '.' :: trimBack chain.toList := by
    rw [trimBack_append_cons _ (by decide), shape]
    rfl
  have filled : callChars name params ≠ [] := by
    rw [shape]
    exact List.cons_ne_nil c cs
  rw [segments_of_head whole solid unbraced, trimmed, segments_dot,
    pathParts_append_dot (standsAlone_callChars named params) filled, List.map_cons, ofPart_callChars named]

/-- A name and a written call behind it are read as a key and the call. -/
theorem segments_key_call {root : String} (rooted : isName root.toList = true) :
    (Expression.ofText (root ++ "." ++ String.ofList (callChars name params))).segments =
      [.key root, .call name (params.map WrittenParam.toArgument)] := by
  have shape : callChars name params = name.toList ++ '(' :: paramsChars params ++ [')'] := rfl
  have alone := standsAlone_callChars named params
  rw [shape] at alone
  rw [shape, segments_key_part (isKey_of_isName rooted) alone (by decide), ← shape, ofPart_callChars named]

end

end DynamicBlocks
