import DynamicBlocks.Proofs.WrittenCalls

/-!
# Quoted arguments

An argument in quotes is one argument, whatever stands between the quotes, once the arguments of a call are read. Before
that the path is cut, and within a call the path counts parentheses and sees no quotes: a closing parenthesis between
the quotes ends the call as far as the path goes, and from there on dots and brackets are cut out. So a quoted argument
is read as it is written exactly if no dot and no bracket in it stands where its parentheses have closed the call.
-/

set_option autoImplicit false

namespace DynamicBlocks

open Text

/-! ## What the path keeps within a call -/

/-- The parentheses that are open behind a character. -/
def parensBehind (opened : Nat) (c : Char) : Nat :=
  if c = '(' then opened + 1 else if c = ')' then opened - 1 else opened

/-- Whether the path is cut at a character, or the character dropped. -/
def cutsPath (opened : Nat) (c : Char) : Bool :=
  opened == 0 && ['.', '[', ']'].contains c

/-- Whether all characters are kept from a place on where a number of parentheses is open. -/
def isKeptInCall : (opened : Nat) → List Char → Bool
  | _, [] => true
  | opened, c :: cs => !cutsPath opened c && isKeptInCall (parensBehind opened c) cs

namespace PathState

/-- Outside of brackets and quotes a character that does not cut a path is marked. -/
theorem step_of_kept {opened : Nat} {c : Char} (kept : cutsPath opened c = false) (next : Option Char) :
    step ⟨opened, 0, none⟩ c next = ([some c], ⟨parensBehind opened c, 0, none⟩) := by
  unfold cutsPath at kept
  unfold step parensBehind turnsQuote isOutside
  by_cases opening : c = '('
  · simp [opening]
  · by_cases closing : c = ')'
    · simp [closing]
    · rcases Bool.and_eq_false_iff.mp kept with within | plain
      · simp [opening, closing, ne_of_beq_false within]
      · have others : c ≠ '.' ∧ c ≠ '[' ∧ c ≠ ']' := by simpa using plain
        simp [opening, closing, others]

/-- A character that cuts it is not. -/
theorem step_of_cut {opened : Nat} {c : Char} (cut : cutsPath opened c = true) (next : Option Char) :
    (step ⟨opened, 0, none⟩ c next).1.reduceOption = [] := by
  obtain ⟨closed, sign⟩ := Bool.and_eq_true_iff.mp cut
  obtain rfl := eq_of_beq closed
  simp only [List.contains_iff_mem, List.mem_cons, List.not_mem_nil, or_false] at sign
  rcases sign with rfl | rfl | rfl
  · rfl
  · rfl
  · by_cases glued : next = some '('
    · subst glued
      rfl
    · simp [step, turnsQuote, glued]

end PathState

section

variable {cs : List Char} (plain : '\\' ∉ cs) {opened : Nat}
include plain

/-- A text that is kept in a call is marked as a whole. -/
theorem pathMarks_of_kept (kept : isKeptInCall opened cs = true) :
    pathMarks ⟨opened, 0, none⟩ cs = cs.map some := by
  induction cs generalizing opened with
  | nil => rfl
  | cons c cs ih =>
    obtain ⟨other, plain⟩ := not_or.mp (mt List.mem_cons.mpr plain)
    obtain ⟨here, behind⟩ := Bool.and_eq_true_iff.mp kept
    rw [pathMarks_cons (Ne.symm other), PathState.step_of_kept (by simpa using here), ih plain behind]
    rfl

/-- Where something is cut out, less is kept than was there. -/
theorem length_kept_lt_of_cut (cut : isKeptInCall opened cs = false) :
    (pathMarks ⟨opened, 0, none⟩ cs).reduceOption.length < cs.length := by
  induction cs generalizing opened with
  | nil => cases cut
  | cons c cs ih =>
    obtain ⟨other, plain⟩ := not_or.mp (mt List.mem_cons.mpr plain)
    rw [pathMarks_cons (Ne.symm other), List.reduceOption_append, List.length_append, List.length_cons]
    cases here : cutsPath opened c with
    | true =>
      rw [PathState.step_of_cut here, List.length_nil, Nat.zero_add, Nat.lt_succ_iff]
      exact (List.reduceOption_length_le _).trans (length_pathMarks_le _ cs)
    | false =>
      rw [isKeptInCall, here] at cut
      have fewer := ih plain cut
      rw [PathState.step_of_kept here]
      show 1 + (pathMarks ⟨parensBehind opened c, 0, none⟩ cs).reduceOption.length < _
      omega

end

/-- A text is kept in a call whatever follows it, if neither a dot nor a bracket does. -/
theorem isKeptInCall_append {behind : List Char} (plain : ∀ c ∈ behind, ['.', '[', ']'].contains c = false)
    (cs : List Char) (opened : Nat) : isKeptInCall opened (cs ++ behind) = isKeptInCall opened cs := by
  have kept (opened : Nat) : isKeptInCall opened behind = true := by
    induction behind generalizing opened with
    | nil => rfl
    | cons c behind ih =>
      have here : cutsPath opened c = false := by
        unfold cutsPath
        rw [plain c List.mem_cons_self, Bool.and_false]
      rw [isKeptInCall, here, ih fun d there => plain d (List.mem_cons_of_mem c there)]
      rfl
  induction cs generalizing opened with
  | nil => exact kept opened
  | cons c cs ih => rw [List.cons_append, isKeptInCall, isKeptInCall, ih]

/-! ## Names in a row -/

section

variable {names : List String} (named : ∀ name ∈ names, isName name.toList = true) (filled : names ≠ [])
include named filled

/-- Names with dots between them and a dot behind them are parts of their own. -/
theorem pathParts_names_dot (rest : List Char) :
    pathParts ((".".intercalate names).toList ++ '.' :: rest) = names.map String.toList ++ pathParts rest := by
  rw [String.toList_intercalate]
  induction names with
  | nil => exact absurd rfl filled
  | cons name names ih =>
    have here := isKey_of_isName (named name List.mem_cons_self)
    obtain ⟨c, cs, shape, -⟩ := exists_cons_of_isKey here
    have written : name.toList ≠ [] := by
      rw [shape]
      exact List.cons_ne_nil c cs
    cases names with
    | nil =>
      rw [List.map_singleton, List.intercalate_singleton, pathParts_append_dot (standsAlone_key here) written]
      rfl
    | cons next names =>
      have behind := ih (fun name there => named name (List.mem_cons_of_mem _ there)) (List.cons_ne_nil next names)
      have grouped : ".".toList.intercalate ((name :: next :: names).map String.toList) ++ '.' :: rest =
          name.toList ++ '.' :: (".".toList.intercalate ((next :: names).map String.toList) ++ '.' :: rest) := by
        rw [List.map_cons, List.map_cons, List.intercalate_cons_cons, List.append_assoc, List.append_assoc]
        rfl
      rw [grouped, pathParts_append_dot (standsAlone_key here) written, behind]
      rfl

/-- Behind names in a row a text that ends solidly is cut by itself. -/
theorem segments_names_dot {rest : String} {front : List Char} {last : Char} (shape : rest.toList = front ++ [last])
    (solid : isBlank last = false) :
    (Expression.ofText (".".intercalate names ++ "." ++ rest)).segments =
      names.map Segment.key ++ (pathParts rest.toList).map fun part => .ofPart (String.ofList part) := by
  obtain ⟨c, cs, start, word⟩ : ∃ c cs, (".".intercalate names).toList = c :: cs ∧ isWord c = true := by
    obtain ⟨name, more, rfl⟩ := List.exists_cons_of_ne_nil filled
    obtain ⟨c, cs, first, word⟩ := exists_cons_of_isName (named name List.mem_cons_self)
    cases more with
    | nil => exact ⟨c, cs, by rw [String.intercalate_singleton, first], word⟩
    | cons next more =>
      refine ⟨c, cs ++ '.' :: (".".intercalate (next :: more)).toList, ?_, word⟩
      rw [String.intercalate_cons_cons, String.toList_append, String.toList_append, first]
      simp
  have whole : (".".intercalate names ++ "." ++ rest).toList = (".".intercalate names).toList ++ '.' :: rest.toList := by
    rw [String.toList_append, String.toList_append]
    simp
  have first : (".".intercalate names ++ "." ++ rest).toList = c :: (cs ++ '.' :: rest.toList) := by
    rw [whole, start]
    rfl
  have ends : (".".intercalate names ++ "." ++ rest).toList =
      ((".".intercalate names).toList ++ '.' :: front) ++ [last] := by
    rw [whole, shape]
    simp
  have unbraced : c ≠ '\x7b' := ne_of_notMem_signs (notMem_signs_of_isWord word) (by decide)
  have keys : (names.map String.toList).map (fun part => Segment.ofPart (String.ofList part)) = names.map .key := by
    rw [List.map_map]
    apply List.map_congr_left
    intro name there
    rw [Function.comp_apply, String.ofList_toList, ofPart_key (isKey_of_isName (named name there))]
  rw [segments_of_ends first (isBlank_of_isWord word) unbraced ends solid, whole, pathParts_names_dot named filled,
    List.map_append, keys]

omit filled in
/-- Names with dots between them are read as keys. -/
theorem segments_names : (Expression.ofText (".".intercalate names)).segments = names.map Segment.key := by
  obtain rfl | ⟨front, last, rfl⟩ := names.eq_nil_or_concat'
  · rfl
  · have keyed := isKey_of_isName (named last (by simp))
    by_cases single : front = []
    · subst single
      rw [List.nil_append, String.intercalate_singleton, segments_key keyed]
      rfl
    · obtain ⟨before, c, shape, solid⟩ := exists_concat_of_isKey keyed
      have others : ∀ name ∈ front, isName name.toList = true := fun name there => named name (by simp [there])
      rw [String.intercalate_append_of_ne_nil single (by simp), String.intercalate_singleton,
        segments_names_dot others single shape solid, pathParts_key keyed, List.map_singleton, String.ofList_toList,
        ofPart_key keyed, List.map_append]
      rfl

end

/-! ## Quoted arguments -/

/-- A text in quotes. -/
def inQuotes (mark : Char) (inner : String) : String :=
  String.ofList (mark :: inner.toList ++ [mark])

section

variable {mark : Char} (quotes : mark = '"' ∨ mark = '\'')

/-- A character that is no quote leaves open what is open. -/
theorem nextQuote_of_plain {c : Char} (double : c ≠ '"') (single : c ≠ '\'') (quote before : Option Char) :
    nextQuote quote before c = quote := by
  simp [nextQuote, double, single]

include quotes

/-- A quote that is not escaped opens a quoted text. -/
theorem nextQuote_opening {before : Option Char} (unescaped : before ≠ some '\\') :
    nextQuote none before mark = some mark := by
  unfold nextQuote
  rw [if_pos ⟨quotes, unescaped⟩]

/-- The same quote closes it, if it is not escaped. -/
theorem nextQuote_closing {before : Option Char} (unescaped : before ≠ some '\\') :
    nextQuote (some mark) before mark = none := by
  unfold nextQuote
  rw [if_pos ⟨quotes, unescaped⟩]
  exact if_pos rfl

variable {inner : String} (plain : ∀ c ∈ inner.toList, c ≠ '"' ∧ c ≠ '\'' ∧ c ≠ '\\')
include plain

/-- Between the quotes nothing separates arguments, and behind them no more is open than before. -/
theorem uncutAfter_inQuotes (depth : Nat) {before : Option Char} (unescaped : before ≠ some '\\') :
    uncutAfter ⟨depth, none, before⟩ (inQuotes mark inner).toList = some ⟨depth, none, some mark⟩ := by
  have opening : ArgState.cutsAt ⟨depth, none, before⟩ mark = false ∧
      ArgState.step ⟨depth, none, before⟩ mark = ⟨depth, some mark, some mark⟩ := by
    simp [ArgState.cutsAt, ArgState.step, nextQuote_opening quotes unescaped]
  have closing {before : Option Char} (unescaped : before ≠ some '\\') :
      ArgState.cutsAt ⟨depth, some mark, before⟩ mark = false ∧
        ArgState.step ⟨depth, some mark, before⟩ mark = ⟨depth, none, some mark⟩ := by
    unfold ArgState.cutsAt ArgState.step
    dsimp only
    rw [nextQuote_closing quotes unescaped]
    rcases quotes with rfl | rfl <;> simp
  have through (cs : List Char) (plain : ∀ c ∈ cs, c ≠ '"' ∧ c ≠ '\'' ∧ c ≠ '\\') (before : Option Char)
      (unescaped : before ≠ some '\\') :
      uncutAfter ⟨depth, some mark, before⟩ (cs ++ [mark]) = some ⟨depth, none, some mark⟩ := by
    induction cs generalizing before with
    | nil =>
      obtain ⟨kept, step⟩ := closing unescaped
      show uncutAfter _ [mark] = _
      rw [uncutAfter, kept, step]
      rfl
    | cons c cs ih =>
      obtain ⟨double, single, escape⟩ := plain c List.mem_cons_self
      have open_ : nextQuote (some mark) before c = some mark := nextQuote_of_plain double single _ _
      have kept : ArgState.cutsAt ⟨depth, some mark, before⟩ c = false := by simp [ArgState.cutsAt, open_]
      have step : ArgState.step ⟨depth, some mark, before⟩ c = ⟨depth, some mark, some c⟩ := by
        simp [ArgState.step, open_]
      rw [List.cons_append, uncutAfter, kept, step]
      exact ih (fun d there => plain d (List.mem_cons_of_mem c there)) (some c) (by simpa using escape)
  obtain ⟨kept, step⟩ := opening
  unfold inQuotes
  rw [String.toList_ofList, List.cons_append, uncutAfter, kept, step]
  refine through inner.toList plain (some mark) ?_
  rcases quotes with rfl | rfl <;> decide

omit plain in
/-- A text in quotes has no blanks to trim. -/
theorem trimChars_inQuotes : trimChars (inQuotes mark inner).toList = (inQuotes mark inner).toList := by
  have solid : isBlank mark = false := by rcases quotes with rfl | rfl <;> decide
  unfold inQuotes
  rw [String.toList_ofList, List.cons_append, trimChars_cons solid, trimBack_append_cons _ solid]
  rfl

/-- A text in quotes is not cut as an argument. -/
theorem splitArgs_inQuotes : splitArgs (inQuotes mark inner) = [inQuotes mark inner] := by
  have uncut : uncutAfter .start (inQuotes mark inner).toList = _ := uncutAfter_inQuotes quotes plain 0 (by decide)
  have marks := argMarks_append uncut []
  have filled : (inQuotes mark inner).toList.isEmpty = false := by
    unfold inQuotes
    rw [String.toList_ofList]
    rfl
  rw [List.append_nil, show argMarks _ [] = [] from rfl, List.append_nil] at marks
  unfold splitArgs
  rw [marks, gather_map_some, List.map_singleton, trimChars_inQuotes quotes,
    List.filter_cons_of_pos (by rw [filled]; rfl), List.filter_nil, List.map_singleton, String.ofList_toList]

omit plain in
/-- A text in quotes is read as an argument without a name. -/
theorem ofText_inQuotes : Argument.ofText (inQuotes mark inner) = ⟨inQuotes mark inner, none⟩ := by
  have unnamed : keyword? (inQuotes mark inner).toList = none := by
    unfold inQuotes
    rw [String.toList_ofList]
    rcases quotes with rfl | rfl <;> rfl
  unfold Argument.ofText
  rw [trimChars_inQuotes quotes]
  dsimp only
  rw [unnamed]
  dsimp only
  rw [String.ofList_toList]

end

/-- The call of a modifier with one argument in quotes. -/
def quotedCall (callee : String) (mark : Char) (inner : String) : String :=
  callee ++ "(" ++ inQuotes mark inner ++ ")"

section

variable {callee : String} (called : isName callee.toList = true) {mark : Char} (quotes : mark = '"' ∨ mark = '\'')
  {inner : String} (plain : ∀ c ∈ inner.toList, c ≠ '"' ∧ c ≠ '\'' ∧ c ≠ '\\')

/-- The characters of a call with a quoted argument. -/
theorem toList_quotedCall :
    (quotedCall callee mark inner).toList = callee.toList ++ '(' :: (inQuotes mark inner).toList ++ [')'] := by
  unfold quotedCall
  rw [String.toList_append, String.toList_append, String.toList_append]
  simp

include called in
/-- Up to the parenthesis that opens the call everything is kept. -/
theorem pathMarks_quotedCall :
    pathMarks .start (quotedCall callee mark inner).toList =
      (callee.toList ++ ['(']).map some ++ pathMarks ⟨1, 0, none⟩ ((inQuotes mark inner).toList ++ [')']) := by
  have opening (rest : List Char) : pathMarks .start ('(' :: rest) = some '(' :: pathMarks ⟨1, 0, none⟩ rest := by
    rw [pathMarks_cons (by decide)]
    rfl
  rw [toList_quotedCall, List.append_assoc, List.cons_append,
    pathMarks_plain fun c there => notMem_signs_of_isWord (isWord_of_mem_name called c there), opening]
  simp

include quotes in
/-- The quotes and the parenthesis at the end are kept wherever they stand. -/
theorem isKeptInCall_inQuotes :
    isKeptInCall 1 ((inQuotes mark inner).toList ++ [')']) = isKeptInCall 1 inner.toList := by
  have split : (inQuotes mark inner).toList ++ [')'] = mark :: (inner.toList ++ [mark, ')']) := by
    unfold inQuotes
    rw [String.toList_ofList]
    simp
  have kept : cutsPath 1 mark = false := rfl
  have opened : parensBehind 1 mark = 1 := by rcases quotes with rfl | rfl <;> decide
  rw [split, isKeptInCall, kept, opened, isKeptInCall_append]
  · rfl
  · rcases quotes with rfl | rfl <;> simp

include quotes plain in
/-- There is no backslash in a quoted argument, nor in the parenthesis behind it. -/
theorem backslash_notMem_inQuotes : '\\' ∉ (inQuotes mark inner).toList ++ [')'] := by
  unfold inQuotes
  rw [String.toList_ofList]
  intro there
  simp only [List.mem_append, List.mem_cons, List.not_mem_nil, or_false] at there
  rcases there with ((same | there) | same) | same
  · rcases quotes with rfl | rfl <;> cases same
  · exact (plain _ there).2.2 rfl
  · rcases quotes with rfl | rfl <;> cases same
  · cases same

include called quotes plain

/-- A call with a quoted argument, taken as one part of a path, is read as this call. -/
theorem ofPart_quotedCall :
    Segment.ofPart (quotedCall callee mark inner) = .call callee [⟨inQuotes mark inner, none⟩] := by
  have read := ofPart_of_isName called (inQuotes mark inner).toList
  rw [← toList_quotedCall, String.ofList_toList, String.ofList_toList, splitArgs_inQuotes quotes plain, List.map_singleton,
    ofText_inQuotes quotes] at read
  exact read

/-- A call with an argument in quotes is one part exactly if the path keeps what stands between the quotes. -/
theorem ofPart_pathParts_quotedCall_iff :
    ((pathParts (quotedCall callee mark inner).toList).map fun part => Segment.ofPart (String.ofList part)) =
      [.call callee [⟨inQuotes mark inner, none⟩]] ↔ isKeptInCall 1 inner.toList = true := by
  have marks : pathMarks .start (quotedCall callee mark inner).toList = _ := pathMarks_quotedCall called
  have escapeless := backslash_notMem_inQuotes quotes plain
  have same : _ = isKeptInCall 1 inner.toList := isKeptInCall_inQuotes quotes
  constructor
  · intro read
    by_contra cut
    rw [Bool.not_eq_true, ← same] at cut
    have fewer := length_kept_lt_of_cut escapeless cut
    obtain ⟨part, inPath, called⟩ := List.mem_map.mp (read ▸ List.mem_singleton_self _)
    -- The part has room for the whole call, but not all of the call was kept.
    have room := length_of_ofPart_eq_call called (List.mem_singleton_self _)
    have short := length_of_mem_pathParts inPath
    have written : (inQuotes mark inner).toList.length = (inQuotes mark inner).length := String.length_toList
    have kept := List.reduceOption_length_le ((callee.toList ++ ['(']).map some)
    rw [List.length_map, List.length_append, String.length_toList, List.length_singleton] at kept
    rw [marks, List.reduceOption_append, List.length_append] at short
    rw [List.length_append, List.length_singleton] at fewer
    rw [String.length_ofList] at room
    dsimp only at room
    omega
  · intro kept
    rw [← same] at kept
    rw [pathMarks_of_kept escapeless kept, ← List.map_append] at marks
    have whole : (callee.toList ++ ['(']) ++ ((inQuotes mark inner).toList ++ [')']) =
        (quotedCall callee mark inner).toList := by
      rw [toList_quotedCall]
      simp
    have filled : (quotedCall callee mark inner).toList.isEmpty = false := by
      rw [← whole]
      simp
    have single : pathParts (quotedCall callee mark inner).toList = [(quotedCall callee mark inner).toList] := by
      unfold pathParts
      rw [marks, whole, gather_map_some, List.filter_cons_of_pos (by rw [filled]; rfl), List.filter_nil]
    rw [single, List.map_singleton, String.ofList_toList, ofPart_quotedCall called quotes plain]

end

/-- A quoted argument is read as it is written, behind any names in a row, exactly if no dot and no bracket in it stands
where its closing parentheses have used up the one that opens the call. -/
theorem segments_quotedCall_iff {names : List String} (named : ∀ name ∈ names, isName name.toList = true)
    (filled : names ≠ []) {callee : String} (called : isName callee.toList = true) {mark : Char}
    (quotes : mark = '"' ∨ mark = '\'') {inner : String}
    (plain : ∀ c ∈ inner.toList, c ≠ '"' ∧ c ≠ '\'' ∧ c ≠ '\\') :
    (Expression.ofText (".".intercalate names ++ "." ++ quotedCall callee mark inner)).segments =
        (Expression.ofText (".".intercalate names)).segments ++ [.call callee [⟨inQuotes mark inner, none⟩]] ↔
      isKeptInCall 1 inner.toList = true := by
  rw [segments_names_dot named filled toList_quotedCall (by decide), segments_names named, List.append_cancel_left_eq]
  exact ofPart_pathParts_quotedCall_iff called quotes plain

/-- A date format is read as it is written. -/
theorem segments_quotedCall_iff_format :
    (Expression.ofText (".".intercalate ["item", "date"] ++ "." ++ quotedCall "format" '\'' "(Y.m.d)")).segments =
      (Expression.ofText (".".intercalate ["item", "date"])).segments ++ [.call "format" [⟨"'(Y.m.d)'", none⟩]] :=
  (segments_quotedCall_iff (by decide +kernel) (by decide) (by decide +kernel) (Or.inr rfl) (by simp)).mpr
    (by decide +kernel)

/-- A dot behind a closing parenthesis is cut out, quotes or not. -/
theorem segments_item_concat :
    (Expression.ofText "item.title.concat(').x')").segments ≠
      (Expression.ofText "item.title").segments ++ [.call "concat" [⟨"').x'", none⟩]] := by
  decide +kernel

end DynamicBlocks
