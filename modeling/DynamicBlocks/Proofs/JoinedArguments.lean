import DynamicBlocks.Proofs.QuotedArguments
import DynamicBlocks.Proofs.TextReplacement

/-!
# Arguments joined and split again

Arguments that are joined by commas, with any blanks around them, are read as what was joined. It takes arguments that
are closed: outside quotes their brackets are balanced and have every comma within them. That is said here without a
word about how arguments are read: `bare?` leaves out what stands in quotes, `levelBehind?` counts the brackets in the
rest. No quote in an argument may stand behind a backslash, which it never does in texts without backslashes.
-/

set_option autoImplicit false

namespace DynamicBlocks

open Text

/-! ## Closed characters -/

/-- The characters outside quotes, without the quotes; a quote goes to the next one of its kind and has to be closed. -/
def bare? : (quote : Option Char) → List Char → Option (List Char)
  | none, [] => some []
  | some _, [] => none
  | none, c :: cs => if c = '"' ∨ c = '\'' then bare? (some c) cs else (bare? none cs).map (c :: ·)
  | some mark, c :: cs => bare? (if c = mark then none else some mark) cs

/-- The brackets that are open behind a character; none for one that closes a bracket where none is open, and for a
comma outside brackets. -/
def levelBehind? (level : Nat) (c : Char) : Option Nat :=
  if c = '(' ∨ c = '[' ∨ c = '\x7b' then some (level + 1)
  else if c = ')' ∨ c = ']' ∨ c = '\x7d' then (if level = 0 then none else some (level - 1))
  else if c = ',' ∧ level = 0 then none
  else some level

/-- The brackets that are open behind characters, quoted ones aside. -/
def opened? (level : Nat) (cs : List Char) : Option Nat :=
  (bare? none cs).bind fun outside => outside.foldlM levelBehind? level

/-- No quote stands behind a backslash. -/
def Unescaped (cs : List Char) : Prop :=
  List.IsChain (fun c d => c = '\\' → d ≠ '"' ∧ d ≠ '\'') cs

/-- A text that is an argument: not empty and without blanks around it, the quotes in it paired and without backslashes
in front, and outside quotes the brackets balanced and all commas within them. -/
structure IsArgument (text : String) : Prop where
  filled : text ≠ ""
  trimmed : trimChars text.toList = text.toList
  unescaped : Unescaped text.toList
  closed : opened? 0 text.toList = some 0

/-- Without backslashes no quote stands behind one. -/
theorem unescaped_of_notMem {cs : List Char} (plain : '\\' ∉ cs) : Unescaped cs := by
  induction cs with
  | nil => exact List.isChain_nil
  | cons c cs ih =>
    obtain ⟨differs, plain⟩ := not_or.mp (mt List.mem_cons.mpr plain)
    exact List.isChain_cons.mpr ⟨fun _ _ same => absurd same.symm differs, ih plain⟩

/-- A text without quotes escapes none. -/
theorem unescaped_of_quoteless {cs : List Char} (plain : ∀ c ∈ cs, c ≠ '"' ∧ c ≠ '\'') : Unescaped cs := by
  induction cs with
  | nil => exact List.isChain_nil
  | cons c cs ih =>
    refine List.isChain_cons.mpr ⟨fun d first _ => plain d ?_, ih fun d there => plain d (List.mem_cons_of_mem c there)⟩
    exact List.mem_cons_of_mem c (List.mem_of_mem_head? first)

/-- What stands outside of quotes goes on behind a text whose quotes are closed. -/
theorem bare?_append {quote : Option Char} {cs outside : List Char} (bare : bare? quote cs = some outside) (ds : List Char) :
    bare? quote (cs ++ ds) = (bare? none ds).map (outside ++ ·) := by
  fun_induction bare? quote cs generalizing outside with
  | case1 =>
    obtain rfl := Option.some.inj bare
    simp
  | case2 => cases bare
  | case3 c cs isQuote ih =>
    rw [List.cons_append, bare?, if_pos isQuote]
    exact ih bare
  | case4 c cs plain ih =>
    obtain ⟨behind, found, rfl⟩ := Option.map_eq_some_iff.mp bare
    rw [List.cons_append, bare?, if_neg plain, ih found, Option.map_map]
    rfl
  | case5 mark c cs ih =>
    rw [List.cons_append, bare?]
    exact ih bare

/-- Levels go on behind a text from where it has left them. -/
theorem opened?_append {level middle next : Nat} {cs ds : List Char} (front : opened? level cs = some middle)
    (behind : opened? middle ds = some next) : opened? level (cs ++ ds) = some next := by
  obtain ⟨outside, bare, after⟩ := Option.bind_eq_some_iff.mp front
  obtain ⟨others, bareBehind, afterBehind⟩ := Option.bind_eq_some_iff.mp behind
  unfold opened?
  rw [bare?_append bare, bareBehind, Option.map_some, Option.bind_some, List.foldlM_append, after]
  exact afterBehind

/-- A level further up, a character leads a level further up. -/
theorem levelBehind?_succ {level next : Nat} {c : Char} (behind : levelBehind? level c = some next) :
    levelBehind? (level + 1) c = some (next + 1) := by
  unfold levelBehind? at behind ⊢
  grind

/-- Within brackets the same brackets are opened and closed. -/
theorem opened?_succ {level next : Nat} {cs : List Char} (closed : opened? level cs = some next) :
    opened? (level + 1) cs = some (next + 1) := by
  obtain ⟨outside, bare, after⟩ := Option.bind_eq_some_iff.mp closed
  unfold opened?
  rw [bare, Option.bind_some]
  clear closed bare
  induction outside generalizing level with
  | nil => exact congrArg some (congrArg (· + 1) (Option.some.inj after))
  | cons c cs ih =>
    obtain ⟨middle, behind, after⟩ := Option.bind_eq_some_iff.mp after
    rw [List.foldlM_cons, levelBehind?_succ behind]
    exact ih after

/-- A text without quotes stands outside of quotes as a whole. -/
theorem bare?_of_quoteless {cs : List Char} (plain : ∀ c ∈ cs, c ≠ '"' ∧ c ≠ '\'') : bare? none cs = some cs := by
  induction cs with
  | nil => rfl
  | cons c cs ih =>
    obtain ⟨double, single⟩ := plain c List.mem_cons_self
    rw [bare?, if_neg (not_or.mpr ⟨double, single⟩), ih fun d there => plain d (List.mem_cons_of_mem c there)]
    rfl

/-- Characters that open, close or separate nothing leave open what is open. -/
theorem opened?_of_plain {cs : List Char} (plain : ∀ c ∈ cs, c ∉ argumentSigns) (level : Nat) :
    opened? level cs = some level := by
  have other {c sign : Char} (there : c ∈ cs) (among : sign ∈ argumentSigns) : c ≠ sign :=
    fun same => plain c there (same ▸ among)
  unfold opened?
  rw [bare?_of_quoteless fun c there => ⟨other there (by decide), other there (by decide)⟩, Option.bind_some]
  clear other
  induction cs with
  | nil => rfl
  | cons c cs ih =>
    have kept : levelBehind? level c = some level := by
      have unsigned := plain c List.mem_cons_self
      simp only [argumentSigns, List.mem_cons, List.not_mem_nil, or_false, not_or] at unsigned
      simp [levelBehind?, unsigned]
    rw [List.foldlM_cons, kept]
    exact ih fun d there => plain d (List.mem_cons_of_mem c there)

/-- Quotes hide what stands between them. -/
theorem opened?_quoted {mark : Char} (quotes : mark = '"' ∨ mark = '\'') {inner : List Char}
    (inside : mark ∉ inner) (level : Nat) :
    opened? level (mark :: inner ++ [mark]) = some level := by
  have hidden : bare? (some mark) (inner ++ [mark]) = some [] := by
    induction inner with
    | nil => simp [bare?]
    | cons c inner ih =>
      obtain ⟨differs, inside⟩ := not_or.mp (mt List.mem_cons.mpr inside)
      rw [List.cons_append, bare?, if_neg (Ne.symm differs)]
      exact ih inside
  unfold opened?
  rw [List.cons_append, bare?, if_pos quotes, hidden]
  rfl

/-! ## Arguments in a row -/

/-- A character outside quotes that is no quote has the same effect for the arguments. -/
theorem ArgState.pass_of_levelBehind? {level next : Nat} {c : Char} (quoteless : ¬(c = '"' ∨ c = '\''))
    (behind : levelBehind? level c = some next) (before : Option Char) :
    cutsAt ⟨level, none, before⟩ c = false ∧ step ⟨level, none, before⟩ c = ⟨next, none, some c⟩ := by
  obtain ⟨double, single⟩ := not_or.mp quoteless
  unfold cutsAt step
  dsimp only
  rw [nextQuote_of_plain double single]
  unfold levelBehind? at behind
  grind

/-- A text whose quotes are not escaped goes on with such a text, and its first quote, if it is one, is not escaped. -/
theorem Unescaped.tail {before : Option Char} {c : Char} {cs : List Char}
    (unescaped : Unescaped (before.toList ++ c :: cs)) :
    Unescaped ((some c).toList ++ cs) ∧ (c = '"' ∨ c = '\'' → before ≠ some '\\') := by
  refine ⟨List.IsChain.right_of_append unescaped, ?_⟩
  rintro isQuote rfl
  obtain ⟨double, single⟩ := (List.isChain_cons_cons.mp unescaped).1 rfl
  exact isQuote.elim double single

/-- What encloses the place behind characters is what is open there. -/
theorem uncutAfter_of_bare? {quote before : Option Char} {level next : Nat} {cs outside : List Char}
    (quotes : ∀ mark ∈ quote, mark = '"' ∨ mark = '\'') (unescaped : Unescaped (before.toList ++ cs))
    (bare : bare? quote cs = some outside) (after : outside.foldlM levelBehind? level = some next) :
    ∃ last, uncutAfter ⟨level, quote, before⟩ cs = some ⟨next, none, last⟩ := by
  fun_induction bare? quote cs generalizing level before outside with
  | case1 =>
    obtain rfl := Option.some.inj bare
    obtain rfl := Option.some.inj after
    exact ⟨before, rfl⟩
  | case2 => cases bare
  | case3 c cs isQuote ih =>
    obtain ⟨rest, unescaped⟩ := unescaped.tail
    have opens := nextQuote_opening isQuote (unescaped isQuote)
    have kept : ArgState.cutsAt ⟨level, none, before⟩ c = false := by simp [ArgState.cutsAt, opens]
    have step : ArgState.step ⟨level, none, before⟩ c = ⟨level, some c, some c⟩ := by simp [ArgState.step, opens]
    rw [uncutAfter, kept, step]
    exact ih (fun mark same => Option.some.inj same ▸ isQuote) rest bare after
  | case4 c cs plain ih =>
    obtain ⟨others, found, rfl⟩ := Option.map_eq_some_iff.mp bare
    obtain ⟨middle, behind, after⟩ := Option.bind_eq_some_iff.mp after
    obtain ⟨kept, step⟩ := ArgState.pass_of_levelBehind? plain behind before
    rw [uncutAfter, kept, step]
    exact ih (fun _ there => absurd there (Option.not_mem_none _)) unescaped.tail.1 found after
  | case5 mark c cs ih =>
    obtain ⟨rest, unescaped⟩ := unescaped.tail
    have isQuote := quotes mark rfl
    -- The mark itself is without effect on brackets and separates nothing, so only the quote that is open changes.
    have moved : nextQuote (some mark) before c = if c = mark then none else some mark := by
      by_cases closes : c = mark
      · rw [if_pos closes, closes, nextQuote_closing isQuote (unescaped (closes ▸ isQuote))]
      · rw [if_neg closes]
        simp [nextQuote, closes]
    have kept : ArgState.cutsAt ⟨level, some mark, before⟩ c = false := by
      unfold ArgState.cutsAt
      rw [moved]
      grind
    have step : ArgState.step ⟨level, some mark, before⟩ c = ⟨level, if c = mark then none else some mark, some c⟩ := by
      unfold ArgState.step
      rw [moved]
      grind
    rw [uncutAfter, kept, step]
    exact ih (by grind) rest bare after

/-- A text that closes what it opens is not cut. -/
theorem isUncut_of_opened {cs : List Char} (unescaped : Unescaped cs) (closed : opened? 0 cs = some 0) : IsUncut cs := by
  intro before other
  obtain ⟨outside, bare, after⟩ := Option.bind_eq_some_iff.mp closed
  refine uncutAfter_of_bare? (fun _ there => absurd there (Option.not_mem_none _)) ?_ bare after
  cases before with
  | none => exact unescaped
  | some c => exact List.isChain_cons.mpr ⟨fun _ _ same => absurd (congrArg some same) other, unescaped⟩

/-- A text with blanks around it. -/
structure SpacedText where
  before : String
  text : String
  behind : String
  blankBefore : isBlankText before = true
  blankBehind : isBlankText behind = true

/-- The text together with the blanks. -/
def SpacedText.whole (arg : SpacedText) : String :=
  arg.before ++ arg.text ++ arg.behind

/-- On both sides of a character that is neither a backslash nor a quote no quote comes to stand behind a backslash. -/
theorem Unescaped.append_cons {cs ds : List Char} {c : Char} (front : Unescaped cs) (behind : Unescaped ds)
    (plain : c ≠ '\\' ∧ c ≠ '"' ∧ c ≠ '\'') : Unescaped (cs ++ c :: ds) := by
  refine List.isChain_append.mpr ⟨front, ?_, ?_⟩
  · exact List.isChain_cons.mpr ⟨fun _ _ same => absurd same plain.1, behind⟩
  · rintro last _ first starts _
    obtain rfl := Option.some.inj starts
    exact plain.2

/-- A blank is no sign of arguments, no backslash and no quote. -/
theorem plain_of_isBlank {c : Char} (blank : isBlank c = true) : c ∉ argumentSigns ∧ c ≠ '\\' ∧ c ≠ '"' ∧ c ≠ '\'' := by
  have unsigned := notMem_argumentSigns_of_isBlank blank
  simp only [argumentSigns, List.mem_cons, List.not_mem_nil, or_false, not_or] at unsigned ⊢
  exact ⟨unsigned.2, unsigned.1, unsigned.2.1, unsigned.2.2.1⟩

/-- Blanks in front escape no quote. -/
theorem Unescaped.blank_front {before cs : List Char} (blank : ∀ c ∈ before, isBlank c = true) (unescaped : Unescaped cs) :
    Unescaped (before ++ cs) := by
  induction before with
  | nil => exact unescaped
  | cons c before ih =>
    have behind := ih fun d there => blank d (List.mem_cons_of_mem c there)
    exact Unescaped.append_cons List.isChain_nil behind (plain_of_isBlank (blank c List.mem_cons_self)).2

/-- Neither do blanks behind. -/
theorem Unescaped.blank_behind {cs behind : List Char} (unescaped : Unescaped cs) (blank : ∀ c ∈ behind, isBlank c = true) :
    Unescaped (cs ++ behind) := by
  cases behind with
  | nil =>
    rw [List.append_nil]
    exact unescaped
  | cons c behind =>
    have rest : Unescaped (behind ++ []) :=
      Unescaped.blank_front (fun d there => blank d (List.mem_cons_of_mem c there)) List.isChain_nil
    rw [List.append_nil] at rest
    exact unescaped.append_cons rest (plain_of_isBlank (blank c List.mem_cons_self)).2

namespace SpacedText

variable {arg : SpacedText}

/-- The blanks in front of an argument are blanks. -/
theorem isBlank_before (arg : SpacedText) : ∀ c ∈ arg.before.toList, isBlank c = true :=
  List.all_eq_true.mp arg.blankBefore

/-- So are those behind it. -/
theorem isBlank_behind (arg : SpacedText) : ∀ c ∈ arg.behind.toList, isBlank c = true :=
  List.all_eq_true.mp arg.blankBehind

/-- An argument with its blanks is written one after the other. -/
theorem toList_whole (arg : SpacedText) : arg.whole.toList = arg.before.toList ++ arg.text.toList ++ arg.behind.toList := by
  unfold whole
  rw [String.toList_append, String.toList_append]

/-- An argument with its blanks escapes no quote if it does not without. -/
theorem unescaped_whole (unescaped : Unescaped arg.text.toList) : Unescaped arg.whole.toList := by
  rw [toList_whole]
  exact (unescaped.blank_front arg.isBlank_before).blank_behind arg.isBlank_behind

/-- An argument with its blanks leaves open what it does without. -/
theorem opened?_whole {level : Nat} (closed : opened? level arg.text.toList = some level) :
    opened? level arg.whole.toList = some level := by
  have blank {cs : List Char} (blank : ∀ c ∈ cs, isBlank c = true) : opened? level cs = some level :=
    opened?_of_plain (fun c there => (plain_of_isBlank (blank c there)).1) level
  rw [toList_whole]
  exact opened?_append (opened?_append (blank arg.isBlank_before) closed) (blank arg.isBlank_behind)

/-- An argument without its blanks is what is left when these are trimmed off. -/
theorem trimChars_whole (trimmed : trimChars arg.text.toList = arg.text.toList) :
    trimChars arg.whole.toList = arg.text.toList := by
  rw [toList_whole, trimChars_of_blank_around arg.isBlank_before arg.isBlank_behind, trimmed]

end SpacedText

/-- Arguments joined by commas, with any blanks around them, are split into what was joined. -/
theorem splitArgs_joined {args : List SpacedText} (arguments : ∀ arg ∈ args, IsArgument arg.text) :
    splitArgs (",".intercalate (args.map SpacedText.whole)) = args.map (·.text) := by
  have joined : ",".intercalate (args.map SpacedText.whole) =
      String.ofList (joinWith [','] (args.map fun arg => arg.whole.toList)) := by
    rw [joinWith_eq_intercalate, ← String.toList_inj, String.toList_intercalate, List.map_map]
    exact String.toList_ofList.symm
  have trimmed {arg : SpacedText} (there : arg ∈ args) : trimChars arg.whole.toList = arg.text.toList :=
    SpacedText.trimChars_whole (arguments arg there).trimmed
  rw [joined, splitArgs_joinWith_comma]
  · rw [List.map_map]
    refine List.map_congr_left fun arg there => ?_
    rw [Function.comp_apply, trimmed there, String.ofList_toList]
  · intro piece there
    obtain ⟨arg, among, rfl⟩ := List.mem_map.mp there
    have argument := arguments arg among
    exact isUncut_of_opened (SpacedText.unescaped_whole argument.unescaped) (SpacedText.opened?_whole argument.closed)
  · intro piece there
    obtain ⟨arg, among, rfl⟩ := List.mem_map.mp there
    rw [trimmed among]
    exact mt String.toList_eq_nil_iff.mp (arguments arg among).filled

end DynamicBlocks
