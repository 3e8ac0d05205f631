import DynamicBlocks.Proofs.BracePairs
import DynamicBlocks.Proofs.QuotedArguments

/-!
# Closed texts

Three readers go through the text of an expression, each with its own view of what is open: the path counts parentheses
and sees no quotes in them, the arguments of a call count every kind of bracket outside quotes, and a template counts
braces outside quotes. A text that pairs its parentheses and brackets, and whose quotes hide no parenthesis, looks
closed to all of them, so it can stand wherever a text may stand: as an argument, between others, in braces. Only a
comma has to be within parentheses or brackets, since elsewhere it separates arguments.
-/

set_option autoImplicit false

namespace DynamicBlocks

open Text

/-- Texts in which everything that is opened is closed again. `enclosed` says that the text is to stand within
parentheses or brackets. -/
inductive Closed : (enclosed : Bool) → List Char → Prop where
  | nil {enclosed : Bool} : Closed enclosed []
  | append {enclosed : Bool} {cs ds : List Char} (front : Closed enclosed cs) (behind : Closed enclosed ds) :
      Closed enclosed (cs ++ ds)
  | plain {enclosed : Bool} {c : Char} (escapeless : c ≠ '\\') (unsigned : c ∉ argumentSigns) : Closed enclosed [c]
  | comma : Closed true [',']
  | quoted {enclosed : Bool} {mark : Char} (quotes : mark = '"' ∨ mark = '\'') {inner : String}
      (plain : ∀ c ∈ inner.toList, c ≠ '"' ∧ c ≠ '\'' ∧ c ≠ '\\') (unopened : ∀ c ∈ inner.toList, c ≠ '(' ∧ c ≠ ')') :
      Closed enclosed (inQuotes mark inner).toList
  | pair {enclosed : Bool} {opening closing : Char} (signs : opening = '(' ∧ closing = ')' ∨ opening = '[' ∧ closing = ']')
      {cs : List Char} (inner : Closed true cs) : Closed enclosed (opening :: cs ++ [closing])

/-- What can stand anywhere can stand within parentheses. -/
theorem Closed.of_outside {enclosed : Bool} {cs : List Char} (closed : Closed enclosed cs) : Closed true cs := by
  induction closed with
  | nil => exact .nil
  | append _ _ front behind => exact .append front behind
  | plain escapeless unsigned => exact .plain escapeless unsigned
  | comma => exact .comma
  | quoted quotes plain unopened => exact .quoted quotes plain unopened
  | pair signs inner _ => exact .pair signs inner

/-- A text without backslashes and signs of arguments is closed. -/
theorem Closed.of_plain {enclosed : Bool} {cs : List Char} (plain : ∀ c ∈ cs, c ≠ '\\' ∧ c ∉ argumentSigns) :
    Closed enclosed cs := by
  induction cs with
  | nil => exact .nil
  | cons c cs ih =>
    obtain ⟨escapeless, unsigned⟩ := plain c List.mem_cons_self
    exact .append (.plain escapeless unsigned) (ih fun d there => plain d (List.mem_cons_of_mem c there))

/-- So are blanks. -/
theorem Closed.of_blank {enclosed : Bool} {cs : List Char} (blank : ∀ c ∈ cs, isBlank c = true) : Closed enclosed cs := by
  apply Closed.of_plain
  intro c there
  have unsigned := notMem_argumentSigns_of_isBlank (blank c there)
  rw [List.mem_cons, not_or] at unsigned
  exact unsigned

/-! ## The path -/

/-- The path counts as many open parentheses behind a closed text as in front of it. -/
theorem parensAfter_of_closed {enclosed : Bool} {cs : List Char} (closed : Closed enclosed cs) (opened : Nat) :
    parensAfter opened cs = some opened := by
  induction closed generalizing opened with
  | nil => rfl
  | append _ _ front behind => rw [parensAfter_append (front opened), behind]
  | @plain _ c escapeless unsigned =>
    apply parensAfter_of_plain
    intro d there
    obtain rfl := List.mem_singleton.mp there
    have other {sign : Char} (among : sign ∈ argumentSigns) : d ≠ sign := fun same => unsigned (same ▸ among)
    exact ⟨escapeless, other (by decide), other (by decide)⟩
  | comma => rfl
  | @quoted _ mark quotes inner plain unopened =>
    apply parensAfter_of_plain
    unfold inQuotes
    rw [String.toList_ofList]
    intro c there
    simp only [List.cons_append, List.mem_cons, List.mem_append, List.not_mem_nil, or_false] at there
    rcases there with rfl | there | rfl
    · rcases quotes with rfl | rfl <;> decide
    · exact ⟨(plain c there).2.2, unopened c there⟩
    · rcases quotes with rfl | rfl <;> decide
  | @pair _ opening closing signs cs _ inner =>
    -- Brackets are no parentheses, so only round ones change what is open between.
    obtain ⟨within, opens, closes⟩ : ∃ within, parensAfter opened [opening] = some within ∧
        parensAfter within [closing] = some opened := by
      rcases signs with ⟨rfl, rfl⟩ | ⟨rfl, rfl⟩
      · exact ⟨opened + 1, rfl, rfl⟩
      · exact ⟨opened, rfl, rfl⟩
    rw [List.cons_append, ← List.singleton_append, parensAfter_append opens, parensAfter_append (inner within), closes]

/-! ## The arguments of a call -/

/-- One character that does not cut leaves the text uncut. -/
theorem uncutAfter_singleton {depth next : Nat} {before : Option Char} {c : Char}
    (kept : ArgState.cutsAt ⟨depth, none, before⟩ c = false)
    (step : ArgState.step ⟨depth, none, before⟩ c = ⟨next, none, some c⟩) :
    uncutAfter ⟨depth, none, before⟩ [c] = some ⟨next, none, some c⟩ := by
  rw [uncutAfter, kept, step]
  rfl

/-- Nothing in a closed text separates arguments, and as many brackets are open behind it as in front of it. -/
theorem uncutAfter_of_closed {enclosed : Bool} {cs : List Char} (closed : Closed enclosed cs) {depth : Nat}
    (deep : enclosed = true → 0 < depth) {before : Option Char} (unescaped : before ≠ some '\\') :
    ∃ last, last ≠ some '\\' ∧ uncutAfter ⟨depth, none, before⟩ cs = some ⟨depth, none, last⟩ := by
  induction closed generalizing depth before with
  | nil => exact ⟨before, unescaped, rfl⟩
  | append _ _ front behind =>
    obtain ⟨middle, unescaped, first⟩ := front deep unescaped
    obtain ⟨last, unescaped, second⟩ := behind deep unescaped
    exact ⟨last, unescaped, by rw [uncutAfter_append first, second]⟩
  | @plain _ c escapeless unsigned =>
    obtain ⟨kept, step⟩ := ArgState.pass_of_plain unsigned depth before
    exact ⟨some c, by simpa using escapeless, uncutAfter_singleton kept step⟩
  | comma =>
    have inside : depth ≠ 0 := Nat.ne_of_gt (deep rfl)
    have kept : ArgState.cutsAt ⟨depth, none, before⟩ ',' = false := by simp [ArgState.cutsAt, inside]
    exact ⟨some ',', by decide, uncutAfter_singleton kept (by simp [ArgState.step, nextQuote])⟩
  | @quoted _ mark quotes inner plain _ =>
    exact ⟨some mark, by rcases quotes with rfl | rfl <;> decide, uncutAfter_inQuotes quotes plain depth unescaped⟩
  | @pair _ opening closing signs cs _ inner =>
    have opens : uncutAfter ⟨depth, none, before⟩ [opening] = some ⟨depth + 1, none, some opening⟩ := by
      rcases signs with ⟨rfl, rfl⟩ | ⟨rfl, rfl⟩ <;>
        exact uncutAfter_singleton (by simp [ArgState.cutsAt]) (by simp [ArgState.step, nextQuote])
    have closes (last : Option Char) :
        uncutAfter ⟨depth + 1, none, last⟩ [closing] = some ⟨depth, none, some closing⟩ := by
      rcases signs with ⟨rfl, rfl⟩ | ⟨rfl, rfl⟩ <;>
        exact uncutAfter_singleton (by simp [ArgState.cutsAt]) (by simp [ArgState.step, nextQuote])
    have solid : some opening ≠ some '\\' ∧ some closing ≠ some '\\' := by
      rcases signs with ⟨rfl, rfl⟩ | ⟨rfl, rfl⟩ <;> decide
    obtain ⟨last, _, within⟩ := inner (fun _ => Nat.succ_pos depth) solid.1
    refine ⟨some closing, solid.2, ?_⟩
    rw [List.cons_append, ← List.singleton_append, uncutAfter_append opens, uncutAfter_append within, closes]

/-- A closed text is one argument wherever it stands. -/
theorem isUncut_of_closed {cs : List Char} (closed : Closed false cs) : IsUncut cs := by
  intro before unescaped
  obtain ⟨last, _, uncut⟩ := uncutAfter_of_closed closed nofun unescaped
  exact ⟨last, uncut⟩

/-! ## Braces -/

namespace BraceState

/-- A character that is neither brace nor quote changes nothing but the character before. -/
theorem pass_of_plain {c : Char} (plain : c ≠ '\x7b' ∧ c ≠ '\x7d' ∧ c ≠ '"' ∧ c ≠ '\'') (depth : Nat)
    (before : Option Char) : within ⟨depth, none, before⟩ [c] = some ⟨depth, none, some c⟩ := by
  obtain ⟨opening, closing, double, single⟩ := plain
  have kept : closesAt ⟨depth, none, before⟩ c = false := by simp [closesAt, closing]
  have step : step ⟨depth, none, before⟩ c = ⟨depth, none, some c⟩ := by
    simp [BraceState.step, opening, closing, nextQuote_of_plain double single]
  rw [within, kept, step]
  rfl

/-- Quotes hide the braces between them. -/
theorem within_inQuotes {mark : Char} (quotes : mark = '"' ∨ mark = '\'') {inner : String}
    (plain : ∀ c ∈ inner.toList, c ≠ '"' ∧ c ≠ '\'' ∧ c ≠ '\\') (depth : Nat) {before : Option Char}
    (unescaped : before ≠ some '\\') :
    within ⟨depth, none, before⟩ (inQuotes mark inner).toList = some ⟨depth, none, some mark⟩ := by
  have braceless : mark ≠ '\x7b' ∧ mark ≠ '\x7d' := by rcases quotes with rfl | rfl <;> decide
  have hidden (before : Option Char) (c : Char) : closesAt ⟨depth, some mark, before⟩ c = false := by simp [closesAt]
  have through (cs : List Char) (plain : ∀ c ∈ cs, c ≠ '"' ∧ c ≠ '\'' ∧ c ≠ '\\') (before : Option Char)
      (unescaped : before ≠ some '\\') :
      within ⟨depth, some mark, before⟩ (cs ++ [mark]) = some ⟨depth, none, some mark⟩ := by
    induction cs generalizing before with
    | nil =>
      have step : step ⟨depth, some mark, before⟩ mark = ⟨depth, none, some mark⟩ := by
        simp [BraceState.step, nextQuote_closing quotes unescaped]
      rw [List.nil_append, within, hidden, step]
      rfl
    | cons c cs ih =>
      obtain ⟨double, single, escape⟩ := plain c List.mem_cons_self
      have step : step ⟨depth, some mark, before⟩ c = ⟨depth, some mark, some c⟩ := by
        simp [BraceState.step, nextQuote_of_plain double single]
      rw [List.cons_append, within, hidden, step]
      exact ih (fun d there => plain d (List.mem_cons_of_mem c there)) (some c) (by simpa using escape)
  have kept : closesAt ⟨depth, none, before⟩ mark = false := by simp [closesAt, braceless]
  have step : step ⟨depth, none, before⟩ mark = ⟨depth, some mark, some mark⟩ := by
    simp [BraceState.step, braceless, nextQuote_opening quotes unescaped]
  unfold inQuotes
  rw [String.toList_ofList, List.cons_append, within, kept, step]
  refine through inner.toList plain (some mark) ?_
  rcases quotes with rfl | rfl <;> decide

/-- A closed text has no brace outside quotes. -/
theorem within_of_closed {enclosed : Bool} {cs : List Char} (closed : Closed enclosed cs) (depth : Nat)
    {before : Option Char} (unescaped : before ≠ some '\\') :
    ∃ last, last ≠ some '\\' ∧ within ⟨depth, none, before⟩ cs = some ⟨depth, none, last⟩ := by
  induction closed generalizing before with
  | nil => exact ⟨before, unescaped, rfl⟩
  | append _ _ front behind =>
    obtain ⟨middle, unescaped, first⟩ := front unescaped
    obtain ⟨last, unescaped, second⟩ := behind unescaped
    exact ⟨last, unescaped, by rw [within_append first, second]⟩
  | @plain _ c escapeless unsigned =>
    have other {d : Char} (sign : d ∈ argumentSigns) : c ≠ d := fun same => unsigned (same ▸ sign)
    refine ⟨some c, by simpa using escapeless, pass_of_plain ?_ depth before⟩
    exact ⟨other (by decide), other (by decide), other (by decide), other (by decide)⟩
  | comma => exact ⟨some ',', by decide, pass_of_plain (by decide) depth before⟩
  | @quoted _ mark quotes inner plain _ =>
    exact ⟨some mark, by rcases quotes with rfl | rfl <;> decide, within_inQuotes quotes plain depth unescaped⟩
  | @pair _ opening closing signs cs _ inner =>
    have opens : within ⟨depth, none, before⟩ [opening] = some ⟨depth, none, some opening⟩ := by
      rcases signs with ⟨rfl, rfl⟩ | ⟨rfl, rfl⟩ <;> exact pass_of_plain (by decide) depth before
    have closes (last : Option Char) : within ⟨depth, none, last⟩ [closing] = some ⟨depth, none, some closing⟩ := by
      rcases signs with ⟨rfl, rfl⟩ | ⟨rfl, rfl⟩ <;> exact pass_of_plain (by decide) depth last
    have solid : some opening ≠ some '\\' ∧ some closing ≠ some '\\' := by
      rcases signs with ⟨rfl, rfl⟩ | ⟨rfl, rfl⟩ <;> decide
    obtain ⟨last, _, through⟩ := inner solid.1
    refine ⟨some closing, solid.2, ?_⟩
    rw [List.cons_append, ← List.singleton_append, within_append opens, within_append through, closes]

end BraceState

/-- A closed text can stand in braces. -/
theorem fillsBraces_of_closed {cs : List Char} (closed : Closed false cs) : FillsBraces cs := by
  obtain ⟨last, _, reached⟩ := BraceState.within_of_closed closed 0 (show some '\x7b' ≠ some '\\' by decide)
  exact ⟨_, reached, rfl⟩

end DynamicBlocks
