import DynamicBlocks.Expression.Template
import Mathlib.Data.List.Infix

/-!
# Pairs of braces

The brace that closes a pair is found by going through the characters behind the one that opens it, with the braces and
the quote in mind that are open. What follows the pair is never looked at: whether characters fill a pair of braces is a
matter of these characters alone (`braced?_eq_some_iff`), so a text that is one pair of braces is none any more with
something behind it. Where there are no quotes all that counts is how many braces are opened and closed, and a text is
one pair of braces exactly if these numbers agree at its end and not before.
-/

set_option autoImplicit false

namespace DynamicBlocks

/-! ## Going through a pair of braces -/

/-- What encloses the place reached behind an opening brace. -/
structure BraceState where
  /-- The braces opened since. -/
  depth : Nat
  /-- The quote that is open. -/
  quote : Option Char
  /-- The character before. -/
  before : Option Char
  deriving DecidableEq

namespace BraceState

/-- The place right behind the opening brace. -/
def opened : BraceState := ⟨0, none, some '\x7b'⟩

/-- Whether the character closes the pair here. -/
def closesAt (s : BraceState) (c : Char) : Bool :=
  c == '\x7d' && s.quote.isNone && s.depth == 0

/-- What encloses the place behind a character. -/
def step (s : BraceState) (c : Char) : BraceState :=
  let depth :=
    if s.quote = none ∧ c = '\x7b' then s.depth + 1
    else if s.quote = none ∧ c = '\x7d' then s.depth - 1
    else s.depth
  ⟨depth, nextQuote s.quote s.before c, some c⟩

/-- What encloses the place behind characters of which none closes the pair. -/
def within : BraceState → List Char → Option BraceState
  | s, [] => some s
  | s, c :: cs => if s.closesAt c then none else within (s.step c) cs

/-- Whether the pair is open, and nothing within it. -/
def atEnd (s : BraceState) : Bool :=
  s.quote.isNone && s.depth == 0

/-- A brace ends its pair where it closes and nothing else is open. -/
theorem closesAt_eq (s : BraceState) (c : Char) : s.closesAt c = true ↔ c = '\x7d' ∧ s.atEnd = true := by
  unfold closesAt atEnd
  rw [Bool.and_assoc, Bool.and_eq_true, beq_iff_eq]

/-- What is behind a text that stays inside a pair is looked at from the state the text ends in. -/
theorem within_append {s t : BraceState} {cs : List Char} (open_ : s.within cs = some t) (rest : List Char) :
    s.within (cs ++ rest) = t.within rest := by
  induction cs generalizing s with
  | nil =>
    obtain rfl := Option.some.inj open_
    rfl
  | cons c cs ih =>
    unfold within at open_
    split at open_
    · cases open_
    · rename_i kept
      rw [List.cons_append, within, if_neg kept, ih open_]

end BraceState

/-- The end of a pair is looked for one character at a time. -/
theorem bracedFrom_cons (s : BraceState) (c : Char) (cs : List Char) :
    bracedFrom s.depth s.quote s.before (c :: cs) =
      if s.closesAt c then some ([], cs)
      else (bracedFrom (s.step c).depth (s.step c).quote (s.step c).before cs).map fun pair => (c :: pair.1, pair.2) := by
  have same : (c = '\x7d' ∧ s.quote = none ∧ s.depth = 0) ↔ s.closesAt c = true := by
    unfold BraceState.closesAt
    simp [and_assoc]
  rw [bracedFrom]
  simp only [same]
  rfl

/-- The end of a pair is not inside a text that stays in it, so it is looked for behind the text. -/
theorem bracedFrom_append {s t : BraceState} {cs : List Char} (open_ : s.within cs = some t) (rest : List Char) :
    bracedFrom s.depth s.quote s.before (cs ++ rest) =
      (bracedFrom t.depth t.quote t.before rest).map fun pair => (cs ++ pair.1, pair.2) := by
  induction cs generalizing s with
  | nil =>
    obtain rfl := Option.some.inj open_
    simp
  | cons c cs ih =>
    unfold BraceState.within at open_
    split at open_
    · cases open_
    · rename_i kept
      rw [List.cons_append, bracedFrom_cons, if_neg kept, ih open_, Option.map_map]
      rfl

/-- The characters up to the brace that closes the pair are those within it. -/
theorem bracedFrom_eq_some_iff {s : BraceState} {cs inner rest : List Char} :
    bracedFrom s.depth s.quote s.before cs = some (inner, rest) ↔
      cs = inner ++ '\x7d' :: rest ∧ ∃ t, s.within inner = some t ∧ t.atEnd = true := by
  constructor
  · intro found
    induction cs generalizing s inner with
    | nil => cases found
    | cons c cs ih =>
      rw [bracedFrom_cons] at found
      split at found
      · rename_i closes
        obtain ⟨rfl, ends⟩ := (s.closesAt_eq c).mp closes
        obtain ⟨rfl, rfl⟩ := Prod.mk.inj (Option.some.inj found)
        exact ⟨rfl, s, rfl, ends⟩
      · rename_i kept
        obtain ⟨⟨inner', rest'⟩, behind, same⟩ := Option.map_eq_some_iff.mp found
        obtain ⟨rfl, rfl⟩ := Prod.mk.inj same
        obtain ⟨rfl, reached⟩ := ih behind
        rw [BraceState.within, if_neg kept]
        exact ⟨rfl, reached⟩
  · rintro ⟨rfl, t, reached, ends⟩
    have closes : t.closesAt '\x7d' = true := (t.closesAt_eq _).mpr ⟨rfl, ends⟩
    rw [bracedFrom_append reached, bracedFrom_cons, if_pos closes]
    simp

/-- Whether a pair of braces around the characters is closed behind them, and not before. -/
def FillsBraces (inner : List Char) : Prop :=
  ∃ t, BraceState.opened.within inner = some t ∧ t.atEnd = true

/-- The text up to the end of a pair is one that fills the braces around it. -/
theorem braced?_eq_some_iff {cs inner rest : List Char} :
    braced? cs = some (inner, rest) ↔ cs = inner ++ '\x7d' :: rest ∧ FillsBraces inner :=
  bracedFrom_eq_some_iff (s := .opened)

/-- Characters in a pair of braces. -/
def inBraces (inner : List Char) : List Char :=
  '\x7b' :: (inner ++ ['\x7d'])

/-- A template is one expression exactly if it is one pair of braces with something in it. -/
theorem standalone?_eq_some_iff {cs inner : List Char} :
    standalone? cs = some inner ↔ cs = inBraces inner ∧ inner ≠ [] ∧ FillsBraces inner := by
  unfold inBraces
  constructor
  · intro alone
    unfold standalone? at alone
    split at alone
    · split at alone
      · rename_i enclosed
        obtain rfl := Option.some.inj alone
        obtain ⟨rfl, fills⟩ := braced?_eq_some_iff.mp enclosed
        exact ⟨rfl, List.cons_ne_nil _ _, fills⟩
      · cases alone
    · cases alone
  · rintro ⟨rfl, filled, fills⟩
    obtain ⟨c, inner, rfl⟩ := List.exists_cons_of_ne_nil filled
    have enclosed : braced? (c :: inner ++ ['\x7d']) = some (c :: inner, []) := braced?_eq_some_iff.mpr ⟨rfl, fills⟩
    unfold standalone?
    simp only [enclosed]

/-- A text that opens no pair of braces first is no expression from end to end. -/
theorem standalone?_eq_none {cs : List Char} (unbraced : cs.head? ≠ some '\x7b') : standalone? cs = none := by
  rw [Option.eq_none_iff_forall_ne_some]
  intro inner alone
  obtain ⟨rfl, -⟩ := standalone?_eq_some_iff.mp alone
  exact unbraced rfl

/-- A text stands alone exactly if it is a filled pair of braces with something in it. -/
theorem isStandalone_iff {s : String} :
    isStandalone s = true ↔ ∃ inner, s.toList = inBraces inner ∧ inner ≠ [] ∧ FillsBraces inner := by
  unfold isStandalone
  simp only [Option.isSome_iff_exists, standalone?_eq_some_iff]

/-- Braces around texts are the same only if the texts are. -/
theorem inBraces_inj {inner other : List Char} : inBraces inner = inBraces other ↔ inner = other := by
  simp [inBraces]

/-- A text in braces stands alone exactly if it fills them and is not empty. -/
theorem isStandalone_inBraces {inner : List Char} :
    isStandalone (String.ofList (inBraces inner)) = true ↔ inner ≠ [] ∧ FillsBraces inner := by
  rw [isStandalone_iff, String.toList_ofList]
  constructor
  · rintro ⟨other, shape, alone⟩
    obtain rfl := inBraces_inj.mp shape
    exact alone
  · intro alone
    exact ⟨inner, rfl, alone⟩

/-- Behind a pair of braces there is room for nothing. -/
theorem not_isStandalone_append {s t : String} (alone : isStandalone s = true) (more : t ≠ "") :
    isStandalone (s ++ t) = false := by
  rw [Bool.eq_false_iff]
  intro both
  obtain ⟨inner, shape, -, fills⟩ := isStandalone_iff.mp alone
  obtain ⟨other, whole, -, fillsOther⟩ := isStandalone_iff.mp both
  rw [String.toList_append, shape] at whole
  -- The pair is closed at one place.
  have first : braced? (inner ++ '\x7d' :: t.toList) = some (inner, t.toList) := braced?_eq_some_iff.mpr ⟨rfl, fills⟩
  have second : braced? (inner ++ '\x7d' :: t.toList) = some (other, []) := by
    refine braced?_eq_some_iff.mpr ⟨?_, fillsOther⟩
    simpa [inBraces] using whole
  rw [first] at second
  have none : t.toList = [] := (Prod.mk.inj (Option.some.inj second)).2
  exact more (String.toList_eq_nil_iff.mp none)

/-! ## Counting braces -/

/-- The braces that characters open, less those that they close. -/
def braceBalance (cs : List Char) : Int :=
  cs.count '\x7b' - cs.count '\x7d'

/-- The balance of texts one after the other is the sum of theirs. -/
theorem braceBalance_append (cs ds : List Char) : braceBalance (cs ++ ds) = braceBalance cs + braceBalance ds := by
  unfold braceBalance
  rw [List.count_append, List.count_append]
  omega

/-- The balance of a text is that of its first character and of the rest. -/
theorem braceBalance_cons (c : Char) (cs : List Char) : braceBalance (c :: cs) = braceBalance [c] + braceBalance cs :=
  braceBalance_append [c] cs

/-- An opening brace adds one to the balance, a closing one takes one away. -/
theorem braceBalance_singleton (c : Char) :
    braceBalance [c] = if c = '\x7b' then 1 else if c = '\x7d' then -1 else 0 := by
  unfold braceBalance
  by_cases opens : c = '\x7b'
  · subst opens
    rfl
  · by_cases closes : c = '\x7d'
    · subst closes
      rfl
    · simp [opens, closes]

/-- A text without quotes. -/
def Unquoted (cs : List Char) : Prop :=
  ∀ c ∈ cs, c ≠ '"' ∧ c ≠ '\''

/-- Without quotes the pair stays open as long as no more braces are closed than are open. -/
theorem within_eq_some_iff {cs : List Char} (unquoted : Unquoted cs) {depth left : Nat} {before : Option Char} :
    (∃ last, BraceState.within ⟨depth, none, before⟩ cs = some ⟨left, none, last⟩) ↔
      (∀ front, front <+: cs → 0 ≤ depth + braceBalance front) ∧ depth + braceBalance cs = left := by
  induction cs generalizing depth before with
  | nil =>
    have level (front : List Char) (first : front <+: []) : braceBalance front = 0 := by
      rw [List.prefix_nil.mp first]
      rfl
    show (∃ last, some (BraceState.mk depth none before) = some ⟨left, none, last⟩) ↔ _
    constructor
    · rintro ⟨last, same⟩
      cases same
      refine ⟨fun front first => ?_, Int.add_zero _⟩
      rw [level front first]
      omega
    · rintro ⟨-, same⟩
      rw [level [] List.nil_prefix] at same
      obtain rfl : depth = left := by omega
      exact ⟨before, rfl⟩
  | cons c cs ih =>
    have here := unquoted c List.mem_cons_self
    have behind : Unquoted cs := fun d there => unquoted d (List.mem_cons_of_mem c there)
    have quoteless : nextQuote none before c = none := by simp [nextQuote, here]
    have fronts : (∀ front, front <+: c :: cs → 0 ≤ depth + braceBalance front) ↔
        ∀ front, front <+: cs → 0 ≤ depth + braceBalance [c] + braceBalance front := by
      constructor
      · intro each front first
        have more := each (c :: front) (List.cons_prefix_cons.mpr ⟨rfl, first⟩)
        rw [braceBalance_cons] at more
        omega
      · intro each front first
        rcases List.prefix_cons_iff.mp first with rfl | ⟨rest, rfl, behind⟩
        · exact Int.natCast_nonneg depth
        · have more := each rest behind
          rw [braceBalance_cons c rest]
          omega
    rw [fronts, braceBalance_cons c cs, BraceState.within]
    by_cases closes : BraceState.closesAt ⟨depth, none, before⟩ c = true
    · obtain ⟨rfl, ends⟩ := (BraceState.closesAt_eq _ c).mp closes
      obtain rfl : depth = 0 := eq_of_beq ends
      rw [if_pos closes]
      constructor
      · rintro ⟨last, same⟩
        cases same
      · rintro ⟨each, -⟩
        exact absurd (each [] List.nil_prefix) (by decide)
    · rw [if_neg closes]
      obtain ⟨next, step, same⟩ : ∃ next : Nat, BraceState.step ⟨depth, none, before⟩ c = ⟨next, none, some c⟩ ∧
          (next : Int) = depth + braceBalance [c] := by
        unfold BraceState.step
        rw [quoteless, braceBalance_singleton]
        refine ⟨_, rfl, ?_⟩
        by_cases opens : c = '\x7b'
        · simp [opens]
        · by_cases closing : c = '\x7d'
          · have deep : depth ≠ 0 := fun shallow => closes ((BraceState.closesAt_eq _ c).mpr ⟨closing, by
              rw [shallow]
              rfl⟩)
            simp only [closing]
            have less : ((depth - 1 : Nat) : Int) = depth + -1 := by omega
            simpa using less
          · simp [opens, closing]
      rw [step, ih behind, same, Int.add_assoc]

/-- Without quotes characters fill a pair of braces exactly if they nowhere close more braces than they open, and all
that they open in the end. -/
theorem fillsBraces_iff {inner : List Char} (unquoted : Unquoted inner) :
    FillsBraces inner ↔ (∀ front, front <+: inner → 0 ≤ braceBalance front) ∧ braceBalance inner = 0 := by
  have counted : (∃ last, BraceState.opened.within inner = some ⟨0, none, last⟩) ↔ _ := within_eq_some_iff unquoted
  simp only [Int.natCast_zero, Int.zero_add] at counted
  rw [← counted]
  constructor
  · rintro ⟨⟨depth, quote, last⟩, reached, ends⟩
    obtain ⟨closed, shallow⟩ := Bool.and_eq_true_iff.mp ends
    obtain rfl : quote = none := Option.isNone_iff_eq_none.mp closed
    obtain rfl : depth = 0 := eq_of_beq shallow
    exact ⟨last, reached⟩
  · rintro ⟨last, reached⟩
    exact ⟨_, reached, rfl⟩

/-- Characters that are neither braces nor quotes fill a pair of braces. -/
theorem fillsBraces_of_plain {inner : List Char}
    (plain : ∀ c ∈ inner, c ≠ '\x7b' ∧ c ≠ '\x7d' ∧ c ≠ '"' ∧ c ≠ '\'') : FillsBraces inner := by
  have level {front : List Char} (first : front <+: inner) : braceBalance front = 0 := by
    have opening : front.count '\x7b' = 0 :=
      List.count_eq_zero.mpr fun there => (plain _ (first.subset there)).1 rfl
    have closing : front.count '\x7d' = 0 :=
      List.count_eq_zero.mpr fun there => (plain _ (first.subset there)).2.1 rfl
    unfold braceBalance
    rw [opening, closing]
    rfl
  have unquoted : Unquoted inner := fun c there => (plain c there).2.2
  exact (fillsBraces_iff unquoted).mpr ⟨fun front first => Int.le_of_eq (level first).symm, level (List.prefix_refl inner)⟩

/-- The balance in front of a place in a pair of braces is that in front of the place within it, and one. -/
theorem forall_front_inBraces {inner : List Char} {P : Int → Prop} :
    (∀ front, front <+: inBraces inner → front ≠ [] → front ≠ inBraces inner → P (braceBalance front)) ↔
      ∀ front, front <+: inner → P (1 + braceBalance front) := by
  have open_ (front : List Char) : braceBalance ('\x7b' :: front) = 1 + braceBalance front := braceBalance_cons _ front
  unfold inBraces
  constructor
  · intro each front first
    rw [← open_]
    apply each
    · exact List.cons_prefix_cons.mpr ⟨rfl, first.trans (List.prefix_append inner _)⟩
    · exact List.cons_ne_nil _ front
    · intro whole
      have short := first.length_le
      have same := congrArg List.length (List.cons.inj whole).2
      rw [List.length_append, List.length_singleton] at same
      omega
  · intro each front first filled proper
    rcases List.prefix_cons_iff.mp first with rfl | ⟨rest, rfl, behind⟩
    · exact absurd rfl filled
    · rw [open_]
      rcases List.prefix_concat_iff.mp behind with rfl | within
      · exact absurd rfl proper
      · exact each rest within

/-- A pair of braces around a text leaves its balance as it is. -/
theorem braceBalance_inBraces (inner : List Char) : braceBalance (inBraces inner) = braceBalance inner := by
  have ends : inBraces inner = ['\x7b'] ++ inner ++ ['\x7d'] := by
    unfold inBraces
    simp
  rw [ends, braceBalance_append, braceBalance_append, braceBalance_singleton, braceBalance_singleton]
  show 1 + braceBalance inner + -1 = braceBalance inner
  omega

/-- A text that opens a brace first and closes all its braces at its end, and at no place before, is in braces. -/
theorem exists_inBraces {cs : List Char} (opens : cs.head? = some '\x7b') (long : 2 ≤ cs.length)
    (open_ : ∀ front, front <+: cs → front ≠ [] → front ≠ cs → 0 < braceBalance front) (closed : braceBalance cs = 0) :
    ∃ inner, cs = inBraces inner := by
  obtain ⟨rest, rfl⟩ := List.head?_eq_some_iff.mp opens
  have filled : rest ≠ [] := by
    rintro rfl
    simp at long
  obtain ⟨inner, last, rfl⟩ : ∃ inner last, rest = inner ++ [last] :=
    ⟨_, _, (List.dropLast_concat_getLast filled).symm⟩
  have before := open_ ('\x7b' :: inner) (List.cons_prefix_cons.mpr ⟨rfl, List.prefix_append inner _⟩)
    (List.cons_ne_nil _ _) (by simp)
  have split := braceBalance_append ('\x7b' :: inner) [last]
  rw [List.cons_append, closed, braceBalance_singleton] at split
  have closing : last = '\x7d' := by
    split at split
    · omega
    · split at split
      · assumption
      · omega
  exact ⟨inner, by rw [closing]; rfl⟩

/-- Without quotes a text is one expression exactly if it is long enough, opens a brace first, and its braces are all
closed at its end and at no place before. Whatever quotes it holds, with more behind it it is one expression no longer.
-/
theorem isStandalone_iff_braceBalance :
    (∀ s : String, Unquoted s.toList →
      (isStandalone s = true ↔
        3 ≤ s.length ∧ s.toList.head? = some '\x7b' ∧
          (∀ front, front <+: s.toList → front ≠ [] → front ≠ s.toList → 0 < braceBalance front) ∧
          braceBalance s.toList = 0)) ∧
      ∀ s t : String, isStandalone s = true → t ≠ "" → isStandalone (s ++ t) = false := by
  refine ⟨fun s unquoted => ?_, fun s t => not_isStandalone_append⟩
  rw [isStandalone_iff, ← String.length_toList]
  have balanced {inner : List Char} (shape : s.toList = inBraces inner) :
      FillsBraces inner ↔
        (∀ front, front <+: s.toList → front ≠ [] → front ≠ s.toList → 0 < braceBalance front) ∧
          braceBalance s.toList = 0 := by
    rw [shape] at unquoted ⊢
    rw [fillsBraces_iff fun c there => unquoted c (by simp [inBraces, there]), braceBalance_inBraces,
      forall_front_inBraces]
    have same (n : Int) : 0 ≤ n ↔ 0 < 1 + n := by omega
    simp only [same]
  constructor
  · rintro ⟨inner, shape, filled, fills⟩
    have room : 0 < inner.length := List.length_pos_iff.mpr filled
    refine ⟨?_, by rw [shape]; rfl, (balanced shape).mp fills⟩
    rw [shape]
    simp [inBraces]
    omega
  · rintro ⟨long, opens, counted⟩
    obtain ⟨inner, shape⟩ := exists_inBraces opens (Nat.le_of_succ_le long) counted.1 counted.2
    refine ⟨inner, shape, ?_, (balanced shape).mpr counted⟩
    rintro rfl
    rw [shape] at long
    exact absurd long (by decide)

/-- Braces within braces, and a quoted brace in front of another pair. -/
theorem isStandalone_iff_braceBalance_nested :
    (Unquoted "\x7ba\x7bb\x7dc\x7d".toList ∧ isStandalone "\x7ba\x7bb\x7dc\x7d" = true) ∧
      isStandalone ("\x7bf('\x7d')\x7d" ++ "\x7bb\x7d") = false := by
  have unquoted : Unquoted "\x7ba\x7bb\x7dc\x7d".toList := by
    unfold Unquoted
    simp
  have fronts : ∀ front ∈ "\x7ba\x7bb\x7dc\x7d".toList.inits, front ≠ [] → front ≠ "\x7ba\x7bb\x7dc\x7d".toList →
      0 < braceBalance front := by decide
  refine ⟨⟨unquoted, (isStandalone_iff_braceBalance.1 _ unquoted).mpr ⟨by decide, by decide, ?_, by decide⟩⟩,
    isStandalone_iff_braceBalance.2 _ _ (by decide) (by decide)⟩
  intro front first
  exact fronts front ((List.mem_inits front _).mpr first)

end DynamicBlocks
