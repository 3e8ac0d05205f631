import DynamicBlocks.Proofs.TemplateTokens
import DynamicBlocks.Modifier.Builtin
import DynamicBlocks.Resolve.Data
import Mathlib.Data.List.TakeWhile

/-!
# Templates as values and as text

A template is used in two ways. As a value it is resolved: one that is a single expression stands for the value of the
expression, any other for text. As text it is substituted. Shown, the value is the text that is substituted
(`resolveContent_display`), except for a pair of braces with nothing but blanks between, which is an expression where a
value is wanted and plain text where text is (`resolveContent_display_iff`).
-/

set_option autoImplicit false

namespace DynamicBlocks

open Text

/-! ## Templates of one token -/

section

variable {s : String} {inner : List Char} (alone : standalone? s.toList = some inner)
include alone

/-- In a lone template something other than blanks is replaced as a whole. -/
theorem fillTemplate_of_standalone? (solid : inner.all isBlank = false) (replace : String → Except Failure String) :
    fillTemplate s replace = replace (String.ofList inner) := by
  obtain ⟨shape, -, fills⟩ := standalone?_eq_some_iff.mp alone
  have read := tokensFrom_expression fills solid []
  rw [List.append_nil, ← shape] at read
  unfold fillTemplate tokenize
  rw [read, show tokensFrom 0 [] = [] from rfl, List.mapM_cons, List.mapM_nil]
  dsimp only
  cases replace (String.ofList inner) with
  | error f => rfl
  | ok text =>
    show Except.ok (String.join [text]) = _
    simp

/-- A pair of braces around blanks is left as it is. -/
theorem fillTemplate_of_blankPair (blank : inner.all isBlank = true) (replace : String → Except Failure String) :
    fillTemplate s replace = .ok s := by
  obtain ⟨shape, -, fills⟩ := standalone?_eq_some_iff.mp alone
  have filled : inBraces inner ≠ [] := List.cons_ne_nil _ _
  have read := tokensFrom_blankPair fills blank []
  rw [show tokensFrom 0 [] = [] from rfl, consLiteral_of_ne filled (by simp), List.append_nil, ← shape] at read
  unfold fillTemplate tokenize
  rw [read]
  show Except.ok (String.join [String.ofList s.toList]) = _
  rw [String.ofList_toList]
  simp

end

/-! ## Pairs of braces around blanks -/

/-- A text that is no pair of braces with nothing but blanks between. -/
def HoldsMore (s : String) : Prop :=
  ∀ blanks : List Char, blanks ≠ [] → blanks.all isBlank = true → s.toList ≠ '\x7b' :: (blanks ++ ['\x7d'])

/-- Blanks are neither braces nor quotes. -/
theorem fillsBraces_of_blank {blanks : List Char} (blank : blanks.all isBlank = true) : FillsBraces blanks := by
  apply fillsBraces_of_plain
  intro c there
  have blank : isBlank c = true := List.all_eq_true.mp blank c there
  refine ⟨?_, ?_, ?_, ?_⟩
  all_goals
    rintro rfl
    exact absurd blank (by decide)

/-- Nothing but blanks is a literal, and that is the empty text. -/
theorem evaluate_of_blank {blanks : List Char} (blank : blanks.all isBlank = true) (table : ModifierTable)
    (sources : List Source) : evaluate table sources (String.ofList blanks) = .ok (.text "") := by
  have trimmed : trim (String.ofList blanks) = "" := by
    have front : trimFront blanks = [] := List.dropWhile_eq_nil_iff.mpr (List.all_eq_true.mp blank)
    unfold trim trimChars
    rw [String.toList_ofList, front]
    rfl
  have literal : literal? (String.ofList blanks) = some (.text "") := by
    unfold literal?
    rw [trimmed]
    rfl
  unfold evaluate evaluateAt evaluateText evaluateNested
  rw [literal]

/-! ## Values shown and texts substituted -/

/-- Substituting in a text fills in the displayed value of every expression. -/
theorem substitute_eq_fillTemplate (table : ModifierTable) (sources : List Source) (s : String) :
    substitute table sources s = fillTemplate s fun source => evaluate table sources source >>= Value.display := by
  unfold substitute substituteWith
  simp only [id, bind_pure]

/-- A template resolved and then made a text is the template with every expression replaced by its text. -/
theorem resolveContent_display {s : String} (more : HoldsMore s) (table : ModifierTable) (sources : List Source) :
    (resolveContent table sources (.text s) >>= Value.display) = substitute table sources s := by
  rw [substitute_eq_fillTemplate]
  unfold resolveContent resolveIn
  split
  · rename_i empty
    rw [empty]
    rfl
  · unfold resolveTemplate
    cases alone : standalone? s.toList with
    | none =>
      dsimp only
      rw [bind_map_left]
      exact bind_pure _
    | some inner =>
      obtain ⟨shape, filled, -⟩ := standalone?_eq_some_iff.mp alone
      have solid : inner.all isBlank = false := by
        rw [← Bool.not_eq_true]
        intro blank
        exact more inner filled blank shape
      rw [fillTemplate_of_standalone? alone solid]

/-- Blanks in braces are nothing where a value is wanted, and themselves where text is. -/
theorem resolveContent_blankPair {s : String} {blanks : List Char} (filled : blanks ≠ [])
    (blank : blanks.all isBlank = true) (shape : s.toList = inBraces blanks) (table : ModifierTable)
    (sources : List Source) :
    resolveContent table sources (.text s) = .ok (.text "") ∧ substitute table sources s = .ok s := by
  have alone : standalone? s.toList = some blanks :=
    standalone?_eq_some_iff.mpr ⟨shape, filled, fillsBraces_of_blank blank⟩
  constructor
  · have there : s ≠ "" := by
      rintro rfl
      cases shape
    unfold resolveContent resolveIn
    rw [if_neg there]
    unfold resolveTemplate
    rw [alone]
    exact evaluate_of_blank blank table sources
  · rw [substitute_eq_fillTemplate, fillTemplate_of_blankPair alone blank]

/-- Shown, a template that is used as a value is the text that it is substituted to, or fails in the same way, exactly
if it is no pair of braces with nothing but blanks between. -/
theorem resolveContent_display_iff (table : ModifierTable) (sources : List Source) (s : String) :
    (resolveContent table sources (.text s) >>= Value.display) = substitute table sources s ↔ HoldsMore s := by
  constructor
  · intro same blanks filled blank shape
    obtain ⟨nothing, itself⟩ := resolveContent_blankPair filled blank shape table sources
    rw [nothing, itself] at same
    have empty : "" = s := Except.ok.inj same
    subst empty
    cases shape
  · intro more
    exact resolveContent_display more table sources

/-- A blank in braces is shown as nothing if it is a value, and as it stands if it is text. -/
theorem resolveContent_display_blank :
    (resolveContent builtinModifiers [] (.text "\x7b \x7d") >>= Value.display) ≠
      substitute builtinModifiers [] "\x7b \x7d" := by
  have shape : "\x7b \x7d".toList = inBraces [' '] := by decide
  obtain ⟨nothing, itself⟩ := resolveContent_blankPair (by decide) (by decide) shape builtinModifiers []
  rw [nothing, itself]
  intro same
  exact absurd (Except.ok.inj same) (by decide)

end DynamicBlocks
