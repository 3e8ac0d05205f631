import DynamicBlocks.Proofs.BracePairs
import Mathlib.Data.List.Chain

/-!
# Tokens of a template

A template and its tokens say the same. Written down one behind the other, with braces around the expressions, the
tokens are the template again, and tokens that could have been read from a template are read from what is written down.
What carries this is that a template is read piece by piece: a character that opens no pair of braces, a pair of braces,
or a brace that is never closed, with all that follows (`template_induction`). No piece depends on the pieces around it.

A literal can hold braces: pairs with nothing but blanks in them, and at the end of the template the brace that is never
closed. Such a literal is still read as itself, but it could change what follows it, so only literals without an opening
brace may be put in front of anything.
-/

set_option autoImplicit false

namespace DynamicBlocks

open Text

/-! ## Reading a template piece by piece -/

/-- Characters that are passed over make no tokens. -/
theorem tokensFrom_eq_drop (skip : Nat) (cs : List Char) : tokensFrom skip cs = tokensFrom 0 (cs.drop skip) := by
  induction cs generalizing skip with
  | nil => cases skip <;> rfl
  | cons c cs ih =>
    cases skip with
    | zero => rfl
    | succ skip => exact ih skip

/-- A character that is no brace is put in front of the first literal. -/
theorem tokensFrom_plain {c : Char} (unbraced : c ≠ '\x7b') (cs : List Char) :
    tokensFrom 0 (c :: cs) = consLiteral [c] (tokensFrom 0 cs) := by
  rw [tokensFrom, if_neg unbraced]

/-- A brace that is never closed, and all behind it, is one literal. -/
theorem tokensFrom_unclosed {cs : List Char} (unclosed : braced? cs = none) :
    tokensFrom 0 ('\x7b' :: cs) = [.literal ('\x7b' :: cs)] := by
  rw [tokensFrom, if_pos rfl, unclosed]

section

variable {inner : List Char} (fills : FillsBraces inner)
include fills

/-- A pair of braces is a literal if nothing but blanks is in it, and else an expression. -/
theorem tokensFrom_pair (rest : List Char) :
    tokensFrom 0 (inBraces inner ++ rest) =
      if inner.all isBlank then consLiteral (inBraces inner) (tokensFrom 0 rest)
      else .expression inner :: tokensFrom 0 rest := by
  have shape : inBraces inner ++ rest = '\x7b' :: (inner ++ '\x7d' :: rest) := by simp [inBraces]
  have enclosed : braced? (inner ++ '\x7d' :: rest) = some (inner, rest) := braced?_eq_some_iff.mpr ⟨rfl, fills⟩
  have behind : tokensFrom (inner.length + 1) (inner ++ '\x7d' :: rest) = tokensFrom 0 rest := by
    rw [tokensFrom_eq_drop, List.drop_length_add_append]
    rfl
  rw [shape, tokensFrom, if_pos rfl, enclosed]
  dsimp only
  rw [behind]
  rfl

/-- A pair of braces with nothing but blanks in it is put in front of the first literal. -/
theorem tokensFrom_blankPair (blank : inner.all isBlank = true) (rest : List Char) :
    tokensFrom 0 (inBraces inner ++ rest) = consLiteral (inBraces inner) (tokensFrom 0 rest) := by
  rw [tokensFrom_pair fills, if_pos blank]

/-- A pair of braces with something in it is an expression. -/
theorem tokensFrom_expression (solid : inner.all isBlank = false) (rest : List Char) :
    tokensFrom 0 (inBraces inner ++ rest) = .expression inner :: tokensFrom 0 rest := by
  rw [tokensFrom_pair fills, solid, if_neg Bool.false_ne_true]

end

/-- Induction along the pieces of a template. -/
@[elab_as_elim]
theorem template_induction {motive : List Char → Prop} (nil : motive [])
    (plain : ∀ c cs, c ≠ '\x7b' → motive cs → motive (c :: cs))
    (unclosed : ∀ cs, braced? cs = none → motive ('\x7b' :: cs))
    (pair : ∀ inner rest, FillsBraces inner → motive rest → motive (inBraces inner ++ rest)) (cs : List Char) :
    motive cs := by
  induction shape : cs.length using Nat.strong_induction_on generalizing cs with
  | _ length ih =>
    cases cs with
    | nil => exact nil
    | cons c cs =>
      rw [List.length_cons] at shape
      by_cases opens : c = '\x7b'
      · subst opens
        cases enclosed : braced? cs with
        | none => exact unclosed cs enclosed
        | some found =>
          obtain ⟨inner, rest⟩ := found
          obtain ⟨rfl, fills⟩ := braced?_eq_some_iff.mp enclosed
          have shorter : rest.length < length := by
            rw [List.length_append, List.length_cons] at shape
            omega
          have whole : '\x7b' :: (inner ++ '\x7d' :: rest) = inBraces inner ++ rest := by simp [inBraces]
          rw [whole]
          exact pair inner rest fills (ih rest.length shorter rest rfl)
      · exact plain c cs opens (ih cs.length (by omega) cs rfl)

/-! ## Literals put in front -/

/-- Putting nothing in front changes nothing. -/
theorem consLiteral_nil (tokens : List Token) : consLiteral [] tokens = tokens := by
  unfold consLiteral
  split <;> rfl

/-- Characters are put in front of a literal that comes first. -/
theorem consLiteral_literal (chars more : List Char) (tokens : List Token) :
    consLiteral chars (.literal more :: tokens) = .literal (chars ++ more) :: tokens :=
  rfl

/-- In front of no literal a literal stands by itself. -/
theorem consLiteral_of_ne {chars : List Char} (filled : chars ≠ []) {tokens : List Token}
    (other : ∀ more rest, tokens ≠ .literal more :: rest) : consLiteral chars tokens = .literal chars :: tokens := by
  have there : chars.isEmpty = false := by simpa using filled
  unfold consLiteral
  split
  · exact absurd rfl (other _ _)
  · rw [there]
    rfl

/-- Characters are put in front one part after the other. -/
theorem consLiteral_append (chars more : List Char) (tokens : List Token) :
    consLiteral (chars ++ more) tokens = consLiteral chars (consLiteral more tokens) := by
  cases tokens with
  | nil => cases more <;> cases chars <;> simp [consLiteral]
  | cons next tokens =>
    cases next with
    | literal text => simp [consLiteral]
    | expression inner => cases more <;> cases chars <;> simp [consLiteral]

/-- Characters that open no pair of braces are a literal, or the front of one. -/
theorem tokensFrom_append_of_unbraced {chars : List Char} (unbraced : '\x7b' ∉ chars) (rest : List Char) :
    tokensFrom 0 (chars ++ rest) = consLiteral chars (tokensFrom 0 rest) := by
  induction chars with
  | nil => exact (consLiteral_nil _).symm
  | cons c chars ih =>
    have other : c ≠ '\x7b' := fun same => unbraced (same ▸ List.mem_cons_self)
    have behind := ih fun there => unbraced (List.mem_cons_of_mem c there)
    rw [List.cons_append, tokensFrom_plain other, behind, ← consLiteral_append]
    rfl

/-! ## Tokens written down -/

/-- A token as it is written. -/
def Token.chars : Token → List Char
  | .literal chars => chars
  | .expression inner => inBraces inner

/-- The template that tokens make up. -/
def templateOf (tokens : List Token) : String :=
  String.ofList (tokens.flatMap Token.chars)

/-- The characters of tokens are those put in front and then the rest. -/
theorem flatMap_consLiteral (chars : List Char) (tokens : List Token) :
    (consLiteral chars tokens).flatMap Token.chars = chars ++ tokens.flatMap Token.chars := by
  by_cases filled : chars = []
  · rw [filled, consLiteral_nil]
    rfl
  · cases tokens with
    | nil =>
      rw [consLiteral_of_ne filled (by simp)]
      rfl
    | cons next tokens =>
      cases next with
      | literal more =>
        rw [consLiteral_literal, List.flatMap_cons, List.flatMap_cons]
        exact List.append_assoc chars more _
      | expression inner =>
        rw [consLiteral_of_ne filled (by simp)]
        rfl

/-- The characters of the tokens of a text are those of the text. -/
theorem flatMap_tokensFrom (cs : List Char) : (tokensFrom 0 cs).flatMap Token.chars = cs := by
  induction cs using template_induction with
  | nil => rfl
  | plain c cs unbraced ih => rw [tokensFrom_plain unbraced, flatMap_consLiteral, ih, List.singleton_append]
  | unclosed cs unclosed =>
    rw [tokensFrom_unclosed unclosed]
    exact List.append_nil _
  | pair inner rest fills ih =>
    rw [tokensFrom_pair fills]
    split
    · rw [flatMap_consLiteral, ih]
    · rw [List.flatMap_cons, ih]
      rfl

/-! ## Rows of tokens -/

/-- Whether a token may stand in a template: a literal is not empty and of some kind, and an expression is not blank
and, put in braces, a template that is one expression. -/
def Token.Fits (kind : List Char → Prop) : Token → Prop
  | .literal chars => chars ≠ [] ∧ kind chars
  | .expression inner => inner.all isBlank = false ∧ isStandalone (String.ofList (inBraces inner)) = true

/-- Whether two tokens that stand side by side are not both literals. -/
def Token.Apart (first second : Token) : Prop :=
  first.isExpression = true ∨ second.isExpression = true

/-- A token stands apart from all that follows if this is no literal. -/
theorem Token.apart_of_ne {tokens : List Token} (other : ∀ more rest, tokens ≠ .literal more :: rest) (token : Token) :
    ∀ next ∈ tokens.head?, token.Apart next := by
  intro next there
  obtain ⟨rest, rfl⟩ := List.head?_eq_some_iff.mp there
  cases next with
  | literal more => exact absurd rfl (other more rest)
  | expression inner => exact .inr rfl

/-- Tokens as they may stand in a template, one behind the other. -/
structure TokenRow (kind : List Char → Prop) (tokens : List Token) : Prop where
  fits : ∀ token ∈ tokens, token.Fits kind
  apart : tokens.IsChain Token.Apart

/-- Whether characters are read as one literal. -/
def IsLiteral (chars : List Char) : Prop :=
  tokenize (String.ofList chars) = [.literal chars]

/-- Characters are a literal if they are their only token. -/
theorem isLiteral_iff {chars : List Char} : IsLiteral chars ↔ tokensFrom 0 chars = [.literal chars] := by
  unfold IsLiteral tokenize
  rw [String.toList_ofList]

namespace TokenRow

variable {kind : List Char → Prop} {token : Token} {tokens : List Token}

/-- No tokens are a row. -/
theorem nil : TokenRow kind [] :=
  ⟨nofun, .nil⟩

/-- A token that fits and stands apart is put in front of a row. -/
theorem cons (fits : token.Fits kind) (apart : ∀ next ∈ tokens.head?, token.Apart next) (row : TokenRow kind tokens) :
    TokenRow kind (token :: tokens) :=
  ⟨List.forall_mem_cons.mpr ⟨fits, row.fits⟩, List.isChain_cons.mpr ⟨apart, row.apart⟩⟩

/-- The first token of a row fits and stands apart. -/
theorem head (row : TokenRow kind (token :: tokens)) : token.Fits kind ∧ ∀ next ∈ tokens.head?, token.Apart next :=
  ⟨row.fits token List.mem_cons_self, (List.isChain_cons.mp row.apart).1⟩

/-- A row without its first token is one. -/
theorem tail (row : TokenRow kind (token :: tokens)) : TokenRow kind tokens :=
  ⟨fun other there => row.fits other (List.mem_cons_of_mem token there), (List.isChain_cons.mp row.apart).2⟩

/-- No literal follows a literal in a row. -/
theorem ne_of_literal {chars : List Char} (row : TokenRow kind (.literal chars :: tokens)) :
    ∀ more rest, tokens ≠ .literal more :: rest := by
  rintro more rest rfl
  rcases row.head.2 _ rfl with both | both
  · cases both
  · cases both

/-- Characters that are read by themselves, whatever follows, may be put in front. -/
theorem consLiteral {chars : List Char} (filled : chars ≠ [])
    (reads : ∀ rest, tokensFrom 0 (chars ++ rest) = DynamicBlocks.consLiteral chars (tokensFrom 0 rest))
    (row : TokenRow IsLiteral tokens) : TokenRow IsLiteral (DynamicBlocks.consLiteral chars tokens) := by
  by_cases literal : ∃ more rest, tokens = .literal more :: rest
  · obtain ⟨more, rest, rfl⟩ := literal
    have single : IsLiteral more := row.head.1.2
    have whole := reads more
    rw [isLiteral_iff.mp single, consLiteral_literal] at whole
    rw [consLiteral_literal]
    exact .cons ⟨by simp [filled], isLiteral_iff.mpr whole⟩ row.head.2 row.tail
  · have other : ∀ more rest, tokens ≠ .literal more :: rest := by simpa using literal
    have alone := reads []
    rw [List.append_nil, show tokensFrom 0 [] = [] from rfl, consLiteral_of_ne filled (by simp)] at alone
    rw [consLiteral_of_ne filled other]
    exact .cons ⟨filled, isLiteral_iff.mpr alone⟩ (Token.apart_of_ne other _) row

/-- The tokens of a text are a row. -/
theorem tokensFrom (cs : List Char) : TokenRow IsLiteral (DynamicBlocks.tokensFrom 0 cs) := by
  induction cs using template_induction with
  | nil => exact .nil
  | plain c cs unbraced ih =>
    rw [tokensFrom_plain unbraced]
    exact ih.consLiteral (List.cons_ne_nil c []) (tokensFrom_plain unbraced)
  | unclosed cs unclosed =>
    have read := tokensFrom_unclosed unclosed
    rw [read]
    exact .cons ⟨List.cons_ne_nil _ cs, isLiteral_iff.mpr read⟩ nofun .nil
  | pair inner rest fills ih =>
    have filled : inBraces inner ≠ [] := List.cons_ne_nil _ _
    cases blank : inner.all isBlank with
    | true =>
      rw [tokensFrom_blankPair fills blank]
      exact ih.consLiteral filled (tokensFrom_blankPair fills blank)
    | false =>
      have some_ : inner ≠ [] := by
        rintro rfl
        cases blank
      rw [tokensFrom_expression fills blank]
      exact .cons ⟨blank, isStandalone_inBraces.mpr ⟨some_, fills⟩⟩ (fun _ _ => .inl rfl) ih

/-- Tokens with literals that open no pair of braces are read from what they make up. -/
theorem tokensFrom_flatMap (row : TokenRow ('\x7b' ∉ ·) tokens) :
    DynamicBlocks.tokensFrom 0 (tokens.flatMap Token.chars) = tokens := by
  induction tokens with
  | nil => rfl
  | cons token tokens ih =>
    have behind := ih row.tail
    cases token with
    | literal chars =>
      obtain ⟨filled, unbraced⟩ := row.head.1
      show DynamicBlocks.tokensFrom 0 (chars ++ tokens.flatMap Token.chars) = _
      rw [tokensFrom_append_of_unbraced unbraced, behind, consLiteral_of_ne filled row.ne_of_literal]
    | expression inner =>
      obtain ⟨solid, alone⟩ := row.head.1
      have fills : FillsBraces inner := (isStandalone_inBraces.mp alone).2
      show DynamicBlocks.tokensFrom 0 (inBraces inner ++ tokens.flatMap Token.chars) = _
      rw [tokensFrom_expression fills solid, behind]

end TokenRow

/-- Reading a template and writing its tokens down undo each other. The tokens of a template make up the template, they
are apart, no literal is empty, none changes when it is read by itself, and each expression is one that is not blank.
Tokens like that are those of the template they make up, if their literals open no pair of braces. -/
theorem tokenize_templateOf_inverse :
    (∀ s, templateOf (tokenize s) = s ∧ TokenRow IsLiteral (tokenize s)) ∧
      ∀ tokens, TokenRow ('\x7b' ∉ ·) tokens → tokenize (templateOf tokens) = tokens := by
  constructor
  · intro s
    unfold templateOf tokenize
    rw [flatMap_tokensFrom, String.ofList_toList]
    exact ⟨rfl, .tokensFrom s.toList⟩
  · intro tokens row
    unfold templateOf tokenize
    rw [String.toList_ofList, row.tokensFrom_flatMap]

/-- Quoted braces belong to the expression they stand in. -/
theorem tokenize_templateOf_inverse_quoted :
    TokenRow ('\x7b' ∉ ·) [.literal "at ".toList, .expression "f('\x7d')".toList, .expression "b".toList] ∧
      tokenize (templateOf [.literal "at ".toList, .expression "f('\x7d')".toList, .expression "b".toList]) =
        [.literal "at ".toList, .expression "f('\x7d')".toList, .expression "b".toList] := by
  have row : TokenRow ('\x7b' ∉ ·)
      [.literal "at ".toList, .expression "f('\x7d')".toList, .expression "b".toList] := by
    refine .cons ⟨by decide, by decide⟩ ?_ (.cons ⟨by decide, by decide⟩ ?_ (.cons ⟨by decide, by decide⟩ ?_ .nil))
    · exact fun _ there => .inr (by rw [← Option.some.inj there]; rfl)
    · exact fun _ _ => .inl rfl
    · exact fun _ _ => .inl rfl
  exact ⟨row, tokenize_templateOf_inverse.2 _ row⟩

/-- Braces around a blank, and a brace that is never closed, are part of a literal. -/
example : tokenize "a\x7b \x7d \x7bb\x7d \x7bc" =
    [.literal "a\x7b \x7d ".toList, .expression ['b'], .literal " \x7bc".toList] := by
  decide

end DynamicBlocks
