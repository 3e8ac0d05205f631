import DynamicBlocks.Proofs.DefaultedReferences
import DynamicBlocks.Proofs.ParameterOrder

/-!
# Texts with parameters

A text with parameters alternates chunks and uses: a parameter is used by its name alone or with a default. Binding
replaces the uses with defaults first and then one name after the other throughout the text, the longest name first,
which comes to the same as putting each text in place of its use (`bindParams_paramText`), also where one name starts
with another. For a dollar sign stands nowhere in the text but in front of a name that is still to be replaced, none of
these names is longer than the one whose turn it is, and no word character stands behind one; so that name is found at
its own uses only.
-/

set_option autoImplicit false

namespace DynamicBlocks

open Text

/-! ## Names and chunks -/

def dollarName (word : List Char) : String :=
  String.ofList ('$' :: word)

/-- References are the same only if their names are. -/
theorem dollarName_inj {word other : List Char} : dollarName word = dollarName other ↔ word = other := by
  unfold dollarName
  rw [String.ofList_inj, List.cons.injEq, and_iff_right rfl]

/-- Whether characters make up a chunk: they hold no dollar sign and no mark of a default. -/
structure IsChunk (cs : List Char) : Prop where
  dollarless : '$' ∉ cs
  unmarked : ¬['?', '?'] <:+: cs

/-- Behind a chunk that starts like one, no mark of a default follows. -/
theorem dropPhrase?_mark_of_unmarked {cs rest : List Char} (unmarked : ¬['?', '?'] <:+: cs)
    (next : ∀ c, rest.head? = some c → c = '$') : dropPhrase? ['?', '?'] (trimFront (cs ++ rest)) = none := by
  induction cs with
  | nil =>
    cases rest with
    | nil => rfl
    | cons c rest =>
      obtain rfl := next c rfl
      rfl
  | cons c cs ih =>
    rw [List.infix_cons_iff, not_or] at unmarked
    by_cases blank : isBlank c = true
    · rw [List.cons_append, trimFront, List.dropWhile_cons_of_pos blank]
      exact ih unmarked.2
    · rw [List.cons_append, trimFront_cons c _ (by simpa using blank), Option.eq_none_iff_forall_ne_some]
      rintro marked dropped
      obtain ⟨rfl, same⟩ := List.cons.inj (dropPhrase?_eq_some.mp dropped)
      cases cs with
      | nil =>
        have dollar := next '?' (by rw [show rest = '?' :: marked from same]; rfl)
        revert dollar
        decide
      | cons d cs =>
        obtain ⟨rfl, -⟩ := List.cons.inj same
        exact unmarked.1 ⟨cs, rfl⟩

/-! ## Uses -/

/-- A use of a parameter in a text. -/
inductive ParamUse where
  | plain (word : List Char) (name : IsName word)
  | defaulted (r : DefaultedReference)

namespace ParamUse

def word : ParamUse → List Char
  | plain word _ => word
  | defaulted r => r.word

def name (use : ParamUse) : String :=
  dollarName use.word

def chars : ParamUse → List Char
  | plain word _ => '$' :: word
  | defaulted r => r.chars

/-- The text that comes in place of the use if the parameter has the given value. -/
def textOf : ParamUse → Value → Except Failure String
  | plain _ _ => replacementText
  | defaulted _ => fun v => .ok (scalarText v)

/-- Whether the parameter is bound, to a value with a text without dollar signs. -/
def Bound (params : Entries) (use : ParamUse) : Prop :=
  ∃ v text, Entries.field? params use.name = some v ∧ use.textOf v = .ok text ∧ '$' ∉ text.toList

/-- The text that comes in place of the use. -/
def textIn (params : Entries) (use : ParamUse) : String :=
  match use.textOf (Entries.field params use.name) with
  | .ok text => text
  | .error _ => ""

/-- What stands at the use once the defaults and the given names are replaced. -/
def stage (params : Entries) (gone : List (List Char)) : ParamUse → List Char
  | plain word name => if word ∈ gone then (textIn params (plain word name)).toList else '$' :: word
  | defaulted r => (textIn params (defaulted r)).toList

/-- Without parameters a plain reference stays as it is written. -/
theorem stage_plain (params : Entries) (word : List Char) (name : IsName word) :
    stage params [] (plain word name) = '$' :: word := by
  rw [stage, if_neg List.not_mem_nil]

/-- The text that comes in place of a use whose parameter is bound is that of the value, without dollar signs. -/
theorem Bound.textIn_spec {params : Entries} {use : ParamUse} (bound : use.Bound params) :
    use.textOf (Entries.field params use.name) = .ok (use.textIn params) ∧ '$' ∉ (use.textIn params).toList := by
  obtain ⟨v, text, found, written, dollarless⟩ := bound
  rw [textIn, Entries.field_of_field?_eq_some found, written]
  exact ⟨rfl, dollarless⟩

/-- At a use stands its text, or a name that is still to be replaced. -/
theorem stage_cases (params : Entries) (gone : List (List Char)) (use : ParamUse) :
    use.stage params gone = (use.textIn params).toList ∨
      ∃ word name, use = plain word name ∧ word ∉ gone ∧ use.stage params gone = '$' :: word := by
  cases use with
  | defaulted r => exact .inl rfl
  | plain word name =>
    by_cases replaced : word ∈ gone
    · exact .inl (if_pos replaced)
    · exact .inr ⟨word, name, rfl, replaced, if_neg replaced⟩

/-- Every use of a parameter starts with a dollar. -/
theorem head?_chars (use : ParamUse) (more : List Char) : (use.chars ++ more).head? = some '$' := by
  cases use <;> rfl

end ParamUse

/-- Uses, each with the chunk behind it. -/
abbrev ParamUses := List (ParamUse × List Char)

namespace ParamUses

/-- The text of uses where each is given its characters. -/
def charsWith (chars : ParamUse → List Char) (uses : ParamUses) : List Char :=
  uses.flatMap fun part => chars part.1 ++ part.2

/-- Whether behind each use stands a chunk that does not go on with it; only behind the last one may be nothing. -/
def SetApart : ParamUses → Prop
  | [] => True
  | (_, chunk) :: more => IsChunk chunk ∧ EndsDefault chunk ∧ (chunk = [] → more = []) ∧ SetApart more

def Bound (params : Entries) (uses : ParamUses) : Prop :=
  ∀ part ∈ uses, part.1.Bound params

/-- The first use and the text behind it are written in front of the others. -/
theorem charsWith_cons (chars : ParamUse → List Char) (use : ParamUse) (chunk : List Char) (more : ParamUses) :
    charsWith chars ((use, chunk) :: more) = chars use ++ (chunk ++ charsWith chars more) := by
  rw [← List.append_assoc]
  exact List.flatMap_cons

/-- Uses that are written alike make the same text. -/
theorem charsWith_congr {chars others : ParamUse → List Char} {uses : ParamUses}
    (same : ∀ part ∈ uses, chars part.1 = others part.1) : charsWith chars uses = charsWith others uses :=
  List.flatMap_congr fun part there => congrArg (· ++ part.2) (same part there)

/-- What stands behind a use does not go on with it. -/
theorem endsDefault_append {chunk : List Char} (ends : EndsDefault chunk) {more : ParamUses}
    (last : chunk = [] → more = []) (chars : ParamUse → List Char) : EndsDefault (chunk ++ charsWith chars more) := by
  intro c head
  cases chunk with
  | nil =>
    rw [last rfl] at head
    cases head
  | cons d chunk => exact ends c head

/-! ## The first step -/

/-- Only the uses with defaults are pieces of their own. -/
theorem flatMap_paramPieces {f : ParamPiece → List Char} (char : ∀ c, f (.char c) = [c])
    {stage : ParamUse → List Char} (plain : ∀ word name, stage (.plain word name) = '$' :: word)
    (defaulted : ∀ r, stage (.defaulted r) = f (.defaulted ('$' :: r.word) r.literal)) {uses : ParamUses}
    (apart : uses.SetApart) {first : List Char} (dollarless : '$' ∉ first) :
    (paramPiecesFrom 0 (first ++ uses.charsWith ParamUse.chars)).flatMap f = first ++ uses.charsWith stage := by
  have kept (cs : List Char) : (cs.map ParamPiece.char).flatMap f = cs := by
    rw [List.flatMap_map, List.flatMap_congr fun c _ => char c]
    exact List.flatMap_singleton' cs
  have passed {cs : List Char} (dollarless : '$' ∉ cs) (rest : List Char) :
      (paramPiecesFrom 0 (cs ++ rest)).flatMap f = cs ++ (paramPiecesFrom 0 rest).flatMap f := by
    have plain : ∀ c ∈ cs, c ≠ '$' := fun c there same => dollarless (same ▸ there)
    rw [paramPiecesFrom_append_plain cs plain, List.flatMap_append, kept]
  induction uses generalizing first with
  | nil => exact passed dollarless []
  | cons part more ih =>
    obtain ⟨use, chunk⟩ := part
    obtain ⟨isChunk, ends, last, apart⟩ := apart
    have behind := endsDefault_append ends last ParamUse.chars
    rw [charsWith_cons, charsWith_cons, passed dollarless]
    congr 1
    rw [← ih apart isChunk.dollarless]
    cases use with
    | plain word name =>
      have next (c : Char) (head : (charsWith ParamUse.chars more).head? = some c) : c = '$' := by
        cases more with
        | nil => cases head
        | cons part more =>
          rw [charsWith_cons, part.1.head?_chars] at head
          exact (Option.some.inj head).symm
      have free : takeDefaulted? ('$' :: (word ++ (chunk ++ charsWith ParamUse.chars more))) = none := by
        obtain ⟨taken, rest⟩ := takeWhile_of_stop name.2 fun c head => (behind c head).1
        have filled : word.isEmpty = false := by simpa using name.1
        rw [takeDefaulted?_dollar, taken, rest, filled, if_neg Bool.false_ne_true,
          dropPhrase?_mark_of_unmarked isChunk.unmarked next, Option.bind_none]
      rw [ParamUse.chars, List.cons_append, paramPiecesFrom_char free, List.flatMap_cons, char, passed name.dollarless,
        plain]
      rfl
    | defaulted r =>
      rw [ParamUse.chars, r.paramPiecesFrom_chars behind, List.flatMap_cons, defaulted]

/-! ## One name -/

section OneName

variable {word : List Char} (name : IsName word)
include name

/-- Of names that are not longer only the name itself starts with it, if what follows goes on with no name. -/
theorem prefix_name_iff {other behind : List Char} (shorter : other.length ≤ word.length)
    (ends : EndsDefault behind) : '$' :: word <+: '$' :: (other ++ behind) ↔ other = word := by
  rw [List.cons_prefix_cons, and_iff_right rfl]
  constructor
  · intro starts
    obtain ⟨more, rfl⟩ := List.prefix_of_prefix_length_le (List.prefix_append other behind) starts shorter
    cases more with
    | nil => rw [List.append_nil]
    | cons c more =>
      rw [List.prefix_append_right_inj] at starts
      obtain ⟨rest, rfl⟩ := starts
      have inside := name.2 c (List.mem_append_right other List.mem_cons_self)
      rw [(ends c rfl).1] at inside
      cases inside
  · rintro rfl
    exact List.prefix_append _ _

variable {params : Entries} {gone : List (List Char)} {uses : ParamUses} (apart : uses.SetApart)
  (bound : uses.Bound params) (shorter : ∀ part ∈ uses, part.1.word ∈ gone ∨ part.1.word.length ≤ word.length)
include apart bound shorter

/-- A name that is found is used. -/
theorem exists_plain_of_infix {first : List Char} (dollarless : '$' ∉ first)
    (found : '$' :: word <:+: first ++ uses.charsWith (ParamUse.stage params gone)) :
    ∃ part ∈ uses, part.1 = .plain word name := by
  induction uses generalizing first with
  | nil =>
    rw [infix_append_iff_of_notMem dollarless] at found
    exact absurd (List.infix_nil.mp found) (List.cons_ne_nil _ _)
  | cons part more ih =>
    obtain ⟨use, chunk⟩ := part
    obtain ⟨isChunk, ends, last, apart⟩ := apart
    have later (found : '$' :: word <:+: chunk ++ charsWith (ParamUse.stage params gone) more) :
        ∃ part ∈ (use, chunk) :: more, part.1 = .plain word name := by
      obtain ⟨part, there, same⟩ := ih apart (fun part there => bound part (List.mem_cons_of_mem _ there))
        (fun part there => shorter part (List.mem_cons_of_mem _ there)) isChunk.dollarless found
      exact ⟨part, List.mem_cons_of_mem _ there, same⟩
    rw [charsWith_cons, infix_append_iff_of_notMem dollarless] at found
    rcases use.stage_cases params gone with text | ⟨other, name', rfl, waiting, text⟩
    · rw [text, infix_append_iff_of_notMem (bound _ List.mem_cons_self).textIn_spec.2] at found
      exact later found
    · have notLonger : other.length ≤ word.length := (shorter _ List.mem_cons_self).resolve_left waiting
      rw [text, List.cons_append, List.infix_cons_iff, prefix_name_iff name notLonger (endsDefault_append ends last _),
        infix_append_iff_of_notMem name'.dollarless] at found
      rcases found with rfl | found
      · exact ⟨_, List.mem_cons_self, rfl⟩
      · exact later found

/-- Replacing a name replaces its uses. -/
theorem replaceAll_stage {first : List Char} (dollarless : '$' ∉ first) :
    replaceAll ('$' :: word) ((ParamUse.plain word name).textIn params).toList
        (first ++ uses.charsWith (ParamUse.stage params gone)) =
      first ++ uses.charsWith (ParamUse.stage params (word :: gone)) := by
  have some_char : '$' :: word ≠ [] := List.cons_ne_nil _ _
  induction uses generalizing first with
  | nil =>
    rw [replaceAll_append_of_notMem dollarless]
    exact congrArg (first ++ ·) (replaceAll_nil _ some_char)
  | cons part more ih =>
    obtain ⟨use, chunk⟩ := part
    obtain ⟨isChunk, ends, last, apart⟩ := apart
    have later := ih apart (fun part there => bound part (List.mem_cons_of_mem _ there))
      (fun part there => shorter part (List.mem_cons_of_mem _ there)) isChunk.dollarless
    rw [charsWith_cons, charsWith_cons, replaceAll_append_of_notMem dollarless, ← later]
    congr 1
    rcases use.stage_cases params gone with text | ⟨other, name', rfl, waiting, text⟩
    · have done : use.stage params (word :: gone) = (use.textIn params).toList := by
        rcases use.stage_cases params (word :: gone) with done | ⟨other, name', rfl, waiting, -⟩
        · exact done
        · rw [List.mem_cons, not_or] at waiting
          rw [ParamUse.stage, if_neg waiting.2] at text
          exact absurd (text ▸ List.mem_cons_self) (bound _ List.mem_cons_self).textIn_spec.2
      rw [text, done, replaceAll_append_of_notMem (bound _ List.mem_cons_self).textIn_spec.2]
    · have notLonger : other.length ≤ word.length := (shorter _ List.mem_cons_self).resolve_left waiting
      rw [text]
      by_cases same : other = word
      · subst same
        rw [replaceAll_append _ some_char, ParamUse.stage, if_pos List.mem_cons_self]
      · have notHere :
            ¬ '$' :: word <+: '$' :: (other ++ (chunk ++ charsWith (ParamUse.stage params gone) more)) :=
          fun starts => same ((prefix_name_iff name notLonger (endsDefault_append ends last _)).mp starts)
        have still : other ∉ word :: gone := by
          rw [List.mem_cons, not_or]
          exact ⟨same, waiting⟩
        rw [List.cons_append, replaceAll_cons _ some_char notHere, replaceAll_append_of_notMem name'.dollarless,
          ParamUse.stage, if_neg still]
        rfl

/-- Whether or not the name is found, its uses are replaced. -/
theorem replaceName_stage {first : List Char} (dollarless : '$' ∉ first) :
    replaceName (dollarName word, Entries.field params (dollarName word))
        (String.ofList (first ++ uses.charsWith (ParamUse.stage params gone))) =
      .ok (String.ofList (first ++ uses.charsWith (ParamUse.stage params (word :: gone)))) := by
  have toName : (dollarName word).toList = '$' :: word := String.toList_ofList
  have replaced : replace (dollarName word) ((ParamUse.plain word name).textIn params)
      (String.ofList (first ++ uses.charsWith (ParamUse.stage params gone))) =
        String.ofList (first ++ uses.charsWith (ParamUse.stage params (word :: gone))) := by
    rw [← replaceAll_stage name apart bound shorter dollarless, replace, toName, String.toList_ofList]
  unfold replaceName
  split
  · rename_i found
    rw [contains_iff, toName, String.toList_ofList] at found
    obtain ⟨part, there, used⟩ := exists_plain_of_infix name apart bound shorter dollarless found
    have text : replacementText (Entries.field params (dollarName word)) =
        .ok ((ParamUse.plain word name).textIn params) := by
      have spec := (bound part there).textIn_spec.1
      rw [used] at spec
      exact spec
    rw [text, ← replaced]
    rfl
  · rename_i absent
    rw [replace_of_not_contains (by rw [toName]; exact List.cons_ne_nil _ _) absent] at replaced
    rw [replaced]
    rfl

end OneName

/-! ## All names -/

section AllNames

variable {params : Entries} {uses : ParamUses} (apart : uses.SetApart) (bound : uses.Bound params)
include apart bound

/-- One name after the other, the longest first, comes to all uses at once: an induction on the names, where every use
is either replaced or still to come. -/
theorem replaceNames_stage {names : List (String × Value)} (sorted : names.Pairwise fun a b => longerFirst a b = true)
    (words : ∀ param ∈ names, ∃ word, IsName word ∧ param.1 = dollarName word)
    (values : ∀ param ∈ names, param.2 = Entries.field params param.1) {gone : List (List Char)}
    (waiting : ∀ part ∈ uses, part.1.word ∈ gone ∨ part.1.name ∈ names.map (·.1)) {first : List Char}
    (dollarless : '$' ∉ first) :
    replaceNames names (String.ofList (first ++ uses.charsWith (ParamUse.stage params gone))) =
      .ok (String.ofList (first ++ uses.charsWith fun use => (use.textIn params).toList)) := by
  induction names generalizing gone with
  | nil =>
    have done : uses.charsWith (ParamUse.stage params gone) =
        uses.charsWith fun use => (use.textIn params).toList := by
      refine charsWith_congr fun part there => ?_
      rcases part.1.stage_cases params gone with text | ⟨word, name, same, still, -⟩
      · exact text
      · have replaced := (waiting part there).resolve_right List.not_mem_nil
        rw [same] at replaced
        exact absurd replaced still
    rw [done]
    rfl
  | cons param names ih =>
    obtain ⟨word, name, named⟩ := words param List.mem_cons_self
    rw [List.pairwise_cons] at sorted
    have shorter : ∀ part ∈ uses, part.1.word ∈ gone ∨ part.1.word.length ≤ word.length := by
      intro part there
      refine (waiting part there).imp_right fun among => ?_
      obtain ⟨other, among, same⟩ := List.mem_map.mp among
      have length : other.1.length ≤ param.1.length := by
        rcases List.mem_cons.mp among with rfl | among
        · exact le_refl _
        · simpa [longerFirst] using sorted.1 other among
      rw [same, named] at length
      simpa [ParamUse.name, dollarName] using length
    have entry : param = (dollarName word, Entries.field params (dollarName word)) :=
      Prod.ext named (by rw [values param List.mem_cons_self, named])
    have step := replaceName_stage name apart bound shorter dollarless
    rw [← entry] at step
    show (replaceName param _ >>= replaceNames names) = _
    rw [step]
    refine ih sorted.2 (fun other there => words other (List.mem_cons_of_mem _ there))
      (fun other there => values other (List.mem_cons_of_mem _ there)) fun part there => ?_
    rcases waiting part there with replaced | among
    · exact .inl (List.mem_cons_of_mem _ replaced)
    · rcases List.mem_cons.mp among with same | among
      · have own : part.1.word = word := dollarName_inj.mp (same.trans named)
        rw [own]
        exact .inl List.mem_cons_self
      · exact .inr among

end AllNames

end ParamUses

/-! ## Texts -/

/-- A text with parameters: a chunk, and uses with chunks behind them. -/
structure ParamText where
  first : List Char
  uses : ParamUses
  isChunk : IsChunk first
  apart : uses.SetApart

namespace ParamText

/-- The text as it is written. -/
def text (t : ParamText) : String :=
  String.ofList (t.first ++ t.uses.charsWith ParamUse.chars)

/-- The text with every use replaced. -/
def filledIn (params : Entries) (t : ParamText) : String :=
  String.ofList (t.first ++ t.uses.charsWith fun use => (use.textIn params).toList)

/-- The text that is a name and nothing else. -/
def alone {word : List Char} (name : IsName word) : ParamText where
  first := []
  uses := [(.plain word name, [])]
  isChunk := ⟨by decide, by decide⟩
  apart := ⟨⟨by decide, by decide⟩, endsDefault_nil, fun _ => rfl, trivial⟩

variable {params : Entries} (t : ParamText)

/-- The text of the first step is a name only if the text is one. -/
theorem eq_alone_of_name {word : List Char} (name : IsName word) (bound : t.uses.Bound params)
    (same : t.first ++ t.uses.charsWith (ParamUse.stage params []) = '$' :: word) : t = alone name := by
  obtain ⟨first, uses, isChunk, apart⟩ := t
  dsimp only at same bound
  have noDollar {cs more : List Char} (dollarless : '$' ∉ cs) (same : cs ++ more = '$' :: word) : cs = [] := by
    cases cs with
    | nil => rfl
    | cons c cs => exact absurd ((List.cons.inj same).1 ▸ List.mem_cons_self) dollarless
  obtain rfl := noDollar isChunk.dollarless same
  cases uses with
  | nil => cases same
  | cons part more =>
    obtain ⟨use, chunk⟩ := part
    obtain ⟨isChunk, ends, last, apart⟩ := apart
    rw [List.nil_append, ParamUses.charsWith_cons] at same
    rcases use.stage_cases params [] with text | ⟨other, name', rfl, -, text⟩
    · have emptyText := noDollar (text ▸ (bound _ List.mem_cons_self).textIn_spec.2) same
      rw [emptyText, List.nil_append] at same
      obtain rfl := noDollar isChunk.dollarless same
      obtain rfl := last rfl
      cases same
    · rw [text, List.cons_append, List.cons.injEq] at same
      cases chunk with
      | nil =>
        obtain rfl := last rfl
        obtain rfl : other = word := by simpa [ParamUses.charsWith] using same.2
        rfl
      | cons c chunk =>
        have inside := name.2 c (same.2 ▸ List.mem_append_right other List.mem_cons_self)
        rw [(ends c rfl).1] at inside
        cases inside

/-- Filling in defaults turns every use into its form behind this stage. -/
theorem bindDefaulted_text :
    bindDefaulted params t.text = String.ofList (t.first ++ t.uses.charsWith (ParamUse.stage params [])) := by
  unfold bindDefaulted paramPieces text
  rw [String.toList_ofList]
  exact congrArg String.ofList (ParamUses.flatMap_paramPieces (fun _ => rfl) (ParamUse.stage_plain params)
    (fun _ => rfl) t.apart t.isChunk.dollarless)

end ParamText

/-- Whether the keys are names behind dollar signs, each there once. -/
structure Entries.NamedByWords (params : Entries) : Prop extends Entries.Named params where
  words : ∀ entry ∈ params, ∃ word, IsName word ∧ entry.1 = .text (dollarName word)

/-- A text is bound by putting each text in place of its use, and a name alone by its value, whatever other parameters
there are. -/
theorem bindParams_paramText {params : Entries} (named : params.NamedByWords) :
    (∀ (word : List Char) (name : IsName word) (v : Value), Entries.field? params (dollarName word) = some v →
      bindParams params (.text (ParamText.alone name).text) = .ok v) ∧
    ∀ t : ParamText, (∀ (word : List Char) (name : IsName word), t ≠ .alone name) → t.uses.Bound params →
      bindParams params (.text t.text) = .ok (.text (t.filledIn params)) := by
  constructor
  · intro word name v found
    have single : bindDefaulted params (ParamText.alone name).text = dollarName word := by
      rw [ParamText.bindDefaulted_text]
      exact congrArg String.ofList (by simp [ParamText.alone, ParamUses.charsWith, ParamUse.stage_plain])
    show bindText params _ = _
    unfold bindText
    dsimp only
    rw [single, found]
    rfl
  · intro t more bound
    have absent : Entries.field? params (bindDefaulted params t.text) = none := by
      refine Option.eq_none_iff_forall_ne_some.mpr fun v found => ?_
      obtain ⟨word, name, same⟩ := named.words _ (named.field?_eq_some_iff.mp found)
      rw [t.bindDefaulted_text, Value.text.injEq] at same
      exact more word name (t.eq_alone_of_name name bound (String.ofList_injective same))
    obtain ⟨fields, rfl, -⟩ := named.exists_fields
    have among {param : String × Value} (there : param ∈ fields.mergeSort longerFirst) :
        (.text param.1, param.2) ∈ fields.map Json.textEntry :=
      List.mem_map_of_mem ((List.mergeSort_perm fields longerFirst).mem_iff.mp there)
    have replaced : replaceNames (fields.mergeSort longerFirst)
        (String.ofList (t.first ++ t.uses.charsWith (ParamUse.stage (fields.map Json.textEntry) []))) =
          .ok (t.filledIn (fields.map Json.textEntry)) := by
      refine ParamUses.replaceNames_stage t.apart bound (pairwise_longerFirst fields) (fun param there => ?_)
        (fun param there => ?_) (fun part there => .inr ?_) t.isChunk.dollarless
      · obtain ⟨word, name, same⟩ := named.words _ (among there)
        exact ⟨word, name, Value.text.inj same⟩
      · exact (Entries.field_of_field?_eq_some (named.field?_eq_some_iff.mpr (among there))).symm
      · obtain ⟨v, -, found, -⟩ := bound part there
        obtain ⟨field, there, same⟩ := List.mem_map.mp (named.field?_eq_some_iff.mp found)
        have name : field.1 = part.1.name := Value.text.inj (congrArg Prod.fst same)
        exact List.mem_map.mpr ⟨field, (List.mergeSort_perm fields longerFirst).mem_iff.mpr there, name⟩
    rw [t.bindDefaulted_text] at absent
    exact bindText_of_replaceNames t.bindDefaulted_text absent (longestFirst_map_textEntry fields) replaced

/-- Parameters one of whose names starts with another. -/
def pairWithPrefix : Entries :=
  [(.text "$a", .text "x"), (.text "$ab", .list [.text "y"])]

/-- A letter is a name. -/
theorem isName_a : IsName ['a'] :=
  isName_singleton (by decide)

/-- Two letters are one. -/
theorem isName_ab : IsName ['a', 'b'] := by
  simp [IsName]
  decide

/-- The two parameters have words for names, of which one starts the other. -/
theorem namedByWords_pairWithPrefix : pairWithPrefix.NamedByWords where
  texts := by simp [pairWithPrefix]
  nodup := by simp [pairWithPrefix]
  words entry there := by
    simp only [pairWithPrefix, List.mem_cons, List.not_mem_nil, or_false] at there
    rcases there with rfl | rfl
    · exact ⟨_, isName_a, rfl⟩
    · exact ⟨_, isName_ab, rfl⟩

/-- The text "$ab-$a, $a ?? 2". -/
def textWithPrefix : ParamText where
  first := []
  uses :=
    have two : IsDefault ['2'] := .digit (by decide)
    [(.plain _ isName_ab, ['-']), (.plain _ isName_a, [',', ' ']), (.defaulted (.spaced isName_a two), [])]
  isChunk := ⟨by decide, by decide⟩
  apart :=
    ⟨⟨by decide, by decide⟩, endsDefault_cons (by decide) (by decide), by simp,
      ⟨by decide, by decide⟩, endsDefault_cons (by decide) (by decide), by simp,
      ⟨by decide, by decide⟩, endsDefault_nil, fun _ => rfl, trivial⟩

/-- The shorter name takes nothing away from the longer one. -/
theorem bindParams_paramText_prefix :
    bindParams pairWithPrefix (.text "$ab") = .ok (.list [.text "y"]) ∧
      bindParams pairWithPrefix (.text "$ab-$a, $a ?? 2") = .ok (.text "[\"y\"]-x, x") := by
  obtain ⟨alone, texts⟩ := bindParams_paramText namedByWords_pairWithPrefix
  have bound : textWithPrefix.uses.Bound pairWithPrefix := by
    intro part there
    simp only [textWithPrefix, List.mem_cons, List.not_mem_nil, or_false] at there
    rcases there with rfl | rfl | rfl
    · exact ⟨.list [.text "y"], "[\"y\"]", by cbv, by cbv, by decide⟩
    · exact ⟨.text "x", "x", by cbv, by cbv, by decide⟩
    · exact ⟨.text "x", "x", by cbv, by cbv, by decide⟩
  have more (word : List Char) (name : IsName word) : textWithPrefix ≠ .alone name := by
    intro same
    have uses : 3 = 1 := congrArg (fun t => t.uses.length) same
    cases uses
  have filled : textWithPrefix.filledIn pairWithPrefix = "[\"y\"]-x, x" := by cbv
  refine ⟨alone _ isName_ab _ (by cbv), ?_⟩
  rw [← filled]
  exact texts textWithPrefix more bound

end DynamicBlocks
