import DynamicBlocks.Expression.Parser
import DynamicBlocks.Proofs.BracePairs
import Mathlib.Data.List.DropRight
import Mathlib.Data.List.ReduceOption

/-!
# What reading takes from a text

Texts are trimmed, cut into parts, and taken apart as calls with arguments. None of this ever adds a character, and an
argument comes without the name and the parentheses of its call, so it is shorter than the text that was read.
-/

set_option autoImplicit false

namespace DynamicBlocks

open Text

/-! ## Trimming -/

/-- Behind a character that is no blank only what follows it is trimmed. -/
theorem trimBack_append_cons (before : List Char) {c : Char} (solid : isBlank c = false) (behind : List Char) :
    trimBack (before ++ c :: behind) = before ++ c :: trimBack behind := by
  show (before ++ c :: behind).rdropWhile isBlank = before ++ c :: behind.rdropWhile isBlank
  induction behind using List.reverseRecOn with
  | nil =>
    rw [List.rdropWhile_nil]
    exact List.rdropWhile_concat_neg isBlank before c (by simp [solid])
  | append_singleton behind last ih =>
    have grouped : before ++ c :: (behind ++ [last]) = (before ++ c :: behind) ++ [last] := by simp
    rw [grouped, List.rdropWhile_concat, List.rdropWhile_concat]
    split
    · exact ih
    · exact grouped.symm

/-- Behind a character that is no blank, blanks are trimmed at the end only. -/
theorem trimChars_cons {c : Char} (solid : isBlank c = false) (cs : List Char) :
    trimChars (c :: cs) = c :: trimBack cs := by
  unfold trimChars
  rw [trimFront_cons c cs solid]
  exact trimBack_append_cons [] solid cs

/-- Characters with no blank at either end are left as they are. -/
theorem trimChars_of_ends {c last : Char} {cs behind front : List Char} (starts : cs = c :: behind)
    (solid : isBlank c = false) (ends : cs = front ++ [last]) (solidLast : isBlank last = false) : trimChars cs = cs := by
  have back : trimBack cs = cs := by
    rw [ends]
    exact trimBack_append_cons front solidLast []
  have kept : trimFront cs = cs := by
    rw [starts]
    exact trimFront_cons c behind solid
  unfold trimChars
  rw [kept, back]

/-- A text without blanks is trimmed to itself. -/
theorem trimChars_of_solid {cs : List Char} (solid : ∀ c ∈ cs, isBlank c = false) : trimChars cs = cs := by
  cases cs with
  | nil => rfl
  | cons c cs =>
    have split : c :: cs = (c :: cs).dropLast ++ [(c :: cs).getLast (List.cons_ne_nil c cs)] :=
      (List.dropLast_concat_getLast (List.cons_ne_nil c cs)).symm
    exact trimChars_of_ends rfl (solid c List.mem_cons_self) split (solid _ (List.getLast_mem _))

/-- Trimming twice is trimming once. -/
theorem trimChars_trimChars (cs : List Char) : trimChars (trimChars cs) = trimChars cs := by
  unfold trimChars
  cases front : trimFront cs with
  | nil => rfl
  | cons c rest =>
    have solid : isBlank c = false := head_trimFront cs c (by rw [front]; rfl)
    rw [show trimBack (c :: rest) = c :: trimBack rest from trimBack_append_cons [] solid rest,
      trimFront_cons c _ solid]
    show trimBack ([] ++ c :: trimBack rest) = _
    rw [trimBack_append_cons [] solid]
    exact congrArg (c :: ·) (List.rdropWhile_idempotent isBlank rest)

/-- Blanks around characters are trimmed away with those at their ends. -/
theorem trimChars_of_blank_around {before behind : List Char} (blankBefore : ∀ c ∈ before, isBlank c = true)
    (blankBehind : ∀ c ∈ behind, isBlank c = true) (cs : List Char) :
    trimChars (before ++ cs ++ behind) = trimChars cs := by
  have front (more : List Char) : trimFront (before ++ more) = trimFront more :=
    List.dropWhile_append_of_pos blankBefore
  have back (more : List Char) : trimBack (more ++ behind) = trimBack more := by
    unfold trimBack
    rw [List.reverse_append, List.dropWhile_append_of_pos fun c there => blankBehind c (List.mem_reverse.mp there)]
  unfold trimChars
  rw [List.append_assoc, front]
  cases shape : trimFront cs with
  | nil =>
    -- There are blanks only, and all are dropped from the front.
    have blank : ∀ c ∈ cs, isBlank c = true := List.dropWhile_eq_nil_iff.mp shape
    have none : trimFront (cs ++ behind) = [] := List.dropWhile_eq_nil_iff.mpr fun c there =>
      (List.mem_append.mp there).elim (blank c) (blankBehind c)
    rw [none]
  | cons c rest =>
    have kept : trimFront (cs ++ behind) = trimFront cs ++ behind := by
      unfold trimFront at shape ⊢
      rw [List.dropWhile_append, shape]
      rfl
    rw [kept, back, shape]

/-- A text does not get longer when it is trimmed. -/
theorem length_trimChars_le (cs : List Char) : (trimChars cs).length ≤ cs.length := by
  have front : (trimFront cs).length ≤ cs.length := (List.dropWhile_sublist isBlank).length_le
  have back : (trimChars cs).length ≤ (trimFront cs).length := (List.rdropWhile_prefix isBlank _).length_le
  exact back.trans front

/-! ## Cutting -/

/-- No piece between cuts is longer than all characters that are kept. -/
theorem length_of_mem_gather {marks : List Mark} {piece : List Char} (there : piece ∈ gather marks) :
    piece.length ≤ marks.reduceOption.length := by
  induction marks generalizing piece with
  | nil =>
    simp only [gather, List.mem_singleton] at there
    simp [there]
  | cons mark marks ih =>
    cases mark with
    | none =>
      rw [List.reduceOption_cons_of_none]
      simp only [gather, List.mem_cons] at there
      rcases there with rfl | there
      · simp
      · exact ih there
    | some c =>
      rw [List.reduceOption_cons_of_some, List.length_cons]
      simp only [gather] at there
      split at there
      · simp only [List.mem_singleton] at there
        simp [there]
      · rename_i first pieces gathered
        rw [gathered] at ih
        rcases List.mem_cons.mp there with rfl | there
        · have shorter := ih List.mem_cons_self
          rw [List.length_cons]
          omega
        · have shorter := ih (List.mem_cons_of_mem first there)
          omega

/-- A step along a path marks one character at most. -/
theorem PathState.length_step_le (s : PathState) (c : Char) (next : Option Char) : (s.step c next).1.length ≤ 1 := by
  have one (first second : List Mark) (P : Prop) [Decidable P] (left : first.length ≤ 1) (right : second.length ≤ 1) :
      (if P then first else second).length ≤ 1 := by
    split <;> assumption
  unfold PathState.step
  split
  · exact le_rfl
  · split
    · exact le_rfl
    · split
      · exact Nat.zero_le 1
      · split
        · exact one _ _ _ le_rfl (Nat.zero_le 1)
        · split
          · exact one _ _ _ le_rfl (Nat.zero_le 1)
          · split <;> exact le_rfl

/-- No more is marked than there are characters. -/
theorem length_pathMarks_le (s : PathState) (cs : List Char) : (pathMarks s cs).length ≤ cs.length := by
  fun_induction pathMarks s cs with
  | case1 s => simp
  | case2 s c => exact s.length_step_le c none
  | case3 s d cs ih => simpa using ih
  | case4 s c d cs _ ih =>
    have first := s.length_step_le c (some d)
    rw [List.length_append, List.length_cons]
    omega

/-- A part of a path is no longer than what is marked. -/
theorem length_of_mem_pathParts {cs part : List Char} (there : part ∈ pathParts cs) :
    part.length ≤ (pathMarks .start cs).reduceOption.length :=
  length_of_mem_gather (List.mem_filter.mp there).1

/-- A part of a path is no longer than the path. -/
theorem length_of_mem_splitPath {path part : String} (there : part ∈ splitPath path) :
    part.length ≤ path.length := by
  unfold splitPath at there
  obtain ⟨piece, inside, rfl⟩ := List.mem_map.mp there
  have kept := length_of_mem_pathParts inside
  have fewer := List.reduceOption_length_le (pathMarks .start path.toList)
  have marks := length_pathMarks_le .start path.toList
  rw [String.length_ofList, ← String.length_toList]
  omega

/-! ## Braces -/

/-- A lone expression is no longer than its template. -/
theorem length_of_standalone? {cs inner : List Char} (h : standalone? cs = some inner) : inner.length ≤ cs.length := by
  obtain ⟨rfl, -⟩ := standalone?_eq_some_iff.mp h
  unfold inBraces
  rw [List.length_cons, List.length_append]
  omega

/-- A bare expression is no longer than its text. -/
theorem length_bareExpression_le (text : String) : (bareExpression text).length ≤ text.length := by
  have trimmed := length_trimChars_le text.toList
  rw [String.length_toList] at trimmed
  unfold bareExpression
  dsimp only
  split
  · rename_i inner enclosed
    have within := length_of_standalone? enclosed
    have again := length_trimChars_le inner
    rw [String.length_ofList]
    omega
  · rw [String.length_ofList]
    exact trimmed

/-! ## Calls -/

/-- What is taken apart as a call is a name, an opening parenthesis and what follows. -/
theorem eq_of_callHead? {cs name body : List Char} (h : callHead? cs = some (name, body)) :
    cs = name ++ '(' :: body := by
  unfold callHead? at h
  have whole := List.takeWhile_append_dropWhile (p := isWord) (l := cs)
  split at h
  · cases h
  · rename_i opening _
    obtain ⟨rfl, rfl⟩ := Prod.mk.inj (Option.some.inj h)
    rw [opening] at whole
    exact whole.symm
  · cases h

/-- A part without parentheses is a key. -/
theorem ofPart_of_notMem {part : String} (unopened : '(' ∉ part.toList) : Segment.ofPart part = .key part := by
  have head : callHead? (trimChars part.toList) = none := by
    rw [Option.eq_none_iff_forall_ne_some]
    rintro ⟨name, body⟩ called
    -- A call would have its parenthesis among the characters of the part.
    have opening : '(' ∈ trimChars part.toList := by
      rw [eq_of_callHead? called]
      simp
    have inFront : '(' ∈ trimFront part.toList := (List.rdropWhile_prefix isBlank _).subset opening
    exact unopened ((List.dropWhile_sublist isBlank).subset inFront)
  unfold Segment.ofPart callParts?
  rw [head]

/-- The name and the arguments of a call are shorter than the call by its parentheses. -/
theorem length_of_callParts? {part name args : String} (h : callParts? part = some (name, args)) :
    name.length + args.length + 2 ≤ part.length := by
  have trimmed := length_trimChars_le part.toList
  rw [String.length_toList] at trimmed
  unfold callParts? at h
  split at h
  · rename_i callee body head
    split at h
    · rename_i closed
      obtain ⟨rfl, rfl⟩ := Prod.mk.inj (Option.some.inj h)
      have whole := congrArg List.length (eq_of_callHead? head)
      have filled : 0 < body.length := by
        apply List.length_pos_of_ne_nil
        rintro rfl
        cases closed
      rw [List.length_append, List.length_cons] at whole
      rw [String.length_ofList, String.length_ofList, List.length_dropLast]
      omega
    · cases h
  · cases h

/-- A piece of arguments is no longer than all of them. -/
theorem length_of_mem_splitArgs {text piece : String} (there : piece ∈ splitArgs text) :
    piece.length ≤ text.length := by
  have marks (s : ArgState) (cs : List Char) : (argMarks s cs).length = cs.length := by
    induction cs generalizing s with
    | nil => rfl
    | cons c cs ih => rw [argMarks, List.length_cons, List.length_cons, ih]
  unfold splitArgs at there
  obtain ⟨cs, inside, rfl⟩ := List.mem_map.mp there
  obtain ⟨raw, gathered, rfl⟩ := List.mem_map.mp (List.mem_filter.mp inside).1
  have shorter := length_of_mem_gather gathered
  have trimmed := length_trimChars_le raw
  have fewer := List.reduceOption_length_le (argMarks .start text.toList)
  rw [marks, String.length_toList] at fewer
  rw [String.length_ofList]
  omega

/-- The text behind the name of an argument is shorter than the argument. -/
theorem length_of_keyword? {cs name rest : List Char} (h : keyword? cs = some (name, rest)) :
    rest.length ≤ cs.length := by
  unfold keyword? at h
  dsimp only at h
  split at h
  · cases h
  · rename_i c more same
    have undollared : (c :: more).length ≤ cs.length := by
      split at same
      · rw [← same]
        exact Nat.le_succ _
      · rw [← same]
    rw [List.length_cons] at undollared
    have behind : (trimFront (more.dropWhile continuesKeyword)).length ≤ more.length :=
      (List.dropWhile_sublist isBlank).length_le.trans (List.dropWhile_sublist continuesKeyword).length_le
    split at h
    · split at h
      · rename_i colon
        rw [colon, List.length_cons] at behind
        split at h
        · cases h
        · obtain ⟨-, rfl⟩ := Prod.mk.inj (Option.some.inj h)
          omega
      · cases h
    · cases h

/-- The source of an argument is no longer than its text. -/
theorem length_source_ofText_le (raw : String) : (Argument.ofText raw).source.length ≤ raw.length := by
  have trimmed := length_trimChars_le raw.toList
  rw [String.length_toList] at trimmed
  unfold Argument.ofText
  dsimp only
  split
  · rename_i name rest named
    have behind := length_of_keyword? named
    have again := length_trimChars_le rest
    rw [String.length_ofList]
    omega
  · rw [String.length_ofList]
    exact trimmed

/-- The segments of a text are those of the parts of its bare expression. -/
theorem Expression.segments_ofText (text : String) :
    (ofText text).segments = (splitPath (bareExpression text)).map Segment.ofPart := by
  simp only [ofText]

/-- An expression is its text with its segments. -/
theorem Expression.ofText_eq_of_segments {text : String} {segments : List Segment}
    (read : (ofText text).segments = segments) : ofText text = ⟨text, segments⟩ := by
  subst read
  rfl

/-- A part that is read as a call has room for its name, its parentheses and each of its arguments. -/
theorem length_of_ofPart_eq_call {part name : String} {args : List Argument} {argument : Argument}
    (read : Segment.ofPart part = .call name args) (given : argument ∈ args) :
    name.length + argument.source.length + 2 ≤ part.length := by
  unfold Segment.ofPart at read
  split at read
  · rename_i callee inner parts
    obtain ⟨rfl, rfl⟩ := Segment.call.inj read
    obtain ⟨raw, inArgs, rfl⟩ := List.mem_map.mp given
    have shorter := length_of_callParts? parts
    have piece := length_of_mem_splitArgs inArgs
    have source := length_source_ofText_le raw
    omega
  · cases read

/-- An argument of a segment is shorter than the text that the expression is read from. -/
theorem length_argument_lt {text : String} {name : String} {args : List Argument} {argument : Argument}
    (there : .call name args ∈ (Expression.ofText text).segments) (given : argument ∈ args) :
    argument.source.length < text.length := by
  rw [Expression.segments_ofText] at there
  obtain ⟨part, inPath, read⟩ := List.mem_map.mp there
  have bare := length_bareExpression_le text
  have cut := length_of_mem_splitPath inPath
  have room := length_of_ofPart_eq_call read given
  omega

end DynamicBlocks
