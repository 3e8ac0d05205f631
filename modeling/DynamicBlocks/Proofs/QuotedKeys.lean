import DynamicBlocks.Proofs.ArgumentNesting
import DynamicBlocks.Proofs.TargetValues
import DynamicBlocks.Proofs.WrittenCalls

/-!
# Quoted keys

A key in quotes and brackets is one part of a path, whatever characters it holds. A part does not say that it was
quoted, though: one that looks like a call is read as a call and applied to the mapping. So a quoted key leads to what
the mapping holds under it unless it looks like a call; then it does so only if the call happens to come to the same.
-/

set_option autoImplicit false

namespace DynamicBlocks

open Text

/-- A key in quotes and brackets. -/
def bracketed (key : List Char) : List Char :=
  '[' :: '\'' :: (key ++ ['\'', ']'])

/-- A source followed by a key in quotes and brackets. -/
def quotedKey (root key : String) : String :=
  root ++ "['" ++ key ++ "']"

/-! ## Reading brackets -/

/-- Whether a part of a path ends in front of a text: there is none, or it starts with a dot or a bracket. -/
def StartsSegment (rest : List Char) : Prop :=
  ∀ c ∈ rest.head?, c = '.' ∨ c = '['

/-- A dot starts a segment. -/
theorem startsSegment_dot (cs : List Char) : StartsSegment ('.' :: cs) :=
  fun _ first => .inl (Option.some.inj first).symm

/-- So does an opening bracket. -/
theorem startsSegment_bracket (cs : List Char) : StartsSegment ('[' :: cs) :=
  fun _ first => .inr (Option.some.inj first).symm

/-- Texts that start segments do so one after the other. -/
theorem StartsSegment.append {cs ds : List Char} (front : StartsSegment cs) (behind : StartsSegment ds) :
    StartsSegment (cs ++ ds) := by
  cases cs with
  | nil => exact behind
  | cons c cs => exact front

/-- What starts a segment does not start with a parenthesis. -/
theorem StartsSegment.head?_ne_paren {rest : List Char} (starts : StartsSegment rest) : rest.head? ≠ some '(' := by
  intro glued
  rcases starts '(' glued with same | same <;> cases same

/-- An opening bracket is left out of the parts. -/
theorem pathMarks_bracket (rest : List Char) :
    pathMarks .start ('[' :: rest) = none :: pathMarks ⟨0, 1, none⟩ rest := by
  rw [pathMarks_cons (by decide)]
  rfl

/-- A closing bracket is left out, and so that a part ends with it, unless a parenthesis follows. -/
theorem pathMarks_closingBracket (rest : List Char) :
    pathMarks ⟨0, 1, none⟩ (']' :: rest) = (if rest.head? = some '(' then [] else [none]) ++ pathMarks .start rest := by
  have step (next : Option Char) :
      PathState.step ⟨0, 1, none⟩ ']' next = (if next = some '(' then [] else [none], .start) := by
    by_cases glued : next = some '('
    · subst glued
      rfl
    · simp [PathState.step, PathState.turnsQuote, PathState.start, glued]
  rw [pathMarks_cons (by decide), step]

/-- A text that stands alone is the first part, in front of whatever starts a segment. -/
theorem pathParts_append {part : List Char} (alone : StandsAlone part) (filled : part ≠ []) {rest : List Char}
    (starts : StartsSegment rest) : pathParts (part ++ rest) = part :: pathParts rest := by
  cases rest with
  | nil =>
    rw [List.append_nil, pathParts_of_standsAlone alone filled]
    rfl
  | cons c rest =>
    rcases starts c rfl with rfl | rfl
    · exact pathParts_append_of_cut alone filled (pathMarks_dot rest)
    · exact pathParts_append_of_cut alone filled (pathMarks_bracket rest)

/-- Characters between cuts are a part. -/
theorem pathParts_between {cs part rest : List Char} (filled : part ≠ [])
    (marks : pathMarks .start cs = none :: (part.map some ++ none :: pathMarks .start rest)) :
    pathParts cs = part :: pathParts rest := by
  have empty (marks : List Mark) : gather (none :: marks) = [] :: gather marks := rfl
  unfold pathParts
  rw [marks, empty, gather_append_cut, gather_map_some, List.filter_cons_of_neg (by decide), List.singleton_append,
    List.filter_cons_of_pos (by simpa using filled)]

/-- In quotes and brackets every character is kept up to the next quote. -/
theorem pathMarks_inQuotes {cs : List Char} (plain : ∀ c ∈ cs, c ≠ '\'' ∧ c ≠ '\\') (rest : List Char) :
    pathMarks ⟨0, 1, some '\''⟩ (cs ++ rest) = cs.map some ++ pathMarks ⟨0, 1, some '\''⟩ rest := by
  apply pathMarks_of_step
  intro c there
  obtain ⟨quote, escape⟩ := plain c there
  refine ⟨escape, fun next => ?_⟩
  simp [PathState.step, PathState.turnsQuote, PathState.isOutside, Ne.symm quote]

section

variable {key : List Char} (plain : ∀ c ∈ key, c ≠ '\'' ∧ c ≠ '\\')
include plain

/-- A key in brackets is marked between the brackets, which are left out. -/
theorem pathMarks_bracketed (rest : List Char) :
    pathMarks .start (bracketed key ++ rest) =
      none :: (key.map some ++ ((if rest.head? = some '(' then [] else [none]) ++ pathMarks .start rest)) := by
  have split : bracketed key ++ rest = '[' :: '\'' :: (key ++ '\'' :: ']' :: rest) := by
    unfold bracketed
    simp
  have opening (more : List Char) : pathMarks ⟨0, 1, none⟩ ('\'' :: more) = pathMarks ⟨0, 1, some '\''⟩ more := by
    rw [pathMarks_cons (by decide)]
    rfl
  have closing : pathMarks ⟨0, 1, some '\''⟩ ('\'' :: ']' :: rest) = pathMarks ⟨0, 1, none⟩ (']' :: rest) := by
    rw [pathMarks_cons (by decide)]
    rfl
  rw [split, pathMarks_bracket, opening, pathMarks_inQuotes plain, closing, pathMarks_closingBracket]

/-- A key in quotes and brackets is a part of its own in front of another segment. -/
theorem pathParts_bracketed (filled : key ≠ []) {rest : List Char} (starts : StartsSegment rest) :
    pathParts (bracketed key ++ rest) = key :: pathParts rest := by
  have marks := pathMarks_bracketed plain rest
  rw [if_neg starts.head?_ne_paren] at marks
  exact pathParts_between filled marks

end

/-- A name in quotes and brackets is read as the name alone where its call follows. -/
theorem pathParts_bracketed_paren {name : List Char} (words : ∀ c ∈ name, isWord c = true) (more : List Char) :
    pathParts (bracketed name ++ '(' :: more) = pathParts (name ++ '(' :: more) := by
  have unsigned : ∀ c ∈ name, c ∉ signs := fun c there => notMem_signs_of_isWord (words c there)
  have plain : ∀ c ∈ name, c ≠ '\'' ∧ c ≠ '\\' := fun c there =>
    ⟨ne_of_notMem_signs (unsigned c there) (by decide), ne_of_notMem_signs (unsigned c there) (by decide)⟩
  unfold pathParts
  rw [pathMarks_bracketed plain, List.head?_cons, if_pos rfl, List.nil_append, pathMarks_plain unsigned]
  rfl

/-! ## Reading a quoted key -/

/-- The characters of a path that takes a quoted key of a root. -/
theorem toList_quotedKey (root key : String) : (quotedKey root key).toList = root.toList ++ bracketed key.toList := by
  unfold quotedKey bracketed
  rw [String.toList_append, String.toList_append, String.toList_append]
  simp

section

variable {root key : String} (named : isName root.toList = true) (filled : key ≠ "")
  (plain : ∀ c ∈ key.toList, c ≠ '\'' ∧ c ≠ '\\')
include named filled plain

/-- Its parts are the root and the key without quotes. -/
theorem pathParts_quotedKey : pathParts (quotedKey root key).toList = [root.toList, key.toList] := by
  have rooted : root.toList ≠ [] := by
    obtain ⟨c, cs, shape, -⟩ := exists_cons_of_isName named
    rw [shape]
    exact List.cons_ne_nil c cs
  have written : key.toList ≠ [] := fun none => filled (String.toList_eq_nil_iff.mp none)
  have starts : StartsSegment (bracketed key.toList) := startsSegment_bracket _
  have last : pathParts (bracketed key.toList ++ []) = _ := pathParts_bracketed plain written nofun
  rw [List.append_nil] at last
  rw [toList_quotedKey, pathParts_append (standsAlone_key (isKey_of_isName named)) rooted starts, last]
  rfl

/-- Its segments are the root and whatever the key is read as. -/
theorem segments_quotedKey :
    (Expression.ofText (quotedKey root key)).segments = [.key root, Segment.ofPart key] := by
  obtain ⟨c, cs, shape, word⟩ := exists_cons_of_isName named
  have whole := toList_quotedKey root key
  have unbraced : c ≠ '\x7b' := ne_of_notMem_signs (notMem_signs_of_isWord word) (by decide)
  have first : (quotedKey root key).toList = c :: (cs ++ bracketed key.toList) := by
    rw [whole, shape]
    rfl
  have ends : (quotedKey root key).toList = (root.toList ++ '[' :: '\'' :: (key.toList ++ ['\''])) ++ [']'] := by
    rw [whole]
    simp [bracketed]
  rw [segments_of_ends first (isBlank_of_isWord word) unbraced ends (by decide),
    pathParts_quotedKey named filled plain, List.map_cons, List.map_singleton, String.ofList_toList, String.ofList_toList,
    ofPart_key (isKey_of_isName named)]

end

/-! ## What a quoted key leads to -/

/-- What a part of a path makes of a value that is no loop reference: a call is applied, and a key leads to what the
value holds under it, to null if to nothing. -/
def Value.atPart (call : Value → String → List Argument → Except Failure Value) (v : Value) (part : String) :
    Except Failure Value :=
  match Segment.ofPart part with
  | .call name args => call v name args >>= settle false
  | .key name =>
    match v.lookup? name with
    | some w => settle false w
    | none => .ok .null

/-- A value on the way of an expression is seen as what it stands for, and then the parts act on it. -/
theorem walk_ofPart (call : Value → String → List Argument → Except Failure Value) (v : Value) (part : String) :
    (do
      match ← walk call v [Segment.ofPart part] with
      | some w => settle false w
      | none => pure .null) = v.unwrap >>= fun w => w.atPart call part := by
  unfold Value.atPart
  cases Segment.ofPart part with
  | key name =>
    rw [walk, bind_assoc]
    apply bind_congr
    intro w
    dsimp only
    cases w.lookup? name <;> rfl
  | call name args =>
    rw [walk, bind_assoc]
    apply bind_congr
    intro w
    rw [bind_assoc]
    rfl

/-- A part that is read as a key is the name of this key. -/
theorem Segment.eq_of_ofPart_eq_key {part name : String} (read : ofPart part = .key name) : name = part := by
  unfold ofPart at read
  split at read
  · cases read
  · exact (Segment.key.inj read).symm

/-- What a mapping has under a key: a value that is no loop reference, or nothing, also not under the number that the
key writes, and that is null. -/
inductive Entries.HasUnder (entries : Entries) (key : String) : Value → Prop where
  | held {v : Value} (there : Entries.field? entries key = some v) (plain : LoopRef.ofValue? v = none) :
      HasUnder entries key v
  | missing (unnamed : Entries.field? entries key = none)
      (unnumbered : (index? key).bind (fun n => Entries.get? entries (.int n)) = none) : HasUnder entries key .null

section

variable {entries : Entries} {key : String} {v : Value}

/-- A part that is not read as a call takes the value under its key. -/
theorem Entries.HasUnder.atPart (has : entries.HasUnder key v) (call : Value → String → List Argument → Except Failure Value)
    (uncalled : ∀ name args, Segment.ofPart key ≠ .call name args) : (Value.map entries).atPart call key = .ok v := by
  unfold Value.atPart
  cases read : Segment.ofPart key with
  | call name args => exact absurd read (uncalled name args)
  | key name =>
    obtain rfl := Segment.eq_of_ofPart_eq_key read
    dsimp only
    cases has with
    | held there plain =>
      rw [Value.lookup?, there]
      exact Engine.unwrap_of_noLoop plain
    | missing unnamed unnumbered => rw [Value.lookup?, unnamed, unnumbered]

/-- A mapping that is marked as a loop reference stands for the list in it. -/
theorem unwrap_of_marked {loop : LoopRef} (marked : LoopRef.ofValue? (.map entries) = some loop) :
    (Value.map entries).unwrap = .ok loop.data := by
  unfold Value.unwrap
  rw [marked]
  simp only [LoopRef.ofValue?] at marked
  split at marked
  · obtain rfl := Option.some.inj marked
    dsimp only
    cases Entries.field entries "data" <;> rfl
  · cases marked

end

section

variable {table : ModifierTable} {sources : List Source} {root key : String} (named : isName root.toList = true)
  (filled : key ≠ "") (plain : ∀ c ∈ key.toList, c ≠ '\'' ∧ c ≠ '\\')
include named filled plain

/-- A quoted key acts as a part of a path on what the source stands for. -/
theorem resolve_quotedKey {m : Value} (means : findSource? root sources = some m) :
    resolve table sources (.ofText (quotedKey root key)) false =
      m.unwrap >>= fun w => w.atPart (applyModifier table sources) key := by
  have read := segments_quotedKey named filled plain
  rw [resolve_ofText]
  unfold Expression.resolveWith Expression.rootCall? Expression.root
  rw [read]
  dsimp only [List.isEmpty_cons, List.head?_cons, Segment.name]
  rw [means]
  exact walk_ofPart (applyModifier table sources) m key

/-- A quoted key leads to what the mapping has under it exactly if it does not look like a call, or if the call comes to
the same. In a mapping that is marked as a loop reference it leads to what the list has that the mapping stands for. -/
theorem resolve_quotedKey_iff {entries : Entries} (means : findSource? root sources = some (.map entries)) {v : Value}
    (has : entries.HasUnder key v) :
    (entries.isLoop = false →
      (resolve table sources (.ofText (quotedKey root key)) false = .ok v ↔
        ∀ name args, Segment.ofPart key = .call name args →
          (applyModifier table sources (.map entries) name args >>= settle false) = .ok v)) ∧
      ∀ loop, LoopRef.ofValue? (.map entries) = some loop →
        resolve table sources (.ofText (quotedKey root key)) false =
          loop.data.atPart (applyModifier table sources) key := by
  have resolved : resolve table sources (.ofText (quotedKey root key)) false = _ :=
    resolve_quotedKey named filled plain means
  constructor
  · intro unmarked
    have itself : LoopRef.ofValue? (.map entries) = none := LoopRef.ofValue?_map_eq_none unmarked
    have there : (Value.map entries).unwrap = .ok (.map entries) := Engine.unwrap_of_noLoop itself
    have acts : resolve table sources (.ofText (quotedKey root key)) false =
        (Value.map entries).atPart (applyModifier table sources) key := by
      rw [resolved, there]
      rfl
    rw [acts]
    constructor
    · intro leads name args called
      unfold Value.atPart at leads
      rw [called] at leads
      exact leads
    · intro alike
      cases read : Segment.ofPart key with
      | key name =>
        apply has.atPart
        intro name args called
        rw [read] at called
        cases called
      | call name args =>
        unfold Value.atPart
        rw [read]
        exact alike name args read
  · intro loop marked
    rw [resolved, unwrap_of_marked marked]
    rfl

end

/-- A key with a dot, parentheses and brackets is found. -/
theorem resolve_quotedKey_iff_signs :
    resolve builtinModifiers [⟨.text "r", .map [(.text "first().x[0]", .text "v")]⟩]
      (.ofText (quotedKey "r" "first().x[0]")) false = .ok (.text "v") := by
  have alone : Segment.ofPart "first().x[0]" = .key "first().x[0]" := by decide +kernel
  have there : Entries.HasUnder [(.text "first().x[0]", .text "v")] "first().x[0]" (.text "v") := .held (by cbv) rfl
  refine ((resolve_quotedKey_iff (by decide +kernel) (by decide) (by simp) (findSource?_append_self "r" [] _) there).1
    (by cbv)).mpr ?_
  intro name args called
  rw [alone] at called
  cases called

/-- A key that looks like a call is not looked up but applied. -/
theorem resolve_first_call :
    resolve builtinModifiers [⟨.text "r", .map [(.text "first()", .text "v")]⟩] (.ofText "r['first()']") false ≠
      .ok (.text "v") := by
  have null : resolve builtinModifiers [⟨.text "r", .map [(.text "first()", .text "v")]⟩] (.ofText "r['first()']") false =
      .ok .null := by cbv
  rw [null]
  intro same
  cases same

end DynamicBlocks
