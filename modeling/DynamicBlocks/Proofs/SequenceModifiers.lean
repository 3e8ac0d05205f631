import DynamicBlocks.Modifier.Builtin
import DynamicBlocks.Proofs.DisplayedTexts
import DynamicBlocks.Proofs.IntegerTexts
import DynamicBlocks.Proofs.TextReplacement
import DynamicBlocks.Proofs.WrittenCalls

/-!
# Taking sequences apart

Lists and texts are cut at an index, asked for one element, turned around, joined and split. Slices clamp their bounds
and an element needs an index inside, but both count alike: the parts before and behind an index make the whole, the
element at an index is the first of the slice from there, and turned around an index is counted from the other end. All
this holds of the modifiers as long as a double is near the index (`Double.isFinite_ofInt_iff`); they refuse numbers
beyond. Splitting undoes joining though the separators differ, for the blank behind a comma is trimmed with those around
the pieces.
-/

set_option autoImplicit false

namespace DynamicBlocks

open Text

/-- A built-in modifier called on a value with arguments by place. -/
def callBuiltin (name : String) (v : Value) (args : List Value) : Except Failure Value :=
  match builtinModifiers.get? name with
  | some (.plain run) => run v ⟨args, []⟩
  | _ => .error .wrongType

/-- Whether two calls give one value. -/
def GiveOneValue (call other : Except Failure Value) : Prop :=
  ∃ v, call = .ok v ∧ other = .ok v

/-! ## Indexes of lists -/

section Lists

variable {α : Type} (items : List α) (index : Int)

/-- A slice without an end drops what is in front of it. -/
theorem sliceOf_none : sliceOf items index none = items.drop (clampBound items.length index) := by
  unfold sliceOf
  dsimp only
  rw [List.take_length]

/-- The element at an index is the first of the slice from there, if the index is inside. -/
theorem elementAt?_eq_head? :
    elementAt? items index =
      if -(items.length : Int) ≤ index ∧ index < items.length then (sliceOf items index none).head? else none := by
  rw [sliceOf_none, List.head?_drop]
  unfold elementAt? clampBound
  split
  · rename_i positive
    split
    · rename_i inside
      rw [if_neg (by omega), Nat.min_eq_left (by omega)]
    · exact List.getElem?_eq_none (by omega)
  · split
    · rw [if_pos (by omega), if_pos (by omega)]
    · rw [if_neg (by omega)]

/-- The element at zero is the first one. -/
theorem elementAt?_zero : elementAt? items 0 = items.head? := by
  unfold elementAt?
  rw [if_pos (le_refl 0), List.head?_eq_getElem?]
  rfl

/-- Turned around, an index is counted from the other end. -/
theorem elementAt?_reverse : elementAt? items.reverse index = elementAt? items (-1 - index) := by
  unfold elementAt?
  rw [List.length_reverse]
  by_cases positive : 0 ≤ index
  · have negative : ¬0 ≤ -1 - index := by omega
    rw [if_pos positive, if_neg negative]
    split
    · rw [List.getElem?_reverse (by omega)]
      congr 1
      omega
    · exact List.getElem?_eq_none (by rw [List.length_reverse]; omega)
  · have fromFront : 0 ≤ -1 - index := by omega
    rw [if_neg positive, if_pos fromFront]
    split
    · rw [List.getElem?_reverse (by omega)]
      congr 1
      omega
    · exact (List.getElem?_eq_none (by omega)).symm

end Lists

/-! ## Indexes of lists and texts -/

namespace Value

variable {v : Value} (sequence : v.isSequence = true) (index : Int)
include sequence

/-- The parts before and behind an index make the whole. -/
theorem concatenated_slices : (v.slice 0 (some index)).concatenated [v.slice index none] = .ok v := by
  cases v with
  | list items =>
    show Except.ok (Value.list (sliceOf items 0 (some index) ++ (sliceOf items index none ++ []))) = _
    rw [List.append_nil, sliceOf_append]
  | text s =>
    show Except.ok (Value.text (String.ofList (sliceOf s.toList 0 (some index)) ++
      String.join [String.ofList (sliceOf s.toList index none)])) = _
    rw [String.join_cons, String.join_nil, String.append_empty, ← String.ofList_append, sliceOf_append, String.ofList_toList]
  | _ => cases sequence

/-- The element at an index is the first of the part from there, if the index is inside, and else null. -/
theorem exists_lengthOf : ∃ count : Nat, v.lengthOf = .ok (.int count) ∧
    v.element index = if -(count : Int) ≤ index ∧ index < count then (v.slice index none).element 0 else .null := by
  cases v with
  | list items =>
    refine ⟨items.length, rfl, ?_⟩
    show (elementAt? items index).getD .null =
      if _ then (elementAt? (sliceOf items index none) 0).getD .null else .null
    rw [elementAt?_eq_head?, elementAt?_zero]
    split <;> rfl
  | text s =>
    refine ⟨s.length, rfl, ?_⟩
    show ((elementAt? s.toList index).map fun c => text (String.singleton c)).getD .null =
      if _ then ((elementAt? (String.ofList (sliceOf s.toList index none)).toList 0).map
        fun c => text (String.singleton c)).getD .null else .null
    rw [String.toList_ofList, elementAt?_eq_head?, elementAt?_zero, String.length_toList]
    split <;> rfl
  | _ => cases sequence

/-- The element of a reversed sequence is the one counted from the other end. -/
theorem element_reversed : v.reversed.element index = v.element (-1 - index) := by
  cases v with
  | list items =>
    show (elementAt? items.reverse index).getD .null = (elementAt? items (-1 - index)).getD .null
    rw [elementAt?_reverse]
  | text s =>
    show ((elementAt? (String.ofList s.toList.reverse).toList index).map fun c => text (String.singleton c)).getD .null =
      ((elementAt? s.toList (-1 - index)).map fun c => text (String.singleton c)).getD .null
    rw [String.toList_ofList, elementAt?_reverse]
  | _ => cases sequence

end Value

/-! ## Indexes as arguments -/

/-- Whether a whole number is less than half way from the greatest double to the next power of two. -/
def WithinDoubles (n : Int) : Prop :=
  n.natAbs < 2 ^ 1024 - 2 ^ 970

section Calls

variable {v : Value} (sequence : v.isSequence = true) {n : Int}

/-- An integer within the range of doubles is converted to itself. -/
theorem toInt_of_within (within : WithinDoubles n) : (Value.int n).toInt = .ok n :=
  if_pos ((Double.isFinite_ofInt_iff n).mpr within)

/-- An integer beyond this range overflows. -/
theorem toInt_of_beyond (beyond : ¬WithinDoubles n) : (Value.int n).toInt = .error .overflow :=
  if_neg (mt (Double.isFinite_ofInt_iff n).mp beyond)

/-- What is made of an index is a value exactly if the index is taken. -/
theorem map_toInt_eq_ok_iff {made : Int → Value} {other : Value} :
    made <$> (Value.int n).toInt = .ok other ↔ WithinDoubles n ∧ made n = other := by
  by_cases within : WithinDoubles n
  · rw [toInt_of_within within, and_iff_right within]
    exact ⟨Except.ok.inj, congrArg Except.ok⟩
  · rw [toInt_of_beyond within]
    exact iff_of_false nofun fun both => within both.1

/-- A call that needs an integer gives one value with the integer itself if this is in the range of doubles, and none
else. -/
theorem giveOneValue_map_toInt_iff {made : Int → Value} {call : Except Failure Value} :
    GiveOneValue (made <$> (Value.int n).toInt) call ↔ WithinDoubles n ∧ call = .ok (made n) := by
  constructor
  · rintro ⟨other, given, same⟩
    obtain ⟨within, rfl⟩ := map_toInt_eq_ok_iff.mp given
    exact ⟨within, same⟩
  · rintro ⟨within, same⟩
    exact ⟨made n, map_toInt_eq_ok_iff.mpr ⟨within, rfl⟩, same⟩

include sequence

/-- Calling `at` takes the element at the integer its argument is converted to. -/
theorem callBuiltin_at_eq : callBuiltin "at" v [.int n] = (v.element ·) <$> (Value.int n).toInt :=
  if_pos sequence

/-- Calling `slice` from zero takes the items in front of this integer. -/
theorem callBuiltin_slice_eq :
    callBuiltin "slice" v [.int 0, .int n] = (v.slice 0 <| some ·) <$> (Value.int n).toInt := by
  show (if v.isSequence then _ else _) = _
  rw [if_pos sequence]
  show ((some <$> (Value.int n).toInt) >>= fun stop => (Value.int 0).toInt >>= fun start => .ok (v.slice start stop)) = _
  rw [toInt_of_within (show WithinDoubles 0 by unfold WithinDoubles; omega)]
  cases (Value.int n).toInt <;> rfl

/-- Calling `slice` with one argument takes the items behind it. -/
theorem callBuiltin_sliceFrom_eq :
    callBuiltin "slice" v [.int n] = (v.slice · none) <$> (Value.int n).toInt := by
  show (if v.isSequence then _ else _) = _
  rw [if_pos sequence]
  show ((Value.int n).toInt >>= fun start => .ok (v.slice start none)) = _
  cases (Value.int n).toInt <;> rfl

/-- What is reversed stays a sequence. -/
theorem isSequence_reversed : v.reversed.isSequence = true := by
  cases v with
  | list | text => rfl
  | _ => cases sequence

end Calls

/-- Of a list or text, the parts before and behind an index make the whole again, the element at the index is the first
of the part from there if the index is inside and null else, and turned around the index counts from the other end: each
exactly if the index is one that modifiers take. -/
theorem slices_agree_iff {v : Value} (sequence : v.isSequence = true) (n : Int) :
    ∃ count : Nat, callBuiltin "length" v [] = .ok (.int count) ∧
      ((do
          let front ← callBuiltin "slice" v [.int 0, .int n]
          let back ← callBuiltin "slice" v [.int n]
          callBuiltin "concat" front [back]) = .ok v ↔ WithinDoubles n) ∧
      (GiveOneValue (callBuiltin "at" v [.int n])
          (if -(count : Int) ≤ n ∧ n < count then (do
            let back ← callBuiltin "slice" v [.int n]
            callBuiltin "first" back [])
          else .ok .null) ↔ WithinDoubles n) ∧
      (GiveOneValue
          (do
            let turned ← callBuiltin "reverse" v []
            callBuiltin "at" turned [.int n])
          (callBuiltin "at" v [.int (-1 - n)]) ↔ WithinDoubles n ∧ WithinDoubles (-1 - n)) := by
  obtain ⟨count, length, first⟩ := Value.exists_lengthOf sequence n
  have turned : (callBuiltin "reverse" v [] >>= fun turned => callBuiltin "at" turned [.int n]) =
      (v.reversed.element ·) <$> (Value.int n).toInt := callBuiltin_at_eq (isSequence_reversed sequence)
  refine ⟨count, length, ?_, ?_, ?_⟩
  · rw [callBuiltin_slice_eq sequence, callBuiltin_sliceFrom_eq sequence]
    by_cases within : WithinDoubles n
    · rw [toInt_of_within within]
      exact iff_of_true (Value.concatenated_slices sequence n) within
    · rw [toInt_of_beyond within]
      exact iff_of_false nofun within
  · rw [callBuiltin_at_eq sequence, callBuiltin_sliceFrom_eq sequence, giveOneValue_map_toInt_iff, and_iff_left_iff_imp]
    intro within
    rw [toInt_of_within within, first]
    split <;> rfl
  · rw [turned, callBuiltin_at_eq sequence, giveOneValue_map_toInt_iff, map_toInt_eq_ok_iff,
      and_iff_left (Value.element_reversed sequence n).symm]

/-- Counted from the end of three items, the index may be negative. -/
theorem slices_agree_iff_threeItems :
    (Value.list [.text "a", .null, .int 7]).isSequence = true ∧
      (do
          let front ← callBuiltin "slice" (.list [.text "a", .null, .int 7]) [.int 0, .int (-2)]
          let back ← callBuiltin "slice" (.list [.text "a", .null, .int 7]) [.int (-2)]
          callBuiltin "concat" front [back]) = .ok (.list [.text "a", .null, .int 7]) ∧
      GiveOneValue (callBuiltin "at" (.list [.text "a", .null, .int 7]) [.int (-2)])
        (do
          let back ← callBuiltin "slice" (.list [.text "a", .null, .int 7]) [.int (-2)]
          callBuiltin "first" back []) ∧
      GiveOneValue
        (do
          let turned ← callBuiltin "reverse" (.list [.text "a", .null, .int 7]) []
          callBuiltin "at" turned [.int (-2)])
        (callBuiltin "at" (.list [.text "a", .null, .int 7]) [.int 1]) := by
  have sequence : (Value.list [.text "a", .null, .int 7]).isSequence = true := rfl
  have within : WithinDoubles (-2) := by
    unfold WithinDoubles
    omega
  have within' : WithinDoubles 1 := by
    unfold WithinDoubles
    omega
  obtain ⟨count, length, whole, first, turned⟩ := slices_agree_iff sequence (-2)
  obtain rfl : (3 : Nat) = count := Int.ofNat.inj (Value.int.inj (Except.ok.inj length))
  exact ⟨sequence, whole.mpr within, first.mpr within, turned.mpr ⟨within, within'⟩⟩

/-- An index beyond the doubles is refused, though it is far outside and the part before it is the whole. -/
theorem callBuiltin_beyond :
    callBuiltin "at" (.text "abc") [.int (10 ^ 309)] ≠ .ok .null ∧
      (do
          let front ← callBuiltin "slice" (.text "abc") [.int 0, .int (10 ^ 309)]
          let back ← callBuiltin "slice" (.text "abc") [.int (10 ^ 309)]
          callBuiltin "concat" front [back]) ≠ .ok (.text "abc") := by
  have sequence : (Value.text "abc").isSequence = true := rfl
  have beyond : ¬WithinDoubles (10 ^ 309) := by
    unfold WithinDoubles
    omega
  rw [callBuiltin_at_eq sequence, callBuiltin_slice_eq sequence, toInt_of_beyond beyond]
  exact ⟨nofun, nofun⟩

/-! ## Joined and split again -/

/-- Trimming adds no character. -/
theorem mem_of_mem_trimChars {c : Char} {cs : List Char} (there : c ∈ trimChars cs) : c ∈ cs := by
  have front : (trimFront cs).Sublist cs := List.dropWhile_sublist isBlank
  have back : (trimChars cs).Sublist (trimFront cs) := (List.rdropWhile_prefix isBlank _).sublist
  exact (back.trans front).mem there

/-- Joined, texts stand with a comma and a blank between them. -/
theorem callBuiltin_join_texts (xs : List String) :
    callBuiltin "join" (.list (xs.map .text)) [] = .ok (.text (join ", " xs)) := by
  show ((xs.map Value.text).mapM Value.display >>= fun texts => .ok (Value.text (join ", " texts))) = _
  rw [Value.mapM_display_texts]
  rfl

/-- A text with characters is split at its commas, and the pieces are trimmed. -/
theorem callBuiltin_split_text {s : String} (filled : s ≠ "") :
    callBuiltin "split" (.text s) [] = .ok (.list (((split "," s).map trim).map .text)) := by
  show (if s = "" then _ else _) = _
  rw [if_neg filled, List.map_map]
  rfl

/-- Joined texts are cut behind their commas, and all but the first have a blank in front. -/
theorem split_join {x : String} {xs : List String} (clean : ∀ text ∈ x :: xs, ',' ∉ text.toList) :
    split "," (join ", " (x :: xs)) = x :: xs.map (" " ++ ·) := by
  have chars : (join ", " (x :: xs)).toList = joinWith [','] (x.toList :: xs.map fun text => ' ' :: text.toList) := by
    unfold join
    rw [String.toList_intercalate, ← joinWith_eq_intercalate, List.map_cons]
    show joinWith [',', ' '] _ = _
    rw [joinWith_comma_blank, List.map_map]
    rfl
  have spaced : ∀ part ∈ x.toList :: xs.map (fun text => ' ' :: text.toList), ',' ∉ part := by
    intro part there
    rcases List.mem_cons.mp there with rfl | behind
    · exact clean x List.mem_cons_self
    · obtain ⟨text, among, rfl⟩ := List.mem_map.mp behind
      exact List.not_mem_cons_of_ne_of_not_mem (by decide) (clean text (List.mem_cons_of_mem x among))
  unfold split
  show (pieces [','] _).map String.ofList = _
  rw [chars, pieces_joinWith (List.cons_ne_nil _ _) spaced, List.map_cons, String.ofList_toList, List.map_map]
  refine congrArg (x :: ·) (List.map_congr_left fun text _ => ?_)
  show String.ofList (' ' :: text.toList) = " " ++ text
  rw [← String.toList_inj, String.toList_ofList, String.toList_append]
  rfl

/-- Trimming twice is trimming once. -/
theorem trim_trim (s : String) : trim (trim s) = trim s := by
  unfold trim
  rw [String.toList_ofList, trimChars_trimChars]

/-- A blank in front is trimmed with those at the ends. -/
theorem trim_blank_append (s : String) : trim (" " ++ s) = trim s := by
  have blank : ∀ c ∈ [' '], isBlank c = true := List.forall_mem_singleton.mpr (by decide)
  have around := trimChars_of_blank_around blank (List.forall_mem_nil _) s.toList
  unfold trim
  rw [String.toList_append, ← around, List.append_nil]
  rfl

/-- Cut at the commas and trimmed, joined texts are as they were exactly if they are trimmed and have no commas. -/
theorem map_trim_split_join_iff {xs : List String} (some_text : xs ≠ []) :
    (split "," (join ", " xs)).map trim = xs ↔ ∀ x ∈ xs, trim x = x ∧ ',' ∉ x.toList := by
  constructor
  · intro same x there
    rw [← same] at there
    obtain ⟨piece, among, rfl⟩ := List.mem_map.mp there
    refine ⟨trim_trim piece, fun comma => ?_⟩
    unfold trim at comma
    rw [String.toList_ofList] at comma
    exact notMem_of_mem_split rfl among (mem_of_mem_trimChars comma)
  · intro each
    obtain ⟨x, xs, rfl⟩ := List.exists_cons_of_ne_nil some_text
    have trimmed : (xs.map (" " ++ ·)).map trim = xs := by
      rw [List.map_map]
      have each_trimmed : ∀ y ∈ xs, (trim ∘ (" " ++ ·)) y = y := fun y among =>
        (trim_blank_append y).trans (each y (List.mem_cons_of_mem x among)).1
      rw [List.map_congr_left each_trimmed, List.map_id']
    rw [split_join fun text there => (each text there).2, List.map_cons, trimmed, (each x List.mem_cons_self).1]

/-- Joined without text between there is nothing of the empty list and of one empty text. -/
theorem join_eq_empty_iff (xs : List String) : join ", " xs = "" ↔ xs = [] ∨ xs = [""] := by
  unfold join
  rcases xs with _ | ⟨x, _ | ⟨y, xs⟩⟩
  · simp
  · simp
  · rw [String.intercalate_cons_cons]
    simp

/-- Splitting a joined list with the usual separators gives back the list exactly if it is not one empty text alone, and
its texts are trimmed and have no commas. -/
theorem split_join_eq_iff (xs : List String) :
    (do
        let joined ← callBuiltin "join" (.list (xs.map .text)) []
        callBuiltin "split" joined []) = .ok (.list (xs.map .text)) ↔
      xs ≠ [""] ∧ ∀ x ∈ xs, trim x = x ∧ ',' ∉ x.toList := by
  rw [callBuiltin_join_texts]
  show callBuiltin "split" (.text (join ", " xs)) [] = _ ↔ _
  by_cases empty : join ", " xs = ""
  · -- An empty text is split into nothing, so one empty text is lost.
    rw [empty]
    rcases (join_eq_empty_iff xs).mp empty with rfl | rfl
    · exact iff_of_true rfl ⟨nofun, List.forall_mem_nil _⟩
    · exact iff_of_false nofun fun both => both.1 rfl
  · have some_text : xs ≠ [] := fun none => empty ((join_eq_empty_iff xs).mpr (.inl none))
    have filled : xs ≠ [""] := fun alone => empty ((join_eq_empty_iff xs).mpr (.inr alone))
    rw [callBuiltin_split_text empty, and_iff_right filled, ← map_trim_split_join_iff some_text]
    constructor
    · intro same
      exact List.map_injective_iff.mpr (fun _ _ => Value.text.inj) (Value.list.inj (Except.ok.inj same))
    · intro same
      rw [same]

end DynamicBlocks
