import DynamicBlocks.Loop.Handler
import DynamicBlocks.Proofs.CanonicalJson
import DynamicBlocks.Proofs.DeclaredDefaults
import DynamicBlocks.Proofs.Failures
import DynamicBlocks.Proofs.TextReplacement
import Mathlib

/-!
# The order of parameters

Parameters are replaced by name, the longest name first. Names of one length are replaced in the order they were given
in, and where one stands in the text that comes in place of another, or is made up by it and what stands around it, the
order shows. Otherwise it does not: if names of one length touch neither each other nor each other's texts
(`Entries.KeptApart`), a configuration is bound alike whatever the order (`bindParams_eq_of_perm`), and so handlers that
bind a configuration find the same items (`LoopHandler.run_eq_of_perm`).
-/

set_option autoImplicit false

namespace DynamicBlocks

open Text

/-! ## Replacing one name -/

/-- A text with one name replaced. -/
def replaceName (param : String × Value) (s : String) : Except Failure String :=
  if contains s param.1 then do
    let replacement ← replacementText param.2
    pure (replace param.1 replacement s)
  else pure s

/-- A value has no text only if it is of the wrong type. -/
theorem eq_wrongType_of_replacementText {v : Value} {f : Failure} (failed : replacementText v = .error f) :
    f = .wrongType := by
  have : HasWrongType (· = Failure.wrongType) := ⟨rfl⟩
  have honly : OnlyFails (· = Failure.wrongType) (replacementText v) := by
    unfold replacementText
    split
    · exact OnlyFails.write .ascii _
    · exact OnlyFails.write .ascii _
    · exact OnlyFails.ok _
  exact honly f failed

/-- A text contains another one if its characters stand in it one after the other. -/
theorem contains_iff {s name : String} : contains s name = true ↔ name.toList <:+: s.toList :=
  occursIn_iff

/-- A text with a name replaced has the characters that are left by replacing it. -/
theorem toList_replace (name replacement s : String) :
    (replace name replacement s).toList = replaceAll name.toList replacement.toList s.toList :=
  String.toList_ofList

/-- A name that is not in a text is not replaced. -/
theorem replace_of_not_contains {name s : String} (some_char : name.toList ≠ []) (absent : ¬contains s name = true)
    (replacement : String) : replace name replacement s = s := by
  rw [contains_iff] at absent
  have hkept (text : List Char) (absent : ¬name.toList <:+: text) :
      replaceAll name.toList replacement.toList text = text := by
    induction text with
    | nil => exact replaceAll_nil _ some_char
    | cons c text ih =>
      rw [List.infix_cons_iff, not_or] at absent
      rw [replaceAll_cons _ some_char absent.1, ih absent.2]
  rw [← String.toList_inj, toList_replace, hkept _ absent]

/-- A text with one name replaced if it has a text. -/
def replaced (param : String × Value) (s : String) : String :=
  match replacementText param.2 with
  | .ok replacement => replace param.1 replacement s
  | .error _ => s

/-- Whether a name is in a text and has no text to be replaced with. -/
def Blocks (param : String × Value) (s : String) : Prop :=
  param.1.toList <:+: s.toList ∧ ∃ f, replacementText param.2 = .error f

open Classical in
/-- Replacing a name fails in one way only. -/
theorem replaceName_eq {param : String × Value} (some_char : param.1.toList ≠ []) (s : String) :
    replaceName param s = if Blocks param s then .error .wrongType else .ok (replaced param s) := by
  unfold replaceName replaced Blocks
  rw [← contains_iff]
  cases text : replacementText param.2 with
  | ok replacement =>
    simp only [reduceCtorEq, exists_false, and_false, if_false]
    split
    · rfl
    · rename_i absent
      exact congrArg Except.ok (replace_of_not_contains some_char absent replacement).symm
  | error f =>
    obtain rfl := eq_wrongType_of_replacementText text
    simp only [Except.error.injEq, exists_eq', and_true]
    split <;> rfl

/-- Whether a name touches neither another nor the text that comes in its place. -/
def StaysApart (name : String) (param : String × Value) : Prop :=
  Apart name.toList param.1.toList ∧ ∀ text, replacementText param.2 = .ok text → Apart name.toList text.toList

section Two

variable {param other : String × Value} (some_char : param.1.toList ≠ []) (some_char' : other.1.toList ≠ [])
  (apart : StaysApart param.1 other) (apart' : StaysApart other.1 param)

include some_char some_char' apart apart'

/-- What blocks a replacement is there before another one exactly if it is there behind it. -/
theorem blocks_replaced (s : String) : Blocks param (replaced other s) ↔ Blocks param s := by
  unfold Blocks replaced
  cases text : replacementText other.2 with
  | ok replacement =>
    dsimp only
    rw [toList_replace, infix_replaceAll_iff some_char some_char' apart.1 apart'.1 (apart.2 replacement text)]
  | error f => exact Iff.rfl

/-- Names that are kept apart are replaced in either order. -/
theorem replaced_comm (s : String) : replaced param (replaced other s) = replaced other (replaced param s) := by
  unfold replaced
  cases text : replacementText param.2 with
  | error f => rfl
  | ok replacement =>
    cases text' : replacementText other.2 with
    | error f => rfl
    | ok replacement' =>
      dsimp only
      rw [← String.toList_inj, toList_replace, toList_replace, toList_replace, toList_replace]
      exact replaceAll_comm some_char some_char' apart.1 apart'.1 (apart.2 _ text') (apart'.2 _ text) s.toList

open Classical in
/-- Two names, one replaced after the other, fail if one of them is blocked in the text as it was given. -/
theorem replaceName_bind (s : String) : (replaceName other s >>= replaceName param) =
    if Blocks other s ∨ Blocks param s then .error .wrongType else .ok (replaced param (replaced other s)) := by
  rw [replaceName_eq some_char']
  by_cases blocked : Blocks other s
  · rw [if_pos blocked, if_pos (.inl blocked)]
    rfl
  · rw [if_neg blocked]
    show replaceName param (replaced other s) = _
    rw [replaceName_eq some_char]
    simp only [blocks_replaced some_char some_char' apart apart', blocked, false_or]

open Classical in
/-- Two names that stay apart can be replaced in any order. -/
theorem replaceName_comm (s : String) :
    (replaceName param s >>= replaceName other) = (replaceName other s >>= replaceName param) := by
  rw [replaceName_bind some_char some_char' apart apart', replaceName_bind some_char' some_char apart' apart,
    replaced_comm some_char some_char' apart apart']
  exact if_congr or_comm rfl rfl

end Two

/-! ## Replacing all names -/

/-- The longer name first. -/
def longerFirst (param other : String × Value) : Bool :=
  decide (other.1.length ≤ param.1.length)

/-- A name that can change places with all before it can be replaced first. -/
theorem replaceNames_append_cons {front back : List (String × Value)} {param : String × Value}
    (comm : ∀ other ∈ front, ∀ s, (replaceName other s >>= replaceName param) =
      (replaceName param s >>= replaceName other)) (s : String) :
    replaceNames (front ++ param :: back) s = replaceNames (param :: (front ++ back)) s := by
  have hcons (first : String × Value) (more : List (String × Value)) (s : String) :
      replaceNames (first :: more) s = replaceName first s >>= replaceNames more := List.foldlM_cons
  induction front generalizing s with
  | nil => rfl
  | cons other front ih =>
    have hfront := ih fun second there => comm second (List.mem_cons_of_mem _ there)
    calc replaceNames (other :: (front ++ param :: back)) s
        = replaceName other s >>= replaceNames (front ++ param :: back) := hcons _ _ _
      _ = replaceName other s >>= replaceNames (param :: (front ++ back)) := by rw [funext hfront]
      _ = (replaceName other s >>= replaceName param) >>= replaceNames (front ++ back) := by
        rw [bind_assoc]
        exact congrArg (replaceName other s >>= ·) (funext (hcons param (front ++ back)))
      _ = (replaceName param s >>= replaceName other) >>= replaceNames (front ++ back) := by
        rw [comm other List.mem_cons_self]
      _ = replaceNames (param :: (other :: front ++ back)) s := by
        rw [bind_assoc, hcons]
        exact congrArg (replaceName param s >>= ·) (funext (hcons other (front ++ back))).symm

/-- Whether names of one length stay apart. -/
def KeptApart (params : List (String × Value)) : Prop :=
  ∀ param ∈ params, ∀ other ∈ params, param.1 ≠ other.1 → param.1.length = other.1.length → StaysApart param.1 other

/-- Of two names of one length that are not the same neither is empty. -/
theorem toList_ne_nil {name other : String} (different : name ≠ other) (sameLength : name.length = other.length) :
    name.toList ≠ [] := by
  intro empty
  have hname : name = "" := String.toList_eq_nil_iff.mp empty
  subst hname
  exact different (String.length_eq_zero_iff.mp sameLength.symm).symm

/-- Two lists of the same parameters, each with the longest names first, replace alike if names of one length stay
apart: an induction on the first, whose first name is brought to the front of the second. -/
theorem replaceNames_eq_of_perm {params others : List (String × Value)} (perm : params.Perm others)
    (sorted : params.Pairwise fun a b => longerFirst a b = true)
    (sorted' : others.Pairwise fun a b => longerFirst a b = true) (nodup : (params.map (·.1)).Nodup)
    (apart : KeptApart params) (s : String) : replaceNames params s = replaceNames others s := by
  induction params generalizing others s with
  | nil => rw [perm.nil_eq]
  | cons param params ih =>
    obtain ⟨front, back, rfl⟩ := List.append_of_mem (perm.mem_iff.mp List.mem_cons_self)
    have hperm : params.Perm (front ++ back) := (perm.trans List.perm_middle).cons_inv
    rw [List.map_cons, List.nodup_cons] at nodup
    rw [List.pairwise_cons] at sorted
    -- What stands before the name in the second list is not shorter, and in the first it is not longer.
    have hcomm : ∀ other ∈ front, ∀ s, (replaceName other s >>= replaceName param) =
        (replaceName param s >>= replaceName other) := by
      intro other there s
      have hother : other ∈ params := hperm.mem_iff.mpr (List.mem_append_left back there)
      have hdifferent : other.1 ≠ param.1 := fun same => nodup.1 (same ▸ List.mem_map_of_mem hother)
      have hlength : other.1.length = param.1.length := by
        have hle : longerFirst param other = true := sorted.1 other hother
        have hge : longerFirst other param = true :=
          (List.pairwise_append.mp sorted').2.2 other there param List.mem_cons_self
        rw [longerFirst, decide_eq_true_eq] at hle hge
        omega
      have hmember : param ∈ param :: params := List.mem_cons_self
      have hmember' : other ∈ param :: params := List.mem_cons_of_mem _ hother
      apply replaceName_comm (toList_ne_nil hdifferent hlength) (toList_ne_nil hdifferent.symm hlength.symm)
      · exact apart other hmember' param hmember hdifferent hlength
      · exact apart param hmember other hmember' hdifferent.symm hlength.symm
    have hsorted : (front ++ back).Pairwise fun a b => longerFirst a b = true :=
      sorted'.sublist ((List.sublist_cons_self param back).append_left front)
    have hmore : ∀ s, replaceNames params s = replaceNames (front ++ back) s :=
      ih hperm sorted.2 hsorted nodup.2 fun first there second there' =>
        apart first (List.mem_cons_of_mem _ there) second (List.mem_cons_of_mem _ there')
    rw [replaceNames_append_cons hcomm]
    show (replaceName param s >>= replaceNames params) = (replaceName param s >>= replaceNames (front ++ back))
    rw [funext hmore]

/-! ## Binding -/

namespace Entries

/-- Whether all keys are texts, each there once. -/
structure Named (params : Entries) : Prop where
  texts : ∀ entry ∈ params, ∃ name, entry.1 = .text name
  nodup : (params.map (·.1)).Nodup

/-- Whether names of one length touch neither each other nor the texts that come in their place. -/
def KeptApart (params : Entries) : Prop :=
  ∀ name value name' value', (.text name, value) ∈ params → (.text name', value') ∈ params →
    name ≠ name' → name.length = name'.length → StaysApart name (name', value')

variable {params others : Entries}

/-- Parameters with names have them in any order. -/
theorem Named.of_perm (named : params.Named) (perm : params.Perm others) : others.Named where
  texts entry there := named.texts entry (perm.mem_iff.mpr there)
  nodup := (perm.map _).nodup_iff.mp named.nodup

/-- What is found under a name is what stands under it. -/
theorem Named.field?_eq_some_iff (named : params.Named) {name : String} {value : Value} :
    field? params name = some value ↔ (.text name, value) ∈ params := by
  unfold field? get?
  constructor
  · intro found
    obtain ⟨entry, hentry, rfl⟩ := Option.map_eq_some_iff.mp found
    have hkey : entry.1 = .text name := Value.agrees_text.mp (by simpa using List.find?_some hentry)
    have hmem := List.mem_of_find?_eq_some hentry
    rw [← hkey]
    exact hmem
  · intro there
    have hsome : (params.find? fun entry => entry.1.agrees (.text name)).isSome = true := by
      rw [List.find?_isSome]
      exact ⟨_, there, Value.agrees_text.mpr rfl⟩
    obtain ⟨entry, hentry⟩ := Option.isSome_iff_exists.mp hsome
    have hkey : entry.1 = .text name := Value.agrees_text.mp (by simpa using List.find?_some hentry)
    have hsame : entry = (.text name, value) :=
      List.inj_on_of_nodup_map named.nodup (List.mem_of_find?_eq_some hentry) there hkey
    rw [hentry, hsame, Option.map_some]

/-- The field of parameters is the value that is found. -/
theorem field_of_field?_eq_some {name : String} {value : Value} (found : field? params name = some value) :
    field params name = value := by
  rw [field, found, Option.getD_some]

/-- The fields of parameters do not depend on their order. -/
theorem Named.field?_eq_of_perm (named : params.Named) (perm : params.Perm others) (name : String) :
    field? params name = field? others name := by
  refine Option.ext fun value => ?_
  rw [named.field?_eq_some_iff, (named.of_perm perm).field?_eq_some_iff, perm.mem_iff]

/-- Parameters with names are entries of different texts. -/
theorem Named.exists_fields (named : params.Named) :
    ∃ fields : List (String × Value), params = fields.map Json.textEntry ∧ (fields.map (·.1)).Nodup := by
  obtain ⟨fields, rfl⟩ := Json.exists_map_textEntry named.texts
  refine ⟨fields, rfl, List.Nodup.of_map Value.text ?_⟩
  simpa [List.map_map, Function.comp_def, Json.textEntry] using named.nodup

end Entries

/-- Parameters are put in order by the length of their names. -/
theorem longestFirst_map_textEntry (fields : List (String × Value)) :
    longestFirst (fields.map Json.textEntry) = .ok (fields.mergeSort longerFirst) := by
  have hnames : (fields.map Json.textEntry).mapM paramName = (.ok fields : Except Failure _) := by
    induction fields with
    | nil => rfl
    | cons field fields ih =>
      rw [List.map_cons, List.mapM_cons, ih]
      rfl
  unfold longestFirst
  rw [hnames]
  rfl

/-- Sorted parameters stand in the order of their lengths. -/
theorem pairwise_longerFirst (fields : List (String × Value)) :
    (fields.mergeSort longerFirst).Pairwise fun a b => longerFirst a b = true := by
  apply List.pairwise_mergeSort
  · intro a b c hab hbc
    rw [longerFirst, decide_eq_true_eq] at hab hbc ⊢
    omega
  · intro a b
    rw [longerFirst, longerFirst, Bool.or_eq_true, decide_eq_true_eq, decide_eq_true_eq]
    omega

/-- The order that parameters were given in makes no difference once they are sorted, if names of one length are kept
apart. -/
theorem replaceNames_mergeSort_eq {fields others : List (String × Value)} (perm : fields.Perm others)
    (nodup : (fields.map (·.1)).Nodup) (apart : KeptApart fields) (s : String) :
    replaceNames (fields.mergeSort longerFirst) s = replaceNames (others.mergeSort longerFirst) s := by
  have hperm := List.mergeSort_perm fields longerFirst
  apply replaceNames_eq_of_perm ((hperm.trans perm).trans (List.mergeSort_perm others longerFirst).symm)
    (pairwise_longerFirst fields) (pairwise_longerFirst others)
  · exact (hperm.map _).nodup_iff.mpr nodup
  · exact fun param there other there' => apart param (hperm.mem_iff.mp there) other (hperm.mem_iff.mp there')

/-- A text that is no name once the defaults are replaced is bound by replacing all names. -/
theorem bindText_of_replaceNames {params : Entries} {s text result : String} {named : List (String × Value)}
    (first : bindDefaulted params s = text) (unknown : Entries.field? params text = none)
    (order : longestFirst params = .ok named) (replaced : replaceNames named text = .ok result) :
    bindText params s = .ok (.text result) := by
  unfold bindText
  dsimp only
  rw [first, unknown]
  show (longestFirst params >>= fun named => Value.text <$> replaceNames named text) = _
  rw [order]
  show Value.text <$> replaceNames named text = _
  rw [replaced]
  rfl

/-- A text is bound alike whatever the order of the parameters, if names of one length stay apart. -/
theorem bindText_eq_of_perm {params others : Entries} (named : params.Named) (apart : params.KeptApart)
    (perm : params.Perm others) (s : String) : bindText params s = bindText others s := by
  have hfield := named.field?_eq_of_perm perm
  have hdefaulted : bindDefaulted params s = bindDefaulted others s := by
    unfold bindDefaulted Entries.field
    rw [show Entries.field? params = Entries.field? others from funext hfield]
  have hreplaced (text : String) : (longestFirst params >>= fun named => replaceNames named text) =
      longestFirst others >>= fun named => replaceNames named text := by
    obtain ⟨fields, rfl, nodup⟩ := named.exists_fields
    obtain ⟨fields', rfl, -⟩ := (named.of_perm perm).exists_fields
    rw [longestFirst_map_textEntry, longestFirst_map_textEntry]
    apply replaceNames_mergeSort_eq ((List.map_perm_map_iff Json.textEntry_injective).mp perm) nodup
    rintro ⟨name, value⟩ there ⟨name', value'⟩ there'
    exact apart name value name' value' (List.mem_map_of_mem there) (List.mem_map_of_mem there')
  unfold bindText
  dsimp only
  rw [hdefaulted, hfield]
  cases Entries.field? others (bindDefaulted others s) with
  | some value => rfl
  | none =>
    show (longestFirst params >>= fun named => Value.text <$> replaceNames named (bindDefaulted others s)) =
      longestFirst others >>= fun named => Value.text <$> replaceNames named (bindDefaulted others s)
    rw [← map_bind, hreplaced, map_bind]

mutual

/-- Parameters that bind texts alike bind configurations alike: an induction on the configuration. -/
theorem bindParams_congr {params others : Entries} (texts : ∀ s, bindText params s = bindText others s) :
    (config : Value) → bindParams params config = bindParams others config
  | .text s => texts s
  | .list items => by
    rw [bindParams, bindParams, bindItems_congr texts items]
  | .map entries => by
    rw [bindParams, bindParams, bindEntries_congr texts entries]
  | .null => rfl
  | .bool _ => rfl
  | .int _ => rfl
  | .double _ => rfl
  | .loop .. => rfl
  | .date _ => rfl
  | .moment _ => rfl
  | .object .. => rfl
  | .built .. => rfl

/-- Items are bound to the same if texts are: the induction of `bindParams_congr` on items. -/
theorem bindItems_congr {params others : Entries} (texts : ∀ s, bindText params s = bindText others s) :
    (items : List Value) → bindItems params items = bindItems others items
  | [] => rfl
  | item :: items => by
    rw [bindItems, bindItems, bindParams_congr texts item, bindItems_congr texts items]

/-- Entries are bound to the same if texts are: the induction of `bindParams_congr` on entries. -/
theorem bindEntries_congr {params others : Entries} (texts : ∀ s, bindText params s = bindText others s) :
    (entries : List (Value × Value)) → bindEntries params entries = bindEntries others entries
  | [] => rfl
  | (key, value) :: entries => by
    rw [bindEntries, bindEntries, bindParams_congr texts value, bindEntries_congr texts entries]

end

/-! ## Defaults -/

namespace Entries

/-- An entry is among those with one inserted if it is the new one, or an old one under another key. -/
theorem mem_insert {entries : Entries} {name : String} {value : Value} {entry : Value × Value} :
    entry ∈ insert entries (.text name) value ↔
      entry = (.text name, value) ∨ entry ∈ entries ∧ entry.1 ≠ .text name := by
  unfold insert
  split
  · rename_i there
    obtain ⟨known, hknown, agrees⟩ := List.any_eq_true.mp there
    rw [List.mem_map]
    constructor
    · rintro ⟨other, hother, rfl⟩
      split
      · rename_i same
        exact .inl (by rw [Value.agrees_text.mp same])
      · rename_i different
        exact .inr ⟨hother, fun same => different (Value.agrees_text.mpr same)⟩
    · rintro (rfl | ⟨hentry, different⟩)
      · exact ⟨known, hknown, by rw [if_pos agrees, Value.agrees_text.mp agrees]⟩
      · exact ⟨entry, hentry, if_neg fun agrees => different (Value.agrees_text.mp agrees)⟩
  · rename_i absent
    rw [List.mem_append, List.mem_singleton]
    constructor
    · rintro (hentry | rfl)
      · refine .inr ⟨hentry, fun same => absent ?_⟩
        exact List.any_eq_true.mpr ⟨entry, hentry, Value.agrees_text.mpr same⟩
      · exact .inl rfl
    · rintro (rfl | ⟨hentry, -⟩)
      · exact .inr rfl
      · exact .inl hentry

/-- Entries with names keep them when one is inserted. -/
theorem Named.insert {entries : Entries} (named : entries.Named) (name : String) (value : Value) :
    (Entries.insert entries (.text name) value).Named where
  texts entry there := by
    rcases mem_insert.mp there with rfl | ⟨hentry, -⟩
    · exact ⟨name, rfl⟩
    · exact named.texts entry hentry
  nodup := by
    unfold Entries.insert
    split
    · have hkeys : (entries.map fun entry =>
          if entry.1.agrees (.text name) then (entry.1, value) else entry).map (·.1) = entries.map (·.1) := by
        rw [List.map_map]
        refine List.map_congr_left fun entry _ => ?_
        rw [Function.comp_apply]
        split <;> rfl
      rw [hkeys]
      exact named.nodup
    · rename_i absent
      rw [List.map_append, List.nodup_append]
      refine ⟨named.nodup, List.nodup_singleton _, fun key there other hother same => absent ?_⟩
      obtain ⟨entry, hentry, rfl⟩ := List.mem_map.mp there
      rw [List.map_singleton, List.mem_singleton] at hother
      exact List.any_eq_true.mpr ⟨entry, hentry, Value.agrees_text.mpr (same.trans hother)⟩

/-- What is set later counts, and what is not set is what was there. -/
theorem Named.mem_insertAll {entries more : Entries} (named : more.Named) {entry : Value × Value} :
    entry ∈ insertAll entries more ↔ entry ∈ more ∨ entry ∈ entries ∧ ∀ other ∈ more, entry.1 ≠ other.1 := by
  induction more generalizing entries with
  | nil => simp [insertAll]
  | cons first more ih =>
    obtain ⟨name, hname⟩ := named.texts first List.mem_cons_self
    have hnodup := named.nodup
    rw [List.map_cons, List.nodup_cons] at hnodup
    have hmore : Named more := ⟨fun other there => named.texts other (List.mem_cons_of_mem _ there), hnodup.2⟩
    have hfresh : ∀ other ∈ more, first.1 ≠ other.1 := fun other there same =>
      hnodup.1 (same ▸ List.mem_map_of_mem there)
    show entry ∈ insertAll (Entries.insert entries first.1 first.2) more ↔ _
    rw [ih hmore, hname, mem_insert, ← hname, List.mem_cons, List.forall_mem_cons]
    constructor
    · rintro (later | ⟨rfl | ⟨earlier, different⟩, others⟩)
      · exact .inl (.inr later)
      · exact .inl (.inl rfl)
      · exact .inr ⟨earlier, different, others⟩
    · rintro ((rfl | later) | ⟨earlier, different, others⟩)
      · exact .inr ⟨.inl rfl, hfresh⟩
      · exact .inl later
      · exact .inr ⟨.inr ⟨earlier, different⟩, others⟩

/-- So they do when several are inserted. -/
theorem Named.insertAll {entries more : Entries} (named : entries.Named) (named' : more.Named) :
    (Entries.insertAll entries more).Named := by
  have hmore (more : Entries) (texts : ∀ entry ∈ more, ∃ name, entry.1 = .text name) :
      (Entries.insertAll entries more).Named := by
    induction more generalizing entries with
    | nil => exact named
    | cons first more ih =>
      obtain ⟨name, hname⟩ := texts first List.mem_cons_self
      show (Entries.insertAll (Entries.insert entries first.1 first.2) more).Named
      rw [hname]
      exact ih (named.insert name first.2) fun entry there => texts entry (List.mem_cons_of_mem _ there)
  exact hmore more named'.texts

/-- Over the same entries, parameters in another order make the same entries in another order. -/
theorem Named.insertAll_perm {entries more others : Entries} (named : entries.Named) (named' : more.Named)
    (perm : more.Perm others) : (Entries.insertAll entries more).Perm (Entries.insertAll entries others) := by
  have nodup {given : Entries} (named : given.Named) : given.Nodup := List.Nodup.of_map _ named.nodup
  rw [List.perm_ext_iff_of_nodup (nodup (named.insertAll named')) (nodup (named.insertAll (named'.of_perm perm)))]
  intro entry
  rw [named'.mem_insertAll, (named'.of_perm perm).mem_insertAll, perm.mem_iff]
  simp only [perm.mem_iff]

/-- So they do when a default is added. -/
theorem Named.addDefault {defaults : Entries} (named : defaults.Named) (name : String) (value : Value) :
    (DynamicBlocks.addDefault defaults name value).Named := by
  unfold DynamicBlocks.addDefault
  split
  · exact named
  · exact named.insert name value

/-- The defaults declared in a configuration have names. -/
theorem named_declaredDefaults (config : Value) : (declaredDefaults config).Named := by
  have collected (defaults : List (String × String)) {found : Entries} (named : found.Named) :
      (defaults.foldl addFound found).Named := by
    induction defaults generalizing found with
    | nil => exact named
    | cons default defaults ih => exact ih (named.addDefault _ _)
  rw [declaredDefaults, addDefaults_eq_foldl]
  exact collected config.defaults ⟨List.forall_mem_nil _, List.Pairwise.nil⟩

end Entries

/-! ## Handlers -/

/-- The part of a preset's configuration that a handler binds. -/
def LoopHandler.boundPart (handler : LoopHandler) (preset : LoopPreset) : Value :=
  match handler with
  | .data => Entries.field preset.config "data"
  | .query _ => .map preset.args
  | .custom _ => .null

/-- With the defaults of a configuration, texts are bound alike for every order of the parameters. -/
theorem bindParams_withDefaults_eq_of_perm {params others : Entries} (named : params.Named) (perm : params.Perm others)
    (config : Value) (apart : (withDefaults config params).KeptApart) (s : String) :
    bindText (withDefaults config params) s = bindText (withDefaults config others) s := by
  have hdefaults := Entries.named_declaredDefaults config
  exact bindText_eq_of_perm (hdefaults.insertAll named) apart (hdefaults.insertAll_perm named perm) s

/-- A handler finds the same items, and asks the same query for them, whatever the order of the parameters. -/
theorem LoopHandler.run_eq_of_perm {handler : LoopHandler} (builtIn : ∀ run, handler ≠ .custom run)
    (backend : Option QueryBackend) (preset : LoopPreset) {params others : Entries} (named : params.Named)
    (perm : params.Perm others) (apart : (withDefaults (handler.boundPart preset) params).KeptApart) :
    handler.run backend preset params = handler.run backend preset others := by
  have texts := bindParams_withDefaults_eq_of_perm named perm (handler.boundPart preset) apart
  cases handler with
  | custom run => exact absurd rfl (builtIn run)
  | data =>
    have hbound := bindParams_congr texts (Entries.field preset.config "data")
    have hitems : configuredItems preset params = configuredItems preset others := by
      unfold configuredItems
      dsimp only
      rw [show bindParams (withDefaults (Entries.field preset.config "data") params) _ = _ from hbound]
      rfl
    unfold LoopHandler.run
    rw [hitems]
  | query kind =>
    have hbound := bindEntries_congr texts preset.args
    have hquery : queryOf kind preset params = queryOf kind preset others := by
      unfold queryOf queryArgs
      rw [show bindEntries (withDefaults (.map preset.args) params) preset.args = _ from hbound]
      rfl
    unfold LoopHandler.run
    dsimp only
    rw [hquery]

/-- The order of parameters shows in nothing that is bound, nor in what a handler of the library finds, if names of one
length touch neither each other nor the texts that come in their place. -/
theorem bindParams_eq_of_perm {params others : Entries} (named : params.Named) (perm : params.Perm others)
    (apart : params.KeptApart) :
    (∀ config, bindParams params config = bindParams others config) ∧
      ∀ (handler : LoopHandler) backend preset, (∀ run, handler ≠ .custom run) →
        (withDefaults (handler.boundPart preset) params).KeptApart →
          handler.run backend preset params = handler.run backend preset others :=
  ⟨bindParams_congr (bindText_eq_of_perm named apart perm), fun _ backend preset builtIn apartHere =>
    LoopHandler.run_eq_of_perm builtIn backend preset named perm apartHere⟩

/-- Two names with short texts, in the order of the names. -/
def pairInOrder : Entries :=
  [(.text "$a", .text "x"), (.text "$b", .text "y")]

/-- The two parameters are kept apart. -/
theorem keptApart_pairInOrder : pairInOrder.KeptApart := by
  have hname {c d : Char} (other : c ≠ '$') (other' : d ≠ '$') (different : c ≠ d) : Apart ['$', c] ['$', d] :=
    apart_of_marked (by simpa using Ne.symm other) (by simpa using Ne.symm other') rfl (by simpa using different)
  have htext {c d : Char} (other : d ≠ '$') (different : c ≠ d) : Apart ['$', c] [d] :=
    apart_of_head (by simpa using Ne.symm other) (by simpa using Ne.symm different)
  intro name value name' value' there there' different _
  simp only [pairInOrder, List.mem_cons, Prod.mk.injEq, Value.text.injEq, List.not_mem_nil, or_false] at there there'
  rcases there with ⟨rfl, rfl⟩ | ⟨rfl, rfl⟩ <;> rcases there' with ⟨rfl, rfl⟩ | ⟨rfl, rfl⟩
  · exact absurd rfl different
  · refine ⟨hname (by decide) (by decide) (by decide), fun text written => ?_⟩
    obtain rfl := Except.ok.inj written
    exact htext (by decide) (by decide)
  · refine ⟨hname (by decide) (by decide) (by decide), fun text written => ?_⟩
    obtain rfl := Except.ok.inj written
    exact htext (by decide) (by decide)
  · exact absurd rfl different

/-- A name and a longer one are bound alike in both orders, and the items of the preset are the same. -/
theorem bindParams_eq_of_perm_pair :
    (∀ config, bindParams pairInOrder config = bindParams pairInOrder.reverse config) ∧
      LoopHandler.data.run none ⟨"p", .structuredData, [(.text "data", .list [.text "$b-$a"])], "", ""⟩ pairInOrder =
        LoopHandler.data.run none ⟨"p", .structuredData, [(.text "data", .list [.text "$b-$a"])], "", ""⟩
          pairInOrder.reverse := by
  have named : pairInOrder.Named := ⟨by simp [pairInOrder], by simp [pairInOrder]⟩
  have hmerged : withDefaults (LoopHandler.data.boundPart
      ⟨"p", .structuredData, [(.text "data", .list [.text "$b-$a"])], "", ""⟩) pairInOrder = pairInOrder := by
    cbv
  obtain ⟨hbind, hrun⟩ := bindParams_eq_of_perm named (List.reverse_perm _).symm keptApart_pairInOrder
  have builtIn (run) : LoopHandler.data ≠ .custom run := by simp
  refine ⟨hbind, hrun .data none _ builtIn ?_⟩
  rw [hmerged]
  exact keptApart_pairInOrder

/-- Names of one length that are part of each other's texts show the order. -/
theorem bindParams_pair_ne :
    bindParams [(.text "$a", .text "$b"), (.text "$b", .text "x")] (.text "-$a") = .ok (.text "-x") ∧
      bindParams [(.text "$b", .text "x"), (.text "$a", .text "$b")] (.text "-$a") = .ok (.text "-$b") := by
  constructor <;> cbv

end DynamicBlocks
