import DynamicBlocks.Proofs.ParameterOrder
import DynamicBlocks.Proofs.RequestKeys
import Mathlib

/-!
# Requests that share an entry

Items are remembered by the canonical text of the parameters, but a configuration is bound to the parameters themselves.
Two sets of parameters share an entry exactly if JSON says the same of them. So a date shares one with the text of its
day, and a mapping with numbers as keys shares one with a mapping whose keys are their texts, although they bind
configurations to different values.

Of sets that JSON can say only rearranged ones share an entry (`digest_requestText_eq_iff`). In the texts of these no
high surrogate stands directly before a low one, for two such share an entry with the one character they make.
Rearranged sets bind every configuration to rearranged values, provided that names of one length stay apart, and that
what comes in place of each name is one text: the text of a mapping keeps the order that its entries were given in.
-/

set_option autoImplicit false

namespace DynamicBlocks

/-- Two outcomes that fail alike or are rearranged. -/
inductive SameOutcome : Except Failure Value → Except Failure Value → Prop where
  | ok {v w : Value} : v.Rearranged w → SameOutcome (.ok v) (.ok w)
  | error (f : Failure) : SameOutcome (.error f) (.error f)

/-- Equal outcomes are the same but for the order of entries. -/
theorem SameOutcome.of_eq {x y : Except Failure Value} (same : x = y) : SameOutcome x y := by
  subst same
  cases x with
  | error f => exact .error f
  | ok v => exact .ok (.refl v)

/-- Rearranged values have one text in place of a reference with a default, where mappings have none. -/
theorem Value.Rearranged.scalarText_eq {v w : Value} (same : v.Rearranged w) : scalarText v = scalarText w := by
  induction same with
  | refl v => rfl
  | trans _ _ first second => exact first.trans second
  | perm _ => rfl
  | item _ _ _ _ => rfl
  | entry _ _ _ _ _ => rfl

/-! ## Values rearranged under their names -/

/-- Names with two values each, which are rearranged and come in place of the name with the same text. -/
def PairedValues (params : List (String × Value × Value)) : Prop :=
  ∀ param ∈ params, param.2.1.Rearranged param.2.2 ∧ replacementText param.2.1 = replacementText param.2.2

/-- The parameters with the first values, and those with the second. -/
def firstValues (params : List (String × Value × Value)) : List (String × Value) :=
  params.map fun param => (param.1, param.2.1)

def secondValues (params : List (String × Value × Value)) : List (String × Value) :=
  params.map fun param => (param.1, param.2.2)

variable {params : List (String × Value × Value)}

/-- The first values and the second values are filled into a text as the same names. -/
theorem replaceNames_values_eq (paired : PairedValues params) (s : String) :
    replaceNames (firstValues params) s = replaceNames (secondValues params) s := by
  induction params generalizing s with
  | nil => rfl
  | cons param params ih =>
    have hmore := ih fun other there => paired other (List.mem_cons_of_mem _ there)
    have hname : replaceName (param.1, param.2.1) = replaceName (param.1, param.2.2) := by
      funext text
      unfold replaceName
      dsimp only
      rw [(paired param List.mem_cons_self).2]
    show (replaceName (param.1, param.2.1) s >>= replaceNames (firstValues params)) =
      (replaceName (param.1, param.2.2) s >>= replaceNames (secondValues params))
    rw [hname, funext hmore]

/-- Under a name both sets have a value, and these are rearranged, or neither has. -/
theorem field?_values (paired : PairedValues params) (name : String) :
    Option.Rel Value.Rearranged (Entries.field? ((firstValues params).map Json.textEntry) name)
      (Entries.field? ((secondValues params).map Json.textEntry) name) := by
  induction params with
  | nil => exact .none
  | cons param params ih =>
    have hmore := ih fun other there => paired other (List.mem_cons_of_mem _ there)
    unfold Entries.field? Entries.get? firstValues secondValues
    rw [List.map_cons, List.map_cons, List.map_cons, List.map_cons, List.find?_cons, List.find?_cons]
    cases same : (Value.text param.1).agrees (.text name) with
    | true =>
      simp only [Json.textEntry, same]
      exact .some (paired param List.mem_cons_self).1
    | false =>
      simp only [Json.textEntry, same]
      exact hmore

/-- A text is bound to rearranged values, or to the same text. -/
theorem bindText_values (paired : PairedValues params) (s : String) :
    SameOutcome (bindText ((firstValues params).map Json.textEntry) s)
      (bindText ((secondValues params).map Json.textEntry) s) := by
  have hscalar (name : String) : scalarText (Entries.field ((firstValues params).map Json.textEntry) name) =
      scalarText (Entries.field ((secondValues params).map Json.textEntry) name) := by
    have hfield := field?_values paired name
    unfold Entries.field
    generalize Entries.field? ((firstValues params).map Json.textEntry) name = found at hfield ⊢
    generalize Entries.field? ((secondValues params).map Json.textEntry) name = found' at hfield ⊢
    cases hfield with
    | none => rfl
    | some same => exact same.scalarText_eq
  have hdefaulted : bindDefaulted ((firstValues params).map Json.textEntry) s =
      bindDefaulted ((secondValues params).map Json.textEntry) s := by
    unfold bindDefaulted
    simp only [hscalar]
  -- Names are sorted without a look at their values.
  have hsorted {f : String × Value × Value → String × Value} (hf : ∀ param, (f param).1 = param.1) :
      (params.map f).mergeSort longerFirst =
        (params.mergeSort fun a b => decide (b.1.length ≤ a.1.length)).map f := by
    refine (List.map_mergeSort fun a _ b _ => ?_).symm
    rw [longerFirst, hf, hf]
  have hpaired : PairedValues (params.mergeSort fun a b => decide (b.1.length ≤ a.1.length)) :=
    fun param there => paired param ((List.mergeSort_perm _ _).mem_iff.mp there)
  have hreplaced (text : String) : replaceNames ((firstValues params).mergeSort longerFirst) text =
      replaceNames ((secondValues params).mergeSort longerFirst) text := by
    unfold firstValues secondValues
    rw [hsorted fun _ => rfl, hsorted fun _ => rfl]
    exact replaceNames_values_eq hpaired text
  have hfield := field?_values paired (bindDefaulted ((secondValues params).map Json.textEntry) s)
  unfold bindText
  dsimp only
  rw [hdefaulted, longestFirst_map_textEntry, longestFirst_map_textEntry]
  generalize bindDefaulted ((secondValues params).map Json.textEntry) s = text at hfield ⊢
  generalize Entries.field? ((firstValues params).map Json.textEntry) text = found at hfield ⊢
  generalize Entries.field? ((secondValues params).map Json.textEntry) text = found' at hfield ⊢
  cases hfield with
  | some same => exact .ok same
  | none =>
    apply SameOutcome.of_eq
    show Value.text <$> replaceNames ((firstValues params).mergeSort longerFirst) text =
      Value.text <$> replaceNames ((secondValues params).mergeSort longerFirst) text
    rw [hreplaced]

mutual

/-- Parameters that bind texts to rearranged values bind configurations to rearranged values: an induction on the
configuration. -/
theorem sameOutcome_bindParams {params others : Entries}
    (texts : ∀ s, SameOutcome (bindText params s) (bindText others s)) :
    (config : Value) → SameOutcome (bindParams params config) (bindParams others config)
  | .text s => texts s
  | .list items => by
    rw [bindParams, bindParams]
    rcases sameOutcome_bindItems texts items with ⟨f, failed, failed'⟩ | ⟨xs, ys, bound, bound', each⟩
    · rw [failed, failed']
      exact .error f
    · rw [bound, bound']
      exact .ok (.items each)
  | .map entries => by
    rw [bindParams, bindParams]
    rcases sameOutcome_bindEntries texts entries with ⟨f, failed, failed'⟩ | ⟨es, fs, bound, bound', each⟩
    · rw [failed, failed']
      exact .error f
    · rw [bound, bound']
      exact .ok (.values each)
  | .null => .ok (.refl _)
  | .bool _ => .ok (.refl _)
  | .int _ => .ok (.refl _)
  | .double _ => .ok (.refl _)
  | .loop .. => .ok (.refl _)
  | .date _ => .ok (.refl _)
  | .moment _ => .ok (.refl _)
  | .object .. => .ok (.refl _)
  | .built .. => .ok (.refl _)

/-- Items bound to rearranged parameters are rearranged, or fail alike. -/
theorem sameOutcome_bindItems {params others : Entries}
    (texts : ∀ s, SameOutcome (bindText params s) (bindText others s)) : (items : List Value) →
    (∃ f, bindItems params items = .error f ∧ bindItems others items = .error f) ∨
      ∃ xs ys, bindItems params items = .ok xs ∧ bindItems others items = .ok ys ∧ List.Forall₂ Value.Rearranged xs ys
  | [] => .inr ⟨[], [], rfl, rfl, .nil⟩
  | item :: items => by
    have hitem := sameOutcome_bindParams texts item
    rw [bindItems, bindItems]
    generalize bindParams params item = outcome at hitem ⊢
    generalize bindParams others item = outcome' at hitem ⊢
    cases hitem with
    | error f => exact .inl ⟨f, rfl, rfl⟩
    | @ok v w same =>
      rcases sameOutcome_bindItems texts items with ⟨f, failed, failed'⟩ | ⟨xs, ys, bound, bound', each⟩
      · rw [failed, failed']
        exact .inl ⟨f, rfl, rfl⟩
      · rw [bound, bound']
        exact .inr ⟨v :: xs, w :: ys, rfl, rfl, .cons same each⟩

/-- So are entries. -/
theorem sameOutcome_bindEntries {params others : Entries}
    (texts : ∀ s, SameOutcome (bindText params s) (bindText others s)) : (entries : List (Value × Value)) →
    (∃ f, bindEntries params entries = .error f ∧ bindEntries others entries = .error f) ∨
      ∃ es fs, bindEntries params entries = .ok es ∧ bindEntries others entries = .ok fs ∧
        List.Forall₂ Value.RearrangedEntry es fs
  | [] => .inr ⟨[], [], rfl, rfl, .nil⟩
  | (key, value) :: entries => by
    have hvalue := sameOutcome_bindParams texts value
    rw [bindEntries, bindEntries]
    generalize bindParams params value = outcome at hvalue ⊢
    generalize bindParams others value = outcome' at hvalue ⊢
    cases hvalue with
    | error f => exact .inl ⟨f, rfl, rfl⟩
    | @ok v w same =>
      rcases sameOutcome_bindEntries texts entries with ⟨f, failed, failed'⟩ | ⟨es, fs, bound, bound', each⟩
      · rw [failed, failed']
        exact .inl ⟨f, rfl, rfl⟩
      · rw [bound, bound']
        exact .inr ⟨(key, v) :: es, (key, w) :: fs, rfl, rfl, .cons ⟨rfl, same⟩ each⟩

end

/-! ## Rearranged parameters -/

/-- Whether the values that two sets have under a name come in place of it with the same text. -/
def SameTexts (params others : Entries) : Prop :=
  ∀ name v w, (.text name, v) ∈ params → (.text name, w) ∈ others → replacementText v = replacementText w

/-- Entries rearranged value by value are names with two values each. -/
theorem exists_pairedValues {entries others : Entries} (named : entries.Named)
    (each : List.Forall₂ Value.RearrangedEntry entries others) (texts : SameTexts entries others) :
    ∃ params, PairedValues params ∧ entries = (firstValues params).map Json.textEntry ∧
      others = (secondValues params).map Json.textEntry := by
  induction each with
  | nil => exact ⟨[], (fun _ impossible => nomatch impossible), rfl, rfl⟩
  | @cons entry other entries others same _ ih =>
    obtain ⟨name, hname⟩ := named.texts entry List.mem_cons_self
    have hnodup := named.nodup
    rw [List.map_cons, List.nodup_cons] at hnodup
    have hmore : Entries.Named entries :=
      ⟨fun entry there => named.texts entry (List.mem_cons_of_mem _ there), hnodup.2⟩
    obtain ⟨params, paired, rfl, rfl⟩ := ih hmore fun name v w there there' =>
      texts name v w (List.mem_cons_of_mem _ there) (List.mem_cons_of_mem _ there')
    have hentry : entry = (.text name, entry.2) := Prod.ext hname rfl
    have hother : other = (.text name, other.2) := Prod.ext (same.1.symm.trans hname) rfl
    refine ⟨(name, entry.2, other.2) :: params, List.forall_mem_cons.mpr ⟨⟨same.2, ?_⟩, paired⟩, ?_, ?_⟩
    · apply texts name entry.2 other.2
      · rw [← hentry]
        exact List.mem_cons_self
      · rw [← hother]
        exact List.mem_cons_self
    · exact congrArg (· :: _) hentry
    · exact congrArg (· :: _) hother

/-- Rearranged parameters bind configurations to rearranged values, if names of one length stay apart and the values of
a name have one text. -/
theorem sameOutcome_of_rearranged {params others : Entries} (named : params.Named) (apart : params.KeptApart)
    (rearranged : (Value.map params).Rearranged (.map others)) (texts : SameTexts params others) (config : Value) :
    SameOutcome (bindParams params config) (bindParams others config) := by
  obtain ⟨given, hgiven, between, perm, each⟩ := rearranged.of_map
  obtain rfl := Value.map.inj hgiven
  have hnamed := named.of_perm perm
  obtain ⟨values, paired, rfl, rfl⟩ := exists_pairedValues hnamed each fun name v w there there' =>
    texts name v w (perm.mem_iff.mpr there) there'
  -- First the order of the parameters is changed, and then what is inside their values.
  rw [bindParams_congr (bindText_eq_of_perm named apart perm)]
  exact sameOutcome_bindParams (bindText_values paired) config

/-! ## Shared entries -/

/-- Requests share an entry exactly if they are about one identifier and JSON says the same of their parameters. If it
can say both, they then bind every configuration to rearranged values, provided that names of one length stay apart and
the values of a name have one text. -/
theorem digest_requestText_eq_iff {digest : String → String} (injective : Function.Injective digest) {id id' : String}
    {params others : Entries} (formed : (Value.map params).WellFormed) (formed' : (Value.map others).WellFormed)
    {text text' : String} (written : requestText id params = .ok text) (written' : requestText id' others = .ok text') :
    (digest text = digest text' ↔ id = id' ∧ Json.said (.map params) = Json.said (.map others)) ∧
      ((Value.map params).IsJson → (Value.map others).IsJson → params.KeptApart → SameTexts params others →
        digest text = digest text' → ∀ config, SameOutcome (bindParams params config) (bindParams others config)) := by
  refine ⟨?_, fun json json' apart texts same config => ?_⟩
  · rw [injective.eq_iff]
    exact requestText_inj formed formed' written written'
  · have named : params.Named := ⟨Value.AreJsonEntriesIn.texts json.2, json.1⟩
    obtain ⟨-, rearranged⟩ := (requestText_inj_of_isJson json json' written written').mp (injective same)
    exact sameOutcome_of_rearranged named apart rearranged texts config

/-- A number and a list under names of their own, in the order of the names. -/
def listedParams : Entries :=
  [(.text "$n", .int 2), (.text "$tags", .list [.text "a", .null])]

/-- Two requests for posts with the parameters in two orders share their answer. -/
theorem digest_requestText_eq_iff_listed :
    ∃ text, requestText "posts" listedParams = .ok text ∧ requestText "posts" listedParams.reverse = .ok text ∧
      Json.said (.map listedParams) = Json.said (.map listedParams.reverse) ∧
      ∀ config, SameOutcome (bindParams listedParams config) (bindParams listedParams.reverse config) := by
  have json : (Value.map listedParams).IsJson := by
    simp [listedParams, Value.IsJsonIn, Value.AreJsonIn, Value.AreJsonEntriesIn]
    decide
  have json' : (Value.map listedParams.reverse).IsJson := by
    simp [listedParams, Value.IsJsonIn, Value.AreJsonIn, Value.AreJsonEntriesIn]
    decide
  have written : requestText "posts" listedParams = .ok "posts\x00\x7b\"$n\": 2, \"$tags\": [\"a\", null]\x7d" := by
    cbv
  have written' : requestText "posts" listedParams.reverse =
      .ok "posts\x00\x7b\"$n\": 2, \"$tags\": [\"a\", null]\x7d" := by
    cbv
  have hcases {name : String} {value : Value} (there : (Value.text name, value) ∈ listedParams) :
      name = "$n" ∧ value = .int 2 ∨ name = "$tags" ∧ value = .list [.text "a", .null] := by
    simpa [listedParams] using there
  have apart : listedParams.KeptApart := by
    intro name value name' value' there there' different sameLength
    rcases hcases there with ⟨rfl, rfl⟩ | ⟨rfl, rfl⟩ <;> rcases hcases there' with ⟨rfl, rfl⟩ | ⟨rfl, rfl⟩
    · exact absurd rfl different
    · exact absurd sameLength (by decide)
    · exact absurd sameLength (by decide)
    · exact absurd rfl different
  have texts : SameTexts listedParams listedParams.reverse := by
    intro name v w there there'
    rcases hcases there with ⟨rfl, rfl⟩ | ⟨rfl, rfl⟩ <;>
      rcases hcases (List.mem_reverse.mp there') with ⟨same, rfl⟩ | ⟨same, rfl⟩
    · rfl
    · exact absurd same (by decide)
    · exact absurd same (by decide)
    · rfl
  have formed := Json.wellFormed_of_isJson _ json
  have formed' := Json.wellFormed_of_isJson _ json'
  obtain ⟨hsaid, hbind⟩ := digest_requestText_eq_iff Function.injective_id formed formed' written written'
  exact ⟨_, written, written', (hsaid.mp rfl).2, hbind json json' apart texts rfl⟩

/-- A date and the text of its day share an entry, but they are bound as they are. -/
theorem bindParams_day_ne :
    ∃ text, requestText "posts" [(.text "$d", .date ⟨2024, 1, 9⟩)] = .ok text ∧
      requestText "posts" [(.text "$d", .text "2024-01-09")] = .ok text ∧
      bindParams [(.text "$d", .date ⟨2024, 1, 9⟩)] (.text "$d") = .ok (.date ⟨2024, 1, 9⟩) ∧
      bindParams [(.text "$d", .text "2024-01-09")] (.text "$d") = .ok (.text "2024-01-09") := by
  refine ⟨"posts\x00\x7b\"$d\": \"2024-01-09\"\x7d", ?_, ?_, ?_, ?_⟩ <;> cbv

end DynamicBlocks
