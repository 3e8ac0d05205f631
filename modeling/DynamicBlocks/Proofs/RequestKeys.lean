import DynamicBlocks.Loop.Cache
import DynamicBlocks.Proofs.CanonicalJson

/-!
# What requests share

A request is known by the identifier of its preset and the canonical text of its parameters, with a NUL between. JSON
text has no control characters, so the last NUL is the one between, whatever the identifier holds, and two requests are
known alike exactly if they have one identifier and JSON says the same of their parameters (`requestText_inj`). Of
parameters that JSON can say this means that they are rearranged (`requestText_inj_of_isJson`).
-/

set_option autoImplicit false

namespace DynamicBlocks

namespace Json

/-! ## JSON text has no control characters -/

/-- A mapping whose values are printed is printed. -/
theorem printed_objectText {style : Style} (ascii : style.asciiOnly = true) {entries : List WrittenEntry}
    (printed : ∀ entry ∈ entries, Printed entry.value.toList) {s : String}
    (written : objectText style entries = .ok s) : Printed s.toList := by
  obtain ⟨inOrder, hmem, rfl⟩ : ∃ inOrder : List WrittenEntry, (∀ entry ∈ inOrder, entry ∈ entries) ∧
      s = "\x7b" ++ Text.join ", " (inOrder.map fun entry =>
        stringText style.asciiOnly entry.name ++ ": " ++ entry.value) ++ "\x7d" := by
    unfold objectText at written
    split at written
    · obtain ⟨sorted, hsorted, htext⟩ := exists_of_bind_eq_ok written
      obtain rfl := (sortEntries_eq_ok hsorted).2
      exact ⟨_, fun entry there => (inKeyOrder_perm _ _).mem_iff.mp there, (Except.ok.inj htext).symm⟩
    · exact ⟨entries, fun _ there => there, (Except.ok.inj written).symm⟩
  have htexts : Printed (Text.join ", " (inOrder.map fun entry =>
      stringText style.asciiOnly entry.name ++ ": " ++ entry.value)).toList := by
    refine printed_join fun text there => ?_
    obtain ⟨entry, hentry, rfl⟩ := List.mem_map.mp there
    rw [String.toList_append, String.toList_append, printed_append, printed_append]
    rw [ascii]
    exact ⟨⟨printed_stringText _, by decide⟩, printed entry (hmem entry hentry)⟩
  rw [String.toList_append, String.toList_append, printed_append, printed_append]
  exact ⟨⟨by decide, htexts⟩, by decide⟩

mutual

/-- The text of a value in ASCII has no control characters. -/
theorem printed_write {style : Style} (ascii : style.asciiOnly = true) :
    (v : Value) → ∀ {s : String}, write style v = .ok s → Printed s.toList
  | .null, s, written => by
    obtain rfl := Except.ok.inj written
    decide
  | .bool b, s, written => by
    obtain rfl := Except.ok.inj written
    cases b <;> decide
  | .int n, s, written => by
    obtain rfl := Except.ok.inj written
    exact printed_intText n
  | .double x, s, written => by
    obtain rfl := Except.ok.inj written
    exact printed_doubleText x
  | .list items, s, written => by
    obtain ⟨texts, hitems, htext⟩ := exists_of_bind_eq_ok written
    obtain rfl := Except.ok.inj htext
    rw [String.toList_append, String.toList_append, printed_append, printed_append]
    exact ⟨⟨by decide, printed_join (printed_writeItems ascii items hitems)⟩, by decide⟩
  | .map entries, s, written => by
    obtain ⟨texts, hentries, htext⟩ := exists_of_bind_eq_ok written
    exact printed_objectText ascii (printed_writeEntries ascii entries hentries) htext
  | .text t, s, written => by
    obtain rfl := Except.ok.inj written
    exact printed_stringText_of ascii _
  | .loop .., s, written => by
    obtain rfl := Except.ok.inj written
    exact printed_stringText_of ascii _
  | .date _, s, written => by
    obtain rfl := Except.ok.inj written
    exact printed_stringText_of ascii _
  | .moment _, s, written => by
    obtain rfl := Except.ok.inj written
    exact printed_stringText_of ascii _
  | .object .., s, written => by
    obtain rfl := Except.ok.inj written
    exact printed_stringText_of ascii _
  | .built .., s, written => by
    obtain rfl := Except.ok.inj written
    exact printed_stringText_of ascii _

/-- Items written in ASCII are printed. -/
theorem printed_writeItems {style : Style} (ascii : style.asciiOnly = true) :
    (items : List Value) → ∀ {texts : List String},
    writeItems style items = .ok texts → ∀ text ∈ texts, Printed text.toList
  | [], texts, written => by
    obtain rfl := Except.ok.inj written
    exact List.forall_mem_nil _
  | item :: items, texts, written => by
    obtain ⟨text, hitem, written⟩ := exists_of_bind_eq_ok written
    obtain ⟨others, hitems, htexts⟩ := exists_of_bind_eq_ok written
    obtain rfl := Except.ok.inj htexts
    exact List.forall_mem_cons.mpr ⟨printed_write ascii item hitem, printed_writeItems ascii items hitems⟩

/-- Entries written in ASCII are printed. -/
theorem printed_writeEntries {style : Style} (ascii : style.asciiOnly = true) :
    (entries : List (Value × Value)) → ∀ {texts : List WrittenEntry}, writeEntries style entries = .ok texts →
      ∀ entry ∈ texts, Printed entry.value.toList
  | [], texts, written => by
    obtain rfl := Except.ok.inj written
    exact List.forall_mem_nil _
  | (_, value) :: entries, texts, written => by
    obtain ⟨name, -, written⟩ := exists_of_bind_eq_ok written
    obtain ⟨text, hvalue, written⟩ := exists_of_bind_eq_ok written
    obtain ⟨others, hentries, htexts⟩ := exists_of_bind_eq_ok written
    obtain rfl := Except.ok.inj htexts
    exact List.forall_mem_cons.mpr ⟨printed_write ascii value hvalue, printed_writeEntries ascii entries hentries⟩

end

end Json

/-! ## Requests -/

/-- A separator that occurs in neither of two ends separates them from what stands before. -/
theorem append_cons_inj_of_notMem {α : Type} {c : α} {front front' back back' : List α} (absent : c ∉ back)
    (absent' : c ∉ back') (same : front ++ c :: back = front' ++ c :: back') : front = front' ∧ back = back' := by
  rcases List.append_eq_append_iff.mp same with ⟨more, hfront, hback⟩ | ⟨more, hfront, hback⟩
  · cases more with
    | nil => exact ⟨(hfront.trans (List.append_nil front)).symm, (List.cons.inj hback).2⟩
    | cons d more =>
      exact absurd (by rw [(List.cons.inj hback).2]; simp) absent
  · cases more with
    | nil => exact ⟨hfront.trans (List.append_nil front'), (List.cons.inj hback).2.symm⟩
    | cons d more =>
      exact absurd (by rw [(List.cons.inj hback).2]; simp) absent'

/-- The text of a request is the name, a zero character and the parameters as JSON. -/
theorem exists_of_requestText {id : String} {params : Entries} {text : String} (h : requestText id params = .ok text) :
    ∃ payload, Json.write .canonical (.map params) = .ok payload ∧
      text.toList = id.toList ++ '\x00' :: payload.toList := by
  obtain ⟨payload, written, htext⟩ := exists_of_bind_eq_ok h
  split at htext
  · obtain rfl := Except.ok.inj htext
    refine ⟨payload, written, ?_⟩
    rw [String.toList_append, String.toList_append, List.append_assoc]
    rfl
  · cases htext

/-- Requests are known alike exactly if they have one identifier and one canonical text of their parameters. -/
theorem requestText_inj_iff_write {id id' : String} {params others : Entries} {text text' payload payload' : String}
    (h : requestText id params = .ok text) (h' : requestText id' others = .ok text')
    (written : Json.write .canonical (.map params) = .ok payload)
    (written' : Json.write .canonical (.map others) = .ok payload') :
    text = text' ↔ id = id' ∧ payload = payload' := by
  obtain ⟨_, hwritten, htext⟩ := exists_of_requestText h
  obtain ⟨_, hwritten', htext'⟩ := exists_of_requestText h'
  obtain rfl := Except.ok.inj (hwritten.symm.trans written)
  obtain rfl := Except.ok.inj (hwritten'.symm.trans written')
  -- JSON text has no NUL, so the last one is the one behind the identifier.
  have habsent {p : String} {params : Entries} (written : Json.write .canonical (.map params) = .ok p) :
      '\x00' ∉ p.toList := fun there => absurd (Json.printed_write rfl _ written _ there) (by decide)
  rw [← String.toList_inj, htext, htext', ← String.toList_inj, ← String.toList_inj]
  constructor
  · exact append_cons_inj_of_notMem (habsent written) (habsent written')
  · rintro ⟨hid, hpayload⟩
    rw [hid, hpayload]

/-- Requests that are known alike are about one identifier. -/
theorem id_eq_of_requestText {id id' : String} {params others : Entries} {text : String}
    (h : requestText id params = .ok text) (h' : requestText id' others = .ok text) : id = id' := by
  obtain ⟨payload, written, -⟩ := exists_of_requestText h
  obtain ⟨payload', written', -⟩ := exists_of_requestText h'
  exact ((requestText_inj_iff_write h h' written written').mp rfl).1

/-- Requests are known alike exactly if they have one identifier and JSON says the same of their parameters. -/
theorem requestText_inj {id id' : String} {params others : Entries} (formed : (Value.map params).WellFormed)
    (formed' : (Value.map others).WellFormed) {text text' : String} (h : requestText id params = .ok text)
    (h' : requestText id' others = .ok text') :
    text = text' ↔ id = id' ∧ Json.said (.map params) = Json.said (.map others) := by
  obtain ⟨payload, written, -⟩ := exists_of_requestText h
  obtain ⟨payload', written', -⟩ := exists_of_requestText h'
  rw [requestText_inj_iff_write h h' written written', Json.write_canonical_inj formed formed' written written']

/-- A request whose parameters can be written can be written down if bytes can be made of its identifier, and fails else.
-/
theorem requestText_of_write {params : Entries} {payload : String}
    (written : Json.write .canonical (.map params) = .ok payload) (id : String) :
    requestText id params = if Text.isEncodable id then .ok (id ++ "\x00" ++ payload) else .error .badValue := by
  unfold requestText
  rw [written]
  rfl

/-- A request with parameters that JSON can say can be written down, if its identifier can. -/
theorem exists_requestText {id : String} (encodable : Text.isEncodable id = true) {params : Entries}
    (json : (Value.map params).IsJson) : ∃ text, requestText id params = .ok text := by
  obtain ⟨payload, written⟩ := Json.exists_write_canonical json
  rw [requestText_of_write written, if_pos encodable]
  exact ⟨_, rfl⟩

/-- Requests with parameters that JSON can say are known alike exactly if they have one identifier and their parameters
are rearranged. -/
theorem requestText_inj_of_isJson {id id' : String} {params others : Entries} (json : (Value.map params).IsJson)
    (json' : (Value.map others).IsJson) {text text' : String} (h : requestText id params = .ok text)
    (h' : requestText id' others = .ok text') :
    text = text' ↔ id = id' ∧ (Value.map params).Rearranged (.map others) := by
  rw [requestText_inj (Json.wellFormed_of_isJson _ json) (Json.wellFormed_of_isJson _ json') h h',
    Json.said_eq_iff_rearranged json json']

end DynamicBlocks
