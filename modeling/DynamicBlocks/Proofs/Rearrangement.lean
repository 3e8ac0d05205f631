import DynamicBlocks.Proofs.JsonRoundTrip
import Mathlib.Data.List.Perm.Basic

/-!
# Rearranged values

The order in which the entries of a mapping were given is part of a value, but often it is of no account. Two values
are rearranged if they differ in that order only, in the mappings that they hold as in themselves. Of two mappings
this says that the entries of one, put in the order of the other, have the same keys and values rearranged
(`Rearranged.of_map`).
-/

set_option autoImplicit false

namespace DynamicBlocks

namespace Value

/-- Two values that differ in nothing but the order of entries, be it in mappings further inside. -/
inductive Rearranged : Value → Value → Prop where
  | refl (v : Value) : Rearranged v v
  | trans {u v w : Value} : Rearranged u v → Rearranged v w → Rearranged u w
  /-- The entries of a mapping in another order. -/
  | perm {entries others : Entries} : entries.Perm others → Rearranged (.map entries) (.map others)
  /-- One of the items of a list rearranged. -/
  | item (before after : List Value) {v w : Value} :
    Rearranged v w → Rearranged (.list (before ++ v :: after)) (.list (before ++ w :: after))
  /-- The value of one of the entries of a mapping rearranged. -/
  | entry (before after : Entries) (key : Value) {v w : Value} :
    Rearranged v w → Rearranged (.map (before ++ (key, v) :: after)) (.map (before ++ (key, w) :: after))

/-- Two entries with one key and values rearranged. -/
def RearrangedEntry (entry other : Value × Value) : Prop :=
  entry.1 = other.1 ∧ entry.2.Rearranged other.2

/-- JSON can say all items exactly if it can say each. -/
theorem areJson_iff {items : List Value} : AreJsonIn true items ↔ ∀ item ∈ items, item.IsJson := by
  induction items with
  | nil => simp [AreJsonIn]
  | cons item items ih => simp [AreJsonIn, ih]

/-- JSON can say all entries exactly if each has a text as key and JSON can say its value. -/
theorem areJsonEntries_iff {entries : Entries} :
    AreJsonEntriesIn true entries ↔
      ∀ entry ∈ entries, (∃ s, entry.1 = .text s ∧ Text.Unpaired s.toList) ∧ entry.2.IsJson := by
  induction entries with
  | nil => simp [AreJsonEntriesIn]
  | cons entry entries ih =>
    obtain ⟨key, value⟩ := entry
    simp [AreJsonEntriesIn, ih, and_assoc]

namespace Rearranged

/-- Values that are rearrangements of each other are so the other way round. -/
theorem symm {v w : Value} (same : v.Rearranged w) : w.Rearranged v := by
  induction same with
  | refl v => exact .refl v
  | trans _ _ first second => exact second.trans first
  | perm order => exact .perm order.symm
  | item before after _ ih => exact .item before after ih
  | entry before after key _ ih => exact .entry before after key ih

/-- Rearranging item by item rearranges a list. -/
theorem items {xs ys : List Value} (each : List.Forall₂ Rearranged xs ys) : (list xs).Rearranged (.list ys) := by
  have hmore (before : List Value) : (list (before ++ xs)).Rearranged (.list (before ++ ys)) := by
    induction each generalizing before with
    | nil => exact .refl _
    | @cons x y xs ys first _ ih =>
      refine (Rearranged.item before xs first).trans ?_
      simpa using ih (before ++ [y])
  exact hmore []

/-- Rearranging value by value rearranges a mapping. -/
theorem values {es fs : Entries} (each : List.Forall₂ RearrangedEntry es fs) : (map es).Rearranged (.map fs) := by
  have hmore (before : Entries) : (map (before ++ es)).Rearranged (.map (before ++ fs)) := by
    induction each generalizing before with
    | nil => exact .refl _
    | @cons e f es fs first _ ih =>
      obtain ⟨key, v⟩ := e
      obtain ⟨key', w⟩ := f
      obtain ⟨hkey, hvalue⟩ := first
      obtain rfl : key = key' := hkey
      refine (Rearranged.entry before es key hvalue).trans ?_
      simpa using ih (before ++ [(key, w)])
  exact hmore []

/-- What is rearranged is a value that JSON can say if it was before. -/
theorem isJson {v w : Value} (same : v.Rearranged w) (json : v.IsJson) : w.IsJson := by
  induction same with
  | refl v => exact json
  | trans _ _ first second => exact second (first json)
  | perm order =>
    obtain ⟨nodup, each⟩ := json
    rw [areJsonEntries_iff] at each
    refine ⟨(order.map _).nodup_iff.mp nodup, areJsonEntries_iff.mpr fun entry there => ?_⟩
    exact each entry (order.mem_iff.mpr there)
  | @item before after v w _ ih =>
    have each := areJson_iff.mp json
    refine areJson_iff.mpr fun item there => ?_
    rcases List.mem_append.mp there with earlier | later
    · exact each item (List.mem_append_left _ earlier)
    · rcases List.mem_cons.mp later with rfl | later
      · exact ih (each v (List.mem_append_right _ List.mem_cons_self))
      · exact each item (List.mem_append_right _ (List.mem_cons_of_mem _ later))
  | @entry before after key v w _ ih =>
    obtain ⟨nodup, each⟩ := json
    rw [areJsonEntries_iff] at each
    refine ⟨by simpa using nodup, areJsonEntries_iff.mpr fun entry there => ?_⟩
    rcases List.mem_append.mp there with earlier | later
    · exact each entry (List.mem_append_left _ earlier)
    · rcases List.mem_cons.mp later with rfl | later
      · obtain ⟨hkey, hvalue⟩ := each (key, v) (List.mem_append_right _ List.mem_cons_self)
        exact ⟨hkey, ih hvalue⟩
      · exact each entry (List.mem_append_right _ (List.mem_cons_of_mem _ later))

end Rearranged

/-- Every entry is a rearrangement of itself. -/
theorem rearrangedEntry_refl (entry : Value × Value) : RearrangedEntry entry entry :=
  ⟨rfl, .refl _⟩

/-- Entries are rearrangements of themselves, one by one. -/
theorem forall₂_rearrangedEntry_refl (entries : Entries) : List.Forall₂ RearrangedEntry entries entries :=
  List.forall₂_same.mpr fun entry _ => rearrangedEntry_refl entry

/-- Rearranging entries one by one twice is doing so once. -/
theorem forall₂_rearrangedEntry_trans {es fs gs : Entries} (first : List.Forall₂ RearrangedEntry es fs)
    (second : List.Forall₂ RearrangedEntry fs gs) : List.Forall₂ RearrangedEntry es gs := by
  induction first generalizing gs with
  | nil => exact second
  | @cons e f es fs here _ ih =>
    obtain - | ⟨here', more⟩ := second
    exact .cons ⟨here.1.trans here'.1, here.2.trans here'.2⟩ (ih more)

/-- A mapping is rearranged to a mapping alone: its entries in some order, with values rearranged. -/
theorem Rearranged.of_map {entries : Entries} {w : Value} (same : (map entries).Rearranged w) :
    ∃ others, w = .map others ∧ ∃ between, entries.Perm between ∧ List.Forall₂ RearrangedEntry between others := by
  generalize hv : Value.map entries = v at same
  induction same generalizing entries with
  | refl v => exact ⟨entries, hv.symm, entries, .refl _, forall₂_rearrangedEntry_refl entries⟩
  | trans _ _ first second =>
    obtain ⟨es, hes, inside, perm, each⟩ := first hv
    obtain ⟨fs, hfs, inside', perm', each'⟩ := second hes.symm
    -- The second change of order is made first, on the entries before their values are rearranged.
    obtain ⟨between, order, values⟩ : (Relation.Comp List.Perm (List.Forall₂ RearrangedEntry)) inside inside' := by
      rw [← List.forall₂_comp_perm_eq_perm_comp_forall₂]
      exact ⟨es, each, perm'⟩
    exact ⟨fs, hfs, between, perm.trans order, forall₂_rearrangedEntry_trans values each'⟩
  | perm order =>
    obtain rfl := Value.map.inj hv
    exact ⟨_, rfl, _, order, forall₂_rearrangedEntry_refl _⟩
  | item => cases hv
  | @entry before after key v w same _ =>
    obtain rfl := Value.map.inj hv
    refine ⟨_, rfl, _, .refl _, ?_⟩
    apply List.rel_append (forall₂_rearrangedEntry_refl before)
    exact .cons ⟨rfl, same⟩ (forall₂_rearrangedEntry_refl after)

end Value

end DynamicBlocks
