import DynamicBlocks.Block.Basic
import DynamicBlocks.Proofs.TextReplacement
import Mathlib

/-!
# Blocks and what describes them

A block is read from a mapping, and a mapping can be written of it again. What is written is read as the same block,
since a name that has been read has no namespace left that could be dropped (`Block.Settled`). Blocks that come already
built are kept as they are: their names must be without a slash, and where they hold the blocks inside them in lists
these are tuples when they are read again (`Block.inTuples`). The two spellings of the fields make no difference to the
block: each field that is read is looked for under both of its names, so a node that is spelled in one way may be
respelled anywhere in the tree (`Respelled`).
-/

set_option autoImplicit false

namespace DynamicBlocks

open Text

/-! ## Names -/

/-- Without its namespace a name has no slash. -/
theorem slash_notMem_withoutNamespace (name : String) : '/' ∉ (withoutNamespace name).toList := by
  unfold withoutNamespace
  cases last : (split "/" name).getLast? with
  | none => simp
  | some part =>
    rw [Option.getD_some]
    exact notMem_of_mem_split rfl (List.mem_of_getLast? last)

/-- A name without a slash has no namespace. -/
theorem withoutNamespace_of_slashless {name : String} (slashless : '/' ∉ name.toList) : withoutNamespace name = name := by
  unfold withoutNamespace
  rw [split_of_notMem rfl slashless]
  rfl

/-- A value that stands in for one that counts as false is not replaced again. -/
theorem Value.orElse_orElse (v other : Value) : (v.orElse other).orElse other = v.orElse other := by
  by_cases truthy : v.isTruthy = true
  · have same : v.orElse other = v := if_pos truthy
    rw [same, same]
  · have same : v.orElse other = other := if_neg truthy
    rw [same]
    exact ite_self other

namespace Block

/-- A name without a slash is read as it is. -/
theorem nameOf_of_slashless {name : String} (slashless : '/' ∉ name.toList) : nameOf (.text name) = .ok (.text name) := by
  have same : (Value.text name).orElse (.text "") = .text name := by
    by_cases empty : name = ""
    · rw [empty]
      rfl
    · exact if_pos (bne_iff_ne.mpr empty)
  unfold nameOf
  rw [same]
  dsimp only
  rw [withoutNamespace_of_slashless slashless]

/-- A name that counts as false is read like an empty one. -/
theorem nameOf_orElse (v : Value) : nameOf (v.orElse (.text "")) = nameOf v := by
  unfold nameOf
  rw [Value.orElse_orElse]

/-- What is read as a name is a text without its namespace, or the value that was given. -/
theorem nameOf_cases {v name : Value} (read : nameOf v = .ok name) :
    (∃ given, name = .text (withoutNamespace given)) ∨ name = v.orElse (.text "") := by
  unfold nameOf at read
  split at read
  · exact .inl ⟨_, (Except.ok.inj read).symm⟩
  · rename_i shape
    split at read
    · cases read
    · exact .inr ((Except.ok.inj read).symm.trans shape.symm)
  · rename_i shape
    split at read
    · cases read
    · exact .inr ((Except.ok.inj read).symm.trans shape.symm)
  · cases read

/-- A name that has been read is read as it is. -/
theorem nameOf_of_read {v name : Value} (read : nameOf v = .ok name) : nameOf name = .ok name := by
  rcases nameOf_cases read with ⟨given, rfl⟩ | rfl
  · exact nameOf_of_slashless (slash_notMem_withoutNamespace given)
  · rw [nameOf_orElse]
    exact read

end Block

/-! ## What is read of a description -/

namespace Entries

variable {name : String} {key value : Value} {entries : Entries}

/-- An empty mapping has no fields. -/
@[simp] theorem field?_nil : field? [] name = none := rfl

/-- A mapping has the field in front under its name. -/
theorem field?_cons_self : field? ((.text name, value) :: entries) name = some value := by
  have agrees : (Value.text name).agrees (.text name) = true := Value.agrees_text.mpr rfl
  simp [field?, get?, agrees]

/-- An entry in front under another key makes no difference to a field. -/
theorem field?_cons_of_ne (other : key ≠ .text name) : field? ((key, value) :: entries) name = field? entries name := by
  have differs : key.agrees (.text name) = false := Bool.eq_false_iff.mpr (mt Value.agrees_text.mp other)
  simp [field?, get?, differs]

/-- A field is looked for in the first entries before it is in the rest. -/
theorem field?_append (entries more : Entries) (name : String) :
    field? (entries ++ more) name = (field? entries name).or (field? more name) := by
  unfold field? get?
  rw [List.find?_append, Option.map_or]

end Entries

/-- The items of a list; no others have any. -/
def Value.listed : Value → List Value
  | .list items => items
  | _ => []

namespace Block

/-- The value under which a mapping lists the blocks inside. -/
def innerField (entries : Entries) : Value :=
  firstField entries ["innerBlocks", "inner_blocks"]

/-- The first of two fields that is there counts. -/
theorem firstField_pair (entries : Entries) (first second : String) :
    firstField entries [first, second] = ((Entries.field? entries first).or (Entries.field? entries second)).getD .null := by
  cases found : Entries.field? entries first <;> cases other : Entries.field? entries second <;>
    simp [firstField, List.findSome?, found, other]

/-- The blocks inside a node are those of the field, if it is there. -/
theorem innerOf_eq (name : String) (entries : Entries) :
    innerOf name entries = match Entries.field? entries name with
      | some value => some <$> ofSeries value
      | none => .ok none := by
  induction entries with
  | nil => rfl
  | cons entry entries ih =>
    obtain ⟨key, value⟩ := entry
    unfold innerOf
    by_cases same : key = .text name
    · rw [if_pos (Value.same_text_iff.mpr same), same, Entries.field?_cons_self]
    · rw [if_neg (mt Value.same_text_iff.mp same), Entries.field?_cons_of_ne same, ih]

/-- A mapping is read field by field, each field under the first of its names that is there. -/
theorem ofValue_map (entries : Entries) :
    ofValue (.map entries) = (do
      let name ← nameOf (firstField entries ["blockName", "name"])
      let attrs ← (Entries.field entries "attrs").toEntriesOrNone
      let inner ← ofSeries (innerField entries)
      let context ← (Entries.field entries "context").toEntriesOrNone
      pure ⟨name, attrs, inner, context, .tuple⟩) := by
  unfold ofValue innerField
  rw [innerOf_eq, innerOf_eq, firstField_pair entries "innerBlocks"]
  apply bind_congr
  intro name
  apply bind_congr
  intro attrs
  cases Entries.field? entries "innerBlocks" with
  | some value =>
    simp only [Option.some_or, Option.getD_some]
    cases ofSeries value <;> rfl
  | none =>
    cases Entries.field? entries "inner_blocks" with
    | some value =>
      simp only [Option.none_or, Option.getD_some]
      cases ofSeries value <;> rfl
    | none => rfl

/-- The value under which a block already built has the blocks inside. -/
def builtInnerField (fields : List (String × Value)) : Value :=
  (fields.lookup "inner_blocks").getD .null

/-- The blocks inside a block already built are those of its field. -/
theorem builtInner_eq (fields : List (String × Value)) : builtInner fields = ofSeries (builtInnerField fields) := by
  induction fields with
  | nil => rfl
  | cons field fields ih =>
    obtain ⟨name, value⟩ := field
    unfold builtInner builtInnerField
    by_cases named : name = "inner_blocks"
    · rw [if_pos named, named, List.lookup_cons_self]
      rfl
    · rw [if_neg named, List.lookup_cons, beq_false_of_ne (Ne.symm named)]
      exact ih

/-- A series is read item by item, and what is read without being a list has nothing in it. -/
theorem ofItems_listed {v : Value} {blocks : List Block} (read : ofSeries v = .ok blocks) :
    ofItems v.listed = .ok blocks := by
  cases v with
  | list items =>
    rw [ofSeries] at read
    exact read
  | _ =>
    simp only [ofSeries] at read
    split at read <;> cases read
    rfl

/-- Blocks are read of items one after the other. -/
theorem ofItems_cons (item : Value) (items : List Value) :
    ofItems (item :: items) = (do
      let block ← ofValue item
      let blocks ← ofItems items
      pure (block :: blocks)) := by
  rw [ofItems]

/-- Every block that is read of items is read of one of them. -/
theorem exists_item_of_mem {items : List Value} {blocks : List Block} (read : ofItems items = .ok blocks) :
    ∀ block ∈ blocks, ∃ item ∈ items, ofValue item = .ok block := by
  induction items generalizing blocks with
  | nil =>
    cases read
    simp
  | cons item items ih =>
    rw [ofItems_cons] at read
    obtain ⟨block, first, read⟩ := exists_of_bind_eq_ok read
    obtain ⟨others, rest, read⟩ := exists_of_bind_eq_ok read
    cases read
    intro found there
    rcases List.mem_cons.mp there with rfl | behind
    · exact ⟨item, List.mem_cons_self, first⟩
    · obtain ⟨source, listed, same⟩ := ih rest found behind
      exact ⟨source, List.mem_cons_of_mem _ listed, same⟩

/-- Every item of a series is read as a block of it. -/
theorem exists_block_of_mem {items : List Value} {blocks : List Block} (read : ofItems items = .ok blocks) :
    ∀ item ∈ items, ∃ block ∈ blocks, ofValue item = .ok block := by
  induction items generalizing blocks with
  | nil => simp
  | cons item items ih =>
    rw [ofItems_cons] at read
    obtain ⟨block, first, read⟩ := exists_of_bind_eq_ok read
    obtain ⟨others, rest, read⟩ := exists_of_bind_eq_ok read
    cases read
    intro found there
    rcases List.mem_cons.mp there with rfl | behind
    · exact ⟨block, List.mem_cons_self, first⟩
    · obtain ⟨other, listed, same⟩ := ih rest found behind
      exact ⟨other, List.mem_cons_of_mem _ listed, same⟩

mutual

/-- A block already built is read as itself. -/
theorem ofValue_asBuilt : (block : Block) → ofValue block.asBuilt = .ok block
  | ⟨name, attrs, inner, context, held⟩ => by
    have inside : builtInner [("name", name), ("attrs", .map attrs), ("inner_blocks", .list (allBuilt inner)),
        ("context", .map context)] = .ok inner := by
      rw [builtInner_eq]
      show ofSeries (.list (allBuilt inner)) = .ok inner
      rw [ofSeries, ofItems_allBuilt inner]
    rw [asBuilt, ofValue, inside]
    simp [List.lookup, Value.toEntriesOrNone_map]
    rfl

/-- Blocks already built are read as themselves. -/
theorem ofItems_allBuilt : (blocks : List Block) → ofItems (allBuilt blocks) = .ok blocks
  | [] => rfl
  | block :: blocks => by
    rw [allBuilt, ofItems_cons, ofValue_asBuilt block, ofItems_allBuilt blocks]
    rfl

end

/-- Different blocks are different when they are built. -/
theorem asBuilt_injective : Function.Injective asBuilt := fun block other same =>
  Except.ok.inj ((ofValue_asBuilt block).symm.trans ((congrArg ofValue same).trans (ofValue_asBuilt other)))

/-- A block already built is no mapping. -/
theorem asBuilt_ne_map (block : Block) (entries : Entries) : block.asBuilt ≠ .map entries := by
  cases block
  exact nofun

end Block

/-! ## Written and read again -/

/-- A description of blocks: a mapping, or a block already built that is as wanted, and so on for what a mapping lists
as the blocks inside. -/
inductive Described (wanted : Block → Prop) : Value → Prop
  | map {entries : Entries} (inside : ∀ item ∈ (Block.innerField entries).listed, Described wanted item) :
      Described wanted (.map entries)
  | built {block : Block} (fits : wanted block) : Described wanted block.asBuilt

/-- A mapping describes blocks as wanted if all items it lists do. -/
theorem described_map_iff {wanted : Block → Prop} {entries : Entries} :
    Described wanted (.map entries) ↔ ∀ item ∈ (Block.innerField entries).listed, Described wanted item := by
  refine ⟨fun described => ?_, .map⟩
  generalize given : Value.map entries = d at described
  cases described with
  | map inside =>
    obtain rfl := Value.map.inj given
    exact inside
  | built => exact absurd given.symm (Block.asBuilt_ne_map _ _)

/-- A block already built is as wanted if it is itself. -/
theorem described_asBuilt_iff {wanted : Block → Prop} {block : Block} : Described wanted block.asBuilt ↔ wanted block := by
  refine ⟨fun described => ?_, .built⟩
  generalize given : block.asBuilt = d at described
  cases described with
  | map => exact absurd given (Block.asBuilt_ne_map _ _)
  | built fits =>
    obtain rfl := Block.asBuilt_injective given
    exact fits

namespace Block

/-- A block whose name, like that of every block inside it, is a text without a slash. -/
inductive Slashless : Block → Prop
  | node {block : Block} {name : String} (named : block.name = .text name) (slashless : '/' ∉ name.toList)
      (inside : ∀ child ∈ block.inner, Slashless child) : Slashless block

/-- A block whose name, like that of every block inside it, is read as it is. -/
inductive Settled : Block → Prop
  | node {block : Block} (kept : nameOf block.name = .ok block.name) (inside : ∀ child ∈ block.inner, Settled child) :
      Settled block

/-- A block that holds those inside it in a tuple, like every block inside it. -/
inductive HoldsTuples : Block → Prop
  | node {block : Block} (held : block.held = .tuple) (inside : ∀ child ∈ block.inner, HoldsTuples child) :
      HoldsTuples block

/-- A block holds tuples throughout if it holds one, and those inside it do. -/
theorem holdsTuples_iff {block : Block} :
    block.HoldsTuples ↔ block.held = .tuple ∧ ∀ child ∈ block.inner, child.HoldsTuples :=
  ⟨fun ⟨held, inside⟩ => ⟨held, inside⟩, fun ⟨held, inside⟩ => .node held inside⟩

/-- Blocks whose names are without a slash are settled. -/
theorem Slashless.settled {block : Block} (slashless : block.Slashless) : block.Settled := by
  induction slashless with
  | node named slashless _ ih =>
    refine .node ?_ ih
    rw [named]
    exact nameOf_of_slashless slashless

mutual

/-- The block with tuples for all that hold blocks. -/
def inTuples : Block → Block
  | ⟨name, attrs, inner, context, _⟩ => ⟨name, attrs, allInTuples inner, context, .tuple⟩

/-- Blocks with tuples for all that hold blocks. -/
def allInTuples : List Block → List Block
  | [] => []
  | block :: blocks => inTuples block :: allInTuples blocks

end

/-- Blocks with tuples are each of them with tuples. -/
theorem allInTuples_eq_map (blocks : List Block) : allInTuples blocks = blocks.map inTuples := by
  induction blocks with
  | nil => rfl
  | cons block blocks ih => rw [allInTuples, ih, List.map_cons]

mutual

/-- With tuples for all that hold blocks there are tuples everywhere. -/
theorem holdsTuples_inTuples : (block : Block) → block.inTuples.HoldsTuples
  | ⟨_, _, inner, _, _⟩ => .node rfl (holdsTuples_allInTuples inner)

/-- All blocks with tuples hold tuples. -/
theorem holdsTuples_allInTuples : (blocks : List Block) → ∀ child ∈ allInTuples blocks, child.HoldsTuples
  | [] => by simp [allInTuples]
  | block :: blocks => List.forall_mem_cons.mpr ⟨holdsTuples_inTuples block, holdsTuples_allInTuples blocks⟩

end

/-- It is the same block exactly if there were tuples everywhere. -/
theorem inTuples_eq_iff {block : Block} : block.inTuples = block ↔ block.HoldsTuples := by
  constructor
  · intro same
    rw [← same]
    exact holdsTuples_inTuples block
  · intro holds
    induction holds with
    | @node block held _ ih =>
      obtain ⟨name, attrs, inner, context, held⟩ := block
      obtain rfl := held
      rw [inTuples, allInTuples_eq_map, List.map_congr_left ih, List.map_id']

/-- What is written of blocks is read as these with tuples, if it is for each of them. -/
theorem ofItems_toValues {blocks : List Block} (kept : ∀ block ∈ blocks, ofValue block.toValue = .ok block.inTuples) :
    ofItems (toValues blocks) = .ok (allInTuples blocks) := by
  induction blocks with
  | nil => rfl
  | cons block blocks ih =>
    rw [toValues, ofItems_cons, kept block List.mem_cons_self,
      ih fun other there => kept other (List.mem_cons_of_mem _ there)]
    rfl

/-- A context that is left out because it is empty is read as an empty one. -/
theorem toEntriesOrNone_writtenContext (context : Entries) :
    ((Entries.field? (if context.isEmpty then [] else [(.text "context", .map context)]) "context").getD
      .null).toEntriesOrNone = .ok context := by
  cases context with
  | nil => rfl
  | cons entry context =>
    rw [if_neg (by simp), Entries.field?_cons_self, Option.getD_some, Value.toEntriesOrNone_map]

/-- The mapping written of a block is read as its fields, the name once more without a namespace. -/
theorem ofValue_toValue_node (name : Value) (attrs : Entries) (inner : List Block) (context : Entries) (held : SeriesKind) :
    ofValue (toValue ⟨name, attrs, inner, context, held⟩) = (do
      let name ← nameOf name
      let inner ← ofItems (toValues inner)
      pure ⟨name, attrs, inner, context, .tuple⟩) := by
  rw [toValue, ofValue_map]
  simp only [innerField, firstField, List.findSome?_cons, List.cons_append, List.nil_append, Entries.field,
    Entries.field?_cons_self, Entries.field?_cons_of_ne, Option.getD_some, Value.toEntriesOrNone_map, ofSeries, ne_eq,
    Value.text.injEq, String.reduceEq, not_false_eq_true, toEntriesOrNone_writtenContext]
  rfl

/-- What is written of a settled block is read as that block, but for lists that have become tuples. -/
theorem Settled.ofValue_toValue {block : Block} (settled : block.Settled) : ofValue block.toValue = .ok block.inTuples := by
  induction settled with
  | @node block kept _ ih =>
    obtain ⟨name, attrs, inner, context, held⟩ := block
    rw [ofValue_toValue_node, kept, ofItems_toValues ih]
    rfl

/-- Every block inside a block read of a mapping is read of an item that the mapping lists. -/
theorem read_of_ofValue_map {entries : Entries} {block : Block} (read : ofValue (.map entries) = .ok block) :
    nameOf block.name = .ok block.name ∧ block.held = .tuple ∧ ofItems (innerField entries).listed = .ok block.inner := by
  rw [ofValue_map] at read
  obtain ⟨name, named, read⟩ := exists_of_bind_eq_ok read
  obtain ⟨attrs, -, read⟩ := exists_of_bind_eq_ok read
  obtain ⟨inner, inside, read⟩ := exists_of_bind_eq_ok read
  obtain ⟨context, -, read⟩ := exists_of_bind_eq_ok read
  cases read
  exact ⟨nameOf_of_read named, rfl, ofItems_listed inside⟩

/-- A block read of a description is settled. -/
theorem settled_of_described {d : Value} (described : Described Slashless d) :
    ∀ {block : Block}, ofValue d = .ok block → block.Settled := by
  induction described with
  | map _ ih =>
    intro block read
    obtain ⟨kept, -, inside⟩ := read_of_ofValue_map read
    refine .node kept fun child there => ?_
    obtain ⟨item, listed, source⟩ := exists_item_of_mem inside child there
    exact ih item listed source
  | built slashless =>
    intro block read
    obtain rfl := Except.ok.inj ((ofValue_asBuilt _).symm.trans read)
    exact slashless.settled

/-- A block read of a description holds tuples exactly if all blocks that came already built do. -/
theorem holdsTuples_iff_described {wanted : Block → Prop} {d : Value} (described : Described wanted d) :
    ∀ {block : Block}, ofValue d = .ok block → (block.HoldsTuples ↔ Described HoldsTuples d) := by
  induction described with
  | @map entries _ ih =>
    intro block read
    obtain ⟨-, held, inside⟩ := read_of_ofValue_map read
    rw [holdsTuples_iff, described_map_iff]
    constructor
    · rintro ⟨-, holds⟩ item listed
      obtain ⟨child, there, source⟩ := exists_block_of_mem inside item listed
      exact (ih item listed source).mp (holds child there)
    · refine fun holds => ⟨held, fun child there => ?_⟩
      obtain ⟨item, listed, source⟩ := exists_item_of_mem inside child there
      exact (ih item listed source).mpr (holds item listed)
  | built =>
    intro block read
    obtain rfl := Except.ok.inj ((ofValue_asBuilt _).symm.trans read)
    exact described_asBuilt_iff.symm

end Block

/-! ## Respelling -/

/-- A key under another name; keys that are no texts stay. -/
def Value.rekey (rename : String → String) : Value → Value
  | .text key => .text (rename key)
  | key => key

/-- A key that is renamed to something else is not the name. -/
theorem Value.rekey_ne_text {rename : String → String} {name : String} {v : Value}
    (differs : ∀ key, v = .text key → rename key ≠ name) : v.rekey rename ≠ .text name := by
  cases v with
  | text key => exact fun same => differs key rfl (Value.text.inj same)
  | _ => exact nofun

namespace Entries

/-- The entries under other names, each in its place. -/
def rekeyed (rename : String → String) (entries : Entries) : Entries :=
  entries.map fun entry => (entry.1.rekey rename, entry.2)

variable {rename : String → String} {entries : Entries} {name first second chosen : String}

/-- A field is not there if no key is renamed to it. -/
theorem field?_rekeyed_of_ne (never : ∀ key, rename key ≠ name) : field? (rekeyed rename entries) name = none := by
  induction entries with
  | nil => rfl
  | cons entry entries ih =>
    exact (field?_cons_of_ne (Value.rekey_ne_text fun key _ => never key)).trans ih

/-- A name that stays, and that no other becomes, leads to the same value. -/
theorem field?_rekeyed_of_iff (only : ∀ key, rename key = name ↔ key = name) :
    field? (rekeyed rename entries) name = field? entries name := by
  induction entries with
  | nil => rfl
  | cons entry entries ih =>
    obtain ⟨key, value⟩ := entry
    by_cases same : key = .text name
    · obtain rfl := same
      have stays : (Value.text name).rekey rename = .text name := congrArg Value.text ((only name).mpr rfl)
      rw [field?_cons_self, rekeyed, List.map_cons, stays, field?_cons_self]
    · have differs : key.rekey rename ≠ .text name :=
        Value.rekey_ne_text fun other given becomes => same (given.trans (congrArg Value.text ((only other).mp becomes)))
      rw [field?_cons_of_ne same, ← ih]
      exact field?_cons_of_ne differs

/-- The one name that two others become leads to what either of them led to. -/
theorem field?_rekeyed_of_pair (either : ∀ key, rename key = chosen ↔ key = first ∨ key = second)
    (one : field? entries first = none ∨ field? entries second = none) :
    field? (rekeyed rename entries) chosen = (field? entries first).or (field? entries second) := by
  induction entries with
  | nil => rfl
  | cons entry entries ih =>
    obtain ⟨key, value⟩ := entry
    by_cases isFirst : key = .text first
    · obtain rfl := isFirst
      have becomes : (Value.text first).rekey rename = .text chosen :=
        congrArg Value.text ((either first).mpr (.inl rfl))
      rw [field?_cons_self, Option.some_or, rekeyed, List.map_cons, becomes, field?_cons_self]
    · rw [field?_cons_of_ne isFirst] at one ⊢
      by_cases isSecond : key = .text second
      · obtain rfl := isSecond
        have becomes : (Value.text second).rekey rename = .text chosen :=
          congrArg Value.text ((either second).mpr (.inr rfl))
        rw [field?_cons_self] at one ⊢
        rw [one.resolve_right (Option.some_ne_none value), rekeyed, List.map_cons, becomes, field?_cons_self]
        rfl
      · rw [field?_cons_of_ne isSecond] at one ⊢
        rw [← ih one]
        refine field?_cons_of_ne (Value.rekey_ne_text fun other given becomes => ?_)
        rcases (either other).mp becomes with rfl | rfl
        · exact isFirst given
        · exact isSecond given

end Entries

namespace Block

/-- Of two names for a field, the one that stands in both their places leads to the field. -/
theorem firstField_rekeyed {rename : String → String} {entries : Entries} {first second chosen : String}
    (apart : first ≠ second) (choice : chosen = first ∨ chosen = second)
    (either : ∀ key, rename key = chosen ↔ key = first ∨ key = second)
    (alone : ∀ key, rename key = first ∨ rename key = second → rename key = chosen)
    (one : Entries.field? entries first = none ∨ Entries.field? entries second = none) :
    firstField (Entries.rekeyed rename entries) [first, second] = firstField entries [first, second] := by
  rw [firstField_pair, firstField_pair]
  rcases choice with rfl | rfl
  · have gone : ∀ key, rename key ≠ second := fun key becomes =>
      apart ((alone key (.inr becomes)).symm.trans becomes)
    rw [Entries.field?_rekeyed_of_pair either one, Entries.field?_rekeyed_of_ne gone, Option.or_none]
  · have gone : ∀ key, rename key ≠ first := fun key becomes =>
      apart (becomes.symm.trans (alone key (.inl becomes)))
    rw [Entries.field?_rekeyed_of_pair either one, Entries.field?_rekeyed_of_ne gone, Option.none_or]

/-- The key of a field of a node where the name stands under one key and the blocks inside under another. -/
def respelledKey (nameKey innerKey key : String) : String :=
  if key = "blockName" ∨ key = "name" then nameKey
  else if key = "innerBlocks" ∨ key = "inner_blocks" then innerKey
  else key

/-- A node has its name under one key at most, and the blocks inside too. -/
def OneSpelling (entries : Entries) : Prop :=
  (Entries.field? entries "blockName" = none ∨ Entries.field? entries "name" = none) ∧
    (Entries.field? entries "innerBlocks" = none ∨ Entries.field? entries "inner_blocks" = none)

/-- Respelling touches no other field than the four it is about. -/
theorem respelledKey_eq_iff {nameKey innerKey field : String} (nameChoice : nameKey = "blockName" ∨ nameKey = "name")
    (innerChoice : innerKey = "innerBlocks" ∨ innerKey = "inner_blocks")
    (other : field ∉ ["blockName", "name", "innerBlocks", "inner_blocks"]) (key : String) :
    respelledKey nameKey innerKey key = field ↔ key = field := by
  simp only [List.mem_cons, List.not_mem_nil, or_false, not_or] at other
  unfold respelledKey
  grind

/-- The name and the blocks inside are read of a node the same under either of their keys. -/
theorem ofValue_respelled {entries : Entries} {nameKey innerKey : String} (plain : OneSpelling entries)
    (nameChoice : nameKey = "blockName" ∨ nameKey = "name")
    (innerChoice : innerKey = "innerBlocks" ∨ innerKey = "inner_blocks") :
    ofValue (.map (Entries.rekeyed (respelledKey nameKey innerKey) entries)) = ofValue (.map entries) := by
  have name : firstField (Entries.rekeyed (respelledKey nameKey innerKey) entries) ["blockName", "name"] =
      firstField entries ["blockName", "name"] :=
    firstField_rekeyed (by decide) nameChoice (by grind [respelledKey]) (by grind [respelledKey]) plain.1
  have inner : firstField (Entries.rekeyed (respelledKey nameKey innerKey) entries) ["innerBlocks", "inner_blocks"] =
      firstField entries ["innerBlocks", "inner_blocks"] :=
    firstField_rekeyed (by decide) innerChoice (by grind [respelledKey]) (by grind [respelledKey]) plain.2
  have kept {field : String} (other : field ∉ ["blockName", "name", "innerBlocks", "inner_blocks"]) :
      Entries.field? (Entries.rekeyed (respelledKey nameKey innerKey) entries) field = Entries.field? entries field :=
    Entries.field?_rekeyed_of_iff (respelledKey_eq_iff nameChoice innerChoice other)
  rw [ofValue_map, ofValue_map, name, innerField, innerField, inner, Entries.field, Entries.field, kept (by decide),
    kept (by decide)]
  rfl

/-- Descriptions of which one is the other with a node respelled: the node itself, or one listed among the blocks
inside. -/
inductive Respelled : Value → Value → Prop
  | node {entries : Entries} {nameKey innerKey : String} (plain : OneSpelling entries)
      (nameChoice : nameKey = "blockName" ∨ nameKey = "name")
      (innerChoice : innerKey = "innerBlocks" ∨ innerKey = "inner_blocks") :
      Respelled (.map entries) (.map (Entries.rekeyed (respelledKey nameKey innerKey) entries))
  | inside {before behind : Entries} {key : String} {front rear : List Value} {v w : Value}
      (choice : key = "innerBlocks" ∨ key = "inner_blocks") (there : Respelled v w) :
      Respelled (.map (before ++ (.text key, .list (front ++ v :: rear)) :: behind))
        (.map (before ++ (.text key, .list (front ++ w :: rear)) :: behind))

/-- Items with one replaced by another that is read the same are read the same. -/
theorem ofItems_replace {v w : Value} (same : ofValue v = ofValue w) (front rear : List Value) :
    ofItems (front ++ v :: rear) = ofItems (front ++ w :: rear) := by
  induction front with
  | nil => rw [List.nil_append, List.nil_append, ofItems_cons, ofItems_cons, same]
  | cons item front ih => rw [List.cons_append, List.cons_append, ofItems_cons, ofItems_cons, ih]

/-- What stands under one key does not matter for the others, nor for what is read under its own if it is read the same.
-/
theorem map_ofSeries_field?_replace {before behind : Entries} {key : String} {v w : Value} (same : ofSeries v = ofSeries w)
    (name : String) :
    (Entries.field? (before ++ (.text key, v) :: behind) name).map ofSeries =
      (Entries.field? (before ++ (.text key, w) :: behind) name).map ofSeries := by
  rw [Entries.field?_append, Entries.field?_append, Option.map_or, Option.map_or]
  by_cases named : key = name
  · rw [named, Entries.field?_cons_self, Entries.field?_cons_self, Option.map_some, Option.map_some, same]
  · have other : Value.text key ≠ .text name := fun same => named (Value.text.inj same)
    rw [Entries.field?_cons_of_ne other, Entries.field?_cons_of_ne other]

/-- A field under another name than that of the entry replaced stays. -/
theorem field?_replace {before behind : Entries} {key name : String} (v w : Value) (other : key ≠ name) :
    Entries.field? (before ++ (.text key, v) :: behind) name = Entries.field? (before ++ (.text key, w) :: behind) name := by
  have other : Value.text key ≠ .text name := fun same => other (Value.text.inj same)
  rw [Entries.field?_append, Entries.field?_append, Entries.field?_cons_of_ne other, Entries.field?_cons_of_ne other]

/-- The blocks of the first of two fields are those of the first one that is there, or none. -/
theorem ofSeries_firstField_pair (entries : Entries) (first second : String) :
    ofSeries (firstField entries [first, second]) =
      (((Entries.field? entries first).map ofSeries).or ((Entries.field? entries second).map ofSeries)).getD (.ok []) := by
  rw [firstField_pair]
  cases Entries.field? entries first <;> cases Entries.field? entries second <;> rfl

/-- Respelling changes nothing of the block that is read. -/
theorem Respelled.ofValue_eq {d d' : Value} (respelled : Respelled d d') : ofValue d' = ofValue d := by
  induction respelled with
  | node plain nameChoice innerChoice => exact ofValue_respelled plain nameChoice innerChoice
  | @inside before behind key front rear v w choice _ ih =>
    -- The list is read the same with either item in it, and under no other key anything has changed.
    have series : ofSeries (.list (front ++ w :: rear)) = ofSeries (.list (front ++ v :: rear)) := by
      rw [ofSeries, ofSeries, ofItems_replace ih]
    have kept : ∀ name, key ≠ name →
        Entries.field? (before ++ (.text key, .list (front ++ w :: rear)) :: behind) name =
          Entries.field? (before ++ (.text key, .list (front ++ v :: rear)) :: behind) name :=
      fun name => field?_replace _ _
    rw [ofValue_map, ofValue_map, firstField_pair, firstField_pair, kept "blockName" (by grind), kept "name" (by grind),
      innerField, innerField, ofSeries_firstField_pair, ofSeries_firstField_pair, map_ofSeries_field?_replace series,
      map_ofSeries_field?_replace series, Entries.field, Entries.field, Entries.field, Entries.field,
      kept "attrs" (by grind), kept "context" (by grind)]

/-- What is written of a described block is read as that block with tuples for all that hold blocks, so it is read as
the block itself exactly if all blocks that came already built hold tuples. The description may be respelled at any node
that is spelled in one way. -/
theorem ofValue_toValue_and_respelled {d : Value} (described : Described Slashless d) {block : Block}
    (read : ofValue d = .ok block) :
    ofValue block.toValue = .ok block.inTuples ∧
      (ofValue block.toValue = .ok block ↔ Described HoldsTuples d) ∧
      ∀ d', Relation.ReflTransGen Respelled d d' → ofValue d' = .ok block := by
  have again := (settled_of_described described read).ofValue_toValue
  refine ⟨again, ?_, fun d' respelled => ?_⟩
  · rw [again, Except.ok.injEq, inTuples_eq_iff]
    exact holdsTuples_iff_described described read
  induction respelled with
  | refl => exact read
  | tail _ last ih => exact last.ofValue_eq.trans ih

/-- A spacer that the host has built. -/
def spacer : Block := ⟨.text "spacer", [], [], [(.text "depth", .int 1)], .tuple⟩

/-- A card with a namespace on its name and nothing for its attributes; in it stand a text, in a spelling of its own,
and a block already built. -/
def cardDescription (nameKey innerKey textKey : String) : Value :=
  .map [(.text nameKey, .text "theme/page/card"), (.text "attrs", .null), (.text innerKey, .list
    [.map [(.text textKey, .text "etch/text"), (.text "attrs", .map [(.text "content", .text "Hello")])], spacer.asBuilt])]

def card : Block :=
  ⟨.text "card", [], [⟨.text "text", [(.text "content", .text "Hello")], [], [], .tuple⟩, spacer], [], .tuple⟩

/-- What the card is made of is as wanted if the spacer is. -/
theorem described_cardDescription {wanted : Block → Prop} (fits : wanted spacer) :
    Described wanted (cardDescription "name" "inner_blocks" "blockName") := by
  refine .map fun item there => ?_
  simp [innerField, firstField_pair, Entries.field?_cons_self, Entries.field?_cons_of_ne, Value.listed] at there
  rcases there with rfl | rfl
  · refine .map fun item there => ?_
    simp [innerField, firstField_pair, Entries.field?_cons_of_ne, Value.listed] at there
  · exact .built fits

/-- The card reads as the same block when it is written and read again, and when two of its nodes are respelled. -/
theorem ofValue_toValue_and_respelled_card :
    Described Slashless (cardDescription "name" "inner_blocks" "blockName") ∧
      ofValue (cardDescription "name" "inner_blocks" "blockName") = .ok card ∧ ofValue card.toValue = .ok card ∧
      ofValue (cardDescription "blockName" "innerBlocks" "name") = .ok card := by
  have described : Described Slashless (cardDescription "name" "inner_blocks" "blockName") :=
    described_cardDescription (.node rfl (by decide) (by simp [spacer]))
  have tuples : Described HoldsTuples (cardDescription "name" "inner_blocks" "blockName") :=
    described_cardDescription (.node rfl (by simp [spacer]))
  have read : ofValue (cardDescription "name" "inner_blocks" "blockName") = .ok card := by cbv
  have outer : Respelled (cardDescription "name" "inner_blocks" "blockName")
      (cardDescription "blockName" "innerBlocks" "blockName") :=
    @Respelled.node _ "blockName" "innerBlocks" (by
      simp [OneSpelling, Entries.field?_cons_of_ne]) (.inl rfl) (.inl rfl)
  have inner : Respelled (cardDescription "blockName" "innerBlocks" "blockName")
      (cardDescription "blockName" "innerBlocks" "name") :=
    @Respelled.inside [_, _] [] "innerBlocks" [] [_] _ _ (.inl rfl) (@Respelled.node _ "name" "innerBlocks" (by
      simp [OneSpelling, Entries.field?_cons_of_ne]) (.inr rfl) (.inl rfl))
  obtain ⟨-, kept, same⟩ := ofValue_toValue_and_respelled described read
  exact ⟨described, read, kept.mpr tuples, same _ (.tail (.single outer) inner)⟩

/-- An element that the host has built with a list of the blocks inside it. -/
def listedElement : Block :=
  ⟨.text "element", [], [⟨.text "text", [], [], [], .tuple⟩], [], .list⟩

/-- The element is taken as it is and read again with a tuple, which is another block. Where a node has both keys of its
name the first counts, though it stand for nothing, so that with the second in its place there is another block. -/
theorem ofValue_toValue_listedElement_ne :
    (ofValue listedElement.asBuilt = .ok listedElement ∧ ofValue listedElement.toValue ≠ .ok listedElement) ∧
      ofValue (.map [(.text "blockName", .null), (.text "name", .text "text")]) = .ok ⟨.text "", [], [], [], .tuple⟩ ∧
      ofValue (.map [(.text "blockName", .text "text")]) = .ok ⟨.text "text", [], [], [], .tuple⟩ := by
  have again : ofValue listedElement.toValue = .ok { listedElement with held := .tuple } := by cbv
  refine ⟨⟨ofValue_asBuilt listedElement, fun same => ?_⟩, by cbv, by cbv⟩
  have held : SeriesKind.tuple = listedElement.held := congrArg Block.held (Except.ok.inj (again.symm.trans same))
  exact absurd held (by decide)

end Block

end DynamicBlocks
