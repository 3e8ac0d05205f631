import DynamicBlocks.Pattern.Cache
import Mathlib

/-!
# Histories of a pattern cache

Nobody who looks patterns up can tell that there is a cache: whatever was looked up before, and however often it was
cleared, a call comes to what the loader says. What the cache knows is a function of the texts looked up since it was
last cleared (`PatternCache.Reflects`): each of them once, in the order in which they first came up, with what the
loader says of it, be it a pattern or that there is none. So the loader is asked once for each text, though the
reference be written as a number here and as a text there.
-/

set_option autoImplicit false

namespace DynamicBlocks

/-- Texts without repeats are all different. -/
theorem Text.nodup_eraseDups (texts : List String) : texts.eraseDups.Nodup := by
  induction texts using List.reverseRecOn with
  | nil => exact List.nodup_nil
  | append_singleton texts text ih =>
    by_cases known : text ∈ texts
    · rwa [Text.eraseDups_concat_of_mem known]
    · rw [Text.eraseDups_concat_of_notMem known]
      have apart : text ∉ texts.eraseDups := fun there => known (List.mem_eraseDups.mp there)
      rw [← List.concat_eq_append]
      exact ih.concat apart

/-- A call of a pattern cache. -/
inductive PatternCall where
  | get (ref : Value)
  | blocks (ref : Value)
  | props (ref : Value)
  | clear

/-- What is handed back for a call. -/
inductive PatternAnswer where
  | pattern (found : Option Pattern)
  | blocks (blocks : List Block)
  | props (definitions : List PropDefinition)
  | cleared

/-- A loader that has a pattern for a reference, or says that it has none. -/
def PatternLoader.Answers (loader : PatternLoader) : Prop :=
  ∀ ref, (∃ pattern, loader.find ref = .ok pattern) ∨ ∃ fault, loader.find ref = .error (.patternNotFound fault)

/-- The pattern that a loader has under a text. -/
def PatternLoader.pattern? (loader : PatternLoader) (text : String) : Option Pattern :=
  (loader.find text).toOption

/-- The pattern that a reference means: null and the empty text mean none. -/
def PatternLoader.meant (loader : PatternLoader) (ref : Value) : Option Pattern :=
  if PatternCache.asksNothing ref then none else loader.pattern? ref.plain

namespace PatternCall

/-- The text that a reference is looked up under, unless it asks for nothing. -/
def textOf? (ref : Value) : Option String :=
  if PatternCache.asksNothing ref then none else some ref.plain

/-- The text that a call looks something up under. -/
def text? : PatternCall → Option String
  | .get ref => textOf? ref
  | .blocks ref => textOf? ref
  | .props ref => textOf? ref
  | .clear => none

def clears : PatternCall → Bool
  | .clear => true
  | _ => false

/-- What a call has to come to, given a loader and no cache. -/
def expected (loader : PatternLoader) : PatternCall → PatternAnswer
  | .get ref => .pattern (loader.meant ref)
  | .blocks ref => .blocks ((loader.meant ref).elim [] Pattern.blocks)
  | .props ref => .props ((loader.meant ref).elim [] Pattern.props)
  | .clear => .cleared

/-- The calls up to the last one that clears, with it. -/
def upToClear (calls : List PatternCall) : List PatternCall :=
  calls.rdropWhile fun call => !call.clears

/-- The calls since the last one that clears. -/
def sinceClear (calls : List PatternCall) : List PatternCall :=
  calls.rtakeWhile fun call => !call.clears

/-- The texts looked up since the cache was last cleared, in order. -/
def texts (calls : List PatternCall) : List String :=
  (sinceClear calls).filterMap text?

end PatternCall

namespace PatternCache

/-- One call: what is handed back, and the cache after it. -/
def call (loader : Option PatternLoader) (cache : PatternCache) : PatternCall → Except Failure PatternAnswer × PatternCache
  | .get ref => ((cache.get loader ref).1.map .pattern, (cache.get loader ref).2)
  | .blocks ref => ((cache.getBlocks loader ref).1.map .blocks, (cache.getBlocks loader ref).2)
  | .props ref => ((cache.getProps loader ref).1.map .props, (cache.getProps loader ref).2)
  | .clear => (.ok .cleared, cache.clear)

/-- A history of calls: what is handed back for each, and the cache in the end. -/
def run (loader : Option PatternLoader) (cache : PatternCache) :
    List PatternCall → List (Except Failure PatternAnswer) × PatternCache
  | [] => ([], cache)
  | call :: calls =>
    let first := cache.call loader call
    let rest := run loader first.2 calls
    (first.1 :: rest.1, rest.2)

/-- A history goes on where it was left. -/
theorem run_append (loader : Option PatternLoader) (cache : PatternCache) (earlier later : List PatternCall) :
    run loader cache (earlier ++ later) =
      ((run loader cache earlier).1 ++ (run loader (run loader cache earlier).2 later).1,
        (run loader (run loader cache earlier).2 later).2) := by
  induction earlier generalizing cache with
  | nil => rfl
  | cons call earlier ih =>
    rw [List.cons_append, run, run, ih]
    rfl

/-- A cache as it is after these texts were looked up, if the loader had been asked for others before. -/
structure Reflects (cache : PatternCache) (loader : PatternLoader) (texts before : List String) : Prop where
  entries : cache.entries = texts.eraseDups.map fun text => (text, loader.pattern? text)
  asked : cache.asked = texts.eraseDups.reverse ++ before
  misses : cache.misses = texts.eraseDups.length
  counted : cache.hits + cache.misses = texts.length

/-! ## One call -/

section

variable {cache : PatternCache} {loader : PatternLoader} {texts before : List String}

/-- An answering loader is never the reason why a lookup fails. -/
theorem load_of_answers (answers : loader.Answers) (text : String) :
    load (some loader) text = .ok (loader.pattern? text) := by
  unfold load PatternLoader.pattern?
  rcases answers text with ⟨pattern, found⟩ | ⟨fault, missing⟩
  · simp only [found]
    rfl
  · simp only [missing]
    rfl

/-- A cache without a past. -/
theorem reflects_empty (loader : PatternLoader) : empty.Reflects loader [] [] :=
  ⟨rfl, rfl, rfl, rfl⟩

/-- After clearing, nothing was looked up, and the loader had been asked for all that it was asked for. -/
theorem reflects_clear (cache : PatternCache) (loader : PatternLoader) : cache.clear.Reflects loader [] cache.asked :=
  ⟨rfl, rfl, rfl, rfl⟩

/-- A cache knows a text exactly if it was looked up, whatever the loader said of it. -/
theorem Reflects.lookup (holds : cache.Reflects loader texts before) (text : String) :
    cache.entries.lookup text = if text ∈ texts then some (loader.pattern? text) else none := by
  rw [holds.entries]
  split
  · rename_i known
    exact List.lookup_graph _ (List.mem_eraseDups.mpr known)
  · rename_i new
    refine List.lookup_eq_none_iff.mpr fun entry among => ?_
    obtain ⟨other, there, rfl⟩ := List.mem_map.mp among
    have : text ≠ other := fun same => new (same ▸ List.mem_eraseDups.mp there)
    simpa using this

/-- A lookup comes to what the loader says, and is one more text looked up. -/
theorem Reflects.find (holds : cache.Reflects loader texts before) (answers : loader.Answers) (text : String) :
    (cache.find (some loader) text).1 = .ok (loader.pattern? text) ∧
      (cache.find (some loader) text).2.Reflects loader (texts ++ [text]) before := by
  have length : (texts ++ [text]).length = texts.length + 1 := List.length_append
  have counted := holds.counted
  unfold PatternCache.find
  rw [holds.lookup text]
  by_cases known : text ∈ texts
  · rw [if_pos known]
    refine ⟨rfl, ?_, ?_, ?_, ?_⟩
    · rw [Text.eraseDups_concat_of_mem known]
      exact holds.entries
    · rw [Text.eraseDups_concat_of_mem known]
      exact holds.asked
    · rw [Text.eraseDups_concat_of_mem known]
      exact holds.misses
    · dsimp only
      omega
  · rw [if_neg known]
    dsimp only
    rw [load_of_answers answers]
    refine ⟨rfl, ?_, ?_, ?_, ?_⟩
    · rw [Text.eraseDups_concat_of_notMem known, List.map_append]
      exact congrArg (· ++ _) holds.entries
    · rw [Text.eraseDups_concat_of_notMem known, List.reverse_append]
      exact congrArg (text :: ·) holds.asked
    · rw [Text.eraseDups_concat_of_notMem known, List.length_append]
      exact congrArg (· + 1) holds.misses
    · dsimp only [missed]
      omega

/-- Looking a reference up is looking up its text, if it asks for anything. -/
theorem Reflects.get (holds : cache.Reflects loader texts before) (answers : loader.Answers) (ref : Value) :
    (cache.get (some loader) ref).1 = .ok (loader.meant ref) ∧
      (cache.get (some loader) ref).2.Reflects loader (texts ++ (PatternCall.textOf? ref).toList) before := by
  unfold PatternCache.get PatternLoader.meant PatternCall.textOf?
  split
  · refine ⟨rfl, ?_⟩
    rw [Option.toList_none, List.append_nil]
    exact holds
  · exact holds.find answers ref.plain

/-- A call that does not clear comes to what the loader says, and its text is one more text looked up. -/
theorem Reflects.call (holds : cache.Reflects loader texts before) (answers : loader.Answers) {call : PatternCall}
    (looks : call.clears = false) :
    (cache.call (some loader) call).1 = .ok (call.expected loader) ∧
      (cache.call (some loader) call).2.Reflects loader (texts ++ call.text?.toList) before := by
  cases call with
  | get ref =>
    obtain ⟨found, after⟩ := holds.get answers ref
    refine ⟨?_, after⟩
    show (cache.get (some loader) ref).1.map PatternAnswer.pattern = _
    rw [found]
    rfl
  | blocks ref =>
    obtain ⟨found, after⟩ := holds.get answers ref
    refine ⟨?_, after⟩
    show ((cache.get (some loader) ref).1.map _).map PatternAnswer.blocks = _
    rw [found]
    rfl
  | props ref =>
    obtain ⟨found, after⟩ := holds.get answers ref
    refine ⟨?_, after⟩
    show ((cache.get (some loader) ref).1.map _).map PatternAnswer.props = _
    rw [found]
    rfl
  | clear => cases looks

end

/-! ## Whole histories -/

/-- After any history each call had the answer of the loader, and the cache is as it is after the texts looked up since
it was last cleared, if the loader had been asked before for what it was asked for up to then. -/
theorem run_reflects {loader : PatternLoader} (answers : loader.Answers) (calls : List PatternCall) :
    (run (some loader) empty calls).1 = calls.map (fun call => .ok (call.expected loader)) ∧
      (run (some loader) empty calls).2.Reflects loader (PatternCall.texts calls)
        (run (some loader) empty (PatternCall.upToClear calls)).2.asked := by
  induction calls using List.reverseRecOn with
  | nil => exact ⟨rfl, reflects_empty loader⟩
  | append_singleton calls call ih =>
    obtain ⟨outcomes, holds⟩ := ih
    have last := run_append (some loader) empty calls [call]
    cases clears : call.clears with
    | false =>
      obtain ⟨answer, after⟩ := holds.call answers clears
      have since : PatternCall.texts (calls ++ [call]) = PatternCall.texts calls ++ call.text?.toList := by
        unfold PatternCall.texts PatternCall.sinceClear
        rw [List.rtakeWhile_concat, if_pos (by rw [clears]; rfl), List.filterMap_append]
        cases found : call.text? <;> simp [found]
      have upTo : PatternCall.upToClear (calls ++ [call]) = PatternCall.upToClear calls := by
        unfold PatternCall.upToClear
        rw [List.rdropWhile_concat, if_pos (by rw [clears]; rfl)]
      rw [since, upTo, last, List.map_append, outcomes]
      exact ⟨congrArg (_ ++ [·]) answer, after⟩
    | true =>
      have since : PatternCall.texts (calls ++ [call]) = [] := by
        unfold PatternCall.texts PatternCall.sinceClear
        rw [List.rtakeWhile_concat, if_neg (by simp [clears]), List.filterMap_nil]
      have upTo : PatternCall.upToClear (calls ++ [call]) = calls ++ [call] := by
        unfold PatternCall.upToClear
        rw [List.rdropWhile_concat, if_neg (by simp [clears])]
      have is : call = .clear := by
        cases call <;> first | rfl | cases clears
      subst is
      rw [since, upTo, last, List.map_append, outcomes]
      exact ⟨rfl, reflects_clear _ loader⟩

/-- A cache cannot be told from its loader, whatever is called and in whatever order: each call comes to what the
loader says of the text of its reference, and to nothing where the loader has no pattern or the reference is null or
empty. Since the cache was last cleared the loader was asked for each text looked up once, in the order in which they
first came up; as often the cache had no answer itself, and as many entries it holds. All other lookups, those under a
null or empty reference apart, it answered itself. -/
theorem run_transparent (loader : PatternLoader) (answers : loader.Answers) (calls : List PatternCall) :
    let after := run (some loader) empty calls
    let before := run (some loader) empty (PatternCall.upToClear calls)
    ∃ requests : List String,
      after.1 = calls.map (fun call => .ok (call.expected loader)) ∧
      after.2.asked = requests.reverse ++ before.2.asked ∧
      requests = (PatternCall.texts calls).eraseDups ∧ requests.Nodup ∧
      after.2.stats.misses = requests.length ∧ after.2.stats.size = requests.length ∧
      after.2.stats.hits + after.2.stats.misses = (PatternCall.texts calls).length := by
  obtain ⟨outcomes, holds⟩ := run_reflects answers calls
  have size := congrArg List.length holds.entries
  rw [List.length_map] at size
  exact ⟨(PatternCall.texts calls).eraseDups, outcomes, holds.asked, rfl, Text.nodup_eraseDups _, holds.misses, size,
    holds.counted⟩

/-- A loader that knows one pattern. -/
def heroOnly : PatternLoader :=
  .table [("7", .built ⟨"7", [], [⟨"title", .string, .null, .null⟩]⟩)]

/-- Lookups of the pattern by its number and its text, of one that is missing and of none, on both sides of a clear. -/
def heroHistory : List PatternCall :=
  [.get (.text "7"), .props (.int 7), .get (.text "gone"), .blocks (.text "gone"), .get .null, .clear,
    .blocks (.int 7), .get (.text ""), .get (.text "7"), .get (.text "7")]

/-- The loader with one pattern has it, or says that it has none. -/
theorem heroOnly_answers : heroOnly.Answers := by
  intro ref
  by_cases known : ref = "7"
  · subst known
    exact .inl ⟨_, rfl⟩
  · refine .inr ⟨.unlisted ref ["7"], ?_⟩
    have other : (ref == "7") = false := beq_false_of_ne known
    have sorted : Text.sorted ["7"] = ["7"] := by cbv
    simp [heroOnly, PatternLoader.table, List.lookup_cons, other, sorted]

/-- Once cleared, the loader is asked again for the pattern, but not for each of the three lookups. -/
theorem run_heroHistory :
    heroOnly.Answers ∧
      (run (some heroOnly) empty heroHistory).1 = heroHistory.map (fun call => .ok (call.expected heroOnly)) ∧
      (run (some heroOnly) empty heroHistory).2.asked = ["7", "gone", "7"] ∧
      (run (some heroOnly) empty heroHistory).2.stats.misses = 1 ∧
      (run (some heroOnly) empty heroHistory).2.stats.size = 1 ∧
      (run (some heroOnly) empty heroHistory).2.stats.hits = 2 := by
  obtain ⟨requests, outcomes, asked, rfl, -, misses, size, counted⟩ :=
    run_transparent heroOnly heroOnly_answers heroHistory
  have since : PatternCall.texts heroHistory = ["7", "7", "7"] := by cbv
  have before : (run (some heroOnly) empty (PatternCall.upToClear heroHistory)).2.asked = ["gone", "7"] := by cbv
  have once : ["7", "7", "7"].eraseDups = ["7"] := by decide
  rw [since, once] at asked misses size
  rw [since] at counted
  rw [before] at asked
  rw [misses] at counted
  exact ⟨heroOnly_answers, outcomes, asked, misses, size, Nat.add_right_cancel counted⟩

end PatternCache

end DynamicBlocks
