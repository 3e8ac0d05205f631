import DynamicBlocks.Pattern.Directory
import DynamicBlocks.Proofs.TextReplacement
import Mathlib

/-!
# What directories serve and what they list

A reference without a slash is the name of a file, so that its pattern is read from a file directly in one of the
directories, and it is listed unless it is empty. With a slash it is a path: the file may stand in a directory below or,
by way of a step up, in a directory that is none of those, and it is never listed.
-/

set_option autoImplicit false

namespace DynamicBlocks

/-! ## Listed references -/

/-- Sorting texts leaves the same ones. -/
theorem Text.mem_sorted {text : String} {texts : List String} : text ∈ Text.sorted texts ↔ text ∈ texts := by
  rw [Text.sorted, List.mem_mergeSort, List.mem_eraseDups]

/-- A file name serves a reference with something in it and no other characters than its own. -/
theorem of_servedRef?_eq_some {name ref : String} (served : servedRef? name = some ref) :
    ref ≠ "" ∧ ∀ c ∈ ref.toList, c ∈ name.toList := by
  unfold servedRef? at served
  dsimp only at served
  split at served
  · rename_i ends
    obtain ⟨longer, -⟩ := Bool.and_eq_true_iff.mp ends
    have longer := of_decide_eq_true longer
    obtain rfl := Option.some.inj served
    constructor
    · intro empty
      have none_taken := congrArg List.length (String.toList_eq_nil_iff.mpr empty)
      rw [String.toList_ofList, List.length_take, List.length_nil] at none_taken
      omega
    · intro c there
      rw [String.toList_ofList] at there
      exact List.mem_of_mem_take there
  · split at served
    · rename_i same
      obtain rfl := Option.some.inj served
      refine ⟨?_, fun c there => there⟩
      rintro rfl
      exact absurd same (by decide)
    · cases served

/-- A reference with something in it is served by the file that is named by it. -/
theorem servedRef?_json {ref : String} (filled : ref ≠ "") : servedRef? (ref ++ ".json") = some ref := by
  have some_char : 0 < ref.toList.length := List.length_pos_iff.mpr (mt String.toList_eq_nil_iff.mp filled)
  have cut : (ref ++ ".json").toList.length - ".json".toList.length = ref.toList.length := by
    rw [String.toList_append, List.length_append, Nat.add_sub_cancel]
  unfold servedRef?
  dsimp only
  rw [cut, String.toList_append, List.drop_left, List.take_left, String.ofList_toList, if_pos]
  rw [Bool.and_eq_true, decide_eq_true_eq, List.length_append]
  exact ⟨by omega, beq_self_eq_true _⟩

namespace FileTree

/-- No name in the paths of a tree has a slash. -/
def Named (tree : FileTree) : Prop :=
  ∀ path ∈ tree.directories ++ tree.files.map (·.1), ∀ name ∈ path, '/' ∉ name.toList

/-- Neither are there any in the names that are listed in it. -/
theorem Named.slash_notMem {tree : FileTree} (named : tree.Named) {directory : List String} {name : String}
    (there : name ∈ tree.namesIn directory) : '/' ∉ name.toList := by
  obtain ⟨path, known, last⟩ := List.mem_filterMap.mp there
  split at last
  · exact named path known name (List.mem_of_getLast? last)
  · cases last

/-- A file that can be found is in the folder its path says. -/
theorem mem_namesIn_of_lookup {tree : FileTree} {directory : List String} {name text : String}
    (found : tree.files.lookup (directory ++ [name]) = some text) : name ∈ tree.namesIn directory := by
  refine List.mem_filterMap.mpr ⟨directory ++ [name], ?_, ?_⟩
  · exact List.mem_append_right _ (List.mem_map.mpr ⟨_, mem_of_lookup_eq_some found, rfl⟩)
  · rw [if_pos List.dropLast_concat, List.getLast?_concat]

end FileTree

variable {tree : FileTree} {directories : List (List String)}

/-- A reference is listed exactly if some directory has a file that serves it. -/
theorem mem_names_directories {ref : String} :
    ref ∈ (PatternLoader.directories tree directories).names ↔
      ∃ directory ∈ directories, tree.isDirectory directory.reverse = true ∧
        ∃ name ∈ tree.namesIn directory, servedRef? name = some ref := by
  unfold PatternLoader.directories
  simp only [Text.mem_sorted, List.mem_flatMap]
  refine exists_congr fun directory => and_congr_right fun _ => ?_
  split
  · rename_i isDirectory
    rw [List.mem_filterMap]
    exact (and_iff_right isDirectory).symm
  · rename_i noDirectory
    simp [noDirectory]

/-! ## Found files -/

/-- A path without slashes has one name, if it is neither empty nor a dot. -/
theorem pathNames_of_slashless {path : String} (slashless : '/' ∉ path.toList) (filled : path ≠ "") (away : path ≠ ".") :
    pathNames path = [path] := by
  unfold pathNames
  rw [Text.split_of_notMem rfl slashless]
  simp [filled, away]

/-- The file of a name is directly in the directory. -/
theorem FileTree.of_file_singleton {directory : List String} {name text : String} (forward : name ≠ "..")
    (found : tree.file directory [name] = .ok (some text)) :
    tree.isDirectory directory.reverse = true ∧ tree.files.lookup (directory ++ [name]) = some text := by
  unfold FileTree.file at found
  obtain ⟨up, followed, found⟩ := exists_of_bind_eq_ok found
  unfold FileTree.follow at followed
  split at followed
  · cases followed
    cases found
  · rename_i isDirectory
    split at followed
    · cases followed
    · unfold FileTree.follow at followed
      cases followed
      refine ⟨by simpa using isDirectory, ?_⟩
      simpa using Except.ok.inj found

/-- What is found in several directories is found in one of them. -/
theorem exists_directory_of_fileIn {names path : List String} {text : String}
    (found : fileIn tree names directories = .ok (some (path, text))) :
    ∃ directory ∈ directories, tree.file directory names = .ok (some text) ∧ path = directory ++ names := by
  induction directories with
  | nil => cases found
  | cons directory directories ih =>
    unfold fileIn at found
    split at found
    · cases found
    · obtain ⟨outcome, here, found⟩ := exists_of_bind_eq_ok found
      cases outcome with
      | some other =>
        cases found
        exact ⟨directory, List.mem_cons_self, here, rfl⟩
      | none =>
        obtain ⟨later, there, rest⟩ := ih found
        exact ⟨later, List.mem_cons_of_mem _ there, rest⟩

/-- A file is found only by way of the names in the reference. -/
theorem fileIn_of_findFile {ref text : String} {path : List String}
    (found : findFile tree ref directories = .ok (some (path, text))) :
    fileIn tree (pathNames (ref ++ ".json")) directories = .ok (some (path, text)) := by
  unfold findFile at found
  dsimp only at found
  split at found
  · cases found
  · split at found
    · split at found <;> cases found
    · exact found

/-! ## Served references -/

/-- The name of a file has a slash exactly if the reference has one. -/
theorem slash_mem_json_iff {ref : String} : '/' ∈ (ref ++ ".json").toList ↔ '/' ∈ ref.toList := by
  rw [String.toList_append, List.mem_append]
  exact or_iff_left (by decide)

/-- No listed reference is empty or a path. -/
theorem of_mem_names_directories (named : tree.Named) {ref : String}
    (listed : ref ∈ (PatternLoader.directories tree directories).names) : ref ≠ "" ∧ '/' ∉ ref.toList := by
  obtain ⟨directory, _, _, name, there, served⟩ := mem_names_directories.mp listed
  obtain ⟨filled, own⟩ := of_servedRef?_eq_some served
  exact ⟨filled, fun slash => named.slash_notMem there (own _ slash)⟩

/-- What is served is described by the text of a file that was found. -/
theorem exists_file_of_find {ref : String} {pattern : Pattern}
    (served : (PatternLoader.directories tree directories).find ref = .ok pattern) :
    ∃ path text, findFile tree ref directories = .ok (some (path, text)) ∧
      patternOfFile ref (tree.shown path) text = .ok pattern := by
  obtain ⟨outcome, found, described⟩ := exists_of_bind_eq_ok served
  cases outcome with
  | none => cases described
  | some file => exact ⟨file.1, file.2, found, described⟩

/-- The file of a reference without a slash stands directly in one of the directories. -/
theorem exists_directory_of_find {ref : String} {pattern : Pattern}
    (served : (PatternLoader.directories tree directories).find ref = .ok pattern) (slashless : '/' ∉ ref.toList) :
    ∃ directory ∈ directories, tree.isDirectory directory.reverse = true ∧
      ∃ text, tree.files.lookup (directory ++ [ref ++ ".json"]) = some text ∧
        patternOfFile ref (tree.shown (directory ++ [ref ++ ".json"])) text = .ok pattern := by
  obtain ⟨path, text, found, described⟩ := exists_file_of_find served
  -- The ending tells the name from those that a path passes over or that lead up.
  have differs : ∀ other : String, ¬".json".toList <:+ other.toList → ref ++ ".json" ≠ other := by
    rintro other short rfl
    rw [String.toList_append] at short
    exact short (List.suffix_append _ _)
  have names := pathNames_of_slashless (mt slash_mem_json_iff.mp slashless) (differs "" (by decide))
    (differs "." (by decide))
  obtain ⟨directory, given, here, rfl⟩ := exists_directory_of_fileIn (names ▸ fileIn_of_findFile found)
  obtain ⟨isDirectory, there⟩ := FileTree.of_file_singleton (differs ".." (by decide)) here
  exact ⟨directory, given, isDirectory, text, there, described⟩

/-- A reference that is served is listed exactly if it is the name of a file and not a path, with something in it; the
name of a file is served from a file directly in one of the directories. -/
theorem mem_names_iff_of_find (named : tree.Named) {ref : String} {pattern : Pattern}
    (served : (PatternLoader.directories tree directories).find ref = .ok pattern) :
    (ref ∈ (PatternLoader.directories tree directories).names ↔ ref ≠ "" ∧ '/' ∉ ref.toList) ∧
      ('/' ∉ ref.toList → ∃ directory ∈ directories, ∃ text,
        tree.files.lookup (directory ++ [ref ++ ".json"]) = some text ∧
          patternOfFile ref (tree.shown (directory ++ [ref ++ ".json"])) text = .ok pattern) := by
  constructor
  · refine ⟨of_mem_names_directories named, fun ⟨filled, slashless⟩ => ?_⟩
    obtain ⟨directory, given, isDirectory, text, there, -⟩ := exists_directory_of_find served slashless
    exact mem_names_directories.mpr
      ⟨directory, given, isDirectory, _, FileTree.mem_namesIn_of_lookup there, servedRef?_json filled⟩
  · intro slashless
    obtain ⟨directory, given, -, text, there, described⟩ := exists_directory_of_find served slashless
    exact ⟨directory, given, text, there, described⟩

/-- Two directories beside each other with a pattern in each. -/
def twoFolders : FileTree :=
  ⟨"", [["a"], ["b"]], [(["a", "x.json"], "{}"), (["b", "y.json"], "{}")]⟩

/-- No name in the two folders has a slash. -/
theorem named_twoFolders : twoFolders.Named := by
  unfold FileTree.Named
  decide

/-- The reference that the first folder serves is listed, and served from this folder. -/
theorem mem_names_iff_of_find_twoFolders :
    (PatternLoader.directories twoFolders [["a"]]).find "x" = .ok ⟨"x", [], []⟩ ∧
      ("x" ∈ (PatternLoader.directories twoFolders [["a"]]).names ↔ "x" ≠ "" ∧ '/' ∉ "x".toList) ∧
      ('/' ∉ "x".toList → ∃ directory ∈ [["a"]], ∃ text,
        twoFolders.files.lookup (directory ++ ["x" ++ ".json"]) = some text ∧
          patternOfFile "x" (twoFolders.shown (directory ++ ["x" ++ ".json"])) text = .ok ⟨"x", [], []⟩) := by
  have served : (PatternLoader.directories twoFolders [["a"]]).find "x" = .ok ⟨"x", [], []⟩ := by cbv
  exact ⟨served, mem_names_iff_of_find named_twoFolders served⟩

/-- By a step up the pattern of a directory is served that is not one of those, and the reference is not listed. -/
theorem find_stepUp_notMem_names :
    (PatternLoader.directories twoFolders [["a"]]).find "../b/y" = .ok ⟨"../b/y", [], []⟩ ∧
      "../b/y" ∉ (PatternLoader.directories twoFolders [["a"]]).names := by
  constructor
  · cbv
  · exact fun listed => (of_mem_names_directories named_twoFolders listed).2 (by decide)

end DynamicBlocks
