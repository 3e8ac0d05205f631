import DynamicBlocks.Json.Reader
import DynamicBlocks.Pattern.Loader

/-!
# Patterns in directories

A pattern may stand in a file `<ref>.json` of one of several directories, searched in order. A reference is
taken into the path as it is written, so it may hold slashes and steps to a parent directory; a path leads
somewhere if every directory on its way is there. A path or a name that no file can have for its length is a
failure, not a missing pattern. Listing goes by the names directly in the directories.
-/

set_option autoImplicit false

namespace DynamicBlocks

/-- A tree of files as far as it is known. Paths are lists of names that start at its root. -/
structure FileTree where
  /-- How the root is shown in front of a path. -/
  root : String
  directories : List (List String)
  files : List (List String × String)

namespace FileTree

/-- Whether a path, written from its end, is a directory. -/
def isDirectory (tree : FileTree) (up : List String) : Bool :=
  up.isEmpty || tree.directories.contains up.reverse

/-- Whether a name has more bytes than the name of a file can have. -/
def isTooLong (name : String) : Bool :=
  decide (255 < name.utf8ByteSize)

/-- The path, written from its end, that names lead to from a directory, if they do not leave the tree. A name is
looked at only in a directory that is there. -/
def follow (tree : FileTree) : (up names : List String) → Except Failure (Option (List String))
  | up, [] => .ok (some up)
  | up, name :: names =>
    if !tree.isDirectory up then .ok none
    else if isTooLong name then .error .pathTooLong
    else if name = ".." then
      match up with
      | [] => .ok none
      | _ :: above => tree.follow above names
    else tree.follow (name :: up) names

/-- The text of the file that names lead to from a directory. -/
def file (tree : FileTree) (directory names : List String) : Except Failure (Option String) := do
  let up ← tree.follow directory.reverse names
  pure (up.bind fun up => tree.files.lookup up.reverse)

/-- A path as it is shown. -/
def shown (tree : FileTree) (path : List String) : String :=
  tree.root ++ Text.join "/" path

/-- The names of the files and directories directly in a directory. -/
def namesIn (tree : FileTree) (directory : List String) : List String :=
  (tree.directories ++ tree.files.map (·.1)).filterMap fun path =>
    if path.dropLast = directory then path.getLast? else none

end FileTree

/-- The names that a relative path is made of; empty ones and single points are left out. -/
def pathNames (path : String) : List String :=
  (Text.split "/" path).filter fun name => name != "" && name != "."

/-- The reference that a file name serves, if the file holds a pattern. -/
def servedRef? (name : String) : Option String :=
  let chars := name.toList
  let ending := ".json".toList
  if ending.length < chars.length && chars.drop (chars.length - ending.length) == ending then
    some (String.ofList (chars.take (chars.length - ending.length)))
  else if chars == ending then some name
  else none

/-- The pattern that a file's text describes. -/
def patternOfFile (ref path text : String) : Except Failure Pattern :=
  match Json.read? text with
  | none => .error (.patternNotFound (.notJson ref path))
  | some (.map entries) => Pattern.ofValue ref (.map entries)
  | some _ => .error (.patternNotFound (.notObject ref path))

/-- Whether a path has more bytes than the path of a file can have. -/
def isPathTooLong (path : String) : Bool :=
  decide (4095 < path.utf8ByteSize)

/-- The file that names lead to from the first of several directories that has it: its path and text. -/
def fileIn (tree : FileTree) (names : List String) :
    List (List String) → Except Failure (Option (List String × String))
  | [] => .ok none
  | directory :: directories =>
    if isPathTooLong (tree.shown (directory ++ names)) then .error .pathTooLong
    else do
      match ← tree.file directory names with
      | some text => pure (some (directory ++ names, text))
      | none => fileIn tree names directories

/-- The file of a reference in the first directory that has it: its path and text. A reference that starts at the
root of all files leads out of the tree, and one with a null character nowhere. -/
def findFile (tree : FileTree) (ref : String) (directories : List (List String)) :
    Except Failure (Option (List String × String)) :=
  let names := pathNames (ref ++ ".json")
  if ref.contains (Char.ofNat 0) then .ok none
  else if ref.toList.head? = some '/' then
    if isPathTooLong ref || (names.head?.any FileTree.isTooLong && !directories.isEmpty) then .error .pathTooLong
    else .ok none
  else fileIn tree names directories

/-- Patterns in files of directories. -/
def PatternLoader.directories (tree : FileTree) (directories : List (List String)) : PatternLoader where
  find ref := do
    match ← findFile tree ref directories with
    | some (path, text) => patternOfFile ref (tree.shown path) text
    | none => .error (.patternNotFound (.notInDirectories ref (directories.map tree.shown)))
  names := Text.sorted (directories.flatMap fun directory =>
    if tree.isDirectory directory.reverse then (tree.namesIn directory).filterMap servedRef? else [])

end DynamicBlocks
