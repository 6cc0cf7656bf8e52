import InputChain.Fault.Io
import InputChain.Text.Pieces

/-!
# The files an input can name

A tree of files and directories, as seen from the directory a program works in. A path is read name
by name from there: each name but the last must lead to a directory, and so must the last if a slash
follows it.

* `Place`: where a path can lead.
* `FileTree`, `FileTree.lookup`: the tree and what stands at a place.
* `FileTree.find`: what a path leads to, or the refusal.
-/

namespace InputChain

/-- A place in a tree of files: the names that lead there from the working directory. The first names
may be `..`, for the directories above it, or the first may be `/`, for the root of all files. -/
abbrev Place := List String

namespace Place

/-- Where a path starts. -/
def start (path : String) : Place :=
  if path.startsWith "/" then ["/"] else []

/-- The directory above a place. -/
def parent (place : Place) : Place :=
  match place.getLast? with
  | none => [".."]
  | some ".." => place ++ [".."]
  | some "/" => place
  | some _ => place.dropLast

/-- A place that is a directory wherever the working directory is. -/
def isOutside (place : Place) : Bool :=
  place == ["/"] || place.all (· == "..")

/-- The place that a name leads to from a directory. Empty names and `.` lead nowhere else. -/
def go (place : Place) (name : String) : Place :=
  if name = "" ∨ name = "." then place
  else if name = ".." then place.parent
  else place ++ [name]

/-- The names in a path. -/
def namesOf (path : String) : List String :=
  (pieces '/' path.toList).map String.ofList

/-- The place that a path leads to, if everything on the way is a directory. -/
def ofPath (path : String) : Place :=
  (namesOf path).foldl go (start path)

end Place

/-- The files and directories that are there, each at its place. A directory above a listed entry
need not be listed itself. -/
structure FileTree where
  files : List (Place × Bytes) := []
  directories : List Place := []
  deriving DecidableEq, Repr

namespace FileTree

/-- Adds a file under a path. -/
def addFile (tree : FileTree) (path : String) (content : Bytes) : FileTree :=
  { tree with files := tree.files ++ [(Place.ofPath path, content)] }

/-- Adds a directory under a path. -/
def addDirectory (tree : FileTree) (path : String) : FileTree :=
  { tree with directories := tree.directories ++ [Place.ofPath path] }

/-- What a path can lead to. -/
inductive Found where
  | file (content : Bytes)
  | directory
  deriving DecidableEq, Repr

/-- What stands at a place. Everything above an entry is a directory. -/
def lookup (tree : FileTree) (place : Place) : Option Found :=
  match tree.files.find? (·.1 == place) with
  | some (_, content) => some (.file content)
  | none =>
    if place.isOutside || tree.directories.any place.isPrefixOf
        || tree.files.any (place.isPrefixOf ·.1) then some .directory
    else none

/-- The most bytes in a name. -/
def maxName : Nat := 255

/-- The least number of bytes of a path that is too long. -/
def pathLimit : Nat := 4096

/-- Goes on from a place by the names left in a path. -/
def walk (tree : FileTree) : Place → List String → Except SystemFault Found
  | place, names =>
    match tree.lookup place, names with
    | none, _ => .error .noSuchFile
    | some found, [] => .ok found
    | some (.file _), _ :: _ => .error .notADirectory
    | some .directory, name :: rest =>
      if maxName < name.utf8ByteSize then .error .nameTooLong
      else tree.walk (place.go name) rest
  termination_by _ names => names.length

/-- What a path leads to. -/
def find (tree : FileTree) (path : String) : Except SystemFault Found :=
  if path.toList.contains '\x00' then .error .nulInPath
  else if path = "" then .error .noSuchFile
  else if pathLimit ≤ path.utf8ByteSize then .error .nameTooLong
  else tree.walk (Place.start path) (Place.namesOf path)

end FileTree

end InputChain
