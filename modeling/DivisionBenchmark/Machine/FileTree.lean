import DivisionBenchmark.Machine.Files
import DivisionBenchmark.Text.Split

/-!
# File trees

The files below a working directory, and what a path leads to from there. A path is a sequence of
names between slashes. Each name but the last must lead to a directory; `.` stays there and `..`
goes back; a slash at the end asks for a directory. Outside the working directory nothing is known
but that there are directories: a name leads nowhere from them.

Main definitions:

* `DivisionBenchmark.FileTree`: the files and directories of a working directory;
* `DivisionBenchmark.FileTree.find`: what a path leads to;
* `DivisionBenchmark.FileTree.files`: what can be learned of the files of a tree;
* `DivisionBenchmark.FileTree.write`: the tree with a text written to a file.
-/

namespace DivisionBenchmark

/-- **The files and directories below a working directory**, each under the names that lead to
it. -/
structure FileTree where
  /-- The files with their texts, and the directories without. -/
  entries : List (List String × Option String)
  deriving DecidableEq, Repr

namespace FileTree

/-- What stands at a place. -/
inductive Node where
  /-- A file with this text. -/
  | file (text : String)
  /-- A directory. -/
  | directory
  deriving DecidableEq, Repr

/-- **A place a path can lead to.** -/
inductive Place where
  /-- Below the working directory, by the names that lead there. -/
  | inside (names : List String)
  /-- Above the working directory or beside it. -/
  | outside
  deriving DecidableEq, Repr

/-- What stands at a place, if anything does. A directory need not be an entry of its own: it is
there where anything below it is. -/
def node? (tree : FileTree) : Place → Option Node
  | .outside => some .directory
  | .inside [] => some .directory
  | .inside names =>
    match tree.entries.find? fun entry => names.isPrefixOf entry.1 with
    -- a file further down says that there is a directory here
    | some (found, some text) => if found = names then some (.file text) else some .directory
    | some (_, none) => some .directory
    | none => none

/-! ### Paths -/

/-- The parts of a path between its slashes. -/
def parts (path : String) : List String :=
  (Text.splitOn '/' path.toList).map String.ofList

/-- A path has at most this many bytes, and ends after them. -/
def longestPath : Nat := 4095

/-- A name has at most this many bytes. -/
def longestName : Nat := 255

/-- The place a part of a path leads to from a directory. An empty part stays there. -/
def step (tree : FileTree) (place : Place) (part : String) : Except OsError Place :=
  match tree.node? place with
  | some .directory =>
    if part = "" ∨ part = "." then .ok place
    else if part = ".." then
      match place with
      | .outside => .ok .outside
      | .inside [] => .ok .outside
      | .inside names => .ok (.inside names.dropLast)
    else if longestName < part.utf8ByteSize then .error .nameTooLong
    else
      match place with
      | .outside => .error .notFound
      | .inside names => .ok (.inside (names ++ [part]))
  | some (.file _) => .error .notDirectory
  | none => .error .notFound

/-- The place some parts lead to, one after the other. -/
def walk (tree : FileTree) (place : Place) (parts : List String) : Except OsError Place :=
  parts.foldlM tree.step place

/-- Where a path starts, and what is to be walked from there. -/
def origin (path : String) : Except OsError Place :=
  if path.toList.contains (Char.ofNat 0) then .error .nulByte
  else if path = "" then .error .notFound
  else if longestPath < path.utf8ByteSize then .error .nameTooLong
  else if path.toList.head? = some '/' then .ok .outside
  else .ok (.inside [])

/-- **What a path leads to.** -/
def find (tree : FileTree) (path : String) : Except OsError Node := do
  let place ← tree.walk (← origin path) (parts path)
  match tree.node? place with
  | some node => .ok node
  | none => .error .notFound

/-- The text of the file a path leads to. -/
def read (tree : FileTree) (path : String) : Except OsError String := do
  match ← tree.find path with
  | .file text => .ok text
  | .directory => .error .isDirectory

/-- Whether a path leads to a directory. -/
def isDirectory (tree : FileTree) (path : String) : Bool :=
  match tree.find path with
  | .ok .directory => true
  | _ => false

/-- The names of a path up to its last, without the slashes behind it. -/
def namesOf (path : String) : List String :=
  ((parts path).reverse.dropWhile (· = "")).reverse

/-- The place of the file that a path creates. The directory it is to be in must be there; the
last name must be a name with no slash behind it, and no directory may be there. -/
def creation (tree : FileTree) (path : String) : Except OsError Place := do
  let start ← origin path
  match (namesOf path).getLast? with
  | none => .error .isDirectory
  | some last =>
    let directory ← tree.walk start (namesOf path).dropLast
    let place ← tree.step directory "."
    if last = "." ∨ last = ".." ∨ path.toList.getLast? = some '/' then .error .isDirectory
    else
      let place ← tree.step place last
      match tree.node? place with
      | some .directory => .error .isDirectory
      | _ => .ok place

/-- What can be learned of the files of a tree. -/
def files (tree : FileTree) : Files where
  read := tree.read
  isDirectory := tree.isDirectory
  create path := (tree.creation path).map fun _ => ()

/-- **The tree with a text written to a file.** -/
def write (tree : FileTree) (path text : String) : Except OsError FileTree := do
  match ← tree.creation path with
  | .inside names =>
    .ok ⟨(names, some text) :: tree.entries.filter fun entry => entry.1 ≠ names⟩
  | .outside => .error .notFound

end FileTree

end DivisionBenchmark
