import MarkdownSections.Files.Path
import MarkdownSections.Json.Basic
import MarkdownSections.Text.Lines
import MarkdownSections.Text.Utf8

/-!
# File trees

A file tree is a file or a directory of named trees. All files are one such tree, from the top
directory on, together with the directory in which work is done, at which relative paths start.
A double dot leads back to the directory around; it is only followed out of a directory that exists.
-/

set_option autoImplicit false

namespace MarkdownSections

/-- A file with its bytes, or a directory with its entries. -/
inductive FileTree where
  | file (bytes : List Nat)
  | directory (entries : List (String × FileTree))
deriving Repr, Inhabited

namespace FileTree

/-- The directory without entries. -/
def empty : FileTree := .directory []

/-- The entries of a directory; a file has none. -/
def entries : FileTree → List (String × FileTree)
  | .directory entries => entries
  | .file _ => []

/-- Whether a tree is a file. -/
def isFile : FileTree → Bool
  | .file _ => true
  | .directory _ => false

/-- The tree that a list of names leads to. -/
def at? (t : FileTree) : List String → Option FileTree
  | [] => some t
  | name :: names => do (← t.entries.lookup name).at? names

/-- Puts a tree where a list of names leads; directories on the way are made. -/
def put (t value : FileTree) : List String → FileTree
  | [] => value
  | name :: names =>
    let inner := (t.entries.lookup name).getD empty
    .directory (Json.insertEntry t.entries name (inner.put value names))

mutual

/-- The paths of everything in a tree that stands at a path, the tree itself left out. -/
def pathsUnder (place : Path) : FileTree → List Path
  | .file _ => []
  | .directory entries => entryPaths place entries

/-- The paths of entries of a directory and of everything in them. -/
def entryPaths (place : Path) : List (String × FileTree) → List Path
  | [] => []
  | (name, t) :: rest =>
    place.child name :: t.pathsUnder (place.child name) ++ entryPaths place rest

end

end FileTree

/-! ## Files and the working directory -/

/-- All files, and the names that lead to the directory in which work is done. -/
structure Files where
  top : FileTree := .empty
  working : List String := []
deriving Repr, Inhabited

/-- Why a text is not written to a path. -/
inductive WriteFault where
  /-- The directory of the path is a file. -/
  | directoryIsFile
  /-- The directory of the path lies under a file. -/
  | underFile
  /-- The path is a directory. -/
  | isDirectory
deriving DecidableEq, Repr

/-- The wording of a fault. -/
def WriteFault.message : WriteFault → String
  | directoryIsFile => "the directory of the output file is a file"
  | underFile => "the output file lies under a file"
  | isDirectory => "the output file is a directory"

namespace Files

/-- The names that lead from the top directory along a path. -/
def namesTo (f : Files) (p : Path) : List String :=
  if p.root == .current then f.working ++ p.names else p.names

/-- Names without double dots: each takes away the name in front of it. -/
def withoutDots (names : List String) : List String :=
  names.foldl (fun known name => if name == ".." then known.dropLast else known ++ [name]) []

/-- The tree that names lead to, if every directory on the way exists. -/
def at? (f : Files) (names : List String) : Option FileTree :=
  let passed := (List.range names.length).map fun n => f.top.at? (withoutDots (names.take n))
  if passed.all fun t => t.any (!·.isFile) then f.top.at? (withoutDots names) else none

/-- The tree at a path. -/
def lookup? (f : Files) (p : Path) : Option FileTree :=
  f.at? (f.namesTo p)

/-- The bytes of the file at a path. -/
def bytes? (f : Files) (p : Path) : Option (List Nat) :=
  match f.lookup? p with
  | some (.file bytes) => some bytes
  | _ => none

/-- The text of the file at a path, every line end as one line feed. -/
def text? (f : Files) (p : Path) : Option (List Char) := do
  return Text.unifyNewlines (← Text.Utf8.decode? (← f.bytes? p))

/-- Whether names without double dots lead to a file. -/
def hasFile (f : Files) (names : List String) : Bool :=
  (f.top.at? (withoutDots names)).any FileTree.isFile

/-- A tree with a directory wherever the way along names passes and nothing stands yet. -/
def makeDirectories (t : FileTree) (names : List String) : FileTree :=
  let passed := (List.range (names.length + 1)).map fun n => withoutDots (names.take n)
  passed.foldl (fun t place => if (t.at? place).isSome then t else t.put .empty place) t

/-- Writes a text to a path; directories on the way are made. -/
def write (f : Files) (p : Path) (text : String) : Except WriteFault Files :=
  let outer := f.namesTo p.parent
  let names := f.namesTo p
  if (List.range outer.length).any fun n => f.hasFile (outer.take n) then .error .underFile
  else if f.hasFile outer then .error .directoryIsFile
  else match f.top.at? (withoutDots names) with
    | some (.directory _) => .error .isDirectory
    | _ =>
      let bytes := text.toList.flatMap Text.Utf8.bytesOf
      .ok { f with top := (makeDirectories f.top outer).put (.file bytes) (withoutDots names) }

end Files

end MarkdownSections
