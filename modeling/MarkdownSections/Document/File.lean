import MarkdownSections.Document.Parse
import MarkdownSections.Files.Tree

/-!
# Document files

A document file is known by the ending of its name. Under a directory every entry with such an
ending counts, at any depth, and the entries are taken in the order of their paths.
-/

set_option autoImplicit false

namespace MarkdownSections

/-- The endings of the names of document files. -/
def documentSuffixes : List String :=
  [".md", ".mdx", ".markdown"]

/-- Whether a path ends like the path of a document file. -/
def Path.isDocument (p : Path) : Bool :=
  documentSuffixes.contains p.suffix

/-- The documents under a path: the file at the path itself, or the entries under a directory. -/
def Files.documentPaths (f : Files) (p : Path) : List Path :=
  match f.lookup? p with
  | some (.file _) => if p.isDocument then [p] else []
  | some (.directory entries) =>
    ((FileTree.entryPaths p entries).filter Path.isDocument).mergeSort Path.le
  | none => []

/-- Reads and parses the file at a path. -/
def ParsedText.ofFile (f : Files) (p : Path) (preset : String) : Except DocumentError ParsedText :=
  match f.text? p with
  | some text => ParsedText.ofText (String.ofList text) p.toText preset
  | none => .error (.structural p.toText .unreadableFile)

/-- Reads a document from the file at a path. -/
def Document.ofFile (f : Files) (p : Path) (preset : String) : Except DocumentError Document := do
  (← ParsedText.ofFile f p preset).toDocument

end MarkdownSections
