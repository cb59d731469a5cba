import MarkdownSections.Text.Blank

/-!
# Paths

A path is a root and the names on the way. Empty names and single dots do not count, so that two
spellings of one path are equal; a double dot is kept, because it may lead elsewhere.
-/

set_option autoImplicit false

namespace MarkdownSections

/-- Where a path starts. -/
inductive PathRoot where
  /-- At the current directory. -/
  | current
  /-- At the top directory. -/
  | top
  /-- At a place that two leading slashes set apart. -/
  | apart
deriving DecidableEq, Repr

/-- A path to a file or a directory. -/
structure Path where
  root : PathRoot := .current
  names : List String := []
deriving DecidableEq, Repr

namespace Path

/-- The root that the slashes in front of a path mean. -/
def rootOf : List Char → PathRoot
  | '/' :: '/' :: '/' :: _ => .top
  | '/' :: '/' :: _ => .apart
  | '/' :: _ => .top
  | _ => .current

/-- The path that a text spells. -/
def ofText (s : String) : Path :=
  let names := (Text.splitWhen (· == '/') s.toList).map String.ofList
  { root := rootOf s.toList, names := names.filter fun n => n != "" && n != "." }

/-- The spelling of a root. -/
def rootText : PathRoot → String
  | .current => ""
  | .top => "/"
  | .apart => "//"

/-- The spelling of a path; the path without names is a dot. -/
def toText (p : Path) : String :=
  if p.root == .current && p.names.isEmpty then "."
  else rootText p.root ++ "/".intercalate p.names

/-- The last name of a path, empty when there is none. -/
def name (p : Path) : String :=
  p.names.getLast?.getD ""

/-- The directory of a path. -/
def parent (p : Path) : Path :=
  { p with names := p.names.dropLast }

/-- The path of an entry of a directory. -/
def child (p : Path) (name : String) : Path :=
  { p with names := p.names ++ [name] }

/-- The ending of a name from its last dot on; a dot at the start or at the end of the name makes
none. -/
def suffix (p : Path) : String :=
  let cs := p.name.toList
  let ending := (cs.reverse.takeWhile (· != '.')).reverse
  let stem := cs.length - ending.length
  if ending.isEmpty || stem ≤ 1 then "" else String.ofList ('.' :: ending)

/-- The texts by which paths are sorted: the root if there is one, then the names. -/
def sortKey (p : Path) : List String :=
  if p.root == .current then p.names else rootText p.root :: p.names

/-- The order of two lists of texts, by their first difference. -/
def keyLe : List String → List String → Bool
  | [], _ => true
  | _ :: _, [] => false
  | a :: as, b :: bs => if a == b then keyLe as bs else decide (a < b)

/-- The order of paths: by their names, from the outermost on. -/
def le (p q : Path) : Bool :=
  keyLe p.sortKey q.sortKey

end Path

end MarkdownSections
