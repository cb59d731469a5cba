/-!
# Sections

A section is a row about one heading: its id, the ids on the way to it, its level, title and
content, its parent, and the lines it covers. Rows of level 0 hold what belongs to no heading: the
frontmatter, or text outside all headings.
-/

set_option autoImplicit false

namespace MarkdownSections

/-- A row about one heading, or about text outside all headings. -/
structure Section where
  id : String
  path : String
  level : Int
  title : String := ""
  content : String := ""
  parentId : String := ""
  startLine : Option Int := none
  endLine : Option Int := none
deriving DecidableEq, Repr, Inhabited

/-- How much nested text the content of a section takes in. -/
inductive ContentMode where
  /-- Up to the next heading. -/
  | minimal
  /-- Up to the next heading of the same or a smaller level. -/
  | full
  /-- As `full`, but long content is cut back and refers to its subsections. -/
  | smart
deriving DecidableEq, Repr

namespace ContentMode

/-- The name of a mode. -/
def name : ContentMode → String
  | minimal => "minimal"
  | full => "full"
  | smart => "smart"

/-- The mode of a name. -/
def ofName? (s : String) : Option ContentMode :=
  [minimal, full, smart].find? (·.name == s)

end ContentMode

namespace Section

/-- The id of the row that holds the frontmatter. -/
def frontmatterId : String := "frontmatter"

end Section

end MarkdownSections
