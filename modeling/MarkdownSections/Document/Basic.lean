import MarkdownSections.Document.Text
import MarkdownSections.Section.Basic
import MarkdownSections.Slug.Registry
import MarkdownSections.Text.Lines

/-!
# Documents

A source is a text split into its frontmatter and its body. A document is a source with the tree of
its body: a list of blocks. Lines are numbered from one over the whole text, so the lines of the
body come after those of the frontmatter block.
-/

set_option autoImplicit false

namespace MarkdownSections

/-- A text split into its frontmatter and its body. -/
structure Source where
  path : String := ""
  /-- The whole text. -/
  text : String
  body : String
  frontmatter : List (String × String) := []
  rawFrontmatter : String := ""
  /-- The number of lines in front of the body. -/
  lineOffset : Int := 0
deriving Repr, Inhabited

/-- The lines of the body, each ended by one line feed. -/
def Source.lines (s : Source) : List String :=
  Text.sourceLines s.body

/-- A source with the tree of its body. -/
structure Document extends Source where
  blocks : List Node
deriving Repr, Inhabited

namespace Document

/-- The number of the last line. -/
def lastLine (d : Document) : Int :=
  d.lines.length + d.lineOffset

/-- The number of the first line that a block covers. -/
def firstLineOf (d : Document) (lines : Int × Int) : Int :=
  lines.1 + 1 + d.lineOffset

/-- The number of the first line of a node, if it covers any. -/
def startLine (d : Document) (n : Node) : Option Int :=
  n.lines.map d.firstLineOf

/-- The number of the last line of a node, if it covers any. -/
def endLine (d : Document) (n : Node) : Option Int :=
  n.lines.map fun lines => lines.2 + d.lineOffset

/-- A position in a list of the given length; negative ones count from the end. -/
def clampPosition (length : Nat) (position : Int) : Nat :=
  if position < 0 then (position + length).toNat else position.toNat

/-- The items between two positions. -/
def itemsBetween {α : Type} (items : List α) (start stop : Int) : List α :=
  let start := clampPosition items.length start
  let stop := clampPosition items.length stop
  (items.take stop).drop start

/-- The source of a block as it stands in the text, without blanks at its end, then a line feed. A
block that covers no lines gives its content. -/
def sourceOf (d : Document) (n : Node) : String :=
  let text := match n.lines with
    | some (start, stop) => String.join (itemsBetween d.lines start stop)
    | none => n.content
  Text.trimEndString text ++ "\n"

/-- What is wrong with the first top-level heading that has no level. -/
def levelFault? (d : Document) : Option Text.NumeralFault :=
  d.blocks.findSome? Node.levelFault?

/-- The registry before the first heading: the id of the frontmatter is taken if there is one. -/
def startRegistry (d : Document) : SlugRegistry :=
  if d.rawFrontmatter.isEmpty then {} else SlugRegistry.empty.reserve Section.frontmatterId

/-- The nodes of the tree in document order. -/
def nodes (d : Document) : List Node :=
  Node.walkAll d.blocks

/-- The nodes of the tree in document order, each with the number of the first line of the
innermost node around it that covers lines, itself included. -/
def nodesWithLine (d : Document) : List (Node × Option Int) :=
  (Node.walkAllPlaced none d.blocks).map fun (n, place) => (n, place.map d.firstLineOf)

end Document

end MarkdownSections
