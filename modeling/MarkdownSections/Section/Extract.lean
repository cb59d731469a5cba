import MarkdownSections.Document.Basic
import MarkdownSections.Document.Error

/-!
# Sections of a document

Every top-level heading within a range of levels opens a section, and the frontmatter makes a row
of level 0. Headings outside the range still end the sections in front of them. A heading belongs
to the nearest row in front of it of a smaller level, and its path leads through the paths of those.

The content of a section are the blocks behind its heading up to the heading that closes it: the
next one, or in the modes that take nested text in, the next of the same or a smaller level.
-/

set_option autoImplicit false

namespace MarkdownSections

/-- What rows are wanted of a document. -/
structure SectionOptions where
  minLevel : Int := 1
  maxLevel : Int := 6
  includeContent : Bool := true
  mode : ContentMode := .minimal
  /-- The length up to which nested content is taken in whole; zero and less stand for the
  default. -/
  maxContentLength : Int := 2000
deriving DecidableEq, Repr

namespace SectionOptions

/-- The length limit that stands in for one that is not positive. -/
def defaultLimit : Nat := 2000

/-- The length limit in force. -/
def limit (o : SectionOptions) : Nat :=
  if 0 < o.maxContentLength then o.maxContentLength.toNat else defaultLimit

/-- Whether headings of a level make rows. -/
def includes (o : SectionOptions) (level : Int) : Bool :=
  decide (o.minLevel ≤ level) && decide (level ≤ o.maxLevel)

/-- Options with a mode given by its name. The range of levels must not be empty, and the mode
must be known. -/
def check (o : SectionOptions) (modeName : String) : Except DocumentError SectionOptions :=
  if o.maxLevel < o.minLevel then .error (.emptyLevelRange o.minLevel o.maxLevel)
  else match ContentMode.ofName? modeName with
    | some mode => .ok { o with mode := mode }
    | none => .error (.unknownContentMode modeName)

end SectionOptions

/-! ## Headings -/

/-- A top-level heading with the blocks behind it. A heading whose level is out of range has no
id. -/
structure Heading where
  node : Node
  level : Int
  title : String
  id : Option String := none
  following : List Node
deriving Repr

namespace Heading

/-- The top-level headings of a list of blocks, in order, none with an id yet. -/
def listOf : List Node → List Heading
  | [] => []
  | n :: ns =>
    if n.isHeading then
      { node := n, level := n.headingLevel, title := n.plainText, following := ns } :: listOf ns
    else listOf ns

/-- Gives the headings in range their ids, in order. -/
def assignIds (o : SectionOptions) (r : SlugRegistry) : List Heading → List Heading
  | [] => []
  | h :: hs =>
    if o.includes h.level then
      let (id, r) := r.unique h.title
      { h with id := some id } :: assignIds o r hs
    else h :: assignIds o r hs

/-- Whether a heading of level `next` closes a section of level `level`. -/
def closes (mode : ContentMode) (level next : Int) : Bool :=
  mode == .minimal || decide (next ≤ level)

/-- The id that refers to a heading, also to one out of range. -/
def reference (h : Heading) : String :=
  match h.id with
  | some id => if id.isEmpty then slugify h.title else id
  | none => slugify h.title

end Heading

/-! ## Content -/

/-- The blocks of the section of a heading. -/
def Heading.body (mode : ContentMode) (h : Heading) : List Node :=
  h.following.takeWhile fun n => !(n.isHeading && Heading.closes mode h.level n.headingLevel)

/-- Blocks as they stand in the text, each with an empty line behind it. -/
def Document.textOf (d : Document) (blocks : List Node) : String :=
  String.join (blocks.map fun n => d.sourceOf n ++ "\n")

/-- The blocks in front of the first nested heading; none when no heading is nested. -/
def leadIn (body : List Node) : List Node :=
  if body.any Node.isHeading then body.takeWhile (!·.isHeading) else []

/-- The position of the last line feed, if there is one. -/
def lastLineFeed? (cs : List Char) : Option Nat :=
  match Text.dropEndWhile (· != '\n') cs with
  | [] => none
  | upTo => some (upTo.length - 1)

/-- Long content, cut back to the text in front of the first nested heading, or else to its first
characters. These end at a line feed if one stands in their second half. -/
def cutBack (content lead : String) (limit : Nat) : String :=
  if !lead.isEmpty && lead.length ≤ limit then lead
  else
    let start := content.toList.take limit
    match lastLineFeed? start with
    | some cut => String.ofList (if limit / 2 < cut then start.take cut else start)
    | none => String.ofList start

/-- The line that stands for a nested section. -/
def referenceLine (h : Heading) : String :=
  "\n... (see #" ++ h.reference ++ ")\n"

/-- The headings that are nested one level deep, among the headings behind one of level
`level`. -/
def childrenOf (level : Int) (later : List Heading) : List Heading :=
  (later.takeWhile fun h => decide (level < h.level)).filter (·.level == level + 1)

/-- The content of the section of a heading; `later` are the headings behind it. -/
def Document.contentOf (d : Document) (o : SectionOptions) (h : Heading) (later : List Heading) :
    String :=
  let body := h.body o.mode
  let content := d.textOf body
  if o.mode == .smart && o.limit < content.length then
    cutBack content (d.textOf (leadIn body)) o.limit
      ++ String.join ((childrenOf h.level later).map referenceLine)
  else content

/-! ## Rows -/

/-- The number of the last line of the section of a heading; `later` are the headings behind
it. -/
def Document.lastLineOf (d : Document) (o : SectionOptions) (h : Heading) (later : List Heading) :
    Except DocumentError Int :=
  match later.find? fun next => Heading.closes o.mode h.level next.level with
  | none => .ok d.lastLine
  | some next =>
    match d.startLine next.node with
    | some line => .ok (line - 1)
    | none => .error .boundaryWithoutLines

/-- The row of the frontmatter, if there is one. -/
def Document.frontmatterRow (d : Document) (o : SectionOptions) : List Section :=
  if d.rawFrontmatter.isEmpty then []
  else
    [{ id := Section.frontmatterId, path := Section.frontmatterId, level := 0,
       content := if o.includeContent then d.rawFrontmatter else "",
       startLine := some 1, endLine := some d.lineOffset }]

/-- The nearest row of a smaller level; `above` are the rows in front, latest first. -/
def parentOf (above : List Section) (level : Int) : Option Section :=
  above.find? fun s => decide (0 < s.level) && decide (s.level < level)

/-- The rows of headings; `above` are the rows in front of them, latest first. -/
def Document.rows (d : Document) (o : SectionOptions) (above : List Section) :
    List Heading → Except DocumentError (List Section)
  | [] => .ok []
  | h :: later =>
    match h.id with
    | none => d.rows o above later
    | some id => do
      let parent := parentOf above h.level
      let endLine ← d.lastLineOf o h later
      let row : Section :=
        { id
          path := match parent with
            | some s => s.path ++ "/" ++ id
            | none => id
          level := h.level
          title := h.title
          content := if o.includeContent then d.contentOf o h later else ""
          parentId := (parent.map (·.id)).getD ""
          startLine := d.startLine h.node
          endLine := some endLine }
      return row :: (← d.rows o (row :: above) later)

/-- The headings of a document, those in range with ids. -/
def Document.headings (d : Document) (o : SectionOptions) : List Heading :=
  Heading.assignIds o d.startRegistry (Heading.listOf d.blocks)

/-- The section rows of a document. -/
def Document.sections (d : Document) (o : SectionOptions) : Except DocumentError (List Section) :=
  match d.levelFault? with
  | some fault => .error (.unreadableLevel fault)
  | none => do
    let first := d.frontmatterRow o
    return first ++ (← d.rows o first (d.headings o))

end MarkdownSections
