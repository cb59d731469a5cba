import MarkdownSections.Document.Node
import MarkdownSections.Text.Blank
import MarkdownSections.Text.Numeral

/-!
# What nodes say

The nodes below a node in document order, the visible text of a node with all markup removed, and
the level of a heading.

A link, an image or an emphasis reads as the visible text of its pieces; a literal block reads as
its content; any other node reads as the texts of all its lines, one below the other.
-/

set_option autoImplicit false

namespace MarkdownSections.Node

/-! ## Walking -/

mutual

/-- A node and all nodes below it, each node in front of its children. -/
def walk (n : Node) : List Node :=
  n :: match n with
    | { children, .. } => walkAll children

/-- The nodes of a list and all nodes below them, in document order. -/
def walkAll : List Node → List Node
  | [] => []
  | n :: ns => walk n ++ walkAll ns

end

mutual

/-- A node and all nodes below it, each with the lines of the innermost node around it that has
any, itself included; `outer` are the lines of the nodes around the first. -/
def walkPlaced (outer : Option (Int × Int)) (n : Node) : List (Node × Option (Int × Int)) :=
  let place := n.lines.or outer
  (n, place) :: match n with
    | { children, .. } => walkAllPlaced place children

/-- The nodes of a list and all nodes below them, each with its place. -/
def walkAllPlaced (outer : Option (Int × Int)) : List Node → List (Node × Option (Int × Int))
  | [] => []
  | n :: ns => walkPlaced outer n ++ walkAllPlaced outer ns

end

/-! ## Visible text -/

mutual

/-- The visible text of one piece of a line. -/
def pieceText : Node → String
  | { type, content, children, .. } =>
    if type == "text" || type == "code_inline" then content
    else if type == "softbreak" then " "
    else if type == "hardbreak" then "\n"
    else piecesText children

/-- The visible text of pieces in a row. -/
def piecesText : List Node → String
  | [] => ""
  | n :: ns => pieceText n ++ piecesText ns

end

/-- The visible text of the pieces of a node. -/
def inlineText (n : Node) : String :=
  piecesText n.children

/-- Whether a node holds pieces of a line. -/
def holdsPieces (n : Node) : Bool :=
  ["inline", "link", "image", "strong", "em", "s"].contains n.type

/-- Whether a node is a block whose content is taken as it stands. -/
def isLiteral (n : Node) : Bool :=
  ["fence", "code_block", "html_block"].contains n.type

/-- The visible text of a node. -/
def plainText (n : Node) : String :=
  if n.holdsPieces then n.inlineText
  else if n.isLiteral then Text.dropFinalNewlines n.content
  else "\n".intercalate ((n.walk.filter (·.type == "inline")).map inlineText)

/-! ## Headings -/

/-- Whether a node is a heading. -/
def isHeading (n : Node) : Bool :=
  n.type == "heading"

/-- Reads the level of a heading off its tag, which is a letter and a number; any other tag, and
any other node, has level 0. Nothing is read from digits that write no number. -/
def readLevel (n : Node) : Except Text.NumeralFault Int :=
  let digits := n.tag.toList.tail
  if n.isHeading && !digits.isEmpty && digits.all Text.isDigitCharacter then Text.readInt digits
  else .ok 0

/-- The level of a heading, 0 for what has none. -/
def headingLevel (n : Node) : Int :=
  match n.readLevel with
  | .ok level => level
  | .error _ => 0

/-- What is wrong with the level of a heading. -/
def levelFault? (n : Node) : Option Text.NumeralFault :=
  match n.readLevel with
  | .ok _ => none
  | .error fault => some fault

end MarkdownSections.Node
