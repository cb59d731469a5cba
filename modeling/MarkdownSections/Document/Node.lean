import MarkdownSections.Markdown.Basic

/-!
# Syntax trees

A node stands for a leaf token, or for a pair of tokens and everything between them. Leaf tokens
may hold tokens of their own, which make the children of their nodes.

Building a tree fails when a token closes nothing, when a pair stays open, or when a token opens or
closes several levels at once.
-/

set_option autoImplicit false

namespace MarkdownSections

open Markdown (Token)

/-- A node of a syntax tree. Its tag, attributes, lines and content are those of its leaf token or
of the opening token of its pair. -/
structure Node where
  type : String
  tag : String := ""
  attributes : List (String × Json) := []
  lines : Option (Int × Int) := none
  content : String := ""
  info : String := ""
  children : List Node := []
deriving Repr, Inhabited

namespace Node

/-- The node of a token with the given children. -/
def ofToken (t : Token) (type : String) (children : List Node) : Node :=
  { type, tag := t.tag, attributes := t.attributes, lines := t.lines, content := t.content,
    info := t.info, children }

/-- The type of a pair, by the type of its opening token. -/
def pairType (type : String) : String :=
  if type.endsWith "_open" then String.ofList (type.toList.take (type.length - 5)) else type

/-- A pair that is still open: its opening token and the siblings in front of it, last first. -/
structure Frame where
  opening : Token
  before : List Node

mutual

/-- The nodes of a token list. `nodes` holds the children of the innermost open pair so far, last
first, and `frames` the open pairs, innermost first. -/
def forest (frames : List Frame) (nodes : List Node) : List Token → Option (List Node)
  | [] => if frames.isEmpty then some nodes.reverse else none
  | t :: ts =>
    if t.nesting = 0 then
      match leaf t with
      | some node => forest frames (node :: nodes) ts
      | none => none
    else if t.nesting = 1 then forest (⟨t, nodes⟩ :: frames) [] ts
    else if t.nesting = -1 then
      match frames with
      | ⟨opening, before⟩ :: frames =>
        let node := ofToken opening (pairType opening.type) nodes.reverse
        forest frames (node :: before) ts
      | [] => none
    else none

/-- The node of a leaf token. -/
def leaf (t : Token) : Option Node :=
  match t with
  | { type, tag, lines, attributes, content, info, children, .. } =>
    (forest [] [] children).map fun nodes =>
      { type, tag, attributes, lines, content, info, children := nodes }

end

/-- The top-level nodes of a token list. -/
def ofTokens? (ts : List Token) : Option (List Node) :=
  forest [] [] ts

/-! ## Height -/

mutual

/-- How many nodes stand inside each other at most, a node and those below it. -/
def height (n : Node) : Nat :=
  match n with
  | { children, .. } => heightAll children + 1

/-- How many nodes stand inside each other at most, the nodes of a list and those below them. -/
def heightAll : List Node → Nat
  | [] => 0
  | n :: ns => max (height n) (heightAll ns)

end

/-- How many nodes of a tree may stand inside each other. -/
def maxHeight : Nat := 247

end Node

end MarkdownSections
