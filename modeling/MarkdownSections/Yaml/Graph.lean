import MarkdownSections.Yaml.Scalar

/-!
# Graphs of nodes

An alias stands for the node with its name, so the nodes of a text make a graph: a node may be
reached on several ways, even from itself. Nodes are numbered in the order in which they start.

A graph changes while its values are made: maps take the entries of other maps in, the key of a
default value becomes a text, and scalars get their values. What was done to a node is seen wherever
the node is reached afterwards.
-/

set_option autoImplicit false

namespace MarkdownSections.Yaml

/-- What a node holds: the code points of a text, or children, which are given by their numbers. -/
inductive Shape where
  | scalar (points : List Nat)
  | sequence (items : List Nat)
  | mapping (entries : List (Nat × Nat))
deriving DecidableEq, Repr

/-- A node with its kind of value. -/
structure GraphNode where
  tag : Tag
  shape : Shape
  /-- The value of a scalar, once it is made. -/
  scalar : Option Scalar := none
deriving DecidableEq, Repr

instance : Inhabited GraphNode := ⟨{ tag := .null, shape := .scalar [] }⟩

/-- The nodes of a text. The root is the first. -/
structure Graph where
  nodes : Array GraphNode
deriving Repr

/-- The kind of value that a text has the form of. -/
def Tag.ofForm (cs : List Char) : Tag :=
  let s := String.ofList cs
  if truthWords.contains s then .bool
  else if isFloat cs then .float
  else if isInt cs then .int
  else if s == "<<" then .merge
  else if nullWords.contains s then .null
  else if Timestamp.isPlain cs then .timestamp
  else if s == "=" then .value
  else .text

/-- The kind of value that a scalar stands for by its form; a line feed at its end does not count,
unless it is all there is. -/
def Tag.ofPlain (cs : List Char) : Tag :=
  if cs == ['\n'] then .text else .ofForm (Text.withoutFinalNewline cs)

/-- The kind of a node with an optional tag; a lone exclamation mark is no tag. -/
def Tag.ofProperty (tag : Option String) (default : Tag) : Tag :=
  match tag with
  | some name => if name == "!" then default else .ofName name
  | none => default

/-- The kind of a scalar: without a tag its form decides, unless it is quoted; with a lone
exclamation mark its form decides in any case. -/
def Tag.ofScalar (tag : Option String) (points : List Nat) (plain : Bool) : Tag :=
  .ofProperty tag
    (if plain || tag.isSome then .ofPlain (Text.charsOfPoints points) else .text)

namespace Graph

/-- The node of a number. -/
def node (g : Graph) (n : Nat) : GraphNode :=
  g.nodes.getD n default

/-- The number of the root. -/
def root : Nat := 0

/-- The entries of a map. -/
def entries (g : Graph) (n : Nat) : List (Nat × Nat) :=
  match (g.node n).shape with
  | .mapping entries => entries
  | _ => []

/-- The graph with other entries of a map. -/
def withEntries (g : Graph) (n : Nat) (entries : List (Nat × Nat)) : Graph :=
  ⟨g.nodes.modify n fun node => { node with shape := .mapping entries }⟩

/-- The graph with the value of a scalar. -/
def withScalar (g : Graph) (n : Nat) (s : Scalar) : Graph :=
  ⟨g.nodes.modify n fun node => { node with scalar := some s }⟩

/-- The graph in which a key of a default value is a text. -/
def withTextKey (g : Graph) (n : Nat) : Graph :=
  ⟨g.nodes.modify n fun node => { node with tag := .text }⟩

/-! ## Merging -/

/-- A way to take the entries of merged maps into a map. -/
abbrev Merging := Nat → Graph → Except Fault Graph

/-- Adds the entries of a map that is merged to those of others, in front of them. -/
def addMap (merge : Merging) (acc : List (Nat × Nat) × Graph) (n : Nat) :
    Except Fault (List (Nat × Nat) × Graph) :=
  match (acc.2.node n).shape with
  | .mapping _ => do
    let g ← merge n acc.2
    return (g.entries n ++ acc.1, g)
  | _ => .error .malformed

/-- The entries that the value of a merge key names: those of a map, or of a list of maps from the
last to the first. -/
def mergedEntries (merge : Merging) (n : Nat) (g : Graph) :
    Except Fault (List (Nat × Nat) × Graph) :=
  match (g.node n).shape with
  | .sequence items => items.foldlM (addMap merge) ([], g)
  | _ => addMap merge ([], g) n

/-- Goes through the entries of a map: `kept` are those that stay so far, last first, and `merged`
those of merged maps. A merge into the map itself leaves no merge key behind. -/
def mergeEntries (merge : Merging) (n : Nat) (kept merged : List (Nat × Nat)) :
    List (Nat × Nat) → Graph → Except Fault Graph
  | [], g => .ok (if merged.isEmpty then g else g.withEntries n (merged ++ g.entries n))
  | e :: rest, g =>
    match (g.node e.1).tag with
    | .merge => do
      let own := kept.reverse ++ rest
      let (more, g) ← mergedEntries merge e.2 (g.withEntries n own)
      if g.entries n == own then mergeEntries merge n kept (merged ++ more) rest g
      else return g.withEntries n (merged ++ more ++ g.entries n)
    | .value => mergeEntries merge n (e :: kept) merged rest (g.withTextKey e.1)
    | _ => mergeEntries merge n (e :: kept) merged rest g

/-- Takes the entries of merged maps into a map; every step inwards uses up a merge key. -/
def mergeFrom : Nat → Merging
  | 0, _, _ => .error .malformed
  | fuel + 1, n, g => mergeEntries (mergeFrom fuel) n [] [] (g.entries n) g

/-- Takes the entries of merged maps into a map, in front of its own; the keys of default values
among them become texts. -/
def merge (n : Nat) (g : Graph) : Except Fault Graph :=
  match (g.node n).shape with
  | .mapping _ => mergeFrom (g.nodes.size + 2) n g
  | _ => .error .malformed

end Graph

end MarkdownSections.Yaml
