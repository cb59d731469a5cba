import MarkdownSections.Yaml.Document
import MarkdownSections.Yaml.SetOrder
import MarkdownSections.Yaml.Token.Stream

/-!
# Values of a YAML text

A node is a scalar value, a list, a list of pairs, a map or a set; the parts of a collection are
nodes again. `Graph.evaluate` makes the values of all nodes that can be reached. It visits the nodes
of a collection in order, and collections in the order in which they are met, so that of several
faults the first met is reported. The key of a default value stands for no value until its map is
visited; from then on it is a text.
-/

set_option autoImplicit false

namespace MarkdownSections.Yaml

/-- What a node stands for; parts are given by their numbers, keys with their values. -/
inductive Value where
  | scalar (value : Scalar)
  | list (items : List Nat)
  | pairs (entries : List (Nat × Nat))
  | map (entries : List ((Nat × Scalar) × Nat))
  | set (keys : List (Nat × Scalar))
deriving DecidableEq, Repr

/-- Whether values of a kind have no parts. -/
def Tag.isScalar : Tag → Bool
  | .null | .bool | .int | .float | .binary | .timestamp | .text => true
  | _ => false

/-- Whether values of a kind have parts. -/
def Tag.isCollection : Tag → Bool
  | .sequence | .map | .set | .pairs | .orderedMap => true
  | _ => false

namespace Graph

/-! ## Scalars -/

/-- Helper of `scalarText`; a chain of default values that is longer than the graph never ends. -/
def scalarTextFrom (g : Graph) : Nat → Nat → Except Fault (List Nat)
  | 0, _ => .error .nestedTooDeeply
  | fuel + 1, n =>
    match (g.node n).shape with
    | .scalar points => .ok points
    | .mapping entries =>
      match entries.find? fun e => (g.node e.1).tag == .value with
      | some (_, v) => g.scalarTextFrom fuel v
      | none => .error .malformed
    | .sequence _ => .error .malformed

/-- The text of a scalar node; a map with a default value stands for that value. -/
def scalarText (g : Graph) (n : Nat) : Except Fault (List Nat) :=
  g.scalarTextFrom (g.nodes.size + 1) n

/-- The value of a scalar node. A timestamp is read off the node itself. -/
def readScalar (g : Graph) (n : Nat) : Except Fault Scalar := do
  let node := g.node n
  if !node.tag.isScalar then throw .malformed
  let points ← g.scalarText n
  match node.tag, node.shape with
  | .timestamp, .mapping _ => throw (.scalar .timestampOfMap)
  | tag, _ => Scalar.read tag points

/-! ## Making values -/

/-- A step of making the values of a graph. -/
abbrev Making := StateT Graph (Except Fault)

/-- Makes the value of a scalar; a collection is to be visited later. -/
def visit (n : Nat) : Making (List Nat) := do
  let g ← get
  let node := g.node n
  if node.tag.isCollection then return [n]
  if node.scalar.isNone then set (g.withScalar n (← g.readScalar n))
  return []

/-- Visits nodes in order. -/
def visitAll (ns : List Nat) : Making (List Nat) := do
  return (← ns.mapM visit).flatten

/-- Visits an entry of a map, whose key must be a scalar. -/
def visitEntry (e : Nat × Nat) : Making (List Nat) := do
  if ((← get).node e.1).tag.isCollection then throw .malformed
  visitAll [e.1, e.2]

/-- The only entry of a map. -/
def pairOf? (g : Graph) (n : Nat) : Option (Nat × Nat) :=
  match (g.node n).shape with
  | .mapping [e] => some e
  | _ => none

/-- Visits one item of a list of pairs. -/
def visitPair (n : Nat) : Making (List Nat) := do
  match (← get).pairOf? n with
  | some e => visitAll [e.1, e.2]
  | none => throw .malformed

/-- Visits the parts of a collection: the collections among them, which are to be visited later. -/
def visitParts (n : Nat) : Making (List Nat) := do
  let node := (← get).node n
  match node.tag, node.shape with
  | .sequence, .sequence items => visitAll items
  | .map, _ | .set, _ =>
    let g ← (← get).merge n
    set g
    return (← (g.entries n).mapM visitEntry).flatten
  | .pairs, .sequence items | .orderedMap, .sequence items =>
    return (← items.mapM visitPair).flatten
  | _, _ => throw .malformed

/-- Visits collections one after another; `seen` are those that were met before. -/
def visitFrom (seen : List Nat) : Nat → List Nat → Making Unit
  | 0, _ => return ()
  | _ + 1, [] => return ()
  | fuel + 1, n :: queue => do
    let met ← visitParts n
    let fresh := (met.filter fun m => !seen.contains m).eraseDups
    visitFrom (fresh ++ seen) fuel (queue ++ fresh)

/-- Visits every node that can be reached from the root. -/
def visitRoot : Making Unit := do
  let start ← visit root
  visitFrom start ((← get).nodes.size + 1) start

/-- The graph in which every node that can be reached stands for a value. -/
def evaluate (g : Graph) : Except Fault Graph := do
  let (_, g) ← visitRoot.run g
  return g

/-! ## Values of evaluated graphs -/

/-- The value of a scalar node. -/
def scalar (g : Graph) (n : Nat) : Scalar :=
  (g.node n).scalar.getD .null

/-- Whether a node is spelled as the literal for what is not a number. -/
def spellsNaN (g : Graph) (n : Nat) : Bool :=
  match g.scalarText n with
  | .ok points =>
    match Scalar.signedNumeral (Text.lowerPoints points) with
    | .ok (_, body) => body == Text.pointsOfChars ".nan".toList
    | .error _ => false
  | .error _ => false

/-- Whether two nodes are the same key. What is not a number is the same key only as the same node,
or where both are spelled as its literal. -/
def sameKey (g : Graph) (a b : Nat × Scalar) : Bool :=
  match a.2, b.2 with
  | .float .nan, .float .nan => a.1 == b.1 || (g.spellsNaN a.1 && g.spellsNaN b.1)
  | x, y => x.sameKey y

/-- Puts an entry into an ordered map: a known key keeps its place and takes the new value. -/
def insertEntry (g : Graph) (known : List ((Nat × Scalar) × Nat)) (entry : (Nat × Scalar) × Nat) :
    List ((Nat × Scalar) × Nat) :=
  if known.any fun e => g.sameKey e.1 entry.1 then
    known.map fun e => if g.sameKey e.1 entry.1 then (e.1, entry.2) else e
  else known ++ [entry]

/-- The entries of a map, each key once. -/
def mapEntries (g : Graph) (n : Nat) : List ((Nat × Scalar) × Nat) :=
  ((g.entries n).map fun e => ((e.1, g.scalar e.1), e.2)).foldl g.insertEntry []

/-- What a node of an evaluated graph stands for. -/
def value (g : Graph) (n : Nat) : Value :=
  let node := g.node n
  match node.tag, node.shape with
  | .sequence, .sequence items => .list items
  | .pairs, .sequence items | .orderedMap, .sequence items => .pairs (items.filterMap g.pairOf?)
  | .map, _ => .map (g.mapEntries n)
  | .set, _ => .set (SetOrder.sort (·.2) ((g.mapEntries n).map (·.1)))
  | _, _ => .scalar (g.scalar n)

/-- The graph of a text; a text without a document has none. -/
def ofText? (cs : List Char) : Except Fault (Option Graph) := do
  match ← ofTokens? (.ofText cs) with
  | none => return none
  | some g => return some (← g.evaluate)

end Graph

namespace Value

/-- Whether a value counts as absent where absence is asked for. -/
def isBlankValue : Value → Bool
  | .scalar s => s.isBlankValue
  | .list items => items.isEmpty
  | .pairs entries => entries.isEmpty
  | .map entries => entries.isEmpty
  | .set keys => keys.isEmpty

/-- The name of the kind of a value. -/
def kindName : Value → String
  | .scalar .null => "NoneType"
  | .scalar (.bool _) => "bool"
  | .scalar (.int _) => "int"
  | .scalar (.float _) => "float"
  | .scalar (.text _) | .scalar (.brokenText _) => "str"
  | .scalar (.bytes _) => "bytes"
  | .scalar (.date _) => "date"
  | .scalar (.moment _) => "datetime"
  | .list _ | .pairs _ => "list"
  | .map _ => "dict"
  | .set _ => "set"

end Value

end MarkdownSections.Yaml
