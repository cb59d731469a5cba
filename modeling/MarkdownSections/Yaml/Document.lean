import MarkdownSections.Yaml.Graph
import MarkdownSections.Yaml.Token.Basic

/-!
# Reading a document

The nodes of the only document of a text, read from its tokens. Where an entry is left out, an empty
plain scalar stands. A name is known from the start of its node on, and names one node only.

Tokens are looked at one by one, so that a fault in the text is met only where reading needs a token
behind it: faults of nodes in front of it are met first.
-/

set_option autoImplicit false

namespace MarkdownSections.Yaml

/-- What tag handles stand for. -/
abbrev Handles := List (String × String)

/-- The handles that every document knows. -/
def defaultHandles : Handles :=
  [("!", "!"), ("!!", "tag:yaml.org,2002:")]

/-- The state of reading a document: the tokens ahead and the fault behind them, the handles, the
nodes so far, and the numbers of the named ones. -/
structure DocumentReader where
  tokens : List Token
  fault : Option Fault
  handles : Handles := defaultHandles
  nodes : Array GraphNode := #[]
  names : List (String × Nat) := []

/-- A step of reading a document. -/
abbrev Reading := StateT DocumentReader (Except Fault)

namespace Reading

/-! ## Tokens -/

/-- The next token; nothing at the end. -/
def peek : Reading (Option Token) := do
  let r ← get
  match r.tokens, r.fault with
  | t :: _, _ => return some t
  | [], none => return none
  | [], some fault => throw fault

/-- Passes over the next token. -/
def skip : Reading Unit :=
  modify fun r => { r with tokens := r.tokens.tail }

/-- Passes over the next token if it is the given one; tells whether it was. -/
def accept (t : Token) : Reading Bool := do
  if (← peek) == some t then
    skip
    return true
  else return false

/-! ## Properties -/

/-- The name and the tag that stand in front of a node; the tag is written out. -/
structure Properties where
  anchor : Option String := none
  tag : Option String := none
deriving DecidableEq, Repr

/-- Reads a name, if one comes next. -/
def anchor? : Reading (Option String) := do
  match ← peek with
  | some (.anchor name) =>
    skip
    return some name
  | _ => return none

/-- Reads a tag, if one comes next: its handle and its suffix. -/
def tag? : Reading (Option (Option String × String)) := do
  match ← peek with
  | some (.tag handle suffix) =>
    skip
    return some (handle, suffix)
  | _ => return none

/-- A tag written out. -/
def expandTag (tag : Option String × String) : Reading String := do
  match tag with
  | (none, suffix) => return suffix
  | (some handle, suffix) =>
    match (← get).handles.lookup handle with
    | some expansion => return expansion ++ suffix
    | none => throw .malformed

/-- Reads the name and the tag of a node, in any order, each at most once. -/
def properties : Reading Properties := do
  let first ← anchor?
  let tag ← tag?
  let anchor ← if first.isNone && tag.isSome then anchor? else pure first
  return { anchor, tag := ← tag.mapM expandTag }

/-! ## Nodes -/

/-- Starts a node: its number. -/
def start (p : Properties) (node : GraphNode) : Reading Nat := do
  let r ← get
  let number := r.nodes.size
  let names ← match p.anchor with
    | none => pure r.names
    | some name =>
      if (r.names.lookup name).isSome then throw .malformed else pure ((name, number) :: r.names)
  set { r with nodes := r.nodes.push node, names }
  return number

/-- The node of a name. -/
def named (name : String) : Reading Nat := do
  match (← get).names.lookup name with
  | some number => return number
  | none => throw .malformed

/-- What stands for an entry that is left out. -/
def emptyNode : Reading Nat :=
  start {} { tag := .ofScalar none [] true, shape := .scalar [] }

/-- Reads a collection; `room` tells how many collections may stand in each other from here on. -/
def collection (node : GraphNode) (p : Properties) (room : Nat) (content : Nat → Reading Shape) :
    Reading Nat := do
  match room with
  | 0 => throw .nestedTooDeeply
  | room + 1 =>
    let number ← start p node
    let shape ← content room
    modify fun r => { r with nodes := r.nodes.setIfInBounds number { node with shape } }
    return number

/-- Reads a sequence. -/
def sequence (p : Properties) (room : Nat) (items : Nat → Reading (List Nat)) : Reading Nat :=
  collection { tag := .ofProperty p.tag .sequence, shape := .sequence [] } p room fun room =>
    return .sequence (← items room)

/-- Reads a map. -/
def mapping (p : Properties) (room : Nat) (entries : Nat → Reading (List (Nat × Nat))) :
    Reading Nat :=
  collection { tag := .ofProperty p.tag .map, shape := .mapping [] } p room fun room =>
    return .mapping (← entries room)

/-- What may stand where a node is read. -/
inductive Place where
  /-- Inside a flow collection. -/
  | flow
  /-- In a block. -/
  | block
  /-- In a block map, where a sequence need not be indented. -/
  | entry
deriving DecidableEq

/-- Whether a token ends a part of a block map. -/
def endsBlockPart (t : Option Token) : Bool :=
  t == some .key || t == some .value || t == some .blockEnd

/-- Whether a token ends an item of a sequence that is not indented. -/
def endsLooseItem (t : Option Token) : Bool :=
  t == some .blockEntry || endsBlockPart t

/-- Whether a token ends an item of a block sequence. -/
def endsItem (t : Option Token) : Bool :=
  t == some .blockEntry || t == some .blockEnd

/-- Whether a token ends a part of an entry of a flow collection that `close` ends. -/
def endsFlowPart (close : Token) (t : Option Token) : Bool :=
  t == some .flowEntry || t == some close

mutual

/-- Reads a node. -/
def node (place : Place) : Nat → Nat → Reading Nat
  | 0, _ => throw .malformed
  | fuel + 1, room => do
    match ← peek with
    | some (.aliasOf name) =>
      skip
      named name
    | _ =>
      let p ← properties
      match ← peek with
      | some (.scalar points plain) =>
        skip
        start p { tag := .ofScalar p.tag points plain, shape := .scalar points }
      | some .flowSequenceStart =>
        skip
        sequence p room (flowItems true fuel)
      | some .flowMappingStart =>
        skip
        mapping p room (flowEntries true fuel)
      | t =>
        if place == .entry && t == some .blockEntry then sequence p room (looseItems fuel)
        else if place != .flow && t == some .blockSequenceStart then
          skip
          sequence p room (blockItems fuel)
        else if place != .flow && t == some .blockMappingStart then
          skip
          mapping p room (blockEntries fuel)
        else if p.anchor.isSome || p.tag.isSome then
          start p { tag := .ofScalar p.tag [] true, shape := .scalar [] }
        else throw .malformed
termination_by structural fuel _ => fuel

/-- Reads the items of a block sequence and its end. -/
def blockItems : Nat → Nat → Reading (List Nat)
  | 0, _ => throw .malformed
  | fuel + 1, room => do
    if ← accept .blockEntry then
      let item ← if endsItem (← peek) then emptyNode else node .block fuel room
      return item :: (← blockItems fuel room)
    else if ← accept .blockEnd then return []
    else throw .malformed
termination_by structural fuel _ => fuel

/-- Reads the items of a sequence that is not indented. -/
def looseItems : Nat → Nat → Reading (List Nat)
  | 0, _ => throw .malformed
  | fuel + 1, room => do
    if ← accept .blockEntry then
      let item ← if endsLooseItem (← peek) then emptyNode else node .block fuel room
      return item :: (← looseItems fuel room)
    else return []
termination_by structural fuel _ => fuel

/-- Reads the entries of a block map and its end. -/
def blockEntries : Nat → Nat → Reading (List (Nat × Nat))
  | 0, _ => throw .malformed
  | fuel + 1, room => do
    if ← accept .key then
      let key ← if endsBlockPart (← peek) then emptyNode else node .entry fuel room
      let value ←
        if ← accept .value then
          if endsBlockPart (← peek) then emptyNode else node .entry fuel room
        else emptyNode
      return (key, value) :: (← blockEntries fuel room)
    else if ← accept .blockEnd then return []
    else throw .malformed
termination_by structural fuel _ => fuel

/-- Reads the items of a flow sequence and its end; a key and a value without braces around them
make a map of one entry. -/
def flowItems (first : Bool) : Nat → Nat → Reading (List Nat)
  | 0, _ => throw .malformed
  | fuel + 1, room => do
    if ← accept .flowSequenceEnd then return []
    else
      let separated ← if first then pure true else accept .flowEntry
      if !separated then throw .malformed
      else if ← accept .flowSequenceEnd then return []
      else
        let item ←
          if ← accept .key then
            mapping {} room fun room => return [← flowEntry .flowSequenceEnd fuel room]
          else node .flow fuel room
        return item :: (← flowItems false fuel room)
termination_by structural fuel _ => fuel

/-- Reads the entries of a flow map and its end; a key without a colon has no value. -/
def flowEntries (first : Bool) : Nat → Nat → Reading (List (Nat × Nat))
  | 0, _ => throw .malformed
  | fuel + 1, room => do
    if ← accept .flowMappingEnd then return []
    else
      let separated ← if first then pure true else accept .flowEntry
      if !separated then throw .malformed
      else if ← accept .flowMappingEnd then return []
      else
        let entry ←
          if ← accept .key then flowEntry .flowMappingEnd fuel room
          else pure (← node .flow fuel room, ← emptyNode)
        return entry :: (← flowEntries false fuel room)
termination_by structural fuel _ => fuel

/-- Reads the key and the value of an entry of a flow collection that `close` ends. -/
def flowEntry (close : Token) : Nat → Nat → Reading (Nat × Nat)
  | 0, _ => throw .malformed
  | fuel + 1, room => do
    let t ← peek
    let key ←
      if t == some .value || endsFlowPart close t then emptyNode else node .flow fuel room
    let value ←
      if ← accept .value then
        if endsFlowPart close (← peek) then emptyNode else node .flow fuel room
      else emptyNode
    return (key, value)
termination_by structural fuel _ => fuel

end

/-! ## Documents -/

/-- Reads the directives in front of a document: the tag handles they set. -/
def directives (versioned : Bool) (own : Handles) : Nat → Reading Handles
  | 0 => return own
  | fuel + 1 => do
    match ← peek with
    | some (.version major) =>
      if versioned || major != 1 then throw .malformed
      skip
      directives true own fuel
    | some (.tagPrefix handle expansion) =>
      if (own.lookup handle).isSome then throw .malformed
      skip
      directives versioned ((handle, expansion) :: own) fuel
    | some .otherDirective =>
      skip
      directives versioned own fuel
    | _ => return own

/-- Whether a token ends a document without content. -/
def endsDocument : Option Token → Bool
  | none => true
  | some t =>
    match t with
    | .version _ | .tagPrefix _ _ | .otherDirective | .documentStart | .documentEnd => true
    | _ => false

/-- How many collections may stand in each other. -/
def maxNesting : Nat := 490

/-- Passes over the marks at the end of a document, which must end the text. -/
def finish : Nat → Reading Unit
  | 0 => return ()
  | fuel + 1 => do
    if ← accept .documentEnd then finish fuel
    else if (← peek).isNone then return ()
    else
      let _ ← directives false [] fuel
      let _ ← peek
      throw .malformed

/-- Reads the only document of a text, whose root is the first node; a text may hold none. -/
def document? (fuel : Nat) : Reading Bool := do
  let t ← peek
  if t.isNone then return false
  if endsDocument t && t != some .documentEnd then
    let own ← directives false [] fuel
    modify fun r => { r with handles := own ++ defaultHandles }
    if !(← accept .documentStart) then throw .malformed
    let _ ← if endsDocument (← peek) then emptyNode else node .block fuel maxNesting
  else
    let _ ← node .block fuel maxNesting
  finish fuel
  return true

end Reading

/-- The graph of the only document among tokens; there may be none. -/
def Graph.ofTokens? (ts : Tokens) : Except Fault (Option Graph) := do
  let reader : DocumentReader := { tokens := ts.list, fault := ts.fault }
  let (found, r) ← (Reading.document? (4 * ts.list.length + 4)).run reader
  return if found then some ⟨r.nodes⟩ else none

end MarkdownSections.Yaml
