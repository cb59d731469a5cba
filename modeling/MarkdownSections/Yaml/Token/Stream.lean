import MarkdownSections.Yaml.Token.Block
import MarkdownSections.Yaml.Token.Plain
import MarkdownSections.Yaml.Token.Property
import MarkdownSections.Yaml.Token.Quoted

/-!
# Reading a text into tokens

Tokens are read one after another. What stands in front of a colon may turn out to be a key, so its
place is marked when it is read. Outside flow collections the column of a token opens and closes
block collections: `indent` is the column of the innermost one.
-/

set_option autoImplicit false

namespace MarkdownSections.Yaml

/-- A place where a key may start: its number, whether a colon has to follow, and where it
stands. -/
structure KeyPlace where
  number : Nat
  required : Bool
  index : Nat
  line : Nat
  column : Int
deriving Repr

/-- The state of reading tokens. -/
structure TokenReader where
  cursor : Cursor
  /-- The tokens so far, last first. -/
  tokens : List Token := []
  /-- How many flow collections are open. -/
  depth : Nat := 0
  indent : Int := -1
  /-- The indentations around the innermost one. -/
  outer : List Int := []
  /-- Whether a key may start here. -/
  keyAllowed : Bool := true
  /-- The place that may still become a key, for each depth. -/
  places : List (Nat × KeyPlace) := []
  /-- How many places are marked. -/
  marked : Nat := 0
  /-- The places that are keys, and whether a block map starts there. -/
  keys : List (Nat × Bool) := []

namespace TokenReader

/-- Adds a token. -/
def emit (r : TokenReader) (t : Token) : TokenReader :=
  { r with tokens := t :: r.tokens }

/-- Adds a token and moves on. -/
def emitAt (r : TokenReader) (t : Token) (c : Cursor) : TokenReader :=
  { r with tokens := t :: r.tokens, cursor := c }

/-- Whether the reader is inside a flow collection. -/
def inFlow (r : TokenReader) : Bool :=
  r.depth != 0

/-! ## Places of keys -/

/-- How far a colon may be from the start of its key. -/
def maxKeyLength : Nat := 1024

/-- Gives up the places from which a colon is too far away; one that needs its colon is a fault. -/
def dropStale (r : TokenReader) : Except Fault TokenReader :=
  let isStale (p : KeyPlace) : Bool :=
    p.line != r.cursor.line || maxKeyLength < r.cursor.index - p.index
  if r.places.any fun p => isStale p.2 && p.2.required then .error .malformed
  else .ok { r with places := r.places.filter fun p => !isStale p.2 }

/-- Gives up the place at the current depth. -/
def dropPlace (r : TokenReader) : Except Fault TokenReader :=
  match r.places.lookup r.depth with
  | some p =>
    if p.required then .error .malformed
    else .ok { r with places := r.places.filter (·.1 != r.depth) }
  | none => .ok r

/-- Marks a place where a key may start. -/
def markPlace (r : TokenReader) : Except Fault TokenReader :=
  if r.keyAllowed then do
    let r ← r.dropPlace
    let place : KeyPlace :=
      { number := r.marked, required := !r.inFlow && r.indent == r.cursor.column
        index := r.cursor.index, line := r.cursor.line, column := r.cursor.column }
    return { r.emit (.place r.marked) with
      marked := r.marked + 1, places := (r.depth, place) :: r.places }
  else .ok r

/-! ## Indentation -/

/-- Helper of `unwindTo`: `outer` are the indentations around the current one. -/
def unwindFrom (column : Int) (r : TokenReader) : List Int → TokenReader
  | [] => r
  | i :: outer =>
    if column < r.indent then
      unwindFrom column { r.emit .blockEnd with indent := i, outer := outer } outer
    else r

/-- Closes the block collections that stand deeper than a column. -/
def unwindTo (r : TokenReader) (column : Int) : TokenReader :=
  if r.inFlow then r else unwindFrom column r r.outer

/-- Makes a column the indentation if it is deeper; tells whether it was. -/
def indentTo (r : TokenReader) (column : Int) : Bool × TokenReader :=
  if r.indent < column then (true, { r with indent := column, outer := r.indent :: r.outer })
  else (false, r)

/-- Opens a block collection at the cursor, unless it is open. -/
def openBlock (r : TokenReader) (start : Token) : TokenReader :=
  match r.indentTo r.cursor.column with
  | (true, r) => r.emit start
  | (false, r) => r

/-! ## Blanks -/

/-- Moves over spaces, comments and line ends to the next token. -/
def skipFrom : Nat → TokenReader → TokenReader
  | 0, r => r
  | fuel + 1, r =>
    let c := r.cursor.skip (· == ' ')
    let c := if c.peek == '#' then c.skip (!isBreakOrEnd ·) else c
    match c.lineBreak? with
    | some (_, c) =>
      skipFrom fuel { r with cursor := c, keyAllowed := r.keyAllowed || !r.inFlow }
    | none => { r with cursor := c }

/-- Moves to the next token; a byte order mark may start the text. -/
def skipBlanks (r : TokenReader) : TokenReader :=
  let c := r.cursor
  let c := if c.index == 0 && c.peek == '\uFEFF' then c.step else c
  skipFrom (c.rest.length + 1) { r with cursor := c }

/-! ## Tokens -/

/-- Closes all blocks in front of a directive, a document marker or the end. -/
def closeBlocks (r : TokenReader) : Except Fault TokenReader := do
  let r ← (r.unwindTo (-1)).dropPlace
  return { r with keyAllowed := false }

/-- Reads a directive. -/
def directive (r : TokenReader) : Except Fault TokenReader := do
  let r ← r.closeBlocks
  let (t, c) ← Property.directive r.cursor
  return r.emitAt t c

/-- Reads a document marker. -/
def documentMark (r : TokenReader) (t : Token) : Except Fault TokenReader := do
  let r ← r.closeBlocks
  return r.emitAt t (r.cursor.advance 3)

/-- Reads the start of a flow collection. -/
def openFlow (r : TokenReader) (t : Token) : Except Fault TokenReader := do
  let r ← r.markPlace
  return { r.emitAt t r.cursor.step with depth := r.depth + 1, keyAllowed := true }

/-- Reads the end of a flow collection. -/
def closeFlow (r : TokenReader) (t : Token) : Except Fault TokenReader := do
  let r ← r.dropPlace
  if r.depth = 0 then throw .malformed
  return { r.emitAt t r.cursor.step with depth := r.depth - 1, keyAllowed := false }

/-- Reads the comma between two entries of a flow collection. -/
def flowEntry (r : TokenReader) : Except Fault TokenReader := do
  let r ← { r with keyAllowed := true }.dropPlace
  return r.emitAt .flowEntry r.cursor.step

/-- Reads the hyphen in front of an entry of a block sequence. -/
def blockEntry (r : TokenReader) : Except Fault TokenReader := do
  if !r.inFlow && !r.keyAllowed then throw .malformed
  let r := if r.inFlow then r else r.openBlock .blockSequenceStart
  let r ← { r with keyAllowed := true }.dropPlace
  return r.emitAt .blockEntry r.cursor.step

/-- Reads the question mark in front of a key. -/
def markedKey (r : TokenReader) : Except Fault TokenReader := do
  if !r.inFlow && !r.keyAllowed then throw .malformed
  let r := if r.inFlow then r else r.openBlock .blockMappingStart
  let r ← { r with keyAllowed := !r.inFlow }.dropPlace
  return r.emitAt .key r.cursor.step

/-- Reads the colon in front of a value; the place marked at this depth becomes a key. -/
def value (r : TokenReader) : Except Fault TokenReader := do
  match r.places.lookup r.depth with
  | some place =>
    let r := { r with places := r.places.filter (·.1 != r.depth), keyAllowed := false }
    let (opens, r) := if r.inFlow then (false, r) else r.indentTo place.column
    let r := { r with keys := (place.number, opens) :: r.keys }
    return r.emitAt .value r.cursor.step
  | none =>
    if !r.inFlow && !r.keyAllowed then throw .malformed
    let r := if r.inFlow then r else r.openBlock .blockMappingStart
    let r := { r with keyAllowed := !r.inFlow }
    return r.emitAt .value r.cursor.step

/-- Reads a token that may start a key. -/
def keyPart (r : TokenReader) (read : Cursor → Except Fault (Token × Cursor)) :
    Except Fault TokenReader := do
  let r ← r.markPlace
  let (t, c) ← read r.cursor
  return { r.emitAt t c with keyAllowed := false }

/-- Reads a quoted scalar. -/
def quoted (r : TokenReader) (quote : Char) : Except Fault TokenReader :=
  r.keyPart fun c => do
    let (points, c) ← Quoted.read quote c
    return (.scalar points false, c)

/-- Reads a block scalar. -/
def block (r : TokenReader) (folded : Bool) : Except Fault TokenReader := do
  let r ← { r with keyAllowed := true }.dropPlace
  let (text, c) ← Block.read folded r.indent r.cursor
  return r.emitAt (.scalar (Text.pointsOfChars text) false) c

/-- Reads a plain scalar. -/
def plain (r : TokenReader) : Except Fault TokenReader := do
  let r ← r.markPlace
  let found := Plain.read r.inFlow (r.indent + 1) r.cursor
  return { r.emitAt (.scalar (Text.pointsOfChars found.text) true) found.cursor with
    keyAllowed := found.fresh }

/-- The characters that may not start a plain scalar. -/
def marks : List Char :=
  ['-', '?', ':', ',', '[', ']', '\x7b', '\x7d', '#', '&', '*', '!', '|', '>', '\'', '"', '%', '@',
    '\x60']

/-- Whether a plain scalar starts at a cursor. -/
def startsPlain (r : TokenReader) (c : Cursor) : Bool :=
  let x := c.peek
  !(isBlankOrEnd x || marks.contains x)
    || (!isBlankOrEnd (c.peekAt 1) && (x == '-' || (!r.inFlow && (x == '?' || x == ':'))))

/-- Reads one token that is not the end. -/
def next (r : TokenReader) : Except Fault TokenReader :=
  let c := r.cursor
  let x := c.peek
  let standsAlone := isBlankOrEnd (c.peekAt 1)
  if x == '%' && c.column == 0 then r.directive
  else if c.column == 0 && c.atMarkLine '-' then r.documentMark .documentStart
  else if c.column == 0 && c.atMarkLine '.' then r.documentMark .documentEnd
  else if x == '[' then r.openFlow .flowSequenceStart
  else if x == '\x7b' then r.openFlow .flowMappingStart
  else if x == ']' then r.closeFlow .flowSequenceEnd
  else if x == '\x7d' then r.closeFlow .flowMappingEnd
  else if x == ',' then r.flowEntry
  else if x == '-' && standsAlone then r.blockEntry
  else if x == '?' && (r.inFlow || standsAlone) then r.markedKey
  else if x == ':' && (r.inFlow || standsAlone) then r.value
  else if x == '*' then r.keyPart fun c => (Property.name c).map fun (n, c) => (.aliasOf n, c)
  else if x == '&' then r.keyPart fun c => (Property.name c).map fun (n, c) => (.anchor n, c)
  else if x == '!' then r.keyPart Property.tag
  else if x == '|' && !r.inFlow then r.block false
  else if x == '>' && !r.inFlow then r.block true
  else if x == '\'' || x == '"' then r.quoted x
  else if r.startsPlain c then r.plain
  else .error .malformed

/-- Reads one token and what stands in front of it; nothing is left to read behind the end. -/
def advance (r : TokenReader) : Except Fault (TokenReader × Bool) := do
  let r ← r.skipBlanks.dropStale
  let r := r.unwindTo r.cursor.column
  if r.cursor.peek == endMark then return (← r.closeBlocks, true) else return (← r.next, false)

/-- Reads tokens up to the end or a fault; every one takes at least one character. -/
def readFrom : Nat → TokenReader → TokenReader × Option Fault
  | 0, r => (r, some .malformed)
  | fuel + 1, r =>
    match r.advance with
    | .error fault => (r, some fault)
    | .ok (r, true) => (r, none)
    | .ok (r, false) => readFrom fuel r

/-- The tokens of a reader in order, with the places that are keys settled. A place that may still
become a key holds back all tokens behind it. -/
def settled (r : TokenReader) : List Token :=
  let isOpen (t : Token) : Bool := match t with
    | .place n => r.places.any (·.2.number == n)
    | _ => false
  (r.tokens.reverse.takeWhile fun t => !isOpen t).flatMap fun t =>
    match t with
    | .place n =>
      match r.keys.lookup n with
      | some true => [.blockMappingStart, .key]
      | some false => [.key]
      | none => []
    | t => [t]

end TokenReader

/-- Whether a character may stand in a text. -/
def isAllowed (c : Char) : Bool :=
  let n := c.toNat
  n == 0x09 || n == 0x0A || n == 0x0D || (0x20 ≤ n && n ≤ 0x7E) || n == 0x85
    || (0xA0 ≤ n && n ≤ 0xD7FF) || (0xE000 ≤ n && n ≤ 0xFFFD) || 0x10000 ≤ n

/-- The tokens of a text. In front of a fault, places from which a colon is too far away are given
up first. -/
def Tokens.ofText (cs : List Char) : Tokens :=
  if !cs.all isAllowed then { list := [], fault := some .malformed }
  else
    match TokenReader.readFrom (cs.length + 2) { cursor := { rest := cs } } with
    | (r, none) => { list := { r with places := [] }.settled }
    | (r, some fault) => { list := (r.dropStale.toOption.getD r).settled, fault := some fault }

end MarkdownSections.Yaml
