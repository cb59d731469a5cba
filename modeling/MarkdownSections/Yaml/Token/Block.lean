import MarkdownSections.Yaml.Cursor
import MarkdownSections.Yaml.Fault

/-!
# Block scalars

A block scalar starts behind its header line and takes in all lines that are indented enough. A
literal one keeps its line ends; a folded one turns a line end between two lines of text into a
space. The header may state the indentation, and whether the line ends behind the last line are
dropped, cut to one, or all kept.
-/

set_option autoImplicit false

namespace MarkdownSections.Yaml.Block

/-- What becomes of the line ends behind the last line. -/
inductive Chomping where
  | strip
  | clip
  | keep
deriving DecidableEq, Repr

/-- The chomping that a mark asks for. -/
def chomping? (c : Char) : Option Chomping :=
  if c == '+' then some .keep else if c == '-' then some .strip else none

/-- Reads a digit of a header: the stated indentation, which is not zero. -/
def increment? (c : Cursor) : Except Fault (Option Nat × Cursor) :=
  if c.peek.isDigit then
    if c.peek == '0' then .error .malformed else .ok (some (c.peek.toNat - 0x30), c.step)
  else .ok (none, c)

/-- Reads the marks of a header. -/
def header (c : Cursor) : Except Fault (Chomping × Option Nat × Cursor) := do
  match chomping? c.peek with
  | some chomping => do
    let (increment, c) ← increment? c.step
    return (chomping, increment, c)
  | none => do
    let (increment, c) ← increment? c
    match increment, chomping? c.peek with
    | some _, some chomping => return (chomping, increment, c.step)
    | _, _ => return (.clip, increment, c)

/-- Moves over the rest of a line that holds at most a comment. -/
def restOfLine (c : Cursor) : Except Fault Cursor :=
  let c := c.skip (· == ' ')
  let c := if c.peek == '#' then c.skip (!isBreakOrEnd ·) else c
  match c.lineBreak? with
  | some (_, c) => .ok c
  | none => if c.peek == endMark then .ok c else .error .malformed

/-- Moves over the spaces in front of a column. -/
def skipTo (indent : Int) (c : Cursor) : Cursor :=
  c.advance (min (c.rest.takeWhile (· == ' ')).length (indent - c.column).toNat)

/-- The line ends of empty lines, and the cursor in front of the next line at its indentation. -/
def emptyLines (indent : Int) : Nat → Cursor → List Char × Cursor
  | 0, c => ([], c)
  | fuel + 1, c =>
    let c := skipTo indent c
    match c.lineBreak? with
    | none => ([], c)
    | some (x, c) =>
      let (more, c) := emptyLines indent fuel c
      (x :: more, c)

/-- The line ends of leading empty lines and the greatest column that spaces reach in them and in
front of the first line of text. -/
def leadingLines (deepest : Int) : Nat → Cursor → List Char × Int × Cursor
  | 0, c => ([], deepest, c)
  | fuel + 1, c =>
    if c.peek == ' ' then
      let c := c.step
      leadingLines (max deepest c.column) fuel c
    else match c.lineBreak? with
      | none => ([], deepest, c)
      | some (x, c) =>
        let (more, deepest, c) := leadingLines deepest fuel c
        (x :: more, deepest, c)

/-- The lines of a block scalar: its text, the last line end, the empty lines behind it, and the
cursor. -/
structure Lines where
  text : List Char := []
  lastBreak : List Char := []
  trailing : List Char := []
  cursor : Cursor

/-- Reads the lines of a block scalar; `before` are the line ends of the empty lines in front. -/
def lines (folded : Bool) (indent : Int) (before : List Char) : Nat → Cursor → Lines
  | 0, c => { cursor := c, trailing := before }
  | fuel + 1, c =>
    if c.column != indent || c.peek == endMark then { cursor := c, trailing := before }
    else
      let isBlank (x : Char) : Bool := x == ' ' || x == '\t'
      let startsBlank := isBlank c.peek
      let (line, c) := c.span (!isBreakOrEnd ·)
      let (lineEnd, c) := match c.lineBreak? with
        | some (x, c) => ([x], c)
        | none => ([], c)
      let (after, c) := emptyLines indent (c.rest.length + 1) c
      if c.column == indent && c.peek != endMark then
        let joint :=
          if folded && lineEnd == ['\n'] && !startsBlank && !isBlank c.peek then
            if after.isEmpty then [' '] else []
          else lineEnd
        let more := lines folded indent after fuel c
        { more with text := before ++ line ++ joint ++ more.text }
      else { text := before ++ line, lastBreak := lineEnd, trailing := after, cursor := c }

/-- Reads a block scalar with the cursor in front of its mark; `outer` is the indentation around
it. -/
def read (folded : Bool) (outer : Int) (c : Cursor) : Except Fault (List Char × Cursor) := do
  let (chomping, increment, c) ← header c.step
  if !isSpaceOrEnd c.peek then throw .malformed
  let c ← restOfLine c
  let least := max (outer + 1) 1
  let fuel := c.rest.length + 1
  let (before, indent, c) := match increment with
    | some n =>
      let indent := least + n - 1
      let (before, c) := emptyLines indent fuel c
      (before, indent, c)
    | none =>
      let (before, deepest, c) := leadingLines 0 fuel c
      (before, max least deepest, c)
  let found := lines folded indent before fuel c
  let tail := match chomping with
    | .strip => []
    | .clip => found.lastBreak
    | .keep => found.lastBreak ++ found.trailing
  return (found.text ++ tail, found.cursor)

end MarkdownSections.Yaml.Block
