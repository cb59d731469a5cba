import MarkdownSections.Yaml.Cursor

/-!
# Plain scalars

A plain scalar runs over words and the gaps between them. It ends at a comment, at a mark that its
surroundings need, at a line that is not indented enough, and at a document marker. A gap within a
line stays; a line end becomes a space, and further empty lines stay as line ends.
-/

set_option autoImplicit false

namespace MarkdownSections.Yaml.Plain

/-- The marks that end a plain scalar inside a flow collection. -/
def isFlowMark (c : Char) : Bool :=
  c == ',' || c == '?' || c == '[' || c == ']' || c == '\x7b' || c == '\x7d'

/-- Whether a colon with this character behind it is a mark. -/
def isMarkedColon (inFlow : Bool) (next : Char) : Bool :=
  isBlankOrEnd next
    || (inFlow && (next == ',' || next == '[' || next == ']' || next == '\x7b' || next == '\x7d'))

/-- The longest run of characters of a plain scalar without blanks. -/
def run (inFlow : Bool) : List Char → List Char
  | [] => []
  | c :: cs =>
    if isBlankOrEnd c || (c == ':' && isMarkedColon inFlow (cs.headD endMark))
        || (inFlow && isFlowMark c) then []
    else c :: run inFlow cs

/-- The line ends among spaces and line ends, and the cursor behind them; nothing when a document
marker comes first, with the cursor in front of it. -/
def gapBreaks : Nat → Cursor → Option (List Char) × Cursor
  | 0, c => (some [], c)
  | fuel + 1, c =>
    if c.peek == ' ' then gapBreaks fuel c.step
    else match c.lineBreak? with
      | none => (some [], c)
      | some (x, c) =>
        if c.atDocumentMark then (none, c)
        else
          let (more, c) := gapBreaks fuel c
          (more.map (x :: ·), c)

/-- What stands between two words of a plain scalar: its text in the value, the cursor behind it,
and whether it holds a line end. No text means that the scalar ends here. -/
def gap (c : Cursor) : List Char × Cursor × Bool :=
  let (blanks, c) := c.span (· == ' ')
  match c.lineBreak? with
  | none => (blanks, c, false)
  | some (x, c) =>
    if c.atDocumentMark then ([], c, true)
    else match gapBreaks (c.rest.length + 1) c with
      | (none, c) => ([], c, true)
      | (some breaks, c) =>
        let text := if x != '\n' then x :: breaks else if breaks.isEmpty then [' '] else breaks
        (text, c, true)

/-- What a plain scalar says, the cursor behind it, and whether a line end was the last thing
read. -/
structure Reading where
  text : List Char
  cursor : Cursor
  fresh : Bool

/-- Reads on behind a gap. -/
def readFrom (inFlow : Bool) (indent : Int) (before : List Char) (fresh : Bool) :
    Nat → Cursor → Reading
  | 0, c => ⟨[], c, fresh⟩
  | fuel + 1, c =>
    let word := run inFlow c.rest
    if c.peek == '#' || word.isEmpty then ⟨[], c, fresh⟩
    else
      let (between, next, fresh) := gap (c.advance word.length)
      if between.isEmpty || next.peek == '#' || (!inFlow && next.column < indent) then
        ⟨before ++ word, next, fresh⟩
      else
        let more := readFrom inFlow indent between fresh fuel next
        { more with text := before ++ word ++ more.text }

/-- Reads a plain scalar; outside flow collections its lines must stand at `indent` at least. -/
def read (inFlow : Bool) (indent : Int) (c : Cursor) : Reading :=
  readFrom inFlow indent [] false (c.rest.length + 1) c

end MarkdownSections.Yaml.Plain
