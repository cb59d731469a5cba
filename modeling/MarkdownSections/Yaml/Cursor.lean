/-!
# Cursors

A cursor stands in front of the unread part of a text and knows its line and column. At the end of
the text it sees a NUL, which no text holds.
-/

set_option autoImplicit false

namespace MarkdownSections.Yaml

/-- The character seen at the end. -/
def endMark : Char := Char.ofNat 0

/-- Whether a character ends a line. -/
def isBreak (c : Char) : Bool :=
  c == '\n' || c == '\r' || c == '\u0085' || c == '\u2028' || c == '\u2029'

/-- Whether a character ends a line or the text. -/
def isBreakOrEnd (c : Char) : Bool :=
  isBreak c || c == endMark

/-- Whether a character is a space, a line end or the end. -/
def isSpaceOrEnd (c : Char) : Bool :=
  c == ' ' || isBreakOrEnd c

/-- Whether a character is a space, a tab, a line end or the end. -/
def isBlankOrEnd (c : Char) : Bool :=
  c == '\t' || isSpaceOrEnd c

/-- A letter, a digit, a hyphen or an underscore. -/
def isWordChar (c : Char) : Bool :=
  c.isAlphanum || c == '-' || c == '_'

/-- A place in a text. -/
structure Cursor where
  rest : List Char
  index : Nat := 0
  line : Nat := 0
  column : Int := 0
deriving Repr

namespace Cursor

/-- The character at a distance. -/
def peekAt (c : Cursor) (distance : Nat) : Char :=
  c.rest.getD distance endMark

/-- The next character. -/
def peek (c : Cursor) : Char :=
  c.peekAt 0

/-- Moves over one character; a byte order mark takes up no column. -/
def step (c : Cursor) : Cursor :=
  match c.rest with
  | [] => c
  | x :: rest =>
    if isBreak x && !(x == '\r' && rest.head? == some '\n') then
      { rest, index := c.index + 1, line := c.line + 1, column := 0 }
    else
      { rest, index := c.index + 1, line := c.line
        column := if x == '\uFEFF' then c.column else c.column + 1 }

/-- Moves over a number of characters. -/
def advance (c : Cursor) : Nat → Cursor
  | 0 => c
  | n + 1 => c.step.advance n

/-- The longest run of characters that satisfy `p`, and the cursor behind it. -/
def span (c : Cursor) (p : Char → Bool) : List Char × Cursor :=
  let run := c.rest.takeWhile p
  (run, c.advance run.length)

/-- Moves over all characters that satisfy `p`. -/
def skip (c : Cursor) (p : Char → Bool) : Cursor :=
  (c.span p).2

/-- Reads a line end, if one comes next: its text in the value, and the cursor behind it. -/
def lineBreak? (c : Cursor) : Option (Char × Cursor) :=
  match c.rest with
  | '\r' :: '\n' :: _ => some ('\n', c.advance 2)
  | x :: _ =>
    if x == '\u2028' || x == '\u2029' then some (x, c.step)
    else if isBreak x then some ('\n', c.step)
    else none
  | [] => none

/-- Whether a line of three such marks and nothing right behind them starts here. -/
def atMarkLine (c : Cursor) (mark : Char) : Bool :=
  c.peek == mark && c.peekAt 1 == mark && c.peekAt 2 == mark && isBlankOrEnd (c.peekAt 3)

/-- Whether a document marker comes next. -/
def atDocumentMark (c : Cursor) : Bool :=
  c.atMarkLine '-' || c.atMarkLine '.'

end Cursor

end MarkdownSections.Yaml
