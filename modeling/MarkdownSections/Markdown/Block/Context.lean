import MarkdownSections.Markdown.Basic
import MarkdownSections.Markdown.Line
import MarkdownSections.Markdown.LinkText

/-!
# Containers and what they give

A block is read inside a container: the lines as the container sees them, the column its content
starts at, and the line at which paragraphs have to end. What is read is a list of tokens, the
reference definitions among the lines, and the number of the next line.

A bare quote mark at the end of a text is an empty line that never ends. Paragraphs, lists and
fences stop in front of it, but what reads it as a line of its own finds no character there; the
text is then unreadable as a whole.
-/

set_option autoImplicit false

namespace MarkdownSections.Markdown.Block

/-- The container that a block is read in. -/
structure Context where
  preset : Preset
  lines : Array Line
  /-- The line at which every paragraph ends. -/
  limit : Nat
  /-- The column of the container's content. -/
  indent : Nat := 0
  /-- The column of the innermost list. -/
  listIndent : Option Nat := none
  /-- How many tokens are open. -/
  level : Nat := 0

/-- What reading blocks gives. -/
structure Blocks where
  next : Nat
  tokens : List Token := []
  definitions : List Definition := []
  /-- Whether every line that was asked for its characters has them. -/
  readable : Bool := true

namespace Context

/-- A line as the container sees it; behind the last line all lines are empty. -/
def line (ctx : Context) (i : Nat) : Line :=
  ctx.lines.getD i {}

/-- Whether a line is indented so far that its content is code. -/
def isCode (ctx : Context) (l : Line) : Bool :=
  ctx.preset.core && 4 ≤ l.indent - ctx.indent

/-- The text of the lines `i, …, i + count - 1` behind `width` columns of indentation, the last
line end included on demand. -/
def textFrom (ctx : Context) (width : Nat) (keepLast : Bool) (i : Nat) : Nat → List Char
  | 0 => []
  | count + 1 =>
    let l := ctx.line i
    l.cut width ++ (if count = 0 && !keepLast then [] else l.lineEnd)
      ++ ctx.textFrom width keepLast (i + 1) count

/-- The text of the lines from `start` up to `stop`. -/
def text (ctx : Context) (start stop width : Nat) (keepLast : Bool) : List Char :=
  ctx.textFrom width keepLast start (stop - start)

/-- The first line from `i` on that has content, among at most `count` lines. -/
def skipEmptyFrom (ctx : Context) (i : Nat) : Nat → Nat
  | 0 => i
  | count + 1 => if (ctx.line i).isEmpty then ctx.skipEmptyFrom (i + 1) count else i

/-- The first line from `i` on that has content. -/
def skipEmpty (ctx : Context) (i : Nat) : Nat :=
  ctx.skipEmptyFrom i (ctx.limit - i)

end Context

/-! ## Tokens -/

/-- The lines of a token. -/
def lineRange (start stop : Nat) : Option (Int × Int) :=
  some (start, stop)

/-- A pair of tokens around others. -/
def enclose (name tag : String) (level : Nat) (lines : Option (Int × Int))
    (attributes : List (String × Json)) (inner : List Token) : List Token :=
  { type := name ++ "_open", tag, nesting := 1, level, lines, attributes } ::
    inner ++ [{ type := name ++ "_close", tag, nesting := -1, level }]

/-- The token of a line of text, whose pieces are still to be read. -/
def inlineToken (level : Nat) (lines : Option (Int × Int)) (content : List Char) : Token :=
  { type := "inline", level, lines, content := String.ofList content }

end MarkdownSections.Markdown.Block
