import MarkdownSections.Markdown.Block.Start

/-!
# Leaf blocks

Blocks that hold text and no other blocks. Each function reads the block that line `start` opens,
among the lines before `stop`, or gives nothing when that line opens no such block.
-/

set_option autoImplicit false

namespace MarkdownSections.Markdown.Block

/-! ## Code -/

/-- The line behind an indented code block: behind the last code line among the next `count`
lines, which may hold empty lines in between; `found` is the best answer so far. -/
def codeEnd (ctx : Context) (found i : Nat) : Nat → Nat
  | 0 => found
  | count + 1 =>
    let l := ctx.line i
    if l.isEmpty then codeEnd ctx found (i + 1) count
    else if ctx.isCode l then codeEnd ctx (i + 1) (i + 1) count
    else found

/-- An indented code block. -/
def codeBlock? (ctx : Context) (start stop : Nat) : Option Blocks :=
  if ctx.isCode (ctx.line start) then
    let next := codeEnd ctx (start + 1) (start + 1) (stop - (start + 1))
    let content := ctx.text start next (4 + ctx.indent) false ++ ['\n']
    some
      { next
        tokens := [{ type := "code_block", tag := "code", level := ctx.level,
                     lines := lineRange start next, content := String.ofList content }] }
  else none

/-- Whether a line closes a fence. -/
def closesFence (ctx : Context) (fence : Fence) (l : Line) : Bool :=
  let run := (l.content.takeWhile (· = fence.mark)).length
  !ctx.isCode l && fence.length ≤ run && (l.content.drop run).all isSpace

/-- The line that ends the content of a fence, among `count` lines from `i` on, and whether it
closes the fence. A line left of the container ends it too, and so does an empty one that the text
ends with. -/
def fenceEnd (ctx : Context) (fence : Fence) (i : Nat) : Nat → Nat × Bool
  | 0 => (i, false)
  | count + 1 =>
    let l := ctx.line i
    if l.isUnended || !l.isEmpty && l.indent < ctx.indent then (i, false)
    else if closesFence ctx fence l then (i, true)
    else fenceEnd ctx fence (i + 1) count

/-- A fenced code block. -/
def fencedCode? (ctx : Context) (start stop : Nat) : Option Blocks :=
  let l := ctx.line start
  (fence? ctx l).map fun fence =>
    let (last, closed) := fenceEnd ctx fence (start + 1) (stop - (start + 1))
    let next := if closed then last + 1 else last
    let content := ctx.text (start + 1) last l.indent.toNat true
    { next
      tokens := [{ type := "fence", tag := "code", level := ctx.level,
                   lines := lineRange start next, content := String.ofList content
                   info := String.ofList fence.info }] }

/-! ## Thematic breaks and headings -/

/-- A thematic break. -/
def thematicBreak? (ctx : Context) (start : Nat) : Option Blocks :=
  if isRule ctx (ctx.line start) then
    some
      { next := start + 1
        tokens := [{ type := "hr", tag := "hr", level := ctx.level,
                     lines := lineRange start (start + 1) }] }
  else none

/-- The text of a heading without the closing number signs, which a blank has to precede. -/
def withoutClosingSigns (cs : List Char) : List Char :=
  let trimmed := Text.dropEndWhile isSpace cs
  let front := Text.dropEndWhile (· = '#') trimmed
  if (front.getLast?.map isSpace).getD false then front else trimmed

/-- The tokens of a heading. -/
def headingTokens (ctx : Context) (level : Nat) (lines textLines : Option (Int × Int))
    (text : List Char) : List Token :=
  enclose "heading" ("h" ++ Text.showNat level) ctx.level lines []
    [inlineToken (ctx.level + 1) textLines text]

/-- A heading behind number signs. -/
def markedHeading? (ctx : Context) (start : Nat) : Option Blocks :=
  (heading? ctx (ctx.line start)).map fun (level, rest) =>
    let lines := lineRange start (start + 1)
    { next := start + 1
      tokens := headingTokens ctx level lines lines (trimText (withoutClosingSigns rest)) }

/-- The level of the heading that a line underlines. -/
def underline? (ctx : Context) (l : Line) : Option Nat :=
  match l.content with
  | c :: cs =>
    if ctx.indent ≤ l.indent && (c = '-' || c = '=') && (cs.dropWhile (· = c)).all isSpace then
      some (if c = '=' then 1 else 2)
    else none
  | [] => none

/-- The line that underlines the text in front of it, among `count` lines from `i` on, and the
level of the heading. -/
def underlineFrom? (ctx : Context) (stop i : Nat) : Nat → Option (Nat × Nat)
  | 0 => none
  | count + 1 =>
    let l := ctx.line i
    if l.isEmpty then none
    else if 3 < l.indent - ctx.indent then underlineFrom? ctx stop (i + 1) count
    else match underline? ctx l with
      | some level => some (i, level)
      | none =>
        if 0 ≤ l.indent && interrupts ctx .paragraph i stop then none
        else underlineFrom? ctx stop (i + 1) count

/-- A heading with a line under it. -/
def underlinedHeading? (ctx : Context) (start stop : Nat) : Option Blocks :=
  if ctx.isCode (ctx.line start) then none
  else
    (underlineFrom? ctx stop (start + 1) (stop - (start + 1))).map fun (last, level) =>
      let text := trimText (ctx.text start last ctx.indent false)
      { next := last + 1
        tokens := headingTokens ctx level (lineRange start (last + 1)) (lineRange start last) text }

/-! ## HTML blocks -/

/-- The line behind an HTML block, among `count` lines from `i` on. A line left of the container
ends it, unless it is empty. -/
def htmlEnd (ctx : Context) (kind : Html.BlockStart) (i : Nat) : Nat → Nat
  | 0 => i
  | count + 1 =>
    let l := ctx.line i
    if !l.isEmpty && l.indent < ctx.indent then i
    else if kind.closes l.content then if l.isEmpty then i else i + 1
    else htmlEnd ctx kind (i + 1) count

/-- Whether a line has `width` columns of indentation or a character behind fewer. -/
def hasIndentation (width : Nat) (l : Line) : Bool :=
  !l.isUnended || width ≤ columnAfter l.base 0 l.chars

/-- An HTML block. It is unreadable if its last line is an unended one without the indentation of
the container. -/
def htmlBlock? (ctx : Context) (start stop : Nat) : Option Blocks :=
  let l := ctx.line start
  (htmlStart? ctx l).map fun kind =>
    let next :=
      if kind.closes l.content then start + 1
      else htmlEnd ctx kind (start + 1) (stop - (start + 1))
    let content := ctx.text start next ctx.indent true
    { next
      tokens := [{ type := "html_block", level := ctx.level, lines := lineRange start next,
                   content := String.ofList content }]
      readable := hasIndentation ctx.indent (ctx.line (next - 1)) }

/-! ## Paragraphs -/

/-- The line behind a paragraph, among `count` lines from `i` on. A line that is indented like
code, or that only continues, never ends it. -/
def paragraphEnd (ctx : Context) (i : Nat) : Nat → Nat
  | 0 => i
  | count + 1 =>
    let l := ctx.line i
    if l.isEmpty then i
    else if 3 < l.indent - ctx.indent || l.indent < 0 then paragraphEnd ctx (i + 1) count
    else if interrupts ctx .paragraph i ctx.limit then i
    else paragraphEnd ctx (i + 1) count

/-- A paragraph; every line with content opens one. -/
def paragraph (ctx : Context) (start : Nat) : Blocks :=
  let next := paragraphEnd ctx (start + 1) (ctx.limit - (start + 1))
  let lines := lineRange start next
  let text := trimText (ctx.text start next ctx.indent false)
  { next
    tokens := enclose "paragraph" "p" ctx.level lines [] [inlineToken (ctx.level + 1) lines text] }

end MarkdownSections.Markdown.Block
