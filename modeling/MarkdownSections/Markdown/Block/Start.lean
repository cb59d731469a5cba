import MarkdownSections.Markdown.Basic
import MarkdownSections.Markdown.Block.Context
import MarkdownSections.Markdown.Html

/-!
# How blocks start

Whether a line starts a block of a kind. The same tests decide which block a line opens and
whether a line ends the paragraph, definition, quote or list in front of it.
-/

set_option autoImplicit false

namespace MarkdownSections.Markdown.Block

/-! ## Thematic breaks and headings -/

/-- Whether a text is a thematic break: three or more of one mark, and blanks between them. -/
def isRuleText : List Char → Bool
  | c :: cs =>
    (c = '*' || c = '-' || c = '_') && cs.all (fun d => d = c || isSpace d)
      && 2 ≤ cs.countP (· = c)
  | [] => false

/-- Whether a line is a thematic break. -/
def isRule (ctx : Context) (l : Line) : Bool :=
  !ctx.isCode l && isRuleText l.content

/-- The level and the text of a heading: one to six number signs, then a blank or nothing. -/
def headingText? (cs : List Char) : Option (Nat × List Char) :=
  let level := (cs.takeWhile (· = '#')).length
  let rest := cs.drop level
  if 1 ≤ level && level ≤ 6 && (rest.head?.map isSpace).getD true then some (level, rest) else none

/-- The heading that a line is. -/
def heading? (ctx : Context) (l : Line) : Option (Nat × List Char) :=
  if ctx.isCode l then none else headingText? l.content

/-! ## Code fences -/

/-- The opening line of a fence. -/
structure Fence where
  mark : Char
  length : Nat
  info : List Char

/-- The fence that a text opens: three or more backticks or tildes; no backtick may follow
backticks. -/
def fenceText? : List Char → Option Fence
  | [] => none
  | c :: cs =>
    let length := ((c :: cs).takeWhile (· = c)).length
    let info := (c :: cs).drop length
    if (c = '~' || c = '\x60') && 3 ≤ length && !(c = '\x60' && info.contains c) then
      some ⟨c, length, info⟩
    else none

/-- The fence that a line opens. -/
def fence? (ctx : Context) (l : Line) : Option Fence :=
  if ctx.isCode l then none else fenceText? l.content

/-! ## Quotes and lists -/

/-- Whether a line opens a quote. -/
def opensQuote (ctx : Context) (l : Line) : Bool :=
  !ctx.isCode l && l.content.head? = some '>'

/-- The marker of a list item: its number if it has one, its last character, and its width. -/
structure ListMarker where
  number : Option Nat
  mark : Char
  width : Nat

/-- Whether a marker may end in front of a text. -/
def endsMarker (cs : List Char) : Bool :=
  (cs.head?.map isSpace).getD true

/-- The numbered marker in front of a text: up to nine digits and a point or parenthesis. -/
def numberMarker? (cs : List Char) : Option ListMarker :=
  let digits := cs.takeWhile Char.isDigit
  match cs.drop digits.length with
  | c :: rest =>
    if (c = ')' || c = '.') && 1 ≤ digits.length && digits.length ≤ 9 && endsMarker rest then
      some ⟨some (Text.ofDigits (digits.map fun d => d.toNat - 0x30)), c, digits.length + 1⟩
    else none
  | [] => none

/-- The bullet in front of a text. -/
def bulletMarker? : List Char → Option ListMarker
  | c :: rest =>
    if (c = '*' || c = '-' || c = '+') && endsMarker rest then some ⟨none, c, 1⟩ else none
  | [] => none

/-- The marker in front of a text. -/
def listMarker? (cs : List Char) : Option ListMarker :=
  (numberMarker? cs).orElse fun _ => bulletMarker? cs

/-- Whether a line stands too far right of the innermost list to be an item, and left of the
content of its item. -/
def isBetweenLists (ctx : Context) (l : Line) : Bool :=
  match ctx.listIndent with
  | some column => 4 ≤ l.indent - column && l.indent < ctx.indent
  | none => false

/-- The marker of a list that a line opens. A list that ends a paragraph starts at number one and
has an item that is not empty. -/
def listStart? (ctx : Context) (l : Line) (inParagraph : Bool) : Option ListMarker :=
  if ctx.isCode l || isBetweenLists ctx l then none
  else
    match listMarker? l.content with
    | none => none
    | some marker =>
      let strict := inParagraph && ctx.indent ≤ l.indent
      let empty := (l.content.drop marker.width).all isSpace
      if strict && (marker.number.getD 1 != 1 || empty) then none else some marker

/-! ## HTML blocks -/

/-- The HTML block that a line opens. -/
def htmlStart? (ctx : Context) (l : Line) : Option Html.BlockStart :=
  if ctx.isCode l || !ctx.preset.html then none else Html.blockStart? l.content

/-! ## Tables -/

/-- The cells of a row; a backslash in front of a pipe keeps it inside its cell. -/
def splitCells (cell : List Char) (escaped : Bool) : List Char → List (List Char)
  | [] => [cell.reverse]
  | c :: cs =>
    if c = '|' then
      if escaped then splitCells ('|' :: cell.tail) false cs
      else cell.reverse :: splitCells [] false cs
    else splitCells (c :: cell) (c = '\\') cs

/-- The cells of a row, without the empty ones outside the outer pipes. -/
def rowCells (cs : List Char) : List (List Char) :=
  let cells := splitCells [] false (trimText cs)
  let cells := if cells.head? = some [] then cells.tail else cells
  if cells.getLast? = some [] then cells.dropLast else cells

/-- The alignment that a delimiter cell gives, as a style; no cell of this form gives none. -/
def cellAlignment? (cs : List Char) : Option String :=
  let left := cs.head? = some ':'
  let right := cs.getLast? = some ':'
  let dashes := if left then cs.drop 1 else cs
  let dashes := if right && !dashes.isEmpty then dashes.dropLast else dashes
  if dashes.isEmpty || !dashes.all (· = '-') then none
  else if right then some (if left then "center" else "right")
  else some (if left then "left" else "")

/-- The alignments of delimiter cells; the first and the last may be empty. -/
def alignments? (first : Bool) : List (List Char) → Option (List String)
  | [] => some []
  | cell :: cells =>
    let cell := trimText cell
    if cell.isEmpty then
      if first || cells.isEmpty then alignments? false cells else none
    else do
      let alignment ← cellAlignment? cell
      return alignment :: (← alignments? false cells)

/-- Whether a text can be a delimiter row: pipes, hyphens, colons and blanks, at least two
characters, and no blank behind a hyphen in front. -/
def isDelimiterRow (cs : List Char) : Bool :=
  let isMark (c : Char) : Bool := c = '|' || c = '-' || c = ':'
  match cs with
  | a :: b :: rest =>
    isMark a && (isMark b || isSpace b) && !(a = '-' && isSpace b)
      && rest.all fun c => isMark c || isSpace c
  | _ => false

/-- The header cells and the alignments of the table that starts at line `i`. -/
def tableStart? (ctx : Context) (i stop : Nat) : Option (List (List Char) × List String) :=
  let header := ctx.line i
  let delimiter := ctx.line (i + 1)
  if !ctx.preset.tables || stop < i + 2 || delimiter.indent < ctx.indent || ctx.isCode delimiter
      || !isDelimiterRow delimiter.content || !header.content.contains '|' || ctx.isCode header then
    none
  else do
    let alignments ← alignments? true (Text.splitWhen (· == '|') delimiter.content)
    let cells := rowCells header.content
    if cells.isEmpty || cells.length != alignments.length then none
    else some (cells, alignments)

/-! ## Interruptions -/

/-- What a line may interrupt. -/
inductive Interrupted where
  | paragraph
  | definition
  | quote
  | list
deriving DecidableEq

/-- Whether line `i` ends what stands in front of it. -/
def interrupts (ctx : Context) (what : Interrupted) (i stop : Nat) : Bool :=
  let l := ctx.line i
  ctx.preset.core &&
    ((fence? ctx l).isSome || opensQuote ctx l || isRule ctx l
      || (what != .list &&
        ((listStart? ctx l (what == .paragraph)).isSome
          || ((htmlStart? ctx l).map Html.BlockStart.interrupts).getD false
          || (heading? ctx l).isSome))
      || ((what == .paragraph || what == .definition) && (tableStart? ctx i stop).isSome))

end MarkdownSections.Markdown.Block
