import MarkdownSections.Markdown.Block.Start

/-!
# Tables

A table is a header row, a delimiter row that fits it, and data rows. Every data row has as many
cells as the header: missing ones are empty, further ones are dropped. The cells that are missing
in all rows together are limited.
-/

set_option autoImplicit false

namespace MarkdownSections.Markdown.Block

/-- How many missing cells a table may fill in. -/
def maxFilledCells : Int := 0x10000

/-- The cells of a row at the width of the table. -/
def fitCells : Nat → List (List Char) → List (List Char)
  | 0, _ => []
  | n + 1, [] => [] :: fitCells n []
  | n + 1, cell :: cells => trimText cell :: fitCells n cells

/-- The attributes of a cell with an alignment. -/
def cellAttributes (alignment : String) : List (String × Json) :=
  if alignment.isEmpty then [] else [("style", .text ("text-align:" ++ alignment))]

/-- The tokens of a row; `level` is the level of the row. -/
def rowTokens (name : String) (level i : Nat) (alignments : List String)
    (cells : List (List Char)) : List Token :=
  let lines := lineRange i (i + 1)
  let cellTokens := (cells.zip alignments).flatMap fun (cell, alignment) =>
    enclose name name (level + 1) none (cellAttributes alignment)
      [inlineToken (level + 2) lines cell]
  enclose "tr" "tr" level lines [] cellTokens

/-- The data rows among `count` lines from `i` on, and the line behind them; `filled` cells were
missing so far. -/
def tableRows (ctx : Context) (alignments : List String) (stop : Nat) (filled : Int) (i : Nat) :
    Nat → List Token × Nat
  | 0 => ([], i)
  | count + 1 =>
    let l := ctx.line i
    let cells := rowCells l.content
    let width := alignments.length
    let filled := filled + ((width : Int) - cells.length)
    if l.indent < ctx.indent || interrupts ctx .quote i stop || (trimText l.content).isEmpty
        || ctx.isCode l || maxFilledCells < filled then
      ([], i)
    else
      let row := rowTokens "td" (ctx.level + 2) i alignments (fitCells width cells)
      let (rows, next) := tableRows ctx alignments stop filled (i + 1) count
      (row ++ rows, next)

/-- Whether a line can be asked whether it starts another block. -/
def canInterrupt (ctx : Context) (l : Line) : Bool :=
  !l.isUnended || l.indent < ctx.indent || ctx.isCode l

/-- A table. It is unreadable if an unended line stands where its next row would. -/
def table? (ctx : Context) (start stop : Nat) : Option Blocks :=
  (tableStart? ctx start stop).map fun (headers, alignments) =>
    let (rows, next) := tableRows ctx alignments stop 0 (start + 2) (stop - (start + 2))
    let header := rowTokens "th" (ctx.level + 2) start alignments
      (fitCells alignments.length headers)
    let head := enclose "thead" "thead" (ctx.level + 1) (lineRange start (start + 1)) [] header
    let body :=
      if rows.isEmpty then []
      else enclose "tbody" "tbody" (ctx.level + 1) (lineRange (start + 2) next) [] rows
    { next
      tokens := enclose "table" "table" ctx.level (lineRange start next) [] (head ++ body)
      readable := stop ≤ next || canInterrupt ctx (ctx.line next) }

end MarkdownSections.Markdown.Block
