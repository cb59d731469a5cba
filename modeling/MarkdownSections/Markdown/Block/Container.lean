import MarkdownSections.Markdown.Block.Definition
import MarkdownSections.Markdown.Block.Leaf
import MarkdownSections.Markdown.Block.Table

/-!
# Container blocks

Quotes and lists hold blocks. Their functions take the reader of the blocks inside as an argument;
`blocks` ties the knot over the depth of nesting.
-/

set_option autoImplicit false

namespace MarkdownSections.Markdown.Block

/-- Reads the blocks of a container from one line up to another. -/
abbrev Reader := Context → Nat → Nat → Blocks

/-! ## Quotes -/

/-- A line behind its quote mark and one optional blank, and whether nothing follows. A tab whose
columns reach beyond that blank stays as indentation. -/
def quotedLine (l : Line) : Line × Bool :=
  let offset := l.indent.toNat + 1
  let (chars, start, spaced, inTab) := match l.content.drop 1 with
    | ' ' :: rest => (rest, offset + 1, true, false)
    | '\t' :: rest =>
      if (l.base + offset) % 4 = 3 then (rest, offset + 1, true, false)
      else ('\t' :: rest, offset, true, true)
    | rest => (rest, offset, false, false)
  let blanks := chars.takeWhile isIndentation
  let column := columnAfter (l.base + if inTab then 1 else 0) start blanks
  ({ chars
     shift := blanks.length
     indent := (column : Int) - start
     base := offset + if spaced then 1 else 0
     ended := l.ended },
    blanks.length = chars.length)

/-- The lines of a quote among `count` lines from `i` on: the lines as the quote sees them, the
line behind it, and whether that line starts another block. A line without a mark continues the
quote if it can only continue a paragraph. -/
def quoteLines (ctx : Context) (stop : Nat) (lines : Array Line) (afterEmpty : Bool) (i : Nat) :
    Nat → Array Line × Nat × Bool
  | 0 => (lines, i, false)
  | count + 1 =>
    let l := ctx.line i
    if l.isEmpty then (lines, i, false)
    else if l.content.head? = some '>' && ctx.indent ≤ l.indent then
      let (quoted, empty) := quotedLine l
      quoteLines ctx stop (lines.setIfInBounds i quoted) empty (i + 1) count
    else if afterEmpty then (lines, i, false)
    else if interrupts ctx .quote i stop then (lines, i, true)
    else
      quoteLines ctx stop (lines.setIfInBounds i { l with indent := -1 }) afterEmpty (i + 1) count

/-! ## Alerts -/

/-- The kinds of alerts, as their titles name them. -/
def alertTitles : List String := ["Note", "Tip", "Important", "Warning", "Caution"]

/-- The title of the alert that a quoted line announces: a kind behind an exclamation mark, in
brackets and in any letter case, with nothing but blanks behind it. -/
def alertTitle? (ctx : Context) (l : Line) : Option String :=
  if !ctx.preset.alerts || 4 ≤ l.indent then none
  else
    alertTitles.find? fun title =>
      match Text.afterFolded? ("[!" ++ title.toLower ++ "]").toList l.content with
      | some rest => rest.all isSpace
      | none => false

/-- The tokens of the title of an alert, which covers no lines. -/
def alertTitleTokens (level : Nat) (title : String) : List Token :=
  enclose "alert_title" "p" level none [] [inlineToken (level + 1) none title.toList]

/-- A quote or an alert. -/
def quote? (inner : Reader) (ctx : Context) (start stop : Nat) : Option Blocks :=
  let l := ctx.line start
  if opensQuote ctx l then
    let (first, empty) := quotedLine l
    let (lines, last, ended) :=
      quoteLines ctx stop (ctx.lines.setIfInBounds start first) empty (start + 1)
        (stop - (start + 1))
    let quoted : Context :=
      { ctx with lines, limit := if ended then last else ctx.limit, indent := 0,
                 level := ctx.level + 1 }
    match alertTitle? ctx first with
    | some title =>
      let inside := inner quoted (start + 1) last
      some
        { inside with
          tokens := enclose "alert" "div" ctx.level (lineRange start inside.next) []
            (alertTitleTokens (ctx.level + 1) title ++ inside.tokens) }
    | none =>
      let inside := inner quoted start last
      some
        { inside with
          tokens := enclose "blockquote" "blockquote" ctx.level (lineRange start inside.next) []
            inside.tokens }
  else none

/-! ## Lists -/

/-- The first line of an item as the item sees it, and the column of the item's content. -/
def itemLine (l : Line) (marker : ListMarker) : Line × Nat :=
  let initial := l.indent.toNat + marker.width
  let rest := l.content.drop marker.width
  let blanks := rest.takeWhile isIndentation
  let column := columnAfter l.base initial blanks
  let distance := if blanks.length = rest.length then 1 else column - initial
  let distance := if 4 < distance then 1 else distance
  ({ l with shift := l.shift + marker.width + blanks.length, indent := column },
    initial + distance)

/-- The line of an item whose content starts at a column, without the checkbox in front of its
content: brackets around a cross or a space, and the blanks behind them, of which there is one at
least. -/
def withoutCheckbox (ctx : Context) (column : Nat) (l : Line) : Line :=
  match ctx.preset.checkboxes, l.content with
  | true, '[' :: c :: ']' :: b :: rest =>
    if (c = ' ' || c = 'x' || c = 'X') && isSpace b then
      { l with chars := rest.dropWhile isSpace, shift := 0, indent := column }
    else l
  | _, _ => l

/-- The blocks of the item that starts at line `i`. An item whose first two lines are empty ends
behind them. -/
def item (inner : Reader) (ctx : Context) (i stop : Nat) (marker : ListMarker) : Blocks :=
  let (first, column) := itemLine (ctx.line i) marker
  if first.isEmpty && (ctx.line (i + 1)).isEmpty then { next := min (i + 2) stop }
  else
    let lines := ctx.lines.setIfInBounds i (withoutCheckbox ctx column first)
    inner
      { ctx with lines, indent := column, listIndent := some ctx.indent, level := ctx.level + 2 }
      i stop

/-- The marker of a further item of a list at a line. -/
def furtherMarker? (ctx : Context) (i stop : Nat) (first : ListMarker) : Option ListMarker :=
  let l := ctx.line i
  if stop ≤ i || l.indent < ctx.indent || ctx.isCode l || interrupts ctx .list i stop then none
  else
    let marker := if first.number.isSome then numberMarker? l.content else bulletMarker? l.content
    marker.filter (·.mark = first.mark)

/-- The items of a list from line `i` on; `fuel` bounds their count. -/
def items (inner : Reader) (ctx : Context) (stop : Nat) : Nat → Nat → ListMarker → Blocks
  | 0, i, _ => { next := i }
  | fuel + 1, i, marker =>
    let one := item inner ctx i stop marker
    let tokens := enclose "list_item" "li" (ctx.level + 1) (lineRange i one.next) [] one.tokens
    match furtherMarker? ctx one.next stop marker with
    | none => { one with tokens }
    | some further =>
      let rest := items inner ctx stop fuel one.next further
      { next := rest.next
        tokens := tokens ++ rest.tokens
        definitions := one.definitions ++ rest.definitions
        readable := one.readable && rest.readable }

/-- A list. -/
def list? (inner : Reader) (ctx : Context) (start stop : Nat) : Option Blocks :=
  (listStart? ctx (ctx.line start) false).map fun marker =>
    let inside := items inner ctx stop (stop - start) start marker
    let lines := lineRange start inside.next
    let tokens := match marker.number with
      | some n =>
        enclose "ordered_list" "ol" ctx.level lines (if n = 1 then [] else [("start", .int n)])
          inside.tokens
      | none => enclose "bullet_list" "ul" ctx.level lines [] inside.tokens
    { inside with tokens }

/-! ## All blocks -/

/-- The block that line `start` opens; the first fitting kind wins, and a paragraph always fits. -/
def block (inner : Reader) (ctx : Context) (start stop : Nat) : Blocks :=
  if !ctx.preset.core then paragraph ctx start
  else
    let kinds : List (Unit → Option Blocks) :=
      [fun _ => table? ctx start stop, fun _ => codeBlock? ctx start stop,
        fun _ => fencedCode? ctx start stop, fun _ => quote? inner ctx start stop,
        fun _ => thematicBreak? ctx start, fun _ => list? inner ctx start stop,
        fun _ => definition? ctx start, fun _ => htmlBlock? ctx start stop,
        fun _ => markedHeading? ctx start, fun _ => underlinedHeading? ctx start stop]
    (kinds.findSome? fun kind => kind ()).getD (paragraph ctx start)

/-- The blocks of a container from line `i` up to `stop`, at most `fuel` of them. A line left of
the container ends it, and blocks that stand too deeply are passed over. -/
def blocksFrom (inner : Reader) (ctx : Context) (stop : Nat) : Nat → Nat → Blocks
  | 0, i => { next := i }
  | fuel + 1, i =>
    if stop ≤ i then { next := i }
    else
      let i := ctx.skipEmpty i
      if stop ≤ i || (ctx.line i).indent < ctx.indent then { next := i }
      else if ctx.preset.maxNesting ≤ ctx.level then { next := stop }
      else
        let one := block inner ctx i stop
        let after :=
          if one.next < stop && (ctx.line one.next).isEmpty then one.next + 1 else one.next
        let rest := blocksFrom inner ctx stop fuel after
        { next := rest.next
          tokens := one.tokens ++ rest.tokens
          definitions := one.definitions ++ rest.definitions
          readable := one.readable && rest.readable }

/-- The blocks of a container in which containers may still stand `depth` deep. -/
def blocks : Nat → Reader
  | 0 => fun _ _ stop => { next := stop }
  | depth + 1 => fun ctx start stop => blocksFrom (blocks depth) ctx stop (stop - start + 1) start

/-- The blocks of a text with unified line ends. -/
def ofText (preset : Preset) (cs : List Char) : Blocks :=
  let lines := (linesOf [] cs).toArray
  blocks (preset.maxNesting + 1) { preset, lines, limit := lines.size } 0 lines.size

end MarkdownSections.Markdown.Block
