import MarkdownSections.Document.Content
import MarkdownSections.Document.TableCells
import MarkdownSections.Section.Write

/-!
# Writing what a document contains

The records of code blocks, links, images, tables, table cells and counts. Each names every field,
in a fixed order.
-/

set_option autoImplicit false

namespace MarkdownSections

/-- The value of a natural number. -/
def Json.nat (n : Nat) : Json := .int n

/-- The list of texts. -/
def Json.texts (ss : List String) : Json := .list (ss.map .text)

/-- The map of texts. -/
def Json.textMap (entries : List (String × String)) : Json :=
  .map (entries.map fun e => (e.1, .text e.2))

/-- The record of a code block. -/
def CodeBlock.toJson (c : CodeBlock) : Json :=
  .map
    [("language", .text c.language), ("code", .text c.code),
      ("line_number", Section.optionalInt c.line), ("info_string", .text c.infoString)]

/-- The record of a link. -/
def Link.toJson (l : Link) : Json :=
  .map
    [("text", .text l.text), ("url", .text l.url), ("title", .text l.title),
      ("is_reference", .bool l.isReference), ("line_number", .int l.line)]

/-- The record of an image. -/
def Image.toJson (i : Image) : Json :=
  .map
    [("alt_text", .text i.altText), ("url", .text i.url), ("title", .text i.title),
      ("line_number", .int i.line)]

/-- The record of a table. -/
def DocumentTable.toJson (t : DocumentTable) : Json :=
  .map
    [("table_index", .nat t.index), ("line_number", Section.optionalInt t.line),
      ("num_columns", .nat t.cells.columnCount), ("num_rows", .nat t.cells.rows.length),
      ("headers", .texts t.cells.headers), ("rows", .list (t.cells.rows.map .texts))]

/-- The record of a table cell. The first row is the header. -/
def TableCell.toJson (c : TableCell) : Json :=
  .map
    [("table_index", .nat c.table.index),
      ("row_type", .text (if c.row = 0 then "header" else "data")), ("row_index", .nat c.row),
      ("column_index", .nat c.column), ("cell_value", .text c.text),
      ("line_number", Section.optionalInt c.table.line),
      ("num_columns", .nat c.table.cells.columnCount), ("num_rows", .nat c.table.cells.rows.length)]

/-- The record of the counts. -/
def DocumentStats.toJson (s : DocumentStats) : Json :=
  .map
    [("word_count", .nat s.words), ("char_count", .nat s.chars), ("line_count", .nat s.lines),
      ("heading_count", .nat s.headings), ("code_block_count", .nat s.codeBlocks),
      ("link_count", .nat s.links), ("reading_time_minutes", .float s.readingTime)]

end MarkdownSections
