import MarkdownSections.Document.Basic
import MarkdownSections.Payload.Bracket

/-!
# Tables of a document

The cells of every table as plain texts. The first row that has cells is the header row.
-/

set_option autoImplicit false

namespace MarkdownSections

/-- The cells of a table node. -/
def Node.tableData (n : Node) : TableData :=
  let rows := (n.walk.filter (·.type == "tr")).map fun row => row.children.map Node.plainText
  match rows.dropWhile List.isEmpty with
  | [] => {}
  | headers :: rows => { headers, rows }

/-- A table of a document with its place. -/
structure DocumentTable where
  index : Nat
  line : Option Int
  cells : TableData
deriving DecidableEq, Repr

/-- A cell of a table; the header row has number 0. -/
structure TableCell where
  table : DocumentTable
  row : Nat
  column : Nat
  text : String
deriving DecidableEq, Repr

/-- The tables of a document, at any depth. -/
def Document.tables (d : Document) : List DocumentTable :=
  (d.nodes.filter (·.type == "table")).zipIdx.map fun (n, index) =>
    { index, line := d.startLine n, cells := n.tableData }

/-- The cells of a table, row by row, the headers first. -/
def DocumentTable.cellList (t : DocumentTable) : List TableCell :=
  (t.cells.headers :: t.cells.rows).zipIdx.flatMap fun (row, number) =>
    row.zipIdx.map fun (text, column) => { table := t, row := number, column, text }

/-- The cells of all tables. -/
def Document.tableCells (d : Document) : List TableCell :=
  d.tables.flatMap DocumentTable.cellList

end MarkdownSections
