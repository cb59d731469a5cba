import MarkdownSections.Proofs.Document.Plain
import MarkdownSections.Proofs.Payload.Exchange

/-!
# Tables that keep their text

The cells of a table are kept as plain texts too. A table keeps its text if each cell shows itself and
holds no pipe (`isKept_table`).
-/

set_option autoImplicit false

namespace MarkdownSections

open Markdown (joinLines joinLines_append Token fillInline)
open Markdown.Block

/-- Whether cells keep their texts in a table of the given width. -/
def areCellTexts (width : Nat) (cells : List (List Char)) : Bool :=
  cells.length == width && cells.all fun cs => cs.all isOrdinary && isCellText cs && showsItself cs

/-- Whether headers and rows keep their texts in a table. -/
def isTableText (headers : List (List Char)) (rows : List (List (List Char))) : Bool :=
  !headers.isEmpty && areCellTexts headers.length headers && rows.all (areCellTexts headers.length)

/-! ## Nodes of rows -/

/-- The tokens of cells in a row of the given name. -/
def cellsTokens (name : String) (lines : Option (Int × Int)) (cells : List (List Char)) :
    List Token :=
  cells.flatMap fun cs => enclose name name 3 none [] [inlineToken 4 lines cs]

theorem zip_noAlignments (cells : List (List Char)) :
    cells.zip (noAlignments cells.length) = cells.map fun cs => (cs, "") := by
  induction cells with
  | nil => rfl
  | cons cs cells ih =>
      rw [List.length_cons, noAlignments, List.replicate_succ, List.zip_cons_cons, ← noAlignments, ih]
      rfl

theorem rowTokens_noAlignments (name : String) (i : Nat) (cells : List (List Char)) :
    rowTokens name 2 i (noAlignments cells.length) cells =
      enclose "tr" "tr" 2 (lineRange i (i + 1)) [] (cellsTokens name (lineRange i (i + 1)) cells) := by
  rw [rowTokens, zip_noAlignments, List.flatMap_map]
  rfl

/-- The rows below nodes, each as the texts of its cells. -/
def rowTexts (nodes : List Node) : List (List String) :=
  ((Node.walkAll nodes).filter (·.type == "tr")).map fun row => row.children.map Node.plainText

theorem rowTexts_cons (n : Node) (ns : List Node) :
    rowTexts (n :: ns) = rowTexts [n] ++ rowTexts ns := by
  simp [rowTexts, Node.walkAll]

theorem exists_cellNodes {name : String} (hname : name = "th" ∨ name = "td")
    (lines : Option (Int × Int)) {cells : List (List Char)}
    (h : ∀ cs ∈ cells, isRunning cs = true) :
    ∃ nodes, Node.Builds ((cellsTokens name lines cells).map (fillInline .gfmLike [])) nodes ∧
      Node.heightAll nodes + 3 ≤ Node.maxHeight ∧
      nodes.map Node.plainText = cells.map shownText ∧ rowTexts nodes = [] := by
  induction cells with
  | nil => exact ⟨[], Node.builds_nil, by decide, rfl, rfl⟩
  | cons cs cells ih =>
      obtain ⟨pieces, hpieces, hreadable, htext⟩ := exists_of_isRunning (h cs List.mem_cons_self)
      obtain ⟨nodes, hbuilds, hheight, htexts, hrows⟩ := ih fun x hx => h x (List.mem_cons_of_mem cs hx)
      -- a cell is a node around one line, which adds one level and no rows
      refine ⟨{ type := name, tag := name, children := [lineNode lines cs pieces] } :: nodes,
        ?_, ?_, ?_, ?_⟩
      · rw [cellsTokens, List.flatMap_cons, List.map_append]
        exact (Node.builds_enclose (Node.builds_inline hpieces)).append hbuilds
      · have hpieces' := heightAll_of_isReadable hreadable
        simp [Node.height, Node.heightAll, lineNode]
        omega
      · have hplain : Node.plainText { type := name, tag := name, children := [lineNode lines cs pieces] } =
            shownText cs := by
          rw [← htext]
          rcases hname with rfl | rfl
          · exact plainText_of_line rfl rfl rfl hreadable
          · exact plainText_of_line rfl rfl rfl hreadable
        rw [List.map_cons, List.map_cons, hplain, htexts]
      · rw [rowTexts_cons, hrows]
        have hfilter := filter_walkAll_of_isReadable hreadable (.inr rfl)
        rcases hname with rfl | rfl
        · simp [rowTexts, Node.walkAll, Node.walk, lineNode, hfilter]
        · simp [rowTexts, Node.walkAll, Node.walk, lineNode, hfilter]

theorem exists_rowNode {name : String} (hname : name = "th" ∨ name = "td") (i : Nat)
    {cells : List (List Char)} (h : ∀ cs ∈ cells, isRunning cs = true) :
    ∃ n, Node.Builds ((rowTokens name 2 i (noAlignments cells.length) cells).map
        (fillInline .gfmLike [])) [n] ∧
      n.height + 2 ≤ Node.maxHeight ∧ rowTexts [n] = [cells.map shownText] := by
  obtain ⟨nodes, hbuilds, hheight, htexts, hrows⟩ :=
    exists_cellNodes hname (lineRange i (i + 1)) h
  refine ⟨{ type := "tr", tag := "tr", lines := lineRange i (i + 1), children := nodes }, ?_, ?_, ?_⟩
  · rw [rowTokens_noAlignments]
    exact Node.builds_enclose hbuilds
  · simp [Node.height]
    omega
  · rw [rowTexts, List.map_eq_nil_iff] at hrows
    simp [rowTexts, Node.walkAll, Node.walk, hrows, htexts]

theorem exists_rowNodes {width : Nat} (i : Nat) {rows : List (List (List Char))}
    (h : ∀ cells ∈ rows, cells.length = width ∧ ∀ cs ∈ cells, isRunning cs = true) :
    ∃ nodes, Node.Builds ((rowsTokens width i rows).map (fillInline .gfmLike [])) nodes ∧
      Node.heightAll nodes + 2 ≤ Node.maxHeight ∧
      rowTexts nodes = rows.map fun cells => cells.map shownText := by
  induction rows generalizing i with
  | nil => exact ⟨[], Node.builds_nil, by decide, rfl⟩
  | cons cells rows ih =>
      obtain ⟨rfl, hcells⟩ := h cells List.mem_cons_self
      obtain ⟨n, hn, hheight, htexts⟩ := exists_rowNode (.inr rfl) i hcells
      obtain ⟨nodes, hbuilds, hheights, hrows⟩ :=
        ih (i + 1) fun x hx => h x (List.mem_cons_of_mem cells hx)
      refine ⟨n :: nodes, ?_, ?_, ?_⟩
      · rw [rowsTokens, List.map_append]
        exact hn.append hbuilds
      · rw [Node.heightAll]
        omega
      · rw [rowTexts_cons, htexts, hrows]
        rfl

/-! ## The table as a node -/

/-- The cells of a table. -/
def plainTable (headers : List (List Char)) (rows : List (List (List Char))) : TableData :=
  { headers := headers.map String.ofList, rows := rows.map fun cells => cells.map String.ofList }

theorem tableData_of_rowTexts {n : Node} {headers : List (List Char)}
    {rows : List (List (List Char))} (htype : n.type ≠ "tr") (hne : headers ≠ [])
    (h : rowTexts n.children = headers.map String.ofList :: rows.map fun cells => cells.map String.ofList) :
    n.tableData = plainTable headers rows := by
  have hwalk : ((n.walk.filter (·.type == "tr")).map fun row => row.children.map Node.plainText) =
      rowTexts n.children := by
    cases n
    simp only at htype
    simp [Node.walk, rowTexts, htype]
  have hheaders : (headers.map String.ofList).isEmpty = false := by
    cases headers with
    | nil => exact absurd rfl hne
    | cons cs headers => rfl
  rw [Node.tableData, hwalk, h, List.dropWhile_cons_of_neg (by simp [hheaders])]
  rfl

/-- The rows below a node that is no row are those below its children. -/
theorem rowTexts_singleton {n : Node} (h : n.type ≠ "tr") : rowTexts [n] = rowTexts n.children := by
  cases n
  simp only at h
  simp [rowTexts, Node.walkAll, Node.walk, h]

theorem exists_bodyNodes {width : Nat} (i : Nat) {rows : List (List (List Char))}
    (h : ∀ cells ∈ rows, cells.length = width ∧ ∀ cs ∈ cells, isRunning cs = true)
    (lines : Option (Int × Int)) :
    ∃ nodes, Node.Builds ((if rows.isEmpty then []
          else enclose "tbody" "tbody" 1 lines [] (rowsTokens width i rows)).map
            (fillInline .gfmLike [])) nodes ∧
      Node.heightAll nodes + 1 ≤ Node.maxHeight ∧
      rowTexts nodes = rows.map fun cells => cells.map shownText := by
  cases rows with
  | nil => exact ⟨[], Node.builds_nil, by decide, rfl⟩
  | cons cells rows =>
      obtain ⟨nodes, hbuilds, hheight, htexts⟩ := exists_rowNodes i h
      refine ⟨[{ type := "tbody", tag := "tbody", lines, children := nodes }], ?_, ?_, ?_⟩
      · exact Node.builds_enclose hbuilds
      · simp [Node.heightAll, Node.height]
        omega
      · rw [rowTexts_singleton (by simp)]
        exact htexts

theorem exists_tableNode {headers : List (List Char)} {rows : List (List (List Char))}
    (hheaders : ∀ cs ∈ headers, isRunning cs = true)
    (hrows : ∀ cells ∈ rows, cells.length = headers.length ∧ ∀ cs ∈ cells, isRunning cs = true)
    (i : Nat) :
    ∃ n, Node.Builds ((tableTokens headers rows i).map (fillInline .gfmLike [])) [n] ∧
      n.height ≤ Node.maxHeight ∧ n.type = "table" ∧
      rowTexts n.children = headers.map shownText :: rows.map fun cells => cells.map shownText := by
  obtain ⟨header, hheader, hheaderHeight, hheaderTexts⟩ := exists_rowNode (.inl rfl) i hheaders
  obtain ⟨body, hbody, hbodyHeight, hbodyTexts⟩ :=
    exists_bodyNodes (i + 2) hrows (lineRange (i + 2) (i + 2 + rows.length))
  have hhead : Node.Builds ((enclose "thead" "thead" 1 (lineRange i (i + 1)) []
      (rowTokens "th" 2 i (noAlignments headers.length) headers)).map (fillInline .gfmLike []))
        [{ type := "thead", tag := "thead", lines := lineRange i (i + 1), children := [header] }] :=
    Node.builds_enclose hheader
  refine ⟨{ type := "table", tag := "table", lines := lineRange i (i + 2 + rows.length)
            children := { type := "thead", tag := "thead", lines := lineRange i (i + 1)
                          children := [header] } :: body }, ?_, ?_, rfl, ?_⟩
  · apply Node.builds_enclose
    rw [List.map_append]
    exact hhead.append hbody
  · simp [Node.height, Node.heightAll]
    omega
  · rw [rowTexts_cons, hbodyTexts, rowTexts_singleton (by simp)]
    simp [hheaderTexts]

/-! ## The table as an element -/

theorem toList_headerLine (headers : List (List Char)) :
    (Element.headerLine (headers.map String.ofList)).toList = headerChars headers ++ ['\n'] := by
  have hcell : ∀ cs : List Char, (if cs = [] then " |"
      else " " ++ String.ofList cs ++ " |").toList = paddedHeader cs ++ ['|'] := by
    intro cs
    cases cs with
    | nil => rfl
    | cons c cs => simp [paddedHeader, paddedCell]
  simp [Element.headerLine, headerChars, rowChars, List.flatMap_map, Function.comp_def, hcell]

theorem toList_rowLine (cells : List (List Char)) :
    (Element.rowLine (cells.map String.ofList)).toList = dataChars cells ++ ['\n'] := by
  simp [Element.rowLine, dataChars, rowChars, List.flatMap_map, Function.comp_def, paddedCell]

theorem toList_delimiterCells (width : Nat) :
    (List.replicate width "---|").flatMap String.toList =
      (List.replicate width ['-', '-', '-']).flatMap (· ++ ['|']) := by
  induction width with
  | zero => rfl
  | succ width ih =>
      rw [List.replicate_succ, List.replicate_succ, List.flatMap_cons, List.flatMap_cons, ih]
      rfl

theorem tableText_eq {headers : List (List Char)} (hne : headers ≠ [])
    (rows : List (List (List Char))) :
    Element.tableText (plainTable headers rows) =
      String.ofList (joinLines (tablePassage headers rows).written) := by
  have hheaders : (headers.map String.ofList).isEmpty = false := by
    cases headers with
    | nil => exact absurd rfl hne
    | cons cs headers => rfl
  have hrows : joinLines (rows.map dataChars) =
      (rows.map fun cells => Element.rowLine (cells.map String.ofList)).flatMap String.toList := by
    simp [joinLines, List.flatMap_map, toList_rowLine]
  rw [← String.toList_inj]
  simp [Element.tableText, plainTable, TableData.columnCount, hheaders, toList_headerLine,
    tablePassage, Passage.written, tableLines, joinLines_append, Function.comp_def, delimiterChars,
    rowChars, toList_delimiterCells, hrows]

/-- A block with the payload of a table is rendered as that table, if it has headers and no row is
empty. -/
theorem render_of_dumpTable {codec : Codec} {e : Element} {t : TableData} (htype : e.type = .table)
    (hblock : e.isInline = false) (hencoding : e.encoding = .structured)
    (hcontent : e.content = Codec.dumpTable codec t) (hne : t.headers ≠ [])
    (hrows : ∀ row ∈ t.rows, row ≠ []) : e.render codec = .ok (Element.tableText t) := by
  have hempty : t.isEmpty = false := by simp [TableData.isEmpty, hne]
  have hpayload : e.payload codec = .ok (.table t) := by
    unfold Element.payload
    rw [hblock, hencoding, htype, hcontent, Codec.parseTable_dumpTable_of_full codec hrows]
    simp [bind, Except.bind, pure, Except.pure, hempty]
  rw [Element.render, hpayload]
  change Except.ok (e.renderPayload (.table t)) = _
  rw [Element.renderPayload, hblock]
  rfl

/-- The element of a table. -/
def tableElement (cells : TableData) : Element :=
  { kind := some .block, elementType := ElementType.table.tag
    content := Codec.dumpTable .lenient cells, encoding := .structured }

theorem render_table {n : Node} (htype : n.type = "table") {headers : List (List Char)}
    {rows : List (List (List Char))} (hne : headers ≠ []) (hrows : ∀ cells ∈ rows, cells ≠ [])
    (hdata : n.tableData = plainTable headers rows) (d : Document) :
    (d.blockElement .lenient n).render .lenient =
      .ok (Element.tableText (plainTable headers rows)) := by
  have helement : d.blockElement .lenient n = tableElement (plainTable headers rows) := by
    rw [← hdata]
    simp [Document.blockElement, htype, tableElement]
  have htag : (tableElement (plainTable headers rows)).type = .table := Element.type_of_tag rfl
  have hkept : ∀ row ∈ (plainTable headers rows).rows, row ≠ [] := by
    intro row hrow
    obtain ⟨cells, hcells, rfl⟩ := List.mem_map.mp hrow
    simpa using hrows cells hcells
  rw [helement]
  exact render_of_dumpTable htag rfl rfl rfl (by simpa [plainTable] using hne) hkept

theorem all_isOrdinary_tableLines {headers : List (List Char)} {rows : List (List (List Char))}
    (h : ∀ cs ∈ headers ++ rows.flatten, cs.all isOrdinary = true) :
    ∀ l ∈ tableLines headers rows, l.all isOrdinary = true := by
  intro l hl
  rw [List.all_eq_true]
  intro c hc
  rcases mem_of_mem_tableLines hl hc with hmark | ⟨cs, hcs, hc⟩
  · have hmarks : ['|', ' ', '-'].all isOrdinary = true := rfl
    exact List.all_eq_true.mp hmarks c hmark
  · exact List.all_eq_true.mp (h cs hcs) c hc

/-- Whether cells can be read in a table of the given width. -/
def areCells (width : Nat) (cells : List (List Char)) : Bool :=
  cells.length == width && cells.all fun cs => cs.all isOrdinary && isCellText cs && isRunning cs

/-- Whether headers and rows can be read as a table. -/
def isTabled (headers : List (List Char)) (rows : List (List (List Char))) : Bool :=
  !headers.isEmpty && areCells headers.length headers && rows.all (areCells headers.length)

theorem areCells_of_areCellTexts {width : Nat} {cells : List (List Char)}
    (h : areCellTexts width cells = true) :
    areCells width cells = true ∧ cells.map shownText = cells.map String.ofList := by
  simp only [areCellTexts, Bool.and_eq_true, List.all_eq_true] at h
  simp only [areCells, Bool.and_eq_true, List.all_eq_true]
  refine ⟨⟨h.1, fun cs hcs => ⟨(h.2 cs hcs).1, ?_⟩⟩, ?_⟩
  · exact (shownText_of_showsItself (h.2 cs hcs).2).1
  · exact List.map_congr_left fun cs hcs => (shownText_of_showsItself (h.2 cs hcs).2).2

/-- Cells that keep their texts can be read. -/
theorem isTabled_of_isTableText {headers : List (List Char)} {rows : List (List (List Char))}
    (h : isTableText headers rows = true) : isTabled headers rows = true := by
  simp only [isTableText, Bool.and_eq_true, List.all_eq_true] at h
  simp only [isTabled, Bool.and_eq_true, List.all_eq_true]
  exact ⟨⟨h.1.1, (areCells_of_areCellTexts h.1.2).1⟩,
    fun cells hcells => (areCells_of_areCellTexts (h.2 cells hcells)).1⟩

section Tabled

variable {headers : List (List Char)} {rows : List (List (List Char))}
  (h : isTabled headers rows = true)

include h

theorem isLegible_table : IsLegible (tablePassage headers rows) := by
  simp only [isTabled, areCells, Bool.and_eq_true, List.all_eq_true, beq_iff_eq, Bool.not_eq_true',
    List.isEmpty_eq_false_iff] at h
  obtain ⟨⟨hne, -, hheaders⟩, hrows⟩ := h
  refine ⟨?_, ?_⟩
  · apply isRead_table hne
    · exact fun cs hcs => (hheaders cs hcs).1.2
    · exact fun cells hcells =>
        ⟨(hrows cells hcells).1, fun cs hcs => ((hrows cells hcells).2 cs hcs).1.2⟩
  · apply all_isOrdinary_tableLines
    intro cs hcs
    rw [List.all_eq_true]
    rcases List.mem_append.mp hcs with hcs | hcs
    · exact (hheaders cs hcs).1.1
    · obtain ⟨cells, hcells, hcs⟩ := List.mem_flatten.mp hcs
      exact ((hrows cells hcells).2 cs hcs).1.1

/-- The node of a table. -/
theorem exists_tableNode_of_isTabled (i : Nat) :
    ∃ n, Node.Builds (((tablePassage headers rows).tokens i).map (fillInline .gfmLike [])) [n] ∧
      n.height ≤ Node.maxHeight ∧ n.type = "table" ∧
      rowTexts n.children = headers.map shownText :: rows.map fun cells => cells.map shownText := by
  simp only [isTabled, areCells, Bool.and_eq_true, List.all_eq_true, beq_iff_eq] at h
  obtain ⟨⟨-, -, hheaders⟩, hrows⟩ := h
  exact exists_tableNode (fun cs hcs => (hheaders cs hcs).2)
    (fun cells hcells => ⟨(hrows cells hcells).1, fun cs hcs => ((hrows cells hcells).2 cs hcs).2⟩) i

end Tabled

/-- A table of cells that show themselves keeps its text. -/
theorem isKept_table {headers : List (List Char)} {rows : List (List (List Char))}
    (h : isTableText headers rows = true) : IsKept (tablePassage headers rows) := by
  have htabled := isTabled_of_isTableText h
  simp only [isTableText, Bool.and_eq_true, List.all_eq_true, Bool.not_eq_true',
    List.isEmpty_eq_false_iff] at h
  obtain ⟨⟨hne, hheaders⟩, hrows⟩ := h
  -- a row is as wide as the headers, of which there is at least one
  have hwidth : ∀ cells ∈ rows, cells ≠ [] := by
    intro cells hcells hempty
    have hrow := hrows cells hcells
    simp only [areCellTexts, Bool.and_eq_true, beq_iff_eq] at hrow
    rw [hempty] at hrow
    exact hne (List.length_eq_zero_iff.mp hrow.1.symm)
  intro i
  obtain ⟨n, hbuilds, hheight, htype, htexts⟩ := exists_tableNode_of_isTabled htabled i
  have hheading : n.isHeading = false := by simp [Node.isHeading, htype]
  have hdata : n.tableData = plainTable headers rows := by
    apply tableData_of_rowTexts (by simp [htype]) hne
    have hshown : (rows.map fun cells => cells.map shownText) =
        rows.map fun cells => cells.map String.ofList :=
      List.map_congr_left fun cells hcells => (areCells_of_areCellTexts (hrows cells hcells)).2
    rw [htexts, (areCells_of_areCellTexts hheaders).2, hshown]
  refine ⟨n, hbuilds, hheight, fun d _ => ?_⟩
  apply Document.isRenderedAs_block hheading
  rw [render_table htype hne hwidth hdata, tableText_eq hne]

end MarkdownSections
