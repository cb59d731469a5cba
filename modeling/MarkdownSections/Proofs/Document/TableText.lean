import MarkdownSections.Proofs.Document.CodeFence
import MarkdownSections.Proofs.Document.PlainTable

/-!
# The lines of a table

A table is written as a header line, a delimiter line and a line for each row, between whose pipes the
cells stand as they are. Reading a row takes a backslash away in front of every pipe that it keeps inside
a cell (`countP_flatten_splitCells`), so a row whose cells hold pipes is never read as these cells
(`pipe_notMem_of_lineCells`), and a line end in a cell ends the line of its row. The lines are those of
the table exactly if no cell holds a pipe or a line end (`render_dumpTable_iff`).
-/

set_option autoImplicit false

namespace MarkdownSections

open Markdown (joinLines joinLines_append joinLines_cons joinLines_nil trimText)
open Markdown.Block

/-! ## Cells of a line -/

/-- The cells of a line, cut at the pipes that are not escaped. -/
def lineCells (line : List Char) : List String :=
  (rowCells line).map fun cell => String.ofList (trimText cell)

/-- A pipe, or a backslash that may stand in front of one. -/
def isRowMark (c : Char) : Bool :=
  c == '|' || c == '\\'

theorem countP_isRowMark (cs : List Char) :
    cs.countP isRowMark = cs.count '|' + cs.count '\\' := by
  induction cs with
  | nil => rfl
  | cons c cs ih =>
      rw [List.countP_cons, List.count_cons, List.count_cons, ih]
      by_cases hpipe : c = '|'
      · subst hpipe
        simp [isRowMark]
        omega
      · simp [isRowMark, hpipe]
        omega

/-- A backslash in a row stays in its cell, or gives way to the pipe behind it. -/
theorem countP_flatten_splitCells {cell : List Char} {escaped : Bool}
    (hescaped : escaped = true → cell.head? = some '\\') (cs : List Char) :
    (splitCells cell escaped cs).flatten.countP isRowMark =
      cell.countP isRowMark + cs.count '\\' := by
  -- the cell so far starts with the last character read, so an escape finds its backslash there
  induction cs generalizing cell escaped with
  | nil => simp [splitCells]
  | cons c cs ih =>
      rw [splitCells]
      split
      · next hpipe =>
          subst hpipe
          rw [List.count_cons_of_ne (by decide)]
          split
          · next hmark =>
              -- the pipe takes the place of the backslash
              obtain ⟨before, rfl⟩ := List.head?_eq_some_iff.mp (hescaped hmark)
              rw [ih (by simp), List.tail_cons, List.countP_cons_of_pos rfl,
                List.countP_cons_of_pos rfl]
          · rw [List.flatten_cons, List.countP_append, List.countP_reverse, ih (by simp),
              List.countP_nil, Nat.zero_add]
      · next hpipe =>
          rw [ih (by simp)]
          by_cases hslash : c = '\\'
          · subst hslash
            rw [List.countP_cons_of_pos rfl, List.count_cons_self]
            omega
          · rw [List.countP_cons_of_neg (by simp [isRowMark, hpipe, hslash]),
              List.count_cons_of_ne hslash]

theorem mem_of_mem_splitCells {c : Char} {cell : List Char} {escaped : Bool} {cs : List Char}
    (h : c ∈ (splitCells cell escaped cs).flatten) : c ∈ cell ∨ c ∈ cs := by
  induction cs generalizing cell escaped with
  | nil => simpa [splitCells] using h
  | cons d cs ih =>
      rw [splitCells] at h
      split at h
      · next hpipe =>
          subst hpipe
          split at h
          · -- the cell has a pipe for its last backslash, and that pipe is of the line
            rcases ih h with hcell | hcs
            · rcases List.mem_cons.mp hcell with rfl | hcell
              · exact Or.inr List.mem_cons_self
              · exact Or.inl (List.mem_of_mem_tail hcell)
            · exact Or.inr (List.mem_cons_of_mem _ hcs)
          · rw [List.flatten_cons, List.mem_append, List.mem_reverse] at h
            rcases h with hcell | hrest
            · exact Or.inl hcell
            · exact Or.inr (List.mem_cons_of_mem _ ((ih hrest).resolve_left List.not_mem_nil))
      · rcases ih h with hcell | hcs
        · rcases List.mem_cons.mp hcell with rfl | hcell
          · exact Or.inr List.mem_cons_self
          · exact Or.inl hcell
        · exact Or.inr (List.mem_cons_of_mem _ hcs)

theorem trimText_sublist (cs : List Char) : (trimText cs).Sublist cs :=
  (Text.dropEndWhile_sublist _ _).trans (List.dropWhile_sublist _)

/-- The cells of a row are pieces of it, without those outside the outer pipes. -/
theorem rowCells_sublist (cs : List Char) :
    (rowCells cs).Sublist (splitCells [] false (trimText cs)) := by
  have hfirst : ∀ cells : List (List Char),
      (if cells.head? = some [] then cells.tail else cells).Sublist cells := by
    intro cells
    split
    · exact List.tail_sublist cells
    · exact List.Sublist.refl cells
  have hlast : ∀ cells : List (List Char),
      (if cells.getLast? = some [] then cells.dropLast else cells).Sublist cells := by
    intro cells
    split
    · exact List.dropLast_sublist cells
    · exact List.Sublist.refl cells
  exact (hlast _).trans (hfirst _)

/-- What stands in the cells of a line, after each other. -/
theorem flatten_lineCells_sublist (line : List Char) :
    ((lineCells line).map String.toList).flatten.Sublist
      (splitCells [] false (trimText line)).flatten := by
  have htrimmed : ∀ cells : List (List Char), (cells.map trimText).flatten.Sublist cells.flatten := by
    intro cells
    induction cells with
    | nil => exact List.Sublist.refl _
    | cons cell cells ih => exact (trimText_sublist cell).append ih
  have hcells : (lineCells line).map String.toList = (rowCells line).map trimText := by
    simp [lineCells]
  rw [hcells]
  exact (htrimmed _).trans (rowCells_sublist line).flatten

theorem mem_of_mem_lineCells {line : List Char} {cell : String} (hcell : cell ∈ lineCells line)
    {c : Char} (hc : c ∈ cell.toList) : c ∈ line := by
  have hpiece : c ∈ (splitCells [] false (trimText line)).flatten :=
    (flatten_lineCells_sublist line).mem (List.mem_flatten_of_mem (List.mem_map_of_mem hcell) hc)
  have hline := (mem_of_mem_splitCells hpiece).resolve_left List.not_mem_nil
  exact (trimText_sublist line).mem hline

/-- A line with no more backslashes than its cells has no pipes in them. -/
theorem pipe_notMem_of_lineCells {line : List Char} {cells : List (List Char)}
    (hcells : lineCells line = cells.map String.ofList)
    (hslashes : line.count '\\' ≤ cells.flatten.count '\\') : ∀ cs ∈ cells, '|' ∉ cs := by
  have hsublist := flatten_lineCells_sublist line
  have hchars : (cells.map String.ofList).map String.toList = cells := by simp
  rw [hcells, hchars] at hsublist
  -- pipes and backslashes in the cells are paid for by backslashes of the line, one for each
  have hmarks : cells.flatten.countP isRowMark ≤ cells.flatten.count '\\' := by
    calc cells.flatten.countP isRowMark
        ≤ (splitCells [] false (trimText line)).flatten.countP isRowMark := hsublist.countP_le
      _ = (trimText line).count '\\' := by
          rw [countP_flatten_splitCells (by simp), List.countP_nil, Nat.zero_add]
      _ ≤ line.count '\\' := (trimText_sublist line).count_le _
      _ ≤ cells.flatten.count '\\' := hslashes
  rw [countP_isRowMark] at hmarks
  intro cs hcs hpipe
  have hpipes : 0 < cells.flatten.count '|' :=
    List.count_pos_iff.mpr (List.mem_flatten_of_mem hcs hpipe)
  omega

/-! ## Lines of a table -/

/-- Whether a line sets apart the headers of a table of the given width, and aligns no column. -/
def IsDelimiterLine (width : Nat) (line : List Char) : Prop :=
  isDelimiterRow line = true ∧
    alignments? true (Text.splitWhen (· == '|') line) = some (noAlignments width)

/-- Whether the lines of a text are those of a table: a header line, a delimiter line and a line for
each row, whose cells are those of the table, and an empty line. -/
def IsTableOf (text : String) (t : TableData) : Prop :=
  ∃ header delimiter rows, CodeFence.lines text.toList = header :: delimiter :: rows ++ [[]] ∧
    lineCells header = t.headers ∧ IsDelimiterLine t.headers.length delimiter ∧
      rows.map lineCells = t.rows

/-- Whether a cell stays within its line and its pipes. -/
def StaysInCell (cs : List Char) : Prop :=
  '|' ∉ cs ∧ '\n' ∉ cs ∧ '\r' ∉ cs

/-- The cells of a table hold no line ends if its lines can be read. -/
theorem IsTableOf.notMem {text : String} {t : TableData} (h : IsTableOf text t) {cell : String}
    (hcell : cell ∈ t.cells) : '\n' ∉ cell.toList ∧ '\r' ∉ cell.toList := by
  obtain ⟨header, delimiter, rows, hlines, hheader, -, hrows⟩ := h
  have hline : ∃ line ∈ CodeFence.lines text.toList, cell ∈ lineCells line := by
    rw [hlines]
    rcases List.mem_append.mp hcell with hcell | hcell
    · exact ⟨header, by simp, hheader ▸ hcell⟩
    · obtain ⟨row, hrow, hcell⟩ := List.mem_flatten.mp hcell
      rw [← hrows] at hrow
      obtain ⟨line, hline, rfl⟩ := List.mem_map.mp hrow
      exact ⟨line, by simp [hline], hcell⟩
  obtain ⟨line, hline, hcell⟩ := hline
  obtain ⟨hfeed, hreturn⟩ := CodeFence.notMem_of_mem_lines hline
  constructor
  · exact fun hc => hfeed (mem_of_mem_lineCells hcell hc)
  · exact fun hc => hreturn (mem_of_mem_lineCells hcell hc)

/-- The cells of a table that is given by its characters. -/
theorem cells_plainTable (headers : List (List Char)) (rows : List (List (List Char))) :
    (plainTable headers rows).cells = (headers ++ rows.flatten).map String.ofList := by
  rw [TableData.cells, plainTable, List.map_append, List.map_flatten]

section Written

variable {headers : List (List Char)} {rows : List (List (List Char))}

/-- A table whose cells stay within their lines is written as its lines. -/
theorem lines_tableText (hne : headers ≠ [])
    (hends : ∀ cs ∈ headers ++ rows.flatten, '\n' ∉ cs ∧ '\r' ∉ cs) :
    CodeFence.lines (Element.tableText (plainTable headers rows)).toList =
      tableLines headers rows ++ [[]] := by
  -- what stands between the cells ends no line either
  have hlines : ∀ l ∈ tableLines headers rows ++ [[]], '\n' ∉ l ∧ '\r' ∉ l := by
    intro l hl
    rcases List.mem_append.mp hl with hl | hl
    · constructor
      · intro hc
        rcases mem_of_mem_tableLines hl hc with hmark | ⟨cs, hcs, hc⟩
        · exact absurd hmark (by decide)
        · exact (hends cs hcs).1 hc
      · intro hc
        rcases mem_of_mem_tableLines hl hc with hmark | ⟨cs, hcs, hc⟩
        · exact absurd hmark (by decide)
        · exact (hends cs hcs).2 hc
    · rw [List.mem_singleton.mp hl]
      exact ⟨List.not_mem_nil, List.not_mem_nil⟩
  rw [tableText_eq hne, String.toList_ofList]
  apply CodeFence.lines_joinLines fun l hl => (hlines l hl).1
  intro hc
  obtain ⟨l, hl, hc⟩ := List.mem_flatMap.mp hc
  rcases List.mem_append.mp hc with hc | hc
  · exact (hlines l hl).2 hc
  · exact absurd (List.mem_singleton.mp hc) (by decide)

theorem lineCells_headerChars (h : ∀ cs ∈ headers, isCellText cs = true) :
    lineCells (headerChars headers) = headers.map String.ofList := by
  have hpadded : ∀ cell ∈ headers.map paddedHeader, IsPadded cell := by
    intro cell hcell
    obtain ⟨cs, hcs, rfl⟩ := List.mem_map.mp hcell
    exact isPadded_paddedHeader (h cs hcs)
  rw [lineCells, headerChars, rowCells_rowChars hpadded, List.map_map]
  exact List.map_congr_left fun cs hcs => congrArg String.ofList (trimText_paddedHeader (h cs hcs))

theorem lineCells_dataChars {cells : List (List Char)} (h : ∀ cs ∈ cells, isCellText cs = true) :
    lineCells (dataChars cells) = cells.map String.ofList := by
  rw [lineCells, dataChars, rowCells_rowChars (isPadded_of_isCellText h), List.map_map]
  exact List.map_congr_left fun cs hcs => congrArg String.ofList (trimText_paddedCell (h cs hcs))

/-- Cells that are read back from their row hold no pipes, whatever blanks stand around them. -/
theorem pipe_notMem_of_rowChars {pad : List Char → List Char}
    (hpad : ∀ cs, (pad cs).count '\\' = cs.count '\\') {cells : List (List Char)}
    (h : lineCells (rowChars (cells.map pad)) = cells.map String.ofList) :
    ∀ cs ∈ cells, '|' ∉ cs := by
  apply pipe_notMem_of_lineCells h
  have hcounts : (cells.map pad).map (List.count '\\') = cells.map (List.count '\\') := by
    rw [List.map_map]
    exact List.map_congr_left fun cs _ => hpad cs
  rw [count_rowChars (by decide), List.count_flatten, List.count_flatten, hcounts]

/-- The lines of a table are read as its headers and rows exactly if its cells stay in theirs. -/
theorem isTableOf_tableText_iff (hne : headers ≠ [])
    (htrim : ∀ cs ∈ headers ++ rows.flatten, trimText cs = cs) :
    IsTableOf (Element.tableText (plainTable headers rows)) (plainTable headers rows) ↔
      ∀ cs ∈ headers ++ rows.flatten, StaysInCell cs := by
  constructor
  · intro h
    -- without line ends in the cells the lines are known, and each is read as its own cells
    have hends : ∀ cs ∈ headers ++ rows.flatten, '\n' ∉ cs ∧ '\r' ∉ cs := by
      intro cs hcs
      have hcell := h.notMem (cells_plainTable headers rows ▸ List.mem_map_of_mem hcs)
      rwa [String.toList_ofList] at hcell
    obtain ⟨header, delimiter, lines, hlines, hheader, -, hrows⟩ := h
    rw [lines_tableText hne hends, List.append_cancel_right_eq, tableLines, List.cons.injEq,
      List.cons.injEq] at hlines
    obtain ⟨rfl, rfl, rfl⟩ := hlines
    intro cs hcs
    refine ⟨?_, hends cs hcs⟩
    rcases List.mem_append.mp hcs with hcs | hcs
    · exact pipe_notMem_of_rowChars (count_paddedHeader (by decide)) hheader cs hcs
    · obtain ⟨cells, hcells, hcs⟩ := List.mem_flatten.mp hcs
      refine pipe_notMem_of_rowChars (count_paddedCell (by decide)) ?_ cs hcs
      rw [List.map_map] at hrows
      exact List.map_inj_left.mp hrows cells hcells
  · intro h
    have hcells : ∀ cs ∈ headers ++ rows.flatten, isCellText cs = true := by
      intro cs hcs
      simp [isCellText, (h cs hcs).1, htrim cs hcs]
    have hwidth : headers.length ≠ 0 := by simpa using hne
    refine ⟨headerChars headers, delimiterChars headers.length, rows.map dataChars, ?_, ?_, ?_, ?_⟩
    · exact lines_tableText hne fun cs hcs => (h cs hcs).2
    · exact lineCells_headerChars fun cs hcs => hcells cs (List.mem_append_left _ hcs)
    · rw [plainTable, List.length_map]
      exact ⟨isDelimiterRow_delimiterChars hwidth, alignments?_delimiterChars headers.length⟩
    · rw [List.map_map, plainTable]
      refine List.map_congr_left fun cells hrow => lineCells_dataChars fun cs hcs => ?_
      exact hcells cs (List.mem_append_right _ (List.mem_flatten_of_mem hrow hcs))

end Written

/-! ## Rendering a payload -/

/-- Every table is given by its characters. -/
theorem plainTable_toList (t : TableData) :
    plainTable (t.headers.map String.toList) (t.rows.map (·.map String.toList)) = t := by
  simp [plainTable, Function.comp_def]

/-- **Tables line by line.** The payload of a table with headers, full rows and no blanks around its
cells is rendered as a header line, a delimiter line and a line for each row, of which the cells are
read back, exactly if no cell holds a pipe or a line end. -/
theorem render_dumpTable_iff (codec : Codec) {e : Element} {t : TableData} (htype : e.type = .table)
    (hblock : e.isInline = false) (hencoding : e.encoding = .structured)
    (hcontent : e.content = Codec.dumpTable codec t) (hne : t.headers ≠ [])
    (hwidth : ∀ row ∈ t.rows, row.length = t.headers.length)
    (htrim : ∀ cell ∈ t.cells, trimText cell.toList = cell.toList) :
    ∃ text, e.render codec = .ok text ∧
      (IsTableOf text t ↔ ∀ cell ∈ t.cells, StaysInCell cell.toList) := by
  have hrows : ∀ row ∈ t.rows, row ≠ [] := by
    rintro row hrow rfl
    exact hne (List.length_eq_zero_iff.mp (hwidth [] hrow).symm)
  refine ⟨_, render_of_dumpTable htype hblock hencoding hcontent hne hrows, ?_⟩
  -- the table is taken apart into characters
  rw [← plainTable_toList t] at hne htrim ⊢
  generalize t.headers.map String.toList = headers at *
  generalize t.rows.map (·.map String.toList) = rows at *
  rw [cells_plainTable, List.forall_mem_map] at htrim ⊢
  simp only [String.toList_ofList] at htrim ⊢
  exact isTableOf_tableText_iff (by simpa [plainTable] using hne) htrim

/-- A table of cells that look like marks. -/
def markTable : TableData :=
  { headers := ["", "\\"], rows := [["a\\", "---"], ["", "\", \"rows"]] }

theorem render_dumpTable_marks :
    ((tableElement markTable).type = .table ∧ (tableElement markTable).isInline = false ∧
        (tableElement markTable).encoding = .structured ∧
        (tableElement markTable).content = Codec.dumpTable .lenient markTable ∧
        markTable.headers ≠ [] ∧ (∀ row ∈ markTable.rows, row.length = markTable.headers.length) ∧
        ∀ cell ∈ markTable.cells, trimText cell.toList = cell.toList) ∧
      ∃ text, (tableElement markTable).render .lenient = .ok text ∧ IsTableOf text markTable := by
  have hwidth : ∀ row ∈ markTable.rows, row.length = markTable.headers.length := by decide
  have htrim : ∀ cell ∈ markTable.cells, trimText cell.toList = cell.toList := by decide
  have hstays : ∀ cell ∈ markTable.cells,
      '|' ∉ cell.toList ∧ '\n' ∉ cell.toList ∧ '\r' ∉ cell.toList := by decide
  have htype : (tableElement markTable).type = .table := Element.type_of_tag rfl
  obtain ⟨text, hrender, hiff⟩ := render_dumpTable_iff .lenient (e := tableElement markTable)
    htype rfl rfl rfl (List.cons_ne_nil _ _) hwidth htrim
  exact ⟨⟨htype, rfl, rfl, rfl, List.cons_ne_nil _ _, hwidth, htrim⟩, text, hrender,
    hiff.mpr hstays⟩

/-- A pipe in a cell cuts the cell in two. -/
theorem not_isTableOf_pipe :
    (tableElement ⟨["a"], [["b|c"]]⟩).render .lenient = .ok "| a |\n|---|\n| b|c |\n\n" ∧
      lineCells "| b|c |".toList = ["b", "c"] ∧
      ¬ ∀ t : TableData, t.headers ≠ [] → (∀ row ∈ t.rows, row.length = t.headers.length) →
        (∀ cell ∈ t.cells, trimText cell.toList = cell.toList) →
          ∃ text, (tableElement t).render .lenient = .ok text ∧ IsTableOf text t := by
  have hrender : (tableElement ⟨["a"], [["b|c"]]⟩).render .lenient =
      .ok "| a |\n|---|\n| b|c |\n\n" := by decide +kernel
  have hcells : lineCells "| b|c |".toList = ["b", "c"] := by decide
  have hlines : CodeFence.lines "| a |\n|---|\n| b|c |\n\n".toList =
      ["| a |".toList, "|---|".toList, "| b|c |".toList, []] := by decide
  refine ⟨hrender, hcells, fun hall => ?_⟩
  obtain ⟨text, htext, hlaid⟩ := hall ⟨["a"], [["b|c"]]⟩ (by decide) (by decide) (by decide)
  rw [hrender] at htext
  obtain rfl := Except.ok.inj htext
  obtain ⟨header, delimiter, rows, hread, -, -, hrows⟩ := hlaid
  rw [hlines] at hread
  obtain ⟨row, hrow⟩ : ∃ row, rows = [row] := by
    apply List.length_eq_one_iff.mp
    simpa using congrArg List.length hrows
  subst hrow
  have hrow : row = "| b|c |".toList := by
    simp only [List.cons_append, List.nil_append, List.cons.injEq] at hread
    exact hread.2.2.1.symm
  rw [List.map_singleton, hrow, hcells] at hrows
  exact absurd hrows (by decide)

end MarkdownSections
