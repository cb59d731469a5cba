import MarkdownSections.Proofs.Markdown.Leaf
import MarkdownSections.Proofs.Text.Blank

/-!
# Tables set apart

Cells without pipes are read back from their row (`rowCells_rowChars`). A header row over a row of
hyphens starts a table, which goes on up to the empty line behind it (`block_table`).
-/

set_option autoImplicit false

namespace MarkdownSections.Markdown.Block

open Passage

/-! ## Rows -/

/-- A row of cells that already have their blanks. -/
def rowChars (cells : List (List Char)) : List Char :=
  '|' :: cells.flatMap (· ++ ['|'])

/-- A cell between blanks. -/
def paddedCell (cs : List Char) : List Char :=
  ' ' :: (cs ++ [' '])

/-- A header cell between blanks; an empty one is a single blank. -/
def paddedHeader (cs : List Char) : List Char :=
  if cs.isEmpty then [' '] else paddedCell cs

/-- Whether a cell stays within its pipes, and has no blanks around it. -/
def isCellText (cs : List Char) : Bool :=
  !cs.contains '|' && trimText cs == cs

/-- What holds no pipe and has a blank behind it belongs to the cell that is read. -/
theorem splitCells_append {front : List Char} (hpipe : '|' ∉ front) (cell rest : List Char)
    (escaped : Bool) :
    splitCells cell escaped (front ++ ' ' :: rest) =
      splitCells (' ' :: (front.reverse ++ cell)) false rest := by
  induction front generalizing cell escaped with
  | nil => simp [splitCells]
  | cons c front ih =>
      have hc : c ≠ '|' := fun heq => hpipe (heq ▸ List.mem_cons_self)
      have hfront : '|' ∉ front := fun h => hpipe (List.mem_cons_of_mem c h)
      rw [List.cons_append, splitCells, if_neg hc, ih hfront]
      simp

/-- Whether a cell ends with a blank and stays within its pipes. -/
def IsPadded (cell : List Char) : Prop :=
  ∃ front, cell = front ++ [' '] ∧ '|' ∉ front

theorem splitCells_row {cells : List (List Char)} (hcells : ∀ cell ∈ cells, IsPadded cell) :
    splitCells [] false (cells.flatMap (· ++ ['|'])) = cells ++ [[]] := by
  induction cells with
  | nil => rfl
  | cons cell cells ih =>
      obtain ⟨front, rfl, hpipe⟩ := hcells cell List.mem_cons_self
      have hrest := ih fun x hx => hcells x (List.mem_cons_of_mem _ hx)
      rw [List.flatMap_cons, List.append_assoc, List.append_assoc, List.singleton_append,
        splitCells_append hpipe, List.singleton_append, splitCells]
      simp [hrest]

theorem isPadded_paddedCell {cs : List Char} (h : isCellText cs = true) :
    IsPadded (paddedCell cs) := by
  simp only [isCellText, Bool.and_eq_true, Bool.not_eq_true', List.contains_eq_mem,
    decide_eq_false_iff_not] at h
  refine ⟨' ' :: cs, rfl, ?_⟩
  simpa using h.1

theorem isPadded_paddedHeader {cs : List Char} (h : isCellText cs = true) :
    IsPadded (paddedHeader cs) := by
  unfold paddedHeader
  split
  · exact ⟨[], rfl, List.not_mem_nil⟩
  · exact isPadded_paddedCell h

theorem rowChars_eq_append (cells : List (List Char)) :
    rowChars cells = cells.flatMap ('|' :: ·) ++ ['|'] := by
  unfold rowChars
  induction cells with
  | nil => rfl
  | cons cell cells ih =>
      rw [List.flatMap_cons, List.flatMap_cons, List.append_assoc, List.append_assoc,
        List.singleton_append, ih]
      rfl

theorem trimText_rowChars (cells : List (List Char)) :
    trimText (rowChars cells) = rowChars cells := by
  have hlast : rowChars cells = cells.flatMap ('|' :: ·) ++ ['|'] := rowChars_eq_append cells
  rw [trimText, rowChars, List.dropWhile_cons_of_neg (by decide), ← rowChars]
  apply Text.dropEndWhile_eq_self
  rw [hlast, List.getLast?_concat]
  intro c hc
  cases hc
  rfl

/-- A row is cut into its cells. -/
theorem rowCells_rowChars {cells : List (List Char)} (hcells : ∀ cell ∈ cells, IsPadded cell) :
    rowCells (rowChars cells) = cells := by
  have hsplit : splitCells [] false (rowChars cells) = [] :: (cells ++ [[]]) := by
    rw [rowChars, splitCells, splitCells_row hcells]
    rfl
  simp [rowCells, trimText_rowChars, hsplit]

theorem trimText_paddedCell {cs : List Char} (h : isCellText cs = true) :
    trimText (paddedCell cs) = cs := by
  simp only [isCellText, Bool.and_eq_true, beq_iff_eq] at h
  have hblank : isOuterBlank ' ' = true := rfl
  have htrim : trimText (paddedCell cs) = trimText cs := by
    unfold trimText paddedCell
    rw [List.dropWhile_cons_of_pos hblank, List.dropWhile_append]
    split
    · next hempty =>
        rw [List.isEmpty_iff] at hempty
        rw [hempty, List.dropWhile_cons_of_pos hblank]
        rfl
    · exact Text.dropEndWhile_append_singleton hblank _
  rw [htrim, h.2]

theorem trimText_paddedHeader {cs : List Char} (h : isCellText cs = true) :
    trimText (paddedHeader cs) = cs := by
  unfold paddedHeader
  split
  · next hempty =>
      rw [List.isEmpty_iff] at hempty
      rw [hempty]
      rfl
  · exact trimText_paddedCell h

/-! ### Characters of a row -/

theorem mem_rowChars {c : Char} {cells : List (List Char)} :
    c ∈ rowChars cells ↔ c = '|' ∨ ∃ cell ∈ cells, c ∈ cell := by
  rw [rowChars, List.mem_cons, List.mem_flatMap]
  constructor
  · rintro (rfl | ⟨cell, hcell, hc⟩)
    · exact Or.inl rfl
    · rcases List.mem_append.mp hc with hc | hc
      · exact Or.inr ⟨cell, hcell, hc⟩
      · exact Or.inl (List.mem_singleton.mp hc)
  · rintro (rfl | ⟨cell, hcell, hc⟩)
    · exact Or.inl rfl
    · exact Or.inr ⟨cell, hcell, List.mem_append_left _ hc⟩

theorem mem_paddedCell {c : Char} {cs : List Char} : c ∈ paddedCell cs ↔ c = ' ' ∨ c ∈ cs := by
  rw [paddedCell, List.mem_cons, List.mem_append, List.mem_singleton]
  constructor
  · rintro (hblank | hc | hblank)
    · exact Or.inl hblank
    · exact Or.inr hc
    · exact Or.inl hblank
  · exact Or.imp_right Or.inl

theorem mem_paddedHeader {c : Char} {cs : List Char} :
    c ∈ paddedHeader cs ↔ c = ' ' ∨ c ∈ cs := by
  cases cs with
  | nil => simp [paddedHeader]
  | cons d cs => exact mem_paddedCell

/-- Pipes apart, a row holds a character as often as its cells do. -/
theorem count_rowChars {c : Char} (h : c ≠ '|') (cells : List (List Char)) :
    (rowChars cells).count c = cells.flatten.count c := by
  rw [rowChars, List.count_cons_of_ne h.symm]
  induction cells with
  | nil => rfl
  | cons cell cells ih =>
      rw [List.flatMap_cons, List.flatten_cons, List.count_append, List.count_append,
        List.count_append, ih, List.count_singleton, if_neg (by simpa using h.symm), Nat.add_zero]

theorem count_paddedCell {c : Char} (h : c ≠ ' ') (cs : List Char) :
    (paddedCell cs).count c = cs.count c := by
  rw [paddedCell, List.count_cons_of_ne h.symm, List.count_append, List.count_singleton,
    if_neg (by simpa using h.symm), Nat.add_zero]

theorem count_paddedHeader {c : Char} (h : c ≠ ' ') (cs : List Char) :
    (paddedHeader cs).count c = cs.count c := by
  cases cs with
  | nil => exact List.count_cons_of_ne h.symm
  | cons d cs => exact count_paddedCell h (d :: cs)

theorem fitCells_map {pad : List Char → List Char} {cells : List (List Char)}
    (h : ∀ cs ∈ cells, trimText (pad cs) = cs) :
    fitCells cells.length (cells.map pad) = cells := by
  induction cells with
  | nil => rfl
  | cons cs cells ih =>
      rw [List.length_cons, List.map_cons, fitCells, h cs List.mem_cons_self,
        ih fun x hx => h x (List.mem_cons_of_mem cs hx)]

/-! ## The delimiter row -/

/-- The row between the header and the data of a table. -/
def delimiterChars (width : Nat) : List Char :=
  rowChars (List.replicate width ['-', '-', '-'])

theorem splitWhen_rowChars {cells : List (List Char)} (hcells : ∀ cell ∈ cells, '|' ∉ cell) :
    Text.splitWhen (· == '|') (rowChars cells) = [] :: (cells ++ [[]]) := by
  have hrest : Text.splitWhen (· == '|') (cells.flatMap (· ++ ['|'])) = cells ++ [[]] := by
    induction cells with
    | nil => rfl
    | cons cell cells ih =>
        have hcell : ∀ c ∈ cell, (c == '|') = false := by
          intro c hc
          rw [beq_eq_false_iff_ne]
          rintro rfl
          exact hcells cell List.mem_cons_self hc
        rw [List.flatMap_cons, List.append_assoc, List.singleton_append,
          Text.splitWhen_append_cons hcell rfl,
          ih fun x hx => hcells x (List.mem_cons_of_mem cell hx)]
        rfl
  have hfirst : ∀ c ∈ ([] : List Char), (c == '|') = false := by simp
  rw [← hrest]
  exact Text.splitWhen_append_cons hfirst rfl _

theorem alignments?_dashes (width : Nat) (first : Bool) :
    alignments? first (List.replicate width ['-', '-', '-'] ++ [[]]) =
      some (List.replicate width "") := by
  induction width generalizing first with
  | zero => cases first <;> rfl
  | succ width ih =>
      have htrim : trimText ['-', '-', '-'] = ['-', '-', '-'] := rfl
      have hcell : cellAlignment? ['-', '-', '-'] = some "" := rfl
      rw [List.replicate_succ, List.cons_append, alignments?]
      simp [htrim, hcell, ih, List.replicate_succ]

/-- The delimiter row aligns no column. -/
theorem alignments?_delimiterChars (width : Nat) :
    alignments? true (Text.splitWhen (· == '|') (delimiterChars width)) =
      some (List.replicate width "") := by
  have hdashes : ∀ cell ∈ List.replicate width ['-', '-', '-'], '|' ∉ cell := by
    intro cell hcell
    rw [List.eq_of_mem_replicate hcell]
    decide
  have hempty : trimText [] = [] := rfl
  rw [delimiterChars, splitWhen_rowChars hdashes, alignments?]
  simp [hempty, alignments?_dashes]

theorem isDelimiterRow_delimiterChars {width : Nat} (h : width ≠ 0) :
    isDelimiterRow (delimiterChars width) = true := by
  obtain ⟨width, rfl⟩ := Nat.exists_eq_succ_of_ne_zero h
  simp [delimiterChars, rowChars, List.replicate_succ, isDelimiterRow, isSpace]

/-! ## A table between empty lines -/

/-- A line that starts with a pipe stands at the left. -/
theorem endedLine_rowChars (cells : List (List Char)) :
    endedLine (rowChars cells) = { chars := rowChars cells, ended := true } := by
  simp [endedLine, Line.ofChars, rowChars, isIndentation, columnAfter]

/-- The header row of a table. -/
def headerChars (headers : List (List Char)) : List Char :=
  rowChars (headers.map paddedHeader)

/-- A data row of a table. -/
def dataChars (cells : List (List Char)) : List Char :=
  rowChars (cells.map paddedCell)

/-- The lines of a table. -/
def tableLines (headers : List (List Char)) (rows : List (List (List Char))) : List (List Char) :=
  headerChars headers :: delimiterChars headers.length :: rows.map dataChars

/-- The lines of a table hold the characters of its cells, pipes, blanks and hyphens. -/
theorem mem_of_mem_tableLines {headers : List (List Char)} {rows : List (List (List Char))}
    {l : List Char} (hl : l ∈ tableLines headers rows) {c : Char} (hc : c ∈ l) :
    c ∈ ['|', ' ', '-'] ∨ ∃ cs ∈ headers ++ rows.flatten, c ∈ cs := by
  -- the header row and the data rows differ in how their cells are padded only
  have hcell : ∀ (pad : List Char → List Char) (cells : List (List Char)),
      (∀ cs, c ∈ pad cs ↔ c = ' ' ∨ c ∈ cs) → c ∈ rowChars (cells.map pad) →
        c ∈ ['|', ' ', '-'] ∨ ∃ cs ∈ cells, c ∈ cs := by
    intro pad cells hpad hrow
    rcases mem_rowChars.mp hrow with rfl | ⟨cell, hcell, hc⟩
    · exact Or.inl (by decide)
    · obtain ⟨cs, hcs, rfl⟩ := List.mem_map.mp hcell
      rcases (hpad cs).mp hc with rfl | hc
      · exact Or.inl (by decide)
      · exact Or.inr ⟨cs, hcs, hc⟩
  rw [tableLines, List.mem_cons, List.mem_cons, List.mem_map] at hl
  rcases hl with rfl | rfl | ⟨cells, hcells, rfl⟩
  · refine (hcell paddedHeader headers (fun _ => mem_paddedHeader) hc).imp_right ?_
    rintro ⟨cs, hcs, hc⟩
    exact ⟨cs, List.mem_append_left _ hcs, hc⟩
  · left
    rcases mem_rowChars.mp hc with rfl | ⟨cell, hcell, hc⟩
    · decide
    · rw [List.eq_of_mem_replicate hcell] at hc
      have hyphen : c = '-' := by simpa using hc
      simp [hyphen]
  · refine (hcell paddedCell cells (fun _ => mem_paddedCell) hc).imp_right ?_
    rintro ⟨cs, hcs, hc⟩
    exact ⟨cs, List.mem_append_right _ (List.mem_flatten_of_mem hcells hcs), hc⟩

/-- The alignments of a table whose delimiter row aligns nothing. -/
def noAlignments (width : Nat) : List String :=
  List.replicate width ""

/-- The tokens of the data rows of a table from line `i` on. -/
def rowsTokens (width i : Nat) : List (List (List Char)) → List Token
  | [] => []
  | cells :: rows => rowTokens "td" 2 i (noAlignments width) cells ++ rowsTokens width (i + 1) rows

/-- The tokens of a table. -/
def tableTokens (headers : List (List Char)) (rows : List (List (List Char))) (i : Nat) :
    List Token :=
  let width := headers.length
  let next := i + 2 + rows.length
  enclose "table" "table" 0 (lineRange i next) []
    (enclose "thead" "thead" 1 (lineRange i (i + 1)) [] (rowTokens "th" 2 i (noAlignments width) headers)
      ++ if rows.isEmpty then []
        else enclose "tbody" "tbody" 1 (lineRange (i + 2) next) [] (rowsTokens width (i + 2) rows))

section Table

variable {lines : List Line} {headers : List (List Char)} {rows : List (List (List Char))}
  {i : Nat}

theorem tableStart?_tableLines (hne : headers ≠ [])
    (hheaders : ∀ cs ∈ headers, isCellText cs = true) {stop : Nat} (hstop : i + 2 ≤ stop)
    (hheader : (topContext lines).line i = endedLine (headerChars headers))
    (hdelimiter : (topContext lines).line (i + 1) = endedLine (delimiterChars headers.length)) :
    tableStart? (topContext lines) i stop =
      some (headers.map paddedHeader, noAlignments headers.length) := by
  have hpadded : ∀ cell ∈ headers.map paddedHeader, IsPadded cell := by
    intro cell hcell
    obtain ⟨cs, hcs, rfl⟩ := List.mem_map.mp hcell
    exact isPadded_paddedHeader (hheaders cs hcs)
  have hwidth : headers.length ≠ 0 := by simpa using hne
  rw [delimiterChars, endedLine_rowChars, ← delimiterChars] at hdelimiter
  rw [headerChars, endedLine_rowChars] at hheader
  simp [tableStart?, hheader, hdelimiter, Line.content, isDelimiterRow_delimiterChars hwidth,
    alignments?_delimiterChars, rowCells_rowChars hpadded]
  exact ⟨⟨⟨⟨⟨⟨rfl, hstop⟩, rfl⟩, rfl⟩, List.mem_cons_self⟩, rfl⟩, hne, rfl⟩

/-- A row opens no other block. -/
theorem interrupts_rowChars {cells : List (List Char)} {stop : Nat}
    (hline : (topContext lines).line i = endedLine (rowChars cells)) :
    interrupts (topContext lines) .quote i stop = false := by
  have hcontent : ((topContext lines).line i).content = '|' :: cells.flatMap (· ++ ['|']) := by
    rw [hline, endedLine_rowChars]
    rfl
  simp [interrupts, fence?_eq_none hcontent, opensQuote_eq_false hcontent, isRule_eq_false hcontent,
    listStart?_eq_none hcontent, htmlStart?_eq_none hcontent, heading?_eq_none hcontent]

theorem isPadded_of_isCellText {cells : List (List Char)}
    (h : ∀ cs ∈ cells, isCellText cs = true) : ∀ cell ∈ cells.map paddedCell, IsPadded cell := by
  intro cell hcell
  obtain ⟨cs, hcs, rfl⟩ := List.mem_map.mp hcell
  exact isPadded_paddedCell (h cs hcs)

/-- The data rows are read up to the empty line behind them. -/
theorem tableRows_of_sees {width stop : Nat}
    (hrows : ∀ cells ∈ rows, cells.length = width ∧ ∀ cs ∈ cells, isCellText cs = true)
    (hsees : Sees (topContext lines) i ((rows.map dataChars ++ [[]]).map endedLine)) {count : Nat}
    (hcount : rows.length ≤ count) :
    tableRows (topContext lines) (noAlignments width) stop 0 i count =
      (rowsTokens width i rows, i + rows.length) := by
  -- row by row up to the empty line
  induction rows generalizing i count with
  | nil =>
      cases count with
      | zero => rfl
      | succ count =>
          have hempty : (trimText ((topContext lines).line i).content).isEmpty = true := by
            rw [hsees.head]
            rfl
          simp [tableRows, hempty, rowsTokens]
  | cons cells rows ih =>
      obtain ⟨count, rfl⟩ : ∃ k, count = k + 1 := ⟨count - 1, by simp at hcount; omega⟩
      obtain ⟨rfl, hcells⟩ := hrows cells List.mem_cons_self
      have hline : (topContext lines).line i = endedLine (dataChars cells) := hsees.head
      have hrest := ih (fun x hx => hrows x (List.mem_cons_of_mem cells hx)) hsees.tail
        (Nat.le_of_succ_le_succ hcount)
      have hinterrupts : interrupts (topContext lines) .quote i stop = false :=
        interrupts_rowChars hline
      have hfit : fitCells cells.length (cells.map paddedCell) = cells :=
        fitCells_map fun cs hcs => trimText_paddedCell (hcells cs hcs)
      have htrim : (trimText (dataChars cells)).isEmpty = false := by
        rw [dataChars, trimText_rowChars]
        rfl
      rw [dataChars, endedLine_rowChars, ← dataChars] at hline
      have hcut : rowCells (dataChars cells) = cells.map paddedCell :=
        rowCells_rowChars (isPadded_of_isCellText hcells)
      have hwidth : (noAlignments cells.length).length = cells.length := List.length_replicate
      have hcode : (topContext lines).isCode { chars := dataChars cells, ended := true } = false := rfl
      have hleft : ¬0 < (topContext lines).indent := Nat.lt_irrefl 0
      have hfilled : ¬maxFilledCells < 0 := by decide
      simp [tableRows, hinterrupts, hline, Line.content, hcut, hfit, htrim, hwidth, hcode, hleft,
        hfilled, hrest, rowsTokens]
      constructor
      · rfl
      · omega

/-- A header row, a delimiter row and data rows are a table. -/
theorem block_table {inner : Reader} (hne : headers ≠ [])
    (hheaders : ∀ cs ∈ headers, isCellText cs = true)
    (hrows : ∀ cells ∈ rows, cells.length = headers.length ∧ ∀ cs ∈ cells, isCellText cs = true)
    (hsees : Sees (topContext lines) i ((tableLines headers rows ++ [[]]).map endedLine)) {stop : Nat}
    (hstop : i + 2 + rows.length < stop) :
    block inner (topContext lines) i stop =
      { next := i + 2 + rows.length, tokens := tableTokens headers rows i } := by
  have hstart : tableStart? (topContext lines) i stop =
      some (headers.map paddedHeader, noAlignments headers.length) :=
    tableStart?_tableLines hne hheaders (by omega) hsees.head hsees.tail.head
  have hrowsEq : tableRows (topContext lines) (noAlignments headers.length) stop 0 (i + 2)
      (stop - (i + 2)) = (rowsTokens headers.length (i + 2) rows, i + 2 + rows.length) :=
    tableRows_of_sees hrows hsees.tail.tail (by omega)
  have hfit : fitCells headers.length (headers.map paddedHeader) = headers :=
    fitCells_map fun cs hcs => trimText_paddedHeader (hheaders cs hcs)
  have hwidth : (noAlignments headers.length).length = headers.length := List.length_replicate
  -- without data rows there is no body, and the table ends with its delimiter row
  have hempty : rowsTokens headers.length (i + 2) rows = [] ↔ rows = [] := by
    cases rows with
    | nil => simp [rowsTokens]
    | cons cells rows => simp [rowsTokens, rowTokens, enclose]
  have hnext : (topContext lines).line (i + 2 + rows.length) = endedLine [] := by
    rw [List.map_append] at hsees
    have hhead := hsees.right.head
    rw [List.length_map, tableLines, List.length_cons, List.length_cons, List.length_map] at hhead
    rw [← hhead]
    congr 1
    omega
  have hreadable : canInterrupt (topContext lines) (endedLine []) = true := rfl
  have hcore : (topContext lines).preset.core = true := rfl
  simp [block, hcore, table?, hstart, hrowsEq, hfit, hwidth, hempty, hnext, hreadable, tableTokens]
  rfl

end Table

/-! ## Tables as passages -/

/-- A table. -/
def tablePassage (headers : List (List Char)) (rows : List (List (List Char))) : Passage :=
  { lines := tableLines headers rows
    tokens := tableTokens headers rows }

theorem isRead_table {headers : List (List Char)} {rows : List (List (List Char))}
    (hne : headers ≠ []) (hheaders : ∀ cs ∈ headers, isCellText cs = true)
    (hrows : ∀ cells ∈ rows, cells.length = headers.length ∧ ∀ cs ∈ cells, isCellText cs = true) :
    (tablePassage headers rows).IsRead := by
  apply isRead_of_block rfl
  · refine ⟨headerChars headers, _, rfl, ?_⟩
    rw [headerChars, endedLine_rowChars]
    rfl
  · intro lines i hsees hend
    have hlength : (tablePassage headers rows).lines.length = rows.length + 2 := by
      simp [tablePassage, tableLines]
    have hnext : i + (rows.length + 2) = i + 2 + rows.length := by omega
    rw [length_written, hlength] at hend
    rw [block_table hne hheaders hrows hsees (by omega), hlength, hnext]
    rfl

end MarkdownSections.Markdown.Block
