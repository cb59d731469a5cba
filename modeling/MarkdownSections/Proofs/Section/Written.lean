import MarkdownSections.Proofs.Frontmatter.Fence
import MarkdownSections.Proofs.Section.Bodies
import MarkdownSections.Section.Write

/-!
# Written rows without metadata

A row of loose text has level zero, as the row of a frontmatter has, and is written between fence
lines. Elements without metadata make such a row for the text in front of their first heading; what
is written for them then starts with a header, whose raw part is that text as far as a fence line in
it.

The raw part is empty exactly if there is no such text or it closes the header at once
(`raw_written_eq_nil_iff`). The rows of headings start with no fence, so without loose text there is
no header at all.
-/

set_option autoImplicit false

namespace MarkdownSections

open Attempt (mapM_eq_ok_iff exists_of_mem_mapM)

/-! ## Texts without a header -/

theorem Frontmatter.split_of_head?_ne {cs : List Char} (h : cs.head? ≠ some '-') :
    Frontmatter.split cs = ([], cs) := by
  have hnone : Frontmatter.afterFence? cs = none := by
    apply Frontmatter.afterFence?.eq_2
    rintro rest rfl
    exact h rfl
  rw [Frontmatter.split, hnone]
  rfl

theorem head?_append_ne {c : Char} {cs cs' : List Char} (h : cs.head? ≠ some c)
    (h' : cs'.head? ≠ some c) : (cs ++ cs').head? ≠ some c := by
  cases cs with
  | nil => exact h'
  | cons d cs => exact h

namespace Section

/-- What is written for the row of a heading does not start with a hyphen. -/
theorem head?_render_ne {s : Section} (h : s.level ≠ 0) (blankLines : Int) :
    (s.render blankLines).toList.head? ≠ some '-' := by
  have hreplicate : ∀ (c : Char) (n : Nat), c ≠ '-' → (List.replicate n c).head? ≠ some '-' := by
    intro c n hc
    cases n with
    | zero => simp
    | succ n => simpa [List.replicate_succ] using hc
  unfold render
  rw [if_neg h]
  simp only [String.toList_append]
  apply head?_append_ne
  · apply head?_append_ne
    · split
      · simp only [String.toList_append, String.toList_ofList]
        rw [List.append_assoc, List.append_assoc]
        apply head?_append_ne
        · exact hreplicate '#' _ (by decide)
        · simp
      · simp
    · split
      · simp
      · simp
  · rw [String.toList_ofList]
    exact hreplicate '\n' _ (by decide)

/-- Without a frontmatter of its own, a document is made of its rows alone. -/
theorem renderAll_empty (rows : List Section) (blankLines : Int) :
    renderAll rows "" blankLines = String.join (rows.map (render blankLines)) := by
  unfold renderAll
  exact if_pos rfl

/-- A row of level zero with content is written in front of the other rows. -/
theorem renderAll_cons_of_level_zero {s : Section} (hlevel : s.level = 0) (hcontent : s.content ≠ "")
    (later : List Section) (blankLines : Int) :
    renderAll (s :: later) "" blankLines =
      "---\n" ++ s.content ++ "\n---\n\n" ++ renderAll later "" blankLines := by
  have hrow : s.render blankLines = "---\n" ++ s.content ++ "\n---\n\n" := by
    unfold render
    rw [if_pos hlevel, if_neg (by simpa using hcontent)]
  rw [renderAll_empty, renderAll_empty, List.map_cons, String.join_cons, hrow]

/-- A frontmatter of its own is written in front of the rows of headings. -/
theorem renderAll_of_frontmatter {frontmatter : String} (h : frontmatter ≠ "") (rows : List Section)
    (blankLines : Int) :
    renderAll rows frontmatter blankLines =
      "---\n" ++ frontmatter ++ "\n---\n\n" ++
        renderAll (rows.filter (·.level != 0)) "" blankLines := by
  rw [renderAll_empty]
  unfold renderAll
  rw [if_neg (by simpa using h)]

theorem head?_join_render_ne {rows : List Section} (h : ∀ s ∈ rows, s.level ≠ 0) (blankLines : Int) :
    (String.join (rows.map (render blankLines))).toList.head? ≠ some '-' := by
  induction rows with
  | nil => simp
  | cons s rows ih =>
      rw [List.map_cons, String.join_cons, String.toList_append]
      apply head?_append_ne
      · exact head?_render_ne (h s List.mem_cons_self) blankLines
      · exact ih fun x hx => h x (List.mem_cons_of_mem s hx)

end Section

namespace Grouping

/-! ## Rows without metadata -/

/-- Groups of headings make the rows of headings. -/
theorem rowsFrom_of_isHeading {gs : List Group} (h : ∀ g ∈ gs, g.isHeading = true) (loose : String)
    (before : List Group) : rowsFrom loose before gs = headingRowsFrom before gs := by
  induction gs generalizing before with
  | nil => rfl
  | cons g gs ih =>
      have hg := h g List.mem_cons_self
      rw [rowsFrom, headingRowsFrom, ih fun x hx => h x (List.mem_cons_of_mem g hx)]
      apply congrArg (· ++ headingRowsFrom (g :: before) gs)
      obtain ⟨level, title, wanted, hopener⟩ := exists_opener_of_isHeading hg
      rw [rowsAt, Group.hasHeadingRow, hopener]
      by_cases hempty : (title.isEmpty && g.text.isEmpty) = true
      · simp [hempty]
      · simp [hempty]

theorem looseTexts_of_isHeading {gs : List Group} (h : ∀ g ∈ gs, g.isHeading = true) :
    String.join (gs.map Group.looseText) = "" := by
  induction gs with
  | nil => rfl
  | cons g gs ih =>
      rw [List.map_cons, String.join_cons, looseText_of_isHeading (h g List.mem_cons_self),
        ih fun x hx => h x (List.mem_cons_of_mem g hx)]
      rfl

/-- Without metadata, the row of loose text stands in front of the rows of headings. -/
theorem rows_of_isHeading {lead : List String} {gs : List Group}
    (h : ∀ g ∈ gs, g.isHeading = true) :
    rows (⟨.start, lead⟩ :: gs) =
      (if (String.join lead).isEmpty then [] else [looseRow (String.join lead)]) ++
        headingRowsFrom [⟨.start, lead⟩] gs := by
  have hloose : String.join ((⟨.start, lead⟩ :: gs : List Group).map Group.looseText) =
      String.join lead := by
    rw [List.map_cons, String.join_cons, looseTexts_of_isHeading h, String.append_empty]
    rfl
  have hrow : rowsAt (String.join lead) [] ⟨.start, lead⟩ =
      if (String.join lead).isEmpty then [] else [looseRow (String.join lead)] := by
    change (if (String.join lead).isEmpty || false then [] else [looseRow (String.join lead)]) = _
    rw [Bool.or_false]
  rw [rows, hloose, rowsFrom, hrow, rowsFrom_of_isHeading h]

/-- What is written for loose text is a header in front of the rest. -/
theorem renderAll_looseRow {loose : String} (h : loose ≠ "") (later : List Section)
    (blankLines : Int) :
    (Section.renderAll (looseRow loose :: later) "" blankLines).toList =
      Frontmatter.fenced loose.toList ++
        (String.join (later.map (Section.render blankLines))).toList := by
  have hrow : (looseRow loose).content = loose := rfl
  rw [Section.renderAll_cons_of_level_zero rfl h, Section.renderAll_empty, hrow]
  simp [Frontmatter.fenced, Frontmatter.closing]

/-- **Written rows.** Elements without metadata are grouped and written back with an empty raw
frontmatter exactly if the texts in front of their first heading, one behind the other, close a
header that is opened in front of them at once. -/
theorem raw_written_eq_nil_iff {codec : Codec} {es : List Element}
    (hes : ∀ e ∈ es, e.type.isMetadata = false) {sections : List Section}
    (h : reduceSections codec es = .ok sections) (blankLines : Int) :
    ∃ texts,
      List.Forall₂ (fun e t => e.render codec = .ok t)
        ((Element.sortByOrder es).takeWhile (!endsBody ·)) texts ∧
      ((Frontmatter.split (Section.renderAll sections "" blankLines).toList).1 = [] ↔
        Frontmatter.closesAtOnce (String.join texts).toList = true) := by
  obtain ⟨ps, hps, rfl⟩ := exists_pieces_of_reduceSections h
  have hpieces : ∀ p ∈ ps, p.isMetadata = false := by
    intro p hp
    obtain ⟨e, he, hpiece⟩ := exists_of_mem_mapM hps hp
    rw [isMetadata_of_ofElement hpiece]
    exact hes e ((List.mergeSort_perm es _).mem_iff.mp he)
  have hheadings := isHeading_split hpieces
  obtain ⟨htexts, -⟩ := forall₂_split (mapM_eq_ok_iff.mp hps)
  have hlevels : ∀ s ∈ headingRowsFrom [⟨.start, (split ps).1⟩] (split ps).2, s.level ≠ 0 := by
    intro s hs
    rw [← filter_level_rowsFrom (fun g hg => groupsOf_isLeveled hps g
      (List.mem_cons_of_mem _ hg)) ""] at hs
    simpa using (List.mem_filter.mp hs).2
  have hrows : rows (groupsOf ps) = _ := rows_of_isHeading hheadings
  refine ⟨(split ps).1, htexts, ?_⟩
  rw [hrows]
  by_cases hempty : (String.join (split ps).1).isEmpty = true
  · -- the rows of headings start with no header, and no text closes at once
    rw [if_pos hempty, List.nil_append, Section.renderAll_empty,
      Frontmatter.split_of_head?_ne (Section.head?_join_render_ne hlevels blankLines),
      String.isEmpty_iff.mp hempty]
    exact iff_of_true rfl rfl
  · rw [if_neg hempty, List.singleton_append,
      renderAll_looseRow (by simpa using hempty), Frontmatter.raw_split_eq_nil_iff]

/-- A heading with a paragraph, in front of which stands nothing. -/
def headingFirst : List Element :=
  [{ elementType := "heading", content := "A", order := 1 },
    { elementType := "paragraph", content := "x", order := 2 }]

theorem raw_written_headingFirst :
    ∃ sections, reduceSections .lenient headingFirst = .ok sections ∧
      (Frontmatter.split (Section.renderAll sections "" 1).toList).1 = [] := by
  have hsorted : Element.sortByOrder headingFirst = headingFirst :=
    Element.sortByOrder_of_ascending (by decide)
  have hreduce : reduceSections .lenient headingFirst =
      (headingFirst.mapM (Piece.ofElement .lenient)).map fun ps => rows (groupsOf ps) := by
    rw [reduceSections_eq_map_rows, hsorted]
  obtain ⟨texts, htexts, hiff⟩ := raw_written_eq_nil_iff (by decide) hreduce 1
  rw [hsorted] at htexts
  cases htexts
  exact ⟨_, hreduce, hiff.mpr rfl⟩

/-- A paragraph without a heading in front of it. -/
def paragraphAlone : List Element :=
  [{ elementType := "paragraph", content := "x", order := 1 }]

/-- The paragraph is written as a header. -/
theorem raw_written_paragraphAlone :
    ∃ sections, reduceSections .lenient paragraphAlone = .ok sections ∧
      (Frontmatter.split (Section.renderAll sections "" 1).toList).1 = "x\n\n".toList := by
  refine ⟨[looseRow "x\n\n"], ?_, by decide +kernel⟩
  rw [reduceSections_eq_map_rows, Element.sortByOrder_of_ascending (by decide)]
  rfl

end Grouping

end MarkdownSections
