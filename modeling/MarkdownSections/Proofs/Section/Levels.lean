import MarkdownSections.Proofs.Section.Contents

/-!
# The rows of some levels

Which levels are wanted decides which headings have rows, and nothing about the rows that are
there: a heading without a row ends sections and stands in their contents as before. So the rows of
some levels are those among the rows of all levels, apart from the ids, which are numbered among the
headings with rows (`Document.WellHeaded.rows_of_levels`). The contents can be left out without any
other change, in every document (`Document.sections_withoutContent`).

Both compare two runs over the same headings. The first needs that the end of a section and its
content do not depend on the ids of the headings behind it (`endOf_eq_getD`), the second that a row is
made of the rows in front of it without a look at their contents (`rowOf_withoutContent`).
-/

set_option autoImplicit false

namespace MarkdownSections

namespace Section

/-- A row with its content left out. -/
def withoutContent (s : Section) : Section :=
  { s with content := "" }

/-- What a row shows of its section: the title, the level, the content and the lines. -/
def shown (s : Section) : String × Int × String × Option Int × Option Int :=
  (s.title, s.level, s.content, s.startLine, s.endLine)

/-- The rows of headings among all rows. -/
def ofHeadings (rows : List Section) : List Section :=
  rows.filter fun s => decide (0 < s.level)

end Section

/-- The same options, with the headings of all six levels wanted. -/
def SectionOptions.ofAllLevels (o : SectionOptions) : SectionOptions :=
  { o with minLevel := 1, maxLevel := 6 }

/-- Which ids are given depends on the levels that are wanted only. -/
theorem Heading.assignIds_congr {o o' : SectionOptions} (h : o.includes = o'.includes)
    (r : SlugRegistry) (hs : List Heading) : assignIds o r hs = assignIds o' r hs := by
  induction hs generalizing r with
  | nil => rfl
  | cons x hs ih =>
      rw [assignIds, assignIds, h]
      simp only [ih]

namespace Document

theorem headings_congr (d : Document) {o o' : SectionOptions} (h : o.includes = o'.includes) :
    d.headings o = d.headings o' :=
  Heading.assignIds_congr h _ _

/-! ## Contents left out -/

section Contents

variable (d : Document)

theorem parentOf_withoutContent (above : List Section) (level : Int) :
    parentOf (above.map Section.withoutContent) level =
      (parentOf above level).map Section.withoutContent :=
  List.find?_map

/-- The rows in front of a row count by their ids, paths and levels only. -/
theorem rowOf_withoutContent (o : SectionOptions) (above : List Section) (h : Heading) (id : String)
    (later : List Heading) (line : Int) :
    d.rowOf { o with includeContent := false } (above.map Section.withoutContent) h id later line =
      (d.rowOf o above h id later line).withoutContent := by
  unfold rowOf
  rw [parentOf_withoutContent]
  cases parentOf above h.level with
  | none => rfl
  | some s => rfl

theorem rows_withoutContent (o : SectionOptions) (above : List Section) (hs : List Heading) :
    d.rows { o with includeContent := false } (above.map Section.withoutContent) hs =
      (d.rows o above hs).map (List.map Section.withoutContent) := by
  induction hs generalizing above with
  | nil => rfl
  | cons h later ih =>
      cases hid : h.id with
      | none =>
          rw [rows_cons_of_none d _ _ hid, rows_cons_of_none d _ _ hid]
          exact ih above
      | some id =>
          -- Where a row ends is decided by the headings and not by the contents.
          have hend : d.lastLineOf { o with includeContent := false } h later =
              d.lastLineOf o h later := rfl
          rw [rows_cons_eq d _ _ hid, rows_cons_eq d _ _ hid, hend]
          cases d.lastLineOf o h later with
          | error e => rfl
          | ok line =>
              have hrest := ih (d.rowOf o above h id later line :: above)
              rw [List.map_cons] at hrest
              simp only [Except.bind, rowOf_withoutContent, hrest]
              cases d.rows o (d.rowOf o above h id later line :: above) later with
              | error e => rfl
              | ok rows => rfl

/-- Leaving the contents out of the rows changes nothing else. -/
theorem sections_withoutContent (o : SectionOptions) :
    d.sections { o with includeContent := false } =
      (d.sections o).map (List.map Section.withoutContent) := by
  have hfirst : d.frontmatterRow { o with includeContent := false } =
      (d.frontmatterRow o).map Section.withoutContent := by
    unfold frontmatterRow
    split
    · rfl
    · rfl
  have hheadings : d.headings { o with includeContent := false } = d.headings o :=
    d.headings_congr rfl
  unfold sections
  rw [hfirst, hheadings]
  -- A fault of the levels comes before any row, so both fail with it.
  cases d.levelFault? with
  | some fault => rfl
  | none =>
      simp only [rows_withoutContent]
      cases d.rows o (d.frontmatterRow o) (d.headings o) with
      | error e => rfl
      | ok rows => exact congrArg Except.ok List.map_append.symm

end Contents

/-! ## Levels left out -/

section Levels

variable (d : Document) {o : SectionOptions}

/-- The row of a heading shows the same, whatever ids are given in front of it and behind it. -/
theorem shown_headingRow_congr (hmode : o.mode ≠ .smart) (above above' : List (Int × String))
    (h : Heading) (id id' : String) {later later' : List Heading}
    (hsame : later.map (fun x => (x.level, x.node)) = later'.map fun x => (x.level, x.node)) :
    (d.headingRow o above { h with id := some id } id later).shown =
      (d.headingRow o.ofAllLevels above' { h with id := some id' } id' later').shown := by
  have hall : o.ofAllLevels.mode ≠ .smart := hmode
  unfold Section.shown headingRow
  simp only [contentOf_of_ne_smart d hmode, contentOf_of_ne_smart d hall, endOf_eq_getD, hsame]
  rfl

/-- Among the rows of all headings, those of the wanted levels show what the rows show that are made
of the headings of these levels only. -/
theorem shown_headingRows (hmode : o.mode ≠ .smart) {hs : List Heading}
    (hnone : ∀ h ∈ hs, h.id = none) (hall : ∀ h ∈ hs, o.ofAllLevels.includes h.level = true)
    (r r' : SlugRegistry) (above above' : List (Int × String)) :
    (d.headingRows o above (Heading.assignIds o r hs)).map Section.shown =
      ((d.headingRows o.ofAllLevels above' (Heading.assignIds o.ofAllLevels r' hs)).filter
        fun s => o.includes s.level).map Section.shown := by
  induction hs generalizing r r' above above' with
  | nil => rfl
  | cons h hs ih =>
      obtain ⟨hid, hnone⟩ := List.forall_mem_cons.mp hnone
      obtain ⟨hin, hall⟩ := List.forall_mem_cons.mp hall
      rw [Heading.assignIds, Heading.assignIds, if_pos hin]
      simp only
      rw [headingRows_cons_of_id d o.ofAllLevels above' rfl]
      cases hwanted : o.includes h.level with
      | true =>
          rw [if_pos rfl, headingRows_cons_of_id d o above rfl,
            List.filter_cons_of_pos (by exact hwanted), List.map_cons, List.map_cons,
            ih hnone hall _ (r'.unique h.title).2 _ ((h.level, (r'.unique h.title).1) :: above')]
          refine congrArg (· :: _) (shown_headingRow_congr d hmode _ _ h _ _ ?_)
          rw [Heading.map_assignIds _ fun _ _ => rfl, Heading.map_assignIds _ fun _ _ => rfl]
      | false =>
          -- the heading has a row on one side only, and that row is filtered out
          rw [if_neg Bool.false_ne_true, headingRows_cons_of_none d o above hid,
            List.filter_cons_of_neg (by rw [Bool.not_eq_true]; exact hwanted)]
          exact ih hnone hall _ _ _ _

end Levels

/-- The row of the frontmatter is no row of a heading. -/
theorem ofHeadings_frontmatterRow_append (d : Document) (o : SectionOptions) {rows : List Section}
    (hrows : ∀ s ∈ rows, 0 < s.level) :
    Section.ofHeadings (d.frontmatterRow o ++ rows) = rows := by
  unfold Section.ofHeadings
  rw [List.filter_append, List.filter_eq_nil_iff.mpr, List.nil_append, List.filter_eq_self.mpr]
  · intro s hs
    exact decide_eq_true (hrows s hs)
  · intro s hs
    rw [(of_mem_frontmatterRow hs).2.2.2.1]
    decide

theorem WellHeaded.level_pos_of_mem {d : Document} (hd : d.WellHeaded) {o : SectionOptions} :
    ∀ s ∈ d.headingRows o [] (d.headings o), 0 < s.level := by
  intro s hs
  obtain ⟨between, h, id, later, hsplit, -, rfl⟩ := exists_of_mem_headingRows hs
  have hlevel := (hd.of_mem_headings (o := o) (h := h) (by rw [hsplit]; simp)).2.2.1
  change 0 < h.level
  omega

/-- **Rows of some levels.** In a well-headed document, and but for the smart mode, the rows of the
headings of some levels show what these headings show among the rows of all levels. Without
contents, the rows are the same in everything else. -/
theorem WellHeaded.rows_of_levels {d : Document} (hd : d.WellHeaded) (o : SectionOptions) :
    ∃ rows all, d.sections o = .ok rows ∧ d.sections o.ofAllLevels = .ok all ∧
      (o.mode ≠ .smart →
        (Section.ofHeadings rows).map Section.shown =
          ((Section.ofHeadings all).filter fun s => o.includes s.level).map Section.shown) ∧
      d.sections { o with includeContent := false } = .ok (rows.map Section.withoutContent) := by
  have hrows := sections_eq hd o
  refine ⟨_, _, hrows, sections_eq hd o.ofAllLevels, fun hmode => ?_, ?_⟩
  · rw [ofHeadings_frontmatterRow_append d o hd.level_pos_of_mem,
      ofHeadings_frontmatterRow_append d _ hd.level_pos_of_mem]
    refine shown_headingRows d hmode d.id_eq_none_of_mem_listOf (fun h hmem => ?_) _ _ _ _
    obtain ⟨hblock, hheading, hlevel, -⟩ := Heading.mem_listOf hmem
    rw [hlevel]
    exact hd.includes rfl rfl h.node hblock hheading
  · rw [sections_withoutContent, hrows]
    rfl

theorem rows_of_levels_sample :
    sample.WellHeaded ∧
      ∃ rows all, sample.sections { maxLevel := 2, mode := .full } = .ok rows ∧
        sample.sections { mode := .full } = .ok all ∧
        (Section.ofHeadings rows).map (fun s => (s.title, s.level, s.content, s.endLine)) =
          [("A", 1, "text\n\n### B\n\n", some 8), ("A", 1, "", some 9)] ∧
        (Section.ofHeadings rows).map Section.shown =
          ((Section.ofHeadings all).filter fun s =>
            ({ maxLevel := 2 } : SectionOptions).includes s.level).map Section.shown := by
  obtain ⟨rows, all, hrows, hall, hshown, -⟩ :=
    wellHeaded_sample.rows_of_levels { maxLevel := 2, mode := .full }
  have hfacts : ∀ rows ∈ (sample.sections { maxLevel := 2, mode := .full }).toOption,
      (Section.ofHeadings rows).map (fun s => (s.title, s.level, s.content, s.endLine)) =
        [("A", 1, "text\n\n### B\n\n", some 8), ("A", 1, "", some 9)] := by
    decide +kernel
  exact ⟨wellHeaded_sample, rows, all, hrows, hall, hfacts rows (by rw [hrows]; rfl),
    hshown (by decide)⟩

end Document

end MarkdownSections
