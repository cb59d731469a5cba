import MarkdownSections.Document.Parse
import MarkdownSections.Proofs.Section.Addresses
import MarkdownSections.Proofs.Section.Levels

/-!
# The way up from a section

A breadcrumb is found by looking a section up by its id, then its parent by the parent id, and so on
up to a section without one. No bound is needed for this to end: a parent stands in front of its
sections, and an id belongs to one row only, so every look-up leads further to the front
(`climbs_around`). The rows that are met are those around the section (`Section.around`), up to the
first one whose id is empty: there the empty text stands for a parent and for none. So a breadcrumb
shows the titles of all rows around a section exactly if none of them has the empty id, or if what
is left out shows nothing anyway (`breadcrumb_iff`).
-/

set_option autoImplicit false

namespace MarkdownSections

open Attempt (exists_of_isSome eq_ok_of_toOption)

/-- The rows of headings around a row of level `level`, innermost first: the nearest one in front of
it of a smaller level, the nearest one in front of that of a still smaller level, and so on; `above`
are the rows in front, latest first. -/
def Section.around : List Section → Int → List Section
  | [], _ => []
  | s :: above, level =>
    if 0 < s.level ∧ s.level < level then s :: around above s.level else around above level

/-- The titles of rows that are given innermost first, from the outermost row on. -/
def Section.titlePath (separator : String) (way : List Section) : String :=
  separator.intercalate (way.map (·.title)).reverse

/-- Whether the id of a row can stand for it as a parent. -/
def Section.isNamed (s : Section) : Bool :=
  s.id != ""

/-- The way up from an id ends, and meets rows with these titles, innermost first: a row is looked
up by the id, and its parent id leads on unless it is empty. -/
inductive Climbs (rows : List Section) : String → List String → Prop
  | missing {id : String} (hfind : rows.find? (·.id == id) = none) : Climbs rows id []
  | outermost {id : String} {row : Section} (hfind : rows.find? (·.id == id) = some row)
      (hparent : row.parentId = "") : Climbs rows id [row.title]
  | inner {id : String} {row : Section} {titles : List String}
      (hfind : rows.find? (·.id == id) = some row) (hparent : row.parentId ≠ "")
      (hrest : Climbs rows row.parentId titles) : Climbs rows id (row.title :: titles)

namespace Climbs

variable {rows : List Section} {id : String} {titles : List String}

/-- A way that ends is found with any bound that is not below its length. -/
theorem titlesUpFrom_eq (h : Climbs rows id titles) {fuel : Nat} (hfuel : titles.length ≤ fuel) :
    Document.titlesUpFrom rows fuel id = titles := by
  -- along the way up; each step of it uses one unit of fuel and gives one title
  induction h generalizing fuel with
  | missing hfind =>
      cases fuel with
      | zero => rfl
      | succ fuel => rw [Document.titlesUpFrom, hfind]
  | outermost hfind hparent =>
      cases fuel with
      | zero => cases hfuel
      | succ fuel =>
          rw [Document.titlesUpFrom, hfind]
          simp [hparent]
  | inner hfind hparent _ ih =>
      cases fuel with
      | zero => cases hfuel
      | succ fuel =>
          rw [Document.titlesUpFrom, hfind]
          simp only [String.isEmpty_iff, if_neg hparent]
          rw [ih (Nat.le_of_succ_le_succ hfuel)]

/-- Contents have no part in the way up. -/
theorem withoutContent (h : Climbs rows id titles) :
    Climbs (rows.map Section.withoutContent) id titles := by
  -- the ids by which rows are found are those of the bare rows
  have hfind : ∀ id s, rows.find? (·.id == id) = some s →
      (rows.map Section.withoutContent).find? (·.id == id) = some s.withoutContent := by
    intro id s hs
    rw [List.find?_map]
    exact congrArg (Option.map Section.withoutContent) hs
  induction h with
  | missing h =>
      apply missing
      rw [List.find?_map]
      exact congrArg (Option.map Section.withoutContent) h
  | outermost h hparent =>
      apply outermost (hfind _ _ h)
      exact hparent
  | inner h hparent _ ih =>
      apply inner (hfind _ _ h)
      · exact hparent
      · exact ih

end Climbs

/-! ## Parents stand in front -/

/-- Every row of a list has the id of its parent as its parent id, and the empty text if there is
none. -/
def Parented (rows : List Section) : Prop :=
  ∀ front r behind, rows = front ++ r :: behind →
    r.parentId = ((parentOf front.reverse r.level).map (·.id)).getD ""

/-- Around a row stands nothing, or its parent and what is around that. -/
theorem Section.around_cases (above : List Section) (level : Int) :
    (parentOf above level = none ∧ around above level = []) ∨
      ∃ between s outer, above = between ++ s :: outer ∧ parentOf above level = some s ∧
        around above level = s :: around outer s.level := by
  induction above with
  | nil => exact Or.inl ⟨rfl, rfl⟩
  | cons s above ih =>
      by_cases hparent : 0 < s.level ∧ s.level < level
      · refine Or.inr ⟨[], s, above, rfl, List.find?_cons_of_pos (by simpa using hparent), ?_⟩
        rw [around, if_pos hparent]
      · have hskip : parentOf (s :: above) level = parentOf above level :=
          List.find?_cons_of_neg (by simpa using hparent)
        rw [around, if_neg hparent, hskip]
        rcases ih with hnone | ⟨between, x, outer, rfl, hx⟩
        · exact Or.inl hnone
        · exact Or.inr ⟨s :: between, x, outer, rfl, hx⟩

theorem Section.around_sublist (above : List Section) (level : Int) :
    (around above level).Sublist above := by
  induction above generalizing level with
  | nil => exact List.Sublist.refl []
  | cons s above ih =>
      unfold around
      split
      · exact (ih s.level).cons_cons s
      · exact (ih level).cons s

/-- Among rows with different ids, a row is found by its id. -/
theorem find?_id_eq {rows : List Section} (hids : (rows.map (·.id)).Nodup) {r : Section}
    (hr : r ∈ rows) : rows.find? (·.id == r.id) = some r := by
  rw [← List.head?_filter, Document.filter_id_eq hids hr]
  rfl

/-- The way up from a row ends. It meets the rows around it, up to the first one with an empty
id. -/
theorem climbs_around {rows : List Section} (hids : (rows.map (·.id)).Nodup)
    (hparents : Parented rows) {front behind : List Section} {r : Section}
    (hsplit : rows = front ++ r :: behind) :
    Climbs rows r.id
      ((r :: (Section.around front.reverse r.level).takeWhile Section.isNamed).map (·.title)) := by
  -- the rows in front of the parent are fewer
  induction hn : front.length using Nat.strong_induction_on generalizing front r behind with
  | _ n ih =>
      have hfind := find?_id_eq hids (r := r) (by rw [hsplit]; simp)
      have hparent := hparents front r behind hsplit
      rcases Section.around_cases front.reverse r.level with
        ⟨hnone, haround⟩ | ⟨between, s, outer, habove, hsome, haround⟩
      · rw [hnone] at hparent
        rw [haround]
        exact Climbs.outermost hfind hparent
      · rw [hsome] at hparent
        rw [haround]
        have hfront : front = outer.reverse ++ s :: between.reverse := by
          rw [← List.reverse_reverse front, habove]
          simp
        by_cases hnamed : s.id = ""
        · -- the parent id is the one that stands for no parent
          rw [List.takeWhile_cons_of_neg (by simp [Section.isNamed, hnamed])]
          exact Climbs.outermost hfind (hparent.trans hnamed)
        · rw [List.takeWhile_cons_of_pos (by simpa [Section.isNamed] using hnamed), List.map_cons]
          refine Climbs.inner hfind (fun h => hnamed (hparent.symm.trans h)) ?_
          have hlength : outer.reverse.length < n := by
            rw [← hn, hfront]
            simp
          have hsplit' : rows = outer.reverse ++ s :: (between.reverse ++ r :: behind) := by
            rw [hsplit, hfront, List.append_assoc]
            rfl
          have hrest := ih _ hlength hsplit' rfl
          rw [List.reverse_reverse] at hrest
          rw [hparent]
          exact hrest

/-! ## Titles left out -/

/-- Pieces, each with a separator behind it, show nothing exactly if neither they nor the separator
do. -/
theorem intercalate_append_eq_empty_iff {separator : String} {pieces : List String}
    (hpieces : pieces ≠ []) :
    separator.intercalate pieces ++ separator = "" ↔
      separator = "" ∧ ∀ x ∈ pieces, x = "" := by
  induction pieces with
  | nil => exact absurd rfl hpieces
  | cons x pieces ih =>
      by_cases hnil : pieces = []
      · subst hnil
        simp [and_comm]
      · rw [String.intercalate_cons_of_ne_nil hnil, String.append_assoc, String.append_eq_empty_iff,
          ih hnil]
        simp
        tauto

/-- Leaving out the titles of the outermost rows shows only if these have titles or are set apart. -/
theorem Section.titlePath_eq_append_iff (separator : String) {way outer : List Section}
    (hway : way ≠ []) :
    titlePath separator way = titlePath separator (way ++ outer) ↔
      outer = [] ∨ (separator = "" ∧ ∀ s ∈ outer, s.title = "") := by
  -- the outer titles stand in front, so the texts agree only if what is in front of the inner ones
  -- is empty
  by_cases houter : outer = []
  · rw [houter, List.append_nil]
    exact iff_of_true rfl (Or.inl rfl)
  · have hjoin : titlePath separator (way ++ outer) =
        titlePath separator outer ++ separator ++ titlePath separator way := by
      unfold titlePath
      rw [List.map_append, List.reverse_append,
        String.intercalate_append_of_ne_nil (by simpa using houter) (by simpa using hway)]
    have hself : titlePath separator way = titlePath separator outer ++ separator ++
        titlePath separator way ↔ titlePath separator outer ++ separator = "" := by
      rw [← String.toList_inj, String.toList_append, List.self_eq_append_left,
        String.toList_eq_nil_iff]
    rw [hjoin, hself, or_iff_right houter]
    unfold titlePath
    rw [intercalate_append_eq_empty_iff (by simpa using houter)]
    simp

/-! ## Rows of a document -/

namespace Document

variable {d : Document}

/-- The parent of a row is found among the rows in front of it. -/
theorem parentId_of_rows {o : SectionOptions} {above : List Section} {hs : List Heading}
    {rows : List Section} (hrows : d.rows o above hs = .ok rows) {front behind : List Section}
    {r : Section} (hsplit : rows = front ++ r :: behind) :
    r.parentId = ((parentOf (front.reverse ++ above) r.level).map (·.id)).getD "" := by
  induction hs generalizing above rows front with
  | nil =>
      obtain rfl := Except.ok.inj hrows
      simp at hsplit
  | cons h later ih =>
      cases hid : h.id with
      | none =>
          rw [rows_cons_of_none d o above hid] at hrows
          exact ih hrows hsplit
      | some id =>
          obtain ⟨line, rest, rfl, hrest⟩ := exists_of_rows_cons hid hrows
          -- the rows in front of the given one are themselves in front of each later one
          cases front with
          | nil =>
              obtain ⟨rfl, -⟩ := List.cons.inj hsplit
              rfl
          | cons s front =>
              obtain ⟨rfl, hbehind⟩ := List.cons.inj hsplit
              rw [List.reverse_cons, List.append_assoc]
              exact ih hrest hbehind

/-- The rows are made one for each heading with an id, in order. -/
theorem isRowOf_of_rows {o : SectionOptions} {above : List Section} {hs : List Heading}
    {rows : List Section} (hrows : d.rows o above hs = .ok rows)
    (hids : ∀ h ∈ hs, ∃ id, h.id = some id)
    (hkeep : ∀ h ∈ hs, h.level = h.node.headingLevel ∧ h.title = h.node.plainText) :
    List.Forall₂ d.IsRowOf (hs.map (·.node)) rows := by
  induction hs generalizing above rows with
  | nil =>
      obtain rfl := Except.ok.inj hrows
      exact List.Forall₂.nil
  | cons h later ih =>
      obtain ⟨⟨id, hid⟩, hids⟩ := List.forall_mem_cons.mp hids
      obtain ⟨hfacts, hkeep⟩ := List.forall_mem_cons.mp hkeep
      obtain ⟨line, rest, rfl, hrest⟩ := exists_of_rows_cons hid hrows
      exact List.Forall₂.cons ⟨hfacts.1, hfacts.2, rfl⟩ (ih hrest hids hkeep)

/-- Every heading of the six levels has a row. -/
theorem isRowOf_ofHeadings {rows : List Section}
    (htagged : ∀ n ∈ d.blocks, n.isHeading = true → n.tag ∈ Node.headingTags)
    (hrows : d.sections {} = .ok rows) :
    List.Forall₂ d.IsRowOf d.headingNodes (Section.ofHeadings rows) := by
  obtain ⟨made, rfl, hmade⟩ := exists_of_sections hrows
  have hlevels : ∀ h ∈ d.headings {}, 1 ≤ h.level ∧ h.level ≤ 6 := by
    intro h hmem
    obtain ⟨hblock, hheading, hlevel, -⟩ := mem_headings hmem
    rw [hlevel]
    exact Node.headingLevel_of_mem_headingTags hheading (htagged _ hblock hheading)
  have hids : ∀ h ∈ d.headings {}, ∃ id, h.id = some id := fun h hmem =>
    exists_id_of_includes hmem (by simp [SectionOptions.includes, hlevels h hmem])
  have hpos := level_pos_of_marks (map_mark_of_rows hmade) fun h hmem => (hlevels h hmem).1
  have hall := isRowOf_of_rows hmade hids fun h hmem => (mem_headings hmem).2.2
  rw [map_node_headings] at hall
  rw [ofHeadings_frontmatterRow_append d {} hpos]
  exact hall

theorem parented_of_sections {o : SectionOptions} {rows : List Section}
    (hrows : d.sections o = .ok rows) : Parented rows := by
  obtain ⟨made, rfl, hmade⟩ := exists_of_sections hrows
  have hfirst : d.frontmatterRow o = [] ∨ ∃ s, d.frontmatterRow o = [s] ∧ s.parentId = "" := by
    unfold frontmatterRow
    split
    · exact Or.inl rfl
    · exact Or.inr ⟨_, rfl, rfl⟩
  -- a frontmatter row stands above all rows of headings, but it has no parent itself
  intro front r behind hsplit
  rcases hfirst with hnil | ⟨s, hone, hparent⟩
  · rw [hnil] at hmade hsplit
    have h := parentId_of_rows hmade hsplit
    rwa [List.append_nil] at h
  · rw [hone] at hmade hsplit
    cases front with
    | nil =>
        obtain ⟨rfl, -⟩ := List.cons.inj hsplit
        exact hparent
    | cons x front =>
        obtain ⟨rfl, hmadeSplit⟩ := List.cons.inj hsplit
        rw [List.reverse_cons]
        exact parentId_of_rows hmade hmadeSplit

/-- A breadcrumb is made of the titles on the way up. -/
theorem breadcrumb_eq {rows : List Section} (hrows : d.sections {} = .ok rows) {id : String}
    {titles : List String} (hclimbs : Climbs rows id titles) (hlength : titles.length ≤ rows.length)
    (separator : String) :
    d.breadcrumb id separator = .ok (separator.intercalate titles.reverse) := by
  -- breadcrumbs are looked up among rows without contents
  have hbare : d.sections { includeContent := false } =
      .ok (rows.map Section.withoutContent) := by
    rw [show ({ includeContent := false } : SectionOptions) =
      { ({} : SectionOptions) with includeContent := false } from rfl, sections_withoutContent,
      hrows]
    rfl
  unfold breadcrumb
  rw [hbare]
  have hfuel : titles.length ≤ (rows.map Section.withoutContent).length := by
    rwa [List.length_map]
  exact congrArg (fun ts => Except.ok (separator.intercalate ts.reverse))
    (hclimbs.withoutContent.titlesUpFrom_eq hfuel)

/-- **Breadcrumbs.** If the headings of a document are of the six levels, each of them has a row. The
way up from a row ends, and its breadcrumb are the titles of the rows around it, up to the first one
with the empty id, and its own. These are the titles of all rows around it exactly if none of them
has the empty id, or if the titles that are left out and the separator show nothing. -/
theorem breadcrumb_iff {rows : List Section}
    (htagged : ∀ n ∈ d.blocks, n.isHeading = true → n.tag ∈ Node.headingTags)
    (hrows : d.sections {} = .ok rows) (separator : String) :
    List.Forall₂ d.IsRowOf d.headingNodes (Section.ofHeadings rows) ∧
      ∀ front r behind around, rows = front ++ r :: behind →
        Section.around front.reverse r.level = around →
        Climbs rows r.id ((r :: around.takeWhile Section.isNamed).map (·.title)) ∧
        d.breadcrumb r.id separator =
          .ok (Section.titlePath separator (r :: around.takeWhile Section.isNamed)) ∧
        (d.breadcrumb r.id separator = .ok (Section.titlePath separator (r :: around)) ↔
          (∀ s ∈ around, s.id ≠ "") ∨
            (separator = "" ∧ ∀ s ∈ around.dropWhile Section.isNamed, s.title = "")) := by
  refine ⟨isRowOf_ofHeadings htagged hrows, fun front r behind around hsplit haround => ?_⟩
  have hclimbs := climbs_around (nodup_ids_of_sections hrows) (parented_of_sections hrows) hsplit
  have hsub := Section.around_sublist front.reverse r.level
  rw [haround] at hclimbs hsub
  have hlength : ((r :: around.takeWhile Section.isNamed).map (·.title)).length ≤ rows.length := by
    have hle := ((List.takeWhile_sublist Section.isNamed).trans hsub).length_le
    rw [hsplit]
    simp at hle ⊢
    omega
  have heq : d.breadcrumb r.id separator =
      .ok (Section.titlePath separator (r :: around.takeWhile Section.isNamed)) :=
    breadcrumb_eq hrows hclimbs hlength separator
  refine ⟨hclimbs, heq, ?_⟩
  -- the rows from the first one with the empty id on are left out
  have hnamed : around.dropWhile Section.isNamed = [] ↔ ∀ s ∈ around, s.id ≠ "" := by
    simp [List.dropWhile_eq_nil_iff, Section.isNamed]
  have hway : (r :: around.takeWhile Section.isNamed) ++ around.dropWhile Section.isNamed =
      r :: around := by
    rw [List.cons_append, List.takeWhile_append_dropWhile]
  rw [heq, Except.ok.injEq, ← hnamed, ← Section.titlePath_eq_append_iff separator
    (List.cons_ne_nil r (around.takeWhile Section.isNamed)), hway]

theorem breadcrumb_iff_sample :
    (∀ n ∈ sample.blocks, n.isHeading = true → n.tag ∈ Node.headingTags) ∧
      ∃ rows front r behind, sample.sections {} = .ok rows ∧ rows = front ++ r :: behind ∧
        r.id = "b" ∧ sample.breadcrumb "b" " > " = .ok "A > B" := by
  obtain ⟨rows, hrows⟩ := exists_of_isSome (x := sample.sections {}) (by decide +kernel)
  have hfacts : ∀ rows ∈ (sample.sections {}).toOption,
      rows = rows.take 2 ++ rows[2]! :: rows.drop 3 ∧ rows[2]!.id = "b" ∧
        (∀ s ∈ Section.around (rows.take 2).reverse rows[2]!.level, s.id ≠ "") ∧
        Section.titlePath " > "
          (rows[2]! :: Section.around (rows.take 2).reverse rows[2]!.level) = "A > B" := by
    decide +kernel
  obtain ⟨hsplit, hid, hnamed, htitles⟩ := hfacts rows (by rw [hrows]; rfl)
  have htagged := wellHeaded_sample.tagged
  obtain ⟨-, hall⟩ := breadcrumb_iff htagged hrows " > "
  obtain ⟨-, -, hiff⟩ := hall _ _ _ _ hsplit rfl
  have hcrumb := hiff.mpr (Or.inl hnamed)
  rw [hid, htitles] at hcrumb
  exact ⟨htagged, rows, _, _, _, hrows, hsplit, hid, hcrumb⟩

/-- A heading whose title has no slug, and one below it. -/
def untitledText : String :=
  "# !\n\n## B\n"

/-- The parent of the second section has the empty id, so the breadcrumb does not show its title,
though the path of the section leads through it. -/
theorem not_breadcrumb_belowUntitled :
    ∃ d rows, ofText untitledText = .ok d ∧
      (∀ n ∈ d.blocks, n.isHeading = true → n.tag ∈ Node.headingTags) ∧
      d.sections {} = .ok rows ∧
      rows.map (fun s => (s.id, s.path, s.level, s.title)) =
        [("", "", 1, "!"), ("b", "/b", 2, "B")] ∧
      d.breadcrumb "b" " > " = .ok "B" ∧
      ¬∀ front r behind, rows = front ++ r :: behind →
        d.breadcrumb r.id " > " =
          .ok (Section.titlePath " > " (r :: Section.around front.reverse r.level)) := by
  obtain ⟨d, hread⟩ := exists_of_isSome (x := ofText untitledText) (by decide +kernel)
  have hfacts : ∀ d ∈ (ofText untitledText).toOption,
      (∀ n ∈ d.blocks, n.isHeading = true → n.tag ∈ Node.headingTags) ∧
      (d.sections {}).toOption.isSome = true ∧ (d.breadcrumb "b" " > ").toOption = some "B" := by
    decide +kernel
  have hrowFacts : ∀ d ∈ (ofText untitledText).toOption, ∀ rows ∈ (d.sections {}).toOption,
      rows.map (fun s => (s.id, s.path, s.level, s.title)) =
        [("", "", 1, "!"), ("b", "/b", 2, "B")] ∧
      rows = rows.take 1 ++ rows[1]! :: [] ∧ rows[1]!.id = "b" ∧
      Section.titlePath " > "
        (rows[1]! :: Section.around (rows.take 1).reverse rows[1]!.level) = "! > B" := by
    decide +kernel
  obtain ⟨htagged, hsome, hcrumb⟩ := hfacts d (by rw [hread]; rfl)
  obtain ⟨rows, hsections⟩ := exists_of_isSome hsome
  obtain ⟨hmap, hsplit, hid, htitles⟩ := hrowFacts d (by rw [hread]; rfl) rows
    (by rw [hsections]; rfl)
  have hfound := eq_ok_of_toOption hcrumb
  refine ⟨d, rows, hread, htagged, hsections, hmap, hfound, fun hall => ?_⟩
  have hwhole := hall _ _ _ hsplit
  rw [hid, htitles, hfound] at hwhole
  exact absurd (Except.ok.inj hwhole) (by decide)

end Document

end MarkdownSections
