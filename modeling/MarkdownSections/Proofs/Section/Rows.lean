import MarkdownSections.Proofs.Attempt
import MarkdownSections.Proofs.Section.Ancestors
import MarkdownSections.Proofs.Slug.Characters
import MarkdownSections.Section.Extract

/-!
# The rows of a document

A document is well headed when its top-level headings are tagged `h1` to `h6` and cover lines. Its
levels can then be read, and no section ends at a heading without lines. The rows of such a
document are the frontmatter row and one row for each heading with an id, given here from the
headings in front of it and behind it (`headingRow`, `sections_eq`); the rows made before do not
show. A heading belongs to the nearest one in front of it of a smaller level (`Outline.enclosing`).
In any document, rows that could be made were made one by one (`exists_of_rows_cons`).

The ids that the headings get are all different and not taken before (`nodup_ids_assignIds`).
-/

set_option autoImplicit false

namespace MarkdownSections

open Attempt (exists_of_bind_eq_ok exists_of_map_eq_ok)
open Outline (enclosing)
open SlugRegistry (freeId)

/-! ## Levels -/

/-- The tags of the headings of levels one to six. -/
def Node.headingTags : List String :=
  ["h1", "h2", "h3", "h4", "h5", "h6"]

/-- The top-level headings of a document are of levels one to six and cover lines. -/
structure Document.WellHeaded (d : Document) : Prop where
  tagged : ∀ n ∈ d.blocks, n.isHeading = true → n.tag ∈ Node.headingTags
  placed : ∀ n ∈ d.blocks, n.isHeading = true → n.lines.isSome = true

namespace Node

theorem readLevel_of_tag {n : Node} {digit : Char} {level : Int} (hn : n.isHeading = true)
    (htag : n.tag.toList.tail = [digit]) (hdigit : Text.isDigitCharacter digit = true)
    (hlevel : Text.readInt [digit] = .ok level) : n.readLevel = .ok level := by
  unfold readLevel
  simp only [htag, hn, List.all_cons, List.all_nil, hdigit, List.isEmpty_cons]
  exact hlevel

/-- The level of a heading with a heading tag can be read, and is one of the six. -/
theorem readLevel_of_mem_headingTags {n : Node} (hn : n.isHeading = true)
    (htag : n.tag ∈ headingTags) : ∃ level, n.readLevel = .ok level ∧ 1 ≤ level ∧ level ≤ 6 := by
  simp only [headingTags, List.mem_cons, List.not_mem_nil, or_false] at htag
  rcases htag with h | h | h | h | h | h
  · exact ⟨1, readLevel_of_tag hn (by rw [h]; rfl) (by decide) rfl, by decide, by decide⟩
  · exact ⟨2, readLevel_of_tag hn (by rw [h]; rfl) (by decide) rfl, by decide, by decide⟩
  · exact ⟨3, readLevel_of_tag hn (by rw [h]; rfl) (by decide) rfl, by decide, by decide⟩
  · exact ⟨4, readLevel_of_tag hn (by rw [h]; rfl) (by decide) rfl, by decide, by decide⟩
  · exact ⟨5, readLevel_of_tag hn (by rw [h]; rfl) (by decide) rfl, by decide, by decide⟩
  · exact ⟨6, readLevel_of_tag hn (by rw [h]; rfl) (by decide) rfl, by decide, by decide⟩

theorem headingLevel_of_mem_headingTags {n : Node} (hn : n.isHeading = true)
    (htag : n.tag ∈ headingTags) : 1 ≤ n.headingLevel ∧ n.headingLevel ≤ 6 := by
  obtain ⟨level, hread, hlow, hhigh⟩ := readLevel_of_mem_headingTags hn htag
  unfold headingLevel
  rw [hread]
  exact ⟨hlow, hhigh⟩

theorem levelFault?_of_not_isHeading {n : Node} (hn : n.isHeading = false) :
    n.levelFault? = none := by
  simp [levelFault?, readLevel, hn]

end Node

namespace Document

theorem WellHeaded.level {d : Document} (hd : d.WellHeaded) {n : Node} (hmem : n ∈ d.blocks)
    (hn : n.isHeading = true) : 1 ≤ n.headingLevel ∧ n.headingLevel ≤ 6 :=
  Node.headingLevel_of_mem_headingTags hn (hd.tagged n hmem hn)

/-- The levels of a well-headed document can be read. -/
theorem WellHeaded.levelFault?_eq_none {d : Document} (hd : d.WellHeaded) :
    d.levelFault? = none := by
  unfold levelFault?
  rw [List.findSome?_eq_none_iff]
  intro n hmem
  cases hn : n.isHeading with
  | false => exact Node.levelFault?_of_not_isHeading hn
  | true =>
      obtain ⟨level, hread, -, -⟩ := Node.readLevel_of_mem_headingTags hn (hd.tagged n hmem hn)
      unfold Node.levelFault?
      rw [hread]

end Document

/-! ## Headings and their ids -/

namespace Heading

theorem listOf_cons_of_heading {n : Node} (hn : n.isHeading = true) (ns : List Node) :
    listOf (n :: ns) =
      { node := n, level := n.headingLevel, title := n.plainText, following := ns } ::
        listOf ns := by
  rw [listOf, if_pos hn]

theorem listOf_cons_of_not_heading {n : Node} (hn : n.isHeading = false) (ns : List Node) :
    listOf (n :: ns) = listOf ns := by
  rw [listOf, if_neg (by simp [hn])]

theorem map_node_listOf (ns : List Node) :
    (listOf ns).map (·.node) = ns.filter Node.isHeading := by
  induction ns with
  | nil => rfl
  | cons n ns ih =>
      cases hn : n.isHeading with
      | false =>
          rw [listOf_cons_of_not_heading hn, List.filter_cons_of_neg (by simp [hn]), ih]
      | true =>
          rw [listOf_cons_of_heading hn, List.filter_cons_of_pos hn, List.map_cons, ih]

/-- The headings of a list of blocks keep the level and the title of their blocks, and have no id
yet. -/
theorem mem_listOf {ns : List Node} {h : Heading} (hmem : h ∈ listOf ns) :
    h.node ∈ ns ∧ h.node.isHeading = true ∧ h.level = h.node.headingLevel ∧
      h.title = h.node.plainText ∧ h.id = none := by
  induction ns with
  | nil => cases hmem
  | cons n ns ih =>
      cases hn : n.isHeading with
      | false =>
          rw [listOf_cons_of_not_heading hn] at hmem
          obtain ⟨hnode, hrest⟩ := ih hmem
          exact ⟨List.mem_cons_of_mem n hnode, hrest⟩
      | true =>
          rw [listOf_cons_of_heading hn] at hmem
          rcases List.mem_cons.mp hmem with rfl | hmem
          · exact ⟨List.mem_cons_self, hn, rfl, rfl, rfl⟩
          · obtain ⟨hnode, hrest⟩ := ih hmem
            exact ⟨List.mem_cons_of_mem n hnode, hrest⟩

/-- Giving ids changes nothing else. -/
theorem map_assignIds {β : Type} (f : Heading → β) (hf : ∀ h id, f { h with id := id } = f h)
    (o : SectionOptions) (r : SlugRegistry) (hs : List Heading) :
    (assignIds o r hs).map f = hs.map f := by
  induction hs generalizing r with
  | nil => rfl
  | cons h hs ih =>
      unfold assignIds
      split
      · rw [List.map_cons, List.map_cons, ih]
        exact congrArg (· :: hs.map f) (hf h _)
      · rw [List.map_cons, List.map_cons, ih]

/-- The level and the id of the headings that have one, in order. -/
def marks (hs : List Heading) : List (Int × String) :=
  hs.filterMap fun h => h.id.map fun id => (h.level, id)

theorem marks_cons_of_id {h : Heading} {id : String} (hid : h.id = some id) (hs : List Heading) :
    marks (h :: hs) = (h.level, id) :: marks hs := by
  simp [marks, hid]

theorem marks_cons_of_none {h : Heading} (hid : h.id = none) (hs : List Heading) :
    marks (h :: hs) = marks hs := by
  simp [marks, hid]

theorem marks_append (hs hs' : List Heading) : marks (hs ++ hs') = marks hs ++ marks hs' := by
  simp [marks]

theorem mem_marks {hs : List Heading} {h : Heading} {id : String} (hmem : h ∈ hs)
    (hid : h.id = some id) : (h.level, id) ∈ marks hs :=
  List.mem_filterMap.mpr ⟨h, hmem, by simp [hid]⟩

theorem exists_of_mem_marks {hs : List Heading} {m : Int × String} (hm : m ∈ marks hs) :
    ∃ h ∈ hs, h.id = some m.2 ∧ h.level = m.1 := by
  obtain ⟨h, hmem, hmark⟩ := List.mem_filterMap.mp hm
  obtain ⟨id, hid, rfl⟩ := Option.map_eq_some_iff.mp hmark
  exact ⟨h, hmem, hid, rfl⟩

/-- Every id that is given is the first free id of its title at that point, and given once. -/
theorem nodup_ids_assignIds (o : SectionOptions) {r : SlugRegistry} (hr : r.Sound)
    {hs : List Heading} (hs₀ : ∀ h ∈ hs, h.id = none) :
    ((marks (assignIds o r hs)).map (·.2)).Nodup ∧
      ∀ id ∈ (marks (assignIds o r hs)).map (·.2), id ∉ r.taken := by
  induction hs generalizing r with
  | nil => simp [assignIds, marks]
  | cons h hs ih =>
      have hrest : ∀ x ∈ hs, x.id = none := fun x hx => hs₀ x (List.mem_cons_of_mem h hx)
      unfold assignIds
      -- a heading whose level is not wanted gets no id and leaves the registry as it is
      split
      · obtain ⟨hid, htaken, hsound⟩ := SlugRegistry.unique_spec hr h.title
        obtain ⟨hnodup, hfresh⟩ := ih hsound hrest
        simp only
        rw [marks_cons_of_id rfl, List.map_cons]
        simp only [hid]
        have hfree := SlugRegistry.freeId_notMem r.taken (slugify h.title)
        constructor
        · -- the new id is taken for the headings behind
          refine List.nodup_cons.mpr ⟨fun hmem => ?_, hnodup⟩
          exact hfresh _ hmem (htaken ▸ List.mem_cons_self)
        · intro id hmem
          rcases List.mem_cons.mp hmem with rfl | hmem
          · exact hfree
          · exact fun h' => hfresh id hmem (htaken ▸ List.mem_cons_of_mem _ h')
      · rw [marks_cons_of_none (hs₀ h List.mem_cons_self)]
        exact ih hr hrest

/-- A heading whose level is in range gets an id, and no other does; the id is the first free one
of its title. -/
theorem id_of_mem_assignIds {o : SectionOptions} {r : SlugRegistry} (hr : r.Sound)
    {hs : List Heading} (hs₀ : ∀ h ∈ hs, h.id = none) {h : Heading}
    (hmem : h ∈ assignIds o r hs) :
    if o.includes h.level then ∃ taken, h.id = some (freeId taken (slugify h.title))
    else h.id = none := by
  -- An id depends on what the headings before took, so the registry is general in the induction.
  induction hs generalizing r with
  | nil => cases hmem
  | cons x hs ih =>
      have hrest : ∀ y ∈ hs, y.id = none := fun y hy => hs₀ y (List.mem_cons_of_mem x hy)
      unfold assignIds at hmem
      split at hmem
      · next hin =>
          obtain ⟨hid, -, hsound⟩ := SlugRegistry.unique_spec hr x.title
          rcases List.mem_cons.mp hmem with rfl | hmem
          · simp only [hin, if_true]
            exact ⟨r.taken, congrArg some hid⟩
          · exact ih hsound hrest hmem
      · next hout =>
          rcases List.mem_cons.mp hmem with rfl | hmem
          · rw [if_neg hout]
            exact hs₀ h List.mem_cons_self
          · exact ih hr hrest hmem

end Heading

theorem Document.sound_startRegistry (d : Document) : d.startRegistry.Sound := by
  unfold startRegistry
  split
  · exact SlugRegistry.sound_empty
  · exact SlugRegistry.sound_reserve SlugRegistry.sound_empty _

theorem Document.taken_startRegistry (d : Document) :
    d.startRegistry.taken =
      if d.rawFrontmatter.isEmpty then [] else [Section.frontmatterId] := by
  unfold startRegistry
  split
  · rfl
  · exact SlugRegistry.taken_reserve _ _

theorem Document.of_mem_frontmatterRow {d : Document} {o : SectionOptions} {s : Section}
    (hs : s ∈ d.frontmatterRow o) :
    d.rawFrontmatter.isEmpty = false ∧ s.id = Section.frontmatterId ∧
      s.path = Section.frontmatterId ∧ s.level = 0 ∧ s.startLine = some 1 ∧
      s.endLine = some d.lineOffset := by
  unfold frontmatterRow at hs
  split at hs
  · cases hs
  · next hraw =>
      rw [List.mem_singleton.mp hs]
      exact ⟨by simpa using hraw, rfl, rfl, rfl, rfl, rfl⟩

/-- There is at most one row of the frontmatter. -/
theorem Document.pairwise_frontmatterRow (d : Document) (o : SectionOptions)
    (R : Section → Section → Prop) : (d.frontmatterRow o).Pairwise R := by
  unfold frontmatterRow
  split
  · exact List.Pairwise.nil
  · exact List.pairwise_singleton R _

/-- The headings of a document are its top-level headings with their level and title. -/
theorem Document.mem_headings {d : Document} {o : SectionOptions} {h : Heading}
    (hmem : h ∈ d.headings o) :
    h.node ∈ d.blocks ∧ h.node.isHeading = true ∧ h.level = h.node.headingLevel ∧
      h.title = h.node.plainText := by
  -- giving ids keeps the node, the level and the title
  have hkeep := Heading.map_assignIds (fun x => (x.node, x.level, x.title)) (fun _ _ => rfl) o
    d.startRegistry (Heading.listOf d.blocks)
  have hsame : (h.node, h.level, h.title) ∈
      (Heading.listOf d.blocks).map fun x => (x.node, x.level, x.title) :=
    hkeep ▸ List.mem_map_of_mem hmem
  obtain ⟨x, hx, heq⟩ := List.mem_map.mp hsame
  simp only [Prod.mk.injEq] at heq
  obtain ⟨hnode, hlevel, htitle⟩ := heq
  obtain ⟨hblock, hheading, hx₁, hx₂, -⟩ := Heading.mem_listOf hx
  rw [← hnode, ← hlevel, ← htitle]
  exact ⟨hblock, hheading, hx₁, hx₂⟩

/-- The headings of a well-headed document are top-level headings of levels one to six that cover
lines. -/
theorem Document.WellHeaded.of_mem_headings {d : Document} (hd : d.WellHeaded)
    {o : SectionOptions} {h : Heading} (hmem : h ∈ d.headings o) :
    h.node ∈ d.blocks ∧ h.node.lines.isSome = true ∧ 1 ≤ h.level ∧ h.level ≤ 6 := by
  obtain ⟨hblock, hheading, hlevel, -⟩ := mem_headings hmem
  rw [hlevel]
  exact ⟨hblock, hd.placed _ hblock hheading, hd.level hblock hheading⟩

theorem Document.map_node_headings (d : Document) (o : SectionOptions) :
    (d.headings o).map (·.node) = d.blocks.filter Node.isHeading := by
  unfold headings
  rw [Heading.map_assignIds (·.node) (fun _ _ => rfl), Heading.map_node_listOf]

theorem Document.id_eq_none_of_mem_listOf (d : Document) :
    ∀ h ∈ Heading.listOf d.blocks, h.id = none := fun _ hmem =>
  (Heading.mem_listOf hmem).2.2.2.2

/-- The headings of a document whose levels are wanted have an id that was free for their title, and
the others have none. -/
theorem Document.id_of_mem_headings {d : Document} {o : SectionOptions} {h : Heading}
    (hmem : h ∈ d.headings o) :
    if o.includes h.level then ∃ taken, h.id = some (freeId taken (slugify h.title))
    else h.id = none :=
  Heading.id_of_mem_assignIds d.sound_startRegistry d.id_eq_none_of_mem_listOf hmem

/-- The ids of the headings of a document are different, free of slashes and not the id of a
frontmatter that is there. -/
theorem Document.ids_headings (d : Document) (o : SectionOptions) :
    ((Heading.marks (d.headings o)).map (·.2)).Nodup ∧
      (∀ m ∈ Heading.marks (d.headings o), '/' ∉ m.2.toList) ∧
      (d.rawFrontmatter.isEmpty = false →
        ∀ m ∈ Heading.marks (d.headings o), m.2 ≠ Section.frontmatterId) := by
  obtain ⟨hnodup, hfresh⟩ :=
    Heading.nodup_ids_assignIds o d.sound_startRegistry d.id_eq_none_of_mem_listOf
  refine ⟨hnodup, fun m hm => ?_, fun hraw m hm heq => ?_⟩
  · obtain ⟨h, hmem, hid, -⟩ := Heading.exists_of_mem_marks hm
    have hgiven := id_of_mem_headings hmem
    split at hgiven
    · obtain ⟨taken, htaken⟩ := hgiven
      rw [hid] at htaken
      rw [Option.some.inj htaken]
      exact SlugRegistry.slash_notMem_freeId taken h.title
    · rw [hid] at hgiven
      cases hgiven
  · -- the id of a frontmatter that is there is taken from the start
    have hnot := hfresh m.2 (List.mem_map_of_mem hm)
    rw [taken_startRegistry, hraw, heq] at hnot
    exact hnot List.mem_cons_self

theorem Document.WellHeaded.includes {d : Document} (hd : d.WellHeaded) {o : SectionOptions}
    (hmin : o.minLevel = 1) (hmax : o.maxLevel = 6) :
    ∀ n ∈ d.blocks, n.isHeading = true → o.includes n.headingLevel = true := by
  intro n hmem hn
  obtain ⟨hlow, hhigh⟩ := hd.level hmem hn
  simp [SectionOptions.includes, hmin, hmax, hlow, hhigh]

theorem Document.exists_id_of_includes {d : Document} {o : SectionOptions} {h : Heading}
    (hmem : h ∈ d.headings o) (hin : o.includes h.level = true) : ∃ id, h.id = some id := by
  have hgiven := id_of_mem_headings hmem
  rw [if_pos hin] at hgiven
  obtain ⟨taken, hid⟩ := hgiven
  exact ⟨_, hid⟩

/-- With all six levels wanted, every heading gets an id. -/
theorem Document.WellHeaded.exists_id {d : Document} (hd : d.WellHeaded) {o : SectionOptions}
    (hmin : o.minLevel = 1) (hmax : o.maxLevel = 6) {h : Heading} (hmem : h ∈ d.headings o) :
    ∃ id, h.id = some id := by
  obtain ⟨hblock, hheading, hlevel, -⟩ := mem_headings hmem
  apply exists_id_of_includes hmem
  rw [hlevel]
  exact hd.includes hmin hmax h.node hblock hheading

/-! ## Rows made before

A row finds its parent among the rows made before. That parent is the innermost heading around the
place, as long as every row has its own path. -/

/-- The level and the id of the rows of headings. -/
def marksOf (above : List Section) : List (Int × String) :=
  (above.filter fun s => decide (0 < s.level)).map fun s => (s.level, s.id)

/-- Every row of a heading has the path that leads to it; `above` are rows, latest first. -/
def Anchored : List Section → Prop
  | [] => True
  | s :: above =>
    Anchored above ∧
      (0 < s.level →
        s.path = Reducer.pathOf ((s.level, s.id) :: enclosing (marksOf above) s.level))

theorem marksOf_cons_of_pos {s : Section} (h : 0 < s.level) (above : List Section) :
    marksOf (s :: above) = (s.level, s.id) :: marksOf above := by
  simp [marksOf, h]

theorem marksOf_cons_of_not_pos {s : Section} (h : ¬0 < s.level) (above : List Section) :
    marksOf (s :: above) = marksOf above := by
  simp [marksOf, h]

/-- The parent that is found among the rows made before is the innermost heading around. -/
theorem parentOf_of_anchored {above : List Section} (h : Anchored above) (level : Int) :
    (parentOf above level = none ∧ enclosing (marksOf above) level = []) ∨
      ∃ s around, parentOf above level = some s ∧
        enclosing (marksOf above) level = (s.level, s.id) :: around ∧
        s.path = Reducer.pathOf ((s.level, s.id) :: around) := by
  induction above with
  | nil => exact Or.inl ⟨rfl, rfl⟩
  | cons s above ih =>
      obtain ⟨hrest, hpath⟩ := h
      by_cases hpos : 0 < s.level
      · rw [marksOf_cons_of_pos hpos]
        by_cases hlt : s.level < level
        · -- the latest row is the parent, and its path is known
          refine Or.inr ⟨s, enclosing (marksOf above) s.level, ?_, ?_, hpath hpos⟩
          · exact List.find?_cons_of_pos (by simp [hpos, hlt])
          · exact Outline.enclosing_cons_of_lt hlt _
        · -- both searches pass over a row that is not of a smaller level
          have hparent : parentOf (s :: above) level = parentOf above level :=
            List.find?_cons_of_neg (by simp [hlt])
          rw [hparent, Outline.enclosing_cons_of_le (show level ≤ s.level by omega)]
          exact ih hrest
      · -- the frontmatter is no heading
        have hparent : parentOf (s :: above) level = parentOf above level :=
          List.find?_cons_of_neg (by simp [hpos])
        rw [hparent, marksOf_cons_of_not_pos hpos]
        exact ih hrest

namespace Document

/-! ## One step in any document -/

/-- The row of a heading whose section ends at a known line; `above` are the rows in front of it,
latest first, and `later` the headings behind it. -/
def rowOf (d : Document) (o : SectionOptions) (above : List Section) (h : Heading) (id : String)
    (later : List Heading) (line : Int) : Section :=
  { id
    path := match parentOf above h.level with
      | some s => s.path ++ "/" ++ id
      | none => id
    level := h.level
    title := h.title
    content := if o.includeContent then d.contentOf o h later else ""
    parentId := ((parentOf above h.level).map (·.id)).getD ""
    startLine := d.startLine h.node
    endLine := some line }

theorem rows_cons_of_none (d : Document) (o : SectionOptions) (above : List Section) {h : Heading}
    (hid : h.id = none) (later : List Heading) :
    d.rows o above (h :: later) = d.rows o above later := by
  rw [rows, hid]

/-- The row of a heading with an id, if its last line is known, stands in front of the rows that are
made behind it. -/
theorem rows_cons_eq (d : Document) (o : SectionOptions) (above : List Section) {h : Heading}
    {id : String} (hid : h.id = some id) (later : List Heading) :
    d.rows o above (h :: later) = (d.lastLineOf o h later).bind fun line =>
      (d.rows o (d.rowOf o above h id later line :: above) later).map
        (d.rowOf o above h id later line :: ·) := by
  rw [rows, hid]
  rfl

/-- Rows that could be made were made one by one. -/
theorem exists_of_rows_cons {d : Document} {o : SectionOptions} {above : List Section} {h : Heading}
    {id : String} (hid : h.id = some id) {later : List Heading} {rows : List Section}
    (hrows : d.rows o above (h :: later) = .ok rows) :
    ∃ line rest, rows = d.rowOf o above h id later line :: rest ∧
      d.rows o (d.rowOf o above h id later line :: above) later = .ok rest := by
  rw [rows_cons_eq d o above hid] at hrows
  obtain ⟨line, -, hrows⟩ := exists_of_bind_eq_ok hrows
  obtain ⟨rest, hrest, heq⟩ := exists_of_map_eq_ok hrows
  exact ⟨line, rest, heq.symm, hrest⟩

/-- The rows have the levels and the ids of the headings with ids. -/
theorem map_mark_of_rows {d : Document} {o : SectionOptions} {above : List Section}
    {hs : List Heading} {rows : List Section} (hrows : d.rows o above hs = .ok rows) :
    rows.map (fun s => (s.level, s.id)) = Heading.marks hs := by
  induction hs generalizing above rows with
  | nil =>
      obtain rfl := Except.ok.inj hrows
      rfl
  | cons h later ih =>
      cases hid : h.id with
      | none =>
          rw [rows_cons_of_none d o above hid] at hrows
          rw [Heading.marks_cons_of_none hid]
          exact ih hrows
      | some id =>
          obtain ⟨line, rest, rfl, hrest⟩ := exists_of_rows_cons hid hrows
          rw [Heading.marks_cons_of_id hid, List.map_cons, ih hrest]
          rfl

/-- Rows with the levels and ids of headings are rows of headings. -/
theorem level_pos_of_marks {rows : List Section} {hs : List Heading}
    (hmarks : rows.map (fun s => (s.level, s.id)) = Heading.marks hs)
    (hlevels : ∀ h ∈ hs, 0 < h.level) : ∀ s ∈ rows, 0 < s.level := by
  intro s hs₁
  have hmark := List.mem_map_of_mem (f := fun s : Section => (s.level, s.id)) hs₁
  rw [hmarks] at hmark
  obtain ⟨h, hmem, -, hlevel⟩ := Heading.exists_of_mem_marks hmark
  have hpos := hlevels h hmem
  rwa [hlevel] at hpos

/-- What the sections of a document are made of: the row of the frontmatter and those of the
headings. -/
theorem exists_of_sections {d : Document} {o : SectionOptions} {rows : List Section}
    (hrows : d.sections o = .ok rows) :
    ∃ made, rows = d.frontmatterRow o ++ made ∧
      d.rows o (d.frontmatterRow o) (d.headings o) = .ok made := by
  unfold sections at hrows
  cases hfault : d.levelFault? with
  | some fault =>
      rw [hfault] at hrows
      cases hrows
  | none =>
      rw [hfault] at hrows
      cases hmade : d.rows o (d.frontmatterRow o) (d.headings o) with
      | error e =>
          simp only [hmade] at hrows
          cases hrows
      | ok made =>
          simp only [hmade] at hrows
          exact ⟨made, (Except.ok.inj hrows).symm, rfl⟩

/-- No two rows of a document have one id. -/
theorem nodup_ids_of_sections {d : Document} {o : SectionOptions} {rows : List Section}
    (hrows : d.sections o = .ok rows) : (rows.map (·.id)).Nodup := by
  obtain ⟨hnodup, -, hids⟩ := ids_headings d o
  obtain ⟨made, rfl, hmade⟩ := exists_of_sections hrows
  have hmarks := congrArg (List.map Prod.snd) (map_mark_of_rows hmade)
  rw [List.map_map] at hmarks
  rw [List.map_append, show made.map (·.id) = _ from hmarks]
  refine List.nodup_append.mpr ⟨?_, hnodup, fun id hid id' hid' heq => ?_⟩
  · exact List.pairwise_map.mpr (pairwise_frontmatterRow d o _)
  · obtain ⟨r, hr, rfl⟩ := List.mem_map.mp hid
    obtain ⟨m, hm, rfl⟩ := List.mem_map.mp hid'
    obtain ⟨hraw, hfront, -⟩ := of_mem_frontmatterRow hr
    exact hids hraw m hm (heq.symm.trans hfront)

/-! ## The row of a heading -/

/-- The number of the last line of the section of a heading that covers lines; `later` are the
headings behind it. -/
def endOf (d : Document) (o : SectionOptions) (h : Heading) (later : List Heading) : Int :=
  match later.find? fun next => Heading.closes o.mode h.level next.level with
  | none => d.lastLine
  | some next => ((d.startLine next.node).getD 0) - 1

/-- The end of a section depends on the blocks and the levels of the headings behind it only. -/
theorem endOf_eq_getD (d : Document) (o : SectionOptions) (h : Heading) (later : List Heading) :
    d.endOf o h later = (((later.map fun x => (x.level, x.node)).find? fun p =>
      Heading.closes o.mode h.level p.1).map fun p =>
        (d.startLine p.2).getD 0 - 1).getD d.lastLine := by
  rw [List.find?_map]
  unfold endOf
  change _ = ((Option.map _ (later.find? fun next =>
    Heading.closes o.mode h.level next.level)).map _).getD _
  cases later.find? fun next => Heading.closes o.mode h.level next.level with
  | none => rfl
  | some next => rfl

/-- The row of a heading with an id; `above` are the headings with ids in front of it, latest
first, and `later` the headings behind it. -/
def headingRow (d : Document) (o : SectionOptions) (above : List (Int × String)) (h : Heading)
    (id : String) (later : List Heading) : Section :=
  { id, path := Reducer.pathOf ((h.level, id) :: enclosing above h.level), level := h.level
    title := h.title, content := if o.includeContent then d.contentOf o h later else ""
    parentId := ((enclosing above h.level).head?.map (·.2)).getD ""
    startLine := d.startLine h.node, endLine := some (d.endOf o h later) }

/-- The rows of headings behind the headings `above`. -/
def headingRows (d : Document) (o : SectionOptions) (above : List (Int × String)) :
    List Heading → List Section
  | [] => []
  | h :: later =>
    match h.id with
    | none => d.headingRows o above later
    | some id => d.headingRow o above h id later :: d.headingRows o ((h.level, id) :: above) later

theorem headingRows_cons_of_none (d : Document) (o : SectionOptions) (above : List (Int × String))
    {h : Heading} (hid : h.id = none) (later : List Heading) :
    d.headingRows o above (h :: later) = d.headingRows o above later := by
  rw [headingRows, hid]

theorem headingRows_cons_of_id (d : Document) (o : SectionOptions) (above : List (Int × String))
    {h : Heading} {id : String} (hid : h.id = some id) (later : List Heading) :
    d.headingRows o above (h :: later) =
      d.headingRow o above h id later :: d.headingRows o ((h.level, id) :: above) later := by
  rw [headingRows, hid]

theorem lastLineOf_eq_endOf (d : Document) (o : SectionOptions) (h : Heading)
    {later : List Heading} (hlater : ∀ x ∈ later, x.node.lines.isSome = true) :
    d.lastLineOf o h later = .ok (d.endOf o h later) := by
  unfold lastLineOf endOf
  cases hfind : later.find? fun next => Heading.closes o.mode h.level next.level with
  | none => rfl
  | some next =>
      -- the heading that closes the section covers lines, so its first line is known
      obtain ⟨lines, hlines⟩ := Option.isSome_iff_exists.mp
        (hlater next (List.mem_of_find?_eq_some hfind))
      have hstart : d.startLine next.node = some (d.firstLineOf lines) := by
        simp [startLine, hlines]
      simp only [hstart]
      rfl

/-- Among rows with their own paths, the path of a row and its parent are given by the headings
around it. -/
theorem rowOf_of_anchored (d : Document) (o : SectionOptions) {above : List Section}
    (habove : Anchored above) (h : Heading) (id : String) (later : List Heading) :
    d.rowOf o above h id later (d.endOf o h later) = d.headingRow o (marksOf above) h id later := by
  unfold rowOf headingRow
  rcases parentOf_of_anchored habove h.level with
    ⟨hnone, hroot⟩ | ⟨s, around, hsome, haround, hpath⟩
  · -- no heading around: the path is the id
    have hpath : Reducer.pathOf [(h.level, id)] = id := Outline.pathOf_cons _ _
    simp only [hnone, hroot, hpath]
    rfl
  · -- the path of the parent leads on to the id
    have hpath : Reducer.pathOf ((h.level, id) :: (s.level, s.id) :: around) =
        s.path ++ "/" ++ id := by
      rw [hpath]
      exact Outline.pathOf_cons (h.level, id) _
    simp only [hsome, haround, hpath]
    rfl

/-- One step: the row of a heading with an id stands in front of the rows that are made behind
it. -/
theorem rows_cons_of_id (d : Document) (o : SectionOptions) {above : List Section}
    (habove : Anchored above) {h : Heading} {id : String} (hid : h.id = some id)
    {later : List Heading} (hlater : ∀ x ∈ later, x.node.lines.isSome = true) :
    d.rows o above (h :: later) =
      (d.rows o (d.headingRow o (marksOf above) h id later :: above) later).map
        (d.headingRow o (marksOf above) h id later :: ·) := by
  rw [rows_cons_eq d o above hid, lastLineOf_eq_endOf d o h hlater]
  simp only [Except.bind, rowOf_of_anchored d o habove]

/-- The rows of headings do not depend on the rows made before beyond their levels and ids. -/
theorem rows_eq_headingRows (d : Document) (o : SectionOptions) {above : List Section}
    (habove : Anchored above) {hs : List Heading}
    (hs₁ : ∀ h ∈ hs, h.node.lines.isSome = true ∧ 1 ≤ h.level) :
    d.rows o above hs = .ok (d.headingRows o (marksOf above) hs) := by
  induction hs generalizing above with
  | nil => rfl
  | cons h later ih =>
      have hlater : ∀ x ∈ later, x.node.lines.isSome = true ∧ 1 ≤ x.level := fun x hx =>
        hs₁ x (List.mem_cons_of_mem h hx)
      cases hid : h.id with
      | none =>
          rw [headingRows_cons_of_none d o _ hid, rows_cons_of_none d o above hid]
          exact ih habove hlater
      | some id =>
          have hlevel : 0 < (d.headingRow o (marksOf above) h id later).level := by
            have hpos : 1 ≤ h.level := (hs₁ h List.mem_cons_self).2
            change 0 < h.level
            omega
          -- the new row has the path that leads to it, so the rows made so far stay anchored
          have hanchored : Anchored (d.headingRow o (marksOf above) h id later :: above) :=
            ⟨habove, fun _ => rfl⟩
          have hrest := ih hanchored hlater
          rw [marksOf_cons_of_pos hlevel] at hrest
          rw [headingRows_cons_of_id d o _ hid,
            rows_cons_of_id d o habove hid fun x hx => (hlater x hx).1, hrest]
          rfl

theorem anchored_frontmatterRow (d : Document) (o : SectionOptions) :
    Anchored (d.frontmatterRow o) ∧ marksOf (d.frontmatterRow o) = [] := by
  unfold frontmatterRow
  split
  · exact ⟨trivial, rfl⟩
  · exact ⟨⟨trivial, fun h => absurd h (Int.lt_irrefl 0)⟩, rfl⟩

/-- The sections of a well-headed document: the frontmatter row and the rows of its headings. -/
theorem sections_eq {d : Document} (hd : d.WellHeaded) (o : SectionOptions) :
    d.sections o = .ok (d.frontmatterRow o ++ d.headingRows o [] (d.headings o)) := by
  obtain ⟨hanchored, hmarks⟩ := anchored_frontmatterRow d o
  have hplaced : ∀ h ∈ d.headings o, h.node.lines.isSome = true ∧ 1 ≤ h.level := fun h hmem =>
    ⟨(hd.of_mem_headings hmem).2.1, (hd.of_mem_headings hmem).2.2.1⟩
  have hrows := rows_eq_headingRows d o hanchored hplaced
  rw [hmarks] at hrows
  unfold sections
  rw [hd.levelFault?_eq_none]
  simp only [hrows]
  rfl

/-- Every row of a heading stands at a heading with an id; the headings above it are those in front
of that heading. -/
theorem exists_of_mem_headingRows {d : Document} {o : SectionOptions} {above : List (Int × String)}
    {hs : List Heading} {s : Section} (hs₁ : s ∈ d.headingRows o above hs) :
    ∃ between h id later, hs = between ++ h :: later ∧ h.id = some id ∧
      s = d.headingRow o ((Heading.marks between).reverse ++ above) h id later := by
  induction hs generalizing above with
  | nil => cases hs₁
  | cons x hs ih =>
      -- A heading without an id makes no row and leaves no mark above the later ones.
      cases hid : x.id with
      | none =>
          rw [headingRows_cons_of_none d o above hid] at hs₁
          obtain ⟨between, h, id, later, rfl, hh, rfl⟩ := ih hs₁
          exact ⟨x :: between, h, id, later, rfl, hh, by rw [Heading.marks_cons_of_none hid]⟩
      | some idx =>
          rw [headingRows_cons_of_id d o above hid] at hs₁
          rcases List.mem_cons.mp hs₁ with rfl | hs₁
          · exact ⟨[], x, idx, hs, rfl, hid, rfl⟩
          · obtain ⟨between, h, id, later, rfl, hh, rfl⟩ := ih hs₁
            refine ⟨x :: between, h, id, later, rfl, hh, ?_⟩
            rw [Heading.marks_cons_of_id hid, List.reverse_cons, List.append_assoc,
              List.singleton_append]

/-- A document with a frontmatter, two headings of one title and a nested one of a skipped level. -/
def sample : Document :=
  { text := "---\nkey: x\n---\n# A\n\ntext\n\n### B\n# A\n", body := "# A\n\ntext\n\n### B\n# A\n"
    rawFrontmatter := "key: x\n", lineOffset := 3
    blocks :=
      [{ type := "heading", tag := "h1", lines := some (0, 1),
         children := [{ type := "inline", children := [{ type := "text", content := "A" }] }] },
       { type := "paragraph", tag := "p", lines := some (2, 3),
         children := [{ type := "inline", children := [{ type := "text", content := "text" }] }] },
       { type := "heading", tag := "h3", lines := some (4, 5),
         children := [{ type := "inline", children := [{ type := "text", content := "B" }] }] },
       { type := "heading", tag := "h1", lines := some (5, 6),
         children := [{ type := "inline", children := [{ type := "text", content := "A" }] }] }] }

theorem wellHeaded_sample : sample.WellHeaded :=
  ⟨by decide, by decide⟩

end Document

end MarkdownSections
