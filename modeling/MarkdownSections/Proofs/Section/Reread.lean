import MarkdownSections.Proofs.Document.Rerender
import MarkdownSections.Proofs.Section.Alike

/-!
# Sections of a text that is written again

The elements of a text can be grouped into sections, or they can be rendered and the sections made
from the text that comes out. The rows of headings need not agree (`not_reduced_as_reread`). They do
if every element is legible, every heading has a title or a block behind it, and no slug is empty
behind blocks that belong to no heading (`reduced_as_reread`).

The grouping reads only the outlines of the elements (`Grouping.outlines_of_alike`), and these are the
outlines of the blocks that the rendered text is read as (`exists_outlinedNodes`).
-/

set_option autoImplicit false

namespace MarkdownSections.Document

open Grouping (Piece Group groupsOf headingRowsFrom)
open Markdown.Block.Passage (allWritten)

/-- The rows of headings among others, without their contents and their lines. -/
def headingOutlines (rows : List Section) : List Section :=
  (rows.filter fun s => s.level != 0).map Section.outline

/-- The rows of headings that the elements of a text are grouped into. -/
def reducedHeadings? (text : String) : Option (List Section) := do
  let es ← elements? text
  let rows ← (reduceSections .lenient es).toOption
  return headingOutlines rows

/-- The rows of headings of the text that the elements of a text render to. -/
def rereadHeadings? (o : SectionOptions) (text : String) : Option (List Section) := do
  let md ← rendered? text
  let d ← (ofText md).toOption
  let rows ← (d.sections o).toOption
  return headingOutlines rows

/-- The title of a heading is rendered with the marks that its source had escaped, and they are read
as marks; and code that holds a fence ends there, so that a line behind it is read as a heading. -/
theorem not_reduced_as_reread :
    ((reducedHeadings? "# \\*a\\*").map (·.map fun s => (s.title, s.level, s.parentId)) =
        some [("*a*", 1, "")] ∧
      (rereadHeadings? {} "# \\*a\\*").map (·.map fun s => (s.title, s.level, s.parentId)) =
        some [("a", 1, "")]) ∧
      (reducedHeadings? "````\n```\n# x\n````\n").map
          (·.map fun s => (s.title, s.level, s.parentId)) = some [] ∧
        (rereadHeadings? {} "````\n```\n# x\n````\n").map
          (·.map fun s => (s.title, s.level, s.parentId)) = some [("x", 1, "")] := by
  decide +kernel

/-! ## Outlines of blocks -/

/-- Whether each heading has a title or a block in front of the next heading. -/
def noneBare : List (Option (Int × String)) → Bool
  | [] => true
  | none :: later => noneBare later
  | some (_, title) :: later =>
    (!title.isEmpty || later.head?.any Option.isNone) && noneBare later

/-- Whether no block stands in front of the first heading, or every heading has a slug. -/
def noneDisplaced (outline : List (Option (Int × String))) : Bool :=
  outline.head?.all Option.isSome ||
    outline.all fun heading => heading.all fun (_, title) => slugify title != ""

section Outline

variable {ns : List Node}

theorem isBare_of_noneBare (h : noneBare (ns.map Node.heading?) = true) :
    ∀ x ∈ Heading.listOf ns, x.isBare = false := by
  induction ns with
  | nil => simp [Heading.listOf]
  | cons n ns ih =>
      intro x hx
      rw [List.map_cons] at h
      cases hn : n.isHeading with
      | false =>
          rw [Node.heading?, if_neg (by simp [hn]), noneBare] at h
          rw [Heading.listOf_cons_of_not_heading hn] at hx
          exact ih h x hx
      | true =>
          rw [Node.heading?, if_pos hn, noneBare, Bool.and_eq_true] at h
          rw [Heading.listOf_cons_of_heading hn] at hx
          rcases List.mem_cons.mp hx with rfl | hx
          · -- the body starts with the block behind the heading, if that is no heading
            rw [Heading.isBare, body_minimal]
            cases ns with
            | nil => simpa using h.1
            | cons m ns =>
                cases hm : m.isHeading with
                | true => simpa [Node.heading?, hm] using h.1
                | false => simp [hm]
          · exact ih h.2 x hx

/-- Giving ids makes no heading bare. -/
theorem isBare_of_mem_headings {d : Document}
    (hbare : ∀ h ∈ Heading.listOf d.blocks, h.isBare = false) {o : SectionOptions} {h : Heading}
    (hmem : h ∈ d.headings o) : h.isBare = false := by
  have hkeep := Heading.map_assignIds Heading.isBare (fun _ _ => rfl) o d.startRegistry
    (Heading.listOf d.blocks)
  have hsame : h.isBare ∈ (Heading.listOf d.blocks).map Heading.isBare :=
    hkeep ▸ List.mem_map_of_mem hmem
  obtain ⟨x, hx, heq⟩ := List.mem_map.mp hsame
  rw [← heq, hbare x hx]

theorem slugs_of_noneDisplaced (h : noneDisplaced (ns.map Node.heading?) = true) :
    ns.takeWhile (!·.isHeading) = [] ∨
      ∀ n ∈ ns, n.isHeading = true → slugify n.plainText ≠ "" := by
  rw [noneDisplaced, Bool.or_eq_true] at h
  rcases h with h | h
  · left
    cases ns with
    | nil => rfl
    | cons n ns =>
        cases hn : n.isHeading with
        | true => simp [hn]
        | false => simp [Node.heading?, hn] at h
  · right
    intro n hmem hn
    have hslug := List.all_eq_true.mp h _ (List.mem_map_of_mem hmem)
    rw [Node.heading?, if_pos hn] at hslug
    simpa using hslug

end Outline

/-! ## Rows of headings -/

/-- The rows of headings among the others are found by their outlines. -/
theorem filter_level_outlines (rows : List Section) :
    ((rows.filter fun s => !Reducer.isPreamble s).map Section.outline).filter
      (fun s => s.level != 0) = headingOutlines rows := by
  have hrow : (fun s : Section => ((fun s : Section => s.level != 0) ∘ Section.outline) s &&
      !Reducer.isPreamble s) = fun s => s.level != 0 := by
    funext s
    by_cases hlevel : s.level = 0
    · simp [Section.outline, hlevel]
    · simp [Section.outline, Reducer.isPreamble, hlevel]
  rw [headingOutlines, List.filter_map, List.filter_filter, hrow]

theorem isLeveled_groups {d : Document} (hd : d.WellHeaded) (o : SectionOptions) :
    ∀ g ∈ d.frontGroups ++ (d.headings o).map d.groupOf, g.IsLeveled := by
  intro g hg
  rcases List.mem_append.mp hg with hg | hg
  · unfold frontGroups at hg
    split at hg
    · rw [List.mem_singleton.mp hg]
      trivial
    · rcases List.mem_pair.mp hg with rfl | rfl
      · trivial
      · trivial
  · obtain ⟨h, hmem, rfl⟩ := List.mem_map.mp hg
    have hlevel := (hd.of_mem_headings hmem).2.2.1
    change 0 < h.level
    omega

/-- The rows of the headings of a document are those of its groups, if no heading is bare. -/
theorem outlines_sections {d : Document} (hd : d.WellHeaded)
    (hlead : d.blocks.takeWhile (!·.isHeading) = [] ∨
      ∀ n ∈ d.blocks, n.isHeading = true → slugify n.plainText ≠ "")
    (hbare : ∀ h ∈ Heading.listOf d.blocks, h.isBare = false) {o : SectionOptions}
    (hmin : o.minLevel = 1) (hmax : o.maxLevel = 6) :
    ∃ rows, d.sections o = .ok rows ∧
      headingOutlines rows =
        (headingRowsFrom [] (groupsOf (d.frontPieces ++ d.piecesOf d.startRegistry d.blocks))).map
          Section.outline := by
  have hids : ∀ h ∈ d.headings o, ∃ id, h.id = some id := fun h hmem =>
    hd.exists_id hmin hmax hmem
  have hkept : ((d.headings o).zip (d.headingRows o [] (d.headings o))).filter
      (fun p => !p.1.isBare) = (d.headings o).zip (d.headingRows o [] (d.headings o)) := by
    rw [List.filter_eq_self]
    intro p hp
    rw [isBare_of_mem_headings hbare (List.of_mem_zip hp).1]
    rfl
  have hrows : ((d.headings o).zip (d.headingRows o [] (d.headings o))).map (fun p => p.2.outline) =
      (d.headingRows o [] (d.headings o)).map Section.outline := by
    have hlength := (forall₂_headingRows d o hids []).length_eq
    have hsnd := List.map_snd_zip (Nat.le_of_eq hlength.symm)
    exact List.map_map.symm.trans (congrArg (List.map Section.outline) hsnd)
  -- all rows of the groups but the preamble are those of the document
  have houtlines := outlines_rows hd hlead hmin hmax
  rw [hkept, hrows, ← List.map_append] at houtlines
  have hreduced := filter_level_outlines
    (Grouping.rows (d.frontGroups ++ (d.headings o).map d.groupOf))
  rw [houtlines, List.filter_map] at hreduced
  have hlevel := Grouping.filter_level_rowsFrom (isLeveled_groups hd o)
    (String.join ((d.frontGroups ++ (d.headings o).map d.groupOf).map Group.looseText)) []
  refine ⟨_, sections_eq hd o, ?_⟩
  rw [groupsOf_pieces hd hmin hmax, ← hlevel]
  exact hreduced

/-! ## Pieces of elements -/

/-- The block of an element with a heading is a heading of its level and title. -/
theorem heading_of_heading? {n : Node} {e : Element} (he : e.type = .heading)
    (h : n.heading? = e.heading?) :
    n.isHeading = true ∧ n.headingLevel = e.headingLevel ∧ n.plainText = e.content := by
  rw [Node.heading?, Element.heading?, if_pos he] at h
  split at h
  · next hn =>
      obtain ⟨hlevel, htitle⟩ := Prod.mk.inj (Option.some.inj h)
      exact ⟨hn, hlevel, htitle⟩
  · cases h

/-- The block of any other element is no heading. -/
theorem isHeading_of_heading? {n : Node} {e : Element} (he : e.type ≠ .heading)
    (h : n.heading? = e.heading?) : n.isHeading = false := by
  rw [Node.heading?, Element.heading?, if_neg he] at h
  split at h
  · cases h
  · next hn => exact Bool.not_eq_true _ ▸ hn

/-- The element of a block that is rendered has a text as its piece. -/
theorem ofElement_of_render {d : Document} {n : Node} {order : Int} {text : String}
    (h : Element.render .lenient { d.blockElement .lenient n with order := order } = .ok text) :
    Piece.ofElement .lenient { d.blockElement .lenient n with order := order } =
      .ok (.text (d.blockMarkdown n)) := by
  rw [ofElement_blockElement]
  rw [render_blockElement] at h
  split at h
  · next hfits => exact if_pos hfits
  · cases h

theorem alike_frontPieces (d : Document) :
    List.Forall₂ Piece.Alike d.frontPieces d.frontPieces := by
  unfold frontPieces
  split
  · exact List.Forall₂.nil
  · exact List.Forall₂.cons (.metadata _) List.Forall₂.nil

/-- The texts of two blocks are both there. -/
theorem alike_text (d d' : Document) (n n' : Node) :
    Piece.Alike (.text (d.blockMarkdown n)) (.text (d'.blockMarkdown n')) := by
  have hsome : ∀ (d : Document) (n : Node), (d.blockMarkdown n).isEmpty = false := by
    intro d n
    simpa using d.blockMarkdown_ne_empty n
  exact .text (by rw [hsome, hsome])

/-- Blocks with the headings of elements have pieces like theirs. -/
theorem forall₂_pieces (d d' : Document) {ns ns' : List Node} {r : SlugRegistry} (hr : r.Sound)
    (order : Int)
    (hrender : ∀ e ∈ d.blockElements .lenient r order ns, ∃ text, e.render .lenient = .ok text)
    (hheadings : ns'.map Node.heading? =
      (d.blockElements .lenient r order ns).map Element.heading?) :
    ∃ ps, (d.blockElements .lenient r order ns).mapM (Piece.ofElement .lenient) = .ok ps ∧
      List.Forall₂ Piece.Alike ps (d'.piecesOf r ns') := by
  induction ns generalizing r order ns' with
  | nil =>
      rw [List.map_eq_nil_iff.mp hheadings]
      exact ⟨[], rfl, List.Forall₂.nil⟩
  | cons n ns ih =>
      cases hn : n.isHeading with
      | true =>
          rw [blockElements_cons_of_heading d .lenient r order hn] at hrender hheadings ⊢
          obtain ⟨n', ns', rfl, hn', hns'⟩ := List.map_eq_cons_iff.mp hheadings
          obtain ⟨hheading, hlevel, htitle⟩ := heading_of_heading? (Element.type_of_tag rfl) hn'
          -- the title takes the same id from the registry on both sides
          have htitle' : n'.plainText = n.plainText := htitle
          obtain ⟨-, -, hsound⟩ := SlugRegistry.unique_spec hr n.plainText
          obtain ⟨ps, hps, halike⟩ := ih hsound (order + 1)
            (fun e he => hrender e (List.mem_cons_of_mem _ he)) hns'
          refine ⟨.heading n'.headingLevel n.plainText (r.unique n.plainText).1 :: ps, ?_, ?_⟩
          · rw [List.mapM_cons, ofElement_headingElement n hr rfl, hps, hlevel]
            rfl
          · rw [piecesOf, if_pos hheading, htitle']
            exact List.Forall₂.cons (.heading _ _ _) halike
      | false =>
          rw [blockElements_cons_of_not_heading d .lenient r order hn] at hrender hheadings ⊢
          obtain ⟨n', ns', rfl, hn', hns'⟩ := List.map_eq_cons_iff.mp hheadings
          obtain ⟨t, -, htag, hother, -⟩ := blockElement_spec d .lenient n
          have htype : Element.type { d.blockElement .lenient n with order := order } ≠ .heading :=
            fun h => hother ((Element.type_of_tag htag).symm.trans h)
          have hheading := isHeading_of_heading? htype hn'
          obtain ⟨text, htext⟩ := hrender _ List.mem_cons_self
          obtain ⟨ps, hps, halike⟩ := ih hr (order + 1)
            (fun e he => hrender e (List.mem_cons_of_mem _ he)) hns'
          refine ⟨.text (d.blockMarkdown n) :: ps, ?_, ?_⟩
          · rw [List.mapM_cons, ofElement_of_render htext, hps]
            rfl
          · rw [piecesOf, if_neg (by simp [hheading])]
            exact List.Forall₂.cons (alike_text d d' n n') halike

/-- The elements of a document are grouped as their pieces are. -/
theorem outlines_reduceSections {d : Document} {es : List Element}
    (hes : d.elements .lenient = .ok es) {ps : List Piece}
    (hps : (d.blockElements .lenient d.startRegistry (d.frontmatterElement.length + 1)
      d.blocks).mapM (Piece.ofElement .lenient) = .ok ps) :
    ∃ rows, reduceSections .lenient es = .ok rows ∧
      headingOutlines rows =
        (headingRowsFrom [] (groupsOf (d.frontPieces ++ ps))).map Section.outline := by
  obtain ⟨-, rfl⟩ := elements_eq_ok_iff.mp hes
  have hpieces : (d.frontmatterElement ++ d.blockElements .lenient d.startRegistry
      (d.frontmatterElement.length + 1) d.blocks).mapM (Piece.ofElement .lenient) =
        .ok (d.frontPieces ++ ps) := by
    rw [List.mapM_append, mapM_ofElement_frontmatterElement, hps]
    rfl
  refine ⟨Grouping.rows (groupsOf (d.frontPieces ++ ps)), ?_, ?_⟩
  · rw [Grouping.reduceSections_eq_map_rows,
      Element.sortByOrder_of_ascending (elements_ascending d .lenient), hpieces]
    rfl
  · have hleveled := Grouping.groupsOf_isLeveled hpieces
    rw [headingOutlines, Grouping.rows, Grouping.filter_level_rowsFrom hleveled]

/-! ## Elements that keep their outline -/

/-- Whether elements are rendered as a text with the headings of the elements. -/
def keepsOutline (es : List Element) : Bool :=
  let outline := (splitElements es).2.map Element.heading?
  noneBare outline && noneDisplaced outline &&
    (legiblePassages? (splitElements es).2).any fun ps =>
      areSetApart ps && readsFrontmatter (splitElements es).1 (allWritten ps)

/-- **Reading again.** If the elements of a text keep their outline, they are grouped into the rows of
headings of the text that they are rendered as. -/
theorem reduced_as_reread {text : String} {es : List Element} (hes : elements? text = some es)
    (h : keepsOutline es = true) (mode : ContentMode) (limit : Int) :
    ∃ rows, reducedHeadings? text = some rows ∧
      rereadHeadings? { mode, maxContentLength := limit } text = some rows := by
  obtain ⟨d, hd, helements⟩ := exists_of_elements? hes
  simp only [keepsOutline, Option.any_eq_true, Bool.and_eq_true] at h
  obtain ⟨⟨hbare, hplaced⟩, ps, hps, hapart, hfrontmatter⟩ := h
  have hpassages := forall₂_of_legiblePassages? hps
  obtain ⟨md, -, hrender, hreread⟩ := exists_reread hd helements hpassages hapart hfrontmatter
  -- the text is read as a document with the headings of the elements
  obtain ⟨nodes, hbuilds, hheight, hheadings, htagged⟩ := exists_outlinedNodes hpassages 0
  obtain ⟨d', hd', rfl, hraw, -⟩ := hreread nodes hbuilds hheight
  have hwell : d'.WellHeaded :=
    ⟨fun n hmem hn => (htagged n hmem hn).1, fun n hmem hn => (htagged n hmem hn).2⟩
  rw [← hheadings] at hbare hplaced
  obtain ⟨rows, hrows, hread⟩ := outlines_sections hwell (slugs_of_noneDisplaced hplaced)
    (isBare_of_noneBare hbare) (o := { mode, maxContentLength := limit }) rfl rfl
  -- and its pieces are those of the elements up to their texts
  have hrenders := exists_render_of_forall₂ hpassages
  rw [splitElements_elements helements] at hrenders hheadings
  obtain ⟨pieces, hpieces, halike⟩ :=
    forall₂_pieces d d' d.sound_startRegistry _ hrenders hheadings
  obtain ⟨reduced, hreduced, hgrouped⟩ := outlines_reduceSections helements hpieces
  have hagree : headingOutlines rows = headingOutlines reduced := by
    have hfront : d'.frontPieces = d.frontPieces := by rw [frontPieces, frontPieces, hraw]
    have hregistry : d'.startRegistry = d.startRegistry := by
      rw [startRegistry, startRegistry, hraw]
    rw [hread, hgrouped, hfront, hregistry]
    exact (Grouping.outlines_of_alike (List.rel_append (alike_frontPieces d) halike)).symm
  refine ⟨headingOutlines reduced, ?_, ?_⟩
  · rw [reducedHeadings?, hes]
    simp only [Option.bind_eq_bind, Option.bind_some, hreduced, Except.toOption]
    rfl
  · have hrendered : rendered? text = some md := by
      rw [rendered?, hes]
      exact congrArg Except.toOption hrender
    rw [rereadHeadings?, hrendered, ← hagree]
    simp only [Option.bind_eq_bind, Option.bind_some, hd', Except.toOption, hrows]
    rfl

/-- A text whose items, cells and quotes would not be rendered as they are again. -/
def outlineSample : String :=
  "---\nt: 1\n---\n# A\n\n* \\*x\\*\n\n### B\n| h |\n|---|\n| \\*c\\* |\n\nA\n==="

theorem reduced_as_reread_sample :
    (elements? outlineSample).any keepsOutline = true ∧
      ∃ rows, reducedHeadings? outlineSample = some rows ∧
        rereadHeadings? { mode := .full, maxContentLength := 2000 } outlineSample = some rows := by
  have hkept : (elements? outlineSample).any keepsOutline = true := by
    decide +kernel
  obtain ⟨es, hes, h⟩ := (Option.any_eq_true _ _).mp hkept
  exact ⟨hkept, reduced_as_reread hes h .full 2000⟩

end MarkdownSections.Document
