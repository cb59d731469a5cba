import MarkdownSections.Proofs.Document.Elements
import MarkdownSections.Proofs.Section.Contents
import MarkdownSections.Proofs.Section.Grouping
import MarkdownSections.Proofs.Text.Numeral

/-!
# Two ways to the sections of a document

The sections of a document can be made from its tree, or from its elements by grouping them. The
rows of headings agree but for their contents and lines, and the grouping leaves out the headings
that have neither a title nor a block (`Document.WellHeaded.reduce_agrees_with_sections`).

The elements of a document make one group for each heading, with the blocks up to the next one
(`split_piecesOf`). A heading asks there for the id that it was given in the tree. That id is still
free when the grouping comes to it, since the ids of headings are different, so the heading gets it
again (`outlines_rowsFrom`).
-/

set_option autoImplicit false

namespace MarkdownSections

open Grouping (Piece Group takenBy headingsOf rowsAt rowsFrom groupsOf)
open Outline (enclosing)
open SlugRegistry (freeId)

/-- A row without its content and its lines. -/
def Section.outline (s : Section) : Section :=
  { s with content := "", startLine := none, endLine := none }

/-- A heading without a title and without a block up to the next heading. -/
def Heading.isBare (h : Heading) : Bool :=
  h.title.isEmpty && (h.body .minimal).isEmpty

namespace Document

/-- A row is that of a heading with an id. -/
def IsRowFor (d : Document) (h : Heading) (s : Section) : Prop :=
  h.id = some s.id ∧ s.level = h.level ∧ s.title = h.title ∧ s.startLine = d.startLine h.node

/-! ## The groups of a document -/

/-- The pieces of blocks; headings ask for the ids that the registry gives them. -/
def piecesOf (d : Document) (r : SlugRegistry) : List Node → List Piece
  | [] => []
  | n :: ns =>
    if n.isHeading then
      .heading n.headingLevel n.plainText (r.unique n.plainText).1
        :: d.piecesOf (r.unique n.plainText).2 ns
    else .text (d.blockMarkdown n) :: d.piecesOf r ns

/-- The group of a heading: the texts of the blocks up to the next one. -/
def groupOf (d : Document) (h : Heading) : Group :=
  ⟨.heading h.level h.title (h.id.getD ""), (h.body .minimal).map d.blockMarkdown⟩

/-- The element of a heading asks for the id that the heading was given. -/
theorem wantedId_headingElement (n : Node) {r : SlugRegistry} (hr : r.Sound) (order : Int) :
    Grouping.wantedId { n.headingElement (r.unique n.plainText).1 with order := order } =
      (r.unique n.plainText).1 := by
  let e : Element := { n.headingElement (r.unique n.plainText).1 with order := order }
  have hattr : e.attr "id" = (r.unique n.plainText).1 := by
    simp [e, Element.attr, Node.headingElement]
  change Grouping.wantedId e = _
  unfold Grouping.wantedId
  rw [hattr]
  split
  · next hempty =>
      -- an empty id was made of an empty slug, which is what is asked for then
      have hid : freeId r.taken (slugify n.plainText) = "" :=
        (SlugRegistry.unique_spec hr n.plainText).1 ▸ String.isEmpty_iff.mp hempty
      have hslug := SlugRegistry.eq_empty_of_freeId_eq_empty _ _ hid
      change slugify n.plainText = _
      rw [hslug, String.isEmpty_iff.mp hempty]
  · rfl

/-- The piece of the element of a heading. -/
theorem ofElement_headingElement (n : Node) {r : SlugRegistry} (hr : r.Sound) {e : Element}
    {order : Int} (he : e = { n.headingElement (r.unique n.plainText).1 with order := order }) :
    Piece.ofElement .lenient e =
      .ok (.heading e.headingLevel n.plainText (r.unique n.plainText).1) := by
  have htype : e.type = .heading := Element.type_of_tag (by rw [he]; rfl)
  have hcontent : e.content = n.plainText := by rw [he]; rfl
  rw [Grouping.ofElement_of_heading .lenient htype, hcontent, he, wantedId_headingElement n hr order]

theorem ofElement_blockElement (d : Document) (n : Node) (order : Int) :
    Piece.ofElement .lenient { d.blockElement .lenient n with order := order } =
      if n.numberingFits then .ok (.text (d.blockMarkdown n)) else .error .unwritableNumber := by
  obtain ⟨t, -, htag, hheading, hmetadata⟩ := blockElement_spec d .lenient n
  have htype : Element.type { d.blockElement .lenient n with order := order } = t :=
    Element.type_of_tag htag
  rw [Grouping.ofElement_of_other .lenient (htype ▸ hheading) (htype ▸ hmetadata),
    render_blockElement]
  cases n.numberingFits with
  | true => rfl
  | false => rfl

/-- The blocks in front of the first heading are loose, and every heading has a group. -/
theorem split_piecesOf (d : Document) {o : SectionOptions} {ns : List Node}
    (hwanted : ∀ n ∈ ns, n.isHeading = true → o.includes n.headingLevel = true)
    (r : SlugRegistry) :
    Grouping.split (d.piecesOf r ns) =
      ((ns.takeWhile (!·.isHeading)).map d.blockMarkdown,
        (Heading.assignIds o r (Heading.listOf ns)).map d.groupOf) := by
  -- a heading opens a group and any other block goes into the one that is open
  induction ns generalizing r with
  | nil => rfl
  | cons n ns ih =>
      have hrest : ∀ m ∈ ns, m.isHeading = true → o.includes m.headingLevel = true :=
        fun m hm => hwanted m (List.mem_cons_of_mem n hm)
      unfold piecesOf
      cases hn : n.isHeading with
      | true =>
          rw [if_pos rfl, Grouping.split, ih hrest, Heading.listOf_cons_of_heading hn,
            List.takeWhile_cons_of_neg (by simp [hn]), Heading.assignIds,
            if_pos (hwanted n List.mem_cons_self hn), List.map_cons, groupOf, body_minimal]
          rfl
      | false =>
          rw [if_neg Bool.false_ne_true, Grouping.split, ih hrest,
            Heading.listOf_cons_of_not_heading hn, List.takeWhile_cons_of_pos (by simp [hn]),
            List.map_cons]

/-! ## The rows of the groups -/

theorem isEmpty_join_map {α : Type} (f : α → String) (hf : ∀ x, f x ≠ "") (xs : List α) :
    (String.join (xs.map f)).isEmpty = xs.isEmpty := by
  cases xs with
  | nil => rfl
  | cons x xs =>
      rw [List.map_cons, String.join_cons, Grouping.isEmpty_append]
      have hx : (f x).isEmpty = false := by simpa using hf x
      rw [hx]
      rfl

theorem isBare_eq (d : Document) (h : Heading) :
    (h.title.isEmpty && (d.groupOf h).text.isEmpty) = h.isBare := by
  have htext : (d.groupOf h).text = String.join ((h.body .minimal).map d.blockMarkdown) := rfl
  rw [htext, isEmpty_join_map d.blockMarkdown d.blockMarkdown_ne_empty]
  rfl

/-- The group of a heading whose id is still free makes the row of the heading, or none if the
heading is bare. -/
theorem rowsAt_groupOf (d : Document) (o : SectionOptions) (loose : String) {before : List Group}
    {h : Heading} {id : String} (hid : h.id = some id) (hfree : id ∉ takenBy before)
    (later : List Heading) :
    (rowsAt loose before (d.groupOf h)).map Section.outline =
      if h.isBare then [] else [(d.headingRow o (headingsOf before) h id later).outline] := by
  have hopener : (d.groupOf h).opener = .heading h.level h.title id := by
    simp [groupOf, hid]
  unfold rowsAt
  simp only [hopener, isBare_eq]
  split
  · rfl
  · rw [List.map_singleton]
    refine congrArg (fun s => [s]) ?_
    unfold Grouping.headingRow headingRow
    simp only [Section.outline, SlugRegistry.freeId_eq_self _ _ hfree, Outline.head?_enclosing]

theorem takenBy_groupOf (d : Document) {before : List Group} {h : Heading} {id : String}
    (hid : h.id = some id) (hfree : id ∉ takenBy before) :
    takenBy (d.groupOf h :: before) = id :: takenBy before := by
  simp [takenBy, groupOf, Group.looseText, hid, SlugRegistry.freeId_eq_self _ _ hfree]

theorem headingsOf_groupOf (d : Document) {before : List Group} {h : Heading} {id : String}
    (hid : h.id = some id) (hfree : id ∉ takenBy before) :
    headingsOf (d.groupOf h :: before) = (h.level, id) :: headingsOf before := by
  simp [headingsOf, groupOf, hid, SlugRegistry.freeId_eq_self _ _ hfree]

/-- The groups of headings with different ids, none of them taken, make the rows of the headings
that are not bare. -/
theorem outlines_rowsFrom (d : Document) (o : SectionOptions) (loose : String) {hs : List Heading}
    {before : List Group} (hids : ∀ h ∈ hs, ∃ id, h.id = some id)
    (hnodup : ((Heading.marks hs).map (·.2)).Nodup)
    (hfresh : ∀ id ∈ (Heading.marks hs).map (·.2), id ∉ takenBy before) :
    (rowsFrom loose before (hs.map d.groupOf)).map Section.outline =
      ((hs.zip (d.headingRows o (headingsOf before) hs)).filter fun p => !p.1.isBare).map
        fun p => p.2.outline := by
  induction hs generalizing before with
  | nil => rfl
  | cons h later ih =>
      obtain ⟨id, hid⟩ := hids h List.mem_cons_self
      rw [Heading.marks_cons_of_id hid, List.map_cons] at hnodup hfresh
      obtain ⟨hnotMem, hnodup'⟩ := List.nodup_cons.mp hnodup
      have hfree : id ∉ takenBy before := hfresh id List.mem_cons_self
      -- the id of `h` is taken now, but no later heading has it
      have hfresh' : ∀ x ∈ (Heading.marks later).map (·.2),
          x ∉ takenBy (d.groupOf h :: before) := by
        intro x hx
        rw [takenBy_groupOf d hid hfree, List.mem_cons, not_or]
        exact ⟨fun heq => hnotMem (heq ▸ hx), hfresh x (List.mem_cons_of_mem id hx)⟩
      -- behind the group of `h`, the headings are those in front of the later ones in the tree
      have hlater := ih (fun x hx => hids x (List.mem_cons_of_mem h hx)) hnodup' hfresh'
      rw [headingsOf_groupOf d hid hfree] at hlater
      rw [List.map_cons, rowsFrom, List.map_append, hlater,
        rowsAt_groupOf d o loose hid hfree later, headingRows_cons_of_id d o _ hid,
        List.zip_cons_cons]
      cases hbare : h.isBare with
      | true => rw [List.filter_cons_of_neg (by simp [hbare])]; rfl
      | false => rw [List.filter_cons_of_pos (by simp [hbare])]; rfl

theorem isPreamble_rowsFrom (d : Document) (loose : String) {hs : List Heading}
    (hlevels : ∀ h ∈ hs, 1 ≤ h.level) (before : List Group) :
    ∀ s ∈ rowsFrom loose before (hs.map d.groupOf), Reducer.isPreamble s = false := by
  induction hs generalizing before with
  | nil =>
      intro s hs
      cases hs
  | cons h later ih =>
      intro s hs
      rw [List.map_cons, rowsFrom] at hs
      rcases List.mem_append.mp hs with hs | hs
      · -- the row of a heading has a level, and a group of a heading has no loose text
        have hlevel : (d.groupOf h).IsLeveled := by
          have hone := hlevels h List.mem_cons_self
          change 0 < h.level
          omega
        have hany : (rowsAt loose before (d.groupOf h)).any Reducer.isPreamble = false :=
          Grouping.any_isPreamble_rowsAt hlevel loose before
        simpa using List.any_eq_false.mp hany s hs
      · exact ih (fun x hx => hlevels x (List.mem_cons_of_mem h hx)) _ s hs

/-! ## All rows -/

/-- The groups in front of those of the headings: the frontmatter and the blocks in front of the
first heading. -/
def frontGroups (d : Document) : List Group :=
  let lead := (d.blocks.takeWhile (!·.isHeading)).map d.blockMarkdown
  if d.rawFrontmatter.isEmpty then [⟨.start, lead⟩]
  else [⟨.start, []⟩, ⟨.metadata d.rawFrontmatter, lead⟩]

/-- The piece of the frontmatter, if there is one. -/
def frontPieces (d : Document) : List Piece :=
  if d.rawFrontmatter.isEmpty then [] else [.metadata d.rawFrontmatter]

theorem mapM_ofElement_frontmatterElement (d : Document) :
    d.frontmatterElement.mapM (Piece.ofElement .lenient) = .ok d.frontPieces := by
  unfold frontmatterElement frontPieces
  split
  · rfl
  · rfl

/-- The pieces of a document fall into the groups of its frontmatter and of its headings. -/
theorem groupsOf_pieces {d : Document} (hd : d.WellHeaded) {o : SectionOptions}
    (hmin : o.minLevel = 1) (hmax : o.maxLevel = 6) :
    groupsOf (d.frontPieces ++ d.piecesOf d.startRegistry d.blocks) =
      d.frontGroups ++ (d.headings o).map d.groupOf := by
  have hsplit := split_piecesOf d (hd.includes hmin hmax) d.startRegistry
  unfold frontPieces frontGroups headings
  split
  · rw [List.nil_append, groupsOf, hsplit]
    rfl
  · rw [List.singleton_append, groupsOf, Grouping.split, hsplit]
    rfl

theorem rowsFrom_append (loose : String) (before gs gs' : List Group) :
    rowsFrom loose before (gs ++ gs') =
      rowsFrom loose before gs ++ rowsFrom loose (gs.reverse ++ before) gs' := by
  induction gs generalizing before with
  | nil => rfl
  | cons g gs ih =>
      rw [List.cons_append, rowsFrom, rowsFrom, ih, List.append_assoc, List.reverse_cons,
        List.append_assoc, List.singleton_append]

theorem filter_looseRowAt (loose : String) (before : List Group) (g : Group) :
    (Grouping.looseRowAt loose before g).filter (fun s => !Reducer.isPreamble s) = [] := by
  unfold Grouping.looseRowAt
  split
  · rfl
  · rw [List.filter_cons_of_neg (by simp), List.filter_nil]

/-- In front of the headings stands the row of the frontmatter, besides the preamble. -/
theorem outlines_frontGroups (d : Document) (o : SectionOptions) (loose : String) :
    ((rowsFrom loose [] d.frontGroups).filter fun s => !Reducer.isPreamble s).map Section.outline =
      (d.frontmatterRow o).map Section.outline := by
  unfold frontGroups frontmatterRow
  cases d.rawFrontmatter.isEmpty with
  | true =>
      rw [if_pos rfl, if_pos rfl, rowsFrom, rowsFrom, rowsAt, List.append_nil, filter_looseRowAt,
        List.map_nil]
  | false =>
      rw [if_neg Bool.false_ne_true, if_neg Bool.false_ne_true, rowsFrom, rowsFrom, rowsFrom,
        rowsAt, rowsAt, List.append_nil, List.filter_append, filter_looseRowAt,
        List.filter_cons_of_pos (by simp), filter_looseRowAt]
      rfl

theorem headingsOf_frontGroups (d : Document) : headingsOf d.frontGroups.reverse = [] := by
  unfold frontGroups
  split
  · rfl
  · rfl

/-- In front of the headings at most two ids are taken: the empty one if a block stands there, and
that of a frontmatter. -/
theorem mem_takenBy_frontGroups {d : Document} {id : String}
    (hid : id ∈ takenBy d.frontGroups.reverse) :
    (id = "" ∧ d.blocks.takeWhile (!·.isHeading) ≠ []) ∨
      (id = Section.frontmatterId ∧ d.rawFrontmatter.isEmpty = false) := by
  -- no block is rendered as nothing, so the loose text is empty only without blocks
  have hlead := isEmpty_join_map d.blockMarkdown d.blockMarkdown_ne_empty
    (d.blocks.takeWhile (!·.isHeading))
  unfold frontGroups at hid
  cases hraw : d.rawFrontmatter.isEmpty with
  | true =>
      rw [hraw, if_pos rfl] at hid
      change id ∈ if (String.join ((d.blocks.takeWhile (!·.isHeading)).map
        d.blockMarkdown)).isEmpty then [] else [""] at hid
      rw [hlead] at hid
      split at hid
      · cases hid
      · next hsome => exact Or.inl ⟨List.mem_singleton.mp hid, by simpa using hsome⟩
  | false =>
      rw [hraw, if_neg Bool.false_ne_true] at hid
      change id ∈ if (String.join ((d.blocks.takeWhile (!·.isHeading)).map
        d.blockMarkdown)).isEmpty then [Section.frontmatterId]
          else ["", Section.frontmatterId] at hid
      rw [hlead] at hid
      split at hid
      · exact Or.inr ⟨List.mem_singleton.mp hid, rfl⟩
      · next hsome =>
          rcases List.mem_cons.mp hid with hempty | hfront
          · exact Or.inl ⟨hempty, by simpa using hsome⟩
          · exact Or.inr ⟨List.mem_singleton.mp hfront, rfl⟩

/-- In front of the headings none of their ids is taken, if there is no block or no empty slug. -/
theorem ids_notMem_takenBy_frontGroups {d : Document}
    (hlead : d.blocks.takeWhile (!·.isHeading) = [] ∨
      ∀ n ∈ d.blocks, n.isHeading = true → slugify n.plainText ≠ "") (o : SectionOptions) :
    ∀ id ∈ (Heading.marks (d.headings o)).map (·.2), id ∉ takenBy d.frontGroups.reverse := by
  obtain ⟨-, -, hnotFront⟩ := ids_headings d o
  intro id hid htaken
  obtain ⟨m, hm, rfl⟩ := List.mem_map.mp hid
  rcases mem_takenBy_frontGroups htaken with ⟨hempty, hsome⟩ | ⟨hfront, hraw⟩
  · -- the preamble has the empty id, and no slug is empty then
    rcases hlead with hnone | hslugs
    · exact hsome hnone
    · obtain ⟨h, hmem, hmark, -⟩ := Heading.exists_of_mem_marks hm
      obtain ⟨hblock, hheading, -, htitle⟩ := mem_headings hmem
      have hgiven := id_of_mem_headings hmem
      split at hgiven
      · obtain ⟨taken, hfree⟩ := hgiven
        rw [hmark, hempty] at hfree
        have hslug := SlugRegistry.eq_empty_of_freeId_eq_empty _ _ (Option.some.inj hfree).symm
        exact hslugs h.node hblock hheading (htitle ▸ hslug)
      · rw [hgiven] at hmark
        cases hmark
  · exact hnotFront hraw m hm hfront

theorem forall₂_headingRows (d : Document) (o : SectionOptions) {hs : List Heading}
    (hids : ∀ h ∈ hs, ∃ id, h.id = some id) (above : List (Int × String)) :
    List.Forall₂ d.IsRowFor hs (d.headingRows o above hs) := by
  induction hs generalizing above with
  | nil => exact List.Forall₂.nil
  | cons h later ih =>
      obtain ⟨id, hid⟩ := hids h List.mem_cons_self
      rw [headingRows_cons_of_id d o above hid]
      refine List.Forall₂.cons ⟨hid, rfl, rfl, rfl⟩ (ih (fun x hx => ?_) _)
      exact hids x (List.mem_cons_of_mem h hx)

/-- The rows of the groups of a document are those of its headings but for the bare ones, behind the
row of its frontmatter and leaving the preamble aside. -/
theorem outlines_rows {d : Document} (hd : d.WellHeaded)
    (hlead : d.blocks.takeWhile (!·.isHeading) = [] ∨
      ∀ n ∈ d.blocks, n.isHeading = true → slugify n.plainText ≠ "")
    {o : SectionOptions} (hmin : o.minLevel = 1) (hmax : o.maxLevel = 6) :
    ((Grouping.rows (d.frontGroups ++ (d.headings o).map d.groupOf)).filter
        fun s => !Reducer.isPreamble s).map Section.outline =
      (d.frontmatterRow o).map Section.outline ++
        (((d.headings o).zip (d.headingRows o [] (d.headings o))).filter
          fun p => !p.1.isBare).map fun p => p.2.outline := by
  obtain ⟨hnodup, -, -⟩ := ids_headings d o
  have hids : ∀ h ∈ d.headings o, ∃ id, h.id = some id := fun h hmem =>
    hd.exists_id hmin hmax hmem
  have hlevels : ∀ h ∈ d.headings o, 1 ≤ h.level := fun h hmem => (hd.of_mem_headings hmem).2.2.1
  have hfresh := ids_notMem_takenBy_frontGroups hlead o
  -- the rows of the front groups and those of the headings are compared apart
  have hrows := outlines_rowsFrom d o
    (String.join ((d.frontGroups ++ (d.headings o).map d.groupOf).map Group.looseText))
    hids hnodup hfresh
  rw [headingsOf_frontGroups] at hrows
  unfold Grouping.rows
  rw [rowsFrom_append, List.filter_append, List.map_append, outlines_frontGroups d o,
    List.append_nil, List.filter_eq_self.mpr fun s hs => by
      rw [isPreamble_rowsFrom d _ hlevels _ s hs]; rfl, hrows]

end Document

end MarkdownSections
