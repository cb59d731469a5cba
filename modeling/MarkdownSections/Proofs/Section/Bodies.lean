import MarkdownSections.Proofs.Element.Render
import MarkdownSections.Proofs.Section.Grouping

/-!
# The contents of grouped rows

A heading has the elements up to the next heading or metadata element as its body
(`headingBodies`). Its row holds their texts one behind the other. Rendering the body on its own
gives these texts too, but starts each block that directly follows an inline element after an empty
line (`renderInOrder_eq`). So the content of a row is the rendered body exactly if no block follows
an inline element in it, and otherwise two characters shorter for each that does
(`rows_follow_headingBodies`).
-/

set_option autoImplicit false

namespace MarkdownSections

open Attempt (exists_of_bind_eq_ok mapM_eq_ok_iff)

namespace Element

/-- The number of blocks that directly follow an inline element. -/
def breaks (afterInline : Bool) : List Element → Nat
  | [] => 0
  | e :: es => (if afterInline && !e.isInline then 1 else 0) + breaks e.isInline es

/-- The text of a block is not empty. -/
theorem render_ne_empty {codec : Codec} {e : Element} {text : String} (hkind : e.isInline = false)
    (h : e.render codec = .ok text) : text ≠ "" := by
  obtain ⟨p, -, h⟩ := exists_of_bind_eq_ok h
  split at h
  · cases h
  · cases h
    unfold renderPayload
    rw [hkind, if_neg Bool.false_ne_true]
    exact blockText_ne_empty e p

section Texts

variable {codec : Codec} {es : List Element} {texts : List String}

/-- Elements are rendered as their texts with an empty line in front of each block that directly
follows an inline element. -/
theorem renderInOrder_eq (h : List.Forall₂ (fun e t => e.render codec = .ok t) es texts)
    (afterInline : Bool) :
    ∃ text, renderInOrder codec afterInline es = .ok text ∧
      text.length = (String.join texts).length + 2 * breaks afterInline es ∧
      (breaks afterInline es = 0 → text = String.join texts) := by
  induction h generalizing afterInline with
  | nil => exact ⟨"", rfl, rfl, fun _ => rfl⟩
  | @cons e t es texts he _ ih =>
      obtain ⟨rest, hrest, hlength, hsame⟩ := ih e.isInline
      refine ⟨_, by rw [renderInOrder, he, hrest]; rfl, ?_, fun hnone => ?_⟩
      · -- an empty line in front of the first element counts as two characters
        rw [String.length_append, String.length_append, hlength, String.join_cons,
          String.length_append, breaks]
        have hbreak : ("\n\n" : String).length = 2 := rfl
        have hempty : ("" : String).length = 0 := rfl
        split
        · omega
        · omega
      · rw [breaks, Nat.add_eq_zero_iff] at hnone
        obtain ⟨hfirst, hlater⟩ := hnone
        rw [hsame hlater, String.join_cons]
        split at hfirst
        · cases hfirst
        · next hnot => rw [if_neg hnot, String.empty_append]

/-- Without any text there are no blocks. -/
theorem breaks_eq_zero_of_join_eq_empty
    (h : List.Forall₂ (fun e t => e.render codec = .ok t) es texts)
    (hempty : String.join texts = "") (afterInline : Bool) : breaks afterInline es = 0 := by
  induction h generalizing afterInline with
  | nil => rfl
  | @cons e t es texts he _ ih =>
      rw [String.join_cons, String.append_eq_empty_iff] at hempty
      have hinline : e.isInline = true := by
        by_contra hblock
        exact render_ne_empty (Bool.eq_false_iff.mpr hblock) he hempty.1
      rw [breaks, ih hempty.2, hinline]
      simp

end Texts

end Element

namespace Grouping

/-! ## Bodies -/

/-- An element ends the body of the heading in front of it. -/
def endsBody (e : Element) : Bool :=
  e.type == .heading || e.type.isMetadata

/-- The headings of a sequence, each with the elements up to the next heading or metadata
element. -/
def headingBodies : List Element → List (Element × List Element)
  | [] => []
  | e :: es =>
    if e.type = .heading then (e, es.takeWhile (!endsBody ·)) :: headingBodies es
    else headingBodies es

/-- A heading makes a row if it has a title or its body a text. -/
def makesRow (codec : Codec) (p : Element × List Element) : Bool :=
  !(p.1.content.isEmpty && (Element.renderAll codec p.2).toOption == some "")

/-- A row has the title and the level of a heading, and the texts of its body as its content. -/
structure IsRowOf (codec : Codec) (p : Element × List Element) (s : Section) : Prop where
  title : s.title = p.1.content
  level : s.level = p.1.headingLevel
  content : ∃ text, Element.renderAll codec p.2 = .ok text ∧
    (s.content = text ↔ Element.breaks false p.2 = 0) ∧
    text.length = s.content.length + 2 * Element.breaks false p.2

theorem body_sublist {es : List Element} : ∀ p ∈ headingBodies es, p.2.Sublist es := by
  induction es with
  | nil =>
      intro p hp
      cases hp
  | cons e es ih =>
      intro p hp
      unfold headingBodies at hp
      split at hp
      · rcases List.mem_cons.mp hp with rfl | hp
        · exact (List.takeWhile_sublist _).cons e
        · exact (ih p hp).cons e
      · exact (ih p hp).cons e

/-- The body of a heading in an ordered sequence is in order itself. -/
theorem renderAll_body (codec : Codec) {es : List Element}
    (hes : es.Pairwise fun a b => a.order ≤ b.order) {p : Element × List Element}
    (hp : p ∈ headingBodies es) :
    Element.renderAll codec p.2 = Element.renderInOrder codec false p.2 := by
  unfold Element.renderAll
  rw [Element.sortByOrder_of_ascending (hes.sublist (body_sublist p hp))]

/-! ## Groups of headings -/

/-- A group is that of a heading with its body. -/
structure IsGroupOf (codec : Codec) (p : Element × List Element) (g : Group) : Prop where
  opener : g.opener = .heading p.1.headingLevel p.1.content (wantedId p.1)
  body : List.Forall₂ (fun e t => e.render codec = .ok t) p.2 g.body

/-- The groups of headings have their bodies; in front of the first heading or metadata element
stand the texts of the elements up to there. -/
theorem forall₂_split {codec : Codec} {es : List Element} {ps : List Piece}
    (h : List.Forall₂ (fun e p => Piece.ofElement codec e = .ok p) es ps) :
    List.Forall₂ (fun e t => e.render codec = .ok t) (es.takeWhile (!endsBody ·)) (split ps).1 ∧
      List.Forall₂ (IsGroupOf codec) (headingBodies es)
        ((split ps).2.filter Group.isHeading) := by
  induction h with
  | nil => exact ⟨List.Forall₂.nil, List.Forall₂.nil⟩
  | @cons e p es ps hp _ ih =>
      obtain ⟨hfront, hgroups⟩ := ih
      -- each kind of piece ends or goes on with the texts as its element does
      cases isPieceOf_of_ofElement hp with
      | text hheading hmetadata hrender =>
          rw [List.takeWhile_cons_of_pos (by simp [endsBody, hheading, hmetadata]), headingBodies,
            if_neg hheading]
          exact ⟨List.Forall₂.cons hrender hfront, hgroups⟩
      | heading hheading =>
          rw [List.takeWhile_cons_of_neg (by simp [endsBody, hheading]), headingBodies,
            if_pos hheading, split, List.filter_cons_of_pos rfl]
          exact ⟨List.Forall₂.nil, List.Forall₂.cons ⟨rfl, hfront⟩ hgroups⟩
      | metadata hheading hmetadata =>
          rw [List.takeWhile_cons_of_neg (by simp [endsBody, hmetadata]), headingBodies,
            if_neg hheading, split, List.filter_cons_of_neg (by simp [Group.isHeading])]
          exact ⟨List.Forall₂.nil, hgroups⟩

/-! ## Rows of headings -/

/-- A row has the title and the level of the heading of a group, and the text of the group. -/
structure IsRowOfGroup (g : Group) (s : Section) : Prop where
  opener : ∃ wanted, g.opener = .heading s.level s.title wanted
  content : s.content = g.text

theorem forall₂_headingRowsFrom (before gs : List Group) :
    List.Forall₂ IsRowOfGroup (gs.filter Group.hasHeadingRow) (headingRowsFrom before gs) := by
  induction gs generalizing before with
  | nil => exact List.Forall₂.nil
  | cons g gs ih =>
      have hrest := ih (g :: before)
      rw [headingRowsFrom]
      cases hrow : g.hasHeadingRow with
      | true =>
          rw [List.filter_cons_of_pos hrow]
          unfold Group.hasHeadingRow at hrow
          cases hopener : g.opener with
          | start => simp [hopener] at hrow
          | metadata content => simp [hopener] at hrow
          | heading level title wanted =>
              exact List.Forall₂.cons ⟨⟨wanted, hopener⟩, rfl⟩ hrest
      | false =>
          rw [List.filter_cons_of_neg (by simp [hrow])]
          cases hopener : g.opener with
          | start => exact hrest
          | metadata content => exact hrest
          | heading level title wanted => exact hrest

/-- The group of a heading is empty exactly if its body is rendered as nothing. -/
theorem text_eq_empty_iff {codec : Codec} {p : Element × List Element} {g : Group}
    (hg : IsGroupOf codec p g)
    (hbody : Element.renderAll codec p.2 = Element.renderInOrder codec false p.2) :
    g.text = "" ↔ (Element.renderAll codec p.2).toOption = some "" := by
  obtain ⟨text, htext, hlength, hsame⟩ := Element.renderInOrder_eq hg.body false
  rw [hbody, htext]
  constructor
  · intro hempty
    have hnone := Element.breaks_eq_zero_of_join_eq_empty hg.body hempty false
    rw [hsame hnone]
    exact congrArg some hempty
  · intro h
    cases h
    -- a text is not longer than what is rendered
    have hshort : g.text.length = 0 := by
      have hempty : ("" : String).length = 0 := rfl
      change (String.join g.body).length = 0
      omega
    exact String.length_eq_zero_iff.mp hshort

theorem makesRow_eq {codec : Codec} {p : Element × List Element} {g : Group}
    (hg : IsGroupOf codec p g)
    (hbody : Element.renderAll codec p.2 = Element.renderInOrder codec false p.2) :
    makesRow codec p = g.hasHeadingRow := by
  unfold makesRow Group.hasHeadingRow
  rw [hg.opener]
  have htext : g.text.isEmpty = ((Element.renderAll codec p.2).toOption == some "") := by
    rw [Bool.eq_iff_iff, String.isEmpty_iff, beq_iff_eq]
    exact text_eq_empty_iff hg hbody
  rw [htext]

/-- A row of the group of a heading is a row of the heading. -/
theorem IsGroupOf.isRowOf {codec : Codec} {p : Element × List Element} {g : Group}
    (hg : IsGroupOf codec p g)
    (hbody : Element.renderAll codec p.2 = Element.renderInOrder codec false p.2) {s : Section}
    (hs : IsRowOfGroup g s) : IsRowOf codec p s := by
  obtain ⟨wanted, hopener⟩ := hs.opener
  obtain ⟨hlevel, htitle, -⟩ := Opener.heading.inj (hopener.symm.trans hg.opener)
  obtain ⟨text, htext, hlength, hsame⟩ := Element.renderInOrder_eq hg.body false
  have hcontent : s.content = String.join g.body := hs.content
  rw [← hcontent] at hlength hsame
  refine ⟨htitle, hlevel, text, hbody.trans htext, ?_, hlength⟩
  constructor
  · intro heq
    rw [heq] at hlength
    omega
  · intro hnone
    exact (hsame hnone).symm

theorem filter_hasHeadingRow (gs : List Group) :
    (gs.filter Group.isHeading).filter Group.hasHeadingRow = gs.filter Group.hasHeadingRow := by
  rw [List.filter_filter]
  apply List.filter_congr
  intro g _
  unfold Group.hasHeadingRow Group.isHeading
  cases g.opener with
  | start => rfl
  | metadata content => rfl
  | heading level title wanted => exact Bool.and_true _

theorem forall₂_trans {α β γ : Type} {R : α → β → Prop} {S : β → γ → Prop} {as : List α}
    {bs : List β} {cs : List γ} (hab : List.Forall₂ R as bs) (hbc : List.Forall₂ S bs cs) :
    List.Forall₂ (fun a c => ∃ b, R a b ∧ S b c) as cs := by
  induction hab generalizing cs with
  | nil =>
      cases hbc
      exact List.Forall₂.nil
  | cons h _ ih =>
      cases hbc with
      | cons h' hrest => exact List.Forall₂.cons ⟨_, h, h'⟩ (ih hrest)

/-- **Contents of rows.** The rows of headings are those of the headings that have a title or a text
in their bodies, in order. The content of each is its rendered body without the empty lines in front
of blocks that directly follow an inline element. -/
theorem rows_follow_headingBodies {codec : Codec} {es : List Element} {sections : List Section}
    (h : reduceSections codec es = .ok sections) :
    List.Forall₂ (IsRowOf codec)
      ((headingBodies (Element.sortByOrder es)).filter (makesRow codec))
      (sections.filter fun s => s.level != 0) := by
  obtain ⟨ps, hps, rfl⟩ := exists_pieces_of_reduceSections h
  have hascending := (Element.stablySorted_sortByOrder es).ascending
  obtain ⟨-, hgroups⟩ := forall₂_split (mapM_eq_ok_iff.mp hps)
  -- every body is in order, so it is rendered as it stands
  have hbodies := (List.forall₂_and_left _ _).mpr
    ⟨fun p hp => renderAll_body codec hascending hp, hgroups⟩
  have hkept := List.rel_filter (p := makesRow codec) (q := Group.hasHeadingRow)
    (fun p g hpg => Bool.eq_iff_iff.mp (makesRow_eq hpg.2 hpg.1)) hbodies
  rw [filter_hasHeadingRow] at hkept
  have hrows := forall₂_headingRowsFrom [] (groupsOf ps)
  rw [groupsOf, List.filter_cons_of_neg (by simp [Group.hasHeadingRow])] at hrows
  unfold rows
  rw [filter_level_rowsFrom (groupsOf_isLeveled hps)]
  refine (forall₂_trans hkept hrows).imp ?_
  rintro p s ⟨g, ⟨hbody, hg⟩, hs⟩
  exact hg.isRowOf hbody hs

/-- A heading with two paragraphs and an inline element under it. -/
def blocksThenInline : List Element :=
  [{ elementType := "heading", content := "A", order := 1 },
    { elementType := "paragraph", content := "x", order := 2 },
    { elementType := "paragraph", content := "y", order := 3 },
    { elementType := "text", content := "z", order := 4 }]

theorem content_blocksThenInline :
    ∃ row text,
      reduceSections .lenient blocksThenInline = .ok [row] ∧
      Element.renderAll .lenient blocksThenInline.tail = .ok text ∧ row.content = text := by
  have hsorted : Element.sortByOrder blocksThenInline = blocksThenInline :=
    Element.sortByOrder_of_ascending (by decide)
  let row : Section := { id := "a", path := "a", level := 1, title := "A", content := "x\n\ny\n\nz" }
  have hreduce : reduceSections .lenient blocksThenInline = .ok [row] := by
    rw [reduceSections_eq_map_rows, hsorted]
    rfl
  have hrows := rows_follow_headingBodies hreduce
  have hbodies : headingBodies blocksThenInline =
      [(blocksThenInline[0], blocksThenInline.tail)] := rfl
  rw [hsorted, hbodies, List.filter_cons_of_pos rfl, List.filter_cons_of_pos rfl] at hrows
  obtain ⟨text, htext, hsame, -⟩ := (List.forall₂_cons.mp hrows).1.content
  exact ⟨row, text, hreduce, htext, hsame.mpr rfl⟩

/-- A heading with an inline element and a block under it. -/
def inlineThenBlock : List Element :=
  [{ elementType := "heading", content := "A", order := 1 },
    { elementType := "text", content := "x", order := 2 },
    { elementType := "paragraph", content := "y", order := 3 }]

/-- The content of the row is not the rendered body. -/
theorem not_content_inlineThenBlock :
    ∃ row text,
      reduceSections .lenient inlineThenBlock = .ok [row] ∧
      (headingBodies (Element.sortByOrder inlineThenBlock)).map (·.2) = [inlineThenBlock.tail] ∧
      Element.renderAll .lenient inlineThenBlock.tail = .ok text ∧ row.content ≠ text := by
  have hsorted : Element.sortByOrder inlineThenBlock = inlineThenBlock :=
    Element.sortByOrder_of_ascending (by decide)
  let row : Section := { id := "a", path := "a", level := 1, title := "A", content := "xy\n\n" }
  refine ⟨row, "x\n\ny\n\n", ?_, ?_, ?_, by decide⟩
  · rw [reduceSections_eq_map_rows, hsorted]
    rfl
  · rw [hsorted]
    rfl
  · unfold Element.renderAll
    rw [Element.sortByOrder_of_ascending (by decide)]
    rfl

end Grouping

end MarkdownSections
