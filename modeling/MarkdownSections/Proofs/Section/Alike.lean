import MarkdownSections.Proofs.Section.Agreement

/-!
# What the rows of headings depend on

The rows that a sequence of elements is grouped into keep the texts of the elements, but the ids,
levels, titles and parents of the rows of headings do not depend on these texts. Of a text it only
matters whether it is empty: a heading without a title has no row in front of empty texts, and the
empty id is taken only if there is loose text. Sequences that are alike up to this are grouped into
rows of headings with the same outlines (`outlines_of_alike`).
-/

set_option autoImplicit false

namespace MarkdownSections.Grouping

open SlugRegistry (freeId)

/-- Pieces that differ only in texts that are not empty. -/
inductive Piece.Alike : Piece → Piece → Prop
  | heading (level : Int) (title wanted : String) :
      Alike (.heading level title wanted) (.heading level title wanted)
  | metadata (content : String) : Alike (.metadata content) (.metadata content)
  | text {s t : String} (h : s.isEmpty = t.isEmpty) : Alike (.text s) (.text t)

/-- Groups behind the same opener that both have a text or both have none. -/
structure Group.Alike (g g' : Group) : Prop where
  opener : g.opener = g'.opener
  isEmpty_text : g.text.isEmpty = g'.text.isEmpty

/-! ## Groups that are alike -/

section Groups

variable {g g' : Group} {before before' gs gs' : List Group}

theorem Group.Alike.isEmpty_looseText (h : g.Alike g') :
    g.looseText.isEmpty = g'.looseText.isEmpty := by
  unfold Group.looseText
  rw [h.opener]
  cases g'.opener with
  | heading level title wanted => rfl
  | start => exact h.isEmpty_text
  | metadata content => exact h.isEmpty_text

theorem Group.Alike.hasHeadingRow (h : g.Alike g') : g.hasHeadingRow = g'.hasHeadingRow := by
  unfold Group.hasHeadingRow
  rw [h.opener, h.isEmpty_text]

/-- Groups that are alike take the same ids. -/
theorem takenBy_of_alike (h : List.Forall₂ Group.Alike before before') :
    takenBy before = takenBy before' := by
  induction h with
  | nil => rfl
  | cons hg _ ih => rw [takenBy, takenBy, hg.opener, hg.isEmpty_looseText, ih]

/-- Groups that are alike have the same headings. -/
theorem headingsOf_of_alike (h : List.Forall₂ Group.Alike before before') :
    headingsOf before = headingsOf before' := by
  induction h with
  | nil => rfl
  | cons hg hbefore ih => rw [headingsOf, headingsOf, hg.opener, takenBy_of_alike hbefore, ih]

/-- The outline of the row of a heading does not depend on the texts. -/
theorem outline_headingRow_of_alike (h : List.Forall₂ Group.Alike before before') (level : Int)
    (title wanted text text' : String) :
    (headingRow before level title wanted text).outline =
      (headingRow before' level title wanted text').outline := by
  unfold headingRow
  rw [takenBy_of_alike h, headingsOf_of_alike h]
  rfl

/-- Groups that are alike make rows of headings with the same outlines. -/
theorem outlines_headingRowsFrom_of_alike (hgs : List.Forall₂ Group.Alike gs gs')
    (hbefore : List.Forall₂ Group.Alike before before') :
    (headingRowsFrom before gs).map Section.outline =
      (headingRowsFrom before' gs').map Section.outline := by
  induction hgs generalizing before before' with
  | nil => rfl
  | cons hg _ ih =>
      rw [headingRowsFrom, headingRowsFrom, List.map_append, List.map_append,
        ih (List.Forall₂.cons hg hbefore), hg.opener, hg.hasHeadingRow]
      -- only a heading with a title or a text makes a row
      split
      · next level title wanted _ =>
          split
          · rw [List.map_singleton, List.map_singleton,
              outline_headingRow_of_alike hbefore level title wanted]
          · rfl
      · rfl

end Groups

/-! ## Pieces that are alike -/

section Pieces

variable {ps ps' : List Piece} (h : List.Forall₂ Piece.Alike ps ps')

include h

theorem split_of_alike :
    (String.join (split ps).1).isEmpty = (String.join (split ps').1).isEmpty ∧
      List.Forall₂ Group.Alike (split ps).2 (split ps').2 := by
  induction h with
  | nil => exact ⟨rfl, List.Forall₂.nil⟩
  | cons hp _ ih =>
      -- a text goes to the group in front of it, anything else opens a group
      cases hp with
      | text hs =>
          rw [split, split, String.join_cons, String.join_cons, isEmpty_append, isEmpty_append, hs,
            ih.1]
          exact ⟨rfl, ih.2⟩
      | heading level title wanted => exact ⟨rfl, List.Forall₂.cons ⟨rfl, ih.1⟩ ih.2⟩
      | metadata content => exact ⟨rfl, List.Forall₂.cons ⟨rfl, ih.1⟩ ih.2⟩

theorem groupsOf_of_alike : List.Forall₂ Group.Alike (groupsOf ps) (groupsOf ps') := by
  obtain ⟨htext, hgroups⟩ := split_of_alike h
  exact List.Forall₂.cons ⟨rfl, htext⟩ hgroups

/-- **What grouping reads.** Pieces that differ only in texts that are not empty make rows of headings
with the same outlines. -/
theorem outlines_of_alike :
    (headingRowsFrom [] (groupsOf ps)).map Section.outline =
      (headingRowsFrom [] (groupsOf ps')).map Section.outline :=
  outlines_headingRowsFrom_of_alike (groupsOf_of_alike h) List.Forall₂.nil

end Pieces

end MarkdownSections.Grouping
