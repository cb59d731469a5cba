import MarkdownSections.Proofs.Section.Breadcrumb
import MarkdownSections.Proofs.Text.Blank

/-!
# Condensed contents

In the smart mode a content that is too long is cut back to a start of it, and marks its subsections
by their ids. Where it is cut depends on the limit and on the text in front of the first nested
heading, which is the content in the minimal mode (`cutBack_spec`). The marked subsections are found
among the headings behind, up to the one that ends the section; with all headings in rows they are
the rows that have the section as their parent (`Section.childRows_eq`).
-/

set_option autoImplicit false

namespace MarkdownSections

open Attempt (exists_of_isSome)

/-! ## Cuts -/

/-- The start of a text, or what stands in front of its last line feed, if that stands behind the
place `half`. -/
inductive IsCutStart (half : Nat) (start kept : List Char) : Prop
  | whole (hkept : kept = start)
      (hearly : ∀ front rest, start = front ++ '\n' :: rest → '\n' ∉ rest → front.length ≤ half)
  | atLineFeed (rest : List Char) (hsplit : start = kept ++ '\n' :: rest) (hrest : '\n' ∉ rest)
      (hlate : half < kept.length)

/-- What is kept of a content longer than `limit`: a start of it within the limit, which is the
lead-in `lead`, if there is one that is not too long, and is otherwise longer than half the limit. -/
structure IsCutBack (limit : Nat) (lead content kept : String) : Prop where
  starts : kept.toList <+: content.toList
  length_le : kept.length ≤ limit
  eq_lead : lead ≠ "" → lead.length ≤ limit → kept = lead
  cut : lead = "" ∨ limit < lead.length →
    limit / 2 < kept.length ∧ IsCutStart (limit / 2) (content.toList.take limit) kept.toList

/-- The line that stands for a subsection. -/
def markerLine (id : String) : String :=
  "\n... (see #" ++ id ++ ")\n"

/-- A content within the limit is kept, and a longer one cut back with the subsections marked behind
it. -/
structure IsCondensed (limit : Nat) (marked : List String) (lead content condensed : String) :
    Prop where
  whole : content.length ≤ limit → condensed = content
  cut : limit < content.length → ∃ kept, IsCutBack limit lead content kept ∧
    condensed = kept ++ String.join (marked.map markerLine)

/-- The last line feed of a text is found where no other stands behind it. -/
theorem lastLineFeed?_cases (cs : List Char) :
    (lastLineFeed? cs = none ∧ '\n' ∉ cs) ∨
      ∃ front rest, cs = front ++ '\n' :: rest ∧ '\n' ∉ rest ∧
        lastLineFeed? cs = some front.length := by
  have hnil : ∀ cs : List Char, '\n' ∉ cs → Text.dropEndWhile (· != '\n') cs = [] :=
    fun cs hcs => Text.dropEndWhile_eq_nil fun c hc => bne_iff_ne.mpr fun h => hcs (h ▸ hc)
  by_cases hmem : '\n' ∈ cs
  · -- the last one is the first one of the reversed text
    obtain ⟨behind, ahead, hreverse, hrest⟩ :=
      List.eq_append_cons_of_mem (List.mem_reverse.mpr hmem)
    have hsplit : cs = ahead.reverse ++ '\n' :: behind.reverse := by
      rw [← List.reverse_reverse cs, hreverse]
      simp
    have hplain : '\n' ∉ behind.reverse := fun h => hrest (List.mem_reverse.mp h)
    refine Or.inr ⟨ahead.reverse, behind.reverse, hsplit, hplain, ?_⟩
    unfold lastLineFeed?
    rw [hsplit, Text.dropEndWhile_append_cons (by decide), hnil _ hplain]
    cases ahead.reverse with
    | nil => rfl
    | cons c cs => simp
  · refine Or.inl ⟨?_, hmem⟩
    unfold lastLineFeed?
    rw [hnil cs hmem]

/-- The place of a last line feed is the same in every split at one. -/
theorem length_eq_of_lastLineFeed {front rest front' rest' : List Char}
    (h : front ++ '\n' :: rest = front' ++ '\n' :: rest') (hrest : '\n' ∉ rest)
    (hrest' : '\n' ∉ rest') : front = front' := by
  rcases List.append_eq_append_iff.mp h with ⟨between, hfront, hbehind⟩ | ⟨between, hfront, hbehind⟩
  · cases between with
    | nil => simpa using hfront.symm
    | cons c between =>
        obtain ⟨-, rfl⟩ := List.cons.inj hbehind
        simp at hrest
  · cases between with
    | nil => simpa using hfront
    | cons c between =>
        obtain ⟨-, rfl⟩ := List.cons.inj hbehind
        simp at hrest'

/-- Without a lead-in that can be kept, a start of the content is kept: in whole, if its last line
feed stands early or nowhere. -/
theorem exists_cutBack_eq {content lead : String} {limit : Nat}
    (hlead : (!lead.isEmpty && lead.length ≤ limit) = false)
    (hlong : limit / 2 < (content.toList.take limit).length) :
    ∃ kept, cutBack content lead limit = String.ofList kept ∧
      kept <+: content.toList.take limit ∧ limit / 2 < kept.length ∧
      IsCutStart (limit / 2) (content.toList.take limit) kept := by
  unfold cutBack
  rw [if_neg (Bool.eq_false_iff.mp hlead)]
  -- without a line feed the text is cut at the limit; with one it is cut there, unless that is in
  -- the first half
  rcases lastLineFeed?_cases (content.toList.take limit) with
    ⟨hnone, hplain⟩ | ⟨front, rest, hsplit, hrest, hsome⟩
  · refine ⟨_, by simp only [hnone], List.prefix_rfl, hlong, .whole rfl fun front rest h _ => ?_⟩
    rw [h] at hplain
    simp at hplain
  · simp only [hsome]
    by_cases hlate : limit / 2 < front.length
    · have hfront : (content.toList.take limit).take front.length = front := by
        rw [hsplit]
        exact List.take_left
      rw [if_pos hlate, hfront]
      exact ⟨front, rfl, hsplit ▸ List.prefix_append _ _, hlate,
        .atLineFeed rest hsplit hrest hlate⟩
    · rw [if_neg hlate]
      refine ⟨_, rfl, List.prefix_rfl, hlong, .whole rfl fun front' rest' h hrest' => ?_⟩
      rw [← length_eq_of_lastLineFeed (hsplit.symm.trans h) hrest hrest']
      exact Nat.le_of_not_lt hlate

/-- **Cuts.** A long content is cut back as its lead-in and the limit say. -/
theorem cutBack_spec {content lead : String} {limit : Nat} (hlimit : 0 < limit)
    (hlong : limit < content.length) (hlead : lead.toList <+: content.toList) :
    IsCutBack limit lead content (cutBack content lead limit) := by
  -- a lead-in within the limit is all that is kept, and otherwise it plays no part
  cases hkeep : !lead.isEmpty && decide (lead.length ≤ limit) with
  | true =>
      have heq : cutBack content lead limit = lead := if_pos hkeep
      simp only [Bool.and_eq_true, Bool.not_eq_true', String.isEmpty_eq_false_iff,
        decide_eq_true_eq] at hkeep
      rw [heq]
      exact
        { starts := hlead
          length_le := hkeep.2
          eq_lead := fun _ _ => rfl
          cut := fun h => h.elim (fun h => absurd h hkeep.1) fun h => by omega }
  | false =>
      have hlength : (content.toList.take limit).length = limit := by
        rw [List.length_take, String.length_toList]
        omega
      have hhalf : limit / 2 < (content.toList.take limit).length := by omega
      obtain ⟨kept, heq, hstarts, hlate, hkept⟩ := exists_cutBack_eq hkeep hhalf
      rw [heq]
      exact
        { starts := by
            rw [String.toList_ofList]
            exact hstarts.trans (List.take_prefix _ _)
          length_le := by
            rw [String.length_ofList]
            exact hstarts.length_le.trans_eq hlength
          eq_lead := fun hne hle => absurd hkeep (by simp [hne, hle])
          cut := fun _ => by
            rw [String.length_ofList, String.toList_ofList]
            exact ⟨hlate, hkept⟩ }

/-- A lead-in that is longer than the limit counts as none. -/
theorem IsCutBack.of_empty {limit : Nat} {lead content kept : String}
    (h : IsCutBack limit "" content kept) (hlead : limit < lead.length) :
    IsCutBack limit lead content kept :=
  { starts := h.starts
    length_le := h.length_le
    eq_lead := fun _ hle => absurd hle (Nat.not_le_of_lt hlead)
    cut := fun _ => h.cut (Or.inl rfl) }

/-! ## Subsections -/

namespace Section

/-- The rows one level below a row that have it as their parent; `above` are the rows in front of
them, latest first. -/
def childRows (s : Section) : List Section → List Section → List Section
  | _, [] => []
  | above, t :: rows =>
    if t.level = s.level + 1 ∧ parentOf above t.level = some s then
      t :: s.childRows (t :: above) rows
    else s.childRows (t :: above) rows

variable {s : Section} {above rows front behind : List Section}

theorem childRows_append (xs ys : List Section) :
    s.childRows above (xs ++ ys) = s.childRows above xs ++ s.childRows (xs.reverse ++ above) ys := by
  induction xs generalizing above with
  | nil => rfl
  | cons t xs ih =>
      rw [List.cons_append, childRows, childRows, ih, List.reverse_cons, List.append_assoc]
      split
      · rfl
      · rfl

/-- A row that does not enclose what follows, and does not stand there, has no children there. -/
theorem childRows_of_notMem (habove : parentOf above (s.level + 1) ≠ some s) (hs : s ∉ rows) :
    s.childRows above rows = [] := by
  induction rows generalizing above with
  | nil => rfl
  | cons t rows ih =>
      have hne : t ≠ s := fun h => hs (h ▸ List.mem_cons_self)
      have hnot : ¬(t.level = s.level + 1 ∧ parentOf above t.level = some s) :=
        fun h => habove (h.1 ▸ h.2)
      rw [childRows, if_neg hnot]
      refine ih ?_ fun h => hs (List.mem_cons_of_mem t h)
      by_cases ht : 0 < t.level ∧ t.level < s.level + 1
      · -- the row itself is the parent from here on
        have hparent : parentOf (t :: above) (s.level + 1) = some t :=
          List.find?_cons_of_pos (by simpa using ht)
        rw [hparent]
        exact fun h => hne (Option.some.inj h)
      · have hparent : parentOf (t :: above) (s.level + 1) = parentOf above (s.level + 1) :=
          List.find?_cons_of_neg (by simpa using ht)
        rwa [hparent]

/-- A row that encloses what follows has its children up to the next row that is not deeper. -/
theorem childRows_of_parent (habove : parentOf above (s.level + 1) = some s) (hs : s ∉ rows)
    (hpos : ∀ t ∈ rows, 0 < t.level) :
    s.childRows above rows =
      (rows.takeWhile fun t => decide (s.level < t.level)).filter (·.level == s.level + 1) := by
  induction rows generalizing above with
  | nil => rfl
  | cons t rows ih =>
      obtain ⟨ht, hpos⟩ := List.forall_mem_cons.mp hpos
      have hne : t ≠ s := fun h => hs (h ▸ List.mem_cons_self)
      have hrest : s ∉ rows := fun h => hs (List.mem_cons_of_mem t h)
      by_cases hdeep : s.level < t.level
      · -- the row is passed by in the search for parents of its own level
        have hparent : parentOf (t :: above) (s.level + 1) = parentOf above (s.level + 1) :=
          List.find?_cons_of_neg (by simp; omega)
        rw [childRows, List.takeWhile_cons_of_pos (by simpa using hdeep), List.filter_cons,
          ih (hparent.trans habove) hrest hpos]
        by_cases hlevel : t.level = s.level + 1
        · rw [if_pos ⟨hlevel, hlevel ▸ habove⟩, if_pos (by simpa using hlevel)]
        · rw [if_neg fun h => hlevel h.1, if_neg (by simpa using hlevel)]
      · -- the row ends the section, and is found in front of `s` from here on
        have hparent : parentOf (t :: above) (s.level + 1) = some t :=
          List.find?_cons_of_pos (by simp; omega)
        have hnone : s.childRows (t :: above) rows = [] :=
          childRows_of_notMem (by rw [hparent]; exact fun h => hne (Option.some.inj h)) hrest
        rw [childRows, if_neg fun h => by omega,
          List.takeWhile_cons_of_neg (by simpa using hdeep), hnone]
        rfl

/-- The children of a row stand behind it, up to the next row that is not deeper. -/
theorem childRows_eq (hnodup : (front ++ s :: behind).Nodup) (hs : 0 < s.level)
    (hpos : ∀ t ∈ behind, 0 < t.level) :
    s.childRows [] (front ++ s :: behind) =
      (behind.takeWhile fun t => decide (s.level < t.level)).filter (·.level == s.level + 1) := by
  obtain ⟨-, hbehind, hfront⟩ := List.nodup_append.mp hnodup
  have hself : parentOf (s :: (front.reverse ++ [])) (s.level + 1) = some s :=
    List.find?_cons_of_pos (by simp; omega)
  have hnone : s.childRows [] front = [] :=
    childRows_of_notMem (by simp [parentOf]) fun h => hfront s h s List.mem_cons_self rfl
  rw [childRows_append, hnone, List.nil_append, childRows, if_neg fun h => by omega]
  exact childRows_of_parent hself (List.nodup_cons.mp hbehind).1 hpos

/-- An id that is not empty stands for one parent. -/
theorem parentId_eq_iff (hids : (rows.map (·.id)).Nodup) (hparents : Parented rows) (hs : s ∈ rows)
    (hne : s.id ≠ "") {t : Section} (hsplit : rows = front ++ t :: behind) :
    t.parentId = s.id ↔ parentOf front.reverse t.level = some s := by
  rw [hparents front t behind hsplit]
  cases hparent : parentOf front.reverse t.level with
  | none => exact iff_of_false (fun h => hne h.symm) fun h => nomatch h
  | some p =>
      have hp : p ∈ rows := by
        rw [hsplit]
        exact List.mem_append_left _ (List.mem_reverse.mp (List.mem_of_find?_eq_some hparent))
      constructor
      · intro (h : p.id = s.id)
        rw [← find?_id_eq hids hp, ← find?_id_eq hids hs, h]
      · exact fun h => congrArg id (Option.some.inj h)

/-- Unless its id is empty, the children of a row are those with its id as their parent id. -/
theorem childRows_eq_filter (hids : (rows.map (·.id)).Nodup) (hparents : Parented rows)
    (hs : s ∈ rows) (hne : s.id ≠ "") (hsplit : rows = front ++ behind) :
    s.childRows front.reverse behind =
      behind.filter fun t => t.level == s.level + 1 && t.parentId == s.id := by
  -- the rows in front grow with each row that is passed, as the parent is looked up among them
  induction behind generalizing front with
  | nil => rfl
  | cons t behind ih =>
      have hnext : rows = (front ++ [t]) ++ behind := by
        rw [hsplit]
        simp
      have hrest := ih hnext
      rw [List.reverse_append] at hrest
      have hiff := parentId_eq_iff hids hparents hs hne hsplit
      rw [childRows, List.filter_cons]
      simp only [Bool.and_eq_true, beq_iff_eq, hiff, ← hrest]
      rfl

end Section

/-! ## Headings -/

theorem SectionOptions.limit_pos (o : SectionOptions) : 0 < o.limit := by
  unfold limit
  split
  · omega
  · decide

/-- The ids that mark the headings one level deeper than `level`, among those up to the next heading
that is not deeper: their own, and those that their titles would have if they have none. -/
def Heading.nestedIds (level : Int) (later : List Heading) : List String :=
  ((later.takeWhile fun j => decide (level < j.level)).filter (·.level == level + 1)).map
    fun j => j.id.getD (slugify j.title)

namespace Document

variable {d : Document} {o : SectionOptions}

/-- Whatever levels are wanted, a heading is referred to by its id, or by its slug if it has none. -/
theorem reference_eq {h : Heading} (hmem : h ∈ d.headings o) :
    h.reference = h.id.getD (slugify h.title) := by
  have hgiven := id_of_mem_headings hmem
  unfold Heading.reference
  split at hgiven
  · obtain ⟨taken, hid⟩ := hgiven
    rw [hid]
    simp only [Option.getD_some]
    split
    · next hempty =>
        have hslug := SlugRegistry.eq_empty_of_freeId_eq_empty _ _ (String.isEmpty_iff.mp hempty)
        exact hslug.trans (String.isEmpty_iff.mp hempty).symm
    · rfl
  · rw [hgiven]
    rfl

/-- Up to the first nested heading, the blocks of a section are those up to any heading. -/
theorem takeWhile_body_full (h : Heading) :
    (h.body .full).takeWhile (!·.isHeading) = h.body .minimal := by
  rw [body_full, body_minimal, List.takeWhile_takeWhile]
  congr 1
  funext n
  cases n.isHeading with
  | true => rfl
  | false => rfl

/-- The text in front of the first nested heading is the content in the minimal mode; without nested
headings, that is the whole content. -/
theorem leadIn_body_full (h : Heading) :
    leadIn (h.body .full) = h.body .minimal ∨
      (leadIn (h.body .full) = [] ∧ h.body .minimal = h.body .full) := by
  unfold leadIn
  split
  · exact Or.inl (takeWhile_body_full h)
  · next hplain =>
      refine Or.inr ⟨rfl, ?_⟩
      rw [← takeWhile_body_full, List.takeWhile_eq_self_iff]
      simpa using hplain

theorem minimal_isStart (d : Document) (h : Heading) :
    (d.textOf (h.body .minimal)).toList <+: (d.textOf (h.body .full)).toList := by
  obtain ⟨rest, hsplit⟩ := List.takeWhile_prefix (l := h.body .full) (!·.isHeading)
  rw [← hsplit, takeWhile_body_full, textOf_append, String.toList_append]
  exact List.prefix_append _ _

/-- **Condensed contents.** The content of the section of a heading in the smart mode, by those in
the other two modes. -/
theorem contentOf_smart {front later : List Heading} {h : Heading}
    (hsplit : d.headings o = front ++ h :: later) :
    IsCondensed o.limit (Heading.nestedIds h.level later) (d.textOf (h.body .minimal))
      (d.textOf (h.body .full)) (d.contentOf { o with mode := .smart } h later) := by
  have hlimit : ({ o with mode := .smart } : SectionOptions).limit = o.limit := rfl
  have hbody : h.body .smart = h.body .full := rfl
  have hmarkers : (childrenOf h.level later).map referenceLine =
      (Heading.nestedIds h.level later).map markerLine := by
    unfold Heading.nestedIds
    rw [List.map_map]
    refine List.map_congr_left fun j hj => ?_
    have hmem : j ∈ later := (List.takeWhile_sublist _).subset (List.mem_filter.mp hj).1
    exact congrArg markerLine (reference_eq (o := o) (by rw [hsplit]; simp [hmem]))
  unfold contentOf
  simp only [hlimit, hbody, beq_self_eq_true, Bool.true_and, decide_eq_true_eq, hmarkers]
  refine { whole := fun hshort => if_neg (Nat.not_lt_of_le hshort), cut := fun hlong => ?_ }
  rw [if_pos hlong]
  refine ⟨_, ?_, rfl⟩
  rcases leadIn_body_full h with hlead | ⟨hnone, hsame⟩
  · rw [hlead]
    exact cutBack_spec o.limit_pos hlong (d.minimal_isStart h)
  · -- no heading is nested, and the minimal content is as long as the full one
    rw [hnone, hsame]
    have hempty : (d.textOf []).toList <+: (d.textOf (h.body .full)).toList := List.nil_prefix
    exact (cutBack_spec o.limit_pos hlong hempty).of_empty hlong

/-- Every heading with an id has a row, and the rows behind it are those of the headings behind. -/
theorem exists_row_of_rows {above : List Section} {hs : List Heading} {rows : List Section}
    (hrows : d.rows o above hs = .ok rows) {front later : List Heading} {h : Heading} {id : String}
    (hsplit : hs = front ++ h :: later) (hid : h.id = some id) :
    ∃ before s behind, rows = before ++ s :: behind ∧ s.id = id ∧ s.level = h.level ∧
      s.content = (if o.includeContent then d.contentOf o h later else "") ∧
      behind.map (fun t => (t.level, t.id)) = Heading.marks later := by
  subst hsplit
  -- headings without ids make no rows, so the places of headings and rows are found side by side
  induction front generalizing above rows with
  | nil =>
      obtain ⟨line, rest, rfl, hrest⟩ := exists_of_rows_cons hid hrows
      exact ⟨[], _, rest, rfl, rfl, rfl, rfl, map_mark_of_rows hrest⟩
  | cons x front ih =>
      rw [List.cons_append] at hrows
      cases hx : x.id with
      | none =>
          rw [rows_cons_of_none d o above hx] at hrows
          exact ih hrows
      | some idx =>
          obtain ⟨line, rest, rfl, hrest⟩ := exists_of_rows_cons hx hrows
          obtain ⟨before, s, behind, rfl, hs⟩ := ih hrest
          exact ⟨_ :: before, s, behind, rfl, hs⟩

/-- The row with the id of a heading is the row of that heading. -/
theorem row_of_sections {rows : List Section} (hrows : d.sections o = .ok rows)
    {front later : List Heading} {h : Heading} {id : String}
    (hsplit : d.headings o = front ++ h :: later) (hid : h.id = some id) {s : Section}
    (hs : s ∈ rows) (hsid : s.id = id) :
    ∃ before behind, rows = before ++ s :: behind ∧ s.level = h.level ∧
      s.content = (if o.includeContent then d.contentOf o h later else "") ∧
      behind.map (fun t => (t.level, t.id)) = Heading.marks later := by
  have hids := nodup_ids_of_sections hrows
  obtain ⟨made, hmade, hheadings⟩ := exists_of_sections hrows
  obtain ⟨before, t, behind, rfl, ht, hfacts⟩ := exists_row_of_rows hheadings hsplit hid
  have hmem : t ∈ rows := by
    rw [hmade]
    simp
  -- ids are different, so the row that was asked for is the one of the heading
  have hsame : s = t := by
    have hfind := find?_id_eq hids hs
    rw [hsid, ← ht, find?_id_eq hids hmem] at hfind
    exact (Option.some.inj hfind).symm
  rw [hsame]
  exact ⟨d.frontmatterRow o ++ before, behind, by rw [hmade, List.append_assoc], hfacts⟩

theorem marks_of_ids {hs : List Heading} (hids : ∀ h ∈ hs, ∃ id, h.id = some id) :
    Heading.marks hs = hs.map fun h => (h.level, h.id.getD (slugify h.title)) := by
  induction hs with
  | nil => rfl
  | cons h hs ih =>
      obtain ⟨⟨id, hid⟩, hids⟩ := List.forall_mem_cons.mp hids
      rw [Heading.marks_cons_of_id hid, List.map_cons, ih hids, hid]
      rfl

/-- If all headings behind have ids, the marked ones are those of the rows that are one level deeper
than the section and in front of the next row that is not. -/
theorem nestedIds_eq {later : List Heading} (hids : ∀ h ∈ later, ∃ id, h.id = some id)
    {behind : List Section} (hmarks : behind.map (fun t => (t.level, t.id)) = Heading.marks later)
    (level : Int) :
    Heading.nestedIds level later =
      ((behind.takeWhile fun t => decide (level < t.level)).filter (·.level == level + 1)).map
        (·.id) := by
  rw [marks_of_ids hids] at hmarks
  have hsame := congrArg (fun ms : List (Int × String) =>
    ((ms.takeWhile fun m => decide (level < m.1)).filter fun m => m.1 == level + 1).map (·.2)) hmarks
  simp only [List.takeWhile_map, List.filter_map, List.map_map] at hsame
  exact hsame.symm

/-- With all levels wanted, the marked subsections are the children of the row. -/
theorem nestedIds_eq_childRows (hd : d.WellHeaded) {rows : List Section}
    (hrows : d.sections o = .ok rows) (hmin : o.minLevel ≤ 1) (hmax : 6 ≤ o.maxLevel)
    {front later : List Heading} {h : Heading} (hsplit : d.headings o = front ++ h :: later)
    {before behind : List Section} {s : Section} (hat : rows = before ++ s :: behind)
    (hlevel : s.level = h.level)
    (hmarks : behind.map (fun t => (t.level, t.id)) = Heading.marks later) :
    Heading.nestedIds h.level later = (s.childRows [] rows).map (·.id) := by
  have hlevels : ∀ x ∈ d.headings o, 1 ≤ x.level ∧ x.level ≤ 6 := fun x hx =>
    (hd.of_mem_headings hx).2.2
  have hlater : ∀ x ∈ later, x ∈ d.headings o := fun x hx => by
    rw [hsplit]
    simp [hx]
  -- all levels are wanted, so every heading has an id and a row
  have hids : ∀ x ∈ later, ∃ id, x.id = some id := by
    intro x hx
    obtain ⟨hlow, hhigh⟩ := hlevels x (hlater x hx)
    apply exists_id_of_includes (hlater x hx)
    simp only [SectionOptions.includes, Bool.and_eq_true, decide_eq_true_eq]
    omega
  have hnodup : (before ++ s :: behind).Nodup := by
    rw [← hat]
    exact List.Nodup.of_map _ (nodup_ids_of_sections hrows)
  have hpos : 0 < s.level := by
    rw [hlevel]
    exact (hlevels h (by rw [hsplit]; simp)).1
  have hbehind := level_pos_of_marks hmarks fun x hx => (hlevels x (hlater x hx)).1
  rw [hat, Section.childRows_eq hnodup hpos hbehind, nestedIds_eq hids hmarks, hlevel]

/-- **Smart mode.** In every document whose headings are of the six levels and cover lines, the rows
of the three modes belong to the same headings. A content in the smart mode is the one in the full
mode, if that is within the limit, and is otherwise cut back to a start of it that may be the content
in the minimal mode, with a marker for each heading one level deeper behind it. With all levels
wanted, these are the ids of the children of the row. -/
theorem WellHeaded.smart_contents {d : Document} (hd : d.WellHeaded) (o : SectionOptions) :
    ∃ minimal full smart,
      d.sections { o with mode := .minimal } = .ok minimal ∧
      d.sections { o with mode := .full } = .ok full ∧
      d.sections { o with mode := .smart } = .ok smart ∧
      (∀ rows ∈ [minimal, full, smart],
        (Section.ofHeadings rows).map (fun s => (s.level, s.id)) =
          Heading.marks (d.headings o)) ∧
      ∀ front h later id, d.headings o = front ++ h :: later → h.id = some id →
        ∀ m ∈ minimal, ∀ f ∈ full, ∀ s ∈ smart, m.id = id → f.id = id → s.id = id →
          IsCondensed o.limit (Heading.nestedIds h.level later) m.content f.content s.content ∧
          (o.minLevel ≤ 1 → 6 ≤ o.maxLevel →
            Heading.nestedIds h.level later = (s.childRows [] smart).map (·.id) ∧
            (id ≠ "" → s.childRows [] smart =
              smart.filter fun t => t.level == s.level + 1 && t.parentId == id)) := by
  have hheadings : ∀ mode, d.headings { o with mode := mode } = d.headings o := fun _ =>
    d.headings_congr rfl
  have hmarks : ∀ mode, (Section.ofHeadings (d.frontmatterRow { o with mode := mode } ++
      d.headingRows { o with mode := mode } [] (d.headings { o with mode := mode }))).map
        (fun s => (s.level, s.id)) = Heading.marks (d.headings o) := by
    intro mode
    rw [ofHeadings_frontmatterRow_append d _ hd.level_pos_of_mem]
    obtain ⟨made, hrows, hmade⟩ := exists_of_sections (sections_eq hd { o with mode := mode })
    rw [List.append_cancel_left hrows, map_mark_of_rows hmade, hheadings]
  have hminimal := sections_eq hd { o with mode := .minimal }
  have hfull := sections_eq hd { o with mode := .full }
  have hsmart := sections_eq hd { o with mode := .smart }
  refine ⟨_, _, _, hminimal, hfull, hsmart, ?_, ?_⟩
  · intro rows hrows
    simp only [List.mem_cons, List.not_mem_nil, or_false] at hrows
    rcases hrows with rfl | rfl | rfl
    · exact hmarks .minimal
    · exact hmarks .full
    · exact hmarks .smart
  · intro front h later id hsplit hid m hm f hf s hs hmid hfid hsid
    have hsplits : ∀ mode, d.headings { o with mode := mode } = front ++ h :: later := fun mode =>
      (hheadings mode).trans hsplit
    obtain ⟨-, -, -, -, hmtext, -⟩ := row_of_sections hminimal (hsplits _) hid hm hmid
    obtain ⟨-, -, -, -, hftext, -⟩ := row_of_sections hfull (hsplits _) hid hf hfid
    obtain ⟨before, behind, hat, hlevel, hstext, hbehind⟩ :=
      row_of_sections hsmart (hsplits _) hid hs hsid
    refine ⟨?_, fun hmin hmax => ⟨?_, fun hne => ?_⟩⟩
    · rw [hmtext, hftext, hstext]
      split
      · rw [contentOf_of_ne_smart d (by exact fun h => nomatch h),
          contentOf_of_ne_smart d (by exact fun h => nomatch h)]
        exact contentOf_smart hsplit
      · -- without contents nothing is too long
        exact { whole := fun _ => rfl, cut := fun h => absurd h (Nat.not_lt_zero _) }
    · exact nestedIds_eq_childRows hd hsmart hmin hmax (hsplits _) hat hlevel hbehind
    · rw [← hsid] at hne ⊢
      exact Section.childRows_eq_filter (nodup_ids_of_sections hsmart) (parented_of_sections hsmart)
        hs hne (List.nil_append _).symm

/-- A heading with a short text and two headings below it. -/
def guideText : String :=
  "# G\n\nIn.\n## A\na b c\n## B\n"

theorem smart_contents_guide :
    ∃ d minimal full smart, ofText guideText = .ok d ∧ d.WellHeaded ∧
      d.sections { mode := .minimal, maxContentLength := 9 } = .ok minimal ∧
      d.sections { mode := .full, maxContentLength := 9 } = .ok full ∧
      d.sections { mode := .smart, maxContentLength := 9 } = .ok smart ∧
      IsCondensed 9 ["a", "b"] minimal[0]!.content full[0]!.content smart[0]!.content ∧
      9 < full[0]!.content.length ∧
      smart[0]!.content = "In.\n\n\n... (see #a)\n\n... (see #b)\n" ∧
      ["a", "b"] = (smart[0]!.childRows [] smart).map (·.id) := by
  obtain ⟨d, hread⟩ := exists_of_isSome (x := ofText guideText) (by decide +kernel)
  have hheads : ∀ d ∈ (ofText guideText).toOption,
      (∀ n ∈ d.blocks, n.isHeading = true → n.tag ∈ Node.headingTags) ∧
        (∀ n ∈ d.blocks, n.isHeading = true → n.lines.isSome = true) ∧
        (d.headings { maxContentLength := 9 }).head?.map (fun h => (h.level, h.id)) =
          some (1, some "g") ∧
        Heading.nestedIds 1 (d.headings { maxContentLength := 9 }).tail = ["a", "b"] := by
    decide +kernel
  have hrows : ∀ d ∈ (ofText guideText).toOption, ∀ p ∈ [(ContentMode.minimal, 0), (.full, 10),
      (.smart, 0)], ∀ rows ∈ (d.sections { mode := p.1, maxContentLength := 9 }).toOption,
        rows[0]! ∈ rows ∧ rows[0]!.id = "g" ∧ p.2 ≤ rows[0]!.content.length ∧
          (p.1 = .smart →
            rows[0]!.content = "In.\n\n\n... (see #a)\n\n... (see #b)\n") := by
    decide +kernel
  have hmem : d ∈ (ofText guideText).toOption := by
    rw [hread]
    rfl
  obtain ⟨htagged, hplaced, hhead, hnested⟩ := hheads d hmem
  have hd : d.WellHeaded := ⟨htagged, hplaced⟩
  obtain ⟨minimal, full, smart, hminimal, hfull, hsmart, -, hall⟩ :=
    hd.smart_contents { maxContentLength := 9 }
  obtain ⟨h, hfirst, hfacts⟩ := Option.map_eq_some_iff.mp hhead
  obtain ⟨later, hheadings⟩ := List.head?_eq_some_iff.mp hfirst
  obtain ⟨hlevel, hid⟩ := Prod.mk.inj hfacts
  rw [hheadings, List.tail_cons] at hnested
  obtain ⟨hm, hmid, -⟩ := hrows d hmem (.minimal, 0) (by decide) minimal (by rw [hminimal]; rfl)
  obtain ⟨hf, hfid, hlong, -⟩ := hrows d hmem (.full, 10) (by decide) full (by rw [hfull]; rfl)
  obtain ⟨hs, hsid, -, htext⟩ := hrows d hmem (.smart, 0) (by decide) smart (by rw [hsmart]; rfl)
  obtain ⟨hcondensed, hchildren⟩ :=
    hall [] h later "g" hheadings hid _ hm _ hf _ hs hmid hfid hsid
  rw [hlevel, hnested] at hcondensed hchildren
  exact ⟨d, minimal, full, smart, hread, hd, hminimal, hfull, hsmart, hcondensed, hlong, htext rfl,
    (hchildren (by decide) (by decide)).1⟩

end Document

end MarkdownSections
