import MarkdownSections.Proofs.Section.Rows

/-!
# The lines that sections cover

In a document whose blocks cover lines one behind the other (`Document.LaidOut`), the section of a
heading starts at its heading and ends in front of the heading that closes it. With nested text
taken in, a later section then lies inside an earlier one exactly if the path of the earlier one
leads to it, and behind it otherwise (`Document.LaidOut.ranges_follow_paths`).

The range of a heading is found by a search forward over all headings, and its path by a search
backward over the rows made before. Both are compared with the levels in between: the search
forward stops at a heading that is not deeper (`headingLine_le_endOf_iff`), and so does the search
backward (`Outline.pathOf_prefix_iff`).
-/

set_option autoImplicit false

namespace MarkdownSections

open Outline (enclosing)

/-- The top-level headings are of levels one to six, and the top-level blocks cover lines of the
body, each behind the one in front of it. -/
structure Document.LaidOut (d : Document) : Prop where
  tagged : ∀ n ∈ d.blocks, n.isHeading = true → n.tag ∈ Node.headingTags
  covers : ∀ n ∈ d.blocks, ∃ lines ∈ n.lines,
    0 ≤ lines.1 ∧ lines.1 < lines.2 ∧ lines.2 ≤ d.lines.length
  ascends : d.blocks.Pairwise fun m n => ∀ lines ∈ m.lines, ∀ next ∈ n.lines, lines.2 ≤ next.1

/-- The path of one row leads to another row: a slash and more ids follow it there. -/
def Section.LeadsTo (r s : Section) : Prop :=
  (r.path ++ "/").toList <+: s.path.toList

/-- The lines that a row covers. -/
def Section.Spans (s : Section) (first last : Int) : Prop :=
  s.startLine = some first ∧ s.endLine = some last

/-- Of two rows, the second starts within the lines of the first exactly if the path of the first
leads to it. It then lies inside these lines, and otherwise behind them. -/
def Section.RangesFollowPaths (r s : Section) : Prop :=
  ∃ first last first' last', r.Spans first last ∧ s.Spans first' last' ∧
    (r.LeadsTo s ↔ first' ≤ last) ∧ ((first < first' ∧ last' ≤ last) ∨ last < first')

/-! ## Where headings start -/

namespace Document

/-- The number of the line at which a heading starts. -/
def headingLine (d : Document) (h : Heading) : Int :=
  (d.startLine h.node).getD 0

/-- Headings that start on lines of the body, one behind the other. -/
structure Ascending (d : Document) (hs : List Heading) : Prop where
  starts : ∀ h ∈ hs, d.startLine h.node = some (d.headingLine h) ∧
    d.lineOffset < d.headingLine h ∧ d.headingLine h ≤ d.lastLine
  ordered : hs.Pairwise fun h x => d.headingLine h < d.headingLine x

namespace Ascending

variable {d : Document} {h : Heading} {hs later between behind : List Heading}

theorem of_cons (hd : d.Ascending (h :: hs)) : d.Ascending hs :=
  ⟨fun x hx => hd.starts x (List.mem_cons_of_mem h hx), (List.pairwise_cons.mp hd.ordered).2⟩

theorem of_append (hd : d.Ascending (between ++ hs)) : d.Ascending hs :=
  ⟨fun x hx => hd.starts x (List.mem_append_right between hx),
    (List.pairwise_append.mp hd.ordered).2.1⟩

theorem lt (hd : d.Ascending (h :: hs)) {x : Heading} (hx : x ∈ hs) :
    d.headingLine h < d.headingLine x :=
  (List.pairwise_cons.mp hd.ordered).1 x hx

end Ascending

/-! ## Where sections end -/

section Ends

variable {d : Document} (o : SectionOptions) {h x y : Heading} {later between behind : List Heading}

theorem endOf_cons_of_closes (d : Document) (hy : Heading.closes o.mode h.level y.level = true)
    (later : List Heading) : d.endOf o h (y :: later) = d.headingLine y - 1 := by
  unfold endOf
  rw [List.find?_cons_of_pos (by exact hy)]
  rfl

theorem endOf_cons_of_not_closes (d : Document)
    (hy : ¬Heading.closes o.mode h.level y.level = true) (later : List Heading) :
    d.endOf o h (y :: later) = d.endOf o h later := by
  unfold endOf
  rw [List.find?_cons_of_neg (by exact hy)]

/-- A section ends on the last line or in front of one of the headings behind it. -/
theorem le_endOf {line : Int} (hlast : line ≤ d.lastLine)
    (hlater : ∀ x ∈ later, line < d.headingLine x) : line ≤ d.endOf o h later := by
  induction later with
  | nil => exact hlast
  | cons y later ih =>
      -- either `y` ends the section, or it does not count
      by_cases hy : Heading.closes o.mode h.level y.level = true
      · rw [endOf_cons_of_closes o d hy]
        have hlt := hlater y List.mem_cons_self
        omega
      · rw [endOf_cons_of_not_closes o d hy]
        exact ih fun x hx => hlater x (List.mem_cons_of_mem y hx)

theorem endOf_le_lastLine (hd : d.Ascending later) : d.endOf o h later ≤ d.lastLine := by
  induction later with
  | nil => exact Int.le_refl d.lastLine
  | cons y later ih =>
      by_cases hy : Heading.closes o.mode h.level y.level = true
      · rw [endOf_cons_of_closes o d hy]
        obtain ⟨-, -, hle⟩ := hd.starts y List.mem_cons_self
        omega
      · rw [endOf_cons_of_not_closes o d hy]
        exact ih hd.of_cons

/-- The lines of a section are not empty and end no later than the text. -/
theorem endOf_bounds (hd : d.Ascending (h :: later)) :
    d.headingLine h ≤ d.endOf o h later ∧ d.endOf o h later ≤ d.lastLine := by
  refine ⟨le_endOf o ?_ fun x hx => hd.lt hx, endOf_le_lastLine o hd.of_cons⟩
  obtain ⟨-, -, hle⟩ := hd.starts h List.mem_cons_self
  exact hle

/-- A section ends in front of every heading that can close it. -/
theorem endOf_lt_of_closes (hd : d.Ascending later) (hy : y ∈ later)
    (hcloses : Heading.closes o.mode h.level y.level = true) :
    d.endOf o h later < d.headingLine y := by
  induction later with
  | nil => cases hy
  | cons z later ih =>
      by_cases hz : Heading.closes o.mode h.level z.level = true
      · rw [endOf_cons_of_closes o d hz]
        -- `y` is the heading that ends the section, or stands behind it
        rcases List.mem_cons.mp hy with rfl | hy
        · omega
        · have hlt := hd.lt hy
          omega
      · rw [endOf_cons_of_not_closes o d hz]
        rcases List.mem_cons.mp hy with rfl | hy
        · exact absurd hcloses hz
        · exact ih hd.of_cons hy

/-- Headings that do not close a section do not move its end. -/
theorem endOf_append_of_not_closes (d : Document)
    (hbetween : ∀ y ∈ between, ¬Heading.closes o.mode h.level y.level = true) :
    d.endOf o h (between ++ behind) = d.endOf o h behind := by
  induction between with
  | nil => rfl
  | cons y between ih =>
      rw [List.cons_append, endOf_cons_of_not_closes o d (hbetween y List.mem_cons_self)]
      exact ih fun z hz => hbetween z (List.mem_cons_of_mem y hz)

theorem closes_of_le (mode : ContentMode) {level level' next : Int} (hle : level ≤ level')
    (hcloses : Heading.closes mode level next = true) :
    Heading.closes mode level' next = true := by
  unfold Heading.closes at hcloses ⊢
  rw [Bool.or_eq_true, decide_eq_true_eq] at hcloses ⊢
  exact hcloses.imp_right fun h => Int.le_trans h hle

/-- Among the same headings, the section of a deeper one ends no later. -/
theorem endOf_le_endOf (hd : d.Ascending later) (hlevel : h.level ≤ x.level) :
    d.endOf o x later ≤ d.endOf o h later := by
  induction later with
  | nil => exact Int.le_refl d.lastLine
  | cons y later ih =>
      by_cases hx : Heading.closes o.mode x.level y.level = true
      · rw [endOf_cons_of_closes o d hx]
        obtain ⟨-, -, hle⟩ := hd.starts y List.mem_cons_self
        -- the shallower section ends here or at a later heading
        refine le_endOf o (by omega) fun z hz => ?_
        rcases List.mem_cons.mp hz with rfl | hz
        · omega
        · have hlt := hd.lt hz
          omega
      · have hh : ¬Heading.closes o.mode h.level y.level = true := fun h' =>
          hx (closes_of_le o.mode hlevel h')
        rw [endOf_cons_of_not_closes o d hx, endOf_cons_of_not_closes o d hh]
        exact ih hd.of_cons

end Ends

/-! ### Nested text taken in -/

section Full

variable {d : Document} {o : SectionOptions} {h x : Heading} {between behind : List Heading}

theorem closes_iff_of_full (hmode : o.mode = .full) (h y : Heading) :
    Heading.closes o.mode h.level y.level = true ↔ y.level ≤ h.level := by
  simp [Heading.closes, hmode]

/-- Deeper headings do not move the end of a section. -/
theorem endOf_eq_of_deep (d : Document) (hmode : o.mode = .full) (hlevel : h.level < x.level)
    (hbetween : ∀ y ∈ between, h.level < y.level) :
    d.endOf o h (between ++ x :: behind) = d.endOf o h behind := by
  have hopen : ∀ y : Heading, h.level < y.level →
      ¬Heading.closes o.mode h.level y.level = true := by
    intro y hy
    rw [closes_iff_of_full hmode]
    exact Int.not_le.mpr hy
  rw [endOf_append_of_not_closes o d fun y hy => hopen y (hbetween y hy)]
  exact endOf_cons_of_not_closes o d (hopen x hlevel) behind

/-- A section ends in front of a heading that is not deeper, and of all behind that. -/
theorem endOf_lt_of_shallow (hmode : o.mode = .full) (hd : d.Ascending (between ++ x :: behind))
    {y : Heading} (hy : y ∈ between ++ [x]) (hlevel : y.level ≤ h.level) :
    d.endOf o h (between ++ x :: behind) < d.headingLine x := by
  have hlater : y ∈ between ++ x :: behind := by
    rw [← List.singleton_append, ← List.append_assoc]
    exact List.mem_append_left behind hy
  have hlt := endOf_lt_of_closes o hd hlater ((closes_iff_of_full hmode h y).mpr hlevel)
  have hyx : d.headingLine y ≤ d.headingLine x := by
    rcases List.mem_append.mp hy with hy | hy
    · exact Int.le_of_lt ((List.pairwise_append.mp hd.ordered).2.2 y hy x List.mem_cons_self)
    · exact Int.le_of_eq (congrArg d.headingLine (List.mem_singleton.mp hy))
  omega

/-- A section reaches to a later heading exactly if that one and all between them are deeper. -/
theorem headingLine_le_endOf_iff (hmode : o.mode = .full)
    (hd : d.Ascending (h :: (between ++ x :: behind))) :
    d.headingLine x ≤ d.endOf o h (between ++ x :: behind) ↔
      h.level < x.level ∧ ∀ y ∈ between, h.level < y.level := by
  have hrest : d.Ascending (between ++ x :: behind) := hd.of_cons
  have hx : d.Ascending (x :: behind) := hrest.of_append
  constructor
  · intro hle
    -- a heading that is not deeper would end the section in front of `x`
    have hdeep : ∀ y ∈ between ++ [x], h.level < y.level := by
      intro y hy
      by_contra hnot
      have hlt := endOf_lt_of_shallow hmode hrest hy (Int.not_lt.mp hnot)
      omega
    exact ⟨hdeep x (List.mem_append_right between List.mem_cons_self), fun y hy =>
      hdeep y (List.mem_append_left [x] hy)⟩
  · rintro ⟨hlevel, hbetween⟩
    rw [endOf_eq_of_deep d hmode hlevel hbetween]
    obtain ⟨-, -, hlast⟩ := hx.starts x List.mem_cons_self
    exact le_endOf o hlast fun z hz => hx.lt hz

/-- A section to which another one belongs takes it in to its end. -/
theorem endOf_le_endOf_of_deep (hmode : o.mode = .full)
    (hd : d.Ascending (h :: (between ++ x :: behind))) (hlevel : h.level < x.level)
    (hbetween : ∀ y ∈ between, h.level < y.level) :
    d.endOf o x behind ≤ d.endOf o h (between ++ x :: behind) := by
  have hx : d.Ascending (x :: behind) := hd.of_cons.of_append
  rw [endOf_eq_of_deep d hmode hlevel hbetween]
  exact endOf_le_endOf o hx.of_cons (Int.le_of_lt hlevel)

end Full

/-! ## Rows of headings -/

section HeadingRows

variable {d : Document} {o : SectionOptions} {above : List (Int × String)}

theorem spans_headingRow {h : Heading} {later : List Heading} (hd : d.Ascending (h :: later))
    (id : String) :
    (d.headingRow o above h id later).Spans (d.headingLine h) (d.endOf o h later) :=
  ⟨(hd.starts h List.mem_cons_self).1, rfl⟩

/-- The ranges of two headings follow their paths, if headings without ids are deeper. -/
theorem rangesFollowPaths_headingRow (hmode : o.mode = .full) {h x : Heading} {id idx : String}
    {between behind : List Heading} (hd : d.Ascending (h :: (between ++ x :: behind)))
    (hids : (((x.level, idx) :: ((Heading.marks between).reverse ++ (h.level, id) :: above)).map
      (·.2)).Nodup)
    (hslash : ∀ m ∈ (x.level, idx) :: ((Heading.marks between).reverse ++ (h.level, id) :: above),
      '/' ∉ m.2.toList)
    (hhidden : ∀ y ∈ between, y.id = none → h.level < y.level) :
    (d.headingRow o above h id (between ++ x :: behind)).RangesFollowPaths
      (d.headingRow o ((Heading.marks between).reverse ++ (h.level, id) :: above) x idx
        behind) := by
  have hx : d.Ascending (x :: behind) := hd.of_cons.of_append
  have hlines : d.headingLine h < d.headingLine x := hd.lt (by simp)
  have hreach := headingLine_le_endOf_iff hmode hd
  -- the path sees the headings with ids only; the others are deeper anyway
  have hdeep : (∀ m ∈ (Heading.marks between).reverse, h.level < m.1) ↔
      ∀ y ∈ between, h.level < y.level := by
    constructor
    · intro hmarks y hy
      cases hid : y.id with
      | none => exact hhidden y hy hid
      | some idy =>
          exact hmarks (y.level, idy) (List.mem_reverse.mpr (Heading.mem_marks hy hid))
    · intro hall m hm
      obtain ⟨y, hy, -, hlevel⟩ := Heading.exists_of_mem_marks (List.mem_reverse.mp hm)
      rw [← hlevel]
      exact hall y hy
  have hpath : (d.headingRow o above h id (between ++ x :: behind)).LeadsTo
      (d.headingRow o ((Heading.marks between).reverse ++ (h.level, id) :: above) x idx behind) ↔
      d.headingLine x ≤ d.endOf o h (between ++ x :: behind) := by
    rw [hreach, ← hdeep]
    exact Outline.pathOf_prefix_iff hids hslash
  refine ⟨_, _, _, _, spans_headingRow hd id, spans_headingRow hx idx, hpath, ?_⟩
  by_cases hle : d.headingLine x ≤ d.endOf o h (between ++ x :: behind)
  · obtain ⟨hlevel, hbetween⟩ := hreach.mp hle
    exact Or.inl ⟨hlines, endOf_le_endOf_of_deep hmode hd hlevel hbetween⟩
  · exact Or.inr (Int.not_le.mp hle)

theorem pairwise_headingRows (hmode : o.mode = .full) {hs : List Heading} (hd : d.Ascending hs)
    (hids : (((Heading.marks hs).reverse ++ above).map (·.2)).Nodup)
    (hslash : ∀ m ∈ (Heading.marks hs).reverse ++ above, '/' ∉ m.2.toList)
    (hhidden : ∀ h ∈ hs, ∀ y ∈ hs, h.id ≠ none → y.id = none → h.level < y.level) :
    (d.headingRows o above hs).Pairwise Section.RangesFollowPaths := by
  induction hs generalizing above with
  | nil => exact List.Pairwise.nil
  | cons h later ih =>
      have hlater : ∀ x ∈ later, ∀ y ∈ later, x.id ≠ none → y.id = none → x.level < y.level :=
        fun x hx y hy => hhidden x (List.mem_cons_of_mem h hx) y (List.mem_cons_of_mem h hy)
      cases hid : h.id with
      | none =>
          -- a heading without an id has no row and is on no path
          rw [headingRows_cons_of_none d o above hid]
          rw [Heading.marks_cons_of_none hid] at hids hslash
          exact ih hd.of_cons hids hslash hlater
      | some id =>
          rw [headingRows_cons_of_id d o above hid]
          rw [Heading.marks_cons_of_id hid, List.reverse_cons, List.append_assoc,
            List.singleton_append] at hids hslash
          refine List.Pairwise.cons (fun s hs => ?_) (ih hd.of_cons hids hslash hlater)
          obtain ⟨between, x, idx, behind, rfl, hx, rfl⟩ := exists_of_mem_headingRows hs
          -- the outline ends in the two headings, those between them and those above
          have hsuffix :
              (x.level, idx) :: ((Heading.marks between).reverse ++ (h.level, id) :: above) <:+
                (Heading.marks (between ++ x :: behind)).reverse ++ (h.level, id) :: above := by
            rw [Heading.marks_append, Heading.marks_cons_of_id hx]
            exact ⟨(Heading.marks behind).reverse, by simp⟩
          refine rangesFollowPaths_headingRow hmode hd (hids.sublist (hsuffix.sublist.map (·.2)))
            (fun m hm => hslash m (hsuffix.subset hm)) fun y hy hnone => ?_
          exact hhidden h List.mem_cons_self y
            (List.mem_cons_of_mem h (List.mem_append_left _ hy)) (by simp [hid]) hnone

/-- Every row of a heading covers lines, and ends no later than the text. -/
theorem spans_of_mem_headingRows {hs : List Heading} (hd : d.Ascending hs) {s : Section}
    (hs₁ : s ∈ d.headingRows o above hs) :
    ∃ first last, s.Spans first last ∧ d.lineOffset < first ∧ first ≤ last ∧
      last ≤ d.lastLine := by
  obtain ⟨between, h, id, later, rfl, -, rfl⟩ := exists_of_mem_headingRows hs₁
  have hlater := hd.of_append
  obtain ⟨-, hoffset, -⟩ := hlater.starts h List.mem_cons_self
  obtain ⟨hle, hlast⟩ := endOf_bounds o hlater
  exact ⟨_, _, spans_headingRow hlater id, hoffset, hle, hlast⟩

end HeadingRows

/-! ## Documents whose blocks cover lines in order -/

theorem LaidOut.wellHeaded {d : Document} (hd : d.LaidOut) : d.WellHeaded := by
  refine ⟨hd.tagged, fun n hmem _ => ?_⟩
  obtain ⟨lines, hlines, -⟩ := hd.covers n hmem
  exact Option.isSome_iff_exists.mpr ⟨lines, hlines⟩

/-- The headings of such a document start on lines of the body, one behind the other. -/
theorem LaidOut.ascending {d : Document} (hd : d.LaidOut) (o : SectionOptions) :
    d.Ascending (d.headings o) := by
  have hnodes := map_node_headings d o
  constructor
  · intro h hmem
    obtain ⟨hblock, -⟩ := hd.wellHeaded.of_mem_headings hmem
    obtain ⟨lines, hlines, hstart, hlt, hstop⟩ := hd.covers h.node hblock
    have hline : d.startLine h.node = some (lines.1 + 1 + d.lineOffset) := by
      unfold startLine
      rw [Option.mem_def.mp hlines]
      rfl
    unfold headingLine lastLine
    rw [hline]
    refine ⟨rfl, ?_, ?_⟩
    · rw [Option.getD_some]
      omega
    · rw [Option.getD_some]
      omega
  · -- the headings are in the order of their blocks
    have hfiltered := hd.ascends.sublist (List.filter_sublist (p := Node.isHeading))
    rw [← hnodes, List.pairwise_map] at hfiltered
    refine hfiltered.imp_of_mem fun {h x} hh hx hle => ?_
    obtain ⟨lines, hlines, -, hlt, -⟩ := hd.covers h.node (hd.wellHeaded.of_mem_headings hh).1
    obtain ⟨next, hnext, -⟩ := hd.covers x.node (hd.wellHeaded.of_mem_headings hx).1
    have hstop := hle lines hlines next hnext
    unfold headingLine startLine
    rw [Option.mem_def.mp hlines, Option.mem_def.mp hnext]
    change lines.1 + 1 + d.lineOffset < next.1 + 1 + d.lineOffset
    omega

theorem level_of_mem_headings {d : Document} (hd : d.WellHeaded) {o : SectionOptions}
    (hmin : o.minLevel = 1) {h : Heading} (hmem : h ∈ d.headings o) :
    (h.id = none → o.maxLevel < h.level) ∧ (h.id ≠ none → h.level ≤ o.maxLevel) := by
  have hgiven := id_of_mem_headings hmem
  have hlow := (hd.of_mem_headings hmem).2.2.1
  cases hin : o.includes h.level with
  | true =>
      rw [hin, if_pos rfl] at hgiven
      obtain ⟨taken, hid⟩ := hgiven
      have hrange : o.minLevel ≤ h.level ∧ h.level ≤ o.maxLevel := by
        simpa [SectionOptions.includes] using hin
      exact ⟨fun hnone => absurd (hid.symm.trans hnone) (by simp), fun _ => hrange.2⟩
  | false =>
      rw [hin, if_neg (by simp)] at hgiven
      refine ⟨fun _ => ?_, fun hsome => absurd hgiven hsome⟩
      simp only [SectionOptions.includes, Bool.and_eq_false_iff, decide_eq_false_iff_not] at hin
      omega

/-- The path of the frontmatter leads to no heading, and its lines end in front of them. -/
theorem rangesFollowPaths_frontmatter {d : Document} {o : SectionOptions}
    (hd : d.Ascending (d.headings o)) {r s : Section} (hr : r ∈ d.frontmatterRow o)
    (hs : s ∈ d.headingRows o [] (d.headings o)) : r.RangesFollowPaths s := by
  obtain ⟨first, last, hspans, hoffset, -⟩ := spans_of_mem_headingRows hd hs
  obtain ⟨-, hslash, hids⟩ := ids_headings d o
  obtain ⟨between, h, id, later, hsplit, hid, rfl⟩ := exists_of_mem_headingRows hs
  obtain ⟨hraw, -, hpath, -, hstart, hend⟩ := of_mem_frontmatterRow hr
  -- all ids on the path of the heading are ids of headings
  have hmarks : ∀ m ∈ (h.level, id) :: enclosing ((Heading.marks between).reverse ++ []) h.level,
      m ∈ Heading.marks (d.headings o) := by
    intro m hm
    rw [hsplit, Heading.marks_append, Heading.marks_cons_of_id hid]
    rcases List.mem_cons.mp hm with rfl | hm
    · exact List.mem_append_right _ List.mem_cons_self
    · have hm' := (Outline.enclosing_sublist _ _).subset hm
      rw [List.append_nil, List.mem_reverse] at hm'
      exact List.mem_append_left _ hm'
  refine ⟨1, d.lineOffset, first, last, ⟨hstart, hend⟩, hspans,
    ⟨fun hleads => ?_, fun hle => ?_⟩, Or.inr hoffset⟩
  · unfold Section.LeadsTo at hleads
    rw [hpath] at hleads
    have hfront : ∀ id ∈ [Section.frontmatterId], '/' ∉ id.toList := by decide
    obtain ⟨z, zs, heq⟩ := (Outline.slashed_prefix_iff (by simp) (by simp) hfront
      (Outline.slash_notMem_of_mem_ids fun m hm => hslash m (hmarks m hm))).mp hleads
    -- the id of the frontmatter would be the outermost id on the path
    have hmem : Section.frontmatterId ∈
        ((h.level, id) :: enclosing ((Heading.marks between).reverse ++ []) h.level).reverse.map
          (·.2) := by
      rw [heq]
      exact List.mem_cons_self
    obtain ⟨m, hm, heq'⟩ := List.mem_map.mp hmem
    exact absurd heq' (hids hraw m (hmarks m (List.mem_reverse.mp hm)))
  · omega

/-- In a document whose blocks cover lines one behind the other, with all levels from one on, the
rows have different ids, and the rows of headings cover lines of the text. With nested text taken
in, the lines of two rows follow their paths. -/
theorem LaidOut.ranges_follow_paths {d : Document} (hd : d.LaidOut) {o : SectionOptions}
    (hmin : o.minLevel = 1) :
    ∃ rows, d.sections o = .ok rows ∧ (rows.map (·.id)).Nodup ∧
      (∀ s ∈ rows, 0 < s.level →
        ∃ first last, s.Spans first last ∧ first ≤ last ∧ last ≤ d.lastLine) ∧
      (o.mode = .full → rows.Pairwise Section.RangesFollowPaths) := by
  obtain ⟨hnodup, hslash, -⟩ := ids_headings d o
  have hasc := hd.ascending o
  refine ⟨_, sections_eq hd.wellHeaded o, nodup_ids_of_sections (sections_eq hd.wellHeaded o),
    fun s hs hlevel => ?_, fun hmode => ?_⟩
  · -- the lines of one row
    rcases List.mem_append.mp hs with hfront | hheading
    · obtain ⟨-, -, -, hzero, -⟩ := of_mem_frontmatterRow hfront
      omega
    · obtain ⟨first, last, hspans, -, hle, hlast⟩ := spans_of_mem_headingRows hasc hheading
      exact ⟨first, last, hspans, hle, hlast⟩
  · -- the lines of two rows
    refine List.pairwise_append.mpr
      ⟨pairwise_frontmatterRow d o _, ?_, fun r hr s hs => ?_⟩
    · refine pairwise_headingRows hmode hasc ?_ ?_ fun h hh y hy hsome hnone => ?_
      · rw [List.append_nil, List.map_reverse]
        exact List.pairwise_reverse.mpr (hnodup.imp Ne.symm)
      · intro m hm
        rw [List.append_nil, List.mem_reverse] at hm
        exact hslash m hm
      · -- headings without ids are deeper than all that have rows
        have hin := (level_of_mem_headings hd.wellHeaded hmin hh).2 hsome
        have hout := (level_of_mem_headings hd.wellHeaded hmin hy).1 hnone
        omega
    · exact rangesFollowPaths_frontmatter hasc hr hs

theorem laidOut_sample : sample.LaidOut :=
  ⟨by decide, by decide, by decide⟩

theorem ranges_follow_paths_sample :
    sample.LaidOut ∧ ∃ rows, sample.sections { mode := .full } = .ok rows ∧
      (rows.map (·.id)).Nodup ∧ rows.Pairwise Section.RangesFollowPaths := by
  obtain ⟨rows, hrows, hids, -, hranges⟩ :=
    laidOut_sample.ranges_follow_paths (o := { mode := .full }) rfl
  exact ⟨laidOut_sample, rows, hrows, hids, hranges rfl⟩

example : ((sample.sections { mode := .full }).toOption.map fun rows =>
    rows.map fun s => (s.path, s.startLine, s.endLine)) =
      some [("frontmatter", some 1, some 3), ("a", some 4, some 8), ("a/b", some 8, some 8),
        ("a-1", some 9, some 9)] := by decide +kernel

end Document

end MarkdownSections
