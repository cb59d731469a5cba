import MarkdownSections.Proofs.Document.LineNumbers
import MarkdownSections.Proofs.Document.Passage
import MarkdownSections.Proofs.Document.Tiles
import MarkdownSections.Proofs.Section.Contents
import MarkdownSections.Proofs.Text.Ink

/-!
# The lines of the content of a section

The content of a section is put together from the lines of the blocks behind its heading, while the
last line of its row is found from the heading that closes it. Both agree
(`Document.ofText_holdsLines`): apart from blanks at the ends of lines and blank lines, the content
are the lines of the document from behind the heading up to that last line. Only the lines of
reference definitions are in no block and so in no content.

The blocks behind a heading are followed one by one (`inked_textOf_takeWhile`): each shows the lines
that it covers, and the lines between two blocks show nothing.
-/

set_option autoImplicit false

namespace MarkdownSections

open Attempt (exists_of_isSome)
open Markdown (IsBlankLine definitionLines)
open Text (inked sourceLines)

/-! ## Numbered lines -/

/-- Lines with their numbers; the first one has the number behind `offset`. -/
def numbered (offset : Int) (lines : List String) : List (Int × String) :=
  lines.zipIdx.map fun p => (p.2 + 1 + offset, p.1)

/-- Of numbered lines, those behind line `after` up to line `last`, the lines `omitted` left out. -/
def linesBetween (lines : List (Int × String)) (omitted : List Int) (after last : Int) :
    List String :=
  (lines.filter fun p => decide (after < p.1) && decide (p.1 ≤ last) && !omitted.contains p.1).map
    (·.2)

theorem mem_numbered {offset : Int} {lines : List String} {p : Int × String}
    (hp : p ∈ numbered offset lines) :
    ∃ j : Nat, p.1 = j + 1 + offset ∧ lines[j]? = some p.2 := by
  obtain ⟨⟨l, j⟩, hmem, rfl⟩ := List.mem_map.mp hp
  exact ⟨j, rfl, List.mem_zipIdx_iff_getElem?.mp hmem⟩

theorem pairwise_numbered (offset : Int) (lines : List String) :
    (numbered offset lines).Pairwise fun p q => p.1 < q.1 := by
  have hplaces : lines.zipIdx.Pairwise fun p q => p.2 < q.2 := by
    rw [← List.pairwise_map (f := Prod.snd) (R := (· < ·)), List.zipIdx_map_snd]
    exact List.pairwise_lt_range'
  unfold numbered
  rw [List.pairwise_map]
  refine hplaces.imp fun h => ?_
  simp only
  omega

section Between

variable {lines : List (Int × String)} {omitted : List Int} {after mid last : Int}

/-- Lines in the order of their numbers come apart behind every number. -/
theorem filter_le_append_filter_lt (h : lines.Pairwise fun p q => p.1 < q.1) (mid : Int) :
    (lines.filter fun p => decide (p.1 ≤ mid)) ++ (lines.filter fun p => decide (mid < p.1)) =
      lines := by
  induction lines with
  | nil => rfl
  | cons p lines ih =>
      obtain ⟨hlater, hrest⟩ := List.pairwise_cons.mp h
      by_cases hp : p.1 ≤ mid
      · rw [List.filter_cons_of_pos (by simpa using hp),
          List.filter_cons_of_neg (by simpa using hp), List.cons_append, ih hrest]
      · -- no later line has a number up to `mid`
        have hnone : (lines.filter fun q => decide (q.1 ≤ mid)) = [] := by
          rw [List.filter_eq_nil_iff]
          intro q hq
          have hlt := hlater q hq
          simp only [decide_eq_true_eq]
          omega
        have hall : (lines.filter fun q => decide (mid < q.1)) = lines := by
          rw [List.filter_eq_self]
          intro q hq
          have hlt := hlater q hq
          simp only [decide_eq_true_eq]
          omega
        rw [List.filter_cons_of_neg (by simpa using hp), hnone,
          List.filter_cons_of_pos (by simpa using hp), hall, List.nil_append]

theorem linesBetween_append (h : lines.Pairwise fun p q => p.1 < q.1) (hmid : after ≤ mid)
    (hlast : mid ≤ last) :
    linesBetween lines omitted after mid ++ linesBetween lines omitted mid last =
      linesBetween lines omitted after last := by
  have hsplit := filter_le_append_filter_lt (h.filter fun p =>
    decide (after < p.1) && decide (p.1 ≤ last) && !omitted.contains p.1) mid
  unfold linesBetween
  rw [← hsplit, List.filter_filter, List.filter_filter, List.map_append]
  -- one bound of each part follows from the number between them
  congr 2
  · refine List.filter_congr fun p _ => ?_
    rw [← Bool.and_assoc]
    refine congrArg (· && _) ?_
    rw [Bool.eq_iff_iff]
    simp only [Bool.and_eq_true, decide_eq_true_eq]
    omega
  · refine List.filter_congr fun p _ => ?_
    rw [← Bool.and_assoc]
    refine congrArg (· && _) ?_
    rw [Bool.eq_iff_iff]
    simp only [Bool.and_eq_true, decide_eq_true_eq]
    omega

theorem trimEndString_of_blank {l : String} (h : IsBlankLine l.toList) :
    Text.trimEndString l = "" := by
  rw [Text.trimEndString, Text.trimEnd, Text.dropEndWhile_eq_nil h]

/-- Blank lines and lines that are left out show nothing. -/
theorem inked_linesBetween_of_passed
    (h : ∀ p ∈ lines, after < p.1 → p.1 ≤ last → p.1 ∈ omitted ∨ IsBlankLine p.2.toList) :
    inked (linesBetween lines omitted after last) = [] := by
  unfold inked linesBetween
  rw [List.filter_eq_nil_iff]
  intro l hl
  obtain ⟨line, hline, rfl⟩ := List.mem_map.mp hl
  obtain ⟨p, hp, rfl⟩ := List.mem_map.mp hline
  obtain ⟨hmem, hrange⟩ := List.mem_filter.mp hp
  simp only [Bool.and_eq_true, decide_eq_true_eq, Bool.not_eq_true', List.contains_eq_mem,
    decide_eq_false_iff_not] at hrange
  have hblank := (h p hmem hrange.1.1 hrange.1.2).resolve_left hrange.2
  rw [trimEndString_of_blank hblank]
  decide

end Between

/-- The lines from one place up to another. -/
theorem map_filter_zipIdx (lines : List String) (k i e : Nat) :
    ((lines.zipIdx k).filter fun p => decide (i ≤ p.2) && decide (p.2 < e)).map (·.1) =
      (lines.take (e - k)).drop (i - k) := by
  induction lines generalizing k with
  | nil => simp
  | cons l lines ih =>
      have hrest := ih (k + 1)
      rw [List.zipIdx_cons, List.filter_cons]
      split
      · next hin =>
          simp only [Bool.and_eq_true, decide_eq_true_eq] at hin
          obtain ⟨n, hn⟩ : ∃ n, e - k = n + 1 := ⟨e - k - 1, by omega⟩
          have hi : i - k = 0 := by omega
          have hi' : i - (k + 1) = 0 := by omega
          have he : e - (k + 1) = n := by omega
          rw [hi', he] at hrest
          rw [List.map_cons, hrest, hn, hi]
          rfl
      · next hout =>
          simp only [Bool.and_eq_true, decide_eq_true_eq, not_and, Nat.not_lt] at hout
          rw [hrest]
          -- A line left out stands behind the range, where nothing more is taken, or before it.
          by_cases hlow : i ≤ k
          · have hzero : e - k = 0 ∧ e - (k + 1) = 0 := by
              have hle := hout hlow
              omega
            rw [hzero.1, hzero.2]
            simp
          · obtain ⟨n, hn⟩ : ∃ n, i - k = n + 1 := ⟨i - k - 1, by omega⟩
            have hi : i - (k + 1) = n := by omega
            rw [hn, hi]
            cases he : e - k with
            | zero =>
                have he' : e - (k + 1) = 0 := by omega
                rw [he']
                simp
            | succ e' =>
                have he' : e - (k + 1) = e' := by omega
                rw [he']
                rfl

/-- Where no line is left out, the lines between two numbers are those between two places. -/
theorem linesBetween_numbered {offset : Int} {lines : List String} {omitted : List Int} {i e : Nat}
    (h : ∀ j : Nat, i ≤ j → j < e → (j + 1 + offset : Int) ∉ omitted) :
    linesBetween (numbered offset lines) omitted (i + offset) (e + offset) =
      (lines.take e).drop i := by
  have hrange := map_filter_zipIdx lines 0 i e
  rw [Nat.sub_zero, Nat.sub_zero] at hrange
  rw [← hrange]
  unfold linesBetween numbered
  rw [List.filter_map, List.map_map]
  -- No line of the range is left out, so the filter only compares places.
  refine congrArg _ (List.filter_congr fun p _ => ?_)
  rw [Bool.eq_iff_iff]
  simp only [Function.comp_apply, Bool.and_eq_true, decide_eq_true_eq, Bool.not_eq_true',
    List.contains_eq_mem, decide_eq_false_iff_not]
  constructor
  · intro hp
    omega
  · intro hp
    exact ⟨by omega, h p.2 hp.1 hp.2⟩

namespace Document

/-! ## Blocks -/

/-- The lines of the body with their numbers. -/
def numberedLines (d : Document) : List (Int × String) :=
  numbered d.lineOffset d.lines

/-- The numbers of lines of the body, counted there from zero. -/
def numbersOf (d : Document) (places : List Nat) : List Int :=
  places.map fun j : Nat => (j + 1 + d.lineOffset : Int)

theorem mem_numbersOf {d : Document} {places : List Nat} {j : Nat} :
    (j + 1 + d.lineOffset : Int) ∈ d.numbersOf places ↔ j ∈ places := by
  unfold numbersOf
  rw [List.mem_map]
  constructor
  · rintro ⟨k, hk, heq⟩
    obtain rfl : k = j := by omega
    exact hk
  · exact fun hj => ⟨j, hj, rfl⟩

theorem isEndedLine_of_mem_lines {d : Document} {l : String} (hl : l ∈ d.lines) :
    Text.IsEndedLine l.toList := by
  obtain ⟨cs, hcs, rfl⟩ := List.mem_map.mp hl
  rw [String.toList_ofList]
  exact Text.isEndedLine_of_mem (Text.return_notMem_unifyNewlines _) hcs

/-- A block shows the lines that it covers. -/
theorem inked_sourceOf {d : Document} {n : Node} {first next : Nat}
    (hn : n.lines = some ((first : Int), (next : Int))) :
    inked (sourceLines (d.sourceOf n ++ "\n")) = inked ((d.lines.take next).drop first) := by
  unfold sourceOf
  rw [hn]
  simp only [itemsBetween_natCast]
  exact Text.inked_sourceLines_join fun l hl =>
    isEndedLine_of_mem_lines (List.mem_of_mem_take (List.mem_of_mem_drop hl))

/-- Blocks show what each of them shows. -/
theorem inked_textOf_cons (d : Document) (n : Node) (ns : List Node) :
    inked (sourceLines (d.textOf (n :: ns))) =
      inked (sourceLines (d.sourceOf n ++ "\n")) ++ inked (sourceLines (d.textOf ns)) := by
  have hends : Text.EndsLine (d.sourceOf n ++ "\n").toList := by
    rw [String.toList_append]
    exact Text.EndsLine.append_left (by decide) (by decide)
  have hsplit := Text.sourceLines_append hends (d.textOf ns).toList
  rw [← String.toList_append, String.ofList_toList, String.ofList_toList, String.ofList_toList]
    at hsplit
  rw [textOf_cons, hsplit, Text.inked_append]

/-- The number of the line in front of the first of some blocks, or of the last line. -/
def lastLineBefore (d : Document) (stops : Node → Bool) (ns : List Node) : Int :=
  match ns.find? stops with
  | none => d.lastLine
  | some n => (d.startLine n).getD 0 - 1

section Blocks

variable {d : Document} {defined : List Nat} {i : Nat}

/-- The lines between blocks show nothing. -/
theorem inked_of_passed {e : Nat}
    (h : ∀ j, i ≤ j → j < e → d.Passes defined j) :
    inked (linesBetween d.numberedLines (d.numbersOf defined) (i + d.lineOffset)
      (e + d.lineOffset)) = [] := by
  refine inked_linesBetween_of_passed fun p hp hafter hlast => ?_
  obtain ⟨j, hnumber, hline⟩ := mem_numbered hp
  rw [hnumber, mem_numbersOf]
  exact (h j (by omega) (by omega)).imp_right fun hblank => hblank p.2 hline

/-- Blocks up to one that stops them show the lines in front of that one. -/
theorem inked_textOf_takeWhile (stops : Node → Bool) {ns : List Node} (hi : i ≤ d.lines.length)
    (h : d.TiledFrom defined i ns) :
    i + d.lineOffset ≤ d.lastLineBefore stops ns ∧
      inked (sourceLines (d.textOf (ns.takeWhile fun n => !stops n))) =
        inked (linesBetween d.numberedLines (d.numbersOf defined) (i + d.lineOffset)
          (d.lastLineBefore stops ns)) := by
  induction ns generalizing i with
  | nil =>
      have hlast : d.lastLineBefore stops [] = d.lines.length + d.lineOffset := rfl
      rw [hlast, inked_of_passed h]
      exact ⟨by omega, rfl⟩
  | cons n ns ih =>
      obtain ⟨first, next, hrange, hfirst, hlt, hnext, hpassed, hfree, hrest⟩ := h
      have hline : (d.startLine n).getD 0 - 1 = first + d.lineOffset := by
        simp only [startLine, firstLineOf, show n.lines = _ from hrange, Option.map_some,
          Option.getD_some]
        omega
      cases hn : stops n with
      | true =>
          have hlast : d.lastLineBefore stops (n :: ns) = first + d.lineOffset := by
            rw [← hline, lastLineBefore, List.find?_cons_of_pos hn]
          rw [List.takeWhile_cons_of_neg (by simp [hn]), hlast, inked_of_passed hpassed]
          exact ⟨by omega, rfl⟩
      | false =>
          have hlast : d.lastLineBefore stops (n :: ns) = d.lastLineBefore stops ns := by
            rw [lastLineBefore, List.find?_cons_of_neg (by simp [hn]), lastLineBefore]
          obtain ⟨hbound, htext⟩ := ih hnext hrest
          rw [List.takeWhile_cons_of_pos (by simp [hn]), hlast]
          refine ⟨by omega, ?_⟩
          -- the lines in front of the block show nothing, and it shows its own
          have hown : linesBetween d.numberedLines (d.numbersOf defined) (first + d.lineOffset)
              (next + d.lineOffset) = (d.lines.take next).drop first :=
            linesBetween_numbered fun j hj₁ hj₂ => mem_numbersOf.not.mpr (hfree j hj₁ hj₂)
          have hsorted : d.numberedLines.Pairwise fun p q => p.1 < q.1 := pairwise_numbered _ _
          have hfront : (i + d.lineOffset : Int) ≤ first + d.lineOffset := by omega
          have hback : (first + d.lineOffset : Int) ≤ next + d.lineOffset := by omega
          rw [inked_textOf_cons, htext, inked_sourceOf hrange, ← hown, ← Text.inked_append,
            linesBetween_append hsorted hback hbound,
            ← linesBetween_append hsorted hfront (Int.le_trans hback hbound), Text.inked_append,
            inked_of_passed hpassed, List.nil_append]

end Blocks

/-! ## Rows -/

/-- Apart from blanks at the ends of lines and blank lines, the content of the row of a heading are
the lines from behind the heading up to the last line of the row, the lines `omitted` left out. -/
def HoldsLines (d : Document) (lines : List (Int × String)) (omitted : List Int) (n : Node)
    (s : Section) : Prop :=
  ∃ heading last, d.endLine n = some heading ∧ s.endLine = some last ∧ heading ≤ last ∧
    inked (sourceLines s.content) = inked (linesBetween lines omitted heading last)

/-- The headings of a list of blocks with their levels are those of its headings. -/
theorem map_level_assignIds (o : SectionOptions) (r : SlugRegistry) (ns : List Node) :
    (Heading.assignIds o r (Heading.listOf ns)).map (fun x => (x.level, x.node)) =
      (ns.filter Node.isHeading).map fun n => (n.headingLevel, n) := by
  rw [Heading.map_assignIds _ fun _ _ => rfl, ← Heading.map_node_listOf, List.map_map]
  refine List.map_congr_left fun x hx => ?_
  rw [(Heading.mem_listOf hx).2.2.1]
  rfl

/-- The section of a heading ends in front of the block that closes it. -/
theorem endOf_assignIds (d : Document) (o : SectionOptions) (h : Heading) (r : SlugRegistry)
    (ns : List Node) :
    d.endOf o h (Heading.assignIds o r (Heading.listOf ns)) =
      d.lastLineBefore (fun n => n.isHeading && Heading.closes o.mode h.level n.headingLevel)
        ns := by
  rw [endOf_eq_getD, map_level_assignIds, List.find?_map, List.find?_filter]
  unfold lastLineBefore
  simp only [Function.comp_def, Bool.decide_and, Bool.decide_eq_true]
  cases ns.find? fun n => n.isHeading && Heading.closes o.mode h.level n.headingLevel with
  | none => rfl
  | some next => rfl

/-- The rows of the headings of blocks that cover lines one behind the other hold their lines. Other
numbered lines will do as well, if they are the same behind the frontmatter. -/
theorem holdsLines_headingRows {d : Document} {o : SectionOptions} {defined : List Nat}
    {all : List (Int × String)} (hmode : o.mode ≠ .smart) (hcontent : o.includeContent = true)
    (hall : ∀ {omitted : List Int} {after last : Int}, d.lineOffset ≤ after →
      linesBetween all omitted after last = linesBetween d.numberedLines omitted after last)
    {ns : List Node} {i : Nat} (hi : i ≤ d.lines.length)
    (h : d.TiledFrom defined i ns)
    (r : SlugRegistry) (above : List (Int × String)) :
    List.Forall₂ (d.HoldsLines all (d.numbersOf defined))
      (ns.filter fun n => n.isHeading && o.includes n.headingLevel)
      (d.headingRows o above (Heading.assignIds o r (Heading.listOf ns))) := by
  induction ns generalizing i r above with
  | nil => exact List.Forall₂.nil
  | cons n ns ih =>
      obtain ⟨first, next, hrange, hfirst, hlt, hnext, -, -, hrest⟩ := h
      cases hn : n.isHeading with
      | false =>
          rw [Heading.listOf_cons_of_not_heading hn, List.filter_cons_of_neg (by simp [hn])]
          exact ih hnext hrest r above
      | true =>
          rw [Heading.listOf_cons_of_heading hn]
          unfold Heading.assignIds
          cases hin : o.includes n.headingLevel with
          | false =>
              -- a heading that is not wanted has no row
              rw [List.filter_cons_of_neg (by simp [hin])]
              exact ih hnext hrest r above
          | true =>
              rw [List.filter_cons_of_pos (by simp [hn, hin])]
              refine List.Forall₂.cons ?_ (ih hnext hrest _ _)
              obtain ⟨hbound, htext⟩ := inked_textOf_takeWhile
                (fun m => m.isHeading && Heading.closes o.mode n.headingLevel m.headingLevel) hnext
                hrest
              refine ⟨next + d.lineOffset, _, ?_, rfl, ?_, ?_⟩
              · unfold endLine
                rw [show n.lines = _ from hrange]
                rfl
              · rw [endOf_assignIds]
                exact hbound
              · rw [endOf_assignIds, hall (by omega), ← htext, headingRow, hcontent, if_pos rfl,
                  contentOf_of_ne_smart d hmode]
                rfl

/-! ## Lines of the whole text -/

theorem numbered_append (offset : Int) (xs ys : List String) :
    numbered offset (xs ++ ys) = numbered offset xs ++ numbered (offset + xs.length) ys := by
  unfold numbered
  rw [List.zipIdx_append, List.map_append, Nat.zero_add,
    List.zipIdx_eq_map_add (l := ys) (i := xs.length), List.map_map]
  refine congrArg (_ ++ ·) (List.map_congr_left fun p _ => Prod.ext ?_ rfl)
  simp only [Function.comp_apply]
  omega

/-- Where the line numbers are those of the whole text, its lines behind the frontmatter are those
of the body. -/
theorem linesBetween_allLines {d : Document} (h : d.toSource.LinesAgree) {omitted : List Int}
    {after last : Int} (hafter : d.lineOffset ≤ after) :
    linesBetween (numbered 0 d.allLines) omitted after last =
      linesBetween d.numberedLines omitted after last := by
  have hlast : d.lines.length + d.lineOffset = d.allLines.length := h.last d rfl
  have hlength := congrArg List.length h.whole
  rw [List.length_append] at hlength
  rw [h.whole, numbered_append]
  generalize d.allLines.take d.lineOffset.toNat = front at hlength
  have hoffset : (0 : Int) + front.length = d.lineOffset := by omega
  -- the lines in front of the body have numbers up to the offset
  have hfront : ((numbered 0 front).filter fun p =>
      decide (after < p.1) && decide (p.1 ≤ last) && !omitted.contains p.1) = [] := by
    rw [List.filter_eq_nil_iff]
    intro p hp hin
    simp only [Bool.and_eq_true, decide_eq_true_eq] at hin
    obtain ⟨j, hnumber, hline⟩ := mem_numbered hp
    have hj := (List.getElem?_eq_some_iff.mp hline).1
    omega
  unfold linesBetween
  rw [List.filter_append, hfront, List.nil_append, hoffset]
  rfl

/-! ## Documents that are read from a text -/

/-- In a document that is read from a text, up to the next heading or with nested text taken in, the
content of each section are the lines from behind its heading up to its last line, but for those of
reference definitions, and for blank lines and blanks at the ends of lines. Where the line numbers
are those of the whole text, these are lines of the whole text. -/
theorem ofText_holdsLines {text preset : String} {d : Document} (h : ofText text preset = .ok d)
    {mode : ContentMode} (hmode : mode ≠ .smart) :
    ∃ p rows, Markdown.Preset.ofName? preset = some p ∧
      d.sections { mode } = .ok (d.frontmatterRow {} ++ rows) ∧
      List.Forall₂ d.IsRowOf d.headingNodes rows ∧
      List.Forall₂ (d.HoldsLines d.numberedLines
        (d.numbersOf (definitionLines p d.body.toList))) d.headingNodes rows ∧
      (d.toSource.LinesAgree → List.Forall₂ (d.HoldsLines (numbered 0 d.allLines)
        (d.numbersOf (definitionLines p d.body.toList))) d.headingNodes rows) := by
  obtain ⟨hd, p, hp, htiled⟩ := ofText_tiled h
  have hfacts := (hd.factsOf (o := { mode }) rfl rfl hmode rfl).forall₂
  rw [Heading.map_node_listOf] at hfacts
  -- all headings are wanted
  have hwanted : d.headingNodes = d.blocks.filter fun n =>
      n.isHeading && ({ mode } : SectionOptions).includes n.headingLevel := by
    refine List.filter_congr fun n hmem => ?_
    cases hn : n.isHeading with
    | false => rfl
    | true => rw [hd.includes rfl rfl n hmem hn, Bool.and_true]
  refine ⟨p, _, hp, sections_eq hd { mode }, hfacts, ?_, fun hagree => ?_⟩
  · rw [hwanted]
    exact holdsLines_headingRows hmode rfl (fun _ => rfl) (Nat.zero_le _) htiled _ _
  · rw [hwanted]
    exact holdsLines_headingRows hmode rfl (linesBetween_allLines hagree) (Nat.zero_le _) htiled _ _

/-- A text with frontmatter, a list and a nested section with a reference definition. -/
def coverageText : String :=
  "---\nkey: x\n---\n# A\n\n- one  \n  two\n\n## B\n[b]: /u\n\nthree\n"

theorem ofText_holdsLines_sample :
    ∃ d rows, ofText coverageText ParsedText.defaultPreset = .ok d ∧ ContentMode.full ≠ .smart ∧
      d.sections { mode := .full } = .ok (d.frontmatterRow {} ++ rows) ∧
      d.numbersOf (definitionLines .gfmLike d.body.toList) = [10] ∧
      List.Forall₂ (d.HoldsLines d.numberedLines [10]) d.headingNodes rows := by
  obtain ⟨d, hread⟩ := exists_of_isSome (x := ofText coverageText ParsedText.defaultPreset)
    (by decide +kernel)
  have hnumbers : ∀ d ∈ (ofText coverageText ParsedText.defaultPreset).toOption,
      d.numbersOf (definitionLines .gfmLike d.body.toList) = [10] := by
    decide +kernel
  have hten := hnumbers d (by rw [hread]; rfl)
  obtain ⟨p, rows, hp, hrows, -, hlines, -⟩ :=
    ofText_holdsLines hread (show ContentMode.full ≠ .smart by decide)
  obtain rfl := Option.some.inj hp
  rw [show d.numbersOf (definitionLines _ _) = [10] from hten] at hlines
  exact ⟨d, rows, hread, by decide, hrows, hten, hlines⟩

/-- A section with nothing but a reference definition. -/
def definitionText : String :=
  "# A\n\n[a]: /u\n"

/-- The definition is on a line of the section, but not in its content. -/
theorem not_holdsLines_definition :
    ∃ d rows, ofText definitionText = .ok d ∧ d.sections {} = .ok rows ∧
      rows.map (fun s => (s.id, s.content, s.startLine, s.endLine)) = [("a", "", some 1, some 3)] ∧
      inked (linesBetween (numbered 0 d.allLines) [] 1 3) = ["[a]: /u"] ∧
      ¬List.Forall₂ (d.HoldsLines (numbered 0 d.allLines) []) d.headingNodes rows := by
  obtain ⟨d, hread⟩ := exists_of_isSome (x := ofText definitionText) (by decide +kernel)
  have hfacts : ∀ d ∈ (ofText definitionText).toOption,
      (d.sections {}).toOption.isSome = true ∧
      ((d.sections {}).toOption.getD []).map (fun s => (s.id, s.content, s.startLine, s.endLine)) =
        [("a", "", some 1, some 3)] ∧
      inked (linesBetween (numbered 0 d.allLines) [] 1 3) = ["[a]: /u"] ∧
      d.headingNodes.map d.endLine = [some 1] := by
    decide +kernel
  obtain ⟨hsome, hrows, hlines, hends⟩ := hfacts d (by rw [hread]; rfl)
  obtain ⟨rows, hsections⟩ := exists_of_isSome hsome
  rw [hsections] at hrows
  refine ⟨d, rows, hread, hsections, hrows, hlines, fun hholds => ?_⟩
  -- the one row has no content, but there is a line behind its heading that shows
  obtain ⟨s, rfl, hrow⟩ := List.map_eq_singleton_iff.mp hrows
  obtain ⟨n, hnodes, hend⟩ := List.map_eq_singleton_iff.mp hends
  simp only [Prod.mk.injEq] at hrow
  rw [hnodes] at hholds
  cases hholds with
  | cons hone _ =>
      obtain ⟨heading, last, hheading, hlast, -, htext⟩ := hone
      obtain rfl := Option.some.inj (hheading.symm.trans hend)
      obtain rfl := Option.some.inj (hlast.symm.trans hrow.2.2.2)
      rw [hrow.2.1, hlines] at htext
      cases htext

end Document

end MarkdownSections
