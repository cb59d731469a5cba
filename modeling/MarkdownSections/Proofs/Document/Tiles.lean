import MarkdownSections.Proofs.Document.Parse
import MarkdownSections.Proofs.Markdown.Tiling
import MarkdownSections.Proofs.Section.Rows
import MarkdownSections.Proofs.Text.Lines

/-!
# The lines of a document and its blocks

The blocks of a document that is read from a text cover lines one behind the other, and every other
line is blank or belongs to a reference definition (`ofText_tiled`). The lines that the reader of
blocks sees and the lines of the document are those of the same text, but a last line of blanks
without an end is none for the reader (`linesOf_spec`).
-/

set_option autoImplicit false

namespace MarkdownSections

open Markdown (Line Preset linesOf isIndentation normalizeSource)

namespace Markdown

/-! ## Lines of both kinds -/

/-- A line without content is nothing but indentation. -/
theorem all_isIndentation_of_isEmpty {cs : List Char} {ended : Bool}
    (h : (Line.ofChars cs ended).isEmpty = true) : cs.all isIndentation = true := by
  rw [Line.isEmpty, Line.content, Line.ofChars, List.isEmpty_iff, List.drop_eq_nil_iff] at h
  have hall := (List.takeWhile_prefix isIndentation (l := cs)).eq_of_length_le h
  rw [List.all_eq_true]
  exact List.takeWhile_eq_self_iff.mp hall

theorem isBlank_of_isIndentation {c : Char} (h : isIndentation c = true) :
    Text.isBlank c = true := by
  simp only [isIndentation, Bool.or_eq_true, decide_eq_true_eq] at h
  rcases h with rfl | rfl
  · decide
  · decide

/-- A character as the parser sees it. -/
def visibleChar (c : Char) : Char :=
  if c.toNat = 0 then Char.ofNat 0xFFFD else c

theorem visibleChar_newline : visibleChar '\n' = '\n' := rfl

theorem visibleChar_ne_newline {c : Char} (h : c ≠ '\n') : visibleChar c ≠ '\n' := by
  unfold visibleChar
  split
  · decide
  · exact h

theorem isIndentation_of_visibleChar {c : Char} (h : isIndentation (visibleChar c) = true) :
    isIndentation c = true := by
  unfold visibleChar at h
  split at h
  · cases h
  · exact h

/-- A line is nothing but blanks. -/
def IsBlankLine (cs : List Char) : Prop :=
  ∀ c ∈ cs, Text.isBlank c = true

theorem isBlankLine_of_isEmpty {cs : List Char}
    (h : (cs.map visibleChar).all isIndentation = true) : IsBlankLine (cs ++ ['\n']) := by
  rw [List.all_map, List.all_eq_true] at h
  intro c hc
  rcases List.mem_append.mp hc with hc | hc
  · exact isBlank_of_isIndentation (isIndentation_of_visibleChar (h c hc))
  · rw [List.mem_singleton.mp hc]
    decide

/-- The lines of a text as the reader of blocks sees them, and its lines with their ends: where the
reader sees an empty line or none, there is a blank line or none. -/
theorem linesOf_spec (front : List Char) (hfront : '\n' ∉ front) (cs : List Char) :
    (linesOf (front.map visibleChar) (cs.map visibleChar)).length ≤
        (Text.endedLines (front.reverse ++ cs)).length ∧
      ∀ j, ((linesOf (front.map visibleChar) (cs.map visibleChar)).getD j {}).isEmpty = true →
        ∀ l ∈ (Text.endedLines (front.reverse ++ cs))[j]?, IsBlankLine l := by
  induction cs generalizing front with
  | nil =>
      have hreverse : '\n' ∉ front.reverse := fun h => hfront (List.mem_reverse.mp h)
      rw [List.map_nil, List.append_nil, linesOf]
      by_cases hnil : front = []
      · subst hnil
        exact ⟨Nat.le_refl 0, fun j _ l hl => by cases hl⟩
      · rw [Text.endedLines_lastLine hreverse (by simpa using hnil), ← List.map_reverse]
        refine ⟨by split <;> simp, fun j hempty l hl => ?_⟩
        obtain ⟨hj, rfl⟩ := List.getElem?_eq_some_iff.mp hl
        obtain rfl : j = 0 := by simpa using hj
        apply isBlankLine_of_isEmpty
        -- a last line of blanks is no line of the reader
        split at hempty
        · next hall => rwa [List.map_reverse, List.all_reverse]
        · exact all_isIndentation_of_isEmpty hempty
  | cons c cs ih =>
      rw [List.map_cons, linesOf]
      by_cases hc : c = '\n'
      · subst hc
        have hreverse : '\n' ∉ front.reverse := fun h => hfront (List.mem_reverse.mp h)
        rw [if_pos visibleChar_newline, Text.endedLines_line hreverse, ← List.map_reverse]
        obtain ⟨hlength, hlines⟩ := ih [] List.not_mem_nil
        refine ⟨Nat.succ_le_succ hlength, fun j hempty l hl => ?_⟩
        cases j with
        | zero =>
            obtain rfl := Option.some.inj hl
            exact isBlankLine_of_isEmpty (all_isIndentation_of_isEmpty hempty)
        | succ j => exact hlines j hempty l hl
      · rw [if_neg (visibleChar_ne_newline hc)]
        have hmem : '\n' ∉ c :: front := by
          rw [List.mem_cons, not_or]
          exact ⟨Ne.symm hc, hfront⟩
        have hrest := ih _ hmem
        rw [List.reverse_cons, List.append_assoc] at hrest
        exact hrest

/-- The lines of a text all stand in it. -/
theorem isText_textContext {preset : Preset} (hpreset : 0 < preset.maxNesting) (cs : List Char) :
    (Block.textContext preset cs).IsText := by
  -- A line of a text is indented by a number of its characters, which is never negative.
  have hlines : ∀ (front : List Char), ∀ l ∈ linesOf front cs, 0 ≤ l.indent := by
    induction cs with
    | nil =>
        intro front l hl
        rw [linesOf] at hl
        split at hl
        · cases hl
        · rw [List.mem_singleton.mp hl]
          exact Int.natCast_nonneg _
    | cons c cs ih =>
        intro front l hl
        rw [linesOf] at hl
        split at hl
        · rcases List.mem_cons.mp hl with rfl | hl
          · exact Int.natCast_nonneg _
          · exact ih [] l hl
        · exact ih _ l hl
  refine ⟨fun i => ?_, hpreset⟩
  change (0 : Int) ≤ ((linesOf [] cs).toArray.getD i {}).indent
  rw [Array.getD_eq_getD_getElem?, List.getElem?_toArray]
  cases hi : (linesOf [] cs)[i]? with
  | none => exact Int.le_refl 0
  | some l => exact hlines [] l (List.mem_of_getElem? hi)

end Markdown

namespace Document

open Markdown (Tiling definitionLines)

/-- A line of the body, counted there from zero, is among the lines `defined`, or blank. -/
def Passes (d : Document) (defined : List Nat) (j : Nat) : Prop :=
  j ∈ defined ∨ ∀ l ∈ d.lines[j]?, Markdown.IsBlankLine l.toList

/-- Blocks cover lines of the body from line `i` on, one behind the other. The lines between them
are blank or among the lines `defined`, and those that the blocks cover are not. -/
def TiledFrom (d : Document) (defined : List Nat) (i : Nat) (ns : List Node) : Prop :=
  Tiling (d.Passes defined) (· ∉ defined) d.lines.length i (ns.map (·.lines))

/-- The top-level blocks of a document cover the lines of its body. -/
def Tiled (d : Document) (defined : List Nat) : Prop :=
  d.TiledFrom defined 0 d.blocks

theorem maxNesting_pos {name : String} {p : Preset} (h : Preset.ofName? name = some p) :
    0 < p.maxNesting := by
  have hall : ∀ q ∈ [Preset.gfmLike, Preset.commonMark, Preset.withoutHtml, Preset.plain,
      Preset.gfmExtended], 0 < q.maxNesting := by decide
  apply hall
  unfold Preset.ofName? at h
  obtain ⟨before, after, hsplit, -⟩ := List.lookup_eq_some_iff.mp h
  have hmem : (name, p) ∈ before ++ (name, p) :: after := List.mem_append_right _ List.mem_cons_self
  rw [← hsplit] at hmem
  simp only [List.mem_cons, List.not_mem_nil, or_false, Prod.mk.injEq] at hmem ⊢
  tauto

/-- The heading tags are those that the reader of blocks gives. -/
theorem mem_headingTags {level : Nat} (hlow : 1 ≤ level) (hhigh : level ≤ 6) :
    "h" ++ Text.showNat level ∈ Node.headingTags := by
  have hall : ∀ n ∈ [1, 2, 3, 4, 5, 6], "h" ++ Text.showNat n ∈ Node.headingTags := by decide
  refine hall level ?_
  simp only [List.mem_cons, List.not_mem_nil, or_false]
  omega

/-- Nodes that are made of the heads of blocks cover the lines of these blocks, and those of
headings have heading tags. -/
theorem facts_of_heads {p : Preset} {definitions : List Markdown.Definition}
    {heads : List Markdown.Token} {nodes : List Node}
    (hmade : List.Forall₂ (fun t n => Node.IsOf (Markdown.fillInline p definitions t) n) heads
      nodes)
    (hheads : ∀ t ∈ heads, ∃ start next, Markdown.Block.Heads start next t) :
    nodes.map (·.lines) = heads.map (·.lines) ∧
      ∀ n ∈ nodes, n.lines.isSome = true ∧ (n.isHeading = true → n.tag ∈ Node.headingTags) := by
  induction hmade with
  | nil => exact ⟨rfl, List.forall_mem_nil _⟩
  | @cons t n heads nodes hn _ ih =>
      obtain ⟨⟨start, next, ht⟩, hrest⟩ := List.forall_mem_cons.mp hheads
      obtain ⟨hlines, hnodes⟩ := ih hrest
      -- Filling in the inline tokens changes neither the tag nor the lines of a block.
      obtain ⟨-, htag, -, hrange⟩ := Markdown.fillInline_facts p definitions t
      have hnlines : n.lines = t.lines := hn.lines.trans hrange
      refine ⟨by rw [List.map_cons, List.map_cons, hlines, hnlines],
        List.forall_mem_cons.mpr ⟨⟨by rw [hnlines, ht.lines]; rfl, fun hheading => ?_⟩, hnodes⟩⟩
      have htype : t.nodeType = "heading" := by
        rw [← Markdown.nodeType_fillInline p definitions, ← hn.type]
        exact eq_of_beq hheading
      obtain ⟨level, hlow, hhigh, hlevel⟩ := ht.level htype
      rw [hn.tag, htag, hlevel]
      exact mem_headingTags hlow hhigh

/-- Where the reader of blocks sees an empty line or none, a document has a blank line or none. -/
theorem lines_spec (d : Document) :
    (linesOf [] (normalizeSource d.body.toList)).toArray.size ≤ d.lines.length ∧
      ∀ j, ((linesOf [] (normalizeSource d.body.toList)).toArray.getD j {}).isEmpty = true →
        ∀ l ∈ d.lines[j]?, Markdown.IsBlankLine l.toList := by
  obtain ⟨hlength, hempty⟩ := Markdown.linesOf_spec [] List.not_mem_nil
    (Text.unifyNewlines d.body.toList)
  constructor
  · rw [Source.lines, Text.sourceLines, List.length_map, List.size_toArray]
    exact hlength
  · intro j hj l hl
    rw [Array.getD_eq_getD_getElem?, List.getElem?_toArray, ← List.getD_eq_getElem?_getD] at hj
    rw [Source.lines, Text.sourceLines, List.getElem?_map] at hl
    obtain ⟨cs, hcs, rfl⟩ := Option.map_eq_some_iff.mp hl
    rw [String.toList_ofList]
    exact hempty j hj cs hcs

/-- A document whose blocks are read from its body is well headed, and its blocks cover all lines but
blank ones and those of definitions. -/
theorem tiled_of_parse {preset : String} {d : Document} {p : Preset} {tokens : List Markdown.Token}
    (hp : Preset.ofName? preset = some p) (hparse : Markdown.parse? p d.body.toList = some tokens)
    (hblocks : Node.ofTokens? tokens = some d.blocks) :
    d.WellHeaded ∧ d.Tiled (definitionLines p d.body.toList) := by
  unfold Markdown.parse? at hparse
  simp only at hparse
  split at hparse
  · obtain rfl := Option.some.inj hparse
    -- the blocks of the document are made of the heads of the blocks of the text
    obtain ⟨heads, hbalanced, hheads, htiling⟩ := Markdown.Block.covers_pieces
      (Markdown.Block.advances_blocks p.maxNesting)
      (Markdown.isText_textContext (maxNesting_pos hp) (normalizeSource d.body.toList))
      (Nat.zero_le _) (Nat.lt_succ_self _)
      (definitionLines p d.body.toList) fun j _ => Iff.rfl
    have hmade := Node.ofTokens?_of_balanced
      (hbalanced.map_fillInline p
        (Markdown.Block.ofText p (normalizeSource d.body.toList)).definitions)
      (by rw [Markdown.Block.tokens_ofText] at hblocks; exact hblocks)
    obtain ⟨hlines, hnodes⟩ := facts_of_heads (List.forall₂_map_left_iff.mp hmade) hheads
    refine ⟨⟨fun n hn => (hnodes n hn).2, fun n hn _ => (hnodes n hn).1⟩, ?_⟩
    obtain ⟨hsize, hblank⟩ := lines_spec d
    unfold Tiled TiledFrom
    rw [hlines]
    refine htiling.imp hsize (fun j hj => hj.symm.imp_right (hblank j)) fun j hj =>
      Or.inr (hblank j ?_)
    -- behind its last line, the reader sees empty lines
    have hbehind : (linesOf [] (normalizeSource d.body.toList)).toArray[j]? = none :=
      Array.getElem?_eq_none hj
    rw [Array.getD_eq_getD_getElem?, hbehind]
    rfl
  · cases hparse

/-- A document that is read from a text is well headed, and its blocks cover all lines but blank
ones and those of definitions. -/
theorem ofText_tiled {text preset : String} {d : Document} (h : ofText text preset = .ok d) :
    d.WellHeaded ∧
      ∃ p, Preset.ofName? preset = some p ∧ d.Tiled (definitionLines p d.body.toList) := by
  obtain ⟨t, ht, hd⟩ := exists_parsed_of_ofText h
  obtain ⟨p, tokens, hp, hparse, hblocks⟩ := exists_tokens_of_toDocument ht hd
  obtain ⟨hd, htiled⟩ := tiled_of_parse hp hparse hblocks
  exact ⟨hd, p, hp, htiled⟩

end Document

end MarkdownSections
