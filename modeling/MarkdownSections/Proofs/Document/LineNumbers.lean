import MarkdownSections.Proofs.Document.Parse
import MarkdownSections.Proofs.Frontmatter.Split
import MarkdownSections.Section.Extract

/-!
# Line numbers

The lines of a text are those of its frontmatter block and then those of its body
(`ParsedText.sourceLines_eq`). The line offset counts the line feeds of the block; that is the
number of its lines exactly if no carriage return in it stands alone and it ends with a line feed.
Exactly then line numbers are numbers of lines of the whole text (`linesAgree_iff`).
-/

set_option autoImplicit false

namespace MarkdownSections

namespace Source

/-- What stands in front of the body. -/
def block (s : Source) : List Char :=
  s.text.toList.take (s.text.toList.length - s.body.toList.length)

/-- The lines of the whole text. -/
def allLines (s : Source) : List String :=
  Text.sourceLines s.text

/-- The lines of what stands in front of the body. -/
def blockLines (s : Source) : List String :=
  Text.sourceLines (String.ofList s.block)

/-- The line numbers of a source are those of the whole text. -/
structure LinesAgree (s : Source) : Prop where
  /-- The lines of the whole text are as many as the line offset says, and then those of the
  body. -/
  whole : s.allLines = s.allLines.take s.lineOffset.toNat ++ s.lines
  /-- The lines in front of the body are those of the block. -/
  block : s.allLines.take s.lineOffset.toNat = s.blockLines
  /-- A line of the body is the line of the whole text so many lines further down. -/
  line : ∀ k : Nat, s.lines[k]? = s.allLines[s.lineOffset.toNat + k]?
  /-- The row of the frontmatter ends with the last line of the block. -/
  frontmatter : ∀ d : Document, d.toSource = s → ∀ o, ∀ row ∈ d.frontmatterRow o,
    row.endLine = some (s.blockLines.length : Int)
  /-- The last line of a document is the last line of the whole text. -/
  last : ∀ d : Document, d.toSource = s → d.lastLine = s.allLines.length

end Source

namespace ParsedText

/-- The block ends a line unless the body is empty, and the line offset counts its line feeds. -/
theorem block_facts {text name preset : String} {t : ParsedText}
    (h : ofText text name preset = .ok t) :
    t.text.toList = t.block ++ t.body.toList ∧
      (t.body.toList = [] ∨ Text.EndsLine t.block) ∧ t.lineOffset = t.block.count '\n' := by
  have ht := isOf_of_ofText h
  obtain ⟨block, hsplit, hends⟩ := Frontmatter.exists_append_split text.toList
  have hbody' : t.body.toList = (Frontmatter.split text.toList).2 := by
    rw [ht.body, String.toList_ofList]
  have hblock : t.block = block := by
    -- The block is taken by its length, so it is what stands before the body in the text.
    unfold Source.block
    rw [hbody', ht.whole]
    generalize (Frontmatter.split text.toList).2 = body at hsplit ⊢
    rw [hsplit, List.length_append, Nat.add_sub_cancel, List.take_left]
  rw [hblock, hbody', ht.whole, ht.lineOffset]
  refine ⟨hsplit, hends, ?_⟩
  generalize (Frontmatter.split text.toList).2 = body at hsplit ⊢
  rw [hsplit, Frontmatter.lineCount_append]

section Parsed

variable {text name preset : String} {t : ParsedText} (h : ofText text name preset = .ok t)

include h

/-- The lines of a text are those of its block and then those of its body. -/
theorem sourceLines_eq : t.allLines = t.blockLines ++ t.lines := by
  obtain ⟨htext, hends, -⟩ := block_facts h
  have hall : t.text = String.ofList (t.block ++ t.body.toList) := by
    rw [← htext, String.ofList_toList]
  have hbody : t.body = String.ofList t.body.toList := String.ofList_toList.symm
  unfold Source.allLines Source.blockLines Source.lines
  rw [hall]
  rcases hends with hnil | hends
  · rw [hnil, List.append_nil, hbody, hnil]
    exact (List.append_nil _).symm
  · rw [Text.sourceLines_append hends, ← hbody]

/-- The line offset is at most the number of lines of the block, and equal to it exactly if the
block ends with a line feed, or is empty, and no carriage return in it stands alone. -/
theorem lineOffset_facts :
    ∃ n : Nat, t.lineOffset = n ∧ n ≤ t.blockLines.length ∧
      (t.blockLines.length = n ↔ Text.loneReturns t.block = 0 ∧ Text.EndsLine t.block) := by
  obtain ⟨-, -, hoffset⟩ := block_facts h
  obtain ⟨hle, hiff⟩ := Text.length_sourceLines t.block
  exact ⟨t.block.count '\n', hoffset, hle, hiff⟩

/-- Line numbers are those of the whole text exactly if no carriage return of the frontmatter block
stands alone and the block, if there is one, ends with a line feed. -/
theorem linesAgree_iff :
    t.toSource.LinesAgree ↔ Text.loneReturns t.block = 0 ∧ Text.EndsLine t.block := by
  have hlines := sourceLines_eq h
  obtain ⟨n, hoffset, hle, hiff⟩ := lineOffset_facts h
  have hcount : t.lineOffset.toNat = n := by rw [hoffset, Int.toNat_natCast]
  rw [← hiff]
  constructor
  · intro hagree
    -- as many lines as the offset says are all lines of the block
    have hlength := congrArg List.length hagree.block
    rw [hcount, List.length_take, hlines, List.length_append] at hlength
    omega
  · intro hlength
    have htake : t.allLines.take t.lineOffset.toNat = t.blockLines := by
      rw [hcount, hlines, ← hlength, List.take_left]
    refine ⟨by rw [htake, hlines], htake, fun k => ?_, fun d hd o row hrow => ?_, fun d hd => ?_⟩
    · rw [hcount, hlines, ← hlength, List.getElem?_append_right (Nat.le_add_right _ _),
        Nat.add_sub_cancel_left]
    · unfold Document.frontmatterRow at hrow
      rw [hd] at hrow
      split at hrow
      · cases hrow
      · rw [List.mem_singleton.mp hrow, hoffset, hlength]
    · unfold Document.lastLine
      rw [hd, hoffset, hlines, List.length_append, hlength]
      omega

end Parsed

/-! ## Counted at two texts -/

/-- The numbers of a parsed text: the line offset, and the numbers of lines of the block, the body
and the whole text. -/
def lineCounts (t : ParsedText) : Int × Nat × Nat × Nat :=
  (t.lineOffset, t.blockLines.length, t.lines.length, t.allLines.length)

/-- A computed answer is an answer. -/
theorem exists_of_lineCounts {x : Except DocumentError ParsedText} {counts : Int × Nat × Nat × Nat}
    (h : x.toOption.map lineCounts = some counts) : ∃ t, x = .ok t ∧ t.lineCounts = counts := by
  cases x with
  | error e => cases h
  | ok t => exact ⟨t, rfl, Option.some.inj h⟩

/-- A text with mixed line ends: pairs in its block, and a lone carriage return in its body. -/
def mixedSample : String := "---\r\na: 1\r\n---\n\n# A\rb"

/-- Its line numbers are those of the whole text. -/
theorem linesAgree_iff_sample :
    ∃ t, ofText mixedSample unnamed defaultPreset = .ok t ∧ t.lineCounts = (4, 4, 2, 6) ∧
      t.toSource.LinesAgree := by
  have hcomputed : (ofText mixedSample unnamed defaultPreset).toOption.map lineCounts =
      some (4, 4, 2, 6) := by
    decide +kernel
  obtain ⟨t, ht, hcounts⟩ := exists_of_lineCounts hcomputed
  refine ⟨t, ht, hcounts, (linesAgree_iff ht).mpr ?_⟩
  have hparsed := isOf_of_ofText ht
  unfold Source.block
  rw [hparsed.whole, hparsed.body]
  decide +kernel

/-- Fewer lines than the text has are counted when the block ends the text without a line feed, and
when a carriage return in it stands alone. -/
theorem not_linesAgree :
    (∃ t, ofText "---\na: 1\n---" unnamed defaultPreset = .ok t ∧ t.lineCounts = (2, 3, 0, 3) ∧
        ¬t.toSource.LinesAgree) ∧
      ∃ t, ofText "---\na: 1\rb: 2\n---\n# A\n" unnamed defaultPreset = .ok t ∧
        t.lineCounts = (3, 4, 1, 5) ∧ ¬t.toSource.LinesAgree := by
  -- If the lines agreed, there would be as many in the whole as in its two parts.
  have hdiffer : ∀ (t : ParsedText) (n block body all : Nat),
      t.lineCounts = ((n : Int), block, body, all) → n + body < all → ¬t.toSource.LinesAgree := by
    intro t n block body all hcounts hlt hagree
    obtain ⟨hoffset, hrest⟩ := Prod.mk.inj hcounts
    obtain ⟨-, hrest⟩ := Prod.mk.inj hrest
    obtain ⟨hbody, hall⟩ := Prod.mk.inj hrest
    have hlength := congrArg List.length hagree.whole
    rw [hoffset, Int.toNat_natCast, List.length_append, List.length_take, hall, hbody] at hlength
    omega
  constructor
  · obtain ⟨t, ht, hcounts⟩ := exists_of_lineCounts (show (ofText "---\na: 1\n---" unnamed
      defaultPreset).toOption.map lineCounts = some (2, 3, 0, 3) by decide +kernel)
    exact ⟨t, ht, hcounts, hdiffer t 2 3 0 3 hcounts (by decide)⟩
  · obtain ⟨t, ht, hcounts⟩ := exists_of_lineCounts (show (ofText "---\na: 1\rb: 2\n---\n# A\n" unnamed
      defaultPreset).toOption.map lineCounts = some (3, 4, 1, 5) by decide +kernel)
    exact ⟨t, ht, hcounts, hdiffer t 3 4 1 5 hcounts (by decide)⟩

end ParsedText

end MarkdownSections
