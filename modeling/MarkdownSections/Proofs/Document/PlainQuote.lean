import MarkdownSections.Proofs.Document.Plain
import MarkdownSections.Proofs.Document.QuoteText

/-!
# Quotes that keep their text

A quote that holds one paragraph keeps its text if no character of it but a line feed ends a visual
line, since its lines are put behind their marks one by one.
-/

set_option autoImplicit false

namespace MarkdownSections

open Markdown (joinLines joinLines_append textLines)
open Markdown.Block

/-- Whether a line of a quote stands behind its mark as it is. -/
def isQuoteLine (cs : List Char) : Bool :=
  isQuotable cs && cs.all (!Text.isLineEnd ·)

/-- Whether a text is read as a quote of one paragraph. -/
def isQuoted (content : List Char) : Bool :=
  (textLines content).all isQuoteLine && isParagraphOf (fun _ => true) content

/-- Whether a text keeps itself as a quote. -/
def isQuoteText (content : List Char) : Bool :=
  Text.trimEnd content == content && (textLines content).all isQuoteLine
    && isParagraphOf (fun _ => true) content

theorem isQuoted_of_isQuoteText {content : List Char} (h : isQuoteText content = true) :
    isQuoted content = true := by
  simp only [isQuoteText, Bool.and_eq_true] at h
  rw [isQuoted, h.1.2, h.2]
  rfl

theorem isQuoteLine_of_isQuoted {content : List Char} (h : isQuoted content = true) :
    ∀ cs ∈ textLines content, isQuoteLine cs = true := by
  simp only [isQuoted, Bool.and_eq_true, List.all_eq_true] at h
  exact h.1

/-! ## Marks in front of lines -/

theorem isLineEnd_of_isQuoteLine {cs : List Char} (h : isQuoteLine cs = true) :
    ∀ c ∈ cs, Text.isLineEnd c = false := by
  simp only [isQuoteLine, Bool.and_eq_true, List.all_eq_true, Bool.not_eq_true'] at h
  exact h.2

theorem ne_nil_of_isQuoteLine {cs : List Char} (h : isQuoteLine cs = true) : cs ≠ [] := by
  rintro rfl
  cases h

/-- The visual lines of a quote of such lines are its lines. -/
theorem visualLines_of_isQuoteLine {content : List Char}
    (h : ∀ cs ∈ textLines content, isQuoteLine cs = true) :
    Text.visualLines content = textLines content := by
  have hvisual := visualLines_intercalate (fun cs hcs => isLineEnd_of_isQuoteLine (h cs hcs))
    fun cs hcs => ne_nil_of_isQuoteLine (h cs (List.mem_of_getLast? hcs))
  rwa [textLines, Text.intercalate_splitWhen] at hvisual

/-- A quote puts each line of its content behind a mark. -/
theorem quoteText_eq {content : List Char} (h : ∀ cs ∈ textLines content, isQuoteLine cs = true) :
    Element.quoteText (String.ofList content) =
      String.ofList (joinLines (quotePassage (textLines content)).written) := by
  rw [quoteText_ofList, visualLines_of_isQuoteLine h, quotePassage, Passage.written,
    joinLines_append]
  rfl

theorem ne_nil_of_textLines {content : List Char}
    (h : ∀ cs ∈ textLines content, isQuoteLine cs = true) : content ≠ [] := by
  rintro rfl
  exact ne_nil_of_isQuoteLine (h [] List.mem_cons_self) rfl

/-- The node of a quote that holds a paragraph. -/
def quoteNode (lines : Option (Int × Int)) (cs : List Char) (nodes : List Node) : Node :=
  { type := "blockquote", tag := "blockquote", lines, children := [paragraphNode lines cs nodes] }

theorem blockElement_quoteNode (d : Document) (lines : Option (Int × Int)) (cs : List Char)
    (nodes : List Node) :
    d.blockElement .lenient (quoteNode lines cs nodes) =
      { kind := some .block, elementType := ElementType.blockquote.tag
        content := Node.unquote (d.sourceOf (quoteNode lines cs nodes)), level := some 1 } :=
  rfl

theorem isLegible_quote {content : List Char} (h : isQuoted content = true) :
    IsLegible (quotePassage (textLines content)) := by
  have hquotes := isQuoteLine_of_isQuoted h
  rw [isQuoted, Bool.and_eq_true] at h
  obtain ⟨hordinary, hlines, -⟩ := exists_of_isParagraphOf h.2
  have hquotable : ∀ cs ∈ textLines content, isQuotable cs = true := by
    intro cs hcs
    have hline := hquotes cs hcs
    rw [isQuoteLine, Bool.and_eq_true] at hline
    exact hline.1
  refine ⟨isRead_quote hlines hquotable, ?_⟩
  intro l hl
  obtain ⟨cs, hcs, rfl⟩ := List.mem_map.mp hl
  rw [quotedChars, List.all_cons, List.all_cons, hordinary cs hcs]
  rfl

theorem exists_quoteNode {content : List Char} (h : isQuoted content = true) (i : Nat) :
    ∃ nodes, Node.Builds (((quotePassage (textLines content)).tokens i).map
        (Markdown.fillInline .gfmLike []))
          [quoteNode (lineRange i (i + (textLines content).length)) (Markdown.trimText content)
            nodes] ∧
      (quoteNode (lineRange i (i + (textLines content).length)) (Markdown.trimText content)
        nodes).height ≤ Node.maxHeight := by
  rw [isQuoted, Bool.and_eq_true] at h
  obtain ⟨-, -, nodes, hnodes, hreadable, -⟩ := exists_of_isParagraphOf h.2
  refine ⟨nodes, Node.builds_enclose (builds_paragraphTokens hnodes 1 i), ?_⟩
  have hheight := @height_paragraphNode (lineRange i (i + (textLines content).length))
    (Markdown.trimText content) nodes hreadable
  simp [Node.height, quoteNode, Node.heightAll]
  omega

/-- A quote of one paragraph keeps its text. -/
theorem isKept_quote {content : List Char} (h : isQuoteText content = true) :
    IsKept (quotePassage (textLines content)) := by
  have hquoted := isQuoted_of_isQuoteText h
  have hquotes := isQuoteLine_of_isQuoted hquoted
  have hvisual := visualLines_of_isQuoteLine hquotes
  have hne := ne_nil_of_textLines hquotes
  simp only [isQuoteText, Bool.and_eq_true, beq_iff_eq] at h
  obtain ⟨⟨htrim, -⟩, -⟩ := h
  intro i
  obtain ⟨nodes, hbuilds, hheight⟩ := exists_quoteNode hquoted i
  refine ⟨_, hbuilds, hheight, ?_⟩
  intro d hseen
  apply Document.isRenderedAs_block rfl
  have hsource : d.sourceOf (quoteNode (lineRange i (i + (textLines content).length))
      (Markdown.trimText content) nodes) =
        String.ofList (joinLines ((textLines content).map quotedChars)) := by
    have hline : (quoteNode (lineRange i (i + (textLines content).length))
        (Markdown.trimText content) nodes).lines =
          lineRange i (i + ((textLines content).map quotedChars).length) := by
      rw [List.length_map]
      rfl
    have hkept := trimEnd_joinLines_visualLines hne htrim
    rw [hvisual] at hkept
    rw [hseen.left.sourceOf hline, ← hkept, String.ofList_append]
    rfl
  have hcontent := unquote_joinLines_visualLines hne htrim
  rw [hvisual, textLines, Text.intercalate_splitWhen, ← textLines] at hcontent
  rw [blockElement_quoteNode, hsource, hcontent, render_of_text rfl rfl, ← quoteText_eq hquotes]
  rfl

end MarkdownSections
