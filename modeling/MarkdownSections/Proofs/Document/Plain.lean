import MarkdownSections.Proofs.Document.Passage
import MarkdownSections.Proofs.Markdown.Html
import MarkdownSections.Proofs.Markdown.List
import MarkdownSections.Proofs.Markdown.Table

/-!
# Blocks that keep their text

A running text shows itself if nothing in it is read as a mark (`showsItself`). A heading keeps such a
title; code keeps lines that close no fence; paragraphs, images and HTML keep their source, as long as
it is read as one block.
-/

set_option autoImplicit false

namespace MarkdownSections

open Markdown (joinLines joinLines_append textLines joinLines_textLines)
open Markdown.Block

/-! ## Running text -/

/-- Whether the pieces of a running text stand in one another only so deep, and none of them looks
like a block. -/
def isReadable (nodes : List Node) : Bool :=
  Node.heightAll nodes + 5 ≤ Node.maxHeight
    && (Node.walkAll nodes).all fun n => n.type != "inline" && n.type != "tr"

/-- Whether a running text shows its own characters and nothing else. -/
def showsItself (cs : List Char) : Bool :=
  match runningNodes? cs with
  | some nodes => isReadable nodes && Node.piecesText nodes == String.ofList cs
  | none => false

/-- Whether a text can be read as running text. -/
def isRunning (cs : List Char) : Bool :=
  (runningNodes? cs).any isReadable

/-- What a running text shows. -/
def shownText (cs : List Char) : String :=
  ((runningNodes? cs).map Node.piecesText).getD ""

/-- The node of a line of running text. -/
def lineNode (lines : Option (Int × Int)) (cs : List Char) (nodes : List Node) : Node :=
  { type := "inline", lines, content := String.ofList cs, children := nodes }

theorem exists_of_showsItself {cs : List Char} (h : showsItself cs = true) :
    ∃ nodes, runningNodes? cs = some nodes ∧ isReadable nodes = true ∧
      Node.piecesText nodes = String.ofList cs := by
  unfold showsItself at h
  split at h
  · next nodes hnodes =>
      rw [Bool.and_eq_true, beq_iff_eq] at h
      exact ⟨nodes, hnodes, h⟩
  · cases h

theorem exists_of_isRunning {cs : List Char} (h : isRunning cs = true) :
    ∃ nodes, runningNodes? cs = some nodes ∧ isReadable nodes = true ∧
      Node.piecesText nodes = shownText cs := by
  obtain ⟨nodes, hnodes, hreadable⟩ := (Option.any_eq_true _ _).mp h
  refine ⟨nodes, hnodes, hreadable, ?_⟩
  rw [shownText, hnodes]
  rfl

/-- A text that shows itself can be read. -/
theorem shownText_of_showsItself {cs : List Char} (h : showsItself cs = true) :
    isRunning cs = true ∧ shownText cs = String.ofList cs := by
  obtain ⟨nodes, hnodes, hreadable, htext⟩ := exists_of_showsItself h
  rw [isRunning, shownText, hnodes]
  exact ⟨hreadable, htext⟩

section LineNode

variable {lines : Option (Int × Int)} {cs : List Char} {nodes : List Node}

theorem heightAll_of_isReadable (h : isReadable nodes = true) :
    Node.heightAll nodes + 5 ≤ Node.maxHeight := by
  simp only [isReadable, Bool.and_eq_true, decide_eq_true_eq] at h
  exact h.1

/-- No piece of a running text looks like a block of the given type. -/
theorem filter_walkAll_of_isReadable (h : isReadable nodes = true) {type : String}
    (htype : type = "inline" ∨ type = "tr") :
    (Node.walkAll nodes).filter (fun n => n.type == type) = [] := by
  simp only [isReadable, Bool.and_eq_true, List.all_eq_true, bne_iff_ne] at h
  rw [List.filter_eq_nil_iff]
  intro m hm heq
  rw [beq_iff_eq] at heq
  rcases htype with rfl | rfl
  · exact (h.2 m hm).1 heq
  · exact (h.2 m hm).2 heq

/-- The text of a block with one line of running text is what the line shows. -/
theorem plainText_of_line {n : Node} (hpieces : n.holdsPieces = false)
    (hliteral : n.isLiteral = false) (hchildren : n.children = [lineNode lines cs nodes])
    (hnodes : isReadable nodes = true) : n.plainText = Node.piecesText nodes := by
  have htype : n.type ≠ "inline" := by
    intro heq
    simp [Node.holdsPieces, heq] at hpieces
  have hinline := filter_walkAll_of_isReadable hnodes (.inl rfl)
  rw [Node.plainText, hpieces, hliteral]
  cases n
  simp only at hchildren htype
  subst hchildren
  simp [Node.walk, Node.walkAll, lineNode, htype, hinline, Node.inlineText]

end LineNode

/-! ## Headings and rules -/

/-- Whether a title keeps its text as a heading. -/
def isTitle (cs : List Char) : Bool :=
  cs.all isOrdinary && showsItself cs && Markdown.trimText (withoutClosingSigns (' ' :: cs)) == cs

theorem readLevel_of_low {n : Node} {level : Nat} (hlow : 1 ≤ level) (hhigh : level ≤ 6)
    (htype : n.type = "heading") (htag : n.tag = "h" ++ Text.showNat level) :
    n.readLevel = .ok level := by
  have hheading : n.isHeading = true := by simp [Node.isHeading, htype]
  have hcases : level = 1 ∨ level = 2 ∨ level = 3 ∨ level = 4 ∨ level = 5 ∨ level = 6 := by omega
  rw [Node.readLevel, hheading, htag]
  rcases hcases with rfl | rfl | rfl | rfl | rfl | rfl <;> rfl

/-- An element whose content is its text is rendered as a block by its type alone. -/
theorem render_of_text {e : Element} (hkind : e.isInline = false) (hencoding : e.encoding = .text) :
    e.render .lenient = .ok (e.blockText .plain) := by
  rw [Element.render_of_plain (Element.payload_of_text hencoding .lenient), Element.renderPayload,
    hkind]
  rfl

/-- The text of a heading of the given depth. -/
def headingText (depth : Nat) (title : String) : String :=
  String.ofList (List.replicate depth '#') ++ " " ++ title ++ "\n\n"

theorem headingText_eq (depth : Nat) (title : List Char) :
    headingText depth (String.ofList title) =
      String.ofList (joinLines (headingPassage depth title).written) := by
  rw [← String.toList_inj]
  simp [headingText, headingPassage, Passage.written]

theorem headingLevel_of_level {e : Element} {level : Nat} (hattr : e.attr "heading_level" = "")
    (hlevel : e.level = some (level : Int)) (hlow : 1 ≤ level) (hhigh : level ≤ 6) :
    e.headingLevel = level := by
  have hrange : 1 ≤ (level : Int) ∧ (level : Int) ≤ 6 := by omega
  simp only [Element.headingLevel, hattr, hlevel, hrange]
  simp
  omega

theorem render_headingElement {n : Node} {level : Nat} (hlow : 1 ≤ level) (hhigh : level ≤ 6)
    (hlevel : n.readLevel = .ok (level : Int)) (id : String) :
    (n.headingElement id).render .lenient = .ok (headingText level n.plainText) := by
  have hattr : (n.headingElement id).attr "heading_level" = "" := by
    simp [Element.attr, Node.headingElement, List.lookup_cons]
  have hstated : (n.headingElement id).level = some (level : Int) := by
    rw [Node.headingElement, Node.headingLevel, hlevel]
  have htype : (n.headingElement id).type = .heading := Element.type_of_tag rfl
  rw [render_of_text rfl rfl, Element.blockText]
  simp only [htype, headingLevel_of_level hattr hstated hlow hhigh, Int.toNat_natCast]
  rfl

/-- A title is read as the title of a heading. -/
theorem isLegible_heading {level : Nat} (hlow : 1 ≤ level) (hhigh : level ≤ 6) {title : List Char}
    (htitle : isTitle title = true) : IsLegible (headingPassage level title) := by
  simp only [isTitle, Bool.and_eq_true, beq_iff_eq] at htitle
  obtain ⟨⟨hordinary, -⟩, htrim⟩ := htitle
  refine ⟨isRead_heading hlow hhigh htrim, ?_⟩
  intro l hl
  rw [headingPassage, List.mem_singleton] at hl
  rw [hl, List.all_append, List.all_cons, hordinary, List.all_replicate]
  simp [isOrdinary]

theorem exists_headingNode {title : List Char} (htitle : isTitle title = true) (level i : Nat) :
    ∃ n, Node.Builds (((headingPassage level title).tokens i).map (Markdown.fillInline .gfmLike []))
        [n] ∧ n.height ≤ Node.maxHeight ∧ n.type = "heading" ∧ n.tag = "h" ++ Text.showNat level ∧
      n.lines = lineRange i (i + 1) ∧ n.plainText = String.ofList title := by
  simp only [isTitle, Bool.and_eq_true] at htitle
  obtain ⟨nodes, hnodes, hreadable, htext⟩ := exists_of_showsItself htitle.1.2
  refine ⟨{ type := "heading", tag := "h" ++ Text.showNat level, lines := lineRange i (i + 1)
            children := [lineNode (lineRange i (i + 1)) title nodes] }, ?_, ?_, rfl, rfl, rfl, ?_⟩
  · exact Node.builds_enclose (Node.builds_inline hnodes)
  · have hheight := heightAll_of_isReadable hreadable
    simp [Node.height, Node.heightAll, lineNode]
    omega
  · rw [plainText_of_line rfl rfl rfl hreadable, htext]

theorem isKept_heading {level : Nat} (hlow : 1 ≤ level) (hhigh : level ≤ 6) {title : List Char}
    (htitle : isTitle title = true) : IsKept (headingPassage level title) := by
  intro i
  obtain ⟨n, hbuilds, hheight, htype, htag, -, htext⟩ := exists_headingNode htitle level i
  have hlevel : n.readLevel = .ok (level : Int) := readLevel_of_low hlow hhigh htype htag
  refine ⟨n, hbuilds, hheight, fun d hlines => ?_⟩
  apply Document.isRenderedAs_heading
  · simp [Node.isHeading, htype]
  · intro id
    rw [render_headingElement hlow hhigh hlevel, htext, headingText_eq]

theorem isLegible_rule : IsLegible rulePassage := by
  refine ⟨isRead_rule, ?_⟩
  simp [rulePassage, isOrdinary]

theorem height_of_leaf {n : Node} (h : n.children = []) : n.height ≤ Node.maxHeight := by
  cases n
  simp only at h
  subst h
  simp [Node.height, Node.heightAll, Node.maxHeight]

/-- The node of a thematic break. -/
def ruleNode (i : Nat) : Node :=
  { type := "hr", tag := "hr", lines := lineRange i (i + 1) }

/-- A thematic break keeps its text. -/
theorem isKept_rule : IsKept rulePassage := by
  intro i
  refine ⟨ruleNode i, Node.builds_leaf rfl rfl, height_of_leaf rfl, ?_⟩
  intro d _
  exact Document.isRenderedAs_block rfl rfl

/-! ## Code -/

/-- Whether code stands between its fences behind an info string. -/
def isFenced (info content : List Char) : Bool :=
  info.all isOrdinary && !info.contains '\x60' && !info.contains '|'
    && (textLines content).all fun l => l.all isOrdinary && !isClosingFence l

/-- Whether code keeps its text behind an info string. -/
def isCodeText (info content : List Char) : Bool :=
  info.all isOrdinary && !info.contains '\x60' && !info.contains '|'
    && (Text.trim info).takeWhile (· != ' ') == info
    && (textLines content).all (fun l => l.all isOrdinary && !isClosingFence l)
    && Text.dropEndWhile (· == '\n') content == content

/-- The element of a code block. -/
def codeElement (n : Node) : Element :=
  { kind := some .block, elementType := ElementType.code.tag
    content := Text.dropFinalNewlines n.content, attributes := n.codeAttributes }

/-- The attributes of a code block name its language, if it has one. -/
theorem attr_language (n : Node) : (codeElement n).attr "language" = n.language := by
  simp only [Element.attr, codeElement, Node.codeAttributes]
  split
  · next hempty =>
      have hinfo : n.infoString = "" := String.isEmpty_iff.mp hempty
      simp [Node.language, hinfo]
  · simp

/-- The text of a code block. -/
def codeText (language content : String) : String :=
  "```" ++ language ++ "\n" ++ content ++ "\n```\n\n"

theorem codeText_eq (info content : List Char) :
    codeText (String.ofList info) (String.ofList content) =
      String.ofList (joinLines (codePassage info (textLines content)).written) := by
  rw [← String.toList_inj]
  simp [codeText, codePassage, Passage.written, joinLines_append, joinLines_textLines]

theorem render_fence {n : Node} (d : Document) (h : n.type = "fence") :
    (d.blockElement .lenient n).render .lenient =
      .ok (codeText n.language (Text.dropFinalNewlines n.content)) := by
  have helement : d.blockElement .lenient n = codeElement n := by
    simp [Document.blockElement, h, codeElement]
  have htype : (codeElement n).type = .code := Element.type_of_tag rfl
  rw [helement, render_of_text rfl rfl, Element.blockText]
  simp only [htype, attr_language]
  rfl

/-- Code that keeps its text stands between its fences. -/
theorem isFenced_of_isCodeText {info content : List Char} (h : isCodeText info content = true) :
    isFenced info content = true := by
  simp only [isCodeText, Bool.and_eq_true] at h
  obtain ⟨⟨⟨hplain, -⟩, hcode⟩, -⟩ := h
  simp only [isFenced, hplain, hcode, Bool.and_true]

theorem isLegible_code {info content : List Char} (h : isFenced info content = true) :
    IsLegible (codePassage info (textLines content)) := by
  simp only [isFenced, Bool.and_eq_true, Bool.not_eq_true', List.contains_eq_mem,
    decide_eq_false_iff_not, List.all_eq_true] at h
  obtain ⟨⟨⟨hordinary, hbacktick⟩, hpipe⟩, hcode⟩ := h
  refine ⟨isRead_code hbacktick hpipe fun l hl => (hcode l hl).2, ?_⟩
  intro l hl
  rw [codePassage, List.mem_cons, List.mem_append, List.mem_singleton] at hl
  rcases hl with rfl | hl | rfl
  · simp only [List.all_cons, Bool.and_eq_true]
    exact ⟨rfl, rfl, rfl, List.all_eq_true.mpr hordinary⟩
  · exact List.all_eq_true.mpr (hcode l hl).1
  · rfl

/-- The node of code between fences. -/
def codeNode (i : Nat) (info content : List Char) : Node :=
  { type := "fence", tag := "code", lines := lineRange i (i + (textLines content).length + 2)
    content := String.ofList (joinLines (textLines content)), info := String.ofList info }

theorem isKept_code {info content : List Char} (h : isCodeText info content = true) :
    IsKept (codePassage info (textLines content)) := by
  intro i
  simp only [isCodeText, Bool.and_eq_true, beq_iff_eq] at h
  obtain ⟨⟨⟨-, hlanguage⟩, -⟩, hfinal⟩ := h
  refine ⟨codeNode i info content, Node.builds_leaf rfl rfl, height_of_leaf rfl, ?_⟩
  intro d hlines
  apply Document.isRenderedAs_block rfl
  have hinfo : (codeNode i info content).language = String.ofList info := by
    simp [codeNode, Node.language, Node.infoString, Text.trimString, hlanguage]
  have hcontent : Text.dropFinalNewlines (codeNode i info content).content =
      String.ofList content := by
    rw [codeNode, joinLines_textLines, Text.dropFinalNewlines, String.toList_ofList,
      Text.dropEndWhile_append_singleton rfl, hfinal]
  rw [render_fence d rfl, hinfo, hcontent, codeText_eq]

/-! ## HTML -/

/-- Whether a text keeps itself as an HTML block. -/
def isHtmlText (content : List Char) : Bool :=
  (textLines content).all (·.all isOrdinary) && areHtmlLines (textLines content)
    && Text.dropEndWhile (· == '\n') content == content

theorem paragraphText_eq (content : List Char) :
    Element.paragraphText (String.ofList content) =
      String.ofList (joinLines (paragraphPassage (textLines content)).written) := by
  rw [← String.toList_inj]
  simp [Element.paragraphText, paragraphPassage, Passage.written, joinLines_append,
    joinLines_textLines]

theorem render_html {n : Node} (d : Document) (h : n.type = "html_block") :
    (d.blockElement .lenient n).render .lenient =
      .ok (Element.paragraphText (Text.dropFinalNewlines n.content)) := by
  have helement : d.blockElement .lenient n =
      { kind := some .block, elementType := ElementType.html.tag
        content := Text.dropFinalNewlines n.content } := by
    simp [Document.blockElement, h]
  rw [helement, render_of_text rfl rfl]
  rfl

theorem htmlText_eq (content : List Char) :
    Element.paragraphText (String.ofList content) =
      String.ofList (joinLines (htmlPassage (textLines content)).written) :=
  paragraphText_eq content

/-- Whether a text is read as one HTML block. -/
def isHtmlBlock (content : List Char) : Bool :=
  (textLines content).all (·.all isOrdinary) && areHtmlLines (textLines content)

theorem isLegible_html {content : List Char} (h : isHtmlBlock content = true) :
    IsLegible (htmlPassage (textLines content)) := by
  rw [isHtmlBlock, Bool.and_eq_true] at h
  exact ⟨isRead_html h.2, List.all_eq_true.mp h.1⟩

/-- The node of an HTML block. -/
def htmlNode (i : Nat) (content : List Char) : Node :=
  { type := "html_block", lines := lineRange i (i + (textLines content).length)
    content := String.ofList (joinLines (textLines content)) }

/-- A text that keeps itself as an HTML block is read as one. -/
theorem isHtmlBlock_of_isHtmlText {content : List Char} (h : isHtmlText content = true) :
    isHtmlBlock content = true := by
  rw [isHtmlText, Bool.and_eq_true] at h
  exact h.1

theorem isKept_html {content : List Char} (h : isHtmlText content = true) :
    IsKept (htmlPassage (textLines content)) := by
  intro i
  rw [isHtmlText, Bool.and_eq_true, beq_iff_eq] at h
  obtain ⟨-, hfinal⟩ := h
  refine ⟨htmlNode i content, Node.builds_leaf rfl rfl, height_of_leaf rfl, ?_⟩
  intro d _
  apply Document.isRenderedAs_block rfl
  rw [render_html d rfl, htmlNode, joinLines_textLines, Text.dropFinalNewlines,
    String.toList_ofList, Text.dropEndWhile_append_singleton rfl, hfinal, htmlText_eq]

/-! ## Paragraphs and images -/

/-- The node of a paragraph that holds a running text. -/
def paragraphNode (lines : Option (Int × Int)) (cs : List Char) (nodes : List Node) : Node :=
  { type := "paragraph", tag := "p", lines, children := [lineNode lines cs nodes] }

/-- Whether a text is read as one paragraph, whose pieces pass a test. -/
def isParagraphOf (test : List Node → Bool) (content : List Char) : Bool :=
  (textLines content).all (·.all isOrdinary) && areParagraphLines (textLines content)
    && match runningNodes? (Markdown.trimText content) with
      | some nodes => isReadable nodes && test nodes
      | none => false

/-- The tokens of a paragraph build its node. -/
theorem builds_paragraphTokens {content : List Char} {nodes : List Node}
    (h : runningNodes? (Markdown.trimText content) = some nodes) (level i : Nat) :
    Node.Builds ((paragraphTokens level i (textLines content)).map (Markdown.fillInline .gfmLike []))
      [paragraphNode (lineRange i (i + (textLines content).length)) (Markdown.trimText content)
        nodes] := by
  simp only [paragraphTokens, textLines, Text.intercalate_splitWhen]
  exact Node.builds_enclose (Node.builds_inline h)

theorem exists_of_isParagraphOf {test : List Node → Bool} {content : List Char}
    (h : isParagraphOf test content = true) :
    (∀ l ∈ textLines content, l.all isOrdinary = true) ∧
      areParagraphLines (textLines content) = true ∧
        ∃ nodes, runningNodes? (Markdown.trimText content) = some nodes ∧
          isReadable nodes = true ∧ test nodes = true := by
  simp only [isParagraphOf, Bool.and_eq_true] at h
  obtain ⟨⟨hordinary, hlines⟩, hrunning⟩ := h
  split at hrunning
  · next nodes hnodes =>
      rw [Bool.and_eq_true] at hrunning
      exact ⟨List.all_eq_true.mp hordinary, hlines, nodes, hnodes, hrunning⟩
  · cases hrunning

/-- A paragraph whose pieces pass a test is a paragraph. -/
theorem isParagraphOf_true {test : List Node → Bool} {content : List Char}
    (h : isParagraphOf test content = true) : isParagraphOf (fun _ => true) content = true := by
  obtain ⟨hordinary, hlines, nodes, hnodes, hreadable, -⟩ := exists_of_isParagraphOf h
  have hlegible : (textLines content).all (·.all isOrdinary) = true :=
    List.all_eq_true.mpr hordinary
  rw [isParagraphOf, hnodes, hlegible, hlines]
  simpa using hreadable

theorem isLegible_paragraph {test : List Node → Bool} {content : List Char}
    (h : isParagraphOf test content = true) :
    IsLegible (paragraphPassage (textLines content)) := by
  obtain ⟨hordinary, hlines, -⟩ := exists_of_isParagraphOf h
  exact ⟨isRead_paragraph hlines, hordinary⟩

/-- The node of a paragraph stands no deeper than its pieces allow. -/
theorem height_paragraphNode {lines : Option (Int × Int)} {cs : List Char} {nodes : List Node}
    (h : isReadable nodes = true) :
    (paragraphNode lines cs nodes).height + 3 ≤ Node.maxHeight := by
  have hheight := heightAll_of_isReadable h
  simp [Node.height, Node.heightAll, paragraphNode, lineNode]
  omega

/-- A text that is read as one paragraph is kept, if the element of that paragraph is rendered as
the text. -/
theorem isKept_paragraph {test : List Node → Bool} {content : List Char}
    (h : isParagraphOf test content = true)
    (htest : ∀ (d : Document) (i : Nat) (nodes : List Node), test nodes = true →
      d.HasLines i (textLines content) →
        (d.blockElement .lenient (paragraphNode (lineRange i (i + (textLines content).length))
          (Markdown.trimText content) nodes)).render .lenient =
            .ok (Element.paragraphText (String.ofList content))) :
    IsKept (paragraphPassage (textLines content)) := by
  obtain ⟨-, -, nodes, hnodes, hreadable, hpass⟩ := exists_of_isParagraphOf h
  intro i
  refine ⟨paragraphNode (lineRange i (i + (textLines content).length))
    (Markdown.trimText content) nodes, ?_, ?_, ?_⟩
  · exact builds_paragraphTokens hnodes 0 i
  · exact Nat.le_of_add_right_le (height_paragraphNode hreadable)
  · intro d hlines
    apply Document.isRenderedAs_block rfl
    -- What is left is how the element of the paragraph is written, and `htest` tells it.
    rw [htest d i nodes hpass hlines.left, paragraphText_eq]

/-- Whether a text keeps itself as a paragraph: it ends with no blank, and holds more than an
image. -/
def isParagraphText (content : List Char) : Bool :=
  Text.trimEnd content == content
    && isParagraphOf (fun nodes => (paragraphNode none [] nodes).onlyImage?.isNone) content

/-- Whether a text keeps itself as an image. -/
def isImageText (content : List Char) : Bool :=
  isParagraphOf (fun nodes => (paragraphNode none [] nodes).onlyImage?.isSome
    && (Document.paragraphElement default (paragraphNode none [] nodes)).blockText .plain ==
      Element.paragraphText (String.ofList content)) content

/-- The element of a paragraph that holds only an image does not depend on its place. -/
theorem paragraphElement_of_image {nodes : List Node}
    (h : (paragraphNode none [] nodes).onlyImage?.isSome = true) (d : Document)
    (lines : Option (Int × Int)) (cs : List Char) :
    d.paragraphElement (paragraphNode lines cs nodes) =
      Document.paragraphElement default (paragraphNode none [] nodes) := by
  have hsame : (paragraphNode lines cs nodes).onlyImage? =
      (paragraphNode none [] nodes).onlyImage? := rfl
  obtain ⟨image, himage⟩ := Option.isSome_iff_exists.mp h
  rw [Document.paragraphElement, Document.paragraphElement, hsame, himage]

theorem isKept_imageText {content : List Char} (h : isImageText content = true) :
    IsKept (paragraphPassage (textLines content)) := by
  apply isKept_paragraph h
  intro d i nodes htest hlines
  rw [Bool.and_eq_true, beq_iff_eq] at htest
  obtain ⟨himage, htext⟩ := htest
  obtain ⟨image, hfound⟩ := Option.isSome_iff_exists.mp himage
  change (d.paragraphElement _).render .lenient = _
  rw [paragraphElement_of_image himage, ← htext]
  apply render_of_text
  · rw [Document.paragraphElement, hfound]
    rfl
  · rw [Document.paragraphElement, hfound]

/-- A text that ends with no blank ends with no line feed. -/
theorem dropEndWhile_newline_of_trimEnd {content : List Char}
    (h : Text.trimEnd content = content) : Text.dropEndWhile (· == '\n') content = content := by
  apply Text.dropEndWhile_eq_self
  intro c hc
  have hblank := Text.eq_false_of_dropEndWhile_eq_self h c hc
  rw [beq_eq_false_iff_ne]
  rintro rfl
  cases hblank

theorem isKept_paragraphText {content : List Char} (h : isParagraphText content = true) :
    IsKept (paragraphPassage (textLines content)) := by
  rw [isParagraphText, Bool.and_eq_true, beq_iff_eq] at h
  obtain ⟨htrim, hparagraph⟩ := h
  apply isKept_paragraph hparagraph
  intro d i nodes himage hlines
  have hsource := hlines.sourceOf
    (n := paragraphNode (lineRange i (i + (textLines content).length)) (Markdown.trimText content)
      nodes) rfl
  have hblank : Text.trimEnd (joinLines (textLines content)) = content := by
    rw [joinLines_textLines, Text.trimEnd, Text.dropEndWhile_append_singleton rfl]
    exact htrim
  -- The text ends with no blank, so the line feed put behind it is the only one dropped.
  have hlast := dropEndWhile_newline_of_trimEnd htrim
  have hfinal : Text.dropFinalNewlines (String.ofList content ++ "\n") = String.ofList content := by
    have hlist : (String.ofList content ++ "\n").toList = content ++ ['\n'] := by simp
    rw [Text.dropFinalNewlines, hlist, Text.dropEndWhile_append_singleton rfl, hlast]
  have helement : d.paragraphElement (paragraphNode (lineRange i (i + (textLines content).length))
      (Markdown.trimText content) nodes) =
        { kind := some .block, elementType := ElementType.paragraph.tag
          content := String.ofList content } := by
    have hnone : (paragraphNode (lineRange i (i + (textLines content).length))
        (Markdown.trimText content) nodes).onlyImage? = none := Option.isNone_iff_eq_none.mp himage
    rw [Document.paragraphElement, hnone, hsource, hblank, hfinal]
  change (d.paragraphElement _).render .lenient = _
  rw [helement, render_of_text rfl rfl]
  rfl

end MarkdownSections
