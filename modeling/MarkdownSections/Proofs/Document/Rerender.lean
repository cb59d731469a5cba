import MarkdownSections.Proofs.Document.Attributes
import MarkdownSections.Proofs.Document.Kept
import MarkdownSections.Proofs.Document.Parse
import MarkdownSections.Proofs.Frontmatter.Fence

/-!
# Rendering a document again

Not every text that elements are rendered to is rendered as itself (`not_rendered?_rendered`). It is,
if all elements keep their texts: the title of a heading, an item or a cell shows itself when it is
read as running text, code holds no closing fence, and so on (`rendered?_of_keepText`).
-/

set_option autoImplicit false

namespace MarkdownSections.Document

open Attempt (eq_ok_of_toOption)
open Markdown (joinLines joinLines_cons fillInline)
open Markdown.Block (Passage)
open Markdown.Block.Passage (allWritten placed AreRead)

/-- The elements of a text. -/
def elements? (text : String) : Option (List Element) := do
  let d ← (ofText text).toOption
  (d.elements .lenient).toOption

/-- The text that the elements of a text render to. -/
def rendered? (text : String) : Option String := do
  let es ← elements? text
  (Element.renderAll .lenient es).toOption

/-- A title is rendered with the marks that its source had escaped, and they are read as marks; so is
the pipe in a cell, which then holds less. -/
theorem not_rendered?_rendered :
    (rendered? "# \\*a\\*" = some "# *a*\n\n" ∧ rendered? "# *a*\n\n" = some "# a\n\n") ∧
      rendered? "| a |\n|---|\n| b \\| c |\n" = some "| a |\n|---|\n| b | c |\n\n" ∧
        rendered? "| a |\n|---|\n| b | c |\n\n" = some "| a |\n|---|\n| b |\n\n" := by
  decide +kernel

/-! ## Documents of passages -/

section Passages

variable {ps : List Passage} (hlegible : ∀ p ∈ ps, IsLegible p)

include hlegible

theorem ordinary_allWritten : ∀ l ∈ allWritten ps, l.all isOrdinary = true := by
  intro l hl
  obtain ⟨p, hp, hl⟩ := List.mem_flatMap.mp hl
  rcases List.mem_append.mp hl with hl | hl
  · exact (hlegible p hp).ordinary l hl
  · rw [List.mem_singleton.mp hl]
    rfl

/-- The tokens of a text of passages. -/
theorem parse?_passages (hread : AreRead ps) :
    Markdown.parse? .gfmLike (joinLines (allWritten ps)) =
      some ((placed (fun i p => p.tokens i) 0 ps).flatten.map (fillInline .gfmLike [])) := by
  have hordinary := ordinary_allWritten hlegible
  have hblocks := Markdown.Block.ofText_passages hread fun l hl =>
    (notMem_of_isOrdinary (hordinary l hl)).1
  rw [Markdown.parse?, normalizeSource_joinLines hordinary, hblocks]
  rfl

/-- A text whose body consists of passages is a document of their blocks. -/
theorem exists_ofText_passages (hread : AreRead ps) {nodes : List Node}
    (hbuilds : Node.Builds
      ((placed (fun i p => p.tokens i) 0 ps).flatten.map (fillInline .gfmLike [])) nodes)
    (hheight : Node.heightAll nodes ≤ Node.maxHeight) {text : String} {raw : List Char}
    {frontmatter : List (String × String)}
    (hsplit : Frontmatter.split text.toList = (raw, joinLines (allWritten ps)))
    (hmap : Frontmatter.readMap raw = .ok frontmatter) :
    ∃ d : Document, ofText text = .ok d ∧ d.blocks = nodes ∧
      d.rawFrontmatter = String.ofList raw ∧ d.HasLines 0 (allWritten ps) := by
  -- The document is written out, so that what is read of it below holds by its fields.
  let d : Document :=
    { path := (Path.ofText ParsedText.unnamed).toText, text
      body := String.ofList (joinLines (allWritten ps)), frontmatter
      rawFrontmatter := String.ofList raw
      lineOffset := Frontmatter.lineCount text.toList (joinLines (allWritten ps)), blocks := nodes }
  refine ⟨d, ?_, rfl, rfl, [], [], rfl, ?_⟩
  · have hpreset : Markdown.Preset.ofName? ParsedText.defaultPreset = some .gfmLike := rfl
    simp only [ofText, ParsedText.ofText, hsplit, hmap, hpreset, parse?_passages hlegible hread,
      ParsedText.toDocument, hbuilds.ofTokens?, bind, Except.bind]
    rw [if_neg (Nat.not_lt.mpr hheight)]
  · rw [List.append_nil, List.nil_append]
    exact sourceLines_joinLines (ordinary_allWritten hlegible)

end Passages

/-- The frontmatter block in front of a document. -/
def frontmatterText (raw : List Char) : List Char :=
  if raw.isEmpty then [] else Frontmatter.fenced raw

theorem metadataText_ofList (raw : List Char) :
    Element.metadataText (String.ofList raw) = String.ofList (Frontmatter.fenced raw) := by
  rw [← String.toList_inj]
  simp [Element.metadataText, Frontmatter.fenced, Frontmatter.closing]

/-- The frontmatter is rendered in front of the blocks. -/
theorem renderInOrder_frontmatterElement {d : Document} {raw body : List Char} {es : List Element}
    (hraw : d.rawFrontmatter = String.ofList raw)
    (hbody : Element.renderInOrder .lenient false es = .ok (String.ofList body)) :
    Element.renderInOrder .lenient false (d.frontmatterElement ++ es) =
      .ok (String.ofList (frontmatterText raw ++ body)) := by
  rw [frontmatterElement, frontmatterText, hraw]
  cases raw with
  | nil => exact hbody
  | cons c cs =>
      have hempty : (String.ofList (c :: cs)).isEmpty = false := by simp
      rw [hempty, String.ofList_append]
      apply renderInOrder_cons rfl _ hbody
      rw [if_neg (by simp), ← metadataText_ofList]
      rfl

/-- The elements of a document are rendered as its frontmatter and its blocks. -/
theorem renderAll_elements {d : Document} {raw body : List Char} {es : List Element}
    (hes : d.elements .lenient = .ok es) (hraw : d.rawFrontmatter = String.ofList raw)
    (hbody : Element.renderInOrder .lenient false (d.blockElements .lenient d.startRegistry
      (d.frontmatterElement.length + 1) d.blocks) = .ok (String.ofList body)) :
    Element.renderAll .lenient es = .ok (String.ofList (frontmatterText raw ++ body)) := by
  obtain ⟨-, rfl⟩ := elements_eq_ok_iff.mp hes
  rw [Element.renderAll, Element.sortByOrder_of_ascending (elements_ascending d .lenient)]
  exact renderInOrder_frontmatterElement hraw hbody

/-! ## Elements that keep their texts -/

/-- The raw frontmatter in front of elements, and the other elements. -/
def splitElements : List Element → List Char × List Element
  | [] => ([], [])
  | e :: es => if e.type = .frontmatter then (e.content.toList, es) else ([], e :: es)

/-- Whether a raw frontmatter is read back from its block in front of lines. -/
def readsFrontmatter (raw : List Char) (ls : List (List Char)) : Bool :=
  if raw.isEmpty then Frontmatter.opensNoFrontmatter ls else Frontmatter.isRaw raw

/-- Whether elements are rendered as a text that is rendered as itself. -/
def keepText (es : List Element) : Bool :=
  (passages? (splitElements es).2).any fun ps =>
    areSetApart ps && readsFrontmatter (splitElements es).1 (allWritten ps)

/-- The frontmatter of a document is read from its raw frontmatter. -/
theorem readMap_rawFrontmatter {text : String} {d : Document} (h : ofText text = .ok d) :
    Frontmatter.readMap d.rawFrontmatter.toList = .ok d.frontmatter := by
  obtain ⟨t, ht, hd⟩ := exists_parsed_of_ofText h
  obtain ⟨hsource, -, -⟩ := ParsedText.toDocument_eq_ok_iff.mp hd
  rw [hsource, ht.rawFrontmatter, String.toList_ofList]
  exact ht.frontmatter

/-- No block is a frontmatter. -/
theorem splitElements_blockElements (d : Document) (r : SlugRegistry) (order : Int)
    (nodes : List Node) :
    splitElements (d.blockElements .lenient r order nodes) =
      ([], d.blockElements .lenient r order nodes) := by
  cases nodes with
  | nil => rfl
  | cons n ns =>
      rw [blockElements]
      split
      · rfl
      · obtain ⟨t, -, htag, -, hmetadata⟩ := blockElement_spec d .lenient n
        apply if_neg
        intro htype
        have ht : t = .frontmatter := (Element.type_of_tag htag).symm.trans htype
        rw [ht] at hmetadata
        cases hmetadata

theorem splitElements_elements {d : Document} {es : List Element}
    (h : d.elements .lenient = .ok es) :
    splitElements es = (d.rawFrontmatter.toList, d.blockElements .lenient d.startRegistry
      (d.frontmatterElement.length + 1) d.blocks) := by
  obtain ⟨-, rfl⟩ := elements_eq_ok_iff.mp h
  by_cases hempty : d.rawFrontmatter.isEmpty = true
  · have hnone : d.frontmatterElement = [] := if_pos hempty
    rw [hnone, List.nil_append, splitElements_blockElements, String.isEmpty_iff.mp hempty]
    rfl
  · rw [frontmatterElement, if_neg hempty]
    rfl

theorem opensWithText_allWritten {ps : List Passage} (hlegible : ∀ p ∈ ps, IsLegible p) :
    joinLines (allWritten ps) = [] ∨ Frontmatter.opensWithText (joinLines (allWritten ps)) = true := by
  cases ps with
  | nil => exact .inl rfl
  | cons p ps =>
      obtain ⟨first, more, hlines, hfirst⟩ := (hlegible p List.mem_cons_self).isRead.opens
      have hordinary := (hlegible p List.mem_cons_self).ordinary first (hlines ▸ List.mem_cons_self)
      have hne : first ≠ [] := by
        rintro rfl
        cases hfirst
      obtain ⟨hfeed, hreturn⟩ := notMem_of_isOrdinary hordinary
      right
      rw [allWritten, List.flatMap_cons, Passage.written, hlines, List.cons_append,
        List.cons_append, joinLines_cons]
      exact Frontmatter.opensWithText_append hfeed hreturn List.suffix_rfl hne _

theorem split_frontmatterText {raw : List Char} {ps : List Passage}
    (hlegible : ∀ p ∈ ps, IsLegible p)
    (h : readsFrontmatter raw (allWritten ps) = true) :
    Frontmatter.split (frontmatterText raw ++ joinLines (allWritten ps)) =
      (raw, joinLines (allWritten ps)) := by
  have hordinary := ordinary_allWritten hlegible
  have hclean : ∀ l ∈ allWritten ps, '\n' ∉ l ∧ '\r' ∉ l :=
    fun l hl => notMem_of_isOrdinary (hordinary l hl)
  rw [readsFrontmatter] at h
  rw [frontmatterText]
  -- Without frontmatter no fence may open the passages; with one, no line end may.
  split at h
  · next hempty =>
      rw [if_pos hempty, List.isEmpty_iff.mp hempty, List.nil_append]
      exact Frontmatter.split_joinLines hclean h
  · next hempty =>
      rw [if_neg hempty]
      refine Frontmatter.split_fenced h ?_
      rcases opensWithText_allWritten hlegible with hempty | hopens
      · rw [hempty]
        rfl
      · exact Frontmatter.dropLineEnds_of_opensWithText hopens

/-- The elements of a text are those of its document. -/
theorem exists_of_elements? {text : String} {es : List Element} (h : elements? text = some es) :
    ∃ d, ofText text = .ok d ∧ d.elements .lenient = .ok es := by
  simp only [elements?, Option.bind_eq_bind, Option.bind_eq_some_iff] at h
  obtain ⟨d, hd, hes⟩ := h
  exact ⟨d, eq_ok_of_toOption hd, eq_ok_of_toOption hes⟩

/-- The text of legible elements is the frontmatter and the passages of the blocks, and is read
passage by passage. -/
theorem exists_reread {text : String} {d : Document} (hd : ofText text = .ok d)
    {es : List Element} (hes : d.elements .lenient = .ok es) {ps : List Passage}
    (hps : List.Forall₂ Element.IsPassage (splitElements es).2 ps) (hapart : areSetApart ps = true)
    (hfrontmatter : readsFrontmatter (splitElements es).1 (allWritten ps) = true) :
    ∃ md, md = String.ofList (frontmatterText d.rawFrontmatter.toList ++ joinLines (allWritten ps)) ∧
      Element.renderAll .lenient es = .ok md ∧
      ∀ nodes : List Node,
        Node.Builds
          ((placed (fun i p => p.tokens i) 0 ps).flatten.map (fillInline .gfmLike [])) nodes →
        Node.heightAll nodes ≤ Node.maxHeight →
        ∃ d' : Document, ofText md = .ok d' ∧ d'.blocks = nodes ∧
          d'.rawFrontmatter = d.rawFrontmatter ∧ d'.HasLines 0 (allWritten ps) := by
  rw [splitElements_elements hes] at hps hfrontmatter
  have hlegible := isLegible_of_forall₂ hps
  have hraw : d.rawFrontmatter = String.ofList d.rawFrontmatter.toList := String.ofList_toList.symm
  refine ⟨_, rfl, renderAll_elements hes hraw (render_of_forall₂ hps), ?_⟩
  -- The elements fix the text; the nodes of its passages are any that their tokens build.
  intro nodes hbuilds hheight
  have hsplit := split_frontmatterText hlegible hfrontmatter
  rw [← String.toList_ofList (l := frontmatterText _ ++ _)] at hsplit
  obtain ⟨d', hd', hblocks, hraw', hlines⟩ := exists_ofText_passages hlegible
    (areRead_of_areSetApart hlegible hapart) hbuilds hheight hsplit (readMap_rawFrontmatter hd)
  exact ⟨d', hd', hblocks, hraw'.trans hraw.symm, hlines⟩

/-- The text of elements that keep their texts is rendered as itself. -/
theorem rendered?_of_keepText {text : String} {es : List Element} (hes : elements? text = some es)
    (h : keepText es = true) : ∃ md, rendered? text = some md ∧ rendered? md = some md := by
  obtain ⟨d, hd, helements⟩ := exists_of_elements? hes
  simp only [keepText, Option.any_eq_true, Bool.and_eq_true] at h
  obtain ⟨ps, hps, hapart, hfrontmatter⟩ := h
  obtain ⟨hlegible, hkept⟩ := legiblePassages?_of_passages? hps
  obtain ⟨md, hmd, hrender, hreread⟩ :=
    exists_reread hd helements (forall₂_of_legiblePassages? hlegible) hapart hfrontmatter
  -- the blocks that the text is read as are rendered as their passages
  obtain ⟨nodes, hbuilds, hheight, hblocks⟩ := exists_nodes hkept 0
  obtain ⟨d', hd', rfl, hraw, hlines⟩ := hreread nodes hbuilds hheight
  obtain ⟨t, ht, htree⟩ := exists_parsed_of_ofText hd'
  obtain ⟨es', hes'⟩ := (isParsed_of_toDocument ht htree).exists_elements .lenient
  have hagain := renderAll_elements hes' (hraw.trans String.ofList_toList.symm)
    (hblocks d' hlines d'.startRegistry _)
  have helements' : elements? md = some es' := by
    rw [elements?, hd']
    exact congrArg Except.toOption hes'
  refine ⟨md, ?_, ?_⟩
  · rw [rendered?, hes]
    exact congrArg Except.toOption hrender
  · rw [rendered?, helements', hmd]
    exact congrArg Except.toOption hagain

/-- A text with blocks of many kinds, some of them written in another way than they are rendered. -/
def keptSample : String :=
  "---\nt: 1\n---\n# A\n*b* c\n* d\n* e\n> f\n\n~~~\ng\n~~~\n|h|\n|-|\n\n***"

theorem rendered?_of_keepText_sample :
    (elements? keptSample).any keepText = true ∧
      ∃ md, rendered? keptSample = some md ∧ rendered? md = some md := by
  have hkept : (elements? keptSample).any keepText = true := by
    decide +kernel
  obtain ⟨es, hes, h⟩ := (Option.any_eq_true _ _).mp hkept
  exact ⟨hkept, rendered?_of_keepText hes h⟩

end MarkdownSections.Document
