import MarkdownSections.Document.Elements
import MarkdownSections.Document.Parse
import MarkdownSections.Proofs.Attempt
import MarkdownSections.Proofs.Frontmatter.Split
import MarkdownSections.Section.Extract

/-!
# Two spellings of line ends

A text without carriage returns and the same text with a carriage return in front of every line
feed read alike (`answers_withReturns`): both fail with the same error, or give the same
frontmatter, line offset, lines and tokens. Of the text and the body themselves, all that rows and
elements see are the lines (`Document.SameLines`), so these are the same as well.
-/

set_option autoImplicit false

namespace MarkdownSections

open Text (withReturns)

/-! ## What rows and elements see of a document -/

/-- Two documents that differ in their texts and bodies only, and not in the lines of these. -/
structure Document.SameLines (d e : Document) : Prop where
  lines : d.lines = e.lines
  lineOffset : d.lineOffset = e.lineOffset
  rawFrontmatter : d.rawFrontmatter = e.rawFrontmatter
  blocks : d.blocks = e.blocks

namespace Document.SameLines

variable {d e : Document} (h : d.SameLines e)

include h

theorem sourceOf (n : Node) : d.sourceOf n = e.sourceOf n := by
  unfold Document.sourceOf
  rw [h.lines]

theorem startLine (n : Node) : d.startLine n = e.startLine n := by
  unfold Document.startLine Document.firstLineOf
  rw [h.lineOffset]

theorem lastLine : d.lastLine = e.lastLine := by
  unfold Document.lastLine
  rw [h.lines, h.lineOffset]

theorem levelFault? : d.levelFault? = e.levelFault? := by
  unfold Document.levelFault?
  rw [h.blocks]

theorem valueFault? : d.valueFault? = e.valueFault? := by
  unfold Document.valueFault?
  rw [h.blocks]

theorem startRegistry : d.startRegistry = e.startRegistry := by
  unfold Document.startRegistry
  rw [h.rawFrontmatter]

/-! ### Rows -/

theorem textOf (blocks : List Node) : d.textOf blocks = e.textOf blocks :=
  congrArg String.join (List.map_congr_left fun n _ => by rw [h.sourceOf n])

theorem contentOf (o : SectionOptions) (g : Heading) (later : List Heading) :
    d.contentOf o g later = e.contentOf o g later := by
  unfold Document.contentOf
  simp only [h.textOf]

theorem lastLineOf (o : SectionOptions) (g : Heading) (later : List Heading) :
    d.lastLineOf o g later = e.lastLineOf o g later := by
  unfold Document.lastLineOf
  simp only [h.lastLine, h.startLine]

theorem rows (o : SectionOptions) (above : List Section) (hs : List Heading) :
    d.rows o above hs = e.rows o above hs := by
  induction hs generalizing above with
  | nil => rfl
  | cons g later ih =>
      unfold Document.rows
      simp only [h.lastLineOf, h.contentOf, h.startLine, ih]

theorem sections (o : SectionOptions) : d.sections o = e.sections o := by
  have hfirst : d.frontmatterRow o = e.frontmatterRow o := by
    unfold Document.frontmatterRow
    rw [h.rawFrontmatter, h.lineOffset]
  have hheadings : d.headings o = e.headings o := by
    unfold Document.headings
    rw [h.startRegistry, h.blocks]
  unfold Document.sections
  rw [h.levelFault?, hfirst, hheadings]
  simp only [h.rows]

/-! ### Elements -/

theorem blockElement (codec : Codec) (n : Node) :
    d.blockElement codec n = e.blockElement codec n := by
  have hparagraph : d.paragraphElement n = e.paragraphElement n := by
    unfold Document.paragraphElement
    rw [h.sourceOf]
  unfold Document.blockElement
  rw [hparagraph, h.sourceOf]

theorem blockElements (codec : Codec) (r : SlugRegistry) (order : Int) (ns : List Node) :
    d.blockElements codec r order ns = e.blockElements codec r order ns := by
  induction ns generalizing r order with
  | nil => rfl
  | cons n ns ih =>
      unfold Document.blockElements
      simp only [h.blockElement, ih]

theorem elements (codec : Codec) : d.elements codec = e.elements codec := by
  have hfirst : d.frontmatterElement = e.frontmatterElement := by
    unfold Document.frontmatterElement
    rw [h.rawFrontmatter]
  unfold Document.elements
  rw [h.valueFault?, hfirst, h.startRegistry, h.blocks]
  simp only [h.blockElements]

end Document.SameLines

/-! ## Reading -/

/-- What is read from a text, without the text itself and its body. -/
structure ParsedText.Reading where
  path : String
  frontmatter : List (String × String)
  rawFrontmatter : String
  lineOffset : Int
  lines : List String
  tokens : List Markdown.Token

/-- What was read from a text. -/
def ParsedText.reading (t : ParsedText) : ParsedText.Reading :=
  { path := t.path, frontmatter := t.frontmatter, rawFrontmatter := t.rawFrontmatter,
    lineOffset := t.lineOffset, lines := t.lines, tokens := t.tokens }

/-- A text with a carriage return in front of every line feed, as a string. -/
def Text.withReturnsString (s : String) : String :=
  String.ofList (withReturns s.toList)

theorem Text.sourceLines_withReturns {cs : List Char} (h : '\r' ∉ cs) :
    Text.sourceLines (String.ofList (withReturns cs)) = Text.sourceLines (String.ofList cs) := by
  unfold Text.sourceLines
  rw [String.toList_ofList, String.toList_ofList, Text.unifyNewlines_withReturns_eq h]

theorem Markdown.parse?_withReturns (preset : Markdown.Preset) {cs : List Char} (h : '\r' ∉ cs) :
    Markdown.parse? preset (withReturns cs) = Markdown.parse? preset cs := by
  unfold Markdown.parse? Markdown.normalizeSource
  rw [Text.unifyNewlines_withReturns_eq h]

namespace ParsedText

theorem reading_withReturns {text : String} (h : '\r' ∉ text.toList) (name preset : String) :
    (ofText (Text.withReturnsString text) name preset).map reading =
      (ofText text name preset).map reading := by
  obtain ⟨block, hblock, -⟩ := Frontmatter.exists_append_split text.toList
  have hbody : '\r' ∉ (Frontmatter.split text.toList).2 := fun hmem =>
    h (hblock ▸ List.mem_append_right block hmem)
  unfold ofText Text.withReturnsString
  rw [String.toList_ofList]
  simp only [Frontmatter.split_withReturns h, Markdown.parse?_withReturns _ hbody]
  -- The split, the frontmatter and the tokens agree, so the texts fail alike at each stage.
  cases Frontmatter.readMap (Frontmatter.split text.toList).1 with
  | error fault => rfl
  | ok frontmatter =>
      cases Markdown.Preset.ofName? preset with
      | none => rfl
      | some preset =>
          simp only
          cases Markdown.parse? preset (Frontmatter.split text.toList).2 with
          | none => rfl
          | some tokens =>
              have hcount := Frontmatter.lineCount_withReturns h
              rw [Frontmatter.split_withReturns h] at hcount
              have hlines := Text.sourceLines_withReturns hbody
              simp only [Except.map, reading, Source.lines, hlines, hcount]

/-- Equal readings make documents that differ in their texts and bodies only, or fail alike. -/
theorem toDocument_of_reading_eq {t u : ParsedText} (h : t.reading = u.reading) :
    (∃ error, t.toDocument = .error error ∧ u.toDocument = .error error) ∨
      ∃ d e, t.toDocument = .ok d ∧ u.toDocument = .ok e ∧ d.SameLines e := by
  have hpath : t.path = u.path := congrArg Reading.path h
  have htokens : t.tokens = u.tokens := congrArg Reading.tokens h
  unfold toDocument
  rw [hpath, htokens]
  cases Node.ofTokens? u.tokens with
  | none => exact Or.inl ⟨_, rfl, rfl⟩
  | some blocks =>
      simp only
      split
      · exact Or.inl ⟨_, rfl, rfl⟩
      · exact Or.inr ⟨_, _, rfl, rfl, congrArg Reading.lines h, congrArg Reading.lineOffset h,
          congrArg Reading.rawFrontmatter h, rfl⟩

end ParsedText

namespace Document

theorem ofText_withReturns {text : String} (h : '\r' ∉ text.toList) (preset : String) :
    (∃ error, ofText (Text.withReturnsString text) preset = .error error ∧
        ofText text preset = .error error) ∨
      ∃ d e, ofText (Text.withReturnsString text) preset = .ok d ∧
        ofText text preset = .ok e ∧ d.SameLines e := by
  have hreading := ParsedText.reading_withReturns h ParsedText.unnamed preset
  unfold ofText
  rcases Attempt.cases_of_map_eq hreading with ⟨error, hpairs, htext⟩ | ⟨t, u, hpairs, htext, heq⟩
  · rw [hpairs, htext]
    exact Or.inl ⟨error, rfl, rfl⟩
  · rw [hpairs, htext]
    exact ParsedText.toDocument_of_reading_eq heq

/-- What is asked of a document that two spellings of one text make is answered alike, if the
answer rests on the lines only. -/
theorem answer_withReturns {α : Type} {text : String} (h : '\r' ∉ text.toList) (preset : String)
    (answer : Document → Except DocumentError α)
    (hanswer : ∀ d e : Document, d.SameLines e → answer d = answer e) :
    (do answer (← ofText (Text.withReturnsString text) preset)) =
      (do answer (← ofText text preset)) := by
  rcases ofText_withReturns h preset with ⟨error, hpairs, htext⟩ | ⟨d, e, hpairs, htext, hsame⟩
  · rw [hpairs, htext]
  · rw [hpairs, htext]
    exact hanswer d e hsame

end Document

/-- A carriage return in front of every line feed makes no difference: what is read from the text,
its section rows under all options, and its elements are the same, or reading fails alike. -/
theorem answers_withReturns {text : String} (h : '\r' ∉ text.toList) (preset : String) :
    (∀ name, (ParsedText.ofText (Text.withReturnsString text) name preset).map ParsedText.reading =
        (ParsedText.ofText text name preset).map ParsedText.reading) ∧
      (∀ (o : SectionOptions) (modeName : String),
        (do
          let o ← o.check modeName
          (← Document.ofText (Text.withReturnsString text) preset).sections o) = (do
          let o ← o.check modeName
          (← Document.ofText text preset).sections o)) ∧
      ∀ codec, (do (← Document.ofText (Text.withReturnsString text) preset).elements codec) =
        (do (← Document.ofText text preset).elements codec) := by
  refine ⟨fun name => ParsedText.reading_withReturns h name preset, fun o modeName => ?_,
    fun codec => ?_⟩
  · refine congrArg (o.check modeName >>= ·) (funext fun o => ?_)
    exact Document.answer_withReturns h preset (fun d => d.sections o) fun d e hsame =>
      hsame.sections o
  · exact Document.answer_withReturns h preset (fun d => d.elements codec) fun d e hsame =>
      hsame.elements codec

/-- A text with frontmatter, a blank line, a heading and a paragraph of two lines. -/
def lineEndsSample : String := "---\na: 1\n---\n\n# A\n\nb\nc"

/-- The rows of a text with pairs at the ends of its lines. -/
theorem answers_withReturns_sample :
    '\r' ∉ lineEndsSample.toList ∧
      (do
        let o ← ({} : SectionOptions).check "minimal"
        (← Document.ofText (Text.withReturnsString lineEndsSample)).sections o).toOption =
      some
        [{ id := "frontmatter", path := "frontmatter", level := 0, content := "a: 1",
           startLine := some 1, endLine := some 4 },
          { id := "a", path := "a", level := 1, title := "A", content := "b\nc\n\n",
            startLine := some 5, endLine := some 8 }] := by
  have hnotMem : '\r' ∉ lineEndsSample.toList := by decide
  have hrows := (answers_withReturns hnotMem ParsedText.defaultPreset).2.1 {} "minimal"
  refine ⟨hnotMem, ?_⟩
  rw [hrows]
  decide +kernel

end MarkdownSections
