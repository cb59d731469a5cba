import MarkdownSections.Document.Parse
import MarkdownSections.Proofs.Attempt

/-!
# What a text is parsed as

A text that is parsed without an error is taken apart here: the parts of the parsed text as the text
gives them (`ParsedText.IsOf`), and the tree that is built of its tokens (`toDocument_eq_ok_iff`).
-/

set_option autoImplicit false

namespace MarkdownSections

open Markdown (Preset)
open Attempt (exists_of_bind_eq_ok)

namespace ParsedText

/-- A parsed text has the parts of a text, read by a preset. -/
structure IsOf (t : ParsedText) (text preset : String) : Prop where
  whole : t.text = text
  body : t.body = String.ofList (Frontmatter.split text.toList).2
  rawFrontmatter : t.rawFrontmatter = String.ofList (Frontmatter.split text.toList).1
  lineOffset : t.lineOffset = Frontmatter.lineCount text.toList (Frontmatter.split text.toList).2
  frontmatter : Frontmatter.readMap (Frontmatter.split text.toList).1 = .ok t.frontmatter
  tokens : ∃ p, Preset.ofName? preset = some p ∧
    Markdown.parse? p (Frontmatter.split text.toList).2 = some t.tokens

theorem isOf_of_ofText {text name preset : String} {t : ParsedText}
    (h : ofText text name preset = .ok t) : t.IsOf text preset := by
  unfold ofText at h
  simp only at h
  split at h
  · cases h
  · next hmap =>
      split at h
      · cases h
      · next p hp =>
          split at h
          · cases h
          · next tokens hparse =>
              cases h
              exact ⟨rfl, rfl, rfl, rfl, hmap, p, hp, hparse⟩

theorem toDocument_eq_ok_iff {t : ParsedText} {d : Document} :
    t.toDocument = .ok d ↔ d.toSource = t.toSource ∧ Node.ofTokens? t.tokens = some d.blocks ∧
      Node.heightAll d.blocks ≤ Node.maxHeight := by
  unfold toDocument
  constructor
  · intro h
    split at h
    · next blocks hblocks =>
        split at h
        · cases h
        · next hheight =>
            cases h
            exact ⟨rfl, hblocks, Nat.le_of_not_lt hheight⟩
    · cases h
  · rintro ⟨hsource, hblocks, hheight⟩
    rw [hblocks, ← hsource]
    exact if_neg (Nat.not_lt_of_le hheight)

end ParsedText

namespace Document

/-- A document is read from a text through the parsed text. -/
theorem exists_parsed_of_ofText {text preset : String} {d : Document}
    (h : ofText text preset = .ok d) :
    ∃ t : ParsedText, t.IsOf text preset ∧ t.toDocument = .ok d := by
  obtain ⟨t, ht, hd⟩ := exists_of_bind_eq_ok h
  exact ⟨t, ParsedText.isOf_of_ofText ht, hd⟩

/-- What the blocks of a document are built of. -/
theorem exists_tokens_of_toDocument {text preset : String} {t : ParsedText} {d : Document}
    (ht : t.IsOf text preset) (h : t.toDocument = .ok d) :
    ∃ p tokens, Preset.ofName? preset = some p ∧ Markdown.parse? p d.body.toList = some tokens ∧
      Node.ofTokens? tokens = some d.blocks := by
  obtain ⟨hsource, hblocks, -⟩ := ParsedText.toDocument_eq_ok_iff.mp h
  obtain ⟨p, hp, hparse⟩ := ht.tokens
  have hbody : d.body.toList = (Frontmatter.split text.toList).2 := by
    rw [hsource, ht.body, String.toList_ofList]
  exact ⟨p, t.tokens, hp, hbody ▸ hparse, hblocks⟩

end Document

end MarkdownSections
