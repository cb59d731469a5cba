import MarkdownSections.Proofs.Element.Render
import MarkdownSections.Proofs.Frontmatter.ByLine
import MarkdownSections.Proofs.Section.Written

/-!
# Written frontmatter

Elements and sections write a frontmatter in one form: between two fences, with an empty line behind
the second. It is read back as it was written, if none of its lines behind the first is a fence and
the rest of the text starts with no line end (`split_written`). Its first line may well be a fence,
since the second line of a text closes no header.
-/

set_option autoImplicit false

namespace MarkdownSections

namespace Frontmatter

open Markdown (textLines)

theorem isFenceLine_eq_isFence (line : List Char) : isFenceLine line = isFence line := by
  unfold isFenceLine isFence
  split
  · next blanks =>
      rw [Bool.eq_iff_iff]
      simp [afterFence?, List.dropWhile_eq_nil_iff]
  · next h =>
      rw [afterFence?.eq_2 line h]
      rfl

/-- A text that starts with no line end stays as it is. -/
theorem dropLineEnds_of_noLineEnd {cs : List Char} (hfeed : ¬['\n'] <+: cs)
    (hpair : ¬['\r', '\n'] <+: cs) : dropLineEnds cs = cs := by
  apply dropLineEnds.eq_3
  · rintro rest rfl
    exact hfeed ⟨rest, rfl⟩
  · rintro rest rfl
    exact hpair ⟨rest, rfl⟩

theorem isRaw_of_lines {raw : List Char} (hreturn : '\r' ∉ raw)
    (hfences : ∀ line ∈ (textLines raw).tail, isFence line = false) : isRaw raw = true := by
  simp only [isRaw, Bool.and_eq_true, Bool.not_eq_true', List.contains_eq_mem,
    decide_eq_false_iff_not, List.all_eq_true]
  exact ⟨hreturn, fun line hline => (isFenceLine_eq_isFence line).trans (hfences line hline)⟩

end Frontmatter

/-! ## Texts that start with a frontmatter -/

/-- A metadata block in front of other elements is written in front of their text. -/
theorem Element.renderAll_metadata (codec : Codec) {es later : List Element} {e : Element}
    {body : String} (hes : sortByOrder es = e :: later) (hblock : e.isInline = false)
    (htype : e.type.isMetadata = true) (hbody : renderInOrder codec false later = .ok body) :
    renderAll codec es = .ok (metadataText e.content ++ body) := by
  -- The two types of metadata are written alike, so each fact is one case for either.
  have htypes : e.type = .metadata ∨ e.type = .frontmatter := by
    cases ht : e.type <;> simp_all [ElementType.isMetadata]
  have hpayload : e.payload codec = .ok .plain := by
    unfold payload
    rcases htypes with ht | ht
    · simp [ht]
    · simp [ht]
  have htext : e.renderPayload .plain = metadataText e.content := by
    unfold renderPayload blockText
    rcases htypes with ht | ht
    · simp [hblock, ht]
    · simp [hblock, ht]
  have hrender : e.render codec = .ok (metadataText e.content) := by
    rw [render_of_plain hpayload, htext]
  rw [renderAll, hes, renderInOrder, hrender, hblock, hbody]
  simp [bind, Except.bind, pure, Except.pure]

namespace Frontmatter

open Markdown (textLines)

/-- **Written frontmatter.** A raw frontmatter without carriage returns, none of whose lines behind the
first is a fence, and the rest of the text, which starts with no line end, are read back from what is
written for them: as such, for a metadata block in front of other elements, for a row of level zero in
front of other rows, and for rows with a frontmatter of their own. -/
theorem split_written {raw body : String} (hreturn : '\r' ∉ raw.toList)
    (hfences : ∀ line ∈ (textLines raw.toList).tail, isFence line = false)
    (hfeed : ¬['\n'] <+: body.toList) (hpair : ¬['\r', '\n'] <+: body.toList) :
    split ("---\n" ++ raw ++ "\n---\n\n" ++ body).toList = (raw.toList, body.toList) ∧
      (∀ (codec : Codec) (es later : List Element) (e : Element),
        Element.sortByOrder es = e :: later → e.isInline = false → e.type.isMetadata = true →
          e.content = raw → Element.renderInOrder codec false later = .ok body →
            ∃ text, Element.renderAll codec es = .ok text ∧
              split text.toList = (raw.toList, body.toList)) ∧
      (raw ≠ "" → ∀ (rows : List Section) (blankLines : Int),
        (∀ s : Section, s.level = 0 → s.content = raw → Section.renderAll rows "" blankLines = body →
          split (Section.renderAll (s :: rows) "" blankLines).toList =
            (raw.toList, body.toList)) ∧
        (Section.renderAll (rows.filter (·.level != 0)) "" blankLines = body →
          split (Section.renderAll rows raw blankLines).toList = (raw.toList, body.toList))) := by
  have hsplit : split ("---\n" ++ raw ++ "\n---\n\n" ++ body).toList =
      (raw.toList, body.toList) := by
    rw [← split_fenced (isRaw_of_lines hreturn hfences) (dropLineEnds_of_noLineEnd hfeed hpair)]
    simp [fenced, closing]
  -- Elements and rows write the same block, so both come down to the split of that block.
  refine ⟨hsplit, ?_, ?_⟩
  · rintro codec es later e hes hblock htype rfl hbody
    exact ⟨_, Element.renderAll_metadata codec hes hblock htype hbody, hsplit⟩
  · intro hne rows blankLines
    constructor
    · rintro s hlevel rfl rfl
      rw [Section.renderAll_cons_of_level_zero hlevel hne, hsplit]
    · rintro rfl
      rw [Section.renderAll_of_frontmatter hne, hsplit]

/-- The first line of a raw frontmatter may be a fence. -/
theorem split_written_fenceFirst :
    let raw := "---\na: 1\n--- b"
    let body := "# x\n\n"
    let front : Element := { elementType := "frontmatter", content := raw, order := 1 }
    let heading : Element := { elementType := "heading", content := "x", level := some 1, order := 2 }
    let row : Section := { id := "x", path := "x", level := 1, title := "x" }
    let front' : Section := { id := "frontmatter", path := "frontmatter", level := 0, content := raw }
    ('\r' ∉ raw.toList ∧ (∀ line ∈ (textLines raw.toList).tail, isFence line = false) ∧
        ¬['\n'] <+: body.toList ∧ ¬['\r', '\n'] <+: body.toList) ∧
      (∃ text, Element.renderAll .strict [heading, front] = .ok text ∧
        split text.toList = (raw.toList, body.toList)) ∧
      split (Section.renderAll [front', row] "" 1).toList = (raw.toList, body.toList) ∧
      split (Section.renderAll [front', row] raw 1).toList = (raw.toList, body.toList) := by
  intro raw body front heading row front'
  have hreturn : '\r' ∉ raw.toList := by decide
  have hfences : ∀ line ∈ (textLines raw.toList).tail, isFence line = false := by decide
  have hfeed : ¬['\n'] <+: body.toList := by decide
  have hpair : ¬['\r', '\n'] <+: body.toList := by decide
  have hsorted : Element.sortByOrder [heading, front] = [front, heading] := by
    simp [Element.sortByOrder, List.mergeSort, front, heading]
  obtain ⟨-, helements, hsections⟩ := split_written hreturn hfences hfeed hpair
  refine ⟨⟨hreturn, hfences, hfeed, hpair⟩, ?_, ?_, ?_⟩
  · exact helements .strict [heading, front] [heading] front hsorted rfl rfl rfl rfl
  · exact (hsections (by decide) [row] 1).1 front' rfl rfl rfl
  · exact (hsections (by decide) [front', row] 1).2 rfl

end Frontmatter

end MarkdownSections
