import MarkdownSections.Element.Render

/-!
# Rendered elements

With the lenient codec every element has a payload, so rendering fails only when a list is numbered
beyond the numbers that are written (`render_lenient`). The text of a block is never empty: every
rule ends it with a line feed (`blockText_ne_empty`).
-/

set_option autoImplicit false

namespace MarkdownSections

/-- Every type is the one that its tag names. -/
@[simp] theorem ElementType.ofTag_tag (t : ElementType) : ofTag t.tag = t := by
  cases t <;> rfl

namespace Element

/-! ## Blocks -/

theorem append_ne_empty {s t : String} (h : t ≠ "") : s ++ t ≠ "" := fun hempty =>
  h (String.append_eq_empty_iff.mp hempty).2

theorem listItemText_ne_empty (e : Element) : e.listItemText ≠ "" := by
  unfold listItemText
  simp only
  split
  · exact append_ne_empty (by decide)
  · exact append_ne_empty (by decide)

theorem blockText_plain_ne_empty (e : Element) : e.blockText .plain ≠ "" := by
  unfold blockText
  simp only
  split
  all_goals first
    | exact append_ne_empty (by decide)
    | exact listItemText_ne_empty e
    | decide

/-- The text of a block is never empty. -/
theorem blockText_ne_empty (e : Element) (p : Payload) : e.blockText p ≠ "" := by
  cases p with
  | items x xs => exact append_ne_empty (by decide)
  | table cells => exact append_ne_empty (by decide)
  | plain => exact blockText_plain_ne_empty e
  | undecoded => exact blockText_plain_ne_empty e

/-! ## Payloads -/

theorem payload_of_text {e : Element} (h : e.encoding = .text) (codec : Codec) :
    e.payload codec = .ok .plain := by
  simp [payload, h]

theorem payload_of_isInline {e : Element} (h : e.isInline = true) (codec : Codec) :
    e.payload codec = .ok .plain := by
  simp [payload, h]

/-- An element without a payload is rendered by its type alone. -/
theorem render_of_plain {codec : Codec} {e : Element} (h : e.payload codec = .ok .plain) :
    e.render codec = .ok (e.renderPayload .plain) := by
  rw [render, h]
  rfl

/-- The order of an element does not show in its text. -/
theorem render_withOrder (codec : Codec) (e : Element) (order : Int) :
    render codec { e with order := order } = e.render codec := rfl

/-- What the lenient codec makes of the content of a block. -/
def lenientPayload (e : Element) : Payload :=
  match e.payload .lenient with
  | .ok p => p
  | .error _ => .plain

/-- The lenient codec always gives a payload. -/
theorem payload_lenient (e : Element) : e.payload .lenient = .ok e.lenientPayload := by
  have hok : ∃ p, e.payload .lenient = .ok p := by
    unfold payload
    split
    · exact ⟨_, rfl⟩
    · split
      · unfold Codec.parseItems
        cases (Bracket.readItems? e.content.toList).map (·.map String.ofList) with
        | none => exact ⟨_, rfl⟩
        | some items =>
            cases items with
            | nil => exact ⟨_, rfl⟩
            | cons x xs => exact ⟨_, rfl⟩
      · exact ⟨_, rfl⟩
      · exact ⟨_, rfl⟩
  obtain ⟨p, hp⟩ := hok
  unfold lenientPayload
  rw [hp]

/-- With the lenient codec, rendering fails only at a number that is not written. -/
theorem render_lenient (e : Element) :
    e.render .lenient =
      if e.numbersTooFar e.lenientPayload then .error .unwritableNumber
      else .ok (e.renderPayload e.lenientPayload) := by
  unfold render
  rw [payload_lenient]
  by_cases h : e.numbersTooFar e.lenientPayload = true
  · rw [if_pos h]
    simp only [bind, Except.bind, h, if_true]
    rfl
  · rw [if_neg h]
    simp only [bind, Except.bind, h]
    rfl

end Element

end MarkdownSections
