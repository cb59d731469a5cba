import MarkdownSections.Proofs.Document.Legible

/-!
# Elements that keep their text

An element keeps its text if it is legible and the block that it is read again as is rendered as the
same text (`Element.passage?`). The tests say for each type when that is so.
-/

set_option autoImplicit false

namespace MarkdownSections

open Markdown (joinLines textLines)
open Markdown.Block

namespace Element

/-- The passage of a block that has no payload. -/
def plainPassage? (e : Element) : Option Passage :=
  let cs := e.content.toList
  match e.type with
  | .heading => if isTitle cs then some (headingPassage e.headingLevel.toNat cs) else none
  | .code =>
    let info := (e.attr "language").toList
    if isCodeText info cs then some (codePassage info (textLines cs)) else none
  | .blockquote => if isQuoteText cs then some (quotePassage (textLines cs)) else none
  | .rule => some rulePassage
  | .image =>
    let image := e.imageText.toList
    if isImageText image then some (paragraphPassage (textLines image)) else none
  | .paragraph => if isParagraphText cs then some (paragraphPassage (textLines cs)) else none
  | .html => if isHtmlText cs then some (htmlPassage (textLines cs)) else none
  | _ => none

/-- The passage of a list. -/
def listPassage? (number : Option Nat) (items : List (List Char)) : Option Passage :=
  if isListText number items then some (listPassage number items) else none

/-- The passage of a table. -/
def tablePassage? (headers : List (List Char)) (rows : List (List (List Char))) : Option Passage :=
  if isTableText headers rows then some (tablePassage headers rows) else none

/-- The passage that an element is read back from, if it keeps its text. -/
def passage? (e : Element) : Option Passage :=
  if e.isInline then none
  else match e.lenientPayload with
    | .items x xs => listPassage? e.startNumber? ((x :: xs).map String.toList)
    | .table cells =>
      tablePassage? (cells.headers.map String.toList) (cells.rows.map (·.map String.toList))
    | _ => e.plainPassage?

variable {e : Element} {p : Passage}

/-- A block without a payload that keeps its text is legible. -/
theorem legiblePlain?_of_plainPassage? (h : e.plainPassage? = some p) :
    e.legiblePlain? = some p ∧ IsKept p := by
  unfold plainPassage? at h
  simp only at h
  -- type by type, what keeps the text is stricter than what is legible
  split at h
  · next htype =>
      obtain ⟨htitle, hp⟩ := Option.ite_none_right_eq_some.mp h
      cases hp
      obtain ⟨hlow, hhigh⟩ := e.headingLevel_range
      rw [legiblePlain?, htype]
      exact ⟨if_pos htitle, isKept_heading hlow hhigh htitle⟩
  · next htype =>
      obtain ⟨hcode, hp⟩ := Option.ite_none_right_eq_some.mp h
      cases hp
      rw [legiblePlain?, htype]
      exact ⟨if_pos (isFenced_of_isCodeText hcode), isKept_code hcode⟩
  · next htype =>
      obtain ⟨hquote, hp⟩ := Option.ite_none_right_eq_some.mp h
      cases hp
      rw [legiblePlain?, htype]
      exact ⟨if_pos (isQuoted_of_isQuoteText hquote), isKept_quote hquote⟩
  · next htype =>
      cases h
      rw [legiblePlain?, htype]
      exact ⟨rfl, isKept_rule⟩
  · next htype =>
      obtain ⟨himage, hp⟩ := Option.ite_none_right_eq_some.mp h
      cases hp
      rw [legiblePlain?, htype]
      exact ⟨if_pos (isParagraphOf_true himage), isKept_imageText himage⟩
  · next htype =>
      obtain ⟨hparagraph, hp⟩ := Option.ite_none_right_eq_some.mp h
      cases hp
      have htext := hparagraph
      rw [isParagraphText, Bool.and_eq_true] at htext
      rw [legiblePlain?, htype]
      exact ⟨if_pos (isParagraphOf_true htext.2), isKept_paragraphText hparagraph⟩
  · next htype =>
      obtain ⟨hhtml, hp⟩ := Option.ite_none_right_eq_some.mp h
      cases hp
      rw [legiblePlain?, htype]
      exact ⟨if_pos (isHtmlBlock_of_isHtmlText hhtml), isKept_html hhtml⟩
  · cases h

/-- An element that keeps its text is legible. -/
theorem legible?_of_passage? (h : e.passage? = some p) : e.legible? = some p ∧ IsKept p := by
  unfold passage? at h
  unfold legible?
  split at h
  · cases h
  · next hinline =>
      rw [if_neg hinline]
      cases hpayload : e.lenientPayload with
      | items x xs =>
          rw [hpayload] at h
          obtain ⟨hlist, hp⟩ := Option.ite_none_right_eq_some.mp h
          cases hp
          exact ⟨if_pos (isListed_of_isListText hlist), isKept_list hlist⟩
      | table cells =>
          rw [hpayload] at h
          obtain ⟨htable, hp⟩ := Option.ite_none_right_eq_some.mp h
          cases hp
          exact ⟨if_pos (isTabled_of_isTableText htable), isKept_table htable⟩
      | plain =>
          rw [hpayload] at h
          exact legiblePlain?_of_plainPassage? h
      | undecoded =>
          rw [hpayload] at h
          exact legiblePlain?_of_plainPassage? h

end Element

/-- The passages of elements, if all keep their texts. -/
def passages? (es : List Element) : Option (List Passage) :=
  es.mapM Element.passage?

/-- Elements that keep their texts are legible. -/
theorem legiblePassages?_of_passages? {es : List Element} {ps : List Passage}
    (h : passages? es = some ps) : legiblePassages? es = some ps ∧ ∀ p ∈ ps, IsKept p := by
  induction es generalizing ps with
  | nil =>
      cases h
      exact ⟨rfl, by simp⟩
  | cons e es ih =>
      simp only [passages?, List.mapM_cons, Option.bind_eq_bind, Option.bind_eq_some_iff] at h
      obtain ⟨p, hp, ps', hps, heq⟩ := h
      cases heq
      obtain ⟨hlegible, hkept⟩ := Element.legible?_of_passage? hp
      obtain ⟨hlegibles, hkepts⟩ := ih hps
      constructor
      · rw [legiblePassages?, List.mapM_cons, hlegible]
        exact congrArg (Option.bind · _) hlegibles
      · intro q hq
        rcases List.mem_cons.mp hq with rfl | hq
        · exact hkept
        · exact hkepts q hq

end MarkdownSections
