import MarkdownSections.Proofs.Element.Render
import MarkdownSections.Proofs.Json.Control

/-!
# Rendering lists and tables with a payload

A list or table block with a structured encoding is rendered from what its content decodes to, and
as plain content when it decodes to nothing. With the lenient codec the content always decodes. The
strict codec gives up on a text whose collections stand too deeply inside each other or that holds
a numeral which is too long, and on a table whose headers or rows are a number or a truth value
other than zero and false (`exists_payload_iff`). What remains is a list that is numbered beyond the
numbers that are written (`render_structured_iff`).
-/

set_option autoImplicit false

namespace MarkdownSections

open Attempt (exists_of_bind_eq_ok exists_of_map_eq_ok exists_map_iff)

namespace Codec

/-! ## What the strict codec reads -/

/-- Whether a text is read, or is no value at all, without reaching the limits of the reader. -/
def staysInLimits (content : String) : Bool :=
  match Json.read readRules content.toList with
  | .ok _ | .error .malformed => true
  | .error .nestedTooDeeply | .error (.numeralTooLong _) => false

/-- Whether a value counts as a collection: everything but truth and the numbers other than
zero. -/
def isCollection : Json → Bool
  | .bool b => !b
  | .int i => i == 0
  | .float x => x.isZero
  | _ => true

/-- Whether the headers and the rows in a text count as collections, if it has any. -/
def holdsCollections (content : String) : Bool :=
  match Json.read readRules content.toList with
  | .ok v => (v.field? "headers").all isCollection && (v.field? "rows").all isCollection
  | .error _ => true

theorem exists_strictValue_iff (content : String) :
    (∃ v, strictValue content = .ok v) ↔ staysInLimits content = true := by
  unfold strictValue staysInLimits
  cases Json.read readRules content.toList with
  | ok v => exact ⟨fun _ => rfl, fun _ => ⟨some v, rfl⟩⟩
  | error fault =>
      cases fault with
      | malformed => exact ⟨fun _ => rfl, fun _ => ⟨none, rfl⟩⟩
      | nestedTooDeeply => simp
      | numeralTooLong digits => simp

theorem exists_members_iff (v : Json) : (∃ vs, members v = .ok vs) ↔ isCollection v = true := by
  -- zero, false and null count as empty; a text is a collection of characters
  cases v with
  | bool b => cases b <;> simp [members, isCollection, Json.isBlankValue]
  | int i =>
      by_cases hi : i = 0
      · simp [members, isCollection, Json.isBlankValue, hi]
      · simp [members, isCollection, Json.isBlankValue, hi]
  | float x =>
      cases hx : x.isZero with
      | true => simp [members, isCollection, Json.isBlankValue, hx]
      | false => simp [members, isCollection, Json.isBlankValue, hx]
  | null => exact ⟨fun _ => rfl, fun _ => ⟨[], rfl⟩⟩
  | text | brokenText | list | map | brokenMap =>
      refine ⟨fun _ => rfl, fun _ => ?_⟩
      unfold members
      split
      · exact ⟨_, rfl⟩
      · exact ⟨_, rfl⟩

/-- A list is decoded with the strict codec exactly if its text stays in the limits. -/
theorem exists_parseItems_strict_iff (content : String) :
    (∃ items, parseItems .strict content = .ok items) ↔ staysInLimits content = true := by
  rw [← exists_strictValue_iff]
  unfold parseItems
  constructor
  · rintro ⟨items, h⟩
    obtain ⟨v, hv, -⟩ := exists_of_bind_eq_ok h
    exact ⟨v, hv⟩
  · rintro ⟨v, hv⟩
    simp only [hv]
    rcases v with _ | v
    · exact ⟨_, rfl⟩
    · cases v <;> exact ⟨_, rfl⟩

/-- A table is decoded with the strict codec exactly if, besides, its headers and rows count as
collections. -/
theorem exists_parseTable_strict_iff (content : String) :
    (∃ cells, parseTable .strict content = .ok cells) ↔
      staysInLimits content = true ∧ holdsCollections content = true := by
  -- an absent field counts as null, which has no members
  have hfield : ∀ field : Option Json, (∃ vs, members (field.getD .null) = .ok vs) ↔
      field.all isCollection = true := by
    intro field
    cases field with
    | none => exact ⟨fun _ => rfl, fun _ => ⟨[], rfl⟩⟩
    | some v => exact exists_members_iff v
  have hcells : (∃ cells, parseTable .strict content = .ok cells) ↔
      ∃ v, strictValue content = .ok v ∧
        (∃ vs, members (((v.getD .null).field? "headers").getD .null) = .ok vs) ∧
        ∃ vs, members (((v.getD .null).field? "rows").getD .null) = .ok vs := by
    unfold parseTable
    constructor
    · rintro ⟨cells, h⟩
      obtain ⟨v, hv, h⟩ := exists_of_bind_eq_ok h
      obtain ⟨headers, hheaders, h⟩ := exists_of_bind_eq_ok h
      obtain ⟨rows, hrows, -⟩ := exists_of_bind_eq_ok h
      exact ⟨v, hv, ⟨headers, hheaders⟩, rows, hrows⟩
    · rintro ⟨v, hv, ⟨headers, hheaders⟩, rows, hrows⟩
      refine ⟨⟨headers.map Json.plainText, rowsOf rows⟩, ?_⟩
      simp only [hv, bind, Except.bind, hheaders, hrows]
      rfl
  rw [hcells]
  unfold strictValue staysInLimits holdsCollections
  cases Json.read readRules content.toList with
  | ok v => simp [hfield]
  | error fault =>
      cases fault with
      | malformed => simp [hfield, Json.field?]
      | nestedTooDeeply => simp
      | numeralTooLong digits => simp

end Codec

namespace Element

/-! ## Blocks with a payload -/

/-- A list or table block whose content is a payload. -/
structure IsStructured (e : Element) : Prop where
  block : e.isInline = false
  encoding : e.encoding = .structured
  type : e.type = .list ∨ e.type = .table

/-- The content of a block is read by a codec, or is taken for no payload. -/
def PayloadIsRead (codec : Codec) (e : Element) : Prop :=
  codec = .strict → Codec.staysInLimits e.content = true ∧
    (e.type = .table → Codec.holdsCollections e.content = true)

/-- The content of a block decodes to no item, or to neither a header nor a row. -/
def DecodesToNothing (codec : Codec) (e : Element) : Prop :=
  (e.type = .list ∧ (codec.parseItems e.content = .ok none ∨
      codec.parseItems e.content = .ok (some []))) ∨
    (e.type = .table ∧ codec.parseTable e.content = .ok {})

/-- The numbers of all items of a list are written. -/
def NumbersAreWritten (codec : Codec) (e : Element) : Prop :=
  e.type = .list → e.attr "ordered" = "true" →
    ∀ x xs, codec.parseItems e.content = .ok (some (x :: xs)) →
      Text.isWritable (e.intAttr "start" 1 + xs.length) = true

/-- The payload that the decoded items of a list make. -/
def Payload.ofItems : Option (List String) → Payload
  | some (x :: xs) => .items x xs
  | _ => .undecoded

/-- The payload that the decoded cells of a table make. -/
def Payload.ofCells (cells : TableData) : Payload :=
  if cells.isEmpty then .undecoded else .table cells

section Structured

variable (codec : Codec) {e : Element}

theorem IsStructured.payload_of_list (he : e.IsStructured) (hlist : e.type = .list) :
    e.payload codec = (codec.parseItems e.content).map Payload.ofItems := by
  unfold payload
  rw [he.block, he.encoding, hlist, if_neg (by decide)]
  simp only [bind, Except.bind]
  cases codec.parseItems e.content with
  | error fault => rfl
  | ok items => rcases items with _ | _ | ⟨x, xs⟩ <;> rfl

theorem IsStructured.payload_of_table (he : e.IsStructured) (htable : e.type = .table) :
    e.payload codec = (codec.parseTable e.content).map Payload.ofCells := by
  unfold payload
  rw [he.block, he.encoding, htable, if_neg (by decide)]
  simp only [bind, Except.bind]
  cases codec.parseTable e.content with
  | error fault => rfl
  | ok cells => rfl

/-- The content of a block gives a payload exactly if the codec does not give up on it. -/
theorem IsStructured.exists_payload_iff (he : e.IsStructured) :
    (∃ p, e.payload codec = .ok p) ↔ e.PayloadIsRead codec := by
  -- the lenient codec takes whatever it cannot read for content that says nothing
  cases codec with
  | lenient => exact ⟨fun _ h => (by cases h), fun _ => ⟨_, payload_lenient e⟩⟩
  | strict =>
      unfold PayloadIsRead
      rcases he.type with hlist | htable
      · rw [he.payload_of_list .strict hlist, exists_map_iff,
          Codec.exists_parseItems_strict_iff]
        refine ⟨fun h _ => ⟨h, fun htable => ?_⟩, fun h => (h rfl).1⟩
        rw [hlist] at htable
        cases htable
      · rw [he.payload_of_table .strict htable, exists_map_iff,
          Codec.exists_parseTable_strict_iff]
        exact ⟨fun h _ => ⟨h.1, fun _ => h.2⟩, fun h => ⟨(h rfl).1, (h rfl).2 htable⟩⟩

/-- A payload is rendered unless it is a list that is numbered too far. -/
theorem render_of_payload {p : Payload} (h : e.payload codec = .ok p) :
    e.render codec =
      if e.numbersTooFar p then .error .unwritableNumber else .ok (e.renderPayload p) := by
  unfold render
  rw [h]
  by_cases hfar : e.numbersTooFar p = true
  · rw [if_pos hfar]
    simp only [bind, Except.bind, hfar, if_true]
    rfl
  · rw [if_neg hfar]
    simp only [bind, Except.bind, hfar]
    rfl

/-- A list is numbered too far exactly if the number of its last item is not written. -/
theorem IsStructured.numbersAreWritten_iff (he : e.IsStructured) {p : Payload}
    (h : e.payload codec = .ok p) :
    e.NumbersAreWritten codec ↔ e.numbersTooFar p = false := by
  unfold NumbersAreWritten
  rcases he.type with hlist | htable
  · rw [he.payload_of_list codec hlist] at h
    obtain ⟨items, hitems, rfl⟩ := exists_of_map_eq_ok h
    rw [hitems]
    -- content that is no list and a list without items are never numbered
    rcases items with _ | _ | ⟨x, xs⟩
    · simp [Payload.ofItems, numbersTooFar]
    · simp [Payload.ofItems, numbersTooFar]
    · simp [Payload.ofItems, numbersTooFar, hlist]
  · rw [he.payload_of_table codec htable] at h
    obtain ⟨cells, -, rfl⟩ := exists_of_map_eq_ok h
    refine ⟨fun _ => ?_, fun _ hlist => ?_⟩
    · unfold Payload.ofCells
      split <;> rfl
    · rw [htable] at hlist
      cases hlist

/-- A block whose payload is nothing is its plain content. -/
theorem IsStructured.render_of_decodesToNothing (he : e.IsStructured)
    (h : e.DecodesToNothing codec) : e.render codec = .ok (e.content ++ "\n\n") := by
  have hpayload : e.payload codec = .ok .undecoded := by
    rcases h with ⟨hlist, hitems | hitems⟩ | ⟨htable, hcells⟩
    · rw [he.payload_of_list codec hlist, hitems]
      rfl
    · rw [he.payload_of_list codec hlist, hitems]
      rfl
    · rw [he.payload_of_table codec htable, hcells]
      rfl
  have htext : e.renderPayload .undecoded = e.content ++ "\n\n" := by
    unfold renderPayload blockText
    rw [he.block, if_neg Bool.false_ne_true]
    rcases he.type with hlist | htable
    · rw [hlist]
      rfl
    · rw [htable]
      rfl
  rw [render_of_payload codec hpayload, htext]
  rfl

/-- A list or table block with a payload, whatever its content, is rendered exactly if the codec
does not give up on the content and the numbers of its items are written. A payload without items,
headers and rows makes the block its content with an empty line behind it. -/
theorem IsStructured.render_structured_iff (he : e.IsStructured) :
    ((∃ text, e.render codec = .ok text) ↔
        e.PayloadIsRead codec ∧ e.NumbersAreWritten codec) ∧
      (e.DecodesToNothing codec → e.render codec = .ok (e.content ++ "\n\n")) := by
  refine ⟨?_, he.render_of_decodesToNothing codec⟩
  rw [← he.exists_payload_iff codec]
  constructor
  · rintro ⟨text, h⟩
    obtain ⟨p, hp, -⟩ := exists_of_bind_eq_ok h
    refine ⟨⟨p, hp⟩, (he.numbersAreWritten_iff codec hp).mpr ?_⟩
    by_contra hfar
    rw [render_of_payload codec hp, if_pos (eq_true_of_ne_false hfar)] at h
    cases h
  · rintro ⟨⟨p, hp⟩, hnumbers⟩
    have hfits := (he.numbersAreWritten_iff codec hp).mp hnumbers
    exact ⟨e.renderPayload p, by rw [render_of_payload codec hp, hfits]; rfl⟩

end Structured

/-- A table whose headers are null and whose rows hold numbers and a row without cells. -/
def looseTable : Element :=
  { kind := some .block, elementType := "table", encoding := .structured
    content := "\x7b\"headers\": null, \"rows\": [[1, \"x\"], [], 7]\x7d" }

theorem render_structured_looseTable :
    looseTable.IsStructured ∧ looseTable.PayloadIsRead .strict ∧
      looseTable.NumbersAreWritten .strict ∧ ∃ text, looseTable.render .strict = .ok text := by
  have he : looseTable.IsStructured := ⟨by decide, by decide, Or.inr (by decide)⟩
  have hread : looseTable.PayloadIsRead .strict := fun _ => by decide +kernel
  have hnumbers : looseTable.NumbersAreWritten .strict := fun hlist => absurd hlist (by decide)
  exact ⟨he, hread, hnumbers, (he.render_structured_iff .strict).1.mpr ⟨hread, hnumbers⟩⟩

example : looseTable.render .strict = .ok "| | |\n|---|---|\n| 1 | x |\n\n" := by decide +kernel

/-- A table whose headers are a number. -/
def numberTable : Element :=
  { kind := some .block, elementType := "table", encoding := .structured
    content := "\x7b\"headers\": 5\x7d" }

theorem not_render_numberTable :
    ¬∀ (codec : Codec) (e : Element), e.IsStructured → ∃ text, e.render codec = .ok text := by
  intro h
  obtain ⟨text, htext⟩ := h .strict numberTable ⟨by decide, by decide, Or.inr (by decide)⟩
  have hfault : numberTable.render .strict = .error .notACollection := by decide +kernel
  rw [hfault] at htext
  cases htext

end Element

end MarkdownSections
