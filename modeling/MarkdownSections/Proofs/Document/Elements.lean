import MarkdownSections.Document.Elements
import MarkdownSections.Proofs.Element.Order
import MarkdownSections.Proofs.Element.Render
import MarkdownSections.Proofs.Payload.Items

/-!
# The elements of a document

A document has elements exactly if the levels of its headings can be read, and the attributes that
the elements take over can be written (`exists_elements_iff`). They ascend in order
(`elements_ascending`). The element of a block that is no heading is a block of another type
(`blockElement_spec`). It can be rendered unless it is a list that is numbered beyond the numbers
that are written (`numbersTooFar_blockElement`); the items of the list are those of the block, since
its payload is read back as it was written.
-/

set_option autoImplicit false

namespace MarkdownSections

/-! ## Numbered lists -/

/-- The number of the last item of a list. -/
def Node.lastNumber (n : Node) : Int :=
  (Text.readInt? (n.attributeText "start" "1").toList).getD 1 + n.itemTexts.length - 1

/-- Whether the items of a block, if they are numbered, all have numbers that are written. -/
def Node.numberingFits (n : Node) : Bool :=
  !(n.type == "ordered_list") || n.itemTexts.isEmpty || Text.isWritable n.lastNumber

/-- A number in an attribute is read as its numeral, unless it is zero. -/
theorem Node.attributeText_of_int {n : Node} {name : String} {i : Int}
    (h : n.attributes.lookup name = some (.int i)) (hi : i ≠ 0) (default : String) :
    n.attributeText name default = Text.showInt i := by
  have hvalue : (Json.int i).isBlankValue = false := by simpa [Json.isBlankValue] using hi
  have htext : (Json.int i).plainText = Text.showInt i := by
    change String.ofList (Json.literal (.int i)) = _
    rw [Json.literal, Json.scalarLiteral, String.ofList_toList]
    all_goals simp
  unfold attributeText
  simp only [h, hvalue, htext]
  rfl

namespace Element

theorem lenientPayload_of_text {e : Element} (h : e.encoding = .text) :
    e.lenientPayload = .plain := by
  rw [lenientPayload, payload_of_text h]

theorem numbersTooFar_of_text {e : Element} (h : e.encoding = .text) :
    e.numbersTooFar e.lenientPayload = false := by
  rw [lenientPayload_of_text h]
  rfl

theorem numbersTooFar_of_not_ordered {e : Element} (h : e.attr "ordered" ≠ "true") (p : Payload) :
    e.numbersTooFar p = false := by
  cases p with
  | items x xs => simp [numbersTooFar, h]
  | plain => rfl
  | table cells => rfl
  | undecoded => rfl

theorem type_of_tag {e : Element} {t : ElementType} (h : e.elementType = t.tag) : e.type = t := by
  unfold type
  rw [h, ElementType.ofTag_tag]

/-- The payload of a list that was written for items; there is none without items. -/
theorem lenientPayload_of_items {e : Element} {items : List String} (hkind : e.isInline = false)
    (htype : e.type = .list) (hencoding : e.encoding = .structured)
    (hcontent : e.content = Codec.dumpItems .lenient items) :
    (items = [] → e.lenientPayload = .undecoded) ∧
      ∀ x xs, items = x :: xs → e.lenientPayload = .items x xs := by
  unfold lenientPayload payload
  rw [hkind, hencoding, htype, hcontent]
  simp only [Codec.parseItems_dumpItems]
  constructor
  · rintro rfl
    rfl
  · rintro x xs rfl
    rfl

end Element

/-! ## Elements of blocks -/

namespace Document

open Element (lenientPayload)

/-- The element of a block that is no heading is a block of a type that is neither a heading nor
metadata. -/
theorem blockElement_spec (d : Document) (codec : Codec) (n : Node) :
    ∃ t : ElementType, (d.blockElement codec n).kind = some .block ∧
      (d.blockElement codec n).elementType = t.tag ∧ t ≠ .heading ∧ t.isMetadata = false := by
  unfold blockElement paragraphElement
  split
  · split
    · exact ⟨.image, rfl, rfl, by decide, rfl⟩
    · exact ⟨.paragraph, rfl, rfl, by decide, rfl⟩
  · exact ⟨.code, rfl, rfl, by decide, rfl⟩
  · exact ⟨.code, rfl, rfl, by decide, rfl⟩
  · exact ⟨.blockquote, rfl, rfl, by decide, rfl⟩
  · exact ⟨.list, rfl, rfl, by decide, rfl⟩
  · exact ⟨.list, rfl, rfl, by decide, rfl⟩
  · exact ⟨.table, rfl, rfl, by decide, rfl⟩
  · exact ⟨.rule, rfl, rfl, by decide, rfl⟩
  · exact ⟨.html, rfl, rfl, by decide, rfl⟩
  · exact ⟨.raw, rfl, rfl, by decide, rfl⟩

theorem numbersTooFar_listElement {n : Node} {e : Element} (htype : e.type = .list)
    (hkind : e.isInline = false) (hencoding : e.encoding = .structured)
    (hcontent : e.content = Codec.dumpItems .lenient n.itemTexts)
    (hattributes : e.attributes = n.listAttributes) :
    e.numbersTooFar e.lenientPayload = !n.numberingFits := by
  by_cases hordered : n.type = "ordered_list"
  · have hattr : e.attr "ordered" = "true" ∧ e.attr "start" = n.attributeText "start" "1" := by
      unfold Element.attr
      rw [hattributes]
      simp [Node.listAttributes, hordered, List.lookup_cons]
    obtain ⟨hnil, hcons⟩ := Element.lenientPayload_of_items hkind htype hencoding hcontent
    cases hitems : n.itemTexts with
    | nil =>
        rw [hnil hitems]
        simp [Element.numbersTooFar, Node.numberingFits, hitems]
    | cons x xs =>
        rw [hcons x xs hitems]
        -- the items behind the first are numbered on from the start
        have hlast : n.lastNumber = e.intAttr "start" 1 + xs.length := by
          unfold Node.lastNumber Element.intAttr
          rw [hattr.2, hitems, List.length_cons]
          omega
        simp [Element.numbersTooFar, Node.numberingFits, hordered, hitems, hlast, hattr.1]
  · have hattr : e.attr "ordered" ≠ "true" := by
      unfold Element.attr
      rw [hattributes]
      simp [Node.listAttributes, hordered]
    rw [Element.numbersTooFar_of_not_ordered hattr]
    simp [Node.numberingFits, hordered]

theorem encoding_paragraphElement (d : Document) (n : Node) :
    (d.paragraphElement n).encoding = .text := by
  unfold paragraphElement
  split
  · rfl
  · rfl

/-- The element of a block is numbered too far exactly if the block is. -/
theorem numbersTooFar_blockElement (d : Document) (n : Node) :
    (d.blockElement .lenient n).numbersTooFar (d.blockElement .lenient n).lenientPayload =
      !n.numberingFits := by
  -- only an ordered list has numbers, and only there the attributes ask for them
  have hfits : n.type ≠ "ordered_list" → n.numberingFits = true := fun h => by
    simp [Node.numberingFits, h]
  have hplain : ∀ e : Element, e.encoding = .text → n.type ≠ "ordered_list" →
      e.numbersTooFar e.lenientPayload = !n.numberingFits := by
    intro e he htype
    rw [Element.numbersTooFar_of_text he, hfits htype]
    rfl
  unfold blockElement
  split
  · next htype => exact hplain _ (encoding_paragraphElement d n) (by simp [htype])
  · next htype => exact hplain _ rfl (by simp [htype])
  · next htype => exact hplain _ rfl (by simp [htype])
  · next htype => exact hplain _ rfl (by simp [htype])
  · exact numbersTooFar_listElement rfl rfl rfl rfl rfl
  · exact numbersTooFar_listElement rfl rfl rfl rfl rfl
  · next htype =>
      rw [Element.numbersTooFar_of_not_ordered (by simp [Element.attr]), hfits (by simp [htype])]
      rfl
  · next htype => exact hplain _ rfl (by simp [htype])
  · next htype => exact hplain _ rfl (by simp [htype])
  · next hordered _ _ _ => exact hplain _ rfl hordered

/-- The text of a block that is no heading. -/
def blockMarkdown (d : Document) (n : Node) : String :=
  (d.blockElement .lenient n).blockText (d.blockElement .lenient n).lenientPayload

theorem blockMarkdown_ne_empty (d : Document) (n : Node) : d.blockMarkdown n ≠ "" :=
  Element.blockText_ne_empty _ _

/-- A block that is no heading is rendered, wherever it stands, unless its numbers do not fit. -/
theorem render_blockElement (d : Document) (n : Node) (order : Int) :
    Element.render .lenient { d.blockElement .lenient n with order := order } =
      if n.numberingFits then .ok (d.blockMarkdown n) else .error .unwritableNumber := by
  have hblock : (d.blockElement .lenient n).isInline = false := by
    obtain ⟨t, hkind, -⟩ := blockElement_spec d .lenient n
    unfold Element.isInline
    rw [hkind]
    rfl
  rw [Element.render_withOrder, Element.render_lenient, numbersTooFar_blockElement]
  cases n.numberingFits with
  | true =>
      simp only [Element.renderPayload, hblock]
      rfl
  | false => rfl

/-! ## Sequences of elements -/

theorem blockElements_cons_of_heading (d : Document) (codec : Codec) (r : SlugRegistry) (order : Int)
    {n : Node} (hn : n.isHeading = true) (ns : List Node) :
    d.blockElements codec r order (n :: ns) =
      { n.headingElement (r.unique n.plainText).1 with order := order } ::
        d.blockElements codec (r.unique n.plainText).2 (order + 1) ns := by
  rw [blockElements, if_pos hn]

theorem blockElements_cons_of_not_heading (d : Document) (codec : Codec) (r : SlugRegistry)
    (order : Int) {n : Node} (hn : n.isHeading = false) (ns : List Node) :
    d.blockElements codec r order (n :: ns) =
      { d.blockElement codec n with order := order } :: d.blockElements codec r (order + 1) ns := by
  rw [blockElements, if_neg (by simp [hn])]

theorem blockElements_ascending (d : Document) (codec : Codec) (r : SlugRegistry) (order : Int)
    (ns : List Node) :
    (d.blockElements codec r order ns).Pairwise (fun a b => a.order ≤ b.order) ∧
      ∀ e ∈ d.blockElements codec r order ns, order ≤ e.order := by
  induction ns generalizing r order with
  | nil => exact ⟨List.Pairwise.nil, by simp [blockElements]⟩
  | cons n ns ih =>
      -- a heading and another block differ in the element and the registry only
      have hstep : ∀ (e : Element) (r' : SlugRegistry), e.order = order →
          (e :: d.blockElements codec r' (order + 1) ns).Pairwise (fun a b => a.order ≤ b.order) ∧
            ∀ x ∈ e :: d.blockElements codec r' (order + 1) ns, order ≤ x.order := by
        intro e r' he
        obtain ⟨hpairwise, hlow⟩ := ih r' (order + 1)
        refine ⟨List.Pairwise.cons (fun x hx => ?_) hpairwise, fun x hx => ?_⟩
        · have hx' := hlow x hx
          omega
        · rcases List.mem_cons.mp hx with rfl | hx
          · omega
          · have hx' := hlow x hx
            omega
      unfold blockElements
      split
      · exact hstep _ _ rfl
      · exact hstep _ _ rfl

/-- The elements of a document are its frontmatter and its blocks, if nothing is wrong with their
values. -/
theorem elements_eq_ok_iff {d : Document} {codec : Codec} {es : List Element} :
    d.elements codec = .ok es ↔ d.valueFault? = none ∧ es = d.frontmatterElement ++
      d.blockElements codec d.startRegistry (d.frontmatterElement.length + 1) d.blocks := by
  unfold elements
  cases d.valueFault? with
  | some fault => simp
  | none => simp [eq_comm]

/-- Nothing is wrong with the values of a document exactly if all levels are read and all attributes
are taken over. -/
theorem valueFault?_eq_none_iff {d : Document} :
    d.valueFault? = none ↔ d.levelFault? = none ∧ d.attributeFault? = none := by
  unfold valueFault? levelFault? attributeFault?
  simp only [List.findSome?_eq_none_iff, Node.valueFault?, Option.or_eq_none_iff,
    Option.map_eq_none_iff, imp_and, forall_and]

/-- A document has elements exactly if the levels of its headings can be read, and the attributes
that the elements take over can be written. -/
theorem exists_elements_iff {d : Document} {codec : Codec} :
    (∃ es, d.elements codec = .ok es) ↔ d.levelFault? = none ∧ d.attributeFault? = none := by
  simp only [elements_eq_ok_iff, exists_and_left, exists_eq, and_true, valueFault?_eq_none_iff]

/-- The elements of a document are listed in ascending order. -/
theorem elements_ascending (d : Document) (codec : Codec) :
    (d.frontmatterElement ++ d.blockElements codec d.startRegistry
      (d.frontmatterElement.length + 1) d.blocks).Pairwise fun a b => a.order ≤ b.order := by
  obtain ⟨hpairwise, hlow⟩ := blockElements_ascending d codec d.startRegistry
    (d.frontmatterElement.length + 1) d.blocks
  refine List.pairwise_append.mpr ⟨?_, hpairwise, fun a ha b hb => ?_⟩
  · unfold frontmatterElement
    split
    · exact List.Pairwise.nil
    · exact List.pairwise_singleton _ _
  · have hb' := hlow b hb
    have ha' : a.order = 1 := by
      unfold frontmatterElement at ha
      split at ha
      · cases ha
      · rw [List.mem_singleton.mp ha]
    omega

end Document

end MarkdownSections
