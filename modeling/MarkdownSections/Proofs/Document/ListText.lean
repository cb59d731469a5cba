import MarkdownSections.Proofs.Document.Elements
import MarkdownSections.Proofs.Text.Numeral

/-!
# The text of a list

The element of a list is rendered with the texts of its items, one line for each: behind hyphens, or
behind numbers that count from the start number on (`render_listElement_iff`). The start number goes
through an attribute text and back. It survives that unless it is zero, which counts as absent there
and gives one, or too long to be read.
-/

set_option autoImplicit false

namespace MarkdownSections

/-! ## Lines -/

namespace Element

/-- Items as a list behind hyphens, with an empty line behind it. -/
def bulletText (items : List String) : String :=
  String.join (items.map fun item => "- " ++ item ++ "\n") ++ "\n"

/-- Items as a list behind the numbers from `start` on, with an empty line behind it. -/
def numberedText (start : Nat) (items : List String) : String :=
  String.join ((items.zipIdx start).map fun p => Text.showNat p.2 ++ ". " ++ p.1 ++ "\n") ++ "\n"

theorem numberedLines_natCast (start : Nat) (items : List String) :
    numberedLines start items =
      String.join ((items.zipIdx start).map fun p => Text.showNat p.2 ++ ". " ++ p.1 ++ "\n") := by
  induction items generalizing start with
  | nil => rfl
  | cons item items ih =>
      have hnext : (start : Int) + 1 = ((start + 1 : Nat) : Int) := rfl
      rw [numberedLines, hnext, ih, List.zipIdx_cons, List.map_cons, String.join_cons]
      rfl

theorem numberedText_eq (start : Nat) (items : List String) :
    numberedText start items = numberedLines start items ++ "\n" := by
  rw [numberedText, numberedLines_natCast]

theorem takeWhile_showInt (i : Int) (rest : List Char) :
    ((Text.showInt i).toList ++ '.' :: rest).takeWhile (· != '.') = (Text.showInt i).toList := by
  have hnumeral : ∀ c ∈ (Text.showInt i).toList, (c != '.') = true := by
    intro c hc
    rcases Text.isDigit_of_mem_showInt hc with hdigit | rfl
    · rw [bne_iff_ne]
      rintro rfl
      exact absurd hdigit (by decide)
    · decide
  rw [List.takeWhile_append_of_pos hnumeral, List.takeWhile_cons_of_neg (by decide),
    List.append_nil]

/-- The lines of items tell which number they start with: it stands in front of the first full
stop. -/
theorem numberedLines_cons_inj {i j : Int} {x : String} {xs : List String}
    (h : numberedLines i (x :: xs) ++ "\n" = numberedLines j (x :: xs) ++ "\n") : i = j := by
  -- the number of the first item stands in front of the first full stop
  have hfront : ∀ k : Int,
      (numberedLines k (x :: xs) ++ "\n").toList.takeWhile (· != '.') =
        (Text.showInt k).toList := by
    intro k
    have hmark : ". ".toList = ['.', ' '] := rfl
    rw [numberedLines]
    simp only [String.append_assoc, String.toList_append, hmark, List.cons_append]
    exact takeWhile_showInt k _
  have hnumerals : (Text.showInt i).toList = (Text.showInt j).toList := by
    rw [← hfront i, h, hfront j]
  exact Text.showInt_injective (String.toList_inj.mp hnumerals)

end Element

/-! ## Start numbers -/

namespace Node

/-- The start number of a list: one if the list has none. -/
def startNumber? (n : Node) : Option Nat :=
  match n.attributes.lookup "start" with
  | none => some 1
  | some (.int (.ofNat start)) => some start
  | some _ => none

/-- The number that the first line of a list is written with. -/
def firstNumber (n : Node) : Int :=
  (Text.readInt? (n.attributeText "start" "1").toList).getD 1

theorem lastNumber_eq (n : Node) : n.lastNumber = n.firstNumber + n.children.length - 1 := by
  rw [lastNumber, itemTexts, List.length_map]
  rfl

theorem readInt?_one : Text.readInt? "1".toList = some 1 :=
  Text.readInt?_showInt (i := 1) (Text.isWritable_of_natAbs_lt (k := 1) (by decide) (by decide))

theorem isWritable_firstNumber (n : Node) : Text.isWritable n.firstNumber = true := by
  unfold firstNumber
  cases hread : Text.readInt? (n.attributeText "start" "1").toList with
  | none => exact Text.isWritable_of_natAbs_lt (k := 1) (by decide) (by decide)
  | some i => exact Text.isWritable_of_readInt? hread

theorem attributeText_start_of_zero {n : Node} (hstart : n.startNumber? = some 0) :
    n.attributeText "start" "1" = "1" := by
  unfold startNumber? at hstart
  unfold attributeText
  split at hstart
  · cases hstart
  · next start hlookup =>
      rw [hlookup]
      cases hstart
      rfl
  · cases hstart

theorem attributeText_start_of_ne_zero {n : Node} {start : Nat}
    (hstart : n.startNumber? = some start) (hne : start ≠ 0) :
    n.attributeText "start" "1" = Text.showInt start := by
  unfold startNumber? at hstart
  split at hstart
  · next hlookup =>
      obtain rfl := Option.some.inj hstart
      unfold attributeText
      rw [hlookup]
      rfl
  · next start' hlookup =>
      obtain rfl := Option.some.inj hstart
      exact attributeText_of_int hlookup (Int.natCast_ne_zero.mpr hne) "1"
  · cases hstart

/-- A list is numbered from its start number on, unless that is zero or is not written. -/
theorem firstNumber_eq_iff {n : Node} {start : Nat} (hstart : n.startNumber? = some start) :
    n.firstNumber = start ↔ start ≠ 0 ∧ start < tenPow Text.maxDigits := by
  -- zero is taken for no start number, and a number that is too long is not read back
  constructor
  · intro hfirst
    constructor
    · rintro rfl
      rw [firstNumber, attributeText_start_of_zero hstart, readInt?_one] at hfirst
      cases hfirst
    · have hwritable := isWritable_firstNumber n
      rw [hfirst] at hwritable
      simpa [Text.isWritable] using hwritable
  · rintro ⟨hne, hlt⟩
    have hwritable : Text.isWritable start = true :=
      Text.isWritable_of_natAbs_lt (k := Text.maxDigits) (by simpa using hlt) (Nat.le_refl _)
    rw [firstNumber, attributeText_start_of_ne_zero hstart hne, Text.readInt?_showInt hwritable]
    rfl

end Node

/-! ## Elements of lists -/

namespace Document

theorem lenientPayload_listElement (d : Document) {n : Node}
    (htype : n.type = "bullet_list" ∨ n.type = "ordered_list") {x : String} {xs : List String}
    (hitems : n.itemTexts = x :: xs) :
    (d.blockElement .lenient n).lenientPayload = .items x xs := by
  unfold blockElement
  rcases htype with htype | htype
  · rw [htype]
    exact (Element.lenientPayload_of_items rfl (Element.type_of_tag rfl) rfl rfl).2 x xs hitems
  · rw [htype]
    exact (Element.lenientPayload_of_items rfl (Element.type_of_tag rfl) rfl rfl).2 x xs hitems

theorem blockMarkdown_bulletList (d : Document) {n : Node} (htype : n.type = "bullet_list")
    (hitems : n.itemTexts ≠ []) : d.blockMarkdown n = Element.bulletText n.itemTexts := by
  obtain ⟨x, xs, hcons⟩ := List.exists_cons_of_ne_nil hitems
  have hpayload := d.lenientPayload_listElement (.inl htype) hcons
  have hattr : (d.blockElement .lenient n).attr "ordered" = "false" := by
    unfold blockElement Element.attr
    rw [htype]
    simp [Node.listAttributes, htype]
  rw [blockMarkdown, hpayload, Element.blockText, Element.listText, if_neg (by simp [hattr]), hcons]
  rfl

theorem blockMarkdown_orderedList (d : Document) {n : Node} (htype : n.type = "ordered_list")
    (hitems : n.itemTexts ≠ []) :
    d.blockMarkdown n = Element.numberedLines n.firstNumber n.itemTexts ++ "\n" := by
  obtain ⟨x, xs, hcons⟩ := List.exists_cons_of_ne_nil hitems
  have hpayload := d.lenientPayload_listElement (.inr htype) hcons
  have hattr : (d.blockElement .lenient n).attr "ordered" = "true" ∧
      (d.blockElement .lenient n).attr "start" = n.attributeText "start" "1" := by
    unfold blockElement Element.attr
    rw [htype]
    simp [Node.listAttributes, htype, List.lookup_cons]
  rw [blockMarkdown, hpayload, Element.blockText, Element.listText, if_pos hattr.1,
    Element.intAttr, hattr.2, hcons]
  rfl

/-- **The text of a list.** The element of a list with items is rendered with the texts of the items
in order: behind hyphens, or behind the numbers from the start number on exactly if that is not zero
and all of them are written. -/
theorem render_listElement_iff (d : Document) {n : Node} (order : Int) (hitems : n.children ≠ []) :
    (n.type = "bullet_list" →
      Element.render .lenient { d.blockElement .lenient n with order := order } =
        .ok (Element.bulletText n.itemTexts)) ∧
    ∀ {start : Nat}, n.type = "ordered_list" → n.startNumber? = some start →
      (Element.render .lenient { d.blockElement .lenient n with order := order } =
          .ok (Element.numberedText start n.itemTexts) ↔
        start ≠ 0 ∧ start + n.children.length ≤ tenPow Text.maxDigits) := by
  have htexts : n.itemTexts ≠ [] := by simpa [Node.itemTexts] using hitems
  rw [render_blockElement]
  constructor
  · intro htype
    have hfits : n.numberingFits = true := by simp [Node.numberingFits, htype]
    rw [if_pos hfits, blockMarkdown_bulletList d htype htexts]
  · intro start htype hstart
    have hpos : 0 < n.children.length := List.length_pos_iff.mpr hitems
    have hfirst := Node.firstNumber_eq_iff hstart
    have hfits : n.numberingFits = Text.isWritable n.lastNumber := by
      simp [Node.numberingFits, htype, htexts]
    rw [blockMarkdown_orderedList d htype htexts, Element.numberedText_eq, hfits,
      Node.lastNumber_eq]
    constructor
    · intro hrender
      split at hrender
      · next hwritable =>
          obtain ⟨x, xs, hcons⟩ := List.exists_cons_of_ne_nil htexts
          rw [hcons] at hrender
          have heq := Element.numberedLines_cons_inj (Except.ok.inj hrender)
          rw [heq] at hwritable
          have hlt : ((start : Int) + n.children.length - 1).natAbs < tenPow Text.maxDigits := by
            simpa [Text.isWritable] using hwritable
          exact ⟨(hfirst.mp heq).1, by omega⟩
      · cases hrender
    · rintro ⟨hne, hle⟩
      have heq : n.firstNumber = start := hfirst.mpr ⟨hne, by omega⟩
      have hwritable : Text.isWritable ((start : Int) + n.children.length - 1) = true :=
        Text.isWritable_of_natAbs_lt (k := Text.maxDigits) (by omega) (Nat.le_refl _)
      rw [heq, if_pos hwritable]

/-- A list of one item with a start number. -/
def listFrom (start : Nat) : Node :=
  { type := "ordered_list", tag := "ol", lines := some (0, 1), attributes := [("start", .int start)]
    children :=
      [{ type := "list_item", tag := "li", lines := some (0, 1), children :=
           [{ type := "paragraph", tag := "p", lines := some (0, 1), children :=
                [{ type := "inline", children := [{ type := "text", content := "a" }] }] }] }] }

/-- A document of one list. -/
def listDocument (start : Nat) : Document :=
  { text := Text.showNat start ++ ". a\n", body := Text.showNat start ++ ". a\n"
    blocks := [listFrom start] }

theorem render_listElement_fromSeven :
    ((listFrom 7).children ≠ [] ∧ (listFrom 7).type = "ordered_list" ∧
        (listFrom 7).startNumber? = some 7) ∧
      Element.render .lenient
          { (listDocument 7).blockElement .lenient (listFrom 7) with order := 1 } =
        .ok (Element.numberedText 7 (listFrom 7).itemTexts) := by
  have hitems : (listFrom 7).children ≠ [] := by simp [listFrom]
  have hfits : 7 + (listFrom 7).children.length ≤ tenPow Text.maxDigits :=
    Nat.le_trans (by decide : 7 + (listFrom 7).children.length ≤ tenPow 1)
      (Text.tenPow_le_tenPow (by decide))
  exact ⟨⟨hitems, rfl, rfl⟩,
    ((render_listElement_iff (listDocument 7) 1 hitems).2 rfl rfl).mpr ⟨by decide, hfits⟩⟩

/-- A list from zero on is numbered from one on. -/
theorem not_numberedText_zero :
    (listFrom 0).startNumber? = some 0 ∧
      Element.numberedText 0 (listFrom 0).itemTexts = "0. a\n\n" ∧
      Element.render .lenient
          { (listDocument 0).blockElement .lenient (listFrom 0) with order := 1 } =
        .ok "1. a\n\n" := by
  have hfirst : (listFrom 0).firstNumber = 1 := by
    rw [Node.firstNumber, Node.attributeText_start_of_zero rfl, Node.readInt?_one]
    rfl
  have hlast : (listFrom 0).lastNumber = 1 := by
    rw [Node.lastNumber_eq, hfirst]
    rfl
  have hfits : (listFrom 0).numberingFits = true := by
    rw [Node.numberingFits, hlast,
      Text.isWritable_of_natAbs_lt (k := 1) (i := 1) (by decide) (by decide)]
    rfl
  refine ⟨rfl, by decide, ?_⟩
  rw [render_blockElement, hfits, if_pos rfl,
    blockMarkdown_orderedList _ rfl (by simp [listFrom, Node.itemTexts]), hfirst]
  decide

end Document

end MarkdownSections
