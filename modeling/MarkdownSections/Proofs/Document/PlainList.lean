import MarkdownSections.Proofs.Document.Plain

/-!
# Lists that keep their text

The items of a list are kept as plain texts, so a list keeps its text if each item shows itself, and
if all its numbers can be written (`isKept_list`).
-/

set_option autoImplicit false

namespace MarkdownSections

open Markdown (joinLines joinLines_append)
open Markdown.Block

/-- Whether items keep their texts in a list. -/
def isListText (number : Option Nat) (items : List (List Char)) : Bool :=
  !items.isEmpty && number.all (1 ≤ ·) && areItemNumbers number items.length
    && items.all fun cs => cs.all isOrdinary && isItemText cs && showsItself cs

theorem isOrdinary_of_isDigit {c : Char} (h : c.isDigit = true) : isOrdinary c = true := by
  obtain ⟨hlow, -⟩ := Text.toNat_of_isDigit h
  have hzero : c.toNat ≠ 0 := by omega
  have hends : c ≠ '\n' ∧ c ≠ '\r' := by
    constructor
    · rintro rfl
      cases h
    · rintro rfl
      cases h
  simp [isOrdinary, hzero, hends]

theorem all_isOrdinary_itemChars {cs : List Char} (h : cs.all isOrdinary = true)
    (number : Option Nat) : (itemChars number cs).all isOrdinary = true := by
  cases number with
  | none => simpa [itemChars, itemMark, isOrdinary] using h
  | some n =>
      have hdigits : (Text.natDigits n).all isOrdinary = true :=
        List.all_eq_true.mpr fun c hc => isOrdinary_of_isDigit (Text.isDigit_of_mem_natDigits hc)
      have hmark : (itemMark (some n)).all isOrdinary = true := by
        rw [itemMark, List.all_append, hdigits]
        rfl
      rw [itemChars, List.all_append, hmark, List.all_cons, h]
      rfl

theorem all_isOrdinary_itemLines {items : List (List Char)}
    (h : ∀ cs ∈ items, cs.all isOrdinary = true) {number : Option Nat} :
    ∀ l ∈ itemLines number items, l.all isOrdinary = true := by
  induction items generalizing number with
  | nil => simp [itemLines]
  | cons cs items ih =>
      intro l hl
      rcases List.mem_cons.mp hl with rfl | hl
      · exact all_isOrdinary_itemChars (h cs List.mem_cons_self) number
      · exact ih (fun x hx => h x (List.mem_cons_of_mem cs hx)) l hl

/-! ## Nodes of items -/

/-- The node of an item that holds a running text. -/
def itemNode (i next : Nat) (cs : List Char) (nodes : List Node) : Node :=
  { type := "list_item", tag := "li", lines := lineRange i next
    children := [paragraphNode (lineRange i (i + 1)) cs nodes] }

theorem exists_itemNode {cs : List Char} (h : isRunning cs = true) (i next : Nat) :
    ∃ n, Node.Builds ((enclose "list_item" "li" 1 (lineRange i next) [] (itemTokens i cs)).map
        (Markdown.fillInline .gfmLike [])) [n] ∧
      n.height + 1 ≤ Node.maxHeight ∧ Node.firstText n.children = shownText cs := by
  obtain ⟨nodes, hnodes, hreadable, htext⟩ := exists_of_isRunning h
  refine ⟨itemNode i next cs nodes, ?_, ?_, ?_⟩
  · exact Node.builds_enclose (Node.builds_enclose (Node.builds_inline hnodes))
  · have hheight := heightAll_of_isReadable hreadable
    simp [Node.height, Node.heightAll, itemNode, paragraphNode, lineNode]
    omega
  · have hplain : (paragraphNode (lineRange i (i + 1)) cs nodes).plainText = shownText cs := by
      rw [plainText_of_line rfl rfl rfl hreadable, htext]
    have htype : (paragraphNode (lineRange i (i + 1)) cs nodes).type = "paragraph" := rfl
    simp [itemNode, Node.firstText, hplain, htype]

/-- The nodes of the items of a list. -/
theorem exists_itemNodes {items : List (List Char)} (h : ∀ cs ∈ items, isRunning cs = true)
    (i : Nat) :
    ∃ nodes, Node.Builds ((itemsTokens i items).map (Markdown.fillInline .gfmLike [])) nodes ∧
      Node.heightAll nodes + 1 ≤ Node.maxHeight ∧
      (nodes.map fun n => Node.firstText n.children) = items.map shownText := by
  -- The number and the last line of an item depend on its place, so both are general in the
  -- induction.
  induction items generalizing i with
  | nil => exact ⟨[], Node.builds_nil, by decide, rfl⟩
  | cons cs items ih =>
      obtain ⟨n, hn, hheight, htext⟩ := exists_itemNode (h cs List.mem_cons_self) i
        (if items.isEmpty then i + 2 else i + 1)
      obtain ⟨nodes, hnodes, hheights, htexts⟩ :=
        ih (fun x hx => h x (List.mem_cons_of_mem cs hx)) (i + 1)
      refine ⟨n :: nodes, ?_, ?_, ?_⟩
      · rw [itemsTokens, List.map_append]
        exact hn.append hnodes
      · rw [Node.heightAll]
        omega
      · rw [List.map_cons, List.map_cons, htext, htexts]

/-! ## The list as an element -/

/-- The node of a list. -/
def listNode (number : Option Nat) (lines : Option (Int × Int)) (nodes : List Node) : Node :=
  match number with
  | some n =>
    { type := "ordered_list", tag := "ol", lines, children := nodes
      attributes := if n = 1 then [] else [("start", .int n)] }
  | none => { type := "bullet_list", tag := "ul", lines, children := nodes }

theorem height_listNode (number : Option Nat) (lines : Option (Int × Int)) (nodes : List Node) :
    (listNode number lines nodes).height = Node.heightAll nodes + 1 := by
  cases number with
  | none => simp [listNode, Node.height]
  | some n => simp [listNode, Node.height]

theorem itemTexts_listNode (number : Option Nat) (lines : Option (Int × Int)) (nodes : List Node) :
    (listNode number lines nodes).itemTexts = nodes.map fun n => Node.firstText n.children := by
  cases number with
  | none => rfl
  | some n => rfl

/-- The text of a list. -/
def plainListText (number : Option Nat) (items : List String) : String :=
  (match number with
    | some n => Element.numberedLines n items
    | none => Element.bulletLines items) ++ "\n"

theorem numberedLines_eq (n : Nat) (items : List (List Char)) :
    Element.numberedLines n (items.map String.ofList) =
      String.ofList (joinLines (itemLines (some n) items)) := by
  induction items generalizing n with
  | nil => rfl
  | cons cs items ih =>
      have hnext : ((n : Int) + 1) = ((n + 1 : Nat) : Int) := rfl
      rw [List.map_cons, Element.numberedLines, hnext, ih, ← String.toList_inj]
      simp [itemLines, itemChars, itemMark, Text.showInt]

theorem bulletLines_eq (items : List (List Char)) :
    Element.bulletLines (items.map String.ofList) =
      String.ofList (joinLines (itemLines none items)) := by
  induction items with
  | nil => rfl
  | cons cs items ih =>
      rw [Element.bulletLines] at ih ⊢
      rw [List.map_cons, List.map_cons, String.join_cons, ih, ← String.toList_inj]
      simp [itemLines, itemChars, itemMark]

theorem plainListText_eq (number : Option Nat) (items : List (List Char)) :
    plainListText number (items.map String.ofList) =
      String.ofList (joinLines (listPassage number items).written) := by
  cases number with
  | none =>
      rw [plainListText, bulletLines_eq, ← String.toList_inj]
      simp [listPassage, Passage.written, joinLines_append]
  | some n =>
      rw [plainListText, numberedLines_eq, ← String.toList_inj]
      simp [listPassage, Passage.written, joinLines_append]

theorem attributeText_start {n : Nat} (hn : 1 ≤ n) (lines : Option (Int × Int))
    (nodes : List Node) :
    (listNode (some n) lines nodes).attributeText "start" "1" = Text.showInt n := by
  by_cases hone : n = 1
  · subst hone
    rfl
  · have hlookup : (listNode (some n) lines nodes).attributes.lookup "start" =
        some (.int (n : Int)) := by
      simp [listNode, hone]
    exact Node.attributeText_of_int hlookup (by omega) "1"

theorem render_items {e : Element} {x : String} {xs : List String} (hkind : e.isInline = false)
    (htype : e.type = .list) (hencoding : e.encoding = .structured)
    (hcontent : e.content = Codec.dumpItems .lenient (x :: xs))
    (hfits : e.numbersTooFar (.items x xs) = false) :
    e.render .lenient = .ok (e.listText (x :: xs)) := by
  have hpayload : e.lenientPayload = .items x xs :=
    (Element.lenientPayload_of_items hkind htype hencoding hcontent).2 x xs rfl
  rw [Element.render_lenient, hpayload, hfits, Element.renderPayload, hkind]
  rfl

theorem isWritable_of_lt {i : Int} (hlow : 0 ≤ i) (hhigh : i < tenPow 9) :
    Text.isWritable i = true := by
  have hnine : 9 ≤ Text.maxDigits := by decide
  exact Text.isWritable_of_natAbs_lt (k := 9) (by omega) hnine

/-- The element of a numbered list. -/
def numberedList (n : Nat) (items : List String) : Element :=
  { kind := some .block, elementType := ElementType.list.tag
    content := Codec.dumpItems .lenient items, level := some 1, encoding := .structured
    attributes := [("ordered", "true"), ("start", Text.showInt n)] }

/-- The element of a list is rendered with the marks that its items had. -/
theorem render_list {number : Option Nat} {lines : Option (Int × Int)} {nodes : List Node}
    {x : String} {xs : List String} (hlow : number.all (1 ≤ ·) = true)
    (hnumbers : areItemNumbers number (xs.length + 1) = true)
    (htexts : (listNode number lines nodes).itemTexts = x :: xs) (d : Document) :
    (d.blockElement .lenient (listNode number lines nodes)).render .lenient =
      .ok (plainListText number (x :: xs)) := by
  cases number with
  | none =>
      have helement : d.blockElement .lenient (listNode none lines nodes) =
          { kind := some .block, elementType := ElementType.list.tag
            content := Codec.dumpItems .lenient (x :: xs), level := some 1, encoding := .structured
            attributes := [("ordered", "false")] } := by
        rw [← htexts]
        rfl
      rw [helement, render_items rfl (Element.type_of_tag rfl) rfl rfl rfl]
      rfl
  | some n =>
      have hn : 1 ≤ n := by simpa using hlow
      have hhigh : n + (xs.length + 1) ≤ tenPow 9 := by simpa [areItemNumbers] using hnumbers
      -- The written start is read back only below the limit of digits, and so is the last number.
      have hstart : Text.readInt? (Text.showInt n).toList = some (n : Int) :=
        Text.readInt?_showInt (isWritable_of_lt (by omega) (by omega))
      have hordered : (numberedList n (x :: xs)).attr "ordered" = "true" := by
        simp [Element.attr, numberedList]
      have hnumber : (numberedList n (x :: xs)).intAttr "start" 1 = n := by
        have hattr : (numberedList n (x :: xs)).attr "start" = Text.showInt n := by
          simp [Element.attr, numberedList, List.lookup_cons]
        rw [Element.intAttr, hattr, hstart]
        rfl
      have helement : d.blockElement .lenient (listNode (some n) lines nodes) =
          numberedList n (x :: xs) := by
        rw [← htexts, numberedList, ← attributeText_start hn lines nodes]
        rfl
      have hwritable : Text.isWritable ((n : Int) + xs.length) = true :=
        isWritable_of_lt (by omega) (by omega)
      rw [helement, render_items rfl (Element.type_of_tag rfl) rfl rfl]
      · rw [Element.listText, if_pos hordered, hnumber]
        rfl
      · simp [Element.numbersTooFar, hnumber, hwritable]

/-- Whether items can be read in a list. -/
def isListed (number : Option Nat) (items : List (List Char)) : Bool :=
  !items.isEmpty && number.all (1 ≤ ·) && areItemNumbers number items.length
    && items.all fun cs => cs.all isOrdinary && isItemText cs && isRunning cs

/-- Items that keep their texts can be read. -/
theorem isListed_of_isListText {number : Option Nat} {items : List (List Char)}
    (h : isListText number items = true) : isListed number items = true := by
  simp only [isListText, Bool.and_eq_true, List.all_eq_true] at h
  simp only [isListed, Bool.and_eq_true, List.all_eq_true]
  exact ⟨h.1, fun cs hcs => ⟨(h.2 cs hcs).1, (shownText_of_showsItself (h.2 cs hcs).2).1⟩⟩

theorem isLegible_list {number : Option Nat} {items : List (List Char)}
    (h : isListed number items = true) : IsLegible (listPassage number items) := by
  cases items with
  | nil => simp [isListed] at h
  | cons cs items =>
      simp only [isListed, Bool.and_eq_true, List.all_eq_true] at h
      obtain ⟨⟨-, hnumbers⟩, hitems⟩ := h
      refine ⟨isRead_list (fun x hx => (hitems x hx).1.2) hnumbers, ?_⟩
      exact all_isOrdinary_itemLines fun x hx => List.all_eq_true.mpr (hitems x hx).1.1

/-- The node of a list. -/
theorem exists_listNode {number : Option Nat} {items : List (List Char)}
    (h : isListed number items = true) (i : Nat) :
    ∃ nodes, Node.Builds (((listPassage number items).tokens i).map
        (Markdown.fillInline .gfmLike []))
          [listNode number (lineRange i (i + items.length + 1)) nodes] ∧
      (listNode number (lineRange i (i + items.length + 1)) nodes).height ≤ Node.maxHeight ∧
      (nodes.map fun n => Node.firstText n.children) = items.map shownText := by
  simp only [isListed, Bool.and_eq_true, List.all_eq_true] at h
  obtain ⟨nodes, hbuilds, hheight, htexts⟩ := exists_itemNodes (fun x hx => (h.2 x hx).2) i
  refine ⟨nodes, ?_, ?_, htexts⟩
  · cases number with
    | none => exact Node.builds_enclose hbuilds
    | some n => exact Node.builds_enclose hbuilds
  · rw [height_listNode]
    exact hheight

theorem isHeading_listNode (number : Option Nat) (lines : Option (Int × Int)) (nodes : List Node) :
    (listNode number lines nodes).isHeading = false := by
  cases number with
  | none => rfl
  | some n => rfl

/-- A list of items that show themselves keeps its text. -/
theorem isKept_list {number : Option Nat} {items : List (List Char)}
    (h : isListText number items = true) : IsKept (listPassage number items) := by
  have hlisted := isListed_of_isListText h
  cases items with
  | nil => simp [isListText] at h
  | cons cs items =>
      simp only [isListText, Bool.and_eq_true, List.all_eq_true] at h
      obtain ⟨⟨⟨-, hlow⟩, hnumbers⟩, hitems⟩ := h
      intro i
      obtain ⟨nodes, hbuilds, hheight, htexts⟩ := exists_listNode hlisted i
      refine ⟨_, hbuilds, hheight, fun d _ => ?_⟩
      -- Each item shows itself, so the texts of the nodes are the texts the list was written from.
      rw [← plainListText_eq, List.map_cons]
      apply Document.isRenderedAs_block (isHeading_listNode number _ nodes)
      apply render_list hlow
      · simpa using hnumbers
      · rw [itemTexts_listNode, htexts, ← List.map_cons]
        exact List.map_congr_left fun x hx => (shownText_of_showsItself (hitems x hx).2).2

end MarkdownSections
