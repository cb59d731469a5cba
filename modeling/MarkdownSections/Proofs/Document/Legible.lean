import MarkdownSections.Proofs.Document.PlainList
import MarkdownSections.Proofs.Document.PlainQuote
import MarkdownSections.Proofs.Document.PlainTable
import MarkdownSections.Proofs.Section.Rows

/-!
# Elements that are read again as blocks

An element is legible if its text is a passage that is read as one block (`Element.legible?`). The
block need not be rendered as the same text again, but it is a heading exactly if the element is one,
and then of the same level and title (`exists_outlinedNodes`). Legible elements are rendered as the
lines of their passages (`render_of_legible?`), and these are read one by one if no list takes in what
follows it (`areRead_of_areSetApart`).
-/

set_option autoImplicit false

namespace MarkdownSections

open Markdown (fillInline joinLines joinLines_append textLines)
open Markdown.Block
open Markdown.Block.Passage (allWritten placed AreRead)

/-- The level and the title of a block that is a heading. -/
def Node.heading? (n : Node) : Option (Int × String) :=
  if n.isHeading then some (n.headingLevel, n.plainText) else none

/-- Whether a block that starts at line `i` is the node of a passage, and a heading if one is
stated. -/
structure IsOutlineOf (p : Passage) (heading : Option (Int × String)) (i : Nat) (n : Node) :
    Prop where
  builds : Node.Builds ((p.tokens i).map (fillInline .gfmLike [])) [n]
  height_le : n.height ≤ Node.maxHeight
  heading? : n.heading? = heading
  tagged : n.isHeading = true → n.tag ∈ Node.headingTags ∧ n.lines.isSome = true

theorem IsOutlineOf.of_not_isHeading {p : Passage} {i : Nat} {n : Node}
    (hbuilds : Node.Builds ((p.tokens i).map (fillInline .gfmLike [])) [n])
    (hheight : n.height ≤ Node.maxHeight) (hn : n.isHeading = false) : IsOutlineOf p none i n where
  builds := hbuilds
  height_le := hheight
  heading? := by rw [Node.heading?, if_neg (by simp [hn])]
  tagged := fun h => absurd (hn.symm.trans h) Bool.false_ne_true

/-- The block of a title is a heading with it. -/
theorem exists_outline_heading {level : Nat} (hlow : 1 ≤ level) (hhigh : level ≤ 6)
    {title : List Char} (htitle : isTitle title = true) (i : Nat) :
    ∃ n, IsOutlineOf (headingPassage level title) (some (level, String.ofList title)) i n := by
  obtain ⟨n, hbuilds, hheight, htype, htag, hlines, htext⟩ := exists_headingNode htitle level i
  have hheading : n.isHeading = true := by simp [Node.isHeading, htype]
  have hlevel : n.headingLevel = level := by
    rw [Node.headingLevel, readLevel_of_low hlow hhigh htype htag]
  refine ⟨n, hbuilds, hheight, ?_, fun _ => ⟨?_, ?_⟩⟩
  · rw [Node.heading?, if_pos hheading, hlevel, htext]
  · have hcases : level = 1 ∨ level = 2 ∨ level = 3 ∨ level = 4 ∨ level = 5 ∨ level = 6 := by omega
    rw [htag]
    rcases hcases with rfl | rfl | rfl | rfl | rfl | rfl <;> decide
  · rw [hlines]
    rfl

/-- A node without nodes in it that is no heading. -/
theorem exists_outline_leaf {p : Passage} {n : Nat → Node}
    (hbuilds : ∀ i, Node.Builds ((p.tokens i).map (fillInline .gfmLike [])) [n i])
    (hleaf : ∀ i, (n i).children = []) (hn : ∀ i, (n i).isHeading = false) (i : Nat) :
    ∃ m, IsOutlineOf p none i m :=
  ⟨n i, .of_not_isHeading (hbuilds i) (height_of_leaf (hleaf i)) (hn i)⟩

theorem exists_outline_rule : ∀ i, ∃ n, IsOutlineOf rulePassage none i n :=
  exists_outline_leaf (n := ruleNode) (fun _ => Node.builds_leaf rfl rfl) (fun _ => rfl)
    fun _ => rfl

theorem exists_outline_code (info content : List Char) :
    ∀ i, ∃ n, IsOutlineOf (codePassage info (textLines content)) none i n :=
  exists_outline_leaf (n := fun i => codeNode i info content)
    (fun _ => Node.builds_leaf rfl rfl) (fun _ => rfl) fun _ => rfl

theorem exists_outline_html (content : List Char) :
    ∀ i, ∃ n, IsOutlineOf (htmlPassage (textLines content)) none i n :=
  exists_outline_leaf (n := fun i => htmlNode i content)
    (fun _ => Node.builds_leaf rfl rfl) (fun _ => rfl) fun _ => rfl

theorem exists_outline_paragraph {content : List Char}
    (h : isParagraphOf (fun _ => true) content = true) (i : Nat) :
    ∃ n, IsOutlineOf (paragraphPassage (textLines content)) none i n := by
  obtain ⟨-, -, nodes, hnodes, hreadable, -⟩ := exists_of_isParagraphOf h
  refine ⟨_, .of_not_isHeading (builds_paragraphTokens hnodes 0 i) ?_ rfl⟩
  exact Nat.le_of_add_right_le (height_paragraphNode hreadable)

theorem exists_outline_list {number : Option Nat} {items : List (List Char)}
    (h : isListed number items = true) (i : Nat) :
    ∃ n, IsOutlineOf (listPassage number items) none i n := by
  obtain ⟨nodes, hbuilds, hheight, -⟩ := exists_listNode h i
  exact ⟨_, .of_not_isHeading hbuilds hheight (isHeading_listNode number _ nodes)⟩

theorem exists_outline_table {headers : List (List Char)} {rows : List (List (List Char))}
    (h : isTabled headers rows = true) (i : Nat) :
    ∃ n, IsOutlineOf (tablePassage headers rows) none i n := by
  obtain ⟨n, hbuilds, hheight, htype, -⟩ := exists_tableNode_of_isTabled h i
  exact ⟨n, .of_not_isHeading hbuilds hheight (by simp [Node.isHeading, htype])⟩

theorem exists_outline_quote {content : List Char} (h : isQuoted content = true) (i : Nat) :
    ∃ n, IsOutlineOf (quotePassage (textLines content)) none i n := by
  obtain ⟨nodes, hbuilds, hheight⟩ := exists_quoteNode h i
  exact ⟨_, .of_not_isHeading hbuilds hheight rfl⟩

namespace Element

/-- The level and the title of an element that is a heading. -/
def heading? (e : Element) : Option (Int × String) :=
  if e.type = .heading then some (e.headingLevel, e.content) else none

/-- The number from which the items of a list are numbered, if they are. -/
def startNumber? (e : Element) : Option Nat :=
  if e.attr "ordered" = "true" then some (e.intAttr "start" 1).toNat else none

/-- The text of an image without the empty line behind it. -/
def imageText (e : Element) : String :=
  let alt := e.attr "alt"
  "![" ++ (if alt.isEmpty then e.content else alt) ++ "]("
    ++ titled (e.attr "src") (e.attr "title") ++ ")"

/-- The passage of a legible block that has no payload. -/
def legiblePlain? (e : Element) : Option Passage :=
  let cs := e.content.toList
  match e.type with
  | .heading => if isTitle cs then some (headingPassage e.headingLevel.toNat cs) else none
  | .code =>
    let info := (e.attr "language").toList
    if isFenced info cs then some (codePassage info (textLines cs)) else none
  | .blockquote => if isQuoted cs then some (quotePassage (textLines cs)) else none
  | .rule => some rulePassage
  | .image =>
    let image := e.imageText.toList
    if isParagraphOf (fun _ => true) image then some (paragraphPassage (textLines image)) else none
  | .paragraph =>
    if isParagraphOf (fun _ => true) cs then some (paragraphPassage (textLines cs)) else none
  | .html => if isHtmlBlock cs then some (htmlPassage (textLines cs)) else none
  | _ => none

/-- The passage that a legible element is rendered as. -/
def legible? (e : Element) : Option Passage :=
  if e.isInline then none
  else match e.lenientPayload with
    | .items x xs =>
      let items := (x :: xs).map String.toList
      if isListed e.startNumber? items then some (listPassage e.startNumber? items) else none
    | .table cells =>
      let headers := cells.headers.map String.toList
      let rows := cells.rows.map (·.map String.toList)
      if isTabled headers rows then some (tablePassage headers rows) else none
    | _ => e.legiblePlain?

/-- Whether an element is rendered as a passage and read again as a block like it. -/
structure IsPassage (e : Element) (p : Passage) : Prop where
  isLegible : IsLegible p
  isBlock : e.isInline = false
  render : e.render .lenient = .ok (String.ofList (joinLines p.written))
  exists_node : ∀ i, ∃ n, IsOutlineOf p e.heading? i n

variable {e : Element} {p : Passage}

theorem heading?_of_type (h : e.type ≠ .heading) : e.heading? = none :=
  if_neg h

theorem headingLevel_range (e : Element) : 1 ≤ e.headingLevel.toNat ∧ e.headingLevel.toNat ≤ 6 := by
  have hrange : 1 ≤ e.headingLevel ∧ e.headingLevel ≤ 6 :=
    ⟨Int.le_min.mpr ⟨Int.le_max_right _ _, by decide⟩, Int.min_le_right _ _⟩
  omega

/-- A heading has no payload. -/
theorem lenientPayload_of_heading (h : e.type = .heading) : e.lenientPayload = .plain := by
  rw [lenientPayload, payload, h]
  split
  · next hpayload =>
      split at hpayload
      · cases hpayload
        rfl
      · cases hpayload
        rfl
  · rfl

theorem heading?_of_payload (h : e.lenientPayload ≠ .plain) : e.heading? = none :=
  heading?_of_type fun htype => h (lenientPayload_of_heading htype)

/-- The items of a list are rendered as they are numbered, if the numbers are written. -/
theorem render_list_of_startNumber {x : String} {xs : List String} (hblock : e.isInline = false)
    (hpayload : e.lenientPayload = .items x xs) (hlow : e.startNumber?.all (1 ≤ ·) = true)
    (hnumbers : areItemNumbers e.startNumber? (xs.length + 1) = true) :
    e.render .lenient = .ok (plainListText e.startNumber? (x :: xs)) := by
  rw [render_lenient, hpayload, renderPayload, hblock]
  by_cases hordered : e.attr "ordered" = "true"
  · have hstart : e.startNumber? = some (e.intAttr "start" 1).toNat := if_pos hordered
    rw [hstart] at hlow hnumbers ⊢
    have hn : ((e.intAttr "start" 1).toNat : Int) = e.intAttr "start" 1 := by
      have hone : 1 ≤ (e.intAttr "start" 1).toNat := by simpa using hlow
      omega
    have hhigh : (e.intAttr "start" 1).toNat + (xs.length + 1) ≤ tenPow 9 := by
      simpa [areItemNumbers] using hnumbers
    have hwritable : Text.isWritable (e.intAttr "start" 1 + xs.length) = true :=
      isWritable_of_lt (by omega) (by omega)
    simp [numbersTooFar, hwritable, blockText, listText, hordered, plainListText, hn]
  · have hstart : e.startNumber? = none := if_neg hordered
    rw [hstart, numbersTooFar_of_not_ordered hordered]
    simp [blockText, listText, hordered, plainListText]

theorem isPassage_list {x : String} {xs : List String} (hblock : e.isInline = false)
    (hpayload : e.lenientPayload = .items x xs)
    (h : isListed e.startNumber? ((x :: xs).map String.toList) = true) :
    IsPassage e (listPassage e.startNumber? ((x :: xs).map String.toList)) where
  isLegible := isLegible_list h
  isBlock := hblock
  render := by
    simp only [isListed, Bool.and_eq_true] at h
    obtain ⟨⟨⟨-, hlow⟩, hnumbers⟩, -⟩ := h
    rw [← plainListText_eq, Text.map_ofList_map_toList,
      render_list_of_startNumber hblock hpayload hlow]
    simpa using hnumbers
  exists_node := by
    rw [heading?_of_payload (by simp [hpayload])]
    exact exists_outline_list h

theorem plainTable_toList (cells : TableData) :
    plainTable (cells.headers.map String.toList) (cells.rows.map (·.map String.toList)) = cells := by
  have hrows : (cells.rows.map (·.map String.toList)).map (·.map String.ofList) = cells.rows := by
    rw [List.map_map]
    exact (List.map_congr_left fun row _ => Text.map_ofList_map_toList row).trans (List.map_id _)
  rw [plainTable, Text.map_ofList_map_toList, hrows]

theorem isPassage_table {cells : TableData} (hblock : e.isInline = false)
    (hpayload : e.lenientPayload = .table cells)
    (h : isTabled (cells.headers.map String.toList)
      (cells.rows.map (·.map String.toList)) = true) :
    IsPassage e (tablePassage (cells.headers.map String.toList)
      (cells.rows.map (·.map String.toList))) where
  isLegible := isLegible_table h
  isBlock := hblock
  render := by
    simp only [isTabled, Bool.and_eq_true] at h
    have hne : cells.headers.map String.toList ≠ [] := by simpa using h.1.1
    rw [← tableText_eq hne, plainTable_toList, render_lenient, hpayload, renderPayload, hblock]
    rfl
  exists_node := by
    rw [heading?_of_payload (by simp [hpayload])]
    exact exists_outline_table h

theorem render_plain (hblock : e.isInline = false)
    (hpayload : e.lenientPayload = .plain ∨ e.lenientPayload = .undecoded) :
    e.render .lenient = .ok (e.blockText .plain) := by
  rw [render_lenient, renderPayload, hblock]
  rcases hpayload with hpayload | hpayload
  · rw [hpayload]
    rfl
  · rw [hpayload]
    rfl

theorem blockImageText_eq (e : Element) : e.blockImageText = paragraphText e.imageText := by
  rw [← String.toList_inj]
  simp [blockImageText, paragraphText, imageText]

theorem heading?_of_heading (htype : e.type = .heading) :
    e.heading? = some ((e.headingLevel.toNat : Int), String.ofList e.content.toList) := by
  obtain ⟨hlow, -⟩ := e.headingLevel_range
  have hlevel : (e.headingLevel.toNat : Int) = e.headingLevel := by omega
  rw [heading?, if_pos htype, hlevel, String.ofList_toList]

/-- A legible block without a payload is rendered as its passage, and read again as a block like
it. -/
theorem blockText_of_legiblePlain? (h : e.legiblePlain? = some p) :
    e.blockText .plain = String.ofList (joinLines p.written) ∧ IsLegible p ∧
      ∀ i, ∃ n, IsOutlineOf p e.heading? i n := by
  have hother : ∀ {t : ElementType}, e.type = t → t ≠ .heading → e.heading? = none :=
    fun htype hne => heading?_of_type (htype ▸ hne)
  unfold legiblePlain? at h
  unfold blockText
  simp only at h ⊢
  -- one case for each type that has a passage
  split at h
  · next htype =>
      obtain ⟨htitle, hp⟩ := Option.ite_none_right_eq_some.mp h
      cases hp
      obtain ⟨hlow, hhigh⟩ := e.headingLevel_range
      rw [htype, heading?_of_heading htype, ← headingText_eq, String.ofList_toList]
      refine ⟨rfl, isLegible_heading hlow hhigh htitle, fun i => ?_⟩
      simpa using exists_outline_heading hlow hhigh htitle i
  · next htype =>
      obtain ⟨hcode, hp⟩ := Option.ite_none_right_eq_some.mp h
      cases hp
      rw [hother htype (by decide), htype, ← codeText_eq, String.ofList_toList,
        String.ofList_toList]
      exact ⟨rfl, isLegible_code hcode, exists_outline_code _ _⟩
  · next htype =>
      obtain ⟨hquote, hp⟩ := Option.ite_none_right_eq_some.mp h
      cases hp
      rw [hother htype (by decide), htype, ← quoteText_eq (isQuoteLine_of_isQuoted hquote),
        String.ofList_toList]
      exact ⟨rfl, isLegible_quote hquote, exists_outline_quote hquote⟩
  · next htype =>
      cases h
      rw [hother htype (by decide), htype]
      exact ⟨rfl, isLegible_rule, exists_outline_rule⟩
  · next htype =>
      obtain ⟨himage, hp⟩ := Option.ite_none_right_eq_some.mp h
      cases hp
      rw [hother htype (by decide), htype, ← paragraphText_eq, String.ofList_toList]
      exact ⟨blockImageText_eq e, isLegible_paragraph himage, exists_outline_paragraph himage⟩
  · next htype =>
      obtain ⟨hparagraph, hp⟩ := Option.ite_none_right_eq_some.mp h
      cases hp
      rw [hother htype (by decide), htype, ← paragraphText_eq, String.ofList_toList]
      exact ⟨rfl, isLegible_paragraph hparagraph, exists_outline_paragraph hparagraph⟩
  · next htype =>
      obtain ⟨hhtml, hp⟩ := Option.ite_none_right_eq_some.mp h
      cases hp
      rw [hother htype (by decide), htype, ← htmlText_eq, String.ofList_toList]
      exact ⟨rfl, isLegible_html hhtml, exists_outline_html _⟩
  · cases h

/-- A legible element is rendered as its passage and read again as a block like it. -/
theorem isPassage_of_legible? (h : e.legible? = some p) : IsPassage e p := by
  unfold legible? at h
  split at h
  · cases h
  · next hinline =>
      have hblock : e.isInline = false := Bool.not_eq_true _ ▸ hinline
      have hplain : e.lenientPayload = .plain ∨ e.lenientPayload = .undecoded →
          e.legiblePlain? = some p → IsPassage e p := by
        intro hpayload hpassage
        obtain ⟨htext, hlegible, hnode⟩ := blockText_of_legiblePlain? hpassage
        exact ⟨hlegible, hblock, by rw [render_plain hblock hpayload, htext], hnode⟩
      cases hpayload : e.lenientPayload with
      | items x xs =>
          rw [hpayload] at h
          obtain ⟨hlist, hp⟩ := Option.ite_none_right_eq_some.mp h
          cases hp
          exact isPassage_list hblock hpayload hlist
      | table cells =>
          rw [hpayload] at h
          obtain ⟨htable, hp⟩ := Option.ite_none_right_eq_some.mp h
          cases hp
          exact isPassage_table hblock hpayload htable
      | plain =>
          rw [hpayload] at h
          exact hplain (.inl hpayload) h
      | undecoded =>
          rw [hpayload] at h
          exact hplain (.inr hpayload) h

end Element

/-! ## Sequences of elements -/

/-- The passages of elements, if all are legible. -/
def legiblePassages? (es : List Element) : Option (List Passage) :=
  es.mapM Element.legible?

/-- Whether the passages of a list end where they are to end. -/
def areSetApart : List Passage → Bool
  | [] => true
  | p :: ps => (p.mark?.all fun mark => (allWritten ps).head?.all (endsList mark)) && areSetApart ps

theorem areRead_of_areSetApart {ps : List Passage} (hlegible : ∀ p ∈ ps, IsLegible p)
    (h : areSetApart ps = true) : AreRead ps := by
  induction ps with
  | nil => trivial
  | cons p ps ih =>
      rw [areSetApart, Bool.and_eq_true] at h
      refine ⟨(hlegible p List.mem_cons_self).isRead, ?_, ih (fun q hq => ?_) h.2⟩
      · intro mark hmark cs hcs
        have hends := h.1
        rw [Option.mem_def.mp hmark] at hends
        simpa [Option.mem_def.mp hcs] using hends
      · exact hlegible q (List.mem_cons_of_mem p hq)

/-- Every legible element has its passage. -/
theorem forall₂_of_legiblePassages? {es : List Element} {ps : List Passage}
    (h : legiblePassages? es = some ps) : List.Forall₂ Element.IsPassage es ps := by
  induction es generalizing ps with
  | nil =>
      cases h
      exact List.Forall₂.nil
  | cons e es ih =>
      simp only [legiblePassages?, List.mapM_cons, Option.bind_eq_bind,
        Option.bind_eq_some_iff] at h
      obtain ⟨p, hp, ps', hps, heq⟩ := h
      cases heq
      exact List.Forall₂.cons (Element.isPassage_of_legible? hp) (ih hps)

section Passages

variable {es : List Element} {ps : List Passage} (h : List.Forall₂ Element.IsPassage es ps)

include h

theorem isLegible_of_forall₂ : ∀ p ∈ ps, IsLegible p := by
  induction h with
  | nil => simp
  | cons he _ ih =>
      intro p hp
      rcases List.mem_cons.mp hp with rfl | hp
      · exact he.isLegible
      · exact ih p hp

theorem exists_render_of_forall₂ : ∀ e ∈ es, ∃ text, e.render .lenient = .ok text := by
  induction h with
  | nil => simp
  | cons he _ ih =>
      intro x hx
      rcases List.mem_cons.mp hx with rfl | hx
      · exact ⟨_, he.render⟩
      · exact ih x hx

/-- Legible elements are rendered as the lines of their passages. -/
theorem render_of_forall₂ :
    Element.renderInOrder .lenient false es = .ok (String.ofList (joinLines (allWritten ps))) := by
  induction h with
  | nil => rfl
  | cons he _ ih =>
      rw [allWritten, List.flatMap_cons, joinLines_append, String.ofList_append]
      exact Document.renderInOrder_cons he.isBlock he.render ih

/-- Legible elements are read again as blocks with their headings. -/
theorem exists_outlinedNodes (i : Nat) :
    ∃ nodes : List Node,
      Node.Builds ((placed (fun i p => p.tokens i) i ps).flatten.map (fillInline .gfmLike [])) nodes ∧
      Node.heightAll nodes ≤ Node.maxHeight ∧
      nodes.map Node.heading? = es.map Element.heading? ∧
      ∀ n ∈ nodes, n.isHeading = true → n.tag ∈ Node.headingTags ∧ n.lines.isSome = true := by
  -- the nodes of the passages stand one behind the other, each from the line on where its passage
  -- starts
  induction h generalizing i with
  | nil => exact ⟨[], Node.builds_nil, Nat.zero_le _, rfl, by simp⟩
  | @cons e p es ps he _ ih =>
      obtain ⟨n, hn⟩ := he.exists_node i
      obtain ⟨nodes, hbuilds, hheight, hheadings, htagged⟩ := ih (i + p.written.length)
      refine ⟨n :: nodes, ?_, ?_, ?_, ?_⟩
      · simpa [placed] using hn.builds.append hbuilds
      · rw [Node.heightAll]
        exact Nat.max_le.mpr ⟨hn.height_le, hheight⟩
      · rw [List.map_cons, List.map_cons, hn.heading?, hheadings]
      · intro m hm
        rcases List.mem_cons.mp hm with rfl | hm
        · exact hn.tagged
        · exact htagged m hm

end Passages

end MarkdownSections
