import MarkdownSections.Document.Parse
import MarkdownSections.Proofs.Document.Elements
import MarkdownSections.Proofs.Document.Tree
import MarkdownSections.Proofs.Markdown.Passage
import MarkdownSections.Proofs.Text.Lines

/-!
# Documents of passages

A passage is kept if it is read as a block whose element is rendered as the lines of the passage
and an empty line (`IsKept`). The blocks of kept passages are rendered as all their lines, one passage
behind the other (`exists_nodes`).
-/

set_option autoImplicit false

namespace MarkdownSections

open Markdown (Token fillInline joinLines joinLines_append joinLines_cons)
open Markdown.Block (Passage)
open Markdown.Block.Passage (allWritten placed AreRead)

/-! ## Source lines -/

/-- A source line that consists of the given characters. -/
def sourceLine (cs : List Char) : String :=
  String.ofList (cs ++ ['\n'])

/-- Whether a character ends no line and is passed on as it stands. -/
def isOrdinary (c : Char) : Bool :=
  c != '\n' && c != '\r' && c.toNat != 0

theorem join_sourceLines (ls : List (List Char)) :
    String.join (ls.map sourceLine) = String.ofList (joinLines ls) := by
  induction ls with
  | nil => rfl
  | cons l ls ih =>
      rw [List.map_cons, String.join_cons, ih, sourceLine, ← String.ofList_append, joinLines_cons]
      simp

theorem endedLines_append_newline {cs : List Char} (h : '\n' ∉ cs) (rest : List Char) :
    Text.endedLines (cs ++ '\n' :: rest) = (cs ++ ['\n']) :: Text.endedLines rest := by
  induction cs with
  | nil => exact Text.endedLines_newline rest
  | cons c cs ih =>
      have hc : c ≠ '\n' := fun heq => h (heq ▸ List.mem_cons_self)
      have hrest := ih fun hmem => h (List.mem_cons_of_mem c hmem)
      exact Text.endedLines_cons hc hrest

theorem mem_joinLines {ls : List (List Char)} {c : Char} (h : c ∈ joinLines ls) :
    c = '\n' ∨ ∃ l ∈ ls, c ∈ l := by
  obtain ⟨l, hl, hc⟩ := List.mem_flatMap.mp h
  rcases List.mem_append.mp hc with hc | hc
  · exact .inr ⟨l, hl, hc⟩
  · exact .inl (List.mem_singleton.mp hc)

/-- Ordinary characters end no line. -/
theorem notMem_of_isOrdinary {l : List Char} (h : l.all isOrdinary = true) :
    '\n' ∉ l ∧ '\r' ∉ l := by
  constructor
  · intro hmem
    have hc := List.all_eq_true.mp h '\n' hmem
    cases hc
  · intro hmem
    have hc := List.all_eq_true.mp h '\r' hmem
    cases hc

section Lines

variable {ls : List (List Char)} (h : ∀ l ∈ ls, l.all isOrdinary = true)

include h

theorem notMem_joinLines : '\r' ∉ joinLines ls := by
  intro hmem
  rcases mem_joinLines hmem with heq | ⟨l, hl, hc⟩
  · cases heq
  · exact (notMem_of_isOrdinary (h l hl)).2 hc

/-- Lines of ordinary characters are the source lines of their text. -/
theorem sourceLines_joinLines :
    Text.sourceLines (String.ofList (joinLines ls)) = ls.map sourceLine := by
  rw [Text.sourceLines, String.toList_ofList, Text.unifyNewlines_of_notMem (notMem_joinLines h)]
  induction ls with
  | nil => rfl
  | cons l ls ih =>
      have hl : '\n' ∉ l := (notMem_of_isOrdinary (h l List.mem_cons_self)).1
      rw [joinLines_cons, endedLines_append_newline hl, List.map_cons, List.map_cons,
        ih fun x hx => h x (List.mem_cons_of_mem l hx)]
      rfl

theorem normalizeSource_joinLines : Markdown.normalizeSource (joinLines ls) = joinLines ls := by
  rw [Markdown.normalizeSource, Text.unifyNewlines_of_notMem (notMem_joinLines h)]
  have hid : ∀ c ∈ joinLines ls, (if c.toNat = 0 then Char.ofNat 0xFFFD else c) = id c := by
    intro c hc
    apply if_neg
    rcases mem_joinLines hc with rfl | ⟨l, hl, hc⟩
    · decide
    · have hc' := List.all_eq_true.mp (h l hl) c hc
      simp only [isOrdinary, Bool.and_eq_true, bne_iff_ne] at hc'
      exact hc'.2
  rw [List.map_congr_left hid, List.map_id]

end Lines

/-! ## Blocks that are rendered as their lines -/

namespace Document

/-- Whether the lines of a body from line `i` on are the given ones. -/
def HasLines (d : Document) (i : Nat) (ls : List (List Char)) : Prop :=
  ∃ front back, front.length = i ∧ d.lines = front ++ (ls.map sourceLine ++ back)

variable {d : Document} {i : Nat} {ls ls' : List (List Char)}

theorem HasLines.left (h : d.HasLines i (ls ++ ls')) : d.HasLines i ls := by
  obtain ⟨front, back, hlength, hlines⟩ := h
  exact ⟨front, ls'.map sourceLine ++ back, hlength, by simp [hlines]⟩

theorem HasLines.right (h : d.HasLines i (ls ++ ls')) : d.HasLines (i + ls.length) ls' := by
  obtain ⟨front, back, hlength, hlines⟩ := h
  exact ⟨front ++ ls.map sourceLine, back, by simp [hlength], by simp [hlines]⟩

theorem itemsBetween_natCast {α : Type} (items : List α) (start stop : Nat) :
    itemsBetween items start stop = (items.take stop).drop start := by
  have hclamp : ∀ position : Nat, clampPosition items.length position = position := by
    intro position
    rw [clampPosition, if_neg (Int.not_lt.mpr (Int.natCast_nonneg position)), Int.toNat_natCast]
  rw [itemsBetween, hclamp, hclamp]

/-- The lines that a block covers are its source, blanks at the end left out. -/
theorem HasLines.sourceOf (h : d.HasLines i ls) {n : Node}
    (hn : n.lines = Markdown.Block.lineRange i (i + ls.length)) :
    d.sourceOf n = String.ofList (Text.trimEnd (joinLines ls)) ++ "\n" := by
  obtain ⟨front, back, hlength, hlines⟩ := h
  have hbetween : itemsBetween d.lines i ((i + ls.length : Nat) : Int) = ls.map sourceLine := by
    rw [itemsBetween_natCast, hlines, ← hlength, List.take_length_add_append, List.drop_left]
    exact List.take_left' (List.length_map _)
  simp only [Document.sourceOf, hn, Markdown.Block.lineRange]
  rw [hbetween, join_sourceLines, Text.trimEndString, String.toList_ofList]

/-- A block is rendered in front of the elements behind it. -/
theorem renderInOrder_cons {e : Element} {es : List Element} {text later : String}
    (hkind : e.isInline = false) (he : e.render .lenient = .ok text)
    (hes : Element.renderInOrder .lenient false es = .ok later) :
    Element.renderInOrder .lenient false (e :: es) = .ok (text ++ later) := by
  rw [Element.renderInOrder, he, hkind, hes]
  simp [bind, Except.bind]
  rfl

/-- Whether the element of a block is rendered as a text, whatever its id. -/
def IsRenderedAs (d : Document) (n : Node) (text : String) : Prop :=
  if n.isHeading then ∀ id, (n.headingElement id).render .lenient = .ok text
  else (d.blockElement .lenient n).render .lenient = .ok text

theorem isRenderedAs_heading {n : Node} {text : String} (h : n.isHeading = true)
    (htext : ∀ id, (n.headingElement id).render .lenient = .ok text) : d.IsRenderedAs n text := by
  rw [IsRenderedAs, if_pos h]
  exact htext

theorem isRenderedAs_block {n : Node} {text : String} (h : n.isHeading = false)
    (htext : (d.blockElement .lenient n).render .lenient = .ok text) : d.IsRenderedAs n text := by
  rw [IsRenderedAs, if_neg (by simp [h])]
  exact htext

/-- The first block is rendered in front of the others. -/
theorem renderInOrder_blockElements {n : Node} {ns : List Node} {text later : String}
    (hn : d.IsRenderedAs n text)
    (hns : ∀ r order, Element.renderInOrder .lenient false (d.blockElements .lenient r order ns) =
      .ok later) (r : SlugRegistry) (order : Int) :
    Element.renderInOrder .lenient false (d.blockElements .lenient r order (n :: ns)) =
      .ok (text ++ later) := by
  unfold IsRenderedAs at hn
  rw [blockElements]
  split
  · next hheading =>
      rw [if_pos hheading] at hn
      exact renderInOrder_cons rfl (hn _) (hns _ _)
  · next hheading =>
      rw [if_neg hheading] at hn
      obtain ⟨t, hkind, -⟩ := blockElement_spec d .lenient n
      refine renderInOrder_cons ?_ hn (hns _ _)
      simp [Element.isInline, hkind]

end Document

/-- Whether a block that starts at line `i` is the node of a passage, and is rendered as the passage
is written. -/
structure IsNodeOf (p : Passage) (i : Nat) (n : Node) : Prop where
  builds : Node.Builds ((p.tokens i).map (fillInline .gfmLike [])) [n]
  height_le : n.height ≤ Node.maxHeight
  isRenderedAs : ∀ d : Document, d.HasLines i p.written →
    d.IsRenderedAs n (String.ofList (joinLines p.written))

/-- Whether the lines of a passage are passed on as they stand and read as its block. -/
structure IsLegible (p : Passage) : Prop where
  isRead : p.IsRead
  ordinary : ∀ l ∈ p.lines, l.all isOrdinary = true

/-- Whether a passage is read as a block that is rendered as the passage is written. -/
def IsKept (p : Passage) : Prop :=
  ∀ i, ∃ n, IsNodeOf p i n

/-- The nodes of kept passages. -/
theorem exists_nodes {ps : List Passage} (hps : ∀ p ∈ ps, IsKept p) (i : Nat) :
    ∃ nodes : List Node,
      Node.Builds ((placed (fun i p => p.tokens i) i ps).flatten.map (fillInline .gfmLike [])) nodes ∧
      Node.heightAll nodes ≤ Node.maxHeight ∧
      ∀ d : Document, d.HasLines i (allWritten ps) → ∀ r order,
        Element.renderInOrder .lenient false (d.blockElements .lenient r order nodes) =
          .ok (String.ofList (joinLines (allWritten ps))) := by
  -- ids and orders of the elements do not show in the text, so any registry will do
  induction ps generalizing i with
  | nil => exact ⟨[], Node.builds_nil, Nat.zero_le _, fun d _ r order => rfl⟩
  | cons p ps ih =>
      obtain ⟨n, hn⟩ := hps p List.mem_cons_self i
      obtain ⟨nodes, hbuilds, hheight, hrendered⟩ :=
        ih (fun q hq => hps q (List.mem_cons_of_mem p hq)) (i + p.written.length)
      refine ⟨n :: nodes, ?_, ?_, ?_⟩
      · simpa [placed] using hn.builds.append hbuilds
      · rw [Node.heightAll]
        exact Nat.max_le.mpr ⟨hn.height_le, hheight⟩
      · intro d hlines
        rw [allWritten, List.flatMap_cons, joinLines_append, String.ofList_append]
        rw [allWritten, List.flatMap_cons] at hlines
        exact Document.renderInOrder_blockElements (hn.isRenderedAs d hlines.left)
          (hrendered d hlines.right)

end MarkdownSections
