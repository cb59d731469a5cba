import Mathlib.Data.List.Forall2
import MarkdownSections.Proofs.Document.Tree

/-!
# Heads of balanced tokens

In a balanced token list every opening token is closed again. Its heads are the tokens outside all
pairs: leaf tokens, and tokens that open a pair (`Balanced`). When a tree is built of such tokens,
there is one top-level node for each head, with the tag and the lines of the head
(`forest_of_balanced`). Reading running text leaves the heads as they are
(`Balanced.map_fillInline`).
-/

set_option autoImplicit false

namespace MarkdownSections

open Markdown (Token fillInline)
open Markdown.Block (enclose inlineToken)

namespace Markdown

/-- Every opening token of a list is closed; the second list holds the tokens outside all pairs, the
leaves and the opening ones. -/
inductive Balanced : List Token → List Token → Prop
  | nil : Balanced [] []
  | leaf {t : Token} {ts heads : List Token} (hnesting : t.nesting = 0)
      (hrest : Balanced ts heads) : Balanced (t :: ts) (t :: heads)
  | pair {opening closing : Token} {inner within ts heads : List Token}
      (hopen : opening.nesting = 1) (hinner : Balanced inner within)
      (hclose : closing.nesting = -1) (hrest : Balanced ts heads) :
      Balanced (opening :: (inner ++ closing :: ts)) (opening :: heads)

namespace Balanced

variable {ts ts' heads heads' : List Token}

theorem append (h : Balanced ts heads) (h' : Balanced ts' heads') :
    Balanced (ts ++ ts') (heads ++ heads') := by
  induction h with
  | nil => exact h'
  | leaf hnesting _ ih => exact leaf hnesting ih
  | pair hopen hinner hclose _ _ ih =>
      rw [List.cons_append, List.append_assoc, List.cons_append]
      exact pair hopen hinner hclose ih

theorem single {t : Token} (h : t.nesting = 0) : Balanced [t] [t] :=
  leaf h nil

/-- A pair of tokens around balanced ones has the opening token as its head. -/
theorem enclose (h : Balanced ts heads) (name tag : String) (level : Nat)
    (lines : Option (Int × Int)) (attributes : List (String × Json)) :
    Balanced (Block.enclose name tag level lines attributes ts)
      [{ type := name ++ "_open", tag, nesting := 1, level, lines, attributes }] :=
  pair rfl h rfl nil

/-- Lists of tokens that are balanced one by one are balanced in a row. -/
theorem flatMap {α : Type} {f : α → List Token} {l : List α}
    (h : ∀ x ∈ l, ∃ heads, Balanced (f x) heads) : ∃ heads, Balanced (l.flatMap f) heads := by
  induction l with
  | nil => exact ⟨[], nil⟩
  | cons x l ih =>
      obtain ⟨first, hfirst⟩ := h x List.mem_cons_self
      obtain ⟨rest, hrest⟩ := ih fun y hy => h y (List.mem_cons_of_mem x hy)
      exact ⟨first ++ rest, hfirst.append hrest⟩

end Balanced

/-- Reading running text changes nothing but the pieces of a token. -/
theorem fillInline_facts (preset : Preset) (definitions : List Definition) (t : Token) :
    (fillInline preset definitions t).type = t.type ∧
      (fillInline preset definitions t).tag = t.tag ∧
      (fillInline preset definitions t).nesting = t.nesting ∧
      (fillInline preset definitions t).lines = t.lines := by
  unfold fillInline
  split
  · exact ⟨rfl, rfl, rfl, rfl⟩
  · exact ⟨rfl, rfl, rfl, rfl⟩

theorem Balanced.map_fillInline {ts heads : List Token} (h : Balanced ts heads) (preset : Preset)
    (definitions : List Definition) :
    Balanced (ts.map (fillInline preset definitions))
      (heads.map (fillInline preset definitions)) := by
  have hnesting := fun t => (fillInline_facts preset definitions t).2.2.1
  induction h with
  | nil => exact nil
  | leaf hleaf _ ih => exact leaf ((hnesting _).trans hleaf) ih
  | pair hopen _ hclose _ ihinner ih =>
      rw [List.map_cons, List.map_append, List.map_cons]
      exact pair ((hnesting _).trans hopen) ihinner ((hnesting _).trans hclose) ih

/-- The type of the node that a leaf or an opening token makes. -/
def Token.nodeType (t : Token) : String :=
  if t.nesting = 0 then t.type else Node.pairType t.type

theorem nodeType_fillInline (preset : Preset) (definitions : List Definition) (t : Token) :
    (fillInline preset definitions t).nodeType = t.nodeType := by
  obtain ⟨htype, -, hnesting, -⟩ := fillInline_facts preset definitions t
  unfold Token.nodeType
  rw [htype, hnesting]

end Markdown

namespace Node

open Markdown (Balanced)

/-- A node that is made of a leaf or an opening token. -/
structure IsOf (t : Token) (n : Node) : Prop where
  type : n.type = t.nodeType
  tag : n.tag = t.tag
  lines : n.lines = t.lines

theorem isOf_leaf {t : Token} {n : Node} (hnesting : t.nesting = 0) (h : leaf t = some n) :
    IsOf t n := by
  rw [leaf_eq] at h
  obtain ⟨nodes, -, rfl⟩ := Option.map_eq_some_iff.mp h
  exact ⟨(if_pos hnesting).symm, rfl, rfl⟩

/-- If a tree can be built at all, then balanced tokens make a node for each of their heads,
wherever they stand. -/
theorem forest_of_balanced {ts heads : List Token} (h : Balanced ts heads) {frames : List Frame}
    {before result : List Node} {rest : List Token}
    (hforest : forest frames before (ts ++ rest) = some result) :
    ∃ nodes, List.Forall₂ IsOf heads nodes ∧
      forest frames (nodes.reverse ++ before) rest = some result := by
  induction h generalizing frames before rest with
  | nil => exact ⟨[], List.Forall₂.nil, hforest⟩
  | @leaf t ts heads hnesting hrest ih =>
      simp only [List.cons_append, forest, hnesting, if_true] at hforest
      cases hleaf : leaf t with
      | none =>
          rw [hleaf] at hforest
          cases hforest
      | some node =>
          rw [hleaf] at hforest
          obtain ⟨nodes, hnodes, hbehind⟩ := ih hforest
          refine ⟨node :: nodes, List.Forall₂.cons (isOf_leaf hnesting hleaf) hnodes, ?_⟩
          rw [List.reverse_cons, List.append_assoc]
          exact hbehind
  | @pair opening closing inner within ts heads hopen hinner hclose hrest ihinner ih =>
      have hzero : ¬opening.nesting = 0 := by omega
      simp only [List.cons_append, List.append_assoc, forest, if_neg hzero, if_pos hopen] at hforest
      -- the pair stays open over what stands in it, and the closing token makes its node
      obtain ⟨children, -, hclosing⟩ := ihinner hforest
      have hclosed : ¬closing.nesting = 0 ∧ ¬closing.nesting = 1 := by omega
      simp only [forest, if_neg hclosed.1, if_neg hclosed.2, if_pos hclose] at hclosing
      obtain ⟨nodes, hnodes, hbehind⟩ := ih hclosing
      refine ⟨ofToken opening (pairType opening.type) (children.reverse ++ []).reverse :: nodes,
        List.Forall₂.cons ⟨(if_neg hzero).symm, rfl, rfl⟩ hnodes, ?_⟩
      rw [List.reverse_cons, List.append_assoc]
      exact hbehind

/-- The nodes of balanced tokens are made of their heads. -/
theorem ofTokens?_of_balanced {ts heads : List Token} (h : Balanced ts heads) {nodes : List Node}
    (hnodes : ofTokens? ts = some nodes) : List.Forall₂ IsOf heads nodes := by
  have hforest : forest [] [] (ts ++ []) = some nodes := by
    rw [List.append_nil]
    exact hnodes
  obtain ⟨made, hmade, hrest⟩ := forest_of_balanced h hforest
  rw [List.append_nil, forest] at hrest
  obtain rfl : made = nodes := by simpa using hrest
  exact hmade

end Node

end MarkdownSections
