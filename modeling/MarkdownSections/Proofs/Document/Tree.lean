import MarkdownSections.Document.Node
import MarkdownSections.Document.Parse

/-!
# Trees of balanced tokens

Tokens build nodes if a tree builder that meets them goes on with these nodes, wherever the tokens
stand (`Builds`). Pairs of tokens around what builds nodes build the node around these nodes
(`builds_enclose`), and so the tree of a token list is put together from those of its parts.
-/

set_option autoImplicit false

namespace MarkdownSections

open Markdown (Token fillInline)
open Markdown.Block (enclose inlineToken)

/-- The nodes of a running text without link definitions. -/
def runningNodes? (cs : List Char) : Option (List Node) :=
  Node.ofTokens? (Markdown.Inline.pieces .gfmLike [] cs)

namespace Node

/-- Whether tokens build nodes, wherever they stand. -/
def Builds (ts : List Token) (nodes : List Node) : Prop :=
  ∀ (frames : List Frame) (before : List Node) (rest : List Token),
    forest frames before (ts ++ rest) = forest frames (nodes.reverse ++ before) rest

theorem builds_nil : Builds [] [] :=
  fun _ _ _ => rfl

theorem Builds.append {ts ts' : List Token} {nodes nodes' : List Node} (h : Builds ts nodes)
    (h' : Builds ts' nodes') : Builds (ts ++ ts') (nodes ++ nodes') := by
  intro frames before rest
  rw [List.append_assoc, h, h', List.reverse_append, List.append_assoc]

/-- Tokens that build nodes are balanced. -/
theorem Builds.ofTokens? {ts : List Token} {nodes : List Node} (h : Builds ts nodes) :
    ofTokens? ts = some nodes := by
  have hforest := h [] [] []
  rw [List.append_nil, List.append_nil] at hforest
  rw [Node.ofTokens?, hforest, forest]
  simp

/-- The node of a leaf token is that of the token with the nodes of the tokens that it holds. -/
theorem leaf_eq (t : Token) : leaf t = (ofTokens? t.children).map (ofToken t t.type) := by
  cases t with
  | mk type tag nesting level lines attributes content info children =>
      rw [leaf]
      rfl

theorem builds_leaf {t : Token} {n : Node} (hnesting : t.nesting = 0) (hleaf : leaf t = some n) :
    Builds [t] [n] := by
  intro frames before rest
  simp [forest, hnesting, hleaf]

/-- The type of a pair is the name that its tokens carry. -/
theorem pairType_open (name : String) : pairType (name ++ "_open") = name := by
  have hsuffix : (name ++ "_open").endsWith "_open" = true := by
    rw [String.endsWith_eq_endsWith_toSlice, String.Slice.endsWith_string_iff]
    simp
  have hlength : (name ++ "_open").length - 5 = name.toList.length := by
    have hfive : "_open".length = 5 := rfl
    rw [String.length_append, String.length_toList, hfive, Nat.add_sub_cancel]
  rw [pairType, if_pos hsuffix, hlength, String.toList_append, List.take_left, String.ofList_toList]

theorem append_ne_inline {name ending : String} (h : '_' ∈ ending.toList) :
    name ++ ending ≠ "inline" := by
  intro heq
  have hmem : '_' ∈ (name ++ ending).toList := by
    rw [String.toList_append]
    exact List.mem_append_right _ h
  rw [heq] at hmem
  exact absurd hmem (by decide)

variable {name tag : String} {level : Nat} {lines : Option (Int × Int)}
  {attributes : List (String × Json)}

/-- A pair of tokens builds the node around what stands between them. -/
theorem builds_enclose {ts : List Token} {nodes : List Node}
    (h : Builds (ts.map (fillInline .gfmLike [])) nodes) :
    Builds ((enclose name tag level lines attributes ts).map (fillInline .gfmLike []))
      [{ type := name, tag, attributes, lines, children := nodes }] := by
  have hopen : name ++ "_open" ≠ "inline" := append_ne_inline (by decide)
  have hclose : name ++ "_close" ≠ "inline" := append_ne_inline (by decide)
  intro frames before rest
  have hinside := h (⟨{ type := name ++ "_open", tag, nesting := 1, level, lines, attributes },
    before⟩ :: frames) []
  simp [enclose, fillInline, hopen, hclose, forest, hinside, pairType_open, ofToken]

/-- A line of running text builds the node that holds its pieces. -/
theorem builds_inline {cs : List Char} {nodes : List Node} (h : runningNodes? cs = some nodes) :
    Builds ([inlineToken level lines cs].map (fillInline .gfmLike []))
      [{ type := "inline", lines, content := String.ofList cs, children := nodes }] := by
  apply builds_leaf
  · rfl
  · have hforest : forest [] [] (Markdown.Inline.pieces .gfmLike [] cs) = some nodes := h
    simp [inlineToken, fillInline, leaf, hforest]

end Node

end MarkdownSections
