import MarkdownSections.Proofs.Document.Elements
import MarkdownSections.Proofs.Document.Tiles
import MarkdownSections.Proofs.Markdown.BlockAttributes

/-!
# Attributes of the blocks of a document

A document whose blocks are read from its body is well headed, and the attributes that its elements
take over can be written (`Document.IsParsed`), so it has elements (`IsParsed.exists_elements`). A
tree that is put together in another way may hold a number that is too long.

A tree is built of the tokens one by one, and every node has the attributes of a token
(`Node.writable_of_forest`); so the property goes over from the tokens of a text to the nodes.
-/

set_option autoImplicit false

namespace MarkdownSections

open Markdown (AllWritable Preset Token)

/-! ## Trees of writable tokens -/

/-- Every attribute of a node can be written, and so can those of the nodes below it. -/
inductive Node.Writable : Node → Prop
  | intro {n : Node} (attributes : ∀ a ∈ n.attributes, a.2.Writable)
      (children : ∀ c ∈ n.children, Node.Writable c) : Node.Writable n

namespace Node

/-- What an open pair makes can be written: the attributes of its opening token, and the nodes in
front of it. -/
structure Frame.Writable (f : Frame) : Prop where
  attributes : ∀ a ∈ f.opening.attributes, a.2.Writable
  before : ∀ n ∈ f.before, n.Writable

theorem Writable.attributes {n : Node} (h : n.Writable) : ∀ a ∈ n.attributes, a.2.Writable := by
  cases h with
  | intro hvalues _ => exact hvalues

theorem Writable.inside {n : Node} (h : n.Writable) : ∀ c ∈ n.children, c.Writable := by
  cases h with
  | intro _ hbelow => exact hbelow

theorem Writable.cons {n : Node} {ns : List Node} (hn : n.Writable) (hns : ∀ n ∈ ns, n.Writable) :
    ∀ n' ∈ n :: ns, n'.Writable :=
  List.forall_mem_cons.mpr ⟨hn, hns⟩

theorem writable_reverse {ns : List Node} (h : ∀ n ∈ ns, n.Writable) :
    ∀ n ∈ ns.reverse, n.Writable :=
  fun n hn => h n (List.mem_reverse.mp hn)

/-- The nodes of tokens can be written, if those of the leaves among them can. -/
theorem writable_of_forest {ts : List Token} (hts : AllWritable ts)
    (hleaves : ∀ t ∈ ts, ∀ n, leaf t = some n → n.Writable) {frames : List Frame}
    {nodes found : List Node} (hframes : ∀ f ∈ frames, f.Writable)
    (hnodes : ∀ n ∈ nodes, n.Writable) (h : forest frames nodes ts = some found) :
    ∀ n ∈ found, n.Writable := by
  induction ts generalizing frames nodes with
  | nil =>
      simp only [forest, Option.ite_none_right_eq_some, Option.some.injEq] at h
      obtain ⟨-, rfl⟩ := h
      exact writable_reverse hnodes
  | cons t ts ih =>
      obtain ⟨ht, hrest⟩ := List.forall_mem_cons.mp hts
      obtain ⟨hleaf, hbehind⟩ := List.forall_mem_cons.mp hleaves
      have hgo := @ih hrest hbehind
      unfold forest at h
      split at h
      · split at h
        · next n hn => exact hgo hframes ((hleaf n hn).cons hnodes) h
        · cases h
      · split at h
        · -- the pair stays open with the nodes in front of it
          have hframe : Frame.Writable ⟨t, nodes⟩ := ⟨ht.attributes, hnodes⟩
          exact hgo (List.forall_mem_cons.mpr ⟨hframe, hframes⟩) (List.forall_mem_nil _) h
        · split at h
          · split at h
            · next opening before frames =>
                obtain ⟨hframe, hframes⟩ := List.forall_mem_cons.mp hframes
                have hpair : (ofToken opening (pairType opening.type) nodes.reverse).Writable :=
                  ⟨hframe.attributes, writable_reverse hnodes⟩
                exact hgo hframes (hpair.cons hframe.before) h
            · cases h
          · cases h

/-- The node of a token can be written. -/
theorem writable_of_leaf {t : Token} (ht : t.Writable) {n : Node} (h : leaf t = some n) :
    n.Writable := by
  -- by induction on how the token can be written: the tokens that it holds make writable leaves
  induction ht generalizing n with
  | @intro t hvalues hinside ih =>
      rw [leaf_eq] at h
      obtain ⟨nodes, hnodes, rfl⟩ := Option.map_eq_some_iff.mp h
      exact ⟨hvalues, writable_of_forest hinside (fun c hc n hn => ih c hc hn)
        (List.forall_mem_nil _) (List.forall_mem_nil _) hnodes⟩

theorem writable_of_ofTokens? {ts : List Token} (hts : AllWritable ts) {nodes : List Node}
    (h : ofTokens? ts = some nodes) : ∀ n ∈ nodes, n.Writable :=
  writable_of_forest hts (fun t ht _ hn => writable_of_leaf (hts t ht) hn) (List.forall_mem_nil _)
    (List.forall_mem_nil _) h

/-! ## Attributes of elements -/

theorem Writable.attributeValue {n : Node} (h : n.Writable) (name : String) :
    (n.attributeValue name).Writable := by
  unfold Node.attributeValue
  cases hvalue : n.attributes.lookup name with
  | none => exact ⟨rfl, rfl⟩
  | some v =>
      obtain ⟨before, behind, hsplit, -⟩ := List.lookup_eq_some_iff.mp hvalue
      have hmem : (name, v) ∈ n.attributes :=
        hsplit ▸ List.mem_append_right before List.mem_cons_self
      exact h.attributes (name, v) hmem

/-- Every record takes the texts of attributes that can be written. -/
theorem Writable.textFault?_eq_none {n : Node} (h : n.Writable) (record : String)
    (fields : List (String × List Step)) : n.textFault? record fields = none := by
  have hall : (fields.all fun field => (n.attributeValue field.1).isWritable) = true :=
    List.all_eq_true.mpr fun field _ => (h.attributeValue field.1).isWritable
  have hbroken : (fields.filter fun field => (n.attributeValue field.1).isBrokenText) = [] :=
    List.filter_eq_nil_iff.mpr fun field _ => by simp [(h.attributeValue field.1).notBroken]
  unfold Node.textFault?
  rw [if_pos hall, hbroken]
  rfl

/-- The image that a paragraph holds stands two levels below it. -/
theorem Writable.onlyImage? {n image : Node} (h : n.Writable) (himage : n.onlyImage? = some image) :
    image.Writable := by
  obtain ⟨line, hline, hof⟩ := List.exists_of_findSome?_eq_some himage
  simp only [Option.ite_none_right_eq_some] at hof
  obtain ⟨-, hof⟩ := hof
  split at hof
  · next found hfound =>
      simp only [Option.ite_none_right_eq_some, Option.some.injEq] at hof
      obtain ⟨-, rfl⟩ := hof
      have hmem : found ∈ line.children :=
        List.mem_of_mem_filter (hfound ▸ List.mem_singleton.mpr rfl)
      exact (h.inside line hline).inside found hmem
  · cases hof

theorem Writable.attributeFault?_eq_none {n : Node} (h : n.Writable) :
    n.attributeFault? = none := by
  unfold Node.attributeFault?
  split
  · exact h.textFault?_eq_none _ _
  · rw [Option.bind_eq_none_iff]
    exact fun image himage => (h.onlyImage? himage).textFault?_eq_none _ _
  · rfl

end Node

/-! ## Documents of texts -/

namespace Document

/-- What the blocks of a document have if they are read from its body. -/
structure IsParsed (d : Document) : Prop where
  wellHeaded : d.WellHeaded
  attributeFault?_eq_none : d.attributeFault? = none

theorem isParsed_of_parse {preset : String} {d : Document} {p : Preset} {tokens : List Token}
    (hp : Preset.ofName? preset = some p) (hparse : Markdown.parse? p d.body.toList = some tokens)
    (hblocks : Node.ofTokens? tokens = some d.blocks) : d.IsParsed := by
  have hwritable := Node.writable_of_ofTokens? (Markdown.writable_of_parse? hparse) hblocks
  exact ⟨(tiled_of_parse hp hparse hblocks).1,
    List.findSome?_eq_none_iff.mpr fun n hn => (hwritable n hn).attributeFault?_eq_none⟩

theorem isParsed_of_toDocument {text preset : String} {t : ParsedText} {d : Document}
    (ht : t.IsOf text preset) (h : t.toDocument = .ok d) : d.IsParsed := by
  obtain ⟨p, tokens, hp, hparse, hblocks⟩ := exists_tokens_of_toDocument ht h
  exact isParsed_of_parse hp hparse hblocks

/-- A document that is read from a text has elements. -/
theorem IsParsed.exists_elements {d : Document} (hd : d.IsParsed) (codec : Codec) :
    ∃ es, d.elements codec = .ok es :=
  exists_elements_iff.mpr ⟨hd.wellHeaded.levelFault?_eq_none, hd.attributeFault?_eq_none⟩

end Document

end MarkdownSections
