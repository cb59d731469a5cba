import MarkdownSections.Proofs.Markdown.Attributes
import MarkdownSections.Proofs.Markdown.Extent
import MarkdownSections.Proofs.Text.Numeral

/-!
# Attributes of the blocks of a text

Every attribute of a token that is read from a text can be written (`writable_of_parse?`). Two kinds
of blocks have attributes: a cell has its alignment, which is a text, and a numbered list the number
of its first item, which has nine digits at most.

Quotes and lists ask the property of the reader of the blocks inside them (`Reader.Writable`), so it
holds for every depth of nesting (`writable_blocks`).
-/

set_option autoImplicit false

namespace MarkdownSections.Markdown

/-- A pair of tokens has the attributes of its opening token and of what it encloses. -/
theorem AllWritable.enclose {ts : List Token} (h : AllWritable ts) (name tag : String)
    (level : Nat) (lines : Option (Int × Int)) {attributes : List (String × Json)}
    (hattributes : ∀ a ∈ attributes, a.2.Writable) :
    AllWritable (Block.enclose name tag level lines attributes ts) :=
  AllWritable.cons ⟨hattributes, List.forall_mem_nil _⟩ (h.append (allWritable_single rfl rfl))

/-- A pair of tokens without attributes has those of what it encloses. -/
theorem AllWritable.encloseBare {ts : List Token} (h : AllWritable ts) (name tag : String)
    (level : Nat) (lines : Option (Int × Int)) :
    AllWritable (Block.enclose name tag level lines [] ts) :=
  h.enclose name tag level lines (List.forall_mem_nil _)

namespace Block

/-- A reader of blocks whose tokens have attributes that can be written. -/
def Reader.Writable (inner : Reader) : Prop :=
  ∀ ctx start stop, AllWritable (inner ctx start stop).tokens

section Readers

variable {ctx : Context} {start stop : Nat} {b : Blocks}

/-! ## Leaf blocks -/

theorem writable_headingTokens (ctx : Context) (level : Nat) (lines textLines : Option (Int × Int))
    (text : List Char) : AllWritable (headingTokens ctx level lines textLines text) :=
  (allWritable_single rfl rfl).encloseBare _ _ _ _

theorem writable_paragraph (ctx : Context) (start : Nat) :
    AllWritable (paragraph ctx start).tokens :=
  (allWritable_single rfl rfl).encloseBare _ _ _ _

theorem writable_codeBlock? (h : codeBlock? ctx start stop = some b) : AllWritable b.tokens := by
  simp only [codeBlock?, Option.ite_none_right_eq_some, Option.some.injEq] at h
  obtain ⟨-, rfl⟩ := h
  exact allWritable_single rfl rfl

theorem writable_fencedCode? (h : fencedCode? ctx start stop = some b) : AllWritable b.tokens := by
  obtain ⟨fence, -, rfl⟩ := Option.map_eq_some_iff.mp h
  exact allWritable_single rfl rfl

theorem writable_thematicBreak? (h : thematicBreak? ctx start = some b) : AllWritable b.tokens := by
  simp only [thematicBreak?, Option.ite_none_right_eq_some, Option.some.injEq] at h
  obtain ⟨-, rfl⟩ := h
  exact allWritable_single rfl rfl

theorem writable_htmlBlock? (h : htmlBlock? ctx start stop = some b) : AllWritable b.tokens := by
  obtain ⟨kind, -, rfl⟩ := Option.map_eq_some_iff.mp h
  exact allWritable_single rfl rfl

theorem writable_markedHeading? (h : markedHeading? ctx start = some b) : AllWritable b.tokens := by
  obtain ⟨⟨level, rest⟩, -, rfl⟩ := Option.map_eq_some_iff.mp h
  exact writable_headingTokens _ _ _ _ _

theorem writable_underlinedHeading? (h : underlinedHeading? ctx start stop = some b) :
    AllWritable b.tokens := by
  simp only [underlinedHeading?, Option.ite_none_left_eq_some] at h
  obtain ⟨⟨last, level⟩, -, rfl⟩ := Option.map_eq_some_iff.mp h.2
  exact writable_headingTokens _ _ _ _ _

/-- A definition has no tokens. -/
theorem writable_definition? (h : definition? ctx start = some b) : AllWritable b.tokens := by
  simp only [definition?, Option.ite_none_left_eq_some] at h
  obtain ⟨-, h⟩ := h
  split at h
  · rw [(definitionText?_spec h).1]
    exact allWritable_nil
  · cases h

/-! ## Tables -/

/-- The alignment of a cell is a text. -/
theorem writable_cellAttributes (alignment : String) :
    ∀ a ∈ cellAttributes alignment, a.2.Writable := by
  unfold cellAttributes
  split
  · exact List.forall_mem_nil _
  · exact List.forall_mem_singleton.mpr (Json.writable_text _)

theorem writable_rowTokens (name : String) (level i : Nat) (alignments : List String)
    (cells : List (List Char)) : AllWritable (rowTokens name level i alignments cells) := by
  apply AllWritable.encloseBare
  intro t ht
  obtain ⟨⟨cell, alignment⟩, -, hmem⟩ := List.mem_flatMap.mp ht
  exact (allWritable_single rfl rfl).enclose _ _ _ _ (writable_cellAttributes alignment) t hmem

theorem writable_tableRows (ctx : Context) (alignments : List String) (stop : Nat) (filled : Int)
    (i count : Nat) : AllWritable (tableRows ctx alignments stop filled i count).1 := by
  induction count generalizing filled i with
  | zero => exact allWritable_nil
  | succ count ih =>
      simp only [tableRows]
      split
      · exact allWritable_nil
      · exact (writable_rowTokens _ _ _ _ _).append (ih _ _)

theorem writable_table? (h : table? ctx start stop = some b) : AllWritable b.tokens := by
  obtain ⟨⟨headers, alignments⟩, -, rfl⟩ := Option.map_eq_some_iff.mp h
  apply AllWritable.encloseBare
  apply AllWritable.append
  · exact (writable_rowTokens _ _ _ _ _).encloseBare _ _ _ _
  · split
    · exact allWritable_nil
    · exact (writable_tableRows _ _ _ _ _ _).encloseBare _ _ _ _

/-! ## Containers -/

/-- The number of a marker has nine digits at most. -/
theorem isWritable_of_numberMarker? {cs : List Char} {marker : ListMarker} {n : Nat}
    (h : numberMarker? cs = some marker) (hn : marker.number = some n) :
    Text.isWritable n = true := by
  simp only [numberMarker?] at h
  split at h
  · next c rest _ =>
      simp only [Option.ite_none_right_eq_some, Option.some.injEq, Bool.and_eq_true,
        decide_eq_true_eq] at h
      obtain ⟨⟨⟨-, hlength⟩, -⟩, rfl⟩ := h
      obtain rfl := Option.some.inj hn
      exact Text.isWritable_ofDigits (fun d hd => List.all_eq_true.mp List.all_takeWhile d hd)
        (Nat.le_trans hlength (by decide)) false
  · cases h

/-- A bullet has no number. -/
theorem number_of_bulletMarker? {cs : List Char} {marker : ListMarker}
    (h : bulletMarker? cs = some marker) : marker.number = none := by
  unfold bulletMarker? at h
  split at h
  · simp only [Option.ite_none_right_eq_some, Option.some.injEq] at h
    obtain ⟨-, rfl⟩ := h
    rfl
  · cases h

theorem isWritable_of_listStart? {l : Line} {inParagraph : Bool} {marker : ListMarker} {n : Nat}
    (h : listStart? ctx l inParagraph = some marker) (hn : marker.number = some n) :
    Text.isWritable n = true := by
  simp only [listStart?, Option.ite_none_left_eq_some] at h
  obtain ⟨-, h⟩ := h
  split at h
  · cases h
  · next found hfound =>
      simp only [Option.ite_none_left_eq_some, Option.some.injEq] at h
      obtain ⟨-, rfl⟩ := h
      rw [listMarker?, Option.orElse_eq_or, Option.or_eq_some_iff] at hfound
      rcases hfound with hnumber | ⟨-, hbullet⟩
      · exact isWritable_of_numberMarker? hnumber hn
      · rw [number_of_bulletMarker? hbullet] at hn
        cases hn

variable {inner : Reader} (hinner : inner.Writable)

include hinner

theorem writable_quote? (h : quote? inner ctx start stop = some b) : AllWritable b.tokens := by
  simp only [quote?, Option.ite_none_right_eq_some] at h
  obtain ⟨-, h⟩ := h
  split at h
  · obtain rfl := Option.some.inj h
    apply AllWritable.encloseBare
    exact ((allWritable_single rfl rfl).encloseBare _ _ _ _).append (hinner _ _ _)
  · obtain rfl := Option.some.inj h
    exact (hinner _ _ _).encloseBare _ _ _ _

theorem writable_item (ctx : Context) (i stop : Nat) (marker : ListMarker) :
    AllWritable (item inner ctx i stop marker).tokens := by
  simp only [item]
  split
  · exact allWritable_nil
  · exact hinner _ _ _

theorem writable_items (ctx : Context) (stop fuel i : Nat) (marker : ListMarker) :
    AllWritable (items inner ctx stop fuel i marker).tokens := by
  induction fuel generalizing i marker with
  | zero => exact allWritable_nil
  | succ fuel ih =>
      have hitem := (writable_item hinner ctx i stop marker).encloseBare "list_item" "li"
        (ctx.level + 1) (lineRange i (item inner ctx i stop marker).next)
      simp only [items]
      split
      · exact hitem
      · exact hitem.append (ih _ _)

theorem writable_list? (h : list? inner ctx start stop = some b) : AllWritable b.tokens := by
  obtain ⟨marker, hmarker, rfl⟩ := Option.map_eq_some_iff.mp h
  have hinside := writable_items hinner ctx stop (stop - start) start marker
  simp only
  split
  · next n hn =>
      apply AllWritable.enclose hinside
      split
      · exact List.forall_mem_nil _
      · exact List.forall_mem_singleton.mpr
          (Json.writable_int (isWritable_of_listStart? hmarker hn))
  · exact hinside.encloseBare _ _ _ _

theorem writable_block (ctx : Context) (start stop : Nat) :
    AllWritable (block inner ctx start stop).tokens := by
  have hat := blockAt_block inner ctx start stop
  generalize block inner ctx start stop = b at hat
  cases hat with
  | table h => exact writable_table? h
  | codeBlock h => exact writable_codeBlock? h
  | fencedCode h => exact writable_fencedCode? h
  | quote h => exact writable_quote? hinner h
  | thematicBreak h => exact writable_thematicBreak? h
  | list h => exact writable_list? hinner h
  | definition h => exact writable_definition? h
  | htmlBlock h => exact writable_htmlBlock? h
  | markedHeading h => exact writable_markedHeading? h
  | underlinedHeading h => exact writable_underlinedHeading? h
  | paragraph => exact writable_paragraph ctx start

theorem writable_blocksFrom (ctx : Context) (stop fuel i : Nat) :
    AllWritable (blocksFrom inner ctx stop fuel i).tokens := by
  induction fuel generalizing i with
  | zero => exact allWritable_nil
  | succ fuel ih =>
      unfold blocksFrom
      split
      · exact allWritable_nil
      · simp only
        split
        · exact allWritable_nil
        · split
          · exact allWritable_nil
          · exact (writable_block hinner ctx _ stop).append (ih _)

end Readers

/-- The reader of blocks has the property, however deep containers may stand inside each other. -/
theorem writable_blocks (depth : Nat) : (blocks depth).Writable := by
  induction depth with
  | zero => exact fun _ _ _ => allWritable_nil
  | succ depth ih => exact fun ctx start stop => writable_blocksFrom ih ctx stop _ start

end Block

/-! ## Tokens of a text -/

theorem AllWritable.map_fillInline {ts : List Token} (h : AllWritable ts) (preset : Preset)
    (definitions : List Definition) : AllWritable (ts.map (fillInline preset definitions)) := by
  intro t ht
  obtain ⟨t', ht', rfl⟩ := List.mem_map.mp ht
  unfold fillInline
  split
  · exact (h t' ht').withChildren (Inline.writable_pieces preset definitions t'.content.toList)
  · exact h t' ht'

/-- The tokens of a text have attributes that can be written. -/
theorem writable_of_parse? {preset : Preset} {cs : List Char} {ts : List Token}
    (h : parse? preset cs = some ts) : AllWritable ts := by
  simp only [parse?, Option.ite_none_right_eq_some, Option.some.injEq] at h
  obtain ⟨-, rfl⟩ := h
  exact AllWritable.map_fillInline (Block.writable_blocks _ _ _ _) preset _

end MarkdownSections.Markdown
