import MarkdownSections.Proofs.Markdown.Extent
import MarkdownSections.Proofs.Markdown.Passage

/-!
# Readers go forward

The blocks of a container stay within its limit, have balanced tokens, and take up the line they
are read from if the container reaches it (`Reader.Advances`). Quotes and lists ask this of the
reader of the blocks inside them, so it holds for every depth of nesting (`advances_blocks`). A
quote reaches its first line because its content stands behind the mark, and an item because its
line is moved to the column of the content.
-/

set_option autoImplicit false

namespace MarkdownSections.Markdown.Block

/-! ## Containers -/

/-- What the blocks of a container take up: they start where they are read from, end at the limit of
the container at the latest, and have balanced tokens. -/
structure IsRun (ctx : Context) (start : Nat) (b : Blocks) : Prop where
  low : start ≤ b.next
  within : b.next ≤ ctx.limit
  balanced : ∃ heads, Balanced b.tokens heads

/-- Whether a container reads on at a line: it is empty, or not left of the content. -/
def Context.Reaches (ctx : Context) (i : Nat) : Prop :=
  (ctx.line i).isEmpty = true ∨ ctx.indent ≤ (ctx.line i).indent

/-- A reader that stays within the limit of every container, and goes forward from a line that the
container reaches. -/
structure Reader.Advances (inner : Reader) : Prop where
  isRun : ∀ (ctx : Context) {start stop : Nat}, start ≤ stop → stop ≤ ctx.limit →
    IsRun ctx start (inner ctx start stop)
  advances : ∀ {ctx : Context} {start stop : Nat}, start < stop → stop ≤ ctx.limit →
    ctx.Reaches start → start < (inner ctx start stop).next

theorem IsPiece.isRun {ctx : Context} {start limit : Nat} {b : Blocks} (h : IsPiece start limit b)
    (hlimit : limit ≤ ctx.limit) : IsRun ctx start b := by
  obtain ⟨t, ht, -⟩ := h.head
  exact ⟨Nat.le_of_lt h.advances, Nat.le_trans h.within hlimit, [t], ht⟩

section Containers

variable {inner : Reader} {ctx : Context} {start stop : Nat} {b : Blocks}

/-- A line of a container whose line `i` is replaced. -/
theorem line_setIfInBounds {ctx' : Context} {i : Nat} {l : Line}
    (hlines : ctx'.lines[i]? = (ctx.lines.setIfInBounds i l)[i]?) (hi : i < ctx.lines.size) :
    ctx'.line i = l := by
  rw [Context.line, Array.getD_eq_getD_getElem?, hlines, Array.getElem?_setIfInBounds_self_of_lt hi]
  rfl

/-- Behind the last line of a container there are empty lines. -/
theorem lt_size_of_content {i : Nat} (h : (ctx.line i).isEmpty = false) : i < ctx.lines.size := by
  by_contra hge
  have hline : ctx.line i = {} := by
    rw [Context.line, Array.getD_eq_getD_getElem?, Array.getElem?_eq_none (Nat.not_lt.mp hge)]
    rfl
  rw [hline] at h
  cases h

theorem le_columnAfter (base start : Nat) (blanks : List Char) :
    start ≤ columnAfter base start blanks := by
  unfold columnAfter
  induction blanks generalizing start with
  | nil => exact Nat.le_refl start
  | cons c blanks ih =>
      rw [List.foldl_cons]
      refine Nat.le_trans ?_ (ih _)
      split <;> omega

/-- Every line behind a quote mark stands in the quote. -/
theorem indent_quotedLine (l : Line) : 0 ≤ (quotedLine l).1.indent := by
  have hle : ∀ base start blanks, 0 ≤ (columnAfter base start blanks : Int) - (start : Int) :=
    fun base start blanks =>
      Int.sub_nonneg_of_le (Int.ofNat_le.mpr (le_columnAfter base start blanks))
  simp only [quotedLine]
  split <;> exact hle _ _ _

theorem quoteLines_spec (ctx : Context) (stop : Nat) (lines : Array Line) (afterEmpty : Bool)
    (i count : Nat) :
    i ≤ (quoteLines ctx stop lines afterEmpty i count).2.1 ∧
      (quoteLines ctx stop lines afterEmpty i count).2.1 ≤ i + count ∧
      ∀ j < i, (quoteLines ctx stop lines afterEmpty i count).1[j]? = lines[j]? := by
  induction count generalizing lines afterEmpty i with
  | zero => exact ⟨Nat.le_refl i, Nat.le_refl i, fun j _ => rfl⟩
  | succ count ih =>
      -- a line that is taken in is changed in its place, and those in front of it stay
      have hset : ∀ (l : Line) (empty : Bool),
          i ≤ (quoteLines ctx stop (lines.setIfInBounds i l) empty (i + 1) count).2.1 ∧
            (quoteLines ctx stop (lines.setIfInBounds i l) empty (i + 1) count).2.1 ≤
              i + (count + 1) ∧
            ∀ j < i, (quoteLines ctx stop (lines.setIfInBounds i l) empty (i + 1) count).1[j]? =
              lines[j]? := by
        intro l empty
        obtain ⟨hlow, hhigh, hlines⟩ := ih (lines.setIfInBounds i l) empty (i + 1)
        refine ⟨by omega, by omega, fun j hj => ?_⟩
        rw [hlines j (by omega), Array.getElem?_setIfInBounds_ne (by omega)]
      have hdone : i ≤ i ∧ i ≤ i + (count + 1) ∧ ∀ j < i, lines[j]? = lines[j]? :=
        ⟨Nat.le_refl i, by omega, fun j _ => rfl⟩
      simp only [quoteLines]
      split
      · exact hdone
      · split
        · exact hset _ _
        · split
          · exact hdone
          · split
            · exact hdone
            · exact hset _ _

/-- A line that opens a quote is a line of the container. -/
theorem lt_size_of_opensQuote (h : opensQuote ctx (ctx.line start) = true) :
    start < ctx.lines.size := by
  apply lt_size_of_content
  simp only [opensQuote, Bool.and_eq_true, decide_eq_true_eq] at h
  unfold Line.isEmpty
  cases hcontent : (ctx.line start).content with
  | nil =>
      rw [hcontent] at h
      cases h.2
  | cons c cs => rfl

/-- The blocks of a quote are a run of blocks behind its first line. -/
theorem quote?_isPiece (hinner : inner.Advances) (hstart : start < stop) (hstop : stop ≤ ctx.limit)
    (h : quote? inner ctx start stop = some b) : IsPiece start ctx.limit b := by
  simp only [quote?] at h
  split at h
  · next hopens =>
      have hsize := lt_size_of_opensQuote hopens
      obtain ⟨hlow, hhigh, hlines⟩ := quoteLines_spec ctx stop
        (ctx.lines.setIfInBounds start (quotedLine (ctx.line start)).1)
        (quotedLine (ctx.line start)).2 (start + 1) (stop - (start + 1))
      -- the quote sees its first line without the mark
      have hfirst := hlines start (Nat.lt_succ_self start)
      have hindent := indent_quotedLine (ctx.line start)
      generalize quoteLines ctx stop (ctx.lines.setIfInBounds start (quotedLine (ctx.line start)).1)
        (quotedLine (ctx.line start)).2 (start + 1) (stop - (start + 1)) = found at *
      obtain ⟨lines, last, ended⟩ := found
      simp only at hlow hhigh hfirst h
      have hlimit : last ≤ (if ended then last else ctx.limit) ∧
          (if ended then last else ctx.limit) ≤ ctx.limit := by
        split
        · exact ⟨Nat.le_refl last, by omega⟩
        · exact ⟨by omega, Nat.le_refl ctx.limit⟩
      split at h
      · next title _ =>
          obtain rfl := Option.some.inj h
          -- behind the line of its title, an alert may hold nothing
          have hinside := hinner.isRun { ctx with
            lines, limit := if ended then last else ctx.limit, indent := 0,
            level := ctx.level + 1 } hlow hlimit.1
          obtain ⟨inside, hbalanced⟩ := hinside.balanced
          have htitle := (balanced_inlineToken (ctx.level + 1 + 1) none title.toList).enclose
            "alert_title" "p" (ctx.level + 1) none []
          exact ⟨hinside.low, Nat.le_trans hinside.within hlimit.2,
            exists_head_pair (htitle.append hbalanced) (by decide) ctx.level []⟩
      · obtain rfl := Option.some.inj h
        have hinside := hinner.isRun { ctx with
          lines, limit := if ended then last else ctx.limit, indent := 0,
          level := ctx.level + 1 } (Nat.le_of_lt hlow) hlimit.1
        obtain ⟨inside, hbalanced⟩ := hinside.balanced
        refine ⟨hinner.advances hlow hlimit.1 (Or.inr ?_), Nat.le_trans hinside.within hlimit.2,
          exists_head_pair hbalanced (by decide) ctx.level []⟩
        rw [line_setIfInBounds hfirst hsize]
        exact hindent
  · cases h

/-! ### Lists -/

/-- The content of an item that is not empty starts at its column at the earliest. -/
theorem indent_itemLine (l : Line) (marker : ListMarker) :
    (itemLine l marker).1.isEmpty = true ∨
      ((itemLine l marker).2 : Int) ≤ (itemLine l marker).1.indent := by
  simp only [itemLine]
  have hle := le_columnAfter l.base (l.indent.toNat + marker.width)
    ((l.content.drop marker.width).takeWhile isIndentation)
  by_cases hall : ((l.content.drop marker.width).takeWhile isIndentation).length =
      (l.content.drop marker.width).length
  · left
    have hlength : (l.content.drop marker.width).length =
        l.chars.length - l.shift - marker.width := by
      rw [List.length_drop, Line.content, List.length_drop]
    rw [hall, hlength, Line.isEmpty, Line.content, List.isEmpty_iff, List.drop_eq_nil_iff]
    simp only
    omega
  · right
    simp only [if_neg hall]
    split <;> omega

theorem reaches_withoutCheckbox (ctx : Context) (column : Nat) {l : Line}
    (hl : l.isEmpty = true ∨ (column : Int) ≤ l.indent) :
    (withoutCheckbox ctx column l).isEmpty = true ∨
      (column : Int) ≤ (withoutCheckbox ctx column l).indent := by
  unfold withoutCheckbox
  split
  · split
    · exact Or.inr (Int.le_refl _)
    · exact hl
  · exact hl

/-- An item takes up its line at least. -/
theorem item_isRun (hinner : inner.Advances) (hstart : start < stop) (hstop : stop ≤ ctx.limit)
    (marker : ListMarker) :
    IsRun ctx start (item inner ctx start stop marker) ∧
      start < (item inner ctx start stop marker).next := by
  simp only [item]
  split
  · exact ⟨⟨by simp only; omega, by simp only; omega, [], .nil⟩, by simp only; omega⟩
  · have hinside := hinner.isRun { ctx with
      lines := ctx.lines.setIfInBounds start (withoutCheckbox ctx
        (itemLine (ctx.line start) marker).2 (itemLine (ctx.line start) marker).1)
      indent := (itemLine (ctx.line start) marker).2, listIndent := some ctx.indent
      level := ctx.level + 2 } (Nat.le_of_lt hstart) hstop
    refine ⟨⟨hinside.low, hinside.within, hinside.balanced⟩, hinner.advances hstart hstop ?_⟩
    -- the line is that of the item, or there is no such line
    by_cases hsize : start < ctx.lines.size
    · unfold Context.Reaches
      rw [line_setIfInBounds rfl hsize]
      exact reaches_withoutCheckbox ctx _ (indent_itemLine _ marker)
    · by_contra hreaches
      have hcontent := lt_size_of_content (Bool.not_eq_true _ ▸ not_or.mp hreaches |>.1)
      rw [Array.size_setIfInBounds] at hcontent
      exact hsize hcontent

theorem lt_of_furtherMarker? {i : Nat} {first marker : ListMarker}
    (h : furtherMarker? ctx i stop first = some marker) : i < stop := by
  simp only [furtherMarker?] at h
  by_contra hge
  rw [if_pos (by simp; omega)] at h
  cases h

theorem items_isRun (hinner : inner.Advances) (hstop : stop ≤ ctx.limit) (fuel : Nat) {i : Nat}
    (hi : i < stop) (marker : ListMarker) :
    IsRun ctx i (items inner ctx stop fuel i marker) ∧
      (0 < fuel → i < (items inner ctx stop fuel i marker).next) := by
  induction fuel generalizing i marker with
  | zero => exact ⟨⟨Nat.le_refl i, by simp only [items]; omega, [], .nil⟩, fun h => by omega⟩
  | succ fuel ih =>
      obtain ⟨hone, hadvances⟩ := item_isRun hinner hi hstop marker
      obtain ⟨inside, hinside⟩ := hone.balanced
      have htokens := hinside.enclose "list_item" "li" (ctx.level + 1)
        (lineRange i (item inner ctx i stop marker).next) []
      simp only [items]
      split
      · exact ⟨⟨hone.low, hone.within, _, htokens⟩, fun _ => hadvances⟩
      · next further hfurther =>
          obtain ⟨hrest, -⟩ := ih (lt_of_furtherMarker? hfurther) further
          obtain ⟨rest, hbalanced⟩ := hrest.balanced
          exact ⟨⟨Nat.le_trans hone.low hrest.low, hrest.within, _, htokens.append hbalanced⟩,
            fun _ => Nat.lt_of_lt_of_le hadvances hrest.low⟩

theorem list?_isPiece (hinner : inner.Advances) (hstart : start < stop) (hstop : stop ≤ ctx.limit)
    (h : list? inner ctx start stop = some b) : IsPiece start ctx.limit b := by
  simp only [list?] at h
  obtain ⟨marker, -, rfl⟩ := Option.map_eq_some_iff.mp h
  obtain ⟨hrun, hadvances⟩ := items_isRun hinner hstop (stop - start) hstart marker
  obtain ⟨inside, hbalanced⟩ := hrun.balanced
  refine ⟨hadvances (by omega), hrun.within, ?_⟩
  simp only
  split
  · exact exists_head_pair hbalanced (by decide) ctx.level _
  · exact exists_head_pair hbalanced (by decide) ctx.level []

/-! ### All blocks -/

/-- A block is a definition, or its tokens stand for the lines that it takes up. -/
theorem block_spec (ctx : Context) (hinner : inner.Advances) (hstart : start < stop)
    (hstop : stop ≤ ctx.limit) :
    (definition? ctx start = some (block inner ctx start stop) ∧
        (block inner ctx start stop).tokens = [] ∧ start < (block inner ctx start stop).next ∧
        (block inner ctx start stop).next ≤ ctx.limit) ∨
      IsPiece start ctx.limit (block inner ctx start stop) := by
  have hlimit : start < ctx.limit := Nat.lt_of_lt_of_le hstart hstop
  have hwithin : ∀ {b : Blocks}, IsPiece start stop b → IsPiece start ctx.limit b :=
    fun hb => ⟨hb.advances, Nat.le_trans hb.within hstop, hb.head⟩
  -- only a definition takes up lines without tokens; every other reader makes a piece
  have hat := blockAt_block inner ctx start stop
  generalize block inner ctx start stop = b at hat
  cases hat with
  | table h => exact Or.inr (hwithin (table?_isPiece h))
  | codeBlock h => exact Or.inr (hwithin (codeBlock?_isPiece hstart h))
  | fencedCode h => exact Or.inr (hwithin (fencedCode?_isPiece hstart h))
  | quote h => exact Or.inr (quote?_isPiece hinner hstart hstop h)
  | thematicBreak h => exact Or.inr (hwithin (thematicBreak?_isPiece hstart h))
  | list h => exact Or.inr (list?_isPiece hinner hstart hstop h)
  | definition h => exact Or.inl ⟨h, definition?_spec hlimit h⟩
  | htmlBlock h => exact Or.inr (hwithin (htmlBlock?_isPiece hstart h))
  | markedHeading h => exact Or.inr (hwithin (markedHeading?_isPiece hstart h))
  | underlinedHeading h => exact Or.inr (hwithin (underlinedHeading?_isPiece hstart h))
  | paragraph => exact Or.inr (paragraph_isPiece hlimit)

/-- Empty lines are passed over, up to the limit of the container. -/
theorem skipEmptyFrom_spec (ctx : Context) (i count : Nat) :
    i ≤ ctx.skipEmptyFrom i count ∧ ctx.skipEmptyFrom i count ≤ i + count ∧
      (0 < count → (ctx.line i).isEmpty = true → i < ctx.skipEmptyFrom i count) ∧
      ∀ j, i ≤ j → j < ctx.skipEmptyFrom i count → (ctx.line j).isEmpty = true := by
  induction count generalizing i with
  | zero => exact ⟨Nat.le_refl i, Nat.le_refl i, fun h => absurd h (Nat.lt_irrefl 0),
      fun j hij hji => absurd hij (Nat.not_le.mpr hji)⟩
  | succ count ih =>
      unfold Context.skipEmptyFrom
      split
      · next hempty =>
          obtain ⟨hlow, hhigh, -, hskipped⟩ := ih (i + 1)
          refine ⟨by omega, by omega, fun _ _ => by omega, fun j hij hj => ?_⟩
          rcases Nat.eq_or_lt_of_le hij with rfl | hlt
          · exact hempty
          · exact hskipped j hlt hj
      · next hcontent =>
          exact ⟨Nat.le_refl i, by omega, fun _ hempty => absurd hempty hcontent,
            fun j hij hj => absurd hij (Nat.not_le.mpr hj)⟩

theorem skipEmpty_spec (ctx : Context) {i : Nat} (hi : i < ctx.limit) :
    i ≤ ctx.skipEmpty i ∧ ctx.skipEmpty i ≤ ctx.limit ∧
      ((ctx.line i).isEmpty = true → i < ctx.skipEmpty i) ∧
      ∀ j, i ≤ j → j < ctx.skipEmpty i → (ctx.line j).isEmpty = true := by
  obtain ⟨hlow, hhigh, hadvances, hskipped⟩ := skipEmptyFrom_spec ctx i (ctx.limit - i)
  exact ⟨hlow, by unfold Context.skipEmpty; omega, hadvances (by omega), hskipped⟩

theorem behind_spec (ctx : Context) (stop next : Nat) :
    next ≤ behind ctx stop next ∧ behind ctx stop next ≤ max next stop ∧
      ∀ j, next ≤ j → j < behind ctx stop next → (ctx.line j).isEmpty = true := by
  unfold behind
  split
  · next h =>
      simp only [Bool.and_eq_true, decide_eq_true_eq] at h
      refine ⟨by omega, by omega, fun j hj hlt => ?_⟩
      obtain rfl : j = next := by omega
      exact h.2
  · exact ⟨Nat.le_refl next, by omega, fun j hj hlt => absurd hj (Nat.not_le.mpr hlt)⟩

/-- A block is a run of its container, with tokens or without. -/
theorem block_isRun (ctx : Context) (hinner : inner.Advances) (hstart : start < stop)
    (hstop : stop ≤ ctx.limit) :
    IsRun ctx start (block inner ctx start stop) ∧ start < (block inner ctx start stop).next := by
  rcases block_spec ctx hinner hstart hstop with ⟨-, htokens, hlow, hhigh⟩ | hpiece
  · exact ⟨⟨Nat.le_of_lt hlow, hhigh, [], htokens ▸ .nil⟩, hlow⟩
  · exact ⟨hpiece.isRun (Nat.le_refl ctx.limit), hpiece.advances⟩

/-- The blocks of a container are a run, one behind the other; if they are read from a line that the
container reaches, they take up this line. -/
theorem blocksFrom_spec (hinner : inner.Advances) (hstop : stop ≤ ctx.limit) (fuel : Nat) {i : Nat}
    (hi : i ≤ ctx.limit) :
    IsRun ctx i (blocksFrom inner ctx stop fuel i) ∧
      (0 < fuel → i < stop → ctx.Reaches i → i < (blocksFrom inner ctx stop fuel i).next) := by
  induction fuel generalizing i with
  | zero => exact ⟨⟨Nat.le_refl i, hi, [], .nil⟩, fun h => absurd h (Nat.lt_irrefl 0)⟩
  | succ fuel ih =>
      unfold blocksFrom
      split
      · exact ⟨⟨Nat.le_refl i, hi, [], .nil⟩, fun _ _ _ => by omega⟩
      · next hlt =>
          obtain ⟨hlow, hhigh, hadvances, -⟩ := skipEmpty_spec ctx (i := i) (by omega)
          simp only
          split
          · next hends =>
              -- the container ends at a later line, since it reaches this one
              refine ⟨⟨hlow, hhigh, [], .nil⟩, fun _ _ hreaches => ?_⟩
              rcases hreaches with hempty | hindent
              · exact hadvances hempty
              · refine Nat.lt_of_le_of_ne hlow fun heq => ?_
                have hsame : ctx.skipEmpty i = i := heq.symm
                rw [hsame, Bool.or_eq_true, decide_eq_true_eq, decide_eq_true_eq] at hends
                omega
          · next hgoes =>
              simp only [Bool.or_eq_true, decide_eq_true_eq, not_or] at hgoes
              split
              · exact ⟨⟨by simp only; omega, hstop, [], .nil⟩, fun _ _ _ => by simp only; omega⟩
              · obtain ⟨hone, hnext⟩ :=
                  block_isRun ctx hinner (show ctx.skipEmpty i < stop by omega) hstop
                obtain ⟨hbehind, hbound, -⟩ :=
                  behind_spec ctx stop (block inner ctx (ctx.skipEmpty i) stop).next
                have hwithin := hone.within
                obtain ⟨hrest, -⟩ := ih (i := behind ctx stop
                  (block inner ctx (ctx.skipEmpty i) stop).next) (by omega)
                obtain ⟨front, hfront⟩ := hone.balanced
                obtain ⟨rest, hbalanced⟩ := hrest.balanced
                have hreach := hrest.low
                unfold behind at hreach hbalanced hrest hbehind
                exact ⟨⟨by simp only; omega, hrest.within, _, hfront.append hbalanced⟩,
                  fun _ _ _ => by simp only; omega⟩

end Containers

/-- The reader of blocks goes forward, however deep containers may stand inside each other. -/
theorem advances_blocks (depth : Nat) : (blocks depth).Advances := by
  induction depth with
  | zero =>
      refine ⟨fun _ _ _ hstart hstop => ⟨hstart, hstop, [], .nil⟩, fun hstart _ _ => hstart⟩
  | succ depth ih =>
      constructor
      · intro ctx start stop hstart hstop
        exact (blocksFrom_spec ih hstop _ (Nat.le_trans hstart hstop)).1
      · intro ctx start stop hstart hstop hreaches
        exact (blocksFrom_spec ih hstop _ (by omega)).2 (Nat.succ_pos _) hstart hreaches

end MarkdownSections.Markdown.Block
