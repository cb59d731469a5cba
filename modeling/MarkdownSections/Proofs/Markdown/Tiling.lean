import MarkdownSections.Document.Parse
import MarkdownSections.Proofs.Markdown.Advance

/-!
# The lines of a text and its blocks

A text is read block by block (`pieces`), and every line of it is empty, or belongs to one block, or
to a reference definition (`covers_pieces`). A definition is the only block without tokens, so no
token stands for its lines (`mem_definitionLines`). The other blocks have one head each, and the
lines of these heads follow one another (`Tiling`).
-/

set_option autoImplicit false

namespace MarkdownSections.Markdown

/-! ## Lines in order -/

/-- From line `i` up to `stop`, the lines of some ranges are free, the ranges follow one another,
and the lines between them are passed over. -/
def Tiling (passed free : Nat → Prop) (stop : Nat) (i : Nat) : List (Option (Int × Int)) → Prop
  | [] => ∀ j, i ≤ j → j < stop → passed j
  | range :: ranges => ∃ first next : Nat, range = some ((first : Int), (next : Int)) ∧ i ≤ first ∧
      first < next ∧ next ≤ stop ∧ (∀ j, i ≤ j → j < first → passed j) ∧
        (∀ j, first ≤ j → j < next → free j) ∧ Tiling passed free stop next ranges

section Tilings

variable {passed passed' free : Nat → Prop} {stop i m : Nat} {ranges : List (Option (Int × Int))}

/-- More lines in front may be passed over. -/
theorem Tiling.extend (h : Tiling passed free stop m ranges) (him : i ≤ m)
    (hpassed : ∀ j, i ≤ j → j < m → passed j) : Tiling passed free stop i ranges := by
  have hfront : ∀ {limit : Nat}, (∀ j, m ≤ j → j < limit → passed j) →
      ∀ j, i ≤ j → j < limit → passed j := by
    intro limit hlater j hij hj
    rcases Nat.lt_or_ge j m with hlt | hge
    · exact hpassed j hij hlt
    · exact hlater j hge hj
  cases ranges with
  | nil => exact hfront h
  | cons range ranges =>
      obtain ⟨first, next, hrange, hm, hlt, hstop, hbetween, hrest⟩ := h
      exact ⟨first, next, hrange, Nat.le_trans him hm, hlt, hstop, hfront hbetween, hrest⟩

/-- What is known of the lines that are passed over may be put in other words, and lines behind the
end may be passed over, too. -/
theorem Tiling.imp {stop' : Nat} (hstop : stop ≤ stop') (hpassed : ∀ j, passed j → passed' j)
    (hbehind : ∀ j, stop ≤ j → passed' j) (h : Tiling passed free stop i ranges) :
    Tiling passed' free stop' i ranges := by
  induction ranges generalizing i with
  | nil =>
      intro j hij _
      rcases Nat.lt_or_ge j stop with hlt | hge
      · exact hpassed j (h j hij hlt)
      · exact hbehind j hge
  | cons range ranges ih =>
      obtain ⟨first, next, hrange, hi, hlt, hnext, hbetween, hfree, hrest⟩ := h
      exact ⟨first, next, hrange, hi, hlt, Nat.le_trans hnext hstop,
        fun j hij hj => hpassed j (hbetween j hij hj), hfree, ih hrest⟩

end Tilings

namespace Block

/-! ## Block by block -/

/-- The blocks of a container from line `i` up to `stop`, each with the number of its first line. -/
def pieces (inner : Reader) (ctx : Context) (stop : Nat) : Nat → Nat → List (Nat × Blocks)
  | 0, _ => []
  | fuel + 1, i =>
    if stop ≤ i then []
    else
      let i := ctx.skipEmpty i
      if stop ≤ i || (ctx.line i).indent < ctx.indent || ctx.preset.maxNesting ≤ ctx.level then []
      else
        let one := block inner ctx i stop
        (i, one) :: pieces inner ctx stop fuel (behind ctx stop one.next)

/-- The tokens of a container are those of its blocks. -/
theorem tokens_blocksFrom (inner : Reader) (ctx : Context) (stop fuel i : Nat) :
    (blocksFrom inner ctx stop fuel i).tokens =
      (pieces inner ctx stop fuel i).flatMap fun p => p.2.tokens := by
  induction fuel generalizing i with
  | zero => rfl
  | succ fuel ih =>
      unfold blocksFrom pieces
      split
      · rfl
      · -- the reader stops at the same lines whether or not it keeps the blocks apart
        cases hends : (decide (stop ≤ ctx.skipEmpty i) ||
            decide ((ctx.line (ctx.skipEmpty i)).indent < ctx.indent)) with
        | true => simp only [hends, Bool.true_or, if_true, List.flatMap_nil]
        | false =>
            by_cases hdeep : ctx.preset.maxNesting ≤ ctx.level
            · simp [hends, hdeep]
            · simp only [hends, hdeep, decide_false, Bool.or_false, Bool.false_eq_true, if_false,
                List.flatMap_cons, ← ih]
              rfl

/-- The lines of the definitions among blocks, which have no tokens. -/
def linesWithoutTokens (ps : List (Nat × Blocks)) : List Nat :=
  ps.flatMap fun p => if p.2.tokens.isEmpty then List.range' p.1 (p.2.next - p.1) else []

/-- A text as a container. -/
def textContext (preset : Preset) (cs : List Char) : Context :=
  { preset, lines := (linesOf [] cs).toArray, limit := (linesOf [] cs).toArray.size }

/-- The blocks of a text, each with the number of its first line. -/
def textPieces (preset : Preset) (cs : List Char) : List (Nat × Blocks) :=
  pieces (blocks preset.maxNesting) (textContext preset cs) (textContext preset cs).limit
    ((textContext preset cs).limit + 1) 0

theorem tokens_ofText (preset : Preset) (cs : List Char) :
    (ofText preset cs).tokens = (textPieces preset cs).flatMap fun p => p.2.tokens :=
  tokens_blocksFrom _ _ _ _ _

theorem IsPiece.isEmpty_tokens {start limit : Nat} {b : Blocks} (h : IsPiece start limit b) :
    b.tokens.isEmpty = false := by
  obtain ⟨t, ht, -⟩ := h.head
  rw [List.isEmpty_eq_false_iff]
  intro hnil
  rw [hnil] at ht
  cases ht

/-- Whether the lines of a container all stand in it. -/
structure Context.IsText (ctx : Context) : Prop where
  reaches : ∀ i, (ctx.indent : Int) ≤ (ctx.line i).indent
  shallow : ctx.level < ctx.preset.maxNesting

/-- Either nothing is read from line `i` on, and then all lines of a text are empty there, or the first
block stands behind empty lines. -/
theorem pieces_cases (inner : Reader) (ctx : Context) (fuel i : Nat) :
    (pieces inner ctx ctx.limit (fuel + 1) i = [] ∧
        (ctx.IsText → ∀ j, i ≤ j → j < ctx.limit → (ctx.line j).isEmpty = true)) ∨
      ∃ m, i ≤ m ∧ m < ctx.limit ∧ (∀ j, i ≤ j → j < m → (ctx.line j).isEmpty = true) ∧
        pieces inner ctx ctx.limit (fuel + 1) i =
          (m, block inner ctx m ctx.limit) :: pieces inner ctx ctx.limit fuel
            (behind ctx ctx.limit (block inner ctx m ctx.limit).next) := by
  rw [pieces]
  split
  · exact .inl ⟨rfl, fun _ j hij hj => by omega⟩
  · obtain ⟨hlow, -, -, hskipped⟩ := skipEmpty_spec ctx (i := i) (by omega)
    simp only
    split
    · next hends =>
        refine .inl ⟨rfl, fun hctx j hij hj => hskipped j hij ?_⟩
        -- the reader stops at no line of a text, so only empty ones are left
        simp only [Bool.or_eq_true, decide_eq_true_eq] at hends
        have hreach := hctx.reaches (ctx.skipEmpty i)
        have hshallow := hctx.shallow
        omega
    · next hgoes =>
        simp only [Bool.or_eq_true, decide_eq_true_eq, not_or] at hgoes
        exact .inr ⟨_, hlow, Nat.not_le.mp hgoes.1.1, hskipped, rfl⟩

/-- The blocks without tokens are the definitions. -/
theorem isEmpty_tokens_iff_of_mem_pieces {inner : Reader} {ctx : Context} (hinner : inner.Advances)
    {fuel i : Nat} {p : Nat × Blocks} (hp : p ∈ pieces inner ctx ctx.limit fuel i) :
    p.2.tokens.isEmpty = true ↔ definition? ctx p.1 = some p.2 := by
  induction fuel generalizing i with
  | zero => cases hp
  | succ fuel ih =>
      rcases pieces_cases inner ctx fuel i with ⟨hnone, -⟩ | ⟨m, -, hm, -, hpieces⟩
      · rw [hnone] at hp
        cases hp
      · rw [hpieces] at hp
        rcases List.mem_cons.mp hp with rfl | hp
        · constructor
          · intro hempty
            rcases block_spec ctx hinner hm (Nat.le_refl ctx.limit) with ⟨hdefinition, -⟩ | hpiece
            · exact hdefinition
            · rw [hpiece.isEmpty_tokens] at hempty
              cases hempty
          · intro hdefinition
            rw [(definition?_spec hm hdefinition).1]
            rfl
        · exact ih hp

/-- The lines of definitions are those of the first block, if it is one, and later ones. -/
theorem mem_linesWithoutTokens_cons (i : Nat) (b : Blocks) (ps : List (Nat × Blocks)) (j : Nat) :
    j ∈ linesWithoutTokens ((i, b) :: ps) ↔
      b.tokens.isEmpty = true ∧ i ≤ j ∧ j < b.next ∨ j ∈ linesWithoutTokens ps := by
  unfold linesWithoutTokens
  rw [List.flatMap_cons, List.mem_append]
  refine or_congr_left ?_
  split
  · next h =>
      rw [List.mem_range'_1]
      simp only [h, true_and]
      omega
  · next h => simp [h]

/-- The lines of definitions come no earlier than the first block. -/
theorem le_of_mem_linesWithoutTokens {inner : Reader} {ctx : Context} (hinner : inner.Advances)
    (fuel : Nat) {i j : Nat} (hj : j ∈ linesWithoutTokens (pieces inner ctx ctx.limit fuel i)) :
    i ≤ j := by
  induction fuel generalizing i with
  | zero => cases hj
  | succ fuel ih =>
      rcases pieces_cases inner ctx fuel i with ⟨hnone, -⟩ | ⟨m, hlow, hm, -, hpieces⟩
      · rw [hnone] at hj
        cases hj
      · rw [hpieces, mem_linesWithoutTokens_cons] at hj
        have hnext := (block_isRun ctx hinner hm (Nat.le_refl _)).2
        have hbehind := (behind_spec ctx ctx.limit (block inner ctx m ctx.limit).next).1
        rcases hj with ⟨-, hmj, -⟩ | hj
        · exact Nat.le_trans hlow hmj
        · have hrest := ih hj
          omega

/-- Balanced tokens whose heads stand for lines of a container from line `i` on; the other lines are
empty or among the lines `defined`. -/
def Covers (ctx : Context) (defined : List Nat) (i : Nat) (ts : List Token) : Prop :=
  ∃ heads, Balanced ts heads ∧ (∀ t ∈ heads, ∃ start next, Heads start next t) ∧
    Tiling (fun j => (ctx.line j).isEmpty = true ∨ j ∈ defined) (· ∉ defined) ctx.limit i
      (heads.map (·.lines))

section Covers

variable {ctx : Context} {defined : List Nat} {i m : Nat} {ts : List Token}

theorem Covers.nil (hempty : ∀ j, i ≤ j → j < ctx.limit → (ctx.line j).isEmpty = true) :
    Covers ctx defined i [] :=
  ⟨[], .nil, List.forall_mem_nil _, fun j hij hj => Or.inl (hempty j hij hj)⟩

theorem Covers.extend (h : Covers ctx defined m ts) (him : i ≤ m)
    (hpassed : ∀ j, i ≤ j → j < m → (ctx.line j).isEmpty = true ∨ j ∈ defined) :
    Covers ctx defined i ts := by
  obtain ⟨heads, hbalanced, hheads, htiling⟩ := h
  exact ⟨heads, hbalanced, hheads, htiling.extend him hpassed⟩

/-- A block with tokens in front of what covers the lines behind it. -/
theorem Covers.cons {one : Blocks} (h : Covers ctx defined one.next ts)
    (hone : IsPiece m ctx.limit one) (him : i ≤ m)
    (hempty : ∀ j, i ≤ j → j < m → (ctx.line j).isEmpty = true)
    (hfree : ∀ j, m ≤ j → j < one.next → j ∉ defined) :
    Covers ctx defined i (one.tokens ++ ts) := by
  obtain ⟨heads, hbalanced, hheads, htiling⟩ := h
  obtain ⟨t, ht, hhead⟩ := hone.head
  refine ⟨t :: heads, ht.append hbalanced, List.forall_mem_cons.mpr ⟨⟨_, _, hhead⟩, hheads⟩, ?_⟩
  exact ⟨m, one.next, hhead.lines, him, hone.advances, hone.within,
    fun j hij hj => Or.inl (hempty j hij hj), hfree, htiling⟩

/-- One step: a block in front of what covers the lines behind it. If it has no tokens, its lines
are among those `defined`. -/
theorem Covers.block {one : Blocks} {back : Nat} (h : Covers ctx defined back ts)
    (hspec : one.tokens = [] ∨ IsPiece m ctx.limit one) (him : i ≤ m) (hone : m ≤ one.next)
    (hback : one.next ≤ back) (hfront : ∀ j, i ≤ j → j < m → (ctx.line j).isEmpty = true)
    (hbehind : ∀ j, one.next ≤ j → j < back → (ctx.line j).isEmpty = true)
    (hdefined : ∀ j, m ≤ j → j < one.next → (j ∈ defined ↔ one.tokens.isEmpty = true)) :
    Covers ctx defined i (one.tokens ++ ts) := by
  have hrest : Covers ctx defined one.next ts :=
    h.extend hback fun j hj₁ hj₂ => Or.inl (hbehind j hj₁ hj₂)
  -- a block without tokens leaves its lines to the definitions, any other one covers them
  rcases hspec with htokens | hpiece
  · rw [htokens, List.nil_append]
    refine hrest.extend (Nat.le_trans him hone) fun j hij hj => ?_
    rcases Nat.lt_or_ge j m with hlt | hge
    · exact Or.inl (hfront j hij hlt)
    · exact Or.inr ((hdefined j hge hj).mpr (by rw [htokens]; rfl))
  · refine hrest.cons hpiece him hfront fun j hj₁ hj₂ hmem => ?_
    have hnone := (hdefined j hj₁ hj₂).mp hmem
    rw [hpiece.isEmpty_tokens] at hnone
    cases hnone

end Covers

/-- The blocks of a text cover its lines, all but the empty ones and those of definitions. -/
theorem covers_pieces {inner : Reader} {ctx : Context} (hinner : inner.Advances)
    (hctx : ctx.IsText) {fuel i : Nat} (hi : i ≤ ctx.limit) (hfuel : ctx.limit - i < fuel)
    (defined : List Nat)
    (hdefined : ∀ j, i ≤ j →
      (j ∈ defined ↔ j ∈ linesWithoutTokens (pieces inner ctx ctx.limit fuel i))) :
    Covers ctx defined i ((pieces inner ctx ctx.limit fuel i).flatMap fun p => p.2.tokens) := by
  induction fuel generalizing i with
  | zero => omega
  | succ fuel ih =>
      rcases pieces_cases inner ctx fuel i with ⟨hnone, hempty⟩ | ⟨m, hlow, hm, hskipped, hpieces⟩
      · rw [hnone]
        exact Covers.nil (hempty hctx)
      · rw [hpieces] at hdefined ⊢
        have hspec := (block_spec ctx hinner hm (Nat.le_refl ctx.limit)).imp_left fun h => h.2.1
        obtain ⟨hrun, hnext⟩ := block_isRun ctx hinner hm (Nat.le_refl ctx.limit)
        have hwithin := hrun.within
        generalize block inner ctx m ctx.limit = one at *
        obtain ⟨hbehind, hbound, hempty⟩ := behind_spec ctx ctx.limit one.next
        -- later definitions come behind the first block
        have hlater : ∀ j ∈ linesWithoutTokens (pieces inner ctx ctx.limit fuel
            (behind ctx ctx.limit one.next)), behind ctx ctx.limit one.next ≤ j :=
          fun j hj => le_of_mem_linesWithoutTokens hinner fuel hj
        simp only [mem_linesWithoutTokens_cons] at hdefined
        have hrest := ih (i := behind ctx ctx.limit one.next) (by omega) (by omega) (by
          intro j hj
          rw [hdefined j (by omega)]
          refine ⟨fun h => h.resolve_left fun hmem => ?_, Or.inr⟩
          exact absurd hmem.2.2 (Nat.not_lt.mpr (Nat.le_trans hbehind hj)))
        rw [List.flatMap_cons]
        refine hrest.block hspec hlow (Nat.le_of_lt hnext) hbehind hskipped hempty
          fun j hj₁ hj₂ => ?_
        rw [hdefined j (Nat.le_trans hlow hj₁)]
        refine ⟨fun h => ?_, fun h => Or.inl ⟨h, hj₁, hj₂⟩⟩
        rcases h with h | hmem
        · exact h.1
        · exact absurd hj₂ (Nat.not_lt.mpr (Nat.le_trans hbehind (hlater j hmem)))

end Block

/-! ## Whole texts -/

/-- The lines of a text, counted from zero, that belong to reference definitions outside all
containers: no token stands for them. -/
def definitionLines (preset : Preset) (cs : List Char) : List Nat :=
  Block.linesWithoutTokens (Block.textPieces preset (normalizeSource cs))

/-- The lines without tokens are those from which a reference definition was read. -/
theorem mem_definitionLines {preset : Preset} {cs : List Char} {j : Nat} :
    j ∈ definitionLines preset cs ↔
      ∃ p ∈ Block.textPieces preset (normalizeSource cs),
        Block.definition? (Block.textContext preset (normalizeSource cs)) p.1 = some p.2 ∧
          p.1 ≤ j ∧ j < p.2.next := by
  unfold definitionLines Block.linesWithoutTokens
  rw [List.mem_flatMap]
  refine exists_congr fun p => and_congr_right fun hp => ?_
  rw [← Block.isEmpty_tokens_iff_of_mem_pieces (Block.advances_blocks preset.maxNesting) hp]
  split
  · next hempty =>
      rw [List.mem_range'_1, and_iff_right hempty]
      omega
  · next htokens => exact ⟨fun hj => (List.not_mem_nil hj).elim, fun hj => absurd hj.1 htokens⟩

end MarkdownSections.Markdown
