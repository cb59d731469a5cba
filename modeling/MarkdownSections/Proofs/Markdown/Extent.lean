import MarkdownSections.Markdown.Block.Container
import MarkdownSections.Proofs.Document.Balance

/-!
# How far blocks reach

A block that is read at a line takes up this line at least and ends in front of the limit of its
container, and its tokens are one leaf or one pair that stands for these lines (`IsPiece`); only a
reference definition has no tokens. The functions that look for the end of a leaf block go forward
line by line, so the bounds hold for each of them by induction on the count of lines left. The kind
of block that a line opens is found out once, for all that is proved kind by kind (`BlockAt`).
-/

set_option autoImplicit false

namespace MarkdownSections.Markdown.Block

/-! ## Blocks with tokens -/

/-- A token that stands for the lines from `start` up to `next`; if it opens a heading, then one of
the levels one to six. -/
structure Heads (start next : Nat) (t : Token) : Prop where
  lines : t.lines = lineRange start next
  level : t.nodeType = "heading" →
    ∃ level, 1 ≤ level ∧ level ≤ 6 ∧ t.tag = "h" ++ Text.showNat level

/-- A block of lines from `start` on that end at `limit` at the latest, whose tokens have one head,
which stands for these lines. -/
structure IsPiece (start limit : Nat) (b : Blocks) : Prop where
  advances : start < b.next
  within : b.next ≤ limit
  head : ∃ t, Balanced b.tokens [t] ∧ Heads start b.next t

theorem nodeType_opening {name tag : String} {level : Nat} {lines : Option (Int × Int)}
    {attributes : List (String × Json)} :
    ({ type := name ++ "_open", tag, nesting := 1, level, lines, attributes } : Token).nodeType =
      name := by
  have hpair : ¬(1 : Int) = 0 := by decide
  exact (if_neg hpair).trans (Node.pairType_open name)

/-- A leaf is the head of its block. -/
theorem exists_head_leaf {t : Token} {start next : Nat} (hnesting : t.nesting = 0)
    (hlines : t.lines = lineRange start next) (htype : t.type ≠ "heading") :
    ∃ head, Balanced [t] [head] ∧ Heads start next head := by
  refine ⟨t, Balanced.single hnesting, hlines, fun h => absurd h ?_⟩
  rw [Token.nodeType, if_pos hnesting]
  exact htype

/-- The opening token is the head of a pair. -/
theorem exists_head_enclose {inner within : List Token} (hinner : Balanced inner within)
    {name tag : String} (level : Nat) {start next : Nat} (attributes : List (String × Json))
    (htype : name = "heading" → ∃ n, 1 ≤ n ∧ n ≤ 6 ∧ tag = "h" ++ Text.showNat n) :
    ∃ head, Balanced (enclose name tag level (lineRange start next) attributes inner) [head] ∧
      Heads start next head := by
  refine ⟨_, hinner.enclose name tag level _ attributes, rfl, fun h => htype ?_⟩
  rw [nodeType_opening] at h
  exact h

/-- The opening token of any other pair is its head. -/
theorem exists_head_pair {inner within : List Token} (hinner : Balanced inner within)
    {name tag : String} (htype : name ≠ "heading") (level : Nat) {start next : Nat}
    (attributes : List (String × Json)) :
    ∃ head, Balanced (enclose name tag level (lineRange start next) attributes inner) [head] ∧
      Heads start next head :=
  exists_head_enclose hinner level attributes fun h => absurd h htype

theorem balanced_inlineToken (level : Nat) (lines : Option (Int × Int)) (cs : List Char) :
    Balanced [inlineToken level lines cs] [inlineToken level lines cs] :=
  Balanced.single rfl

/-! ## Leaf blocks -/

section Leaves

variable {ctx : Context} {start stop : Nat} {b : Blocks}

theorem codeEnd_bounds (ctx : Context) {found i : Nat} (hfound : found ≤ i) (count : Nat) :
    found ≤ codeEnd ctx found i count ∧ codeEnd ctx found i count ≤ i + count := by
  induction count generalizing found i with
  | zero => exact ⟨Nat.le_refl found, hfound⟩
  | succ count ih =>
      simp only [codeEnd]
      split
      · obtain ⟨hlow, hhigh⟩ := ih (show found ≤ i + 1 by omega)
        exact ⟨hlow, by omega⟩
      · split
        · obtain ⟨hlow, hhigh⟩ := ih (Nat.le_refl (i + 1))
          exact ⟨by omega, by omega⟩
        · exact ⟨Nat.le_refl found, by omega⟩

theorem codeBlock?_isPiece (hstart : start < stop) (h : codeBlock? ctx start stop = some b) :
    IsPiece start stop b := by
  unfold codeBlock? at h
  split at h
  · obtain ⟨hlow, hhigh⟩ := codeEnd_bounds ctx (Nat.le_refl (start + 1)) (stop - (start + 1))
    obtain rfl := Option.some.inj h
    exact ⟨hlow, by simp only; omega,
      exists_head_leaf rfl rfl (show "code_block" ≠ "heading" by decide)⟩
  · cases h

theorem fenceEnd_bounds (ctx : Context) (fence : Fence) (i count : Nat) :
    i ≤ (fenceEnd ctx fence i count).1 ∧
      (fenceEnd ctx fence i count).1 + (if (fenceEnd ctx fence i count).2 then 1 else 0) ≤
        i + count := by
  induction count generalizing i with
  | zero => exact ⟨Nat.le_refl i, Nat.le_refl i⟩
  | succ count ih =>
      simp only [fenceEnd]
      split
      · exact ⟨Nat.le_refl i, by simp⟩
      · split
        · exact ⟨Nat.le_refl i, by simp⟩
        · obtain ⟨hlow, hhigh⟩ := ih (i + 1)
          exact ⟨by omega, by omega⟩

theorem fencedCode?_isPiece (hstart : start < stop) (h : fencedCode? ctx start stop = some b) :
    IsPiece start stop b := by
  unfold fencedCode? at h
  obtain ⟨fence, -, rfl⟩ := Option.map_eq_some_iff.mp h
  obtain ⟨hlow, hhigh⟩ := fenceEnd_bounds ctx fence (start + 1) (stop - (start + 1))
  refine ⟨?_, ?_, exists_head_leaf rfl rfl (show "fence" ≠ "heading" by decide)⟩
  · simp only
    split <;> omega
  · -- a fence that is closed takes up the line that closes it, too
    simp only
    cases hclosed : (fenceEnd ctx fence (start + 1) (stop - (start + 1))).2 with
    | true =>
        rw [hclosed, if_pos rfl] at hhigh
        rw [if_pos rfl]
        omega
    | false =>
        rw [if_neg Bool.false_ne_true]
        omega

theorem thematicBreak?_isPiece (hstart : start < stop) (h : thematicBreak? ctx start = some b) :
    IsPiece start stop b := by
  unfold thematicBreak? at h
  split at h
  · obtain rfl := Option.some.inj h
    exact ⟨Nat.lt_succ_self start, hstart,
      exists_head_leaf rfl rfl (show "hr" ≠ "heading" by decide)⟩
  · cases h

/-- The tokens of a heading of one of the six levels. -/
theorem exists_head_headingTokens (ctx : Context) {level start next : Nat} (hlow : 1 ≤ level)
    (hhigh : level ≤ 6) (textLines : Option (Int × Int)) (text : List Char) :
    ∃ head, Balanced (headingTokens ctx level (lineRange start next) textLines text) [head] ∧
      Heads start next head :=
  exists_head_enclose (balanced_inlineToken _ _ _) ctx.level [] fun _ => ⟨level, hlow, hhigh, rfl⟩

theorem level_of_headingText? {cs rest : List Char} {level : Nat}
    (h : headingText? cs = some (level, rest)) : 1 ≤ level ∧ level ≤ 6 := by
  simp only [headingText?] at h
  split at h
  · next hlevel =>
      obtain ⟨rfl, -⟩ := Prod.mk.inj (Option.some.inj h)
      simp only [Bool.and_eq_true, decide_eq_true_eq] at hlevel
      exact hlevel.1
  · cases h

theorem markedHeading?_isPiece (hstart : start < stop) (h : markedHeading? ctx start = some b) :
    IsPiece start stop b := by
  unfold markedHeading? at h
  obtain ⟨⟨level, rest⟩, hheading, rfl⟩ := Option.map_eq_some_iff.mp h
  unfold heading? at hheading
  split at hheading
  · cases hheading
  · obtain ⟨hlow, hhigh⟩ := level_of_headingText? hheading
    exact ⟨Nat.lt_succ_self start, hstart, exists_head_headingTokens ctx hlow hhigh _ _⟩

/-- An underline makes a heading of level one or two. -/
theorem underline?_level {l : Line} {level : Nat} (h : underline? ctx l = some level) :
    level = 1 ∨ level = 2 := by
  unfold underline? at h
  split at h
  · split at h
    · split at h
      · exact Or.inl (Option.some.inj h).symm
      · exact Or.inr (Option.some.inj h).symm
    · cases h
  · cases h

theorem underlineFrom?_bounds {i count last level : Nat}
    (h : underlineFrom? ctx stop i count = some (last, level)) :
    i ≤ last ∧ last < i + count ∧ 1 ≤ level ∧ level ≤ 6 := by
  induction count generalizing i with
  | zero => cases h
  | succ count ih =>
      have hfurther : underlineFrom? ctx stop (i + 1) count = some (last, level) →
          i ≤ last ∧ last < i + (count + 1) ∧ 1 ≤ level ∧ level ≤ 6 := by
        intro hrest
        obtain ⟨hlow, hhigh, hlevel⟩ := ih hrest
        exact ⟨by omega, by omega, hlevel⟩
      -- a line is an underline, or it is passed, or it ends the search
      simp only [underlineFrom?] at h
      split at h
      · cases h
      · split at h
        · exact hfurther h
        · split at h
          · next level' hunderline =>
              obtain ⟨rfl, rfl⟩ := Prod.mk.inj (Option.some.inj h)
              have hlevel := underline?_level hunderline
              exact ⟨Nat.le_refl i, by omega, by omega, by omega⟩
          · split at h
            · cases h
            · exact hfurther h

theorem underlinedHeading?_isPiece (hstart : start < stop)
    (h : underlinedHeading? ctx start stop = some b) : IsPiece start stop b := by
  unfold underlinedHeading? at h
  split at h
  · cases h
  · obtain ⟨⟨last, level⟩, hunderline, rfl⟩ := Option.map_eq_some_iff.mp h
    obtain ⟨hlow, hhigh, hone, hsix⟩ := underlineFrom?_bounds hunderline
    exact ⟨by simp only; omega, by simp only; omega, exists_head_headingTokens ctx hone hsix _ _⟩

theorem htmlEnd_bounds (ctx : Context) (kind : Html.BlockStart) (i count : Nat) :
    i ≤ htmlEnd ctx kind i count ∧ htmlEnd ctx kind i count ≤ i + count := by
  induction count generalizing i with
  | zero => exact ⟨Nat.le_refl i, Nat.le_refl i⟩
  | succ count ih =>
      simp only [htmlEnd]
      split
      · exact ⟨Nat.le_refl i, by omega⟩
      · split
        · split
          · exact ⟨Nat.le_refl i, by omega⟩
          · exact ⟨by omega, by omega⟩
        · obtain ⟨hlow, hhigh⟩ := ih (i + 1)
          exact ⟨by omega, by omega⟩

theorem htmlBlock?_isPiece (hstart : start < stop) (h : htmlBlock? ctx start stop = some b) :
    IsPiece start stop b := by
  unfold htmlBlock? at h
  obtain ⟨kind, -, rfl⟩ := Option.map_eq_some_iff.mp h
  obtain ⟨hlow, hhigh⟩ := htmlEnd_bounds ctx kind (start + 1) (stop - (start + 1))
  have hnext : ∀ closed : Bool,
      start < (if closed then start + 1 else htmlEnd ctx kind (start + 1) (stop - (start + 1))) ∧
        (if closed then start + 1 else htmlEnd ctx kind (start + 1) (stop - (start + 1))) ≤
          stop := by
    intro closed
    split
    · exact ⟨Nat.lt_succ_self start, hstart⟩
    · exact ⟨hlow, by omega⟩
  exact ⟨(hnext _).1, (hnext _).2,
    exists_head_leaf rfl rfl (show "html_block" ≠ "heading" by decide)⟩

theorem paragraphEnd_bounds (ctx : Context) (i count : Nat) :
    i ≤ paragraphEnd ctx i count ∧ paragraphEnd ctx i count ≤ i + count := by
  induction count generalizing i with
  | zero => exact ⟨Nat.le_refl i, Nat.le_refl i⟩
  | succ count ih =>
      obtain ⟨hlow, hhigh⟩ := ih (i + 1)
      simp only [paragraphEnd]
      split
      · exact ⟨Nat.le_refl i, by omega⟩
      · split
        · exact ⟨by omega, by omega⟩
        · split
          · exact ⟨Nat.le_refl i, by omega⟩
          · exact ⟨by omega, by omega⟩

theorem paragraph_isPiece (hstart : start < ctx.limit) :
    IsPiece start ctx.limit (paragraph ctx start) := by
  obtain ⟨hlow, hhigh⟩ := paragraphEnd_bounds ctx (start + 1) (ctx.limit - (start + 1))
  refine ⟨hlow, ?_, exists_head_pair (balanced_inlineToken _ _ _) (by decide) ctx.level []⟩
  simp only [paragraph]
  omega

/-! ## Tables -/

/-- The cells of a row are pairs, and so is the row. -/
theorem balanced_rowTokens (name : String) (level i : Nat) (alignments : List String)
    (cells : List (List Char)) :
    ∃ heads, Balanced (rowTokens name level i alignments cells) heads := by
  obtain ⟨heads, hcells⟩ := Balanced.flatMap (l := cells.zip alignments)
    (f := fun p => enclose name name (level + 1) none (cellAttributes p.2)
      [inlineToken (level + 2) (lineRange i (i + 1)) p.1])
    fun p _ => ⟨_, (balanced_inlineToken _ _ _).enclose _ _ _ _ _⟩
  exact ⟨_, hcells.enclose "tr" "tr" level _ []⟩

theorem tableRows_spec (ctx : Context) (alignments : List String) (stop : Nat) (filled : Int)
    (i count : Nat) :
    (∃ heads, Balanced (tableRows ctx alignments stop filled i count).1 heads) ∧
      i ≤ (tableRows ctx alignments stop filled i count).2 ∧
      (tableRows ctx alignments stop filled i count).2 ≤ i + count := by
  induction count generalizing filled i with
  | zero => exact ⟨⟨[], .nil⟩, Nat.le_refl i, Nat.le_refl i⟩
  | succ count ih =>
      simp only [tableRows]
      split
      · exact ⟨⟨[], .nil⟩, Nat.le_refl i, by simp⟩
      · obtain ⟨⟨rest, hrest⟩, hlow, hhigh⟩ := ih _ (i + 1)
        obtain ⟨row, hrow⟩ := balanced_rowTokens "td" (ctx.level + 2) i alignments
          (fitCells alignments.length (rowCells (ctx.line i).content))
        exact ⟨⟨row ++ rest, hrow.append hrest⟩, by omega, by omega⟩

theorem lt_of_tableStart? {found : List (List Char) × List String}
    (h : tableStart? ctx start stop = some found) : start + 2 ≤ stop := by
  unfold tableStart? at h
  by_contra hlt
  rw [if_pos (by simp; omega)] at h
  cases h

theorem table?_isPiece (h : table? ctx start stop = some b) : IsPiece start stop b := by
  unfold table? at h
  obtain ⟨⟨headers, alignments⟩, hfound, rfl⟩ := Option.map_eq_some_iff.mp h
  have hstart := lt_of_tableStart? hfound
  obtain ⟨⟨rows, hrows⟩, hlow, hhigh⟩ :=
    tableRows_spec ctx alignments stop 0 (start + 2) (stop - (start + 2))
  obtain ⟨header, hheader⟩ := balanced_rowTokens "th" (ctx.level + 2) start alignments
    (fitCells alignments.length headers)
  refine ⟨by simp only; omega, by simp only; omega, ?_⟩
  -- a table without data rows has no body
  have hbody : ∃ heads, Balanced (if (tableRows ctx alignments stop 0 (start + 2)
      (stop - (start + 2))).1.isEmpty then [] else
        enclose "tbody" "tbody" (ctx.level + 1)
          (lineRange (start + 2)
            (tableRows ctx alignments stop 0 (start + 2) (stop - (start + 2))).2) []
          (tableRows ctx alignments stop 0 (start + 2) (stop - (start + 2))).1) heads := by
    split
    · exact ⟨[], .nil⟩
    · exact ⟨_, hrows.enclose _ _ _ _ _⟩
  obtain ⟨body, hbody⟩ := hbody
  exact exists_head_pair ((hheader.enclose _ _ _ _ _).append hbody) (by decide) ctx.level []

end Leaves

/-! ## Definitions -/

/-- A line number moved on, but not beyond the limit of a container unless it was there before. -/
def MovesOn (ctx : Context) (i j : Nat) : Prop :=
  i ≤ j ∧ j ≤ max i ctx.limit

section Definitions

variable {ctx : Context}

theorem MovesOn.refl (ctx : Context) (i : Nat) : MovesOn ctx i i :=
  ⟨Nat.le_refl i, Nat.le_max_left i ctx.limit⟩

theorem MovesOn.trans {i j k : Nat} (h : MovesOn ctx i j) (h' : MovesOn ctx j k) :
    MovesOn ctx i k := by
  unfold MovesOn at *
  omega

theorem lt_of_continuation? {i : Nat} {line : List Char} (h : continuation? ctx i = some line) :
    i < ctx.limit := by
  simp only [continuation?] at h
  by_contra hle
  rw [if_pos (by simp; omega)] at h
  cases h

theorem movesOn_of_continuation? {i : Nat} {line : List Char}
    (h : continuation? ctx i = some line) : MovesOn ctx i (i + 1) := by
  have hlt := lt_of_continuation? h
  unfold MovesOn
  omega

theorem movesOn_takeLine (u : Unread) : MovesOn ctx u.next (takeLine ctx u).next := by
  unfold takeLine
  split
  · next hline => exact movesOn_of_continuation? hline
  · exact MovesOn.refl ctx u.next

theorem movesOn_readLabel {fuel : Nat} {u v : Unread} {label : List Char}
    (h : readLabel ctx fuel u = some (label, v)) : MovesOn ctx u.next v.next := by
  induction fuel generalizing u label with
  | zero => cases h
  | succ fuel ih =>
      have hstep : ∀ {front : List Char} {u' : Unread}, MovesOn ctx u.next u'.next →
          ((readLabel ctx fuel u').map fun p => (front ++ p.1, p.2)) = some (label, v) →
            MovesOn ctx u.next v.next := by
        intro front u' hu' hmap
        obtain ⟨⟨label', v'⟩, hlabel, heq⟩ := Option.map_eq_some_iff.mp hmap
        cases heq
        exact hu'.trans (ih hlabel)
      -- a character of the label stays on its line, and a line feed goes to the next one
      simp only [readLabel] at h
      split at h
      · cases h
      · cases h
      · obtain ⟨-, rfl⟩ := Prod.mk.inj (Option.some.inj h)
        exact MovesOn.refl ctx u.next
      · next rest _ => exact hstep (movesOn_takeLine { u with text := rest }) h
      · next rest _ => exact hstep (movesOn_takeLine { u with text := rest }) h
      · refine hstep ?_ h
        exact MovesOn.refl ctx u.next
      · refine hstep ?_ h
        exact MovesOn.refl ctx u.next

theorem movesOn_skipBlankLines (fuel : Nat) (u : Unread) :
    MovesOn ctx u.next (skipBlankLines ctx fuel u).next := by
  induction fuel generalizing u with
  | zero => exact MovesOn.refl ctx u.next
  | succ fuel ih =>
      unfold skipBlankLines
      split
      · next rest _ => exact (movesOn_takeLine { u with text := rest }).trans (ih _)
      · next rest _ _ =>
        split
        · exact ih { u with text := rest }
        · exact MovesOn.refl ctx u.next
      · exact MovesOn.refl ctx u.next

theorem movesOn_readLongTitle {closing : Char} {front : List Char} {fuel : Nat} {u v : Unread}
    {title : List Char} (h : readLongTitle ctx closing front fuel u = some (title, v)) :
    MovesOn ctx u.next v.next := by
  induction fuel generalizing front u with
  | zero => cases h
  | succ fuel ih =>
      unfold readLongTitle at h
      split at h
      · obtain ⟨-, rfl⟩ := Prod.mk.inj (Option.some.inj h)
        exact MovesOn.refl ctx u.next
      · cases h
      · split at h
        · next hline => exact (movesOn_of_continuation? hline).trans (ih h)
        · cases h

theorem movesOn_readDefinitionTitle {u v : Unread} {title : List Char}
    (h : readDefinitionTitle ctx u = some (title, v)) : MovesOn ctx u.next v.next := by
  unfold readDefinitionTitle at h
  split at h
  · next rest _ =>
      obtain ⟨closing, -, hlong⟩ := Option.bind_eq_some_iff.mp h
      exact movesOn_readLongTitle (u := { u with text := rest }) hlong
  · cases h

theorem movesOn_finishDefinition {fuel next : Nat} {u : Unread} {title : List Char}
    (h : finishDefinition ctx fuel u = some (title, next)) : MovesOn ctx u.next next := by
  have hwithout : (if lineIsOver u then some ([], u.next) else none) = some (title, next) →
      MovesOn ctx u.next next := by
    intro hnone
    split at hnone
    · obtain ⟨-, rfl⟩ := Prod.mk.inj (Option.some.inj hnone)
      exact MovesOn.refl ctx u.next
    · cases hnone
  -- a title that leaves something behind it on its line is none, unless it stands on a line of its
  -- own
  simp only [finishDefinition] at h
  split at h
  · next htitle =>
      split at h
      · exact hwithout h
      · split at h
        · obtain ⟨-, rfl⟩ := Prod.mk.inj (Option.some.inj h)
          exact (movesOn_skipBlankLines fuel u).trans (movesOn_readDefinitionTitle htitle)
        · split at h
          · cases h
          · exact hwithout h
  · exact hwithout h

theorem definitionText?_spec {u : Unread} {b : Blocks} (h : definitionText? ctx u = some b) :
    b.tokens = [] ∧ MovesOn ctx u.next b.next := by
  simp only [definitionText?] at h
  obtain ⟨⟨label, v⟩, hlabel, hrest⟩ := Option.bind_eq_some_iff.mp h
  have hread := movesOn_readLabel hlabel
  split at hrest
  · next label' rest next hv =>
      obtain ⟨rfl, rfl⟩ := Prod.mk.inj hv
      obtain ⟨⟨destination, rest'⟩, -, hfinish⟩ := Option.bind_eq_some_iff.mp hrest
      obtain ⟨⟨title, next'⟩, hlast, hnonempty⟩ := Option.bind_eq_some_iff.mp hfinish
      split at hnonempty
      · cases hnonempty
      · -- the label, the space behind its colon and the rest each go on where the last one ends
        obtain rfl := Option.some.inj hnonempty
        have hspaced : MovesOn ctx next _ :=
          movesOn_skipBlankLines (characterCount ctx) ⟨rest, next⟩
        have hfinished := movesOn_finishDefinition hlast
        exact ⟨rfl, (MovesOn.trans hread hspaced).trans hfinished⟩
  · cases hrest

/-- A definition has no tokens and takes up lines of its container. -/
theorem definition?_spec {start : Nat} {b : Blocks} (hstart : start < ctx.limit)
    (h : definition? ctx start = some b) :
    b.tokens = [] ∧ start < b.next ∧ b.next ≤ ctx.limit := by
  simp only [definition?] at h
  split at h
  · cases h
  · split at h
    · obtain ⟨htokens, hlow, hhigh⟩ := definitionText?_spec h
      dsimp only at hlow hhigh
      exact ⟨htokens, by omega, by omega⟩
    · cases h

end Definitions

/-! ## Kinds of blocks -/

/-- Which block a line opens: one of a kind whose reader finds it, or a paragraph. -/
inductive BlockAt (inner : Reader) (ctx : Context) (start stop : Nat) : Blocks → Prop
  | table {b : Blocks} (h : table? ctx start stop = some b) : BlockAt inner ctx start stop b
  | codeBlock {b : Blocks} (h : codeBlock? ctx start stop = some b) : BlockAt inner ctx start stop b
  | fencedCode {b : Blocks} (h : fencedCode? ctx start stop = some b) :
    BlockAt inner ctx start stop b
  | quote {b : Blocks} (h : quote? inner ctx start stop = some b) : BlockAt inner ctx start stop b
  | thematicBreak {b : Blocks} (h : thematicBreak? ctx start = some b) :
    BlockAt inner ctx start stop b
  | list {b : Blocks} (h : list? inner ctx start stop = some b) : BlockAt inner ctx start stop b
  | definition {b : Blocks} (h : definition? ctx start = some b) : BlockAt inner ctx start stop b
  | htmlBlock {b : Blocks} (h : htmlBlock? ctx start stop = some b) : BlockAt inner ctx start stop b
  | markedHeading {b : Blocks} (h : markedHeading? ctx start = some b) :
    BlockAt inner ctx start stop b
  | underlinedHeading {b : Blocks} (h : underlinedHeading? ctx start stop = some b) :
    BlockAt inner ctx start stop b
  | paragraph : BlockAt inner ctx start stop (paragraph ctx start)

theorem blockAt_block (inner : Reader) (ctx : Context) (start stop : Nat) :
    BlockAt inner ctx start stop (block inner ctx start stop) := by
  simp only [block]
  split
  · exact .paragraph
  · cases hfound : List.findSome? (fun kind : Unit → Option Blocks => kind ())
      [fun _ => table? ctx start stop, fun _ => codeBlock? ctx start stop,
        fun _ => fencedCode? ctx start stop, fun _ => quote? inner ctx start stop,
        fun _ => thematicBreak? ctx start, fun _ => list? inner ctx start stop,
        fun _ => definition? ctx start, fun _ => htmlBlock? ctx start stop,
        fun _ => markedHeading? ctx start, fun _ => underlinedHeading? ctx start stop] with
    | none => exact .paragraph
    | some b =>
        rw [Option.getD_some]
        obtain ⟨kind, hkind, hb⟩ := List.exists_of_findSome?_eq_some hfound
        simp only [List.mem_cons, List.not_mem_nil, or_false] at hkind
        rcases hkind with rfl | rfl | rfl | rfl | rfl | rfl | rfl | rfl | rfl | rfl
        · exact .table hb
        · exact .codeBlock hb
        · exact .fencedCode hb
        · exact .quote hb
        · exact .thematicBreak hb
        · exact .list hb
        · exact .definition hb
        · exact .htmlBlock hb
        · exact .markedHeading hb
        · exact .underlinedHeading hb

end MarkdownSections.Markdown.Block
