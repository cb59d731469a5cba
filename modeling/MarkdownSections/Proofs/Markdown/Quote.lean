import MarkdownSections.Proofs.Markdown.Paragraph

/-!
# Quotes set apart

A quote sees its lines without their marks (`quoteLines_of_sees`), so the quoted lines of a paragraph
are a quote that holds this paragraph (`block_quote`).
-/

set_option autoImplicit false

namespace MarkdownSections.Markdown.Block

/-- A line behind a quote mark. -/
def quotedChars (cs : List Char) : List Char :=
  '>' :: ' ' :: cs

/-- Whether a line is seen by a quote as it is written behind the mark. -/
def isQuotable (cs : List Char) : Bool :=
  cs.head?.any (!isIndentation ·)

theorem endedLine_quotedChars (cs : List Char) :
    endedLine (quotedChars cs) = { chars := quotedChars cs, ended := true } := by
  simp [endedLine, Line.ofChars, quotedChars, isIndentation, columnAfter]

theorem quotedLine_quotedChars {cs : List Char} (h : isQuotable cs = true) :
    quotedLine (endedLine (quotedChars cs)) = (lineBehind 2 cs, false) := by
  cases cs with
  | nil => cases h
  | cons c rest =>
      have hc : isIndentation c = false := by simpa [isQuotable] using h
      rw [endedLine_quotedChars]
      simp [quotedLine, Line.content, quotedChars, hc, columnAfter, lineBehind, endedLine,
        Line.ofChars]

/-- An array with lines from line `i` on in place of its own. -/
def setLines (lines : Array Line) (i : Nat) : List Line → Array Line
  | [] => lines
  | l :: ls => setLines (lines.setIfInBounds i l) (i + 1) ls

theorem getElem?_setLines_outside {lines : Array Line} {i j : Nat} {ls : List Line}
    (h : j < i ∨ i + ls.length ≤ j) : (setLines lines i ls)[j]? = lines[j]? := by
  induction ls generalizing lines i with
  | nil => rfl
  | cons l ls ih =>
      rw [List.length_cons] at h
      have hne : i ≠ j := by omega
      rw [setLines, ih (by omega)]
      simp [hne]

theorem getElem?_setLines {lines : Array Line} {i k : Nat} {ls : List Line} {l : Line}
    (h : ls[k]? = some l) (hsize : i + ls.length ≤ lines.size) :
    (setLines lines i ls)[i + k]? = some l := by
  -- the lines are set one by one, and later ones do not touch earlier ones
  induction ls generalizing lines i k with
  | nil => simp at h
  | cons x ls ih =>
      rw [List.length_cons] at hsize
      cases k with
      | zero =>
          have hx : x = l := by simpa using h
          have hlt : i < lines.size := by omega
          rw [setLines, getElem?_setLines_outside (by omega)]
          simp [hx, hlt]
      | succ k =>
          have hk : ls[k]? = some l := by simpa using h
          have hplace : i + (k + 1) = i + 1 + k := by omega
          rw [setLines, hplace, ih hk]
          simpa using (by omega : i + 1 + ls.length ≤ lines.size)

section Quote

variable {lines : List Line} {i : Nat}

/-- The lines of a quote up to the empty line behind it. -/
theorem quoteLines_of_sees {ls : List (List Char)} (hls : ∀ cs ∈ ls, isQuotable cs = true)
    (hsees : Sees (topContext lines) i ((ls.map quotedChars ++ [[]]).map endedLine))
    (seen : Array Line) (stop : Nat) (afterEmpty : Bool) {count : Nat} (hcount : ls.length ≤ count) :
    quoteLines (topContext lines) stop seen afterEmpty i count =
      (setLines seen i (ls.map (lineBehind 2)), i + ls.length, false) := by
  -- every line has a mark of its own, so it does not matter what stood in front of it
  induction ls generalizing i seen afterEmpty count with
  | nil =>
      cases count with
      | zero => rfl
      | succ count =>
          have hempty : (topContext lines).line i = endedLine [] := hsees.head
          rw [quoteLines, hempty]
          rfl
  | cons cs ls ih =>
      obtain ⟨count, rfl⟩ : ∃ k, count = k + 1 := ⟨count - 1, by simp at hcount; omega⟩
      rw [List.length_cons] at hcount
      have hline : (topContext lines).line i = endedLine (quotedChars cs) := hsees.head
      have hquoted := quotedLine_quotedChars (hls cs List.mem_cons_self)
      have hrest : quoteLines (topContext lines) stop (seen.setIfInBounds i (lineBehind 2 cs)) false
          (i + 1) count = (setLines (seen.setIfInBounds i (lineBehind 2 cs)) (i + 1)
            (ls.map (lineBehind 2)), i + 1 + ls.length, false) :=
        ih (fun x hx => hls x (List.mem_cons_of_mem cs hx)) hsees.tail _ false (by omega)
      have hcontent : (endedLine (quotedChars cs)).isEmpty = false ∧
          (endedLine (quotedChars cs)).content.head? = some '>' := by
        rw [endedLine_quotedChars]
        exact ⟨rfl, rfl⟩
      have hindent : ((topContext lines).indent : Int) ≤ (endedLine (quotedChars cs)).indent :=
        indent_endedLine _
      have hnext : i + 1 + ls.length = i + (cs :: ls).length := by
        rw [List.length_cons]
        omega
      rw [hnext] at hrest
      simp only [quoteLines, hline, hquoted, hcontent, hindent, hrest]
      rfl

/-- The container of a quote in a text. -/
def quoteContext (lines : List Line) (i : Nat) (ls : List (List Char)) : Context :=
  { topContext lines with
    lines := setLines lines.toArray i (ls.map (lineBehind 2)), level := 1 }

theorem isOuter_quoteContext (lines : List Line) (i : Nat) (ls : List (List Char)) :
    IsOuter (quoteContext lines i ls) :=
  ⟨rfl, rfl, rfl⟩

/-- The quote sees its lines without their marks, and the empty line behind them. -/
theorem sees_quoteContext {ls : List (List Char)} (hlength : i + ls.length < lines.length)
    (hempty : (topContext lines).line (i + ls.length) = endedLine []) :
    Sees (quoteContext lines i ls) i (ls.map (lineBehind 2) ++ [endedLine []]) := by
  intro k l hk
  have hline : (quoteContext lines i ls).line (i + k) =
      ((setLines lines.toArray i (ls.map (lineBehind 2)))[i + k]?).getD {} := by
    simp [Context.line, quoteContext, Array.getD_eq_getD_getElem?]
  rw [hline]
  -- up to its last line the quote sees what was cut out, and behind it the line of the text
  rcases Nat.lt_or_ge k (ls.map (lineBehind 2)).length with hlt | hge
  · rw [List.getElem?_append_left hlt] at hk
    rw [getElem?_setLines hk (by simp; omega)]
    rfl
  · rw [List.getElem?_append_right hge, List.getElem?_singleton] at hk
    split at hk
    · next hzero =>
        have hplace : i + k = i + ls.length := by
          rw [List.length_map] at hge hzero
          omega
        cases hk
        rw [hplace, getElem?_setLines_outside (.inr (by simp)), ← hempty]
        simp [Context.line, topContext, Array.getD_eq_getD_getElem?]
    · cases hk

/-- The tokens of a quote that holds a paragraph. -/
def quoteTokens (i : Nat) (ls : List (List Char)) : List Token :=
  enclose "blockquote" "blockquote" 0 (lineRange i (i + ls.length)) [] (paragraphTokens 1 i ls)

/-- A quote holds the blocks that are read from its lines. -/
theorem quote?_of_sees {inner : Reader} {first : List Char} {more : List (List Char)}
    (hls : ∀ cs ∈ first :: more, isQuotable cs = true)
    (hsees : Sees (topContext lines) i (((first :: more).map quotedChars ++ [[]]).map endedLine))
    (hlength : i + (first :: more).length < lines.length) {inside : Blocks}
    (hinside : inner (quoteContext lines i (first :: more)) i (i + (first :: more).length) =
      inside) :
    quote? inner (topContext lines) i lines.length =
      some { inside with
        tokens := enclose "blockquote" "blockquote" 0 (lineRange i inside.next) []
          inside.tokens } := by
  rw [List.length_cons] at hlength hinside
  have hline : (topContext lines).line i = endedLine (quotedChars first) := hsees.head
  have hopens : opensQuote (topContext lines) ((topContext lines).line i) = true := by
    rw [hline, endedLine_quotedChars]
    rfl
  have hfirst : quotedLine ((topContext lines).line i) = (lineBehind 2 first, false) := by
    rw [hline]
    exact quotedLine_quotedChars (hls first List.mem_cons_self)
  have hnext : i + 1 + more.length = i + (more.length + 1) := by omega
  -- the first line opens the quote, and the others are cut out like it
  have hmore : quoteLines (topContext lines) lines.length
      ((topContext lines).lines.setIfInBounds i (lineBehind 2 first)) false (i + 1)
        (lines.length - (i + 1)) =
          ((quoteContext lines i (first :: more)).lines, i + (more.length + 1), false) := by
    rw [quoteLines_of_sees (fun x hx => hls x (List.mem_cons_of_mem first hx)) hsees.tail _ _ _
      (by omega), hnext]
    rfl
  have halert : alertTitle? (topContext lines) (lineBehind 2 first) = none := rfl
  rw [quote?, if_pos hopens, hfirst]
  simp only [hmore, halert]
  subst hinside
  rfl

/-- A quote of the lines of a paragraph holds the paragraph. -/
theorem blocks_quoteContext {depth : Nat} {ls : List (List Char)}
    (hls : areParagraphLines ls = true)
    (hsees : Sees (quoteContext lines i ls) i (paragraphLines 2 ls))
    (hlength : i + ls.length < lines.length) :
    blocks (depth + 1) (quoteContext lines i ls) i (i + ls.length) =
      { next := i + ls.length, tokens := paragraphTokens 1 i ls } := by
  have hctx := isOuter_quoteContext lines i ls
  have hlimit : i + ls.length ≤ (quoteContext lines i ls).limit := Nat.le_of_lt hlength
  -- the quote holds one block, which ends where the quote ends
  have hone : block (blocks depth) (quoteContext lines i ls) i (i + ls.length) =
      { next := i + ls.length, tokens := paragraphTokens 1 i ls } :=
    block_paragraph hctx hls hsees hlimit
  have hfacts : i < i + ls.length ∧ ((quoteContext lines i ls).line i).isEmpty = false ∧
      0 ≤ ((quoteContext lines i ls).line i).indent := by
    cases ls with
    | nil => cases hls
    | cons first more =>
        have hline : (quoteContext lines i (first :: more)).line i = lineBehind 2 first := hsees.head
        rw [hline, List.length_cons]
        exact ⟨by omega, isEmpty_of_areParagraphLines hls, indent_endedLine first⟩
  obtain ⟨hlt, hcontent, hindent⟩ := hfacts
  have hlevel : (quoteContext lines i ls).level < (quoteContext lines i ls).preset.maxNesting :=
    show 1 < 20 by decide
  have hbehind : behind (quoteContext lines i ls) (i + ls.length) (i + ls.length) =
      i + ls.length := by
    simp [behind]
  change blocksFrom (blocks depth) (quoteContext lines i ls) (i + ls.length)
    (i + ls.length - i + 1) i = _
  rw [blocksFrom_succ hlt hcontent hindent hlevel hone, hbehind,
    blocksFrom_of_left (.inl (Nat.le_refl _))]
  simp

/-- Quoted lines of a paragraph are a quote that holds the paragraph. -/
theorem block_quote {ls : List (List Char)} (hls : areParagraphLines ls = true)
    (hquotable : ∀ cs ∈ ls, isQuotable cs = true)
    (hsees : Sees (topContext lines) i ((ls.map quotedChars ++ [[]]).map endedLine))
    (hlength : i + ls.length < lines.length) :
    block (blocks 20) (topContext lines) i lines.length =
      { next := i + ls.length, tokens := quoteTokens i ls } := by
  cases ls with
  | nil => cases hls
  | cons first more =>
      have hline : (topContext lines).line i = endedLine (quotedChars first) := hsees.head
      -- the quote is read up to the empty line, which the paragraph in it needs as its end
      have hempty : (topContext lines).line (i + (first :: more).length) = endedLine [] := by
        rw [List.map_append] at hsees
        simpa using hsees.right.head
      have hinside : blocks 20 (quoteContext lines i (first :: more)) i
          (i + (first :: more).length) =
            { next := i + (first :: more).length, tokens := paragraphTokens 1 i (first :: more) } :=
        blocks_quoteContext hls (sees_quoteContext hlength hempty) hlength
      have hquote := quote?_of_sees hquotable hsees hlength hinside
      have hcode : (topContext lines).isCode ((topContext lines).line i) = false := by
        apply isCode_eq_false
        rw [hline, endedLine_quotedChars]
      have hl : ((topContext lines).line i).content = '>' :: ' ' :: first := by
        rw [hline, endedLine_quotedChars]
        rfl
      have hfence : fence? (topContext lines) ((topContext lines).line i) = none :=
        fence?_eq_none hl (by decide) (by decide)
      have htable : tableStart? (topContext lines) i lines.length = none := by
        apply tableStart?_eq_none
        cases more with
        | nil =>
            rw [hsees.tail.head]
            rfl
        | cons cs more =>
            rw [hsees.tail.head, endedLine_quotedChars]
            rfl
      rw [block_eq rfl htable hcode]
      simp [fencedCode?, hfence, hquote]
      rfl

end Quote

/-- A quote of a paragraph. -/
def quotePassage (ls : List (List Char)) : Passage :=
  { lines := ls.map quotedChars, tokens := fun i => quoteTokens i ls }

theorem isRead_quote {ls : List (List Char)} (hls : areParagraphLines ls = true)
    (hquotable : ∀ cs ∈ ls, isQuotable cs = true) : (quotePassage ls).IsRead := by
  apply Passage.isRead_of_block rfl
  · cases ls with
    | nil => cases hls
    | cons first more =>
        refine ⟨quotedChars first, more.map quotedChars, rfl, ?_⟩
        rw [endedLine_quotedChars]
        rfl
  · intro lines i hsees hend
    have hcount : (quotePassage ls).lines.length = ls.length := List.length_map _
    rw [Passage.length_written, hcount] at hend
    rw [block_quote hls hquotable hsees (by omega), hcount]
    rfl

end MarkdownSections.Markdown.Block
