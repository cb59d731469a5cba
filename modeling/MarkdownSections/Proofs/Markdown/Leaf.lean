import MarkdownSections.Proofs.Markdown.Passage

/-!
# Leaf blocks set apart

The first character of a line rules out most kinds of blocks. A line of number signs and a title is
a heading (`block_heading`), three hyphens are a rule (`block_rule`), and lines between two fences,
none of which closes the first, are code (`block_code`); so each of them is a passage.
-/

set_option autoImplicit false

namespace MarkdownSections.Markdown.Block

/-! ## What a line does not open -/

theorem content_endedLine_cons {c : Char} (h : isIndentation c = false) (cs : List Char) :
    (endedLine (c :: cs)).content = c :: cs ∧ (endedLine (c :: cs)).indent = 0 := by
  have hblanks : (c :: cs).takeWhile isIndentation = [] :=
    List.takeWhile_cons_of_neg (by simp [h])
  simp [endedLine, Line.ofChars, Line.content, hblanks, columnAfter]

theorem isCode_eq_false {ctx : Context} {l : Line} (h : l.indent = 0) : ctx.isCode l = false := by
  simp only [Context.isCode, h, Bool.and_eq_false_iff, decide_eq_false_iff_not]
  omega

section Starts

variable {ctx : Context} {l : Line} {c : Char} {cs : List Char} (hl : l.content = c :: cs)

include hl

theorem fence?_eq_none (htilde : c ≠ '~') (hbacktick : c ≠ '\x60') : fence? ctx l = none := by
  simp [fence?, hl, fenceText?, htilde, hbacktick]

theorem opensQuote_eq_false (h : c ≠ '>') : opensQuote ctx l = false := by
  simp [opensQuote, hl, h]

theorem isRule_eq_false (h : c ∉ ['*', '-', '_']) : isRule ctx l = false := by
  simp only [List.mem_cons, List.not_mem_nil, or_false, not_or] at h
  simp [isRule, hl, isRuleText, h]

theorem listStart?_eq_none (hdigit : c.isDigit = false) (h : c ∉ ['*', '-', '+'])
    (inParagraph : Bool) : listStart? ctx l inParagraph = none := by
  simp only [List.mem_cons, List.not_mem_nil, or_false, not_or] at h
  have hnumber : numberMarker? (c :: cs) = none := by
    simp [numberMarker?, hdigit]
  simp [listStart?, hl, listMarker?, hnumber, bulletMarker?, h]

theorem htmlStart?_eq_none (h : c ≠ '<') : htmlStart? ctx l = none := by
  simp [htmlStart?, hl, Html.blockStart?, h]

theorem heading?_eq_none (h : c ≠ '#') : heading? ctx l = none := by
  simp [heading?, hl, headingText?, h]

end Starts

theorem tableStart?_eq_none {ctx : Context} {i stop : Nat}
    (h : isDelimiterRow (ctx.line (i + 1)).content = false) : tableStart? ctx i stop = none := by
  simp [tableStart?, h]

theorem tableStart?_eq_none_of_header {ctx : Context} {i stop : Nat}
    (h : '|' ∉ (ctx.line i).content) : tableStart? ctx i stop = none := by
  simp [tableStart?, h]

theorem definition?_eq_none {ctx : Context} {i : Nat} {c : Char} {cs : List Char}
    (hl : (ctx.line i).content = c :: cs) (h : c ≠ '[') : definition? ctx i = none := by
  simp [definition?, contentLine, hl, h]

/-- Where a line starts no table and is not indented like code, the kinds behind these are tried. -/
theorem block_eq {inner : Reader} {ctx : Context} {i stop : Nat} (hcore : ctx.preset.core = true)
    (htable : tableStart? ctx i stop = none) (hcode : ctx.isCode (ctx.line i) = false) :
    block inner ctx i stop =
      ([fencedCode? ctx i stop, quote? inner ctx i stop, thematicBreak? ctx i,
        list? inner ctx i stop, definition? ctx i, htmlBlock? ctx i stop, markedHeading? ctx i,
        underlinedHeading? ctx i stop].findSome? id).getD (paragraph ctx i) := by
  simp [block, hcore, table?, htable, codeBlock?, hcode, List.findSome?]

theorem headingText?_signs {level : Nat} (hlow : 1 ≤ level) (hhigh : level ≤ 6)
    (title : List Char) :
    headingText? (List.replicate level '#' ++ ' ' :: title) = some (level, ' ' :: title) := by
  have hsigns : (List.replicate level '#' ++ ' ' :: title).takeWhile (· = '#') =
      List.replicate level '#' := by
    rw [List.takeWhile_append_of_pos (by simp), List.takeWhile_cons_of_neg (by decide),
      List.append_nil]
  simp only [headingText?, hsigns, List.length_replicate, List.drop_left']
  simp [hlow, hhigh]
  rfl

/-! ## One block between empty lines -/

section Blocks

variable {lines : List Line} {inner : Reader} {i stop : Nat}

theorem isDelimiterRow_of_next {rest : List Line}
    (hsees : Sees (topContext lines) (i + 1) (endedLine [] :: rest)) :
    isDelimiterRow ((topContext lines).line (i + 1)).content = false := by
  rw [hsees.head]
  rfl

/-- A line of number signs and a title is a heading. -/
theorem block_heading {level : Nat} (hlow : 1 ≤ level) (hhigh : level ≤ 6) {title : List Char}
    (hsees : Sees (topContext lines) i
      [endedLine (List.replicate level '#' ++ ' ' :: title), endedLine []]) :
    block inner (topContext lines) i stop =
      { next := i + 1
        tokens := headingTokens (topContext lines) level (lineRange i (i + 1))
          (lineRange i (i + 1)) (trimText (withoutClosingSigns (' ' :: title))) } := by
  obtain ⟨n, rfl⟩ : ∃ n, level = n + 1 := ⟨level - 1, by omega⟩
  have hfacts := content_endedLine_cons (show isIndentation '#' = false from rfl)
    (List.replicate n '#' ++ ' ' :: title)
  rw [← List.cons_append, ← List.replicate_succ, ← hsees.head] at hfacts
  obtain ⟨hcontent, hindent⟩ := hfacts
  have hl : ((topContext lines).line i).content =
      '#' :: (List.replicate n '#' ++ ' ' :: title) := hcontent
  have hcode : (topContext lines).isCode ((topContext lines).line i) = false :=
    isCode_eq_false hindent
  have hheading : heading? (topContext lines) ((topContext lines).line i) =
      some (n + 1, ' ' :: title) := by
    simp [heading?, hcode, hcontent, headingText?_signs hlow hhigh]
  rw [block_eq rfl (tableStart?_eq_none (isDelimiterRow_of_next hsees.tail)) hcode]
  have hfence : fence? (topContext lines) ((topContext lines).line i) = none :=
    fence?_eq_none hl (by decide) (by decide)
  have hlist : listStart? (topContext lines) ((topContext lines).line i) false = none :=
    listStart?_eq_none hl rfl (by decide) false
  simp [fencedCode?, hfence, quote?, opensQuote_eq_false hl, thematicBreak?,
    isRule_eq_false hl, list?, hlist, definition?_eq_none hl, htmlBlock?, htmlStart?_eq_none hl,
    markedHeading?, hheading]

/-- Three hyphens are a thematic break. -/
theorem block_rule (hsees : Sees (topContext lines) i [endedLine ['-', '-', '-'], endedLine []]) :
    block inner (topContext lines) i stop =
      { next := i + 1
        tokens := [{ type := "hr", tag := "hr", lines := lineRange i (i + 1) }] } := by
  have hrule : isRule (topContext lines) ((topContext lines).line i) = true := by
    rw [hsees.head]
    rfl
  have hcode : (topContext lines).isCode ((topContext lines).line i) = false := by
    rw [hsees.head]
    rfl
  have hfence : fence? (topContext lines) ((topContext lines).line i) = none := by
    rw [hsees.head]
    rfl
  have hquote : opensQuote (topContext lines) ((topContext lines).line i) = false := by
    rw [hsees.head]
    rfl
  rw [block_eq rfl (tableStart?_eq_none (isDelimiterRow_of_next hsees.tail)) hcode]
  simp [fencedCode?, hfence, quote?, hquote, thematicBreak?, hrule]
  rfl

/-- A line that closes a fence of three backticks. -/
def isClosingFence (cs : List Char) : Bool :=
  closesFence (topContext []) ⟨'\x60', 3, []⟩ (endedLine cs)

theorem fenceEnd_of_sees {info : List Char} {code : List (List Char)}
    (hcode : ∀ cs ∈ code, isClosingFence cs = false)
    (hsees : Sees (topContext lines) i (code.map endedLine ++ [endedLine ['\x60', '\x60', '\x60']]))
    {count : Nat} (hcount : code.length < count) :
    fenceEnd (topContext lines) ⟨'\x60', 3, info⟩ i count = (i + code.length, true) := by
  -- line by line to the closing fence; no line of the code closes it before
  induction code generalizing i count with
  | nil =>
      obtain ⟨count, rfl⟩ : ∃ k, count = k + 1 := ⟨count - 1, by omega⟩
      rw [List.map_nil, List.nil_append] at hsees
      rw [fenceEnd, hsees.head]
      rfl
  | cons cs code ih =>
      obtain ⟨count, rfl⟩ : ∃ k, count = k + 1 := ⟨count - 1, by omega⟩
      rw [List.map_cons, List.cons_append] at hsees
      have hopen : closesFence (topContext lines) ⟨'\x60', 3, info⟩ (endedLine cs) = false :=
        hcode cs List.mem_cons_self
      have hended : (endedLine cs).isUnended = false := by
        simp [Line.isUnended, endedLine, Line.ofChars]
      have hindent : ¬(endedLine cs).indent < (topContext lines).indent := by
        simp [topContext, endedLine, Line.ofChars]
      rw [List.length_cons] at hcount
      rw [fenceEnd, hsees.head]
      simp [hended, hindent, hopen, ih (fun x hx => hcode x (List.mem_cons_of_mem cs hx))
        hsees.tail (show code.length < count by omega)]
      omega

theorem fenceText?_backticks {info : List Char} (h : '\x60' ∉ info) :
    fenceText? ('\x60' :: '\x60' :: '\x60' :: info) = some ⟨'\x60', 3, info⟩ := by
  have hinfo : info.takeWhile (· = '\x60') = [] := by
    cases info with
    | nil => rfl
    | cons c cs =>
        have hc : c ≠ '\x60' := fun heq => h (heq ▸ List.mem_cons_self)
        exact List.takeWhile_cons_of_neg (by simp [hc])
  simp [fenceText?, hinfo, h]

/-- Lines between two fences are code. -/
theorem block_code {info : List Char} (hbacktick : '\x60' ∉ info) (hpipe : '|' ∉ info)
    {code : List (List Char)} (hcode : ∀ cs ∈ code, isClosingFence cs = false)
    (hsees : Sees (topContext lines) i (endedLine ('\x60' :: '\x60' :: '\x60' :: info) ::
      (code.map endedLine ++ [endedLine ['\x60', '\x60', '\x60']])))
    (hstop : i + code.length + 2 ≤ stop) :
    block inner (topContext lines) i stop =
      { next := i + code.length + 2
        tokens := [{ type := "fence", tag := "code", lines := lineRange i (i + code.length + 2)
                     content := String.ofList (joinLines code), info := String.ofList info }] } := by
  have hfacts := content_endedLine_cons (show isIndentation '\x60' = false from rfl)
    ('\x60' :: '\x60' :: info)
  rw [← hsees.head] at hfacts
  obtain ⟨hcontent, hindent⟩ := hfacts
  have hnotCode : (topContext lines).isCode ((topContext lines).line i) = false :=
    isCode_eq_false hindent
  have hfence : fence? (topContext lines) ((topContext lines).line i) = some ⟨'\x60', 3, info⟩ := by
    simp [fence?, hnotCode, hcontent, fenceText?_backticks hbacktick]
  -- a header of a table would hold a pipe
  have htable : tableStart? (topContext lines) i stop = none := by
    apply tableStart?_eq_none_of_header
    simp [hcontent, hpipe]
  have hend : fenceEnd (topContext lines) ⟨'\x60', 3, info⟩ (i + 1) (stop - (i + 1)) =
      (i + 1 + code.length, true) :=
    fenceEnd_of_sees hcode hsees.tail (by omega)
  have htext : (topContext lines).text (i + 1) (i + 1 + code.length) 0 true = joinLines code := by
    rw [Context.text, Nat.add_sub_cancel_left]
    exact textFrom_of_sees hsees.tail.left
  have hnext : i + 1 + code.length + 1 = i + code.length + 2 := by omega
  rw [block_eq rfl htable hnotCode]
  simp [fencedCode?, hfence, hend, hindent, htext, hnext]
  rfl

end Blocks

/-! ## Passages -/

open Passage

/-- The lines behind a passage without a list are of no matter. -/
theorem Passage.isRead_of_block {p : Passage} (hlist : p.isList = false)
    (hopens : ∃ first more, p.lines = first :: more ∧ (endedLine first).isEmpty = false)
    (hblock : ∀ {lines : List Line} {i : Nat}, Sees (topContext lines) i (p.written.map endedLine) →
      i + p.written.length ≤ lines.length → block (blocks 20) (topContext lines) i lines.length =
        { next := i + p.lines.length, tokens := p.tokens i }) : p.IsRead where
  opens := hopens
  reads := by
    intro lines i later _ hsees hend
    rw [List.map_append] at hsees
    rw [List.length_append] at hend
    rw [hblock hsees.left (by omega), hlist]
    rfl

/-- A heading behind number signs. -/
def headingPassage (level : Nat) (title : List Char) : Passage :=
  { lines := [List.replicate level '#' ++ ' ' :: title]
    tokens := fun i =>
      headingTokens (topContext []) level (lineRange i (i + 1)) (lineRange i (i + 1)) title }

theorem isRead_heading {level : Nat} (hlow : 1 ≤ level) (hhigh : level ≤ 6) {title : List Char}
    (htitle : trimText (withoutClosingSigns (' ' :: title)) = title) :
    (headingPassage level title).IsRead := by
  apply isRead_of_block rfl
  · refine ⟨_, [], rfl, ?_⟩
    obtain ⟨n, rfl⟩ : ∃ n, level = n + 1 := ⟨level - 1, by omega⟩
    rfl
  · intro lines i hsees hend
    rw [block_heading hlow hhigh hsees, htitle]
    rfl

/-- A thematic break. -/
def rulePassage : Passage :=
  { lines := [['-', '-', '-']]
    tokens := fun i => [{ type := "hr", tag := "hr", lines := lineRange i (i + 1) }] }

theorem isRead_rule : rulePassage.IsRead := by
  apply isRead_of_block rfl
  · exact ⟨_, [], rfl, rfl⟩
  · intro lines i hsees hend
    exact block_rule hsees

/-- Lines of code between fences. -/
def codePassage (info : List Char) (code : List (List Char)) : Passage :=
  { lines := ('\x60' :: '\x60' :: '\x60' :: info) :: (code ++ [['\x60', '\x60', '\x60']])
    tokens := fun i =>
      [{ type := "fence", tag := "code", lines := lineRange i (i + code.length + 2)
         content := String.ofList (joinLines code), info := String.ofList info }] }

theorem isRead_code {info : List Char} (hbacktick : '\x60' ∉ info) (hpipe : '|' ∉ info)
    {code : List (List Char)} (hcode : ∀ cs ∈ code, isClosingFence cs = false) :
    (codePassage info code).IsRead := by
  apply isRead_of_block rfl
  · exact ⟨_, _, rfl, rfl⟩
  · intro lines i hsees hend
    have hsees' : Sees (topContext lines) i (endedLine ('\x60' :: '\x60' :: '\x60' :: info) ::
        (code.map endedLine ++ [endedLine ['\x60', '\x60', '\x60']])) := by
      rw [written, List.map_append] at hsees
      simpa [codePassage] using hsees.left
    have hlength : (codePassage info code).lines.length = code.length + 2 := by
      simp [codePassage]
    rw [length_written, hlength] at hend
    rw [block_code hbacktick hpipe hcode hsees' (by omega), hlength]
    rfl

end MarkdownSections.Markdown.Block
