import MarkdownSections.Proofs.Markdown.Leaf

/-!
# Paragraphs set apart

Lines are one paragraph if the first opens no other block and the others go on with it
(`areParagraphLines`), in the whole text as well as in a quote (`IsOuter`). Each line has to show this
by itself: one that may start a definition that ends on a later line is not counted.
-/

set_option autoImplicit false

namespace MarkdownSections.Markdown.Block

/-! ## Paragraphs -/

/-- Whether a text behind an opening bracket shows on its line that it is no label with a colon
behind it. -/
def refusesLabel : List Char → Bool
  | [] => false
  | '[' :: _ => true
  | ']' :: cs => cs.head? != some ':'
  | '\\' :: _ :: cs => refusesLabel cs
  | _ :: cs => refusesLabel cs

/-- Whether a line shows that it starts no definition. -/
def opensNoDefinition : List Char → Bool
  | '[' :: cs => refusesLabel cs
  | _ => true

/-- Whether the content of a line opens no block but a paragraph. -/
def isRunningText (cs : List Char) : Bool :=
  !cs.isEmpty && (fenceText? cs).isNone && cs.head? != some '>' && !isRuleText cs
    && (listMarker? cs).isNone && opensNoDefinition cs && (Html.blockStart? cs).isNone
    && (headingText? cs).isNone

/-- Whether a line opens a paragraph. -/
def opensParagraph (cs : List Char) : Bool :=
  (endedLine cs).indent < 4 && isRunningText (endedLine cs).content

/-- Whether a line goes on with a paragraph, and makes neither a table nor a heading of it. -/
def goesOn (ctx : Context) (l : Line) : Bool :=
  !l.isEmpty && !isDelimiterRow l.content
    && (3 < l.indent - ctx.indent
      || ((underline? ctx l).isNone && (fence? ctx l).isNone && !opensQuote ctx l && !isRule ctx l
        && (listStart? ctx l true).isNone
        && !((htmlStart? ctx l).map Html.BlockStart.interrupts).getD false
        && (heading? ctx l).isNone))

/-- Whether a line of a text goes on with a paragraph. -/
def continuesParagraph (cs : List Char) : Bool :=
  goesOn (topContext []) (endedLine cs)

/-- Whether lines open a paragraph and go on with it. -/
def areParagraphLines : List (List Char) → Bool
  | [] => false
  | first :: more => opensParagraph first && more.all continuesParagraph

/-- The tokens of a paragraph. -/
def paragraphTokens (level i : Nat) (ls : List (List Char)) : List Token :=
  enclose "paragraph" "p" level (lineRange i (i + ls.length)) []
    [inlineToken (level + 1) (lineRange i (i + ls.length)) (trimText (['\n'].intercalate ls))]

/-- Taking in a further line leaves the text in front as it is. -/
theorem exists_text_takeLine (ctx : Context) (u : Unread) :
    ∃ line, (takeLine ctx u).text = u.text ++ line := by
  unfold takeLine
  split
  · exact ⟨_, rfl⟩
  · exact ⟨[], (List.append_nil _).symm⟩

/-- Where a label is refused on its line, reading it gives none with a colon behind it. -/
theorem readLabel_refused {ctx : Context} {cs tail label : List Char} {fuel : Nat} {u v : Unread}
    (h : refusesLabel cs = true) (hu : u.text = cs ++ '\n' :: tail)
    (hread : readLabel ctx fuel u = some (label, v)) : v.text.head? ≠ some ':' := by
  induction fuel generalizing cs tail u label with
  | zero => cases hread
  | succ fuel ih =>
      -- behind each character the label goes on with the rest of the line
      have hstep : ∀ {cs' : List Char} (front : List Char) {u' : Unread},
          refusesLabel cs' = true → (∃ tail', u'.text = cs' ++ '\n' :: tail') →
          ((readLabel ctx fuel u').map fun p => (front ++ p.1, p.2)) = some (label, v) →
            v.text.head? ≠ some ':' := by
        intro cs' front u' hcs' hu' hmap
        obtain ⟨tail', hu'⟩ := hu'
        obtain ⟨⟨label', v'⟩, hlabel, heq⟩ := Option.map_eq_some_iff.mp hmap
        cases heq
        exact ih hcs' hu' hlabel
      have htaken : ∀ {cs' tail' : List Char} {u' : Unread}, u'.text = cs' ++ '\n' :: tail' →
          ∃ tail'', (takeLine ctx u').text = cs' ++ '\n' :: tail'' := by
        intro cs' tail' u' hu'
        obtain ⟨line, hline⟩ := exists_text_takeLine ctx u'
        exact ⟨tail' ++ line, by rw [hline, hu']; simp⟩
      simp only [readLabel, hu] at hread
      fun_cases refusesLabel cs with
      | case1 => simp [refusesLabel] at h
      | case2 rest => simp at hread
      | case3 rest =>
          simp only [List.cons_append, Option.some.injEq, Prod.mk.injEq] at hread
          obtain ⟨-, rfl⟩ := hread
          cases rest with
          | nil => simp
          | cons c rest => simpa [refusesLabel] using h
      | case4 c rest =>
          have hrest : refusesLabel rest = true := h
          by_cases hc : c = '\n'
          · subst hc
            exact hstep ['\\', '\n'] hrest (htaken rfl) hread
          · simp only [List.cons_append] at hread
            exact hstep ['\\', c] hrest ⟨tail, rfl⟩ hread
      | case5 c rest hopen hclose hescape =>
          have hrest : refusesLabel rest = true := by
            simpa [refusesLabel, hopen, hclose, hescape] using h
          have hslash : c ≠ '\\' := by
            intro heq
            cases rest with
            | nil => cases hrest
            | cons d rest => exact hescape d rest heq rfl
          by_cases hc : c = '\n'
          · subst hc
            exact hstep ['\n'] hrest (htaken rfl) hread
          · simp [hslash] at hread
            obtain ⟨label', hlabel, -⟩ := hread
            exact ih hrest rfl hlabel

/-- A line that shows that it starts no definition starts none. -/
theorem definition?_of_opensNoDefinition {ctx : Context} {i : Nat} {cs : List Char}
    (hl : contentLine (ctx.line i) = cs ++ ['\n']) (h : opensNoDefinition cs = true) :
    definition? ctx i = none := by
  cases cs with
  | nil => simp [definition?, hl]
  | cons c cs =>
      -- a definition opens with a bracket, and its label must have a colon behind it
      by_cases hc : c = '['
      · subst hc
        have htext : definitionText? ctx ⟨cs ++ ['\n'], i + 1⟩ = none := by
          simp only [definitionText?, Option.bind_eq_bind, Option.bind_eq_none_iff]
          rintro ⟨label, v⟩ hlabel
          have hcolon : v.text.head? ≠ some ':' := readLabel_refused h rfl hlabel
          split
          · next heq =>
              cases heq
              exact absurd rfl hcolon
          · rfl
        simp [definition?, hl, htext]
      · simp [definition?, hl, hc]

/-- A line of running text opens a paragraph, unless the line behind it makes a table or a heading
of it. -/
theorem block_running {inner : Reader} {ctx : Context} {i stop next : Nat}
    (hcore : ctx.preset.core = true) (htext : isRunningText (ctx.line i).content = true)
    (hcode : ctx.isCode (ctx.line i) = false) (hended : (ctx.line i).ended = true)
    (htable : tableStart? ctx i stop = none)
    (hunder : underlineFrom? ctx stop (i + 1) (stop - (i + 1)) = none)
    (hend : paragraphEnd ctx (i + 1) (ctx.limit - (i + 1)) = next) :
    block inner ctx i stop =
      { next
        tokens := enclose "paragraph" "p" ctx.level (lineRange i next) []
          [inlineToken (ctx.level + 1) (lineRange i next)
            (trimText (ctx.text i next ctx.indent false))] } := by
  simp only [isRunningText, Bool.and_eq_true, Bool.not_eq_true', Option.isNone_iff_eq_none,
    bne_iff_ne] at htext
  obtain ⟨⟨⟨⟨⟨⟨⟨-, hfence⟩, hquote⟩, hrule⟩, hlist⟩, hdefinition⟩, hhtml⟩, hheading⟩ := htext
  -- all readers that are asked before the paragraph refuse the line
  have hnoDefinition : definition? ctx i = none := by
    apply definition?_of_opensNoDefinition _ hdefinition
    rw [contentLine, Line.lineEnd, if_pos hended]
  rw [block_eq hcore htable hcode]
  simp [fencedCode?, fence?, hfence, quote?, opensQuote, hquote, thematicBreak?, isRule, hrule,
    list?, listStart?, hlist, hnoDefinition, htmlBlock?, htmlStart?, hhtml, markedHeading?,
    heading?, hheading, underlinedHeading?, hunder, paragraph, hend]

/-- Whether a container stands at the left and in no list, as the whole text and a quote do. -/
structure IsOuter (ctx : Context) : Prop where
  preset : ctx.preset = .gfmLike
  indent : ctx.indent = 0
  listIndent : ctx.listIndent = none

theorem isOuter_topContext (lines : List Line) : IsOuter (topContext lines) :=
  ⟨rfl, rfl, rfl⟩

section Paragraph

variable {ctx : Context} {inner : Reader} {base i : Nat} (hctx : IsOuter ctx)

include hctx

/-- What goes on with a paragraph is the same in all outer containers. -/
theorem goesOn_lineBehind (base : Nat) (cs : List Char) :
    goesOn ctx (lineBehind base cs) = continuesParagraph cs := by
  obtain ⟨hpreset, hindent, hlist⟩ := hctx
  cases ctx
  simp only at hpreset hindent hlist
  subst hpreset hindent hlist
  rfl

/-- The lines of a paragraph behind its first one, and the empty line that ends it. -/
def paragraphLines (base : Nat) (more : List (List Char)) : List Line :=
  more.map (lineBehind base) ++ [endedLine []]

/-- No line of a paragraph is the header of a table. -/
theorem tableStart?_of_continues {l : Line} {more : List (List Char)} {stop : Nat}
    (hmore : ∀ cs ∈ more, continuesParagraph cs = true)
    (hsees : Sees ctx i (l :: paragraphLines base more)) : tableStart? ctx i stop = none := by
  apply tableStart?_eq_none
  cases more with
  | nil =>
      rw [hsees.tail.head]
      rfl
  | cons cs more =>
      rw [hsees.tail.head]
      have hcs := hmore cs List.mem_cons_self
      rw [← goesOn_lineBehind hctx base] at hcs
      simp only [goesOn, Bool.and_eq_true] at hcs
      simpa using hcs.1.2

/-- A line that goes on with a paragraph is indented like code, or neither underlines nor ends it. -/
theorem continuesParagraph_cases {cs : List Char} {more : List (List Char)} (stop : Nat)
    (hmore : ∀ x ∈ cs :: more, continuesParagraph x = true)
    (hsees : Sees ctx i (paragraphLines base (cs :: more))) :
    (ctx.line i).isEmpty = false ∧
      (3 < (ctx.line i).indent - ctx.indent ∨
        underline? ctx (ctx.line i) = none ∧ interrupts ctx .paragraph i stop = false) := by
  have hline : ctx.line i = lineBehind base cs := hsees.head
  have htable : tableStart? ctx i stop = none :=
    tableStart?_of_continues hctx (fun x hx => hmore x (List.mem_cons_of_mem cs hx)) hsees
  have hcs : goesOn ctx (ctx.line i) = true := by
    rw [hline, goesOn_lineBehind hctx]
    exact hmore cs List.mem_cons_self
  simp only [goesOn, Bool.and_eq_true, Bool.or_eq_true, decide_eq_true_eq,
    Bool.not_eq_true', Option.isNone_iff_eq_none] at hcs
  obtain ⟨⟨hcontent, -⟩, hcode | ⟨⟨⟨⟨⟨⟨hunder, hfence⟩, hquote⟩, hrule⟩, hlist⟩, hhtml⟩, hheading⟩⟩ :=
    hcs
  · exact ⟨hcontent, .inl hcode⟩
  · refine ⟨hcontent, .inr ⟨hunder, ?_⟩⟩
    simp [interrupts, hfence, hquote, hrule, hlist, hhtml, hheading, htable]

theorem paragraphEnd_of_sees {more : List (List Char)}
    (hmore : ∀ cs ∈ more, continuesParagraph cs = true)
    (hsees : Sees ctx i (paragraphLines base more)) {count : Nat} (hcount : more.length ≤ count) :
    paragraphEnd ctx i count = i + more.length := by
  -- line by line up to the empty line, which no fuel is needed for
  induction more generalizing i count with
  | nil =>
      cases count with
      | zero => rfl
      | succ count =>
          rw [paragraphEnd, hsees.head]
          rfl
  | cons cs more ih =>
      obtain ⟨count, rfl⟩ : ∃ k, count = k + 1 := ⟨count - 1, by simp at hcount; omega⟩
      rw [List.length_cons] at hcount
      have hrest : paragraphEnd ctx (i + 1) count = i + 1 + more.length :=
        ih (fun x hx => hmore x (List.mem_cons_of_mem cs hx)) hsees.tail (by omega)
      obtain ⟨hcontent, hgoes⟩ := continuesParagraph_cases hctx ctx.limit hmore hsees
      have hlow : ¬(ctx.line i).indent < 0 := by
        rw [show ctx.line i = lineBehind base cs from hsees.head]
        simp [lineBehind, endedLine, Line.ofChars]
      have hstep : paragraphEnd ctx i (count + 1) = paragraphEnd ctx (i + 1) count := by
        rcases hgoes with hcode | ⟨-, hinterrupts⟩
        · simp [paragraphEnd, hcontent, hcode]
        · simp [paragraphEnd, hcontent, hlow, hinterrupts]
      rw [hstep, hrest, List.length_cons]
      omega

theorem underlineFrom?_of_sees {more : List (List Char)} {stop : Nat}
    (hmore : ∀ cs ∈ more, continuesParagraph cs = true)
    (hsees : Sees ctx i (paragraphLines base more)) (count : Nat) :
    underlineFrom? ctx stop i count = none := by
  -- the search for an underline goes through the paragraph and ends at the empty line
  induction more generalizing i count with
  | nil =>
      cases count with
      | zero => rfl
      | succ count =>
          rw [underlineFrom?, hsees.head]
          rfl
  | cons cs more ih =>
      cases count with
      | zero => rfl
      | succ count =>
          have hrest : underlineFrom? ctx stop (i + 1) count = none :=
            ih (fun x hx => hmore x (List.mem_cons_of_mem cs hx)) hsees.tail count
          obtain ⟨hcontent, hcode | ⟨hunder, hinterrupts⟩⟩ :=
            continuesParagraph_cases hctx stop hmore hsees
          · simp [underlineFrom?, hcontent, hcode, hrest]
          · simp [underlineFrom?, hcontent, hunder, hinterrupts, hrest]

/-- Lines with content that open no other block are a paragraph. -/
theorem block_paragraph {ls : List (List Char)} (hls : areParagraphLines ls = true)
    (hsees : Sees ctx i (paragraphLines base ls)) (hlimit : i + ls.length ≤ ctx.limit)
    {stop : Nat} :
    block inner ctx i stop =
      { next := i + ls.length, tokens := paragraphTokens ctx.level i ls } := by
  cases ls with
  | nil => cases hls
  | cons first more =>
      simp only [areParagraphLines, opensParagraph, Bool.and_eq_true, List.all_eq_true,
        decide_eq_true_eq] at hls
      obtain ⟨⟨hindent, hrunning⟩, hmore⟩ := hls
      -- the first line opens the paragraph and the others continue it
      rw [List.length_cons] at hlimit
      have hline : ctx.line i = lineBehind base first := hsees.head
      have hend : paragraphEnd ctx (i + 1) (ctx.limit - (i + 1)) = i + (first :: more).length := by
        rw [paragraphEnd_of_sees hctx hmore hsees.tail (by omega), List.length_cons]
        omega
      have htext : ctx.text i (i + (first :: more).length) ctx.indent false =
          ['\n'].intercalate (first :: more) := by
        rw [Context.text, Nat.add_sub_cancel_left, hctx.indent]
        exact textFrom_intercalate hsees.left
      have hrunning' : isRunningText (ctx.line i).content = true := by
        rw [hline]
        exact hrunning
      have hcode : ctx.isCode (ctx.line i) = false := by
        simp only [Context.isCode, Bool.and_eq_false_iff, decide_eq_false_iff_not, hctx.indent, hline]
        right
        change ¬4 ≤ (endedLine first).indent - ((0 : Nat) : Int)
        omega
      rw [block_running (by rw [hctx.preset]; rfl) hrunning' hcode (by rw [hline]; rfl)
        (tableStart?_of_continues hctx hmore hsees) (underlineFrom?_of_sees hctx hmore hsees.tail _)
        hend, htext]
      rfl

end Paragraph

/-- The first line of a paragraph has content. -/
theorem isEmpty_of_areParagraphLines {first : List Char} {more : List (List Char)}
    (h : areParagraphLines (first :: more) = true) : (endedLine first).isEmpty = false := by
  simp only [areParagraphLines, opensParagraph, isRunningText, Bool.and_eq_true,
    Bool.not_eq_true'] at h
  exact h.1.2.1.1.1.1.1.1.1

/-- A paragraph. -/
def paragraphPassage (ls : List (List Char)) : Passage :=
  { lines := ls, tokens := fun i => paragraphTokens 0 i ls }

theorem isRead_paragraph {ls : List (List Char)} (h : areParagraphLines ls = true) :
    (paragraphPassage ls).IsRead := by
  apply Passage.isRead_of_block rfl
  · cases ls with
    | nil => cases h
    | cons first more => exact ⟨first, more, rfl, isEmpty_of_areParagraphLines h⟩
  · intro lines i hsees hend
    have hlimit : i + ls.length ≤ (topContext lines).limit := by
      change i + ls.length ≤ lines.length
      rw [Passage.length_written] at hend
      simp only [paragraphPassage] at hend
      omega
    rw [Passage.written, List.map_append] at hsees
    exact block_paragraph (isOuter_topContext lines) h hsees hlimit

end MarkdownSections.Markdown.Block
