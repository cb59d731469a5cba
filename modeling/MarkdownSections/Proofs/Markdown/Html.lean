import MarkdownSections.Proofs.Markdown.Leaf

/-!
# HTML blocks set apart

An HTML block is read up to the line that closes it, or up to the empty line behind it, as what opened
it asks for (`htmlEnd_of_sees`).
-/

set_option autoImplicit false

namespace MarkdownSections.Markdown.Block

/-- Whether an HTML block that goes on with some lines and an empty one ends in front of the empty
one, and not before. -/
def endsHtml (kind : Html.BlockStart) : List (List Char) → Bool
  | [] => kind.closes []
  | cs :: more =>
    if kind.closes (endedLine cs).content then !(endedLine cs).isEmpty && more.isEmpty
    else endsHtml kind more

/-- Whether lines are one HTML block. -/
def areHtmlLines : List (List Char) → Bool
  | [] => false
  | first :: more =>
    !first.contains '|'
      && match Html.blockStart? first with
        | some kind => if kind.closes first then more.isEmpty else endsHtml kind more
        | none => false

section Html

variable {lines : List Line} {i : Nat} {kind : Html.BlockStart}

/-- No line of the whole text stands left of it. -/
theorem not_indent_lt (cs : List Char) :
    ¬(endedLine cs).indent < ((topContext lines).indent : Int) :=
  Int.not_lt.mpr (indent_endedLine cs)

theorem htmlEnd_of_sees {more : List (List Char)} (hmore : endsHtml kind more = true)
    (hsees : Sees (topContext lines) i (more.map endedLine ++ [endedLine []])) {count : Nat}
    (hcount : more.length < count) :
    htmlEnd (topContext lines) kind i count = i + more.length := by
  induction more generalizing i count with
  | nil =>
      obtain ⟨count, rfl⟩ : ∃ k, count = k + 1 := ⟨count - 1, by omega⟩
      have hempty : (topContext lines).line i = endedLine [] := hsees.head
      have hcontent : (endedLine []).content = [] := rfl
      have hcloses : kind.closes [] = true := hmore
      have hnone : (endedLine []).isEmpty = true := rfl
      rw [htmlEnd, hempty, hnone, hcontent, hcloses]
      rfl
  | cons cs more ih =>
      obtain ⟨count, rfl⟩ : ∃ k, count = k + 1 := ⟨count - 1, by omega⟩
      rw [List.length_cons] at hcount
      have hline : (topContext lines).line i = endedLine cs := hsees.head
      rw [endsHtml] at hmore
      by_cases hcloses : kind.closes (endedLine cs).content = true
      · -- the block takes in the line that closes it, and nothing may be left
        rw [if_pos hcloses, Bool.and_eq_true, Bool.not_eq_true', List.isEmpty_iff] at hmore
        obtain ⟨hcontent, rfl⟩ := hmore
        simp [htmlEnd, hline, not_indent_lt, hcloses, hcontent]
      · rw [if_neg hcloses] at hmore
        have hrest : htmlEnd (topContext lines) kind (i + 1) count = i + 1 + more.length :=
          ih hmore hsees.tail (by omega)
        simp [htmlEnd, hline, not_indent_lt, hcloses, hrest]
        omega

/-- What opens an HTML block starts with an angle bracket. -/
theorem exists_cons_of_blockStart? {cs : List Char} (h : Html.blockStart? cs = some kind) :
    ∃ rest, cs = '<' :: rest := by
  unfold Html.blockStart? at h
  split at h
  · exact ⟨_, rfl⟩
  · cases h

/-- The line behind lines that are one HTML block. -/
theorem exists_of_areHtmlLines {first : List Char} {more : List (List Char)}
    (h : areHtmlLines (first :: more) = true) :
    '|' ∉ first ∧ ∃ kind, Html.blockStart? first = some kind ∧
      (if kind.closes first then more.isEmpty else endsHtml kind more) = true := by
  simp only [areHtmlLines, Bool.and_eq_true, Bool.not_eq_true', List.contains_eq_mem,
    decide_eq_false_iff_not] at h
  obtain ⟨hpipe, hkind⟩ := h
  split at hkind
  · next kind hstart => exact ⟨hpipe, kind, hstart, hkind⟩
  · cases hkind

/-- The tokens of an HTML block. -/
def htmlTokens (i : Nat) (ls : List (List Char)) : List Token :=
  [{ type := "html_block", lines := lineRange i (i + ls.length)
     content := String.ofList (joinLines ls) }]

theorem htmlBlock?_of_sees {stop : Nat} {first : List Char} {more : List (List Char)}
    (hfirst : ((topContext lines).line i).content = first)
    (hstart : htmlStart? (topContext lines) ((topContext lines).line i) = some kind)
    (hends : (if kind.closes first then more.isEmpty else endsHtml kind more) = true)
    (hsees : Sees (topContext lines) i ((first :: more).map endedLine ++ [endedLine []]))
    (hstop : i + 1 + more.length < stop) :
    htmlBlock? (topContext lines) i stop =
      some { next := i + (first :: more).length, tokens := htmlTokens i (first :: more) } := by
  -- the first line may close the block itself, and otherwise it ends where its kind says
  have hnext : (if kind.closes first then i + 1
      else htmlEnd (topContext lines) kind (i + 1) (stop - (i + 1))) =
        i + (first :: more).length := by
    rw [List.length_cons]
    split at hends
    · next hcloses =>
        rw [if_pos hcloses, List.isEmpty_iff.mp hends]
        rfl
    · next hopen =>
        rw [if_neg hopen, htmlEnd_of_sees hends hsees.tail (by omega)]
        omega
  have htext : (topContext lines).text i (i + (first :: more).length) 0 true =
      joinLines (first :: more) := by
    rw [Context.text, Nat.add_sub_cancel_left]
    exact textFrom_of_sees hsees.left
  have hreadable : ∀ l : Line, hasIndentation 0 l = true := by
    simp [hasIndentation]
  have hindent : (topContext lines).indent = 0 := rfl
  simp only [htmlBlock?, hstart, hfirst, hnext, hindent, htext, hreadable, Option.map_some]
  rfl

/-- Lines of HTML are an HTML block. -/
theorem block_html {inner : Reader} {stop : Nat} {first : List Char} {more : List (List Char)}
    (h : areHtmlLines (first :: more) = true)
    (hsees : Sees (topContext lines) i ((first :: more).map endedLine ++ [endedLine []]))
    (hstop : i + 1 + more.length < stop) :
    block inner (topContext lines) i stop =
      { next := i + (first :: more).length, tokens := htmlTokens i (first :: more) } := by
  obtain ⟨hpipe, kind, hstart, hends⟩ := exists_of_areHtmlLines h
  obtain ⟨rest, rfl⟩ := exists_cons_of_blockStart? hstart
  have hfacts := content_endedLine_cons (show isIndentation '<' = false from rfl) rest
  have hline : (topContext lines).line i = endedLine ('<' :: rest) := hsees.head
  rw [← hline] at hfacts
  obtain ⟨hl, hindent⟩ := hfacts
  have hcode : (topContext lines).isCode ((topContext lines).line i) = false :=
    isCode_eq_false hindent
  -- a line that starts with a less-than sign opens no other block
  have htable : tableStart? (topContext lines) i stop = none :=
    tableStart?_eq_none_of_header (by rwa [hl])
  have hfence : fence? (topContext lines) ((topContext lines).line i) = none :=
    fence?_eq_none hl (by decide) (by decide)
  have hlist : listStart? (topContext lines) ((topContext lines).line i) false = none :=
    listStart?_eq_none hl rfl (by decide) false
  have hopens : htmlStart? (topContext lines) ((topContext lines).line i) = some kind := by
    rw [htmlStart?, hcode, hl]
    exact hstart
  have hhtml := htmlBlock?_of_sees hl hopens hends hsees hstop
  rw [block_eq rfl htable hcode]
  simp [fencedCode?, hfence, quote?, opensQuote_eq_false hl, thematicBreak?, isRule_eq_false hl,
    list?, hlist, definition?_eq_none hl, hhtml]

end Html

/-- Lines of HTML. -/
def htmlPassage (ls : List (List Char)) : Passage :=
  { lines := ls, tokens := fun i => htmlTokens i ls }

theorem isRead_html {ls : List (List Char)} (h : areHtmlLines ls = true) :
    (htmlPassage ls).IsRead := by
  cases ls with
  | nil => cases h
  | cons first more =>
      apply Passage.isRead_of_block rfl
      · refine ⟨first, more, rfl, ?_⟩
        obtain ⟨-, kind, hstart, -⟩ := exists_of_areHtmlLines h
        obtain ⟨rest, rfl⟩ := exists_cons_of_blockStart? hstart
        rfl
      · intro lines i hsees hend
        rw [Passage.length_written] at hend
        rw [Passage.written, List.map_append] at hsees
        have hstop : i + 1 + more.length < lines.length := by
          simp only [htmlPassage, List.length_cons] at hend
          omega
        exact block_html h hsees hstop

end MarkdownSections.Markdown.Block
