import MarkdownSections.Proofs.Markdown.Paragraph
import MarkdownSections.Proofs.Text.Blank
import MarkdownSections.Proofs.Text.Numeral

/-!
# Items of lists

A list item that holds one line of running text, behind a hyphen or a number. The item sees its text
behind the mark (`itemLine_itemChars`), reads it as a paragraph (`block_itemContext`), and ends at the
next item, or behind the empty line that follows (`item_of_place`).
-/

set_option autoImplicit false

namespace MarkdownSections.Markdown.Block

/-! ## Marks -/

/-- The mark of an item: a hyphen, or its number and a point. -/
def itemMark : Option Nat → List Char
  | none => ['-']
  | some n => Text.natDigits n ++ ['.']

/-- The mark of an item as it is read. -/
def itemMarker (number : Option Nat) : ListMarker where
  number := number
  mark := if number.isSome then '.' else '-'
  width := (itemMark number).length

/-- Whether the number of an item, if it has one, has nine digits at most. -/
def isItemNumber (number : Option Nat) : Bool :=
  number.all (· < tenPow 9)

theorem numberMarker?_itemMark {n : Nat} (h : n < tenPow 9) (cs : List Char) :
    numberMarker? (itemMark (some n) ++ ' ' :: cs) = some (itemMarker (some n)) := by
  have hdigits : ∀ c ∈ Text.natDigits n, c.isDigit = true := fun c hc =>
    Text.isDigit_of_mem_natDigits hc
  have htake : (itemMark (some n) ++ ' ' :: cs).takeWhile Char.isDigit = Text.natDigits n := by
    rw [itemMark, List.append_assoc, List.takeWhile_append_of_pos hdigits]
    simp
  have hdrop : (itemMark (some n) ++ ' ' :: cs).drop (Text.natDigits n).length = '.' :: ' ' :: cs := by
    simp [itemMark]
  have hlow : 1 ≤ (Text.natDigits n).length := List.length_pos_iff.mpr (Text.natDigits_ne_nil n)
  have hhigh : (Text.natDigits n).length ≤ 9 := Text.length_natDigits_le (by decide) h
  have hvalue : Text.ofDigits ((Text.natDigits n).map fun d => d.toNat - 0x30) = n := by
    rw [Text.ofDigits_eq_ofDigitChars]
    exact Nat.ofDigitChars_ten_toDigits
  simp only [numberMarker?, htake, hdrop]
  simp [hlow, hhigh, hvalue, endsMarker, itemMarker, itemMark, isSpace]

theorem listMarker?_itemMark {number : Option Nat} (h : isItemNumber number = true)
    (cs : List Char) : listMarker? (itemMark number ++ ' ' :: cs) = some (itemMarker number) := by
  cases number with
  | none => rfl
  | some n =>
      have hn : n < tenPow 9 := by simpa [isItemNumber] using h
      rw [listMarker?, numberMarker?_itemMark hn]
      rfl

/-- A mark starts with a hyphen or a digit. -/
theorem exists_itemMark_eq_cons (number : Option Nat) :
    ∃ c cs, itemMark number = c :: cs ∧ (c = '-' ∨ c.isDigit = true) := by
  cases number with
  | none => exact ⟨'-', [], rfl, .inl rfl⟩
  | some n =>
      obtain ⟨c, cs, hdigits, hdigit⟩ := Text.exists_natDigits_eq_cons n
      exact ⟨c, cs ++ ['.'], by rw [itemMark, hdigits, List.cons_append], .inr hdigit⟩

theorem notMem_tab_itemMark (number : Option Nat) : '\t' ∉ itemMark number := by
  cases number with
  | none => decide
  | some n =>
      intro h
      rcases List.mem_append.mp h with h | h
      · exact absurd (Text.isDigit_of_mem_natDigits h) (by decide)
      · cases List.mem_singleton.mp h

/-! ## One item -/

/-- Whether an item can hold a text: a line of running text that is no rule behind a hyphen. -/
def isItemText (cs : List Char) : Bool :=
  isRunningText cs && trimText cs == cs && !isRuleText ('-' :: ' ' :: cs)

/-- The line of an item. -/
def itemChars (number : Option Nat) (cs : List Char) : List Char :=
  itemMark number ++ ' ' :: cs

/-- The line of an item as the item sees it. -/
def itemContentLine (number : Option Nat) (cs : List Char) : Line where
  chars := itemChars number cs
  shift := (itemMark number).length + 1
  indent := ((itemMark number).length + 1 : Nat)
  ended := true

section Item

variable {number : Option Nat} {cs : List Char}

theorem exists_cons_of_isItemText (h : isItemText cs = true) :
    ∃ c rest, cs = c :: rest ∧ isIndentation c = false := by
  simp only [isItemText, isRunningText, Bool.and_eq_true, beq_iff_eq] at h
  obtain ⟨⟨hrunning, htrim⟩, -⟩ := h
  cases cs with
  | nil => simp at hrunning
  | cons c rest =>
      refine ⟨c, rest, rfl, ?_⟩
      by_contra hblank
      have houter : isOuterBlank c = true := by
        simp only [isIndentation, Bool.not_eq_false, Bool.or_eq_true, decide_eq_true_eq] at hblank
        rcases hblank with rfl | rfl <;> rfl
      have hlength := congrArg List.length htrim
      rw [trimText, List.dropWhile_cons_of_pos houter] at hlength
      have hle : (Text.dropEndWhile isOuterBlank (rest.dropWhile isOuterBlank)).length ≤ rest.length :=
        ((Text.dropEndWhile_sublist _ _).trans (List.dropWhile_sublist _)).length_le
      rw [hlength, List.length_cons] at hle
      omega

theorem exists_itemChars_eq_cons (number : Option Nat) (cs : List Char) :
    ∃ c rest, itemChars number cs = c :: rest ∧ (c = '-' ∨ c.isDigit = true) := by
  obtain ⟨c, rest, hmark, hc⟩ := exists_itemMark_eq_cons number
  exact ⟨c, rest ++ ' ' :: cs, by rw [itemChars, hmark, List.cons_append], hc⟩

/-- The line of an item starts at the left. -/
theorem endedLine_itemChars (number : Option Nat) (cs : List Char) :
    endedLine (itemChars number cs) = { chars := itemChars number cs, ended := true } := by
  obtain ⟨c, rest, hchars, hc⟩ := exists_itemChars_eq_cons number cs
  have hindentation : isIndentation c = false := by
    rcases hc with rfl | hdigit
    · rfl
    · by_contra hblank
      simp only [isIndentation, Bool.not_eq_false, Bool.or_eq_true, decide_eq_true_eq] at hblank
      rcases hblank with rfl | rfl <;> cases hdigit
  simp [endedLine, Line.ofChars, hchars, hindentation, columnAfter]

theorem itemLine_itemChars (h : isItemText cs = true) :
    itemLine (endedLine (itemChars number cs)) (itemMarker number) =
      (itemContentLine number cs, (itemMark number).length + 1) := by
  obtain ⟨c, rest, rfl, hc⟩ := exists_cons_of_isItemText h
  have hdrop : (itemChars number (c :: rest)).drop (itemMark number).length = ' ' :: c :: rest := by
    simp [itemChars]
  have hblanks : (' ' :: c :: rest).takeWhile isIndentation = [' '] := by
    rw [List.takeWhile_cons_of_pos rfl, List.takeWhile_cons_of_neg (by simp [hc])]
  rw [endedLine_itemChars]
  simp [itemLine, Line.content, itemMarker, hdrop, hblanks, columnAfter, itemContentLine]

/-- The container of an item in a text. -/
def itemContext (lines : List Line) (i : Nat) (number : Option Nat) (cs : List Char) : Context where
  preset := .gfmLike
  lines := lines.toArray.setIfInBounds i (itemContentLine number cs)
  limit := lines.length
  indent := (itemMark number).length + 1
  listIndent := some 0
  level := 2

/-- Whether a line ends the text of an item in front of it: it is empty, or an item itself. -/
def EndsItem (l : Line) : Prop :=
  l = endedLine [] ∨
    ∃ number cs, isItemNumber number = true ∧ l = endedLine (itemChars number cs)

variable {lines : List Line} {i : Nat}

theorem line_itemContext_self (hi : i < lines.length) :
    (itemContext lines i number cs).line i = itemContentLine number cs := by
  simp [itemContext, Context.line, Array.getD_eq_getD_getElem?, hi]

theorem line_itemContext_ne {j : Nat} (h : i ≠ j) :
    (itemContext lines i number cs).line j = (topContext lines).line j := by
  simp [itemContext, topContext, Context.line, Array.getD_eq_getD_getElem?, h]

theorem item_itemChars {inner : Reader} {stop : Nat} (hcs : isItemText cs = true)
    (hline : (topContext lines).line i = endedLine (itemChars number cs)) :
    item inner (topContext lines) i stop (itemMarker number) =
      inner (itemContext lines i number cs) i stop := by
  obtain ⟨c, rest, rfl, -⟩ := exists_cons_of_isItemText hcs
  have hcontent : (itemContentLine number (c :: rest)).content = c :: rest := by
    simp [Line.content, itemContentLine, itemChars]
  simp [item, hline, itemLine_itemChars hcs, Line.isEmpty, hcontent, withoutCheckbox]
  rfl

/-- An item that follows is another block to the item in front of it, and stands left of it. -/
theorem interrupts_itemContext {number' : Option Nat} {cs' : List Char}
    (hnumber : isItemNumber number' = true) {j stop : Nat}
    (hline : (itemContext lines i number cs).line j = endedLine (itemChars number' cs')) :
    interrupts (itemContext lines i number cs) .paragraph j stop = true := by
  -- left of the content of an item, an item ends a paragraph whatever its number is
  have hlist : (listStart? (itemContext lines i number cs)
      ((itemContext lines i number cs).line j) true).isSome = true := by
    rw [hline, endedLine_itemChars]
    have hmarker : listMarker? (itemChars number' cs') = some (itemMarker number') :=
      listMarker?_itemMark hnumber cs'
    have hleft : ¬(((itemMark number).length : Int) + 1 ≤ 0) := by omega
    simp [listStart?, Context.isCode, isBetweenLists, Line.content, hmarker, itemContext, hleft]
    intro _
    omega
  simp [interrupts, hlist]
  rfl

section Next

variable {j stop : Nat}
  (hnext : EndsItem ((itemContext lines i number cs).line j))

include hnext

/-- What ends an item is an empty line, or an item at the left that interrupts its paragraph. -/
theorem endsItem_itemContext_cases :
    (itemContext lines i number cs).line j = endedLine [] ∨
      ((itemContext lines i number cs).line j).indent = 0 ∧
        ∀ stop, interrupts (itemContext lines i number cs) .paragraph j stop = true := by
  rcases hnext with hempty | ⟨number', cs', hnumber, hitem⟩
  · exact .inl hempty
  · refine .inr ⟨?_, fun stop => interrupts_itemContext hnumber hitem⟩
    rw [hitem, endedLine_itemChars]

theorem paragraphEnd_itemContext (count : Nat) :
    paragraphEnd (itemContext lines i number cs) j count = j := by
  cases count with
  | zero => rfl
  | succ count =>
      rcases endsItem_itemContext_cases hnext with hempty | ⟨hplace, hinterrupts⟩
      · rw [paragraphEnd, hempty]
        rfl
      · have hleft : ¬(3 : Int) < 0 - (itemContext lines i number cs).indent := by omega
        simp only [paragraphEnd, hplace, hleft, hinterrupts]
        simp

theorem underlineFrom?_itemContext (count : Nat) :
    underlineFrom? (itemContext lines i number cs) stop j count = none := by
  cases count with
  | zero => rfl
  | succ count =>
      rcases endsItem_itemContext_cases hnext with hempty | ⟨hplace, hinterrupts⟩
      · rw [underlineFrom?, hempty]
        rfl
      · have hleft : ¬(3 : Int) < 0 - (itemContext lines i number cs).indent := by omega
        -- a line at the left stands in front of the item and underlines nothing in it
        have hunder : underline? (itemContext lines i number cs)
            ((itemContext lines i number cs).line j) = none := by
          have hlow : ¬((itemContext lines i number cs).indent : Int) ≤ 0 := by
            simp only [itemContext]
            omega
          simp only [underline?, hplace, hlow, decide_false, Bool.false_and]
          split
          · rfl
          · rfl
        simp only [underlineFrom?, hplace, hleft, hunder, hinterrupts]
        simp

theorem tableStart?_itemContext (hj : j = i + 1) :
    tableStart? (itemContext lines i number cs) i stop = none := by
  subst hj
  rcases endsItem_itemContext_cases hnext with hempty | ⟨hplace, -⟩
  · apply tableStart?_eq_none
    rw [hempty]
    rfl
  · have hleft : ((itemContext lines i number cs).line (i + 1)).indent <
        (itemContext lines i number cs).indent := by
      rw [hplace]
      exact Int.natCast_pos.mpr (Nat.succ_pos _)
    simp [tableStart?, hleft]

end Next

/-- The text of an item is cut out of its line behind the mark. -/
theorem cut_itemContentLine (number : Option Nat) (cs : List Char) :
    (itemContentLine number cs).cut ((itemMark number).length + 1) = cs := by
  -- in front of the content every character takes up one column
  have hfront : ∀ (front : List Char) (seen : Nat), '\t' ∉ front →
      seen + front.length = (itemMark number).length + 1 →
        (itemContentLine number cs).cutFrom ((itemMark number).length + 1) seen seen
          (front ++ cs) = cs := by
    intro front
    induction front with
    | nil =>
        intro seen _ hseen
        have hseen' : seen = (itemMark number).length + 1 := hseen
        subst hseen'
        cases cs with
        | nil => simp [Line.cutFrom]
        | cons c rest => simp [Line.cutFrom]
    | cons c front ih =>
        intro seen htab hseen
        have hc : c ≠ '\t' := fun heq => htab (heq ▸ List.mem_cons_self)
        have hrest := ih (seen + 1) (fun h => htab (List.mem_cons_of_mem c h)) (by
          rw [List.length_cons] at hseen
          omega)
        have hlt : seen < (itemMark number).length + 1 := by
          rw [List.length_cons] at hseen
          omega
        rw [List.cons_append, Line.cutFrom, if_pos hlt, if_neg hc]
        rw [if_pos (by simp [itemContentLine, hlt]), hrest]
  have htab : '\t' ∉ itemMark number ++ [' '] := by
    intro h
    rcases List.mem_append.mp h with h | h
    · exact notMem_tab_itemMark number h
    · cases List.mem_singleton.mp h
  have hcut := hfront (itemMark number ++ [' ']) 0 htab (by simp)
  rwa [List.append_assoc] at hcut

/-- What an item holds. -/
def itemTokens (i : Nat) (cs : List Char) : List Token :=
  enclose "paragraph" "p" 2 (lineRange i (i + 1)) [] [inlineToken 3 (lineRange i (i + 1)) cs]

theorem block_itemContext {inner : Reader} {stop : Nat} (hcs : isItemText cs = true)
    (hi : i < lines.length) (hnext : EndsItem ((topContext lines).line (i + 1))) :
    block inner (itemContext lines i number cs) i stop =
      { next := i + 1, tokens := itemTokens i cs } := by
  have hline : (itemContext lines i number cs).line i = itemContentLine number cs :=
    line_itemContext_self hi
  have hnext' : EndsItem ((itemContext lines i number cs).line (i + 1)) := by
    rwa [line_itemContext_ne (by omega)]
  have hcontent : ((itemContext lines i number cs).line i).content = cs := by
    rw [hline]
    simp [Line.content, itemContentLine, itemChars]
  have htext : (itemContext lines i number cs).text i (i + 1) ((itemMark number).length + 1)
      false = cs := by
    rw [Context.text, Nat.add_sub_cancel_left]
    simp [Context.textFrom, hline, cut_itemContentLine]
  simp only [isItemText, Bool.and_eq_true, beq_iff_eq] at hcs
  obtain ⟨⟨hrunning, htrim⟩, -⟩ := hcs
  -- the text of the item starts right where the item is indented to
  have hcode : (itemContext lines i number cs).isCode ((itemContext lines i number cs).line i) =
      false := by
    rw [hline]
    simp [Context.isCode, itemContext, itemContentLine]
  have hrunning' : isRunningText ((itemContext lines i number cs).line i).content = true := by
    rwa [hcontent]
  rw [block_running rfl hrunning' hcode (by rw [hline]; rfl)
    (tableStart?_itemContext hnext' rfl) (underlineFrom?_itemContext hnext' _)
    (paragraphEnd_itemContext hnext' _)]
  rw [show (itemContext lines i number cs).indent = (itemMark number).length + 1 from rfl, htext,
    htrim]
  rfl

/-- Whether nothing behind a place belongs to an item. -/
def EndsItems (lines : List Line) (j : Nat) : Prop :=
  lines.length ≤ j ∨
    ((topContext lines).line j).isEmpty = false ∧ ((topContext lines).line j).indent = 0

theorem item_of_place {place : Nat} (hcs : isItemText cs = true)
    (hline : (topContext lines).line i = endedLine (itemChars number cs)) (hi : i < lines.length)
    (hnext : EndsItem ((topContext lines).line (i + 1)))
    (hplace : behind (topContext lines) lines.length (i + 1) = place)
    (hafter : EndsItems lines place) :
    item (blocks 20) (topContext lines) i lines.length (itemMarker number) =
      { next := place, tokens := itemTokens i cs } := by
  have hne : i ≠ place := by
    rw [← hplace, behind]
    split
    · omega
    · omega
  have hself : (itemContext lines i number cs).line i = itemContentLine number cs :=
    line_itemContext_self hi
  have hcontent : ((itemContext lines i number cs).line i).isEmpty = false := by
    obtain ⟨c, rest, rfl, -⟩ := exists_cons_of_isItemText hcs
    rw [hself]
    simp [Line.isEmpty, Line.content, itemContentLine, itemChars]
  have hindent : ((itemContext lines i number cs).indent : Int) ≤
      ((itemContext lines i number cs).line i).indent := by
    rw [hself]
    exact Int.le_refl _
  have hlevel : (itemContext lines i number cs).level <
      (itemContext lines i number cs).preset.maxNesting := show 2 < 20 by decide
  have hbehind : behind (itemContext lines i number cs) lines.length (i + 1) = place := by
    rw [behind, line_itemContext_ne (by omega)]
    exact hplace
  -- what stands behind is at the left of the item, so the item has this block only
  have hrest : lines.length ≤ place ∨ ((itemContext lines i number cs).line place).isEmpty = false ∧
      ((itemContext lines i number cs).line place).indent <
        ((itemContext lines i number cs).indent : Int) := by
    rw [line_itemContext_ne hne]
    refine hafter.imp id fun h => ⟨h.1, ?_⟩
    rw [h.2]
    exact Int.natCast_pos.mpr (Nat.succ_pos _)
  rw [item_itemChars hcs hline]
  change blocksFrom (blocks 19) (itemContext lines i number cs) lines.length
    (lines.length - i + 1) i = _
  rw [blocksFrom_succ hi hcontent hindent hlevel (block_itemContext hcs hi hnext), hbehind,
    blocksFrom_of_left hrest]
  simp

end Item

end MarkdownSections.Markdown.Block
