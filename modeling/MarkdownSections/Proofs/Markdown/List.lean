import MarkdownSections.Proofs.Markdown.Item

/-!
# Lists set apart

Items of one kind are a list (`block_list`): each is followed by the next one (`inner_item_of_sees`),
and what stands behind the empty line after the last has another mark, or none
(`last_item_of_sees`). The induction is on the items, while the numbers count up.
-/

set_option autoImplicit false

namespace MarkdownSections.Markdown.Block

open Passage

/-- The lines of items, numbered on from the first if that has a number. -/
def itemLines (number : Option Nat) : List (List Char) → List (List Char)
  | [] => []
  | cs :: items => itemChars number cs :: itemLines (number.map (· + 1)) items

/-- The tokens of the items of a list; the last one covers the empty line behind the list. -/
def itemsTokens (i : Nat) : List (List Char) → List Token
  | [] => []
  | cs :: items =>
    enclose "list_item" "li" 1 (lineRange i (if items.isEmpty then i + 2 else i + 1)) []
      (itemTokens i cs) ++ itemsTokens (i + 1) items

/-- Whether all items have numbers of nine digits at most, if they have numbers. -/
def areItemNumbers (number : Option Nat) (count : Nat) : Bool :=
  number.all fun n => n + count ≤ tenPow 9

theorem length_itemLines (number : Option Nat) (items : List (List Char)) :
    (itemLines number items).length = items.length := by
  induction items generalizing number with
  | nil => rfl
  | cons cs items ih => rw [itemLines, List.length_cons, List.length_cons, ih]

/-! ## What follows an item -/

theorem isRuleText_itemChars {number : Option Nat} {cs : List Char} (hcs : isItemText cs = true) :
    isRuleText (itemChars number cs) = false := by
  cases number with
  | none =>
      simp only [isItemText, Bool.and_eq_true, Bool.not_eq_true'] at hcs
      exact hcs.2
  | some n =>
      obtain ⟨c, digits, hdigits, hdigit⟩ := Text.exists_natDigits_eq_cons n
      have hmark : ¬((c = '*' ∨ c = '-') ∨ c = '_') := by
        rintro ((rfl | rfl) | rfl) <;> cases hdigit
      simp [itemChars, itemMark, hdigits, isRuleText, hmark]

section Further

variable {lines : List Line} {j : Nat} {number number' : Option Nat} {cs : List Char}

/-- The line of an item opens no fence and no quote, and is no rule. -/
theorem itemChars_opens (hcs : isItemText cs = true)
    (hline : (topContext lines).line j = endedLine (itemChars number cs)) :
    fence? (topContext lines) ((topContext lines).line j) = none ∧
      opensQuote (topContext lines) ((topContext lines).line j) = false ∧
        isRule (topContext lines) ((topContext lines).line j) = false := by
  obtain ⟨c, rest, hchars, hc⟩ := exists_itemChars_eq_cons number cs
  have hcontent : ((topContext lines).line j).content = c :: rest := by
    rw [hline, endedLine_itemChars, ← hchars]
    rfl
  have hmarks : c ≠ '~' ∧ c ≠ '\x60' ∧ c ≠ '>' := by
    rcases hc with rfl | hdigit
    · decide
    · refine ⟨?_, ?_, ?_⟩ <;> rintro rfl <;> cases hdigit
  refine ⟨fence?_eq_none hcontent hmarks.1 hmarks.2.1, opensQuote_eq_false hcontent hmarks.2.2, ?_⟩
  rw [isRule, hcontent, ← hchars, isRuleText_itemChars hcs, Bool.and_false]

theorem furtherMarker?_itemChars (hcs : isItemText cs = true)
    (hnumber : isItemNumber number' = true) (hsame : number'.isSome = number.isSome)
    (hj : j < lines.length)
    (hline : (topContext lines).line j = endedLine (itemChars number' cs)) :
    furtherMarker? (topContext lines) j lines.length (itemMarker number) =
      some (itemMarker number') := by
  have hinterrupts : interrupts (topContext lines) .list j lines.length = false := by
    obtain ⟨hfence, hquote, hrule⟩ := itemChars_opens hcs hline
    simp [interrupts, hfence, hquote, hrule]
  have hcontent : ((topContext lines).line j).content = itemChars number' cs := by
    rw [hline, endedLine_itemChars]
    rfl
  have hindent : ((topContext lines).line j).indent = 0 := by
    rw [hline, endedLine_itemChars]
  have hcode : (topContext lines).isCode ((topContext lines).line j) = false :=
    isCode_eq_false hindent
  have hleft : ¬((0 : Int) < (topContext lines).indent) := Int.lt_irrefl 0
  simp only [furtherMarker?, hindent, hcode, hinterrupts, hcontent, Nat.not_le.mpr hj, hleft]
  -- both items have numbers or both have hyphens
  cases number with
  | none =>
      cases number' with
      | none => rfl
      | some n' => cases hsame
  | some n =>
      cases number' with
      | none => cases hsame
      | some n' =>
          have hn' : n' < tenPow 9 := by simpa [isItemNumber] using hnumber
          change (numberMarker? (itemMark (some n') ++ ' ' :: cs)).filter _ = _
          rw [numberMarker?_itemMark hn']
          rfl

/-- Nothing that ends a list is a further item of it. -/
theorem furtherMarker?_of_endsList (hcs : endsList (itemMarker number).mark cs = true)
    (hline : (topContext lines).line j = endedLine cs) :
    furtherMarker? (topContext lines) j lines.length (itemMarker number) = none := by
  simp only [endsList, Bool.and_eq_true, Bool.or_eq_true] at hcs
  obtain ⟨-, hrule | ⟨hnumber, hbullet⟩⟩ := hcs
  · have hrule' : isRule (topContext lines) ((topContext lines).line j) = true := by
      rw [hline]
      exact hrule
    have hinterrupts : interrupts (topContext lines) .list j lines.length = true := by
      simp [interrupts, hrule']
      rfl
    simp [furtherMarker?, hinterrupts]
  · -- a marker of either kind has another mark
    have hother : ∀ marker? : Option ListMarker,
        marker?.all (·.mark != (itemMarker number).mark) = true →
          marker?.filter (·.mark = (itemMarker number).mark) = none := by
      intro marker? hmarker
      rw [Option.filter_eq_none_iff]
      intro marker hmem heq
      rw [Option.mem_def.mp hmem] at hmarker
      simp [of_decide_eq_true heq] at hmarker
    simp only [furtherMarker?, hline]
    split
    · rfl
    · split
      · exact hother _ hnumber
      · exact hother _ hbullet

end Further

/-! ## All items -/

section Items

variable {lines : List Line}

theorem isItemNumber_of_areItemNumbers {number : Option Nat} {count : Nat}
    (h : areItemNumbers number (count + 1) = true) : isItemNumber number = true := by
  cases number with
  | none => rfl
  | some n =>
      have hn : n + (count + 1) ≤ tenPow 9 := by simpa [areItemNumbers] using h
      have hlt : n < tenPow 9 := by omega
      simpa [isItemNumber] using hlt

theorem areItemNumbers_map {number : Option Nat} {count : Nat}
    (h : areItemNumbers number (count + 1) = true) :
    areItemNumbers (number.map (· + 1)) count = true := by
  cases number with
  | none => rfl
  | some n =>
      have hn : n + (count + 1) ≤ tenPow 9 := by simpa [areItemNumbers] using h
      have hle : n + 1 + count ≤ tenPow 9 := by omega
      simpa [areItemNumbers] using hle

/-- The last item of a list takes in the empty line behind it, and no item follows. -/
theorem last_item_of_sees {number : Option Nat} {cs : List Char} (hcs : isItemText cs = true)
    {later : List (List Char)} (hlater : ∀ x ∈ later.head?, endsList (itemMarker number).mark x = true) {i : Nat}
    (hsees : Sees (topContext lines) i ((itemChars number cs :: [] :: later).map endedLine))
    (hend : i + (later.length + 2) = lines.length) :
    item (blocks 20) (topContext lines) i lines.length (itemMarker number) =
        { next := i + 2, tokens := itemTokens i cs } ∧
      furtherMarker? (topContext lines) (i + 2) lines.length (itemMarker number) = none := by
  have hline : (topContext lines).line i = endedLine (itemChars number cs) := hsees.head
  have hempty : (topContext lines).line (i + 1) = endedLine [] := hsees.tail.head
  have hplace : behind (topContext lines) lines.length (i + 1) = i + 2 := by
    have hlt : i + 1 < lines.length := by omega
    simp [behind, hempty, hlt]
    rfl
  -- behind the empty line the text ends, or a line that is no item ends the list
  cases later with
  | nil =>
      rw [List.length_nil] at hend
      have hstop : lines.length ≤ i + 2 := by omega
      refine ⟨item_of_place hcs hline (by omega) (.inl hempty) hplace (.inl hstop), ?_⟩
      simp [furtherMarker?, hstop]
  | cons x later =>
      have hx : endsList (itemMarker number).mark x = true := hlater x rfl
      have hnext : (topContext lines).line (i + 2) = endedLine x := hsees.tail.tail.head
      refine ⟨item_of_place hcs hline (by omega) (.inl hempty) hplace (.inr ?_),
        furtherMarker?_of_endsList hx hnext⟩
      simp only [endsList, Bool.and_eq_true, Bool.not_eq_true', decide_eq_true_eq] at hx
      rw [hnext]
      exact hx.1

/-- An item in front of another is read up to that one. -/
theorem inner_item_of_sees {number number' : Option Nat} {cs cs' : List Char}
    (hcs : isItemText cs = true) (hcs' : isItemText cs' = true)
    (hnumber : isItemNumber number' = true) (hsame : number'.isSome = number.isSome) {i : Nat}
    (hline : (topContext lines).line i = endedLine (itemChars number cs))
    (hnext : (topContext lines).line (i + 1) = endedLine (itemChars number' cs'))
    (hend : i + 1 < lines.length) :
    item (blocks 20) (topContext lines) i lines.length (itemMarker number) =
        { next := i + 1, tokens := itemTokens i cs } ∧
      furtherMarker? (topContext lines) (i + 1) lines.length (itemMarker number) =
        some (itemMarker number') := by
  have hfacts : ((topContext lines).line (i + 1)).isEmpty = false ∧
      ((topContext lines).line (i + 1)).indent = 0 := by
    obtain ⟨c, rest, hchars, -⟩ := exists_itemChars_eq_cons number' cs'
    rw [hnext, endedLine_itemChars, hchars]
    exact ⟨rfl, rfl⟩
  have hplace : behind (topContext lines) lines.length (i + 1) = i + 1 := by
    simp [behind, hfacts.1]
  exact ⟨item_of_place hcs hline (by omega) (.inr ⟨number', cs', hnumber, hnext⟩) hplace
    (.inr hfacts), furtherMarker?_itemChars hcs' hnumber hsame hend hnext⟩

/-- The items of a list are read one behind the other, and the list takes in the empty line. -/
theorem items_of_sees {number : Option Nat} {cs : List Char} {items : List (List Char)}
    (hitems : ∀ x ∈ cs :: items, isItemText x = true)
    (hnumbers : areItemNumbers number (items.length + 1) = true) {later : List (List Char)}
    (hlater : ∀ x ∈ later.head?, endsList (itemMarker number).mark x = true) {i fuel : Nat}
    (hsees : Sees (topContext lines) i
      ((itemLines number (cs :: items) ++ [] :: later).map endedLine))
    (hend : i + (items.length + 2 + later.length) = lines.length) (hfuel : items.length < fuel) :
    Block.items (blocks 20) (topContext lines) lines.length fuel i (itemMarker number) =
      { next := i + items.length + 2, tokens := itemsTokens i (cs :: items) } := by
  -- the number grows from item to item, but the kind of the marks stays
  induction items generalizing number cs i fuel with
  | nil =>
      obtain ⟨fuel, rfl⟩ : ∃ k, fuel = k + 1 := ⟨fuel - 1, by omega⟩
      rw [List.length_nil] at hend
      obtain ⟨hitem, hfurther⟩ := last_item_of_sees (hitems cs List.mem_cons_self) hlater hsees
        (by omega)
      simp [Block.items, hitem, hfurther, itemsTokens]
      rfl
  | cons cs' items ih =>
      obtain ⟨fuel, rfl⟩ : ∃ k, fuel = k + 1 := ⟨fuel - 1, by omega⟩
      rw [List.length_cons] at hend hnumbers hfuel
      have hnumbers' := areItemNumbers_map hnumbers
      have hsees' : Sees (topContext lines) (i + 1)
          ((itemLines (number.map (· + 1)) (cs' :: items) ++ [] :: later).map endedLine) :=
        hsees.tail
      obtain ⟨hitem, hfurther⟩ := inner_item_of_sees (hitems cs List.mem_cons_self)
        (hitems cs' (by simp)) (isItemNumber_of_areItemNumbers hnumbers') (by simp) hsees.head
        hsees'.head (by omega)
      have hmark : (itemMarker (number.map (· + 1))).mark = (itemMarker number).mark := by
        cases number <;> rfl
      have hrest := ih (fun x hx => hitems x (List.mem_cons_of_mem cs hx)) hnumbers'
        (hmark.symm ▸ hlater) hsees' (by omega) (Nat.lt_of_succ_lt_succ hfuel)
      have hnext : i + 1 + items.length + 2 = i + (cs' :: items).length + 2 := by
        rw [List.length_cons]
        omega
      simp only [Block.items, hitem, hfurther, hrest, itemsTokens, hnext]
      rfl

end Items

/-! ## Lists as passages -/

/-- The tokens of a list. -/
def listTokens (number : Option Nat) (i : Nat) (items : List (List Char)) : List Token :=
  let lines := lineRange i (i + items.length + 1)
  match number with
  | some n =>
    enclose "ordered_list" "ol" 0 lines (if n = 1 then [] else [("start", .int n)])
      (itemsTokens i items)
  | none => enclose "bullet_list" "ul" 0 lines [] (itemsTokens i items)

/-- A list, numbered on from the first item if that has a number. -/
def listPassage (number : Option Nat) (items : List (List Char)) : Passage :=
  { lines := itemLines number items
    tokens := fun i => listTokens number i items
    mark? := some (itemMarker number).mark }

theorem isDelimiterRow_itemChars (number : Option Nat) (cs : List Char) :
    isDelimiterRow (itemChars number cs) = false := by
  cases number with
  | none => rfl
  | some n =>
      obtain ⟨c, digits, hdigits, hdigit⟩ := Text.exists_natDigits_eq_cons n
      have hmark : c ≠ '|' ∧ c ≠ '-' ∧ c ≠ ':' := by
        refine ⟨?_, ?_, ?_⟩ <;> rintro rfl <;> cases hdigit
      have hchars : itemChars (some n) cs = c :: (digits ++ '.' :: ' ' :: cs) := by
        simp [itemChars, itemMark, hdigits]
      rw [hchars]
      cases digits ++ '.' :: ' ' :: cs with
      | nil => rfl
      | cons d rest => simp [isDelimiterRow, hmark]

theorem tableStart?_itemLines {lines : List Line} {number : Option Nat} {cs : List Char}
    {items later : List (List Char)} {i stop : Nat}
    (hsees : Sees (topContext lines) i
      ((itemLines number (cs :: items) ++ [] :: later).map endedLine)) :
    tableStart? (topContext lines) i stop = none := by
  apply tableStart?_eq_none
  cases items with
  | nil =>
      rw [hsees.tail.head]
      rfl
  | cons cs' items =>
      rw [hsees.tail.head, endedLine_itemChars]
      exact isDelimiterRow_itemChars _ cs'

/-- Items are a list. -/
theorem block_list {lines : List Line} {number : Option Nat} {cs : List Char}
    {items : List (List Char)} (hitems : ∀ x ∈ cs :: items, isItemText x = true)
    (hnumbers : areItemNumbers number (items.length + 1) = true) {later : List (List Char)}
    (hlater : ∀ x ∈ later.head?, endsList (itemMarker number).mark x = true) {i : Nat}
    (hsees : Sees (topContext lines) i
      ((itemLines number (cs :: items) ++ [] :: later).map endedLine))
    (hend : i + (items.length + 2 + later.length) = lines.length) :
    block (blocks 20) (topContext lines) i lines.length =
      { next := i + items.length + 2, tokens := listTokens number i (cs :: items) } := by
  have hline : (topContext lines).line i = endedLine (itemChars number cs) := hsees.head
  have hcode : (topContext lines).isCode ((topContext lines).line i) = false := by
    apply isCode_eq_false
    rw [hline, endedLine_itemChars]
  have hmarker : listStart? (topContext lines) ((topContext lines).line i) false =
      some (itemMarker number) := by
    have hmark : listMarker? (itemChars number cs) = some (itemMarker number) :=
      listMarker?_itemMark (isItemNumber_of_areItemNumbers hnumbers) cs
    have hcontent : ((topContext lines).line i).content = itemChars number cs := by
      rw [hline, endedLine_itemChars]
      rfl
    simp only [listStart?, hcode, hcontent, hmark]
    rfl
  -- the readers that are asked before lists refuse the line, and the items are read one behind the
  -- other
  have hall : Block.items (blocks 20) (topContext lines) lines.length (lines.length - i) i
      (itemMarker number) = { next := i + items.length + 2, tokens := itemsTokens i (cs :: items) } :=
    items_of_sees hitems hnumbers hlater hsees hend (by omega)
  obtain ⟨hfence, hquote, hrule⟩ := itemChars_opens (hitems cs List.mem_cons_self) hline
  rw [block_eq rfl (tableStart?_itemLines hsees) hcode]
  simp [fencedCode?, hfence, quote?, hquote, thematicBreak?, hrule, list?, hmarker, hall]
  cases number with
  | none => rfl
  | some n => rfl

theorem isRead_list {number : Option Nat} {cs : List Char} {items : List (List Char)}
    (hitems : ∀ x ∈ cs :: items, isItemText x = true)
    (hnumbers : areItemNumbers number (items.length + 1) = true) :
    (listPassage number (cs :: items)).IsRead where
  opens := by
    obtain ⟨c, rest, hchars, -⟩ := exists_itemChars_eq_cons number cs
    refine ⟨itemChars number cs, _, rfl, ?_⟩
    rw [endedLine_itemChars, hchars]
    rfl
  reads := by
    intro lines i later hended hsees hend
    have hlength : (listPassage number (cs :: items)).lines.length = items.length + 1 :=
      length_itemLines number (cs :: items)
    have hsees' : Sees (topContext lines) i
        ((itemLines number (cs :: items) ++ [] :: later).map endedLine) := by
      simpa [written, listPassage] using hsees
    rw [List.length_append, length_written, hlength] at hend
    rw [block_list hitems hnumbers (hended _ rfl) hsees' (by omega), hlength]
    rfl

end MarkdownSections.Markdown.Block
