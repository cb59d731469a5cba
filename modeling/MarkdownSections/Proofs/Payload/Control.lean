import MarkdownSections.Proofs.Json.Control
import MarkdownSections.Proofs.Payload.Cuts

/-!
# Control characters in bracketed payloads

The lenient reader puts no control characters into its items and cells that do not stand in the
text: of its escapes only tabs, line feeds and carriage returns come out as control characters
(`unescape_cases`). So the items of a text without bare control characters have none
(`controlFree_of_readItems?`), and likewise the cells of a table (`controlFree_of_readTable`).

Whatever part of a text a step of the reader goes on with is a part of that text. Finding a part is
stated as an inclusion, and reading quoted texts, which changes characters, as `Text.ControlsIn`.
-/

set_option autoImplicit false

namespace MarkdownSections

theorem Text.trim_subset (cs : List Char) : trim cs ⊆ cs := by
  intro c hc
  obtain ⟨dropped, hsplit, -⟩ := exists_dropEndWhile_append isBlank (trimStart cs)
  have hstart : c ∈ trimStart cs := by
    rw [hsplit]
    exact List.mem_append_left dropped hc
  exact (List.dropWhile_sublist isBlank).subset hstart

namespace Bracket

/-! ## Quoted texts -/

/-- A character behind a backslash stands for itself or for one that is no bare control
character. -/
theorem unescape_cases (c : Char) : Text.isBareControl (unescape c) = false ∨ unescape c = c := by
  unfold unescape
  split
  · exact Or.inl (by decide)
  · split
    · exact Or.inl (by decide)
    · split
      · exact Or.inl (by decide)
      · exact Or.inr rfl

/-- The control characters of a quoted text stand in the open text so far or in the rest. -/
theorem controlsIn_of_mem_quotedTextsFrom {text current cs : List Char} {inside escaped : Bool}
    (h : text ∈ quotedTextsFrom current inside escaped cs) :
    Text.ControlsIn text (current ++ cs) := by
  induction cs generalizing current inside escaped with
  | nil => exact absurd h List.not_mem_nil
  | cons c cs ih =>
      -- a character that is skipped
      have hskip : current ++ cs ⊆ current ++ c :: cs :=
        List.append_subset.mpr ⟨List.subset_append_left _ _,
          List.subset_append_of_subset_right _ (List.subset_cons_self c cs)⟩
      unfold quotedTextsFrom at h
      split at h
      · -- an escaped character is added to the open text
        refine (ih h).trans ?_
        rw [List.cons_append]
        rcases unescape_cases c with hplain | hself
        · exact (Text.ControlsIn.of_subset hskip).cons hplain
        · rw [hself]
          exact Text.ControlsIn.of_subset (List.cons_subset.mpr ⟨by simp, hskip⟩)
      split at h
      · exact (ih h).trans (Text.ControlsIn.of_subset hskip)
      split at h
      · split at h
        · -- a closing quote ends the open text
          rcases List.mem_cons.mp h with rfl | h
          · refine Text.ControlsIn.of_subset fun x hx => ?_
            exact List.mem_append_left _ (List.mem_reverse.mp hx)
          · refine (ih h).trans (Text.ControlsIn.of_subset ?_)
            exact List.Subset.trans (List.subset_cons_self c cs) (List.subset_append_right _ _)
        · exact (ih h).trans (Text.ControlsIn.of_subset hskip)
      split at h
      · -- a character inside quotes is added as it is
        exact (ih h).trans (Text.ControlsIn.of_subset (List.cons_subset.mpr ⟨by simp, hskip⟩))
      · exact (ih h).trans (Text.ControlsIn.of_subset hskip)

theorem controlFree_of_mem_quotedTexts {span : List Char} (hspan : Text.ControlFree span)
    {text : List Char} (h : text ∈ quotedTexts span) : Text.ControlFree text :=
  (controlsIn_of_mem_quotedTextsFrom h).controlFree hspan

/-! ## Parts of a text -/

/-- A closing bracket that is found splits the text. -/
theorem eq_of_splitAtClose {depth : Nat} {inside escaped : Bool} {cs front rest : List Char}
    (h : splitAtClose depth inside escaped cs = some (front, rest)) :
    cs = front ++ ']' :: rest := by
  induction cs generalizing depth inside escaped front with
  | nil => cases h
  | cons c cs ih =>
      rcases splitAtClose_cons depth inside escaped c with ⟨rfl, hend⟩ | ⟨d, i, e, hpass⟩
      · rw [hend, Option.some.injEq, Prod.mk.injEq] at h
        obtain ⟨rfl, rfl⟩ := h
        rfl
      · rw [hpass] at h
        cases hcs : splitAtClose d i e cs with
        | none =>
            rw [hcs] at h
            cases h
        | some found =>
            obtain ⟨front', rest'⟩ := found
            rw [hcs] at h
            obtain ⟨rfl, rfl⟩ : c :: front' = front ∧ rest' = rest := by
              simpa [passed] using h
            rw [ih hcs]
            rfl

theorem bracketBody_subset (cs : List Char) : bracketBody cs ⊆ cs := by
  unfold bracketBody
  split
  · next front rest hsplit =>
      rw [eq_of_splitAtClose hsplit]
      exact List.subset_append_left front _
  · exact List.Subset.refl cs

theorem subset_of_afterKeyHere? {key cs rest : List Char} (h : afterKeyHere? key cs = some rest) :
    rest ⊆ cs := by
  unfold afterKeyHere? at h
  dsimp only at h
  split at h
  · split at h
    · next rest' hcolon =>
        cases h
        intro c hc
        have htrimmed : c ∈ Text.trimStart (cs.drop ('"' :: key ++ ['"']).length) := by
          rw [hcolon]
          exact List.mem_cons_of_mem ':' hc
        exact List.mem_of_mem_drop ((List.dropWhile_sublist Text.isBlank).subset htrimmed)
    · cases h
  · cases h

theorem subset_of_afterKey? {key cs rest : List Char} (h : afterKey? key cs = some rest) :
    rest ⊆ cs := by
  induction cs with
  | nil => cases h
  | cons c cs ih =>
      unfold afterKey? at h
      split at h
      · next hhere =>
          cases h
          exact subset_of_afterKeyHere? hhere
      · exact List.Subset.trans (ih h) (List.subset_cons_self c cs)

theorem subset_of_arrayAfter? {key cs body : List Char} (h : arrayAfter? key cs = some body) :
    body ⊆ cs := by
  obtain ⟨rest, hrest, h⟩ := Option.bind_eq_some_iff.mp h
  split at h
  · cases h
  · next bracket body' hopen =>
      cases h
      intro c hc
      have hbehind : c ∈ rest.dropWhile (· != '[') := by
        rw [hopen]
        exact List.mem_cons_of_mem bracket hc
      exact subset_of_afterKey? hrest ((List.dropWhile_sublist _).subset hbehind)

/-! ## Items and cells -/

/-- A text without bare control characters has items without them. -/
theorem controlFree_of_readItems? {cs : List Char} (hcs : Text.ControlFree cs)
    {items : List (List Char)} (h : readItems? cs = some items) :
    ∀ item ∈ items, Text.ControlFree item := by
  intro item hitem
  unfold readItems? at h
  split at h
  · next body hopen =>
      cases h
      have hbody : body ⊆ cs := by
        have htrimmed := Text.trim_subset cs
        rw [hopen] at htrimmed
        exact List.Subset.trans (List.subset_cons_self '[' body) htrimmed
      exact controlFree_of_mem_quotedTexts
        (hcs.of_subset (List.Subset.trans (bracketBody_subset body) hbody)) hitem
  · cases h

theorem controlFree_of_readHeaders {cs : List Char} (hcs : Text.ControlFree cs) :
    ∀ cell ∈ readHeaders cs, Text.ControlFree cell := by
  intro cell hcell
  unfold readHeaders at hcell
  split at hcell
  · next body hbody =>
      have hpart : bracketBody body ⊆ cs :=
        List.Subset.trans (bracketBody_subset body) (subset_of_arrayAfter? hbody)
      exact controlFree_of_mem_quotedTexts (hcs.of_subset hpart) hcell
  · exact absurd hcell List.not_mem_nil

theorem controlFree_of_readRows {fuel room : Nat} {cs : List Char} (hcs : Text.ControlFree cs) :
    ∀ row ∈ readRows fuel cs room, ∀ cell ∈ row, Text.ControlFree cell := by
  -- behind a row, the search goes on in a part of the text
  induction fuel generalizing cs room with
  | zero =>
      intro row hrow
      exact absurd hrow List.not_mem_nil
  | succ fuel ih =>
      intro row hrow cell hcell
      unfold readRows at hrow
      dsimp only at hrow
      split at hrow
      · exact absurd hrow List.not_mem_nil
      split at hrow
      · exact absurd hrow List.not_mem_nil
      next front rest hsplit =>
        have hbody := hcs.of_subset (List.drop_subset
          (((cs.take room).takeWhile (· != '[')).length + 1) cs)
        rw [eq_of_splitAtClose hsplit, Text.controlFree_append, Text.controlFree_cons] at hbody
        obtain ⟨hfront, -, hrest⟩ := hbody
        split at hrow
        · exact absurd hrow List.not_mem_nil
        split at hrow
        · exact ih hrest row hrow cell hcell
        · -- the row that starts here, or one behind it
          rcases List.mem_cons.mp hrow with rfl | hrow
          · exact controlFree_of_mem_quotedTexts hfront hcell
          · exact ih hrest row hrow cell hcell

/-- A text without bare control characters has cells without them. -/
theorem controlFree_of_readTable {cs : List Char} (hcs : Text.ControlFree cs) :
    (∀ cell ∈ (readTable cs).1, Text.ControlFree cell) ∧
      ∀ row ∈ (readTable cs).2, ∀ cell ∈ row, Text.ControlFree cell := by
  refine ⟨controlFree_of_readHeaders hcs, ?_⟩
  intro row hrow
  unfold readTable at hrow
  dsimp only at hrow
  split at hrow
  · next body hbody =>
      exact controlFree_of_readRows (hcs.of_subset (subset_of_arrayAfter? hbody)) row hrow
  · exact absurd hrow List.not_mem_nil

end Bracket

end MarkdownSections
