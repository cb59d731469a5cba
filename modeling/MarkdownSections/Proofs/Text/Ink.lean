import MarkdownSections.Proofs.Text.Blank
import MarkdownSections.Proofs.Text.Lines

/-!
# The lines of a text that show

What a text shows are its lines without the blanks at their ends, those that are nothing but blanks
left out (`inked`). Blanks at the end of the text do not change that (`inkedLines_append_blanks`):
they stand on the last line or make blank lines of their own. Lines that are put together with their
ends are the lines of the whole (`endedLines_flatten`).
-/

set_option autoImplicit false

namespace MarkdownSections.Text

/-- The lines that show something, each without the blanks at its end. -/
def inked (lines : List String) : List String :=
  (lines.map trimEndString).filter (· != "")

theorem inked_append (ls ls' : List String) : inked (ls ++ ls') = inked ls ++ inked ls' := by
  simp [inked]

/-- The lines of a text that show something, each without the blanks at its end. -/
def inkedLines (cs : List Char) : List (List Char) :=
  ((endedLines cs).map trimEnd).filter (· != [])

theorem inked_map_ofList (ls : List (List Char)) :
    inked (ls.map String.ofList) = ((ls.map trimEnd).filter (· != [])).map String.ofList := by
  -- Both steps are moved from strings to characters before the induction.
  have hempty : ∀ cs : List Char, (String.ofList cs != "") = (cs != []) := by
    intro cs
    rw [Bool.eq_iff_iff, bne_iff_ne, bne_iff_ne, ne_eq, ne_eq, String.ofList_eq_empty_iff]
  have htrim : ∀ cs : List Char, trimEndString (String.ofList cs) = String.ofList (trimEnd cs) := by
    intro cs
    rw [trimEndString, String.toList_ofList]
  induction ls with
  | nil => rfl
  | cons l ls ih =>
      unfold inked at ih ⊢
      rw [List.map_cons, List.map_cons, List.map_cons, List.filter_cons, List.filter_cons, ih,
        htrim, hempty]
      split
      · rw [List.map_cons]
      · rfl

/-! ## Blanks at the end -/

/-- A character in front of a trimmed text; a blank stays only in front of a character. -/
def trimCons (c : Char) (cs : List Char) : List Char :=
  if cs = [] ∧ isBlank c = true then [] else c :: cs

theorem trimEnd_cons (c : Char) (cs : List Char) : trimEnd (c :: cs) = trimCons c (trimEnd cs) := by
  unfold trimEnd trimCons dropEndWhile
  rw [List.reverse_cons, List.dropWhile_append]
  cases hrest : cs.reverse.dropWhile isBlank with
  | nil => cases hc : isBlank c <;> simp [hc]
  | cons d rest => simp

/-- The first line of a text, trimmed. -/
def firstInk (cs : List Char) : List Char :=
  trimEnd ((endedLines cs).headD [])

/-- The later lines of a text that show something. -/
def laterInk (cs : List Char) : List (List Char) :=
  ((endedLines cs).tail.map trimEnd).filter (· != [])

theorem inkedLines_eq (cs : List Char) :
    inkedLines cs = (if firstInk cs = [] then [] else [firstInk cs]) ++ laterInk cs := by
  unfold inkedLines firstInk laterInk
  cases endedLines cs with
  | nil => rfl
  | cons l ls =>
      rw [List.map_cons, List.filter_cons, List.headD_cons, List.tail_cons]
      by_cases h : trimEnd l = []
      · simp [h]
      · simp [h]

theorem firstInk_newline (cs : List Char) : firstInk ('\n' :: cs) = [] := by
  unfold firstInk
  rw [endedLines_newline, List.headD_cons]
  decide

theorem laterInk_newline (cs : List Char) : laterInk ('\n' :: cs) = inkedLines cs := rfl

theorem ink_cons {c : Char} (h : c ≠ '\n') (cs : List Char) :
    firstInk (c :: cs) = trimCons c (firstInk cs) ∧ laterInk (c :: cs) = laterInk cs := by
  unfold firstInk laterInk
  by_cases hnil : cs = []
  · subst hnil
    rw [endedLines_singleton h]
    exact ⟨trimEnd_cons c ['\n'], rfl⟩
  · obtain ⟨line, rest, hlines⟩ := exists_endedLines_eq_cons hnil
    rw [endedLines_cons h hlines, hlines]
    exact ⟨trimEnd_cons c line, rfl⟩

/-- Blanks show nothing. -/
theorem ink_of_blank {w : List Char} (hw : ∀ c ∈ w, isBlank c = true) :
    firstInk w = [] ∧ laterInk w = [] := by
  induction w with
  | nil => exact ⟨rfl, rfl⟩
  | cons c w ih =>
      obtain ⟨hc, hrest⟩ := List.forall_mem_cons.mp hw
      obtain ⟨hfirst, hlater⟩ := ih hrest
      by_cases hnewline : c = '\n'
      · subst hnewline
        rw [firstInk_newline, laterInk_newline, inkedLines_eq, hfirst, hlater]
        exact ⟨rfl, rfl⟩
      · obtain ⟨hf, hl⟩ := ink_cons hnewline w
        rw [hf, hl, hfirst, hlater, trimCons, if_pos ⟨rfl, hc⟩]
        exact ⟨rfl, rfl⟩

theorem ink_append_blanks {w : List Char} (hw : ∀ c ∈ w, isBlank c = true) (cs : List Char) :
    firstInk (cs ++ w) = firstInk cs ∧ laterInk (cs ++ w) = laterInk cs := by
  induction cs with
  | nil => exact ink_of_blank hw
  | cons c cs ih =>
      obtain ⟨hfirst, hlater⟩ := ih
      rw [List.cons_append]
      by_cases hnewline : c = '\n'
      · subst hnewline
        rw [firstInk_newline, firstInk_newline, laterInk_newline, laterInk_newline, inkedLines_eq,
          inkedLines_eq, hfirst, hlater]
        exact ⟨rfl, rfl⟩
      · obtain ⟨hf, hl⟩ := ink_cons hnewline cs
        obtain ⟨hf', hl'⟩ := ink_cons hnewline (cs ++ w)
        rw [hf, hl, hf', hl', hfirst, hlater]
        exact ⟨rfl, rfl⟩

/-- Blanks at the end of a text, line ends among them, do not change what it shows. -/
theorem inkedLines_append_blanks {w : List Char} (hw : ∀ c ∈ w, isBlank c = true)
    (cs : List Char) : inkedLines (cs ++ w) = inkedLines cs := by
  obtain ⟨hfirst, hlater⟩ := ink_append_blanks hw cs
  rw [inkedLines_eq, inkedLines_eq, hfirst, hlater]

theorem inkedLines_trimEnd (cs : List Char) : inkedLines (trimEnd cs) = inkedLines cs := by
  obtain ⟨dropped, hsplit, hblank⟩ := exists_dropEndWhile_append isBlank cs
  have h : inkedLines (dropEndWhile isBlank cs ++ dropped) = inkedLines (trimEnd cs) :=
    inkedLines_append_blanks hblank _
  rw [← hsplit] at h
  exact h.symm

/-! ## Lines of a text -/

/-- A line with its end: a line feed behind characters that end no line. -/
def IsEndedLine (l : List Char) : Prop :=
  ∃ cs, l = cs ++ ['\n'] ∧ '\n' ∉ cs ∧ '\r' ∉ cs

theorem isEndedLine_of_mem {cs l : List Char} (h : '\r' ∉ cs) (hl : l ∈ endedLines cs) :
    IsEndedLine l := by
  induction cs generalizing l with
  | nil => cases hl
  | cons c cs ih =>
      rw [List.mem_cons, not_or] at h
      by_cases hnewline : c = '\n'
      · subst hnewline
        rw [endedLines_newline] at hl
        rcases List.mem_cons.mp hl with rfl | hl
        · exact ⟨[], rfl, List.not_mem_nil, List.not_mem_nil⟩
        · exact ih h.2 hl
      · -- A character that ends no line may stand in front of an ended one.
        have hcons : ∀ cs', '\n' ∉ cs' → '\r' ∉ cs' → IsEndedLine (c :: (cs' ++ ['\n'])) :=
          fun cs' hfeed hreturn => ⟨c :: cs', rfl, by simp [Ne.symm hnewline, hfeed],
            by simp [h.1, hreturn]⟩
        by_cases hnil : cs = []
        · subst hnil
          rw [endedLines_singleton hnewline] at hl
          rw [List.mem_singleton.mp hl]
          exact hcons [] List.not_mem_nil List.not_mem_nil
        · obtain ⟨line, rest, hlines⟩ := exists_endedLines_eq_cons hnil
          rw [endedLines_cons hnewline hlines] at hl
          rcases List.mem_cons.mp hl with rfl | hl
          · obtain ⟨cs', rfl, hfeed, hreturn⟩ := ih h.2 (hlines ▸ List.mem_cons_self)
            exact hcons cs' hfeed hreturn
          · exact ih h.2 (hlines ▸ List.mem_cons_of_mem line hl)

theorem return_notMem_unifyNewlines (cs : List Char) : '\r' ∉ unifyNewlines cs := by
  induction cs using unifyNewlines.induct with
  | case1 => exact List.not_mem_nil
  | case2 cs ih =>
      rw [unifyNewlines_pair]
      simpa using ih
  | case3 cs hpair ih =>
      rw [unifyNewlines_return hpair]
      simpa using ih
  | case4 c cs hpair hreturn ih =>
      have hc : c ≠ '\r' := hreturn
      rw [unifyNewlines_cons hc, List.mem_cons, not_or]
      exact ⟨Ne.symm hc, ih⟩

/-- Lines with their ends, put together, are the lines of the whole. -/
theorem endedLines_flatten {ls : List (List Char)} (h : ∀ l ∈ ls, IsEndedLine l) :
    endedLines ls.flatten = ls := by
  induction ls with
  | nil => rfl
  | cons l ls ih =>
      obtain ⟨⟨cs, rfl, hfeed, -⟩, hrest⟩ := List.forall_mem_cons.mp h
      rw [List.flatten_cons, List.append_assoc, List.singleton_append, endedLines_line hfeed,
        ih hrest]

theorem inked_sourceLines {text : String} (h : '\r' ∉ text.toList) :
    inked (sourceLines text) = (inkedLines text.toList).map String.ofList := by
  rw [sourceLines, unifyNewlines_of_notMem h, inked_map_ofList]
  rfl

/-- Lines that are put together show what each of them shows, also with other blanks at the end. -/
theorem inked_sourceLines_join {ls : List String} (h : ∀ l ∈ ls, IsEndedLine l.toList) :
    inked (sourceLines (trimEndString (String.join ls) ++ "\n" ++ "\n")) = inked ls := by
  have hended : ∀ l ∈ ls.map String.toList, IsEndedLine l := List.forall_mem_map.mpr h
  have htext : (trimEndString (String.join ls) ++ "\n" ++ "\n").toList =
      trimEnd (ls.map String.toList).flatten ++ ['\n', '\n'] := by
    rw [String.toList_append, String.toList_append, trimEndString, String.toList_ofList,
      String.toList_join, List.flatMap_def, List.append_assoc]
    rfl
  -- neither the lines nor what stands behind them hold a carriage return
  have hreturn : '\r' ∉ (trimEndString (String.join ls) ++ "\n" ++ "\n").toList := by
    rw [htext, List.mem_append, not_or]
    refine ⟨fun hmem => ?_, by decide⟩
    obtain ⟨l, hl, hmem⟩ := List.mem_flatten.mp ((dropEndWhile_sublist _ _).subset hmem)
    obtain ⟨cs, rfl, -, hnone⟩ := hended l hl
    exact (List.mem_append.mp hmem).elim hnone (by decide)
  have hlines : (ls.map String.toList).map String.ofList = ls := by
    rw [List.map_map]
    exact List.map_id'' (fun l => String.ofList_toList) ls
  have hblank : ∀ c ∈ ['\n', '\n'], isBlank c = true :=
    List.forall_mem_cons.mpr ⟨by decide, List.forall_mem_singleton.mpr (by decide)⟩
  rw [inked_sourceLines hreturn, htext, inkedLines_append_blanks hblank, inkedLines_trimEnd,
    inkedLines, endedLines_flatten hended, ← inked_map_ofList, hlines]

end MarkdownSections.Text
