import MarkdownSections.Text.Blank
import MarkdownSections.Text.Lines

/-!
# Line ends

A text whose line feeds all become pairs of carriage return and line feed has the same lines
(`unifyNewlines_withReturns`). A text that ends a line, with another text behind it, has the lines
of the one and then those of the other (`sourceLines_append`).

The lines of a text are as many as its line feeds exactly if every carriage return in it belongs to
a pair and nothing stands behind the last line feed (`length_sourceLines`); otherwise
they are more.

Visual lines end at more characters; a line without such characters is one of them
(`visualLines_append_newline`).
-/

set_option autoImplicit false

namespace MarkdownSections.Text

/-- A text ends with a line feed, or holds nothing at all. -/
def EndsLine (cs : List Char) : Prop :=
  ∀ c ∈ cs.getLast?, c = '\n'

instance (cs : List Char) : Decidable (EndsLine cs) :=
  decidable_of_iff (cs.getLast?.all (· == '\n') = true) (by simp [EndsLine, Option.all_eq_true])

theorem endsLine_nil : EndsLine [] := by
  rintro c ⟨⟩

theorem endsLine_singleton {c : Char} : EndsLine [c] ↔ c = '\n' := by
  simp [EndsLine]

theorem endsLine_cons {cs : List Char} (hne : cs ≠ []) (c : Char) :
    EndsLine (c :: cs) ↔ EndsLine cs := by
  unfold EndsLine
  rw [List.getLast?_cons, List.getLast?_eq_some_getLast hne, Option.getD_some]

theorem EndsLine.append_left {as bs : List Char} (hne : bs ≠ []) (h : EndsLine bs) :
    EndsLine (as ++ bs) := by
  intro c hc
  rw [List.getLast?_append, List.getLast?_eq_some_getLast hne, Option.some_or] at hc
  exact h c (by rwa [List.getLast?_eq_some_getLast hne])

theorem EndsLine.append {as bs : List Char} (ha : EndsLine as) (hb : EndsLine bs) :
    EndsLine (as ++ bs) := by
  cases bs with
  | nil => rwa [List.append_nil]
  | cons b bs => exact hb.append_left (List.cons_ne_nil b bs)

/-! ## Pairs in place of line feeds -/

/-- A text with a carriage return in front of every line feed. -/
def withReturns (cs : List Char) : List Char :=
  cs.flatMap fun c => if c = '\n' then ['\r', '\n'] else [c]

@[simp] theorem withReturns_nil : withReturns [] = [] := rfl

@[simp] theorem withReturns_newline (cs : List Char) :
    withReturns ('\n' :: cs) = '\r' :: '\n' :: withReturns cs := rfl

theorem withReturns_cons {c : Char} (h : c ≠ '\n') (cs : List Char) :
    withReturns (c :: cs) = c :: withReturns cs := by
  simp [withReturns, h]

theorem withReturns_append (as bs : List Char) :
    withReturns (as ++ bs) = withReturns as ++ withReturns bs :=
  List.flatMap_append

/-- A character that is neither of a pair stands for itself. -/
theorem exists_of_withReturns_eq_cons {cs rest : List Char} {c : Char}
    (h : withReturns cs = c :: rest) (hfeed : c ≠ '\n') (hreturn : c ≠ '\r') :
    ∃ cs', cs = c :: cs' ∧ withReturns cs' = rest := by
  cases cs with
  | nil => cases h
  | cons d cs =>
      by_cases hd : d = '\n'
      · subst hd
        exact absurd (List.cons.inj h).1.symm hreturn
      · rw [withReturns_cons hd] at h
        obtain ⟨rfl, hrest⟩ := List.cons.inj h
        exact ⟨cs, rfl, hrest⟩

theorem count_newline_withReturns (cs : List Char) :
    (withReturns cs).count '\n' = cs.count '\n' := by
  induction cs with
  | nil => rfl
  | cons c cs ih =>
      by_cases hc : c = '\n'
      · subst hc
        simp [ih]
      · simp [withReturns_cons hc, hc, ih]

/-! ## Unified line ends -/

theorem unifyNewlines_pair (cs : List Char) :
    unifyNewlines ('\r' :: '\n' :: cs) = '\n' :: unifyNewlines cs := rfl

theorem unifyNewlines_cons {c : Char} (h : c ≠ '\r') (cs : List Char) :
    unifyNewlines (c :: cs) = c :: unifyNewlines cs :=
  unifyNewlines.eq_4 c cs (fun _ hc _ => h hc) h

theorem unifyNewlines_return {cs : List Char} (h : ∀ rest, cs ≠ '\n' :: rest) :
    unifyNewlines ('\r' :: cs) = '\n' :: unifyNewlines cs :=
  unifyNewlines.eq_3 cs h

/-- A text without carriage returns is left as it is. -/
theorem unifyNewlines_of_notMem {cs : List Char} (h : '\r' ∉ cs) : unifyNewlines cs = cs := by
  induction cs with
  | nil => rfl
  | cons c cs ih =>
      rw [List.mem_cons, not_or] at h
      rw [unifyNewlines_cons (Ne.symm h.1), ih h.2]

/-- Unified line ends take the carriage returns back out. -/
theorem unifyNewlines_withReturns {cs : List Char} (h : '\r' ∉ cs) :
    unifyNewlines (withReturns cs) = cs := by
  induction cs with
  | nil => rfl
  | cons c cs ih =>
      rw [List.mem_cons, not_or] at h
      by_cases hc : c = '\n'
      · subst hc
        rw [withReturns_newline, unifyNewlines_pair, ih h.2]
      · rw [withReturns_cons hc, unifyNewlines_cons (Ne.symm h.1), ih h.2]

/-- Both spellings of the line ends of a text are unified alike. -/
theorem unifyNewlines_withReturns_eq {cs : List Char} (h : '\r' ∉ cs) :
    unifyNewlines (withReturns cs) = unifyNewlines cs := by
  rw [unifyNewlines_withReturns h, unifyNewlines_of_notMem h]

/-- How many carriage returns of a text have no line feed behind them. -/
def loneReturns : List Char → Nat
  | [] => 0
  | '\r' :: '\n' :: cs => loneReturns cs
  | '\r' :: cs => loneReturns cs + 1
  | _ :: cs => loneReturns cs

/-- Every lone carriage return becomes a line feed of its own. -/
theorem count_newline_unifyNewlines (cs : List Char) :
    (unifyNewlines cs).count '\n' = cs.count '\n' + loneReturns cs := by
  induction cs using unifyNewlines.induct with
  | case1 => rfl
  | case2 cs ih =>
      rw [unifyNewlines, loneReturns, List.count_cons_self, ih]
      simp only [List.count_cons_self, List.count_cons_of_ne (by decide : '\r' ≠ '\n')]
      omega
  | case3 cs hpair ih =>
      rw [unifyNewlines_return hpair, loneReturns.eq_3 cs hpair, List.count_cons_self, ih,
        List.count_cons_of_ne (by decide)]
      omega
  | case4 c cs hpair hreturn ih =>
      have hc : c ≠ '\r' := hreturn
      rw [unifyNewlines_cons hc, loneReturns.eq_4 c cs hpair hreturn, List.count_cons,
        List.count_cons, ih]
      omega

/-- The last character is kept, but for a carriage return. -/
theorem getLast?_unifyNewlines (cs : List Char) :
    (unifyNewlines cs).getLast? = cs.getLast?.map fun c => if c = '\r' then '\n' else c := by
  -- a text in front of which a character stands has the same last character, if it has one
  have hcons : ∀ (c d : Char) (cs : List Char), (d = if c = '\r' then '\n' else c) →
      (unifyNewlines cs).getLast? = cs.getLast?.map (fun c => if c = '\r' then '\n' else c) →
      (d :: unifyNewlines cs).getLast? =
        (c :: cs).getLast?.map fun c => if c = '\r' then '\n' else c := by
    intro c d cs hd ih
    rw [List.getLast?_cons, List.getLast?_cons, ih, hd]
    cases cs.getLast? with
    | none => rfl
    | some e => rfl
  induction cs using unifyNewlines.induct with
  | case1 => rfl
  | case2 cs ih =>
      rw [unifyNewlines_pair, List.getLast?_cons_cons]
      exact hcons '\n' '\n' cs rfl ih
  | case3 cs hpair ih =>
      rw [unifyNewlines_return hpair]
      exact hcons '\r' '\n' cs rfl ih
  | case4 c cs hpair hreturn ih =>
      rw [unifyNewlines_cons hreturn]
      exact hcons c c cs (if_neg hreturn).symm ih

theorem EndsLine.unifyNewlines {cs : List Char} (h : EndsLine cs) :
    EndsLine (unifyNewlines cs) := by
  intro c hc
  rw [getLast?_unifyNewlines] at hc
  obtain ⟨d, hd, rfl⟩ := Option.map_eq_some_iff.mp hc
  rw [h d hd]
  rfl

theorem getLast?_ne_return {cs : List Char} (h : loneReturns cs = 0) :
    cs.getLast? ≠ some '\r' := by
  induction cs using loneReturns.induct with
  | case1 => decide
  | case2 cs ih =>
      cases cs with
      | nil => decide
      | cons d cs => exact ih h
  | case3 cs hpair ih =>
      rw [loneReturns.eq_3 cs hpair] at h
      cases h
  | case4 c cs hpair hreturn ih =>
      rw [loneReturns.eq_4 c cs hpair hreturn] at h
      cases cs with
      | nil => exact fun heq => hreturn (Option.some.inj heq)
      | cons d cs => exact ih h

/-- Without lone carriage returns, unified line ends end a line only where the text does. -/
theorem EndsLine.of_unifyNewlines {cs : List Char} (hpaired : loneReturns cs = 0)
    (h : EndsLine (Text.unifyNewlines cs)) : EndsLine cs := by
  intro c hc
  have hreturn : c ≠ '\r' := fun heq => getLast?_ne_return hpaired (heq ▸ hc)
  refine h c ?_
  rw [getLast?_unifyNewlines, hc, Option.map_some, if_neg hreturn]
  rfl

/-- Line ends are unified in two texts apart, if the first ends a line. -/
theorem unifyNewlines_append {as : List Char} (h : EndsLine as) (bs : List Char) :
    unifyNewlines (as ++ bs) = unifyNewlines as ++ unifyNewlines bs := by
  -- a pair could only be torn apart by a return at the end of the first text
  induction as using unifyNewlines.induct with
  | case1 => rfl
  | case2 as ih =>
      have has : EndsLine as := by
        by_cases hnil : as = []
        · exact hnil ▸ endsLine_nil
        · rwa [endsLine_cons (List.cons_ne_nil _ _), endsLine_cons hnil] at h
      rw [List.cons_append, List.cons_append, unifyNewlines_pair, unifyNewlines_pair, ih has,
        List.cons_append]
  | case3 as hpair ih =>
      cases as with
      | nil => exact absurd (endsLine_singleton.mp h) (by decide)
      | cons a as =>
          have hne : ∀ rest, a :: as ++ bs ≠ '\n' :: rest := fun rest heq =>
            hpair as (by rw [(List.cons.inj heq).1])
          rw [List.cons_append, unifyNewlines_return hne, unifyNewlines_return hpair,
            ih ((endsLine_cons (List.cons_ne_nil _ _) _).mp h), List.cons_append]
  | case4 c as hpair hreturn ih =>
      have has : EndsLine as := by
        by_cases hnil : as = []
        · exact hnil ▸ endsLine_nil
        · exact (endsLine_cons hnil _).mp h
      rw [List.cons_append, unifyNewlines_cons hreturn, unifyNewlines_cons hreturn, ih has,
        List.cons_append]

/-! ## Lines -/

theorem endedLines_newline (cs : List Char) :
    endedLines ('\n' :: cs) = ['\n'] :: endedLines cs := rfl

theorem endedLines_singleton {c : Char} (h : c ≠ '\n') : endedLines [c] = [[c, '\n']] := by
  rw [endedLines, if_neg h]
  rfl

/-- A character in front of a text stands in its first line. -/
theorem endedLines_cons {c : Char} (h : c ≠ '\n') {cs : List Char} {line : List Char}
    {rest : List (List Char)} (hcs : endedLines cs = line :: rest) :
    endedLines (c :: cs) = (c :: line) :: rest := by
  rw [endedLines, if_neg h, hcs]

/-- A text without line feeds is one line up to a line feed. -/
theorem endedLines_line {cs : List Char} (h : '\n' ∉ cs) (rest : List Char) :
    endedLines (cs ++ '\n' :: rest) = (cs ++ ['\n']) :: endedLines rest := by
  induction cs with
  | nil => rfl
  | cons c cs ih =>
      rw [List.mem_cons, not_or] at h
      exact endedLines_cons (Ne.symm h.1) (ih h.2)

/-- A text without line feeds is one line, if it is not empty. -/
theorem endedLines_lastLine {cs : List Char} (h : '\n' ∉ cs) (hne : cs ≠ []) :
    endedLines cs = [cs ++ ['\n']] := by
  induction cs with
  | nil => exact absurd rfl hne
  | cons c cs ih =>
      rw [List.mem_cons, not_or] at h
      cases cs with
      | nil => exact endedLines_singleton (Ne.symm h.1)
      | cons d cs => exact endedLines_cons (Ne.symm h.1) (ih h.2 (List.cons_ne_nil d cs))

theorem exists_endedLines_eq_cons {cs : List Char} (h : cs ≠ []) :
    ∃ line rest, endedLines cs = line :: rest := by
  cases cs with
  | nil => exact absurd rfl h
  | cons c cs =>
      unfold endedLines
      split
      · exact ⟨_, _, rfl⟩
      · cases endedLines cs with
        | nil => exact ⟨_, _, rfl⟩
        | cons line rest => exact ⟨_, _, rfl⟩

/-- The lines of two texts in a row, if the first ends a line. -/
theorem endedLines_append {as : List Char} (h : EndsLine as) (bs : List Char) :
    endedLines (as ++ bs) = endedLines as ++ endedLines bs := by
  induction as with
  | nil => rfl
  | cons a as ih =>
      by_cases hnil : as = []
      · subst hnil
        rw [endsLine_singleton.mp h]
        rfl
      · have hrest := ih ((endsLine_cons hnil a).mp h)
        by_cases ha : a = '\n'
        · subst ha
          rw [List.cons_append, endedLines_newline, endedLines_newline, hrest, List.cons_append]
        · obtain ⟨line, rest, hlines⟩ := exists_endedLines_eq_cons hnil
          rw [hlines, List.cons_append] at hrest
          rw [List.cons_append, endedLines_cons ha hrest, endedLines_cons ha hlines,
            List.cons_append]

/-- A text has a line for every line feed, and one more if it does not end with one. -/
theorem length_endedLines (cs : List Char) :
    cs.count '\n' ≤ (endedLines cs).length ∧
      ((endedLines cs).length = cs.count '\n' ↔ EndsLine cs) := by
  induction cs with
  | nil => exact ⟨Nat.le_refl 0, fun _ => endsLine_nil, fun _ => rfl⟩
  | cons c cs ih =>
      -- only the last character tells whether the last line is ended
      by_cases hnil : cs = []
      · subst hnil
        rw [endsLine_singleton]
        by_cases hc : c = '\n'
        · subst hc
          simp [endedLines]
        · rw [endedLines_singleton hc]
          simp [hc]
      · rw [endsLine_cons hnil]
        by_cases hc : c = '\n'
        · subst hc
          rw [endedLines_newline, List.length_cons, List.count_cons_self]
          exact ⟨Nat.succ_le_succ ih.1, fun h => ih.2.mp (Nat.succ.inj h),
            fun h => congrArg Nat.succ (ih.2.mpr h)⟩
        · obtain ⟨line, rest, hlines⟩ := exists_endedLines_eq_cons hnil
          rw [endedLines_cons hc hlines, List.count_cons_of_ne hc, List.length_cons,
            ← List.length_cons (a := line), ← hlines]
          exact ih

/-- The source lines of two texts in a row, if the first ends a line. -/
theorem sourceLines_append {as : List Char} (h : EndsLine as) (bs : List Char) :
    sourceLines (String.ofList (as ++ bs)) =
      sourceLines (String.ofList as) ++ sourceLines (String.ofList bs) := by
  unfold sourceLines
  simp only [String.toList_ofList]
  rw [unifyNewlines_append h, endedLines_append h.unifyNewlines, List.map_append]

/-- A text has as many source lines as line feeds, or more; it has as many exactly if it ends with a
line feed and none of its carriage returns stands alone. -/
theorem length_sourceLines (cs : List Char) :
    cs.count '\n' ≤ (sourceLines (String.ofList cs)).length ∧
      ((sourceLines (String.ofList cs)).length = cs.count '\n' ↔
        loneReturns cs = 0 ∧ EndsLine cs) := by
  have hcount := count_newline_unifyNewlines cs
  obtain ⟨hle, hiff⟩ := length_endedLines (unifyNewlines cs)
  have hlength : (sourceLines (String.ofList cs)).length =
      (endedLines (unifyNewlines cs)).length := by
    unfold sourceLines
    rw [List.length_map, String.toList_ofList]
  rw [hlength]
  refine ⟨by omega, fun h => ?_, fun ⟨hpaired, hends⟩ => ?_⟩
  · have hpaired : loneReturns cs = 0 := by omega
    exact ⟨hpaired, EndsLine.of_unifyNewlines hpaired (hiff.mp (by omega))⟩
  · have heq := hiff.mpr hends.unifyNewlines
    omega

/-! ## Visual lines -/

section Visual

variable {line : List Char} (hline : ∀ c ∈ line, isLineEnd c = false)

include hline

theorem visualLinesFrom_append (front rest : List Char) :
    visualLinesFrom front (line ++ rest) = visualLinesFrom (line.reverse ++ front) rest := by
  induction line generalizing front with
  | nil => rfl
  | cons c cs ih =>
      have hc : isLineEnd c = false := hline c List.mem_cons_self
      have hreturn : c ≠ '\r' := by
        rintro rfl
        cases hc
      have hrest := ih (fun x hx => hline x (List.mem_cons_of_mem c hx)) (c :: front)
      rw [List.cons_append, visualLinesFrom.eq_3 _ _ _ fun _ heq _ => hreturn heq, hc, hrest]
      simp

theorem visualLines_append_newline (rest : List Char) :
    visualLines (line ++ '\n' :: rest) = line :: visualLines rest := by
  rw [visualLines, visualLinesFrom_append hline]
  simp [visualLinesFrom, isLineEnd, visualLines]

theorem visualLines_of_line (hne : line ≠ []) : visualLines line = [line] := by
  have h := visualLinesFrom_append hline [] []
  rw [List.append_nil, List.append_nil] at h
  rw [visualLines, h]
  simp [visualLinesFrom, hne]

end Visual

/-- What ends a visual line is white space. -/
theorem isBlank_of_isLineEnd {c : Char} (h : isLineEnd c = true) : Text.isBlank c = true := by
  simp only [isLineEnd, isBlank, Bool.or_eq_true, Bool.and_eq_true, decide_eq_true_eq,
    beq_iff_eq] at h ⊢
  omega

/-- No visual line holds a character that ends one. -/
theorem isLineEnd_of_mem_visualLinesFrom {front cs line : List Char}
    (hfront : ∀ c ∈ front, isLineEnd c = false) (h : line ∈ visualLinesFrom front cs) :
    ∀ c ∈ line, isLineEnd c = false := by
  have hopen : ∀ c ∈ front.reverse, isLineEnd c = false := fun c hc =>
    hfront c (List.mem_reverse.mp hc)
  fun_induction visualLinesFrom front cs with
  | case1 front hempty => cases h
  | case2 front hempty =>
      rw [List.mem_singleton.mp h]
      exact hopen
  | case3 front cs ih =>
      rcases List.mem_cons.mp h with rfl | h
      · exact hopen
      · exact ih (by simp) h (by simp)
  | case4 front c cs hpair hend ih =>
      rcases List.mem_cons.mp h with rfl | h
      · exact hopen
      · exact ih (by simp) h (by simp)
  | case5 front c cs hpair hend ih =>
      have hgrown : ∀ x ∈ c :: front, isLineEnd x = false :=
        List.forall_mem_cons.mpr ⟨Bool.eq_false_iff.mpr hend, hfront⟩
      exact ih hgrown h fun x hx => hgrown x (List.mem_reverse.mp hx)

theorem isLineEnd_of_mem_visualLines {cs line : List Char} (h : line ∈ visualLines cs) :
    ∀ c ∈ line, isLineEnd c = false :=
  isLineEnd_of_mem_visualLinesFrom (by simp) h

/-- A text that does not end with a line end ends with its last visual line. -/
theorem exists_visualLinesFrom_append {c : Char} (hc : isLineEnd c = false) (front cs : List Char) :
    ∃ init line, visualLinesFrom front (cs ++ [c]) = init ++ [line ++ [c]] := by
  have hlast : ∀ front : List Char, visualLinesFrom front [c] = [front.reverse ++ [c]] := by
    intro front
    have hline : ∀ x ∈ [c], isLineEnd x = false := by simpa using hc
    have happend := visualLinesFrom_append hline front []
    rw [List.append_nil] at happend
    simp [happend, visualLinesFrom]
  -- the added character does not make a pair of carriage return and line feed
  have hnewline : c ≠ '\n' := by
    rintro rfl
    cases hc
  have hpaired : ∀ {d : Char} {cs : List Char}, (∀ rest, d = '\r' → cs = '\n' :: rest → False) →
      ∀ rest, d = '\r' → cs ++ [c] = '\n' :: rest → False := by
    intro d cs hpair rest hd hrest
    cases cs with
    | nil => exact hnewline (List.cons.inj hrest).1
    | cons x cs => exact hpair cs hd (by rw [(List.cons.inj hrest).1])
  fun_induction visualLinesFrom front cs with
  | case1 front hempty => exact ⟨[], front.reverse, hlast front⟩
  | case2 front hempty => exact ⟨[], front.reverse, hlast front⟩
  | case3 front cs ih =>
      obtain ⟨init, line, hlines⟩ := ih
      exact ⟨front.reverse :: init, line, by simp [visualLinesFrom, hlines]⟩
  | case4 front d cs hpair hend ih =>
      obtain ⟨init, line, hlines⟩ := ih
      refine ⟨front.reverse :: init, line, ?_⟩
      rw [List.cons_append, visualLinesFrom.eq_3 _ _ _ (hpaired hpair), if_pos hend, hlines]
      rfl
  | case5 front d cs hpair hend ih =>
      rw [List.cons_append, visualLinesFrom.eq_3 _ _ _ (hpaired hpair), if_neg hend]
      exact ih

end MarkdownSections.Text
