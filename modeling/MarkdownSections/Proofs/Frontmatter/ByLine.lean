import MarkdownSections.Proofs.Frontmatter.Split

/-!
# The frontmatter block line by line

A text can be split line by line: the header is opened by a fence on the first line and closed by the
next fence, the raw frontmatter is what stands on the lines between, and the body starts behind the
empty lines that follow. The text is split in just this way, but for one line: the second line never
closes the header, also if it is a fence. So the two readings differ exactly for the texts whose
first two lines are fences (`split_eq_splitByLine_iff`).
-/

set_option autoImplicit false

namespace MarkdownSections.Frontmatter

/-! ## Lines and their ends -/

/-- How a line ends; only the last line of a text can lack an end. -/
inductive LineEnd where
  | feed
  | pair
  | missing
deriving DecidableEq, Repr

/-- The characters of a line end. -/
def LineEnd.chars : LineEnd → List Char
  | feed => ['\n']
  | pair => ['\r', '\n']
  | missing => []

/-- A line of a text: what stands on it, and how it ends. -/
structure Line where
  text : List Char
  lineEnd : LineEnd
deriving DecidableEq, Repr

/-- The lines of a text. -/
def linesOf : List Char → List Line
  | [] => []
  | '\n' :: cs => ⟨[], .feed⟩ :: linesOf cs
  | '\r' :: '\n' :: cs => ⟨[], .pair⟩ :: linesOf cs
  | c :: cs =>
    match linesOf cs with
    | [] => [⟨[c], .missing⟩]
    | l :: ls => ⟨c :: l.text, l.lineEnd⟩ :: ls

/-- The text of lines. -/
def textOf (ls : List Line) : List Char :=
  ls.flatMap fun l => l.text ++ l.lineEnd.chars

/-- What stands on the first line of a text. -/
def firstLine (cs : List Char) : List Char :=
  ((linesOf cs).head?.map Line.text).getD []

/-- The lines of a text behind the first. -/
def laterLines (cs : List Char) : List Line :=
  (linesOf cs).tail

/-- Induction on a text, line by line and along each line. -/
@[elab_as_elim]
theorem lineInduction {motive : List Char → Prop} (nil : motive [])
    (lineEnd : ∀ {cs rest : List Char}, afterLineEnd? cs = some rest → motive rest → motive cs)
    (char : ∀ {c : Char} {cs : List Char}, afterLineEnd? (c :: cs) = none → motive cs →
      motive (c :: cs)) (cs : List Char) : motive cs := by
  induction cs using linesOf.induct with
  | case1 => exact nil
  | case2 cs ih => exact lineEnd rfl ih
  | case3 cs ih => exact lineEnd rfl ih
  | case4 c cs hfeed hpair hlines ih =>
      refine char (afterLineEnd?.eq_3 _ (fun _ heq => hfeed (List.cons.inj heq).1) ?_) ih
      exact fun rest heq => hpair rest (List.cons.inj heq).1 (List.cons.inj heq).2
  | case5 c cs hfeed hpair l ls hlines ih =>
      refine char (afterLineEnd?.eq_3 _ (fun _ heq => hfeed (List.cons.inj heq).1) ?_) ih
      exact fun rest heq => hpair rest (List.cons.inj heq).1 (List.cons.inj heq).2

/-- A line end at the start of a text ends an empty line. -/
theorem exists_linesOf_of_afterLineEnd? {cs rest : List Char} (h : afterLineEnd? cs = some rest) :
    ∃ lineEnd : LineEnd, linesOf cs = ⟨[], lineEnd⟩ :: linesOf rest ∧
      cs = lineEnd.chars ++ rest := by
  unfold afterLineEnd? at h
  split at h
  · cases h
    exact ⟨.feed, rfl, rfl⟩
  · cases h
    exact ⟨.pair, rfl, rfl⟩
  · cases h

/-- A character that starts no line end stands on the first line. -/
theorem linesOf_cons {c : Char} {cs : List Char} (h : afterLineEnd? (c :: cs) = none) :
    linesOf (c :: cs) =
      match linesOf cs with
      | [] => [⟨[c], .missing⟩]
      | l :: ls => ⟨c :: l.text, l.lineEnd⟩ :: ls := by
  refine linesOf.eq_4 c cs ?_ ?_
  · rintro rfl
    cases h
  · rintro rest rfl rfl
    cases h

theorem firstLine_of_afterLineEnd? {cs rest : List Char} (h : afterLineEnd? cs = some rest) :
    firstLine cs = [] ∧ laterLines cs = linesOf rest := by
  obtain ⟨lineEnd, hlines, -⟩ := exists_linesOf_of_afterLineEnd? h
  rw [firstLine, laterLines, hlines]
  exact ⟨rfl, rfl⟩

theorem firstLine_cons {c : Char} {cs : List Char} (h : afterLineEnd? (c :: cs) = none) :
    firstLine (c :: cs) = c :: firstLine cs ∧ laterLines (c :: cs) = laterLines cs := by
  rw [firstLine, laterLines, linesOf_cons h, firstLine, laterLines]
  cases linesOf cs with
  | nil => exact ⟨rfl, rfl⟩
  | cons l ls => exact ⟨rfl, rfl⟩

/-- The lines of a text make up the text. -/
@[simp] theorem textOf_linesOf (cs : List Char) : textOf (linesOf cs) = cs := by
  induction cs using lineInduction with
  | nil => rfl
  | lineEnd h ih =>
      obtain ⟨lineEnd, hlines, hcs⟩ := exists_linesOf_of_afterLineEnd? h
      rw [hlines, textOf, List.flatMap_cons, hcs]
      exact congrArg (lineEnd.chars ++ ·) ih
  | @char c cs h ih =>
      rw [linesOf_cons h]
      cases hlines : linesOf cs with
      | nil =>
          rw [hlines] at ih
          rw [← ih]
          rfl
      | cons l ls =>
          rw [hlines] at ih
          exact congrArg (c :: ·) ih

/-- Only the empty text has no lines. -/
theorem linesOf_eq_nil_iff {cs : List Char} : linesOf cs = [] ↔ cs = [] := by
  constructor
  · intro h
    rw [← textOf_linesOf cs, h]
    rfl
  · rintro rfl
    rfl

/-- A text that is not empty has a first line, which the others follow. -/
theorem exists_linesOf_eq_cons {cs : List Char} (h : cs ≠ []) :
    ∃ lineEnd, linesOf cs = ⟨firstLine cs, lineEnd⟩ :: laterLines cs := by
  rw [firstLine, laterLines]
  cases hlines : linesOf cs with
  | nil => exact absurd (linesOf_eq_nil_iff.mp hlines) h
  | cons l ls => exact ⟨l.lineEnd, rfl⟩

/-- The first line stands at the start of the text. -/
theorem firstLine_prefix (cs : List Char) : firstLine cs <+: cs := by
  by_cases h : cs = []
  · subst h
    exact List.prefix_rfl
  · obtain ⟨lineEnd, hlines⟩ := exists_linesOf_eq_cons h
    refine ⟨lineEnd.chars ++ textOf (laterLines cs), ?_⟩
    calc firstLine cs ++ (lineEnd.chars ++ textOf (laterLines cs))
        = textOf (linesOf cs) := by
          rw [hlines]
          simp [textOf]
      _ = cs := textOf_linesOf cs

/-- The line ends at the start of a text end its empty lines. -/
theorem dropLineEnds_eq (cs : List Char) :
    dropLineEnds cs = textOf ((linesOf cs).dropWhile (·.text.isEmpty)) := by
  induction cs using lineInduction with
  | nil => rfl
  | lineEnd h ih =>
      obtain ⟨lineEnd, hlines, -⟩ := exists_linesOf_of_afterLineEnd? h
      rw [dropLineEnds_of_afterLineEnd? h, ih, hlines, List.dropWhile_cons_of_pos rfl]
  | @char c cs h ih =>
      -- a line that starts with a character is not empty, so nothing is dropped on either side
      have hself : dropLineEnds (c :: cs) = c :: cs := by
        refine dropLineEnds.eq_3 (c :: cs) ?_ ?_
        · rintro rest heq
          rw [heq] at h
          cases h
        · rintro rest heq
          rw [heq] at h
          cases h
      have hkept : (linesOf (c :: cs)).dropWhile (·.text.isEmpty) = linesOf (c :: cs) := by
        rw [linesOf_cons h]
        cases linesOf cs with
        | nil => rfl
        | cons l ls => rfl
      rw [hself, hkept, textOf_linesOf]

/-! ## Fences -/

/-- Three hyphens, and behind them spaces and tabs only. -/
def isFence : List Char → Bool
  | '-' :: '-' :: '-' :: blanks => blanks.all fun c => c == ' ' || c == '\t'
  | _ => false

/-- Blanks at the start of a text take up its first line, or end in front of a character of that
line. -/
theorem dropBlanks_cases (cs : List Char) :
    let rest := cs.dropWhile fun c => c == ' ' || c == '\t'
    ((firstLine cs).all (fun c => c == ' ' || c == '\t') = true ∧
      (rest = [] ∧ laterLines cs = [] ∨
        ∃ later, afterLineEnd? rest = some later ∧ laterLines cs = linesOf later)) ∨
    ((firstLine cs).all (fun c => c == ' ' || c == '\t') = false ∧ rest ≠ [] ∧
      afterLineEnd? rest = none) := by
  induction cs using lineInduction with
  | nil => exact Or.inl ⟨rfl, Or.inl ⟨rfl, rfl⟩⟩
  | @lineEnd cs rest h ih =>
      obtain ⟨hfirst, hlater⟩ := firstLine_of_afterLineEnd? h
      -- in front of a line end there are no blanks left to drop
      have hself : cs.dropWhile (fun c => c == ' ' || c == '\t') = cs := by
        unfold afterLineEnd? at h
        split at h
        · rfl
        · rfl
        · cases h
      rw [hfirst, hlater, hself]
      exact Or.inl ⟨rfl, Or.inr ⟨rest, h, rfl⟩⟩
  | @char c cs h ih =>
      obtain ⟨hfirst, hlater⟩ := firstLine_cons h
      rw [hfirst, hlater]
      by_cases hblank : (c == ' ' || c == '\t') = true
      · simp only [List.dropWhile_cons, List.all_cons, hblank, if_true, Bool.true_and]
        exact ih
      · simp only [List.dropWhile_cons, List.all_cons, hblank, Bool.false_and]
        exact Or.inr ⟨trivial, List.cons_ne_nil c cs, h⟩

/-- A fence is read off a text up to the end of the first line if that line is a fence, and else no
farther than a character of that line. -/
theorem afterFence?_cases (cs : List Char) :
    (isFence (firstLine cs) = true ∧ ∃ rest, afterFence? cs = some rest ∧
      (rest = [] ∧ laterLines cs = [] ∨
        ∃ later, afterLineEnd? rest = some later ∧ laterLines cs = linesOf later)) ∨
    (isFence (firstLine cs) = false ∧
      ∀ rest, afterFence? cs = some rest → rest ≠ [] ∧ afterLineEnd? rest = none) := by
  by_cases hhyphens : ∃ tail, cs = '-' :: '-' :: '-' :: tail
  · obtain ⟨tail, rfl⟩ := hhyphens
    have hfirst : firstLine ('-' :: '-' :: '-' :: tail) = '-' :: '-' :: '-' :: firstLine tail := by
      rw [(firstLine_cons rfl).1, (firstLine_cons rfl).1, (firstLine_cons rfl).1]
    have hlater : laterLines ('-' :: '-' :: '-' :: tail) = laterLines tail := by
      rw [(firstLine_cons rfl).2, (firstLine_cons rfl).2, (firstLine_cons rfl).2]
    rw [hfirst, hlater]
    rcases dropBlanks_cases tail with ⟨hall, hrest⟩ | ⟨hall, hne, hend⟩
    · exact Or.inl ⟨hall, _, rfl, hrest⟩
    · refine Or.inr ⟨hall, ?_⟩
      rintro rest ⟨⟩
      exact ⟨hne, hend⟩
  · have hnone : afterFence? cs = none := afterFence?.eq_2 cs fun tail h => hhyphens ⟨tail, h⟩
    refine Or.inr ⟨?_, fun rest h => ?_⟩
    · -- the first line would bring its hyphens to the start of the text
      unfold isFence
      split
      · next blanks hfirst =>
          obtain ⟨behind, hcs⟩ := firstLine_prefix cs
          rw [hfirst] at hcs
          exact absurd ⟨_, hcs.symm⟩ hhyphens
      · rfl
    · rw [hnone] at h
      cases h

/-- The body, when a closing fence line stands at the start of a text. -/
def bodyBehindFence? (cs : List Char) : Option (List Char) :=
  (afterFence? cs).bind fun rest =>
    if rest.isEmpty || (afterLineEnd? rest).isSome then some (dropLineEnds rest) else none

/-- A first line closes a header exactly if it is a fence. -/
theorem bodyBehindFence?_eq {cs : List Char} :
    bodyBehindFence? cs =
      if isFence (firstLine cs) then
        some (textOf ((laterLines cs).dropWhile (·.text.isEmpty)))
      else none := by
  unfold bodyBehindFence?
  rcases afterFence?_cases cs with ⟨hfence, rest, hrest, hlater⟩ | ⟨hfence, hbehind⟩
  · rw [hfence, if_pos rfl, hrest, Option.bind_some]
    rcases hlater with ⟨rfl, hlater⟩ | ⟨later, hend, hlater⟩
    · rw [hlater]
      rfl
    · rw [hend, hlater, Option.isSome_some, Bool.or_true, if_pos rfl,
        dropLineEnds_of_afterLineEnd? hend, dropLineEnds_eq]
  · rw [hfence, if_neg Bool.false_ne_true, Option.bind_eq_none_iff]
    intro rest hrest
    obtain ⟨hne, hend⟩ := hbehind rest hrest
    simp [hne, hend]

/-! ## Headers -/

/-- What stands between a line and the first fence among those that follow, from the text `first` of
that line on, and the body behind the fence. -/
def untilFence? (first : List Char) : List Line → Option (List Char × List Char)
  | [] => none
  | l :: ls =>
    if isFence l.text then some (first, textOf (ls.dropWhile (·.text.isEmpty)))
    else (untilFence? l.text ls).map fun (raw, body) => (first ++ '\n' :: raw, body)

theorem untilFence?_cons (c : Char) (first : List Char) (ls : List Line) :
    untilFence? (c :: first) ls = (untilFence? first ls).map fun (raw, body) => (c :: raw, body) := by
  cases ls with
  | nil => rfl
  | cons l ls =>
      rw [untilFence?, untilFence?]
      split
      · rfl
      · cases untilFence? l.text ls <;> rfl

/-- At a line end a header is closed by a fence on the next line, or it goes on there. -/
theorem untilClosing?_of_afterLineEnd? {cs rest : List Char} (h : afterLineEnd? cs = some rest) :
    (untilClosing? cs).map (fun (raw, body) => (joinLineEnds raw, body)) =
      match bodyBehindFence? rest with
      | some body => some ([], body)
      | none => ((untilClosing? rest).map fun (raw, body) => (joinLineEnds raw, body)).map
          fun (raw, body) => ('\n' :: raw, body) := by
  have hbody : ∀ {cs : List Char}, afterLineEnd? cs = some rest →
      bodyAfterClosing? cs = bodyBehindFence? rest := by
    intro cs h
    simp only [bodyAfterClosing?_eq_bind, h, Option.bind_some, bodyBehindFence?]
  have hfeed : untilClosing? ('\n' :: rest) =
      match bodyBehindFence? rest with
      | some body => some ([], body)
      | none => (untilClosing? rest).map fun (raw, body) => ('\n' :: raw, body) := by
    have hfront : bodyAfterClosing? ('\n' :: rest) = bodyBehindFence? rest := hbody rfl
    cases hfence : bodyBehindFence? rest with
    | some body => simp only [untilClosing?, hfront, hfence]
    | none => simp only [untilClosing?, hfront, hfence]
  unfold afterLineEnd? at h
  split at h
  · cases h
    rw [hfeed]
    cases bodyBehindFence? rest with
    | some body => rfl
    | none => cases untilClosing? rest <;> rfl
  · cases h
    -- the line feed of the pair closes nothing either
    rw [untilClosing?, hbody rfl, hfeed]
    cases bodyBehindFence? rest with
    | some body => rfl
    | none => cases untilClosing? rest <;> rfl
  · cases h

/-- A header closes at the first fence line behind the line that it starts on. -/
theorem untilClosing?_eq (cs : List Char) :
    (untilClosing? cs).map (fun (raw, body) => (joinLineEnds raw, body)) =
      untilFence? (firstLine cs) (laterLines cs) := by
  induction cs using lineInduction with
  | nil => rfl
  | @lineEnd cs rest h ih =>
      obtain ⟨hfirst, hlater⟩ := firstLine_of_afterLineEnd? h
      rw [untilClosing?_of_afterLineEnd? h, hfirst, hlater, bodyBehindFence?_eq, ih]
      by_cases hrest : rest = []
      · subst hrest
        rfl
      · obtain ⟨lineEnd, hlines⟩ := exists_linesOf_eq_cons hrest
        rw [hlines, untilFence?]
        by_cases hfence : isFence (firstLine rest) = true
        · rw [if_pos hfence, if_pos hfence]
        · rw [if_neg hfence, if_neg hfence]
          rfl
  | @char c cs h ih =>
      obtain ⟨hfirst, hlater⟩ := firstLine_cons h
      have hnone : bodyAfterClosing? (c :: cs) = none := by
        rw [bodyAfterClosing?_eq_bind, h]
        rfl
      rw [untilClosing?, hnone, hfirst, hlater, untilFence?_cons, ← ih]
      cases huntil : untilClosing? cs with
      | none => rfl
      | some p =>
          -- the character makes no pair with what stands behind it
          have hjoin : joinLineEnds (c :: p.1) = c :: joinLineEnds p.1 := by
            refine joinLineEnds.eq_3 c p.1 ?_
            rintro raw rfl hraw
            obtain ⟨closing, hcs, -⟩ := exists_of_untilClosing? huntil
            rw [hcs, hraw] at h
            cases h
          simp [hjoin]

/-- What fences make of lines: behind the opening fence, the first `passed` lines belong to the header
whatever they are; the next fence closes it, and the empty lines that follow do not belong to the
body. -/
def headerOf? (passed : Nat) : List Line → Option (List Char × List Char)
  | [] => none
  | first :: later =>
    if isFence first.text then
      let inner := later.take passed ++ (later.drop passed).takeWhile (!isFence ·.text)
      match (later.drop passed).dropWhile (!isFence ·.text) with
      | _ :: behind =>
        some (['\n'].intercalate (inner.map (·.text)), textOf (behind.dropWhile (·.text.isEmpty)))
      | [] => none
    else none

/-- Splits a text line by line; a text without a header is all body. -/
def splitByLine (passed : Nat) (cs : List Char) : List Char × List Char :=
  (headerOf? passed (linesOf cs)).getD ([], cs)

theorem untilFence?_eq (first : List Char) (ls : List Line) :
    untilFence? first ls =
      match ls.dropWhile (!isFence ·.text) with
      | _ :: behind =>
        some (['\n'].intercalate (first :: (ls.takeWhile (!isFence ·.text)).map (·.text)),
          textOf (behind.dropWhile (·.text.isEmpty)))
      | [] => none := by
  induction ls generalizing first with
  | nil => rfl
  | cons l ls ih =>
      rw [untilFence?]
      -- a fence ends the search; any other line goes to what stands in front of it
      by_cases hfence : isFence l.text = true
      · rw [if_pos hfence, List.dropWhile_cons_of_neg (by simp [hfence]),
          List.takeWhile_cons_of_neg (by simp [hfence])]
        simp
      · rw [if_neg hfence, ih, List.dropWhile_cons_of_pos (by simp [hfence]),
          List.takeWhile_cons_of_pos (by simp [hfence])]
        cases ls.dropWhile (!isFence ·.text) with
        | nil => rfl
        | cons closing behind => simp [List.intercalate_cons_cons]

/-- A text is split line by line, where the second line closes no header. -/
theorem split_eq_splitByLine (cs : List Char) : split cs = splitByLine 1 cs := by
  have hsplit : split cs =
      ((((afterFence? cs).bind afterLineEnd?).bind fun behind =>
        untilFence? (firstLine behind) (laterLines behind))).getD ([], cs) := by
    unfold split
    cases (afterFence? cs).bind afterLineEnd? with
    | none => rfl
    | some behind =>
        rw [Option.bind_some, Option.bind_some, ← untilClosing?_eq]
        cases untilClosing? behind <;> rfl
  rw [hsplit, splitByLine]
  -- the empty text has no first line and is treated apart
  by_cases hcs : cs = []
  · subst hcs
    rfl
  refine congrArg (Option.getD · ([], cs)) ?_
  obtain ⟨lineEnd, hlines⟩ := exists_linesOf_eq_cons hcs
  rw [hlines, headerOf?]
  rcases afterFence?_cases cs with ⟨hfence, rest, hrest, hlater⟩ | ⟨hfence, hbehind⟩
  · rw [hrest, Option.bind_some, if_pos hfence]
    rcases hlater with ⟨rfl, hlater⟩ | ⟨later, hend, hlater⟩
    · rw [hlater]
      rfl
    · rw [hend, hlater, Option.bind_some, untilFence?_eq]
      by_cases hnil : later = []
      · subst hnil
        rfl
      · obtain ⟨lineEnd', hlines'⟩ := exists_linesOf_eq_cons hnil
        rw [hlines']
        rfl
  · have hnone : (afterFence? cs).bind afterLineEnd? = none :=
      Option.bind_eq_none_iff.mpr fun rest h => (hbehind rest h).2
    rw [hnone, if_neg (by simp [hfence])]
    rfl

/-! ## Two fences in a row -/

theorem ne_nil_of_isFence {line : List Char} (h : isFence line = true) : line ≠ [] := by
  rintro rfl
  cases h

/-- Whether the first two lines are fences. -/
def opensWithTwoFences : List Line → Bool
  | first :: second :: _ => isFence first.text && isFence second.text
  | _ => false

/-- A second line that is no fence is not looked for. -/
theorem headerOf?_zero {ls : List Line} (h : opensWithTwoFences ls = false) :
    headerOf? 0 ls = headerOf? 1 ls := by
  cases ls with
  | nil => rfl
  | cons first later =>
      cases later with
      | nil => rfl
      | cons second later =>
          rw [opensWithTwoFences, Bool.and_eq_false_iff] at h
          rcases h with hfirst | hsecond
          · simp [headerOf?, hfirst]
          · simp [headerOf?, hsecond]

/-- The first of two fences opens a header; the second closes it at once, or belongs to its raw
part. -/
theorem headerOf?_of_two {first second : Line} {later : List Line}
    (hfirst : isFence first.text = true) (hsecond : isFence second.text = true) :
    headerOf? 0 (first :: second :: later) =
        some ([], textOf (later.dropWhile (·.text.isEmpty))) ∧
      ∀ {raw body : List Char},
        headerOf? 1 (first :: second :: later) = some (raw, body) → raw ≠ [] := by
  refine ⟨by simp [headerOf?, hfirst, hsecond], fun {raw body} h => ?_⟩
  have hne := ne_nil_of_isFence hsecond
  rw [headerOf?, if_pos hfirst] at h
  simp only at h
  split at h
  · obtain ⟨rfl, -⟩ := Prod.mk.inj (Option.some.inj h)
    -- the raw part starts with the text of the second line
    simp only [List.take_succ_cons, List.take_zero, List.singleton_append, List.map_cons]
    cases (List.drop 1 (second :: later)).takeWhile (!isFence ·.text) with
    | nil => simpa using hne
    | cons l ls => simp [List.intercalate_cons_cons]
  · cases h

/-- What follows empty lines is no longer than the lines. -/
theorem length_textOf_dropWhile (p : Line → Bool) (ls : List Line) :
    (textOf (ls.dropWhile p)).length ≤ (textOf ls).length := by
  have h : textOf ls = textOf (ls.takeWhile p) ++ textOf (ls.dropWhile p) := by
    rw [textOf, textOf, textOf, ← List.flatMap_append, List.takeWhile_append_dropWhile]
  rw [h, List.length_append]
  exact Nat.le_add_left _ _

/-- Where the first two lines are fences, it matters whether the second may close the header:
without a header the body is the whole text, which is longer than what follows the two lines. -/
theorem splitByLine_ne_of_two {cs : List Char} {first second : Line} {later : List Line}
    (hlines : linesOf cs = first :: second :: later) (hfirst : isFence first.text = true)
    (hsecond : isFence second.text = true) : splitByLine 1 cs ≠ splitByLine 0 cs := by
  obtain ⟨hzero, hone⟩ := @headerOf?_of_two first second later hfirst hsecond
  rw [splitByLine, splitByLine, hlines, hzero]
  intro heq
  -- a header differs from the empty one of the other reading; without one the bodies differ in
  -- length
  cases hheader : headerOf? 1 (first :: second :: later) with
  | some p =>
      rw [hheader] at heq
      exact hone hheader (Prod.mk.inj heq).1
  | none =>
      rw [hheader] at heq
      have hbody : cs = textOf (later.dropWhile (·.text.isEmpty)) := (Prod.mk.inj heq).2
      have hshort := length_textOf_dropWhile (·.text.isEmpty) later
      have hlong : (textOf later).length < cs.length := by
        rw [← textOf_linesOf cs, hlines]
        have hpos := List.length_pos_iff.mpr (ne_nil_of_isFence hsecond)
        simp only [textOf, List.flatMap_cons, List.length_append]
        omega
      rw [← hbody] at hshort
      omega

/-- **The frontmatter block line by line.** A text is split as its lines are, the second of which
closes no header. This is the reading in which the first fence behind the first line closes the
header, exactly if the first two lines are not both fences. -/
theorem split_eq_splitByLine_iff (cs : List Char) :
    split cs = splitByLine 1 cs ∧
      (split cs = splitByLine 0 cs ↔ opensWithTwoFences (linesOf cs) = false) := by
  refine ⟨split_eq_splitByLine cs, ?_⟩
  rw [split_eq_splitByLine]
  cases htwo : opensWithTwoFences (linesOf cs) with
  | false => simp [splitByLine, headerOf?_zero htwo]
  | true =>
      simp only [Bool.true_eq_false, iff_false]
      unfold opensWithTwoFences at htwo
      split at htwo
      · next first second later hlines =>
          rw [Bool.and_eq_true] at htwo
          exact splitByLine_ne_of_two hlines htwo.1 htwo.2
      · cases htwo

/-- A header without lines is no header, and one that starts with a fence reaches as far as the next
fence. -/
theorem not_splitByLine_twoFences :
    (splitByLine 0 "---\n---\n# A\n".toList = ([], "# A\n".toList) ∧
        split "---\n---\n# A\n".toList = ([], "---\n---\n# A\n".toList)) ∧
      splitByLine 0 "---\n---\na: 1\n---\n".toList = ([], "a: 1\n---\n".toList) ∧
        split "---\n---\na: 1\n---\n".toList = ("---\na: 1".toList, []) := by
  decide

end MarkdownSections.Frontmatter
