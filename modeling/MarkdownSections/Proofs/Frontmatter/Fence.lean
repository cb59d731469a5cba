import MarkdownSections.Proofs.Frontmatter.Split
import MarkdownSections.Proofs.Markdown.Lines
import MarkdownSections.Proofs.Text.Blank

/-!
# Frontmatter between fence lines

Lines none of which is a fence line hold no closing fence (`untilClosing?_joinLines`), so a text that
does not open with a fence line, or holds no second one, has no frontmatter (`split_joinLines`). A raw
frontmatter that holds no fence line behind its first line is read back from between its fences
(`split_fenced`). Whatever stands between fences is read as a header, whose raw part is empty exactly
if a second fence line follows the first at once (`raw_split_eq_nil_iff`).
-/

set_option autoImplicit false

namespace MarkdownSections.Frontmatter

open Markdown (joinLines joinLines_cons textLines joinLines_textLines notMem_of_mem_textLines)

/-- Whether a line is a fence. -/
def isFenceLine (cs : List Char) : Bool :=
  afterFence? cs == some []

/-- Whether a text opens with a character that ends no line. -/
def opensWithText (cs : List Char) : Bool :=
  cs.head?.any fun c => c != '\n' && c != '\r'

theorem afterLineEnd?_of_opensWithText {cs : List Char} (h : opensWithText cs = true) :
    afterLineEnd? cs = none := by
  unfold afterLineEnd?
  split
  · cases h
  · cases h
  · rfl

theorem dropLineEnds_of_opensWithText {cs : List Char} (h : opensWithText cs = true) :
    dropLineEnds cs = cs := by
  unfold dropLineEnds
  split
  · cases h
  · cases h
  · rfl

/-! ## Lines without a fence -/

section Line

variable {line : List Char} (hfeed : '\n' ∉ line) (hreturn : '\r' ∉ line)

include hfeed hreturn

theorem opensWithText_append {cs : List Char} (hcs : cs <:+ line) (hne : cs ≠ [])
    (rest : List Char) : opensWithText (cs ++ rest) = true := by
  obtain ⟨c, cs, rfl⟩ := List.exists_cons_of_ne_nil hne
  have hmem : c ∈ line := hcs.mem List.mem_cons_self
  have hends : c ≠ '\n' ∧ c ≠ '\r' := by
    constructor
    · rintro rfl
      exact hfeed hmem
    · rintro rfl
      exact hreturn hmem
  simpa [opensWithText] using hends

/-- No closing fence starts in the middle of a line. -/
theorem untilClosing?_append (rest : List Char) :
    untilClosing? (line ++ rest) =
      (untilClosing? rest).map fun (raw, body) => (line ++ raw, body) := by
  -- only a line end can start a closing fence, and the line holds none
  induction line with
  | nil => simp
  | cons c cs ih =>
      have hopens : opensWithText (c :: cs ++ rest) = true :=
        opensWithText_append hfeed hreturn List.suffix_rfl (List.cons_ne_nil c cs) rest
      have hnone : bodyAfterClosing? (c :: cs ++ rest) = none := by
        rw [bodyAfterClosing?_eq_bind, afterLineEnd?_of_opensWithText hopens]
        rfl
      rw [List.mem_cons, not_or] at hfeed hreturn
      rw [List.cons_append] at hnone ⊢
      rw [untilClosing?, hnone, ih hfeed.2 hreturn.2]
      cases untilClosing? rest with
      | none => rfl
      | some p => rfl

/-- On a line that is no fence line, a fence is followed by more of the line. -/
theorem opensWithText_of_afterFence? (h : isFenceLine line = false) {rest behind : List Char}
    (hbehind : afterFence? (line ++ '\n' :: rest) = some behind) : opensWithText behind = true := by
  unfold afterFence? at hbehind
  split at hbehind
  · next cs hcs =>
      -- the line end is no hyphen, so the fence stands on the line
      obtain ⟨tail, rfl, rfl⟩ : ∃ tail, line = '-' :: '-' :: '-' :: tail ∧
          cs = tail ++ '\n' :: rest := by
        rcases line with _ | ⟨c₁, _ | ⟨c₂, _ | ⟨c₃, tail⟩⟩⟩
        · simp at hcs
        · simp at hcs
        · simp at hcs
        · simp only [List.cons_append, List.cons.injEq] at hcs
          obtain ⟨rfl, rfl, rfl, rfl⟩ := hcs
          exact ⟨tail, rfl, rfl⟩
      have hne : tail.dropWhile (fun c => c == ' ' || c == '\t') ≠ [] := by
        intro heq
        simp [isFenceLine, afterFence?, heq] at h
      have hsuffix : tail.dropWhile (fun c => c == ' ' || c == '\t') <:+ '-' :: '-' :: '-' :: tail :=
        (List.dropWhile_suffix _).trans (List.suffix_append ['-', '-', '-'] tail)
      rw [List.dropWhile_append, if_neg (by simpa using hne)] at hbehind
      cases hbehind
      exact opensWithText_append hfeed hreturn hsuffix hne _
  · cases hbehind

theorem bodyAfterClosing?_line (h : isFenceLine line = false) (rest : List Char) :
    bodyAfterClosing? ('\n' :: (line ++ '\n' :: rest)) = none := by
  rw [bodyAfterClosing?_eq_bind]
  change ((afterFence? (line ++ '\n' :: rest)).bind _) = none
  cases hbehind : afterFence? (line ++ '\n' :: rest) with
  | none => rfl
  | some behind =>
      have hopens := opensWithText_of_afterFence? hfeed hreturn h hbehind
      rw [Option.bind_some, afterLineEnd?_of_opensWithText hopens, if_neg]
      cases behind with
      | nil => cases hopens
      | cons c cs => simp

/-- A line that is no fence line belongs to the raw frontmatter. -/
theorem untilClosing?_line (h : isFenceLine line = false) (rest : List Char) :
    untilClosing? ('\n' :: (line ++ '\n' :: rest)) =
      (untilClosing? ('\n' :: rest)).map fun (raw, body) => ('\n' :: line ++ raw, body) := by
  rw [untilClosing?, bodyAfterClosing?_line hfeed hreturn h,
    untilClosing?_append hfeed hreturn ('\n' :: rest)]
  cases untilClosing? ('\n' :: rest) with
  | none => rfl
  | some p => rfl

theorem afterOpening_line (h : isFenceLine line = false) (rest : List Char) :
    (afterFence? (line ++ '\n' :: rest)).bind afterLineEnd? = none := by
  rw [Option.bind_eq_none_iff]
  intro behind hbehind
  exact afterLineEnd?_of_opensWithText (opensWithText_of_afterFence? hfeed hreturn h hbehind)

end Line

/-! ## Texts of lines -/

/-- Lines without a fence line belong to the raw frontmatter. -/
theorem untilClosing?_lines {ls : List (List Char)} (hls : ∀ l ∈ ls, '\n' ∉ l ∧ '\r' ∉ l)
    (h : ∀ l ∈ ls, isFenceLine l = false) (rest : List Char) :
    untilClosing? ('\n' :: (joinLines ls ++ rest)) =
      (untilClosing? ('\n' :: rest)).map fun (raw, body) =>
        ((ls.flatMap ('\n' :: ·)) ++ raw, body) := by
  induction ls with
  | nil => simp
  | cons l ls ih =>
      have hl := hls l List.mem_cons_self
      have hlater := ih (fun x hx => hls x (List.mem_cons_of_mem l hx))
        fun x hx => h x (List.mem_cons_of_mem l hx)
      rw [joinLines_cons, List.append_assoc, List.cons_append,
        untilClosing?_line hl.1 hl.2 (h l List.mem_cons_self), hlater]
      cases untilClosing? ('\n' :: rest) with
      | none => rfl
      | some p => simp

/-- A text of lines has no closing fence, if none behind the first of them is a fence line. -/
theorem untilClosing?_joinLines {ls : List (List Char)} (hls : ∀ l ∈ ls, '\n' ∉ l ∧ '\r' ∉ l)
    (h : ∀ l ∈ ls.tail, isFenceLine l = false) : untilClosing? (joinLines ls) = none := by
  cases ls with
  | nil => rfl
  | cons l ls =>
      have hl := hls l List.mem_cons_self
      have hlater := untilClosing?_lines (fun x hx => hls x (List.mem_cons_of_mem l hx)) h []
      rw [List.append_nil] at hlater
      rw [joinLines_cons, untilClosing?_append hl.1 hl.2, hlater]
      rfl

/-- Whether lines do not open with a frontmatter block. -/
def opensNoFrontmatter (ls : List (List Char)) : Bool :=
  ls.head?.all (!isFenceLine ·) || ls.tail.all (!isFenceLine ·)

theorem afterOpening_fenceLine {line : List Char} (h : isFenceLine line = true)
    (rest : List Char) : (afterFence? (line ++ '\n' :: rest)).bind afterLineEnd? = some rest := by
  rw [isFenceLine, beq_iff_eq] at h
  unfold afterFence? at h
  split at h
  · next cs =>
      rw [Option.some.injEq] at h
      simp [afterFence?, List.dropWhile_append, h, afterLineEnd?]
  · cases h

/-- A text that does not open with a frontmatter block is all body. -/
theorem split_joinLines {ls : List (List Char)} (hls : ∀ l ∈ ls, '\n' ∉ l ∧ '\r' ∉ l)
    (h : opensNoFrontmatter ls = true) : split (joinLines ls) = ([], joinLines ls) := by
  have hnone : ((afterFence? (joinLines ls)).bind afterLineEnd?).bind untilClosing? = none := by
    cases ls with
    | nil => rfl
    | cons l ls =>
        have hl := hls l List.mem_cons_self
        rw [joinLines_cons]
        by_cases hfence : isFenceLine l = true
        · -- a frontmatter is opened, and never closed
          have hlater : ∀ x ∈ ls, isFenceLine x = false := by simpa [opensNoFrontmatter, hfence] using h
          rw [afterOpening_fenceLine hfence, Option.bind_some]
          exact untilClosing?_joinLines (fun x hx => hls x (List.mem_cons_of_mem l hx))
            fun x hx => hlater x (List.mem_of_mem_tail hx)
        · rw [afterOpening_line hl.1 hl.2 (Bool.not_eq_true _ ▸ hfence)]
          rfl
  rw [split, hnone]

/-- Whether a raw frontmatter is read back from between its fences. -/
def isRaw (raw : List Char) : Bool :=
  !raw.contains '\r' && (textLines raw).tail.all (!isFenceLine ·)

/-- The closing fence line, with an empty line behind it. -/
def closing : List Char :=
  ['-', '-', '-', '\n', '\n']

/-- A raw frontmatter between its fences. -/
def fenced (raw : List Char) : List Char :=
  ['-', '-', '-', '\n'] ++ raw ++ '\n' :: closing

theorem newline_joinLines (ls : List (List Char)) :
    '\n' :: joinLines ls = ls.flatMap ('\n' :: ·) ++ ['\n'] := by
  induction ls with
  | nil => rfl
  | cons l ls ih =>
      rw [joinLines_cons, ih, List.flatMap_cons]
      simp

theorem untilClosing?_closing {body : List Char} (hbody : dropLineEnds body = body) :
    untilClosing? ('\n' :: (closing ++ body)) = some ([], body) := by
  have hclosing : bodyAfterClosing? ('\n' :: (closing ++ body)) =
      some (dropLineEnds body) := rfl
  rw [untilClosing?, hclosing, hbody]

/-- A text is its first line, and the others each behind a line feed. -/
theorem exists_textLines {cs : List Char} (hreturn : '\r' ∉ cs) :
    ∃ l ls, textLines cs = l :: ls ∧ cs = l ++ ls.flatMap ('\n' :: ·) ∧
      ∀ x ∈ l :: ls, '\n' ∉ x ∧ '\r' ∉ x := by
  obtain ⟨l, ls, hlines⟩ := List.exists_cons_of_ne_nil (Text.splitWhen_ne_nil (· == '\n') cs)
  have hjoined : joinLines (l :: ls) = cs ++ ['\n'] := by
    rw [← joinLines_textLines, textLines, hlines]
  refine ⟨l, ls, hlines, ?_, fun x hx => ⟨?_, fun hmem => ?_⟩⟩
  · rw [joinLines_cons, newline_joinLines, ← List.append_assoc] at hjoined
    exact (List.append_cancel_right hjoined).symm
  · exact notMem_of_mem_textLines (textLines.eq_1 cs ▸ hlines ▸ hx)
  · have hin : '\r' ∈ joinLines (l :: ls) :=
      List.mem_flatMap.mpr ⟨x, hx, List.mem_append_left _ hmem⟩
    rw [hjoined] at hin
    simp [hreturn] at hin

/-- A raw frontmatter and the body behind it are read back from a text of both, if the body starts
with no line end. -/
theorem split_fenced {raw body : List Char} (h : isRaw raw = true)
    (hbody : dropLineEnds body = body) : split (fenced raw ++ body) = (raw, body) := by
  simp only [isRaw, Bool.and_eq_true, Bool.not_eq_true', List.contains_eq_mem,
    decide_eq_false_iff_not, List.all_eq_true] at h
  obtain ⟨hreturn, hfences⟩ := h
  obtain ⟨l, ls, hlines, hraw, hclean⟩ := exists_textLines hreturn
  rw [hlines, List.tail_cons] at hfences
  have hl := hclean l List.mem_cons_self
  -- The raw text is cut at its first line, which may be a fence, and its later ones, none of which
  -- is.
  have hinner : raw ++ '\n' :: (closing ++ body) = l ++ '\n' :: (joinLines ls ++ (closing ++ body)) := by
    have hjoined : '\n' :: (joinLines ls ++ (closing ++ body)) =
        ls.flatMap ('\n' :: ·) ++ '\n' :: (closing ++ body) := by
      rw [← List.cons_append, newline_joinLines]
      simp
    rw [hjoined, hraw]
    simp
  have huntil : untilClosing? (raw ++ '\n' :: (closing ++ body)) = some (raw, body) := by
    rw [hinner, untilClosing?_append hl.1 hl.2,
      untilClosing?_lines (fun x hx => hclean x (List.mem_cons_of_mem l hx)) hfences,
      untilClosing?_closing hbody]
    simp [hraw]
  have hfenced : fenced raw ++ body =
      ['-', '-', '-'] ++ '\n' :: (raw ++ '\n' :: (closing ++ body)) := by
    simp [fenced]
  rw [split, hfenced, afterOpening_fenceLine rfl, Option.bind_some, huntil]
  simp [joinLineEnds_of_notMem hreturn]

/-! ## Headers that end at once -/

theorem afterFence?_append_newline (line rest : List Char) :
    afterFence? (line ++ '\n' :: rest) = (afterFence? line).map (· ++ '\n' :: rest) := by
  rcases line with _ | ⟨c₁, _ | ⟨c₂, _ | ⟨c₃, tail⟩⟩⟩
  · rfl
  · simp [afterFence?]
  · simp [afterFence?]
  · by_cases hfence : c₁ = '-' ∧ c₂ = '-' ∧ c₃ = '-'
    · obtain ⟨rfl, rfl, rfl⟩ := hfence
      -- the blanks behind the fence end in front of the line feed
      change some ((tail ++ '\n' :: rest).dropWhile fun c => c == ' ' || c == '\t') = some _
      rw [List.dropWhile_append]
      split
      · next h => simp [List.isEmpty_iff.mp h]
      · rfl
    · have hnone : ∀ cs, afterFence? (c₁ :: c₂ :: c₃ :: cs) = none := by
        intro cs
        apply afterFence?.eq_2
        intro rest h
        simp only [List.cons.injEq] at h
        exact hfence ⟨h.1, h.2.1, h.2.2.1⟩
      rw [hnone]
      exact hnone _

theorem afterLineEnd?_append {line : List Char} (hne : line ≠ []) (hreturn : line ≠ ['\r'])
    (rest : List Char) :
    afterLineEnd? (line ++ rest) = (afterLineEnd? line).map (· ++ rest) := by
  obtain ⟨c, tail, rfl⟩ := List.exists_cons_of_ne_nil hne
  by_cases hfeed : c = '\n'
  · subst hfeed
    rfl
  · by_cases hpair : ∃ cs, c :: tail = '\r' :: '\n' :: cs
    · obtain ⟨cs, hcs⟩ := hpair
      rw [hcs]
      rfl
    · -- neither text starts with a line end
      have hnone : ∀ cs, (∀ cs', cs ≠ '\n' :: cs') → (∀ cs', cs ≠ '\r' :: '\n' :: cs') →
          afterLineEnd? cs = none := fun cs h h' => afterLineEnd?.eq_3 cs h h'
      rw [hnone (c :: tail) (by simp [hfeed]) (fun cs' h => hpair ⟨cs', h⟩)]
      apply hnone
      · simp [hfeed]
      · intro cs' h
        cases tail with
        | nil =>
            simp only [List.cons_append, List.nil_append, List.cons.injEq] at h
            exact hreturn (by rw [h.1])
        | cons c' tail =>
            simp only [List.cons_append, List.cons.injEq] at h
            exact hpair ⟨tail, by rw [h.1, h.2.1]⟩

/-- Whether a header that is opened in front of a text and closed behind it ends in front of the
text: there is no text, or it starts with a line end and a fence line. -/
def closesAtOnce (text : List Char) : Bool :=
  (bodyAfterClosing? (text ++ '\n' :: closing)).isSome

theorem isSome_lineEnd_append (behind rest : List Char) :
    (afterLineEnd? (behind ++ '\n' :: rest)).isSome =
      (behind.isEmpty || behind == ['\r'] || (afterLineEnd? behind).isSome) := by
  by_cases hne : behind = []
  · subst hne
    rfl
  · by_cases hreturn : behind = ['\r']
    · subst hreturn
      rfl
    · rw [afterLineEnd?_append hne hreturn, Option.isSome_map]
      simp [hne, hreturn]

/-- Whether a closing fence line stands at the start of a text does not depend on what follows the
closing fence line behind it. -/
theorem isSome_bodyAfterClosing?_append (text rest : List Char) :
    (bodyAfterClosing? (text ++ '\n' :: (closing ++ rest))).isSome = closesAtOnce text := by
  unfold closesAtOnce
  by_cases hne : text = []
  · subst hne
    rfl
  · by_cases hreturn : text = ['\r']
    · subst hreturn
      rfl
    · rw [bodyAfterClosing?_eq_bind, bodyAfterClosing?_eq_bind, afterLineEnd?_append hne hreturn,
        afterLineEnd?_append hne hreturn]
      cases afterLineEnd? text with
      | none => rfl
      | some line =>
          simp only [Option.map_some, Option.bind_some, afterFence?_append_newline]
          cases afterFence? line with
          | none => rfl
          | some behind =>
              -- a line end behind the fence ends with the line feed that follows, or in front of it
              simp only [Option.map_some, Option.bind_some, isSome_lineEnd_append]
              have hsome : ∀ (b : Bool) (x : List Char),
                  (if b = true then some x else none).isSome = b := by
                intro b x
                cases b with
                | true => rfl
                | false => rfl
              rw [hsome, hsome]
              cases behind with
              | nil => rfl
              | cons c cs => rfl

theorem isSome_untilClosing? (text rest : List Char) :
    (untilClosing? (text ++ '\n' :: (closing ++ rest))).isSome = true := by
  induction text with
  | nil => rfl
  | cons c text ih =>
      rw [List.cons_append, untilClosing?]
      cases bodyAfterClosing? (c :: (text ++ '\n' :: (closing ++ rest))) with
      | some body => rfl
      | none => simpa using ih

theorem joinLineEnds_ne_nil {cs : List Char} (h : cs ≠ []) : joinLineEnds cs ≠ [] := by
  unfold joinLineEnds
  split
  · exact absurd rfl h
  · exact List.cons_ne_nil _ _
  · exact List.cons_ne_nil _ _

/-- The raw frontmatter is empty exactly if the header closes at once. -/
theorem raw_split_eq_nil_iff (text rest : List Char) :
    (split (fenced text ++ rest)).1 = [] ↔ closesAtOnce text = true := by
  have hfenced : fenced text ++ rest =
      ['-', '-', '-'] ++ '\n' :: (text ++ '\n' :: (closing ++ rest)) := by
    simp [fenced]
  rw [← isSome_bodyAfterClosing?_append text rest, split, hfenced, afterOpening_fenceLine rfl,
    Option.bind_some]
  have hsome := isSome_untilClosing? text rest
  cases htext : text ++ '\n' :: (closing ++ rest) with
  | nil => simp at htext
  | cons c cs =>
      rw [htext, untilClosing?] at hsome
      rw [untilClosing?]
      -- A block closed at its first character has an empty raw text; else that character is in it.
      cases hclosing : bodyAfterClosing? (c :: cs) with
      | some body => simp [joinLineEnds]
      | none =>
          rw [hclosing] at hsome
          simp only [Option.isSome_map] at hsome
          obtain ⟨⟨raw, body⟩, huntil⟩ := Option.isSome_iff_exists.mp hsome
          simp [huntil, joinLineEnds_ne_nil]

end MarkdownSections.Frontmatter
