import MarkdownSections.Frontmatter.Split
import MarkdownSections.Proofs.Text.Lines

/-!
# The frontmatter block

The block and the body make up the text again, and a block ends a line unless the text ends with it
(`exists_append_split`).

Pairs in place of line feeds change neither the raw frontmatter nor where the body starts
(`split_withReturns`), nor the number of lines in front of it (`lineCount_withReturns`).
-/

set_option autoImplicit false

namespace MarkdownSections.Frontmatter

open Text (EndsLine withReturns withReturns_nil withReturns_newline withReturns_cons)

/-! ## What the readers take off a text -/

theorem exists_of_afterLineEnd? {cs rest : List Char} (h : afterLineEnd? cs = some rest) :
    ∃ lineEnd, cs = lineEnd ++ rest ∧ lineEnd ≠ [] ∧ EndsLine lineEnd := by
  unfold afterLineEnd? at h
  split at h
  · cases h
    exact ⟨['\n'], rfl, by simp, by simp [EndsLine]⟩
  · cases h
    exact ⟨['\r', '\n'], rfl, by simp, by simp [EndsLine]⟩
  · cases h

theorem dropLineEnds_of_afterLineEnd? {cs rest : List Char} (h : afterLineEnd? cs = some rest) :
    dropLineEnds cs = dropLineEnds rest := by
  unfold afterLineEnd? at h
  split at h
  · cases h
    rfl
  · cases h
    rfl
  · cases h

theorem exists_append_dropLineEnds (cs : List Char) :
    ∃ lineEnds, cs = lineEnds ++ dropLineEnds cs ∧ EndsLine lineEnds := by
  induction cs using dropLineEnds.induct with
  | case1 cs ih =>
      obtain ⟨lineEnds, hcs, hends⟩ := ih
      refine ⟨['\n'] ++ lineEnds, ?_, EndsLine.append (by simp [EndsLine]) hends⟩
      rw [dropLineEnds, List.append_assoc, ← hcs, List.singleton_append]
  | case2 cs ih =>
      obtain ⟨lineEnds, hcs, hends⟩ := ih
      refine ⟨['\r', '\n'] ++ lineEnds, ?_, EndsLine.append (by simp [EndsLine]) hends⟩
      rw [dropLineEnds, List.append_assoc, ← hcs, List.cons_append, List.singleton_append]
  | case3 cs hfeed hpair =>
      exact ⟨[], by rw [dropLineEnds.eq_3 cs hfeed hpair, List.nil_append], by simp [EndsLine]⟩

theorem exists_of_afterFence? {cs rest : List Char} (h : afterFence? cs = some rest) :
    ∃ fence, cs = fence ++ rest := by
  unfold afterFence? at h
  split at h
  · next cs =>
      cases h
      refine ⟨['-', '-', '-'] ++ cs.takeWhile fun c => c == ' ' || c == '\t', ?_⟩
      rw [List.append_assoc, List.takeWhile_append_dropWhile]
      rfl
  · cases h

/-- A closing fence line ends a line, unless the text ends with it. -/
theorem exists_of_bodyAfterClosing? {cs body : List Char} (h : bodyAfterClosing? cs = some body) :
    ∃ closing, cs = closing ++ body ∧ (body = [] ∨ closing ≠ [] ∧ EndsLine closing) := by
  unfold bodyAfterClosing? at h
  split at h
  · cases h
    exact ⟨cs, (List.append_nil cs).symm, Or.inl rfl⟩
  · next rest _ hrest =>
      obtain ⟨first, hfirst, hfence⟩ := Option.bind_eq_some_iff.mp hrest
      obtain ⟨lineEnd, rfl, -, -⟩ := exists_of_afterLineEnd? hfirst
      obtain ⟨fence, rfl⟩ := exists_of_afterFence? hfence
      split at h
      · next hsome =>
          cases h
          -- Behind the fence the line ends go at once, so the part dropped ends with one of them.
          obtain ⟨tail, htail⟩ := Option.isSome_iff_exists.mp hsome
          rw [dropLineEnds_of_afterLineEnd? htail]
          obtain ⟨lineEnd', rfl, hne, hends'⟩ := exists_of_afterLineEnd? htail
          obtain ⟨lineEnds, htail', hends⟩ := exists_append_dropLineEnds tail
          refine ⟨lineEnd ++ fence ++ (lineEnd' ++ lineEnds), ?_, Or.inr ⟨by simp [hne], ?_⟩⟩
          · simp only [List.append_assoc]
            rw [← htail']
          · exact EndsLine.append_left (by simp [hne]) (EndsLine.append hends' hends)
      · cases h
  · cases h

/-- The raw frontmatter, the closing fence line and the body make up the text behind the first
fence line. -/
theorem exists_of_untilClosing? {cs raw body : List Char} (h : untilClosing? cs = some (raw, body)) :
    ∃ closing, cs = raw ++ closing ++ body ∧ (body = [] ∨ closing ≠ [] ∧ EndsLine closing) := by
  induction cs generalizing raw body with
  | nil => cases h
  | cons c cs ih =>
      unfold untilClosing? at h
      split at h
      · next hbody =>
          cases h
          exact exists_of_bodyAfterClosing? hbody
      · obtain ⟨⟨raw', body'⟩, hrest, heq⟩ := Option.map_eq_some_iff.mp h
        cases heq
        obtain ⟨closing, hcs, hends⟩ := ih hrest
        exact ⟨closing, by rw [hcs]; rfl, hends⟩

/-- A text is its frontmatter block and its body. A block ends a line, unless the text ends with
it. -/
theorem exists_append_split (cs : List Char) :
    ∃ block, cs = block ++ (split cs).2 ∧ ((split cs).2 = [] ∨ EndsLine block) := by
  unfold split
  cases hclosing : ((afterFence? cs).bind afterLineEnd?).bind untilClosing? with
  | none => exact ⟨[], rfl, Or.inr (by simp [EndsLine])⟩
  | some p =>
      obtain ⟨behind, hbehind, huntil⟩ := Option.bind_eq_some_iff.mp hclosing
      obtain ⟨inner, hinner, hline⟩ := Option.bind_eq_some_iff.mp hbehind
      obtain ⟨fence, rfl⟩ := exists_of_afterFence? hinner
      obtain ⟨lineEnd, rfl, -, -⟩ := exists_of_afterLineEnd? hline
      obtain ⟨closing, rfl, hends⟩ := exists_of_untilClosing? huntil
      refine ⟨fence ++ lineEnd ++ p.1 ++ closing, by simp [List.append_assoc], ?_⟩
      rcases hends with hbody | ⟨hne, hends⟩
      · exact Or.inl hbody
      · exact Or.inr (EndsLine.append_left hne hends)

/-! ## Pairs in place of line feeds -/

theorem afterLineEnd?_withReturns {cs : List Char} (h : '\r' ∉ cs) :
    afterLineEnd? (withReturns cs) = (afterLineEnd? cs).map withReturns := by
  cases cs with
  | nil => rfl
  | cons c cs =>
      by_cases hc : c = '\n'
      · subst hc
        rfl
      · rw [List.mem_cons, not_or] at h
        -- any other character ends no line in either text
        have hnone : ∀ rest : List Char, afterLineEnd? (c :: rest) = none := fun rest =>
          afterLineEnd?.eq_3 (c :: rest) (fun _ heq => hc (List.cons.inj heq).1)
            fun _ heq => h.1 (List.cons.inj heq).1.symm
        rw [withReturns_cons hc, hnone, hnone]
        rfl

theorem dropLineEnds_withReturns {cs : List Char} (h : '\r' ∉ cs) :
    dropLineEnds (withReturns cs) = withReturns (dropLineEnds cs) := by
  induction cs with
  | nil => rfl
  | cons c cs ih =>
      rw [List.mem_cons, not_or] at h
      by_cases hc : c = '\n'
      · subst hc
        exact ih h.2
      · have hself : ∀ rest : List Char, dropLineEnds (c :: rest) = c :: rest := fun rest =>
          dropLineEnds.eq_3 (c :: rest) (fun _ heq => hc (List.cons.inj heq).1)
            fun _ heq => h.1 (List.cons.inj heq).1.symm
        rw [withReturns_cons hc, hself, hself, withReturns_cons hc]

theorem dropBlanks_withReturns (cs : List Char) :
    (withReturns cs).dropWhile (fun c => c == ' ' || c == '\t') =
      withReturns (cs.dropWhile fun c => c == ' ' || c == '\t') := by
  induction cs with
  | nil => rfl
  | cons c cs ih =>
      by_cases hc : c = '\n'
      · subst hc
        rfl
      · rw [withReturns_cons hc, List.dropWhile_cons, List.dropWhile_cons, ih]
        split
        · rfl
        · rw [withReturns_cons hc]

theorem afterFence?_withReturns (cs : List Char) :
    afterFence? (withReturns cs) = (afterFence? cs).map withReturns := by
  by_cases hfence : ∃ rest, cs = '-' :: '-' :: '-' :: rest
  · obtain ⟨rest, rfl⟩ := hfence
    rw [withReturns_cons (by decide), withReturns_cons (by decide), withReturns_cons (by decide)]
    exact congrArg some (dropBlanks_withReturns rest)
  · have hnone : afterFence? cs = none := afterFence?.eq_2 cs fun rest h => hfence ⟨rest, h⟩
    rw [hnone]
    refine afterFence?.eq_2 _ fun rest h => hfence ?_
    -- a hyphen stands for itself, so the hyphens stand in the text already
    obtain ⟨cs₁, rfl, h₁⟩ := Text.exists_of_withReturns_eq_cons h (by decide) (by decide)
    obtain ⟨cs₂, rfl, h₂⟩ := Text.exists_of_withReturns_eq_cons h₁ (by decide) (by decide)
    obtain ⟨cs₃, rfl, -⟩ := Text.exists_of_withReturns_eq_cons h₂ (by decide) (by decide)
    exact ⟨cs₃, rfl⟩

/-- The body behind a fence line that may end the text. -/
theorem bodyAfterClosing?_eq_bind (cs : List Char) :
    bodyAfterClosing? cs = ((afterLineEnd? cs).bind afterFence?).bind fun rest =>
      if rest.isEmpty || (afterLineEnd? rest).isSome then some (dropLineEnds rest) else none := by
  unfold bodyAfterClosing?
  split
  · next h =>
      rw [h]
      rfl
  · next rest hne h =>
      have hempty : rest.isEmpty = false := by
        cases rest with
        | nil => exact (hne rfl).elim
        | cons c rest => rfl
      rw [h, Option.bind_some, hempty, Bool.false_or]
  · next h =>
      rw [h]
      rfl

theorem isEmpty_withReturns (cs : List Char) : (withReturns cs).isEmpty = cs.isEmpty := by
  cases cs with
  | nil => rfl
  | cons c cs =>
      by_cases hc : c = '\n'
      · subst hc
        rfl
      · rw [withReturns_cons hc]
        rfl

theorem bodyAfterClosing?_withReturns {cs : List Char} (h : '\r' ∉ cs) :
    bodyAfterClosing? (withReturns cs) = (bodyAfterClosing? cs).map withReturns := by
  have hfence : (afterLineEnd? (withReturns cs)).bind afterFence? =
      ((afterLineEnd? cs).bind afterFence?).map withReturns := by
    rw [afterLineEnd?_withReturns h]
    cases afterLineEnd? cs with
    | none => rfl
    | some rest => exact afterFence?_withReturns rest
  rw [bodyAfterClosing?_eq_bind, bodyAfterClosing?_eq_bind, hfence]
  cases hrest : (afterLineEnd? cs).bind afterFence? with
  | none => rfl
  | some rest =>
      obtain ⟨first, hfirst, hbehind⟩ := Option.bind_eq_some_iff.mp hrest
      obtain ⟨lineEnd, rfl, -, -⟩ := exists_of_afterLineEnd? hfirst
      obtain ⟨fence, rfl⟩ := exists_of_afterFence? hbehind
      -- What is left behind the fence is a part of the text, so it has no carriage return either.
      have hnotMem : '\r' ∉ rest := fun hmem =>
        h (List.mem_append_right _ (List.mem_append_right _ hmem))
      simp only [Option.map_some, Option.bind_some, isEmpty_withReturns,
        afterLineEnd?_withReturns hnotMem, dropLineEnds_withReturns hnotMem, Option.isSome_map]
      split
      · rfl
      · rfl

theorem untilClosing?_withReturns {cs : List Char} (h : '\r' ∉ cs) :
    untilClosing? (withReturns cs) =
      (untilClosing? cs).map fun p => (withReturns p.1, withReturns p.2) := by
  induction cs with
  | nil => rfl
  | cons c cs ih =>
      have hbody := bodyAfterClosing?_withReturns h
      rw [List.mem_cons, not_or] at h
      have hrest := ih h.2
      rw [untilClosing?.eq_2 c cs]
      by_cases hc : c = '\n'
      · subst hc
        -- a pair and its line feed alone have the same text behind them
        have hfeed : bodyAfterClosing? ('\n' :: withReturns cs) =
            bodyAfterClosing? (withReturns ('\n' :: cs)) := rfl
        rw [withReturns_newline] at hbody ⊢
        rw [untilClosing?, hbody, untilClosing?, hfeed, withReturns_newline, hbody, hrest]
        cases bodyAfterClosing? ('\n' :: cs) with
        | some body => rfl
        | none => cases untilClosing? cs <;> rfl
      · rw [withReturns_cons hc] at hbody ⊢
        rw [untilClosing?, hbody, hrest]
        cases bodyAfterClosing? (c :: cs) with
        | some body => rfl
        | none =>
            cases untilClosing? cs with
            | none => rfl
            | some p =>
                simp [withReturns_cons hc]

theorem joinLineEnds_of_notMem {cs : List Char} (h : '\r' ∉ cs) : joinLineEnds cs = cs := by
  induction cs with
  | nil => rfl
  | cons c cs ih =>
      rw [List.mem_cons, not_or] at h
      rw [joinLineEnds.eq_3 c cs fun _ hc _ => h.1 hc.symm, ih h.2]

theorem joinLineEnds_withReturns {cs : List Char} (h : '\r' ∉ cs) :
    joinLineEnds (withReturns cs) = cs := by
  induction cs with
  | nil => rfl
  | cons c cs ih =>
      rw [List.mem_cons, not_or] at h
      by_cases hc : c = '\n'
      · subst hc
        rw [withReturns_newline, joinLineEnds, ih h.2]
      · rw [withReturns_cons hc, joinLineEnds.eq_3 c _ fun _ heq _ => h.1 heq.symm, ih h.2]

/-- Pairs in place of line feeds leave the raw frontmatter as it is, and stand in the body as they
stand in the text. -/
theorem split_withReturns {cs : List Char} (h : '\r' ∉ cs) :
    split (withReturns cs) = ((split cs).1, withReturns (split cs).2) := by
  unfold split
  rw [afterFence?_withReturns]
  -- Each stage of the split commutes with the returns for what the stage before has left over.
  cases hfence : afterFence? cs with
  | none => rfl
  | some inner =>
      obtain ⟨fence, rfl⟩ := exists_of_afterFence? hfence
      have hinner : '\r' ∉ inner := fun hmem => h (List.mem_append_right _ hmem)
      rw [Option.map_some, Option.bind_some, Option.bind_some, afterLineEnd?_withReturns hinner]
      cases hline : afterLineEnd? inner with
      | none => rfl
      | some behind =>
          obtain ⟨lineEnd, rfl, -, -⟩ := exists_of_afterLineEnd? hline
          have hbehind : '\r' ∉ behind := fun hmem => hinner (List.mem_append_right _ hmem)
          rw [Option.map_some, Option.bind_some, Option.bind_some,
            untilClosing?_withReturns hbehind]
          cases huntil : untilClosing? behind with
          | none => rfl
          | some p =>
              obtain ⟨closing, hsplit, -⟩ := exists_of_untilClosing? huntil
              have hraw : '\r' ∉ p.1 := fun hmem =>
                hbehind (hsplit ▸ List.mem_append_left _ (List.mem_append_left _ hmem))
              simp only [Option.map_some, joinLineEnds_withReturns hraw,
                joinLineEnds_of_notMem hraw]

/-! ## Lines in front of the body -/

/-- The lines in front of the body are counted by the line feeds of the block. -/
theorem lineCount_append (block body : List Char) :
    lineCount (block ++ body) body = block.count '\n' := by
  unfold lineCount
  rw [List.length_append, Nat.add_sub_cancel, List.take_left]

theorem lineCount_withReturns {cs : List Char} (h : '\r' ∉ cs) :
    lineCount (withReturns cs) (split (withReturns cs)).2 = lineCount cs (split cs).2 := by
  obtain ⟨block, hcs, -⟩ := exists_append_split cs
  have hpairs : withReturns cs = withReturns block ++ withReturns (split cs).2 := by
    rw [← Text.withReturns_append, ← hcs]
  calc lineCount (withReturns cs) (split (withReturns cs)).2
      = lineCount (withReturns block ++ withReturns (split cs).2) (withReturns (split cs).2) := by
        rw [split_withReturns h, ← hpairs]
    _ = block.count '\n' := by rw [lineCount_append, Text.count_newline_withReturns]
    _ = lineCount cs (split cs).2 := by
        rw [← lineCount_append block (split cs).2, ← hcs]

end MarkdownSections.Frontmatter
