import Mathlib.Data.List.DropRight
import Mathlib.Data.List.SplitBy
import MarkdownSections.Proofs.Slug.Characters

/-!
# Slugs as runs of characters

A slug is made of the maximal runs of its own characters in the lowercase text, with one hyphen
between two of them (`slugChars_eq`). A text falls into runs and gaps by turns: a gap in front is
lost (`tidy_cons_of_gap`), and a run stays in front of what the rest makes (`tidy_run_append`).

So every slug is in the form `IsSlug`, and a text in this form is its own slug
(`IsSlug.slugChars_eq_self`). The main statement is `slugify_eq_runs`.
-/

set_option autoImplicit false

namespace MarkdownSections

namespace Slug

/-- Whether a slug keeps both of two characters or neither. -/
def sameKind (a b : Char) : Bool :=
  isSlugChar a == isSlugChar b

/-- The maximal runs of characters that a slug keeps, in order. -/
def runs (cs : List Char) : List (List Char) :=
  (cs.splitBy sameKind).filter fun run => run.all isSlugChar

/-- Texts of slug characters with single hyphens between them. -/
structure IsSlug (cs : List Char) : Prop where
  chars : ∀ c ∈ cs, isSlugChar c = true ∨ c = '-'
  first : cs.head? ≠ some '-'
  last : cs.getLast? ≠ some '-'
  single : ¬['-', '-'] <:+: cs

/-- The slug of a text in lower case. -/
def tidy (cs : List Char) : List Char :=
  trimHyphens (squeeze (cs.map hyphenate))

/-! ## Hyphens -/

theorem ne_hyphen {c : Char} (h : isSlugChar c = true) : c ≠ '-' := by
  rintro rfl
  exact absurd h (by decide)

theorem hyphen_notMem {run : List Char} (h : ∀ c ∈ run, isSlugChar c = true) : '-' ∉ run :=
  fun hmem => ne_hyphen (h '-' hmem) rfl

theorem map_hyphenate_eq_self {cs : List Char} (h : ∀ c ∈ cs, isSlugChar c = true ∨ c = '-') :
    cs.map hyphenate = cs := by
  have hkeep : ∀ c ∈ cs, hyphenate c = id c := fun c hc => by
    rcases h c hc with hslug | rfl
    · exact if_pos hslug
    · rfl
  rw [List.map_congr_left hkeep, List.map_id]

theorem squeeze_cons_of_ne {c : Char} (h : c ≠ '-') (cs : List Char) :
    squeeze (c :: cs) = c :: squeeze cs := by
  simp [squeeze, h]

theorem squeeze_append_of_notMem {run : List Char} (h : '-' ∉ run) (cs : List Char) :
    squeeze (run ++ cs) = run ++ squeeze cs := by
  induction run with
  | nil => rfl
  | cons c run ih =>
      obtain ⟨hc, hrun⟩ := not_or.mp (List.mem_cons.not.mp h)
      rw [List.cons_append, squeeze_cons_of_ne (Ne.symm hc), ih hrun, List.cons_append]

/-- A hyphen stands for those behind it too. -/
theorem squeeze_cons_hyphen (cs : List Char) :
    squeeze ('-' :: cs) = '-' :: (squeeze cs).dropWhile (· == '-') := by
  induction cs with
  | nil => rfl
  | cons c cs ih =>
      by_cases hc : c = '-'
      · subst hc
        have hfirst : squeeze ('-' :: '-' :: cs) = squeeze ('-' :: cs) := by
          rw [squeeze, if_pos (by simp)]
        rw [hfirst, ih, List.dropWhile_cons_of_pos (by simp), List.dropWhile_idempotent]
      · have hfirst : squeeze ('-' :: c :: cs) = '-' :: squeeze (c :: cs) := by
          rw [squeeze, if_neg (by simp [hc])]
        rw [hfirst, squeeze_cons_of_ne hc, List.dropWhile_cons_of_neg (by simp [hc])]

theorem trimHyphens_eq_self {cs : List Char} (hfirst : cs.head? ≠ some '-')
    (hlast : cs.getLast? ≠ some '-') : trimHyphens cs = cs := by
  have hfront : cs.dropWhile (· == '-') = cs := by
    cases cs with
    | nil => rfl
    | cons c cs =>
        have hc : c ≠ '-' := fun heq => hfirst (congrArg some heq)
        exact List.dropWhile_cons_of_neg (by simp [hc])
  rw [trimHyphens, hfront]
  exact Text.dropEndWhile_eq_self fun c hc =>
    beq_eq_false_iff_ne.mpr fun heq => hlast (heq ▸ Option.mem_def.mp hc)

/-! ## Runs and gaps -/

/-- A gap in front leaves nothing. -/
theorem tidy_cons_of_gap {c : Char} (h : isSlugChar c = false) (cs : List Char) :
    tidy (c :: cs) = tidy cs := by
  have hc : hyphenate c = '-' := if_neg (by simp [h])
  rw [tidy, tidy, List.map_cons, hc, squeeze_cons_hyphen, trimHyphens, trimHyphens,
    List.dropWhile_cons_of_pos (by simp), List.dropWhile_idempotent]

theorem tidy_gap_append {gap : List Char} (h : ∀ c ∈ gap, isSlugChar c = false)
    (cs : List Char) : tidy (gap ++ cs) = tidy cs := by
  induction gap with
  | nil => rfl
  | cons c gap ih =>
      obtain ⟨hc, hgap⟩ := List.forall_mem_cons.mp h
      rw [List.cons_append, tidy_cons_of_gap hc, ih hgap]

/-- A run in front of a gap stays, with one hyphen behind it if anything follows. -/
theorem tidy_run_append {run : List Char} (hne : run ≠ []) (h : ∀ c ∈ run, isSlugChar c = true)
    {rest : List Char} (hrest : ∀ c ∈ rest.head?, isSlugChar c = false) :
    tidy (run ++ rest) = if tidy rest = [] then run else run ++ '-' :: tidy rest := by
  have hfree := hyphen_notMem h
  have hmap : run.map hyphenate = run := map_hyphenate_eq_self fun c hc => Or.inl (h c hc)
  cases rest with
  | nil =>
      have hsqueeze := squeeze_append_of_notMem hfree []
      rw [List.append_nil, squeeze, List.append_nil] at hsqueeze
      rw [List.append_nil, tidy, hmap, hsqueeze, trimHyphens_eq_self
        (fun hhead => hfree (List.mem_of_head? hhead))
        (fun hlast => hfree (List.mem_of_getLast? hlast))]
      rfl
  | cons x rest =>
      have hx : isSlugChar x = false := hrest x rfl
      obtain ⟨c, run', rfl⟩ := List.exists_cons_of_ne_nil hne
      have hc : c ≠ '-' := ne_hyphen (h c List.mem_cons_self)
      -- The character behind the run becomes a hyphen, and the hyphens that follow merge with it.
      have hwhole : tidy (c :: run' ++ x :: rest) = Text.dropEndWhile (· == '-')
          ((c :: run' ++ ['-']) ++ (squeeze (rest.map hyphenate)).dropWhile (· == '-')) := by
        have hhyphen : hyphenate x = '-' := if_neg (by simp [hx])
        rw [tidy, List.map_append, hmap, List.map_cons, hhyphen,
          squeeze_append_of_notMem hfree, squeeze_cons_hyphen, trimHyphens, List.cons_append,
          List.dropWhile_cons_of_neg (by simp [hc])]
        simp
      have hrest : tidy (x :: rest) = Text.dropEndWhile (· == '-')
          ((squeeze (rest.map hyphenate)).dropWhile (· == '-')) := tidy_cons_of_gap hx rest
      have hrun : Text.dropEndWhile (· == '-') (c :: run') = c :: run' :=
        Text.dropEndWhile_eq_self fun d hd =>
          beq_eq_false_iff_ne.mpr (ne_hyphen (h d (List.mem_of_getLast? hd)))
      rw [hwhole, Text.dropEndWhile_append, Text.dropEndWhile_append_singleton (by simp), hrun,
        ← hrest, List.append_assoc, List.singleton_append]

/-! ## Segments -/

theorem isSlugChar_eq_of_isChain {c : Char} {seg : List Char}
    (h : (c :: seg).IsChain fun a b => sameKind a b) :
    ∀ d ∈ c :: seg, isSlugChar d = isSlugChar c := by
  induction seg generalizing c with
  | nil => simp
  | cons b seg ih =>
      obtain ⟨hcb, hseg⟩ := List.isChain_cons_cons.mp h
      have hb : isSlugChar c = isSlugChar b := beq_iff_eq.mp hcb
      intro d hd
      rcases List.mem_cons.mp hd with rfl | hd
      · rfl
      · rw [ih hseg d hd, hb]

/-- Behind a run that turns to a gap stands a character that is not kept, if anything does. -/
theorem isSlugChar_of_head?_flatten {run : List Char} (hrun : ∀ d ∈ run, isSlugChar d = true)
    {segs : List (List Char)}
    (hturn : ∀ t ∈ segs.head?, ∃ hs ht, sameKind (run.getLast hs) (t.head ht) = false) :
    ∀ x ∈ segs.flatten.head?, isSlugChar x = false := by
  intro x hx
  cases segs with
  | nil => cases hx
  | cons t segs =>
      obtain ⟨hs, ht, hdiffer⟩ := hturn t rfl
      obtain ⟨y, t', rfl⟩ := List.exists_cons_of_ne_nil ht
      obtain rfl : y = x := Option.some.inj hx
      rw [sameKind, hrun _ (List.getLast_mem hs)] at hdiffer
      simpa using hdiffer

theorem intercalate_cons_eq_ite {α : Type} (separator run : List α) (runs : List (List α)) :
    separator.intercalate (run :: runs) =
      if runs = [] then run else run ++ separator ++ separator.intercalate runs := by
  cases runs with
  | nil => simp
  | cons next runs => simp [List.intercalate_cons_cons]

theorem intercalate_eq_nil_iff {α : Type} (separator : List α) {runs : List (List α)}
    (hne : [] ∉ runs) : separator.intercalate runs = [] ↔ runs = [] := by
  cases runs with
  | nil => simp
  | cons run runs =>
      have hrun : run ≠ [] := fun h => hne (h ▸ List.mem_cons_self)
      rw [intercalate_cons_eq_ite]
      split
      · simp [hrun]
      · simp [hrun]

/-- Segments that turn from run to gap and back make a slug of the runs among them. -/
theorem tidy_flatten {segs : List (List Char)} (hne : [] ∉ segs)
    (hsame : ∀ seg ∈ segs, seg.IsChain fun a b => sameKind a b)
    (hturn : segs.IsChain fun s t => ∃ hs ht, sameKind (s.getLast hs) (t.head ht) = false) :
    tidy segs.flatten = ['-'].intercalate (segs.filter fun seg => seg.all isSlugChar) := by
  induction segs with
  | nil => rfl
  | cons seg segs ih =>
      obtain ⟨hfirst, hlater⟩ := not_or.mp (List.mem_cons.not.mp hne)
      obtain ⟨hsegSame, hsegsSame⟩ := List.forall_mem_cons.mp hsame
      obtain ⟨hnext, hsegsTurn⟩ := List.isChain_cons.mp hturn
      have hrest := ih hlater hsegsSame hsegsTurn
      obtain ⟨c, seg', rfl⟩ := List.exists_cons_of_ne_nil (Ne.symm hfirst)
      have hkind := isSlugChar_eq_of_isChain hsegSame
      rw [List.flatten_cons]
      -- All of a segment is of the kind of its first character: a gap is lost, a run stays whole.
      cases hc : isSlugChar c with
      | false =>
          have hgap : ∀ d ∈ c :: seg', isSlugChar d = false := fun d hd => (hkind d hd).trans hc
          rw [tidy_gap_append hgap, hrest, List.filter_cons_of_neg (by simp [hc])]
      | true =>
          have hrun : ∀ d ∈ c :: seg', isSlugChar d = true := fun d hd => (hkind d hd).trans hc
          have hall : (c :: seg').all isSlugChar = true := List.all_eq_true.mpr hrun
          have hruns : [] ∉ segs.filter fun seg => seg.all isSlugChar := fun hmem =>
            hlater (List.mem_filter.mp hmem).1
          rw [tidy_run_append (List.cons_ne_nil c seg') hrun
            (isSlugChar_of_head?_flatten hrun hnext), hrest, List.filter_cons, if_pos hall,
            intercalate_cons_eq_ite]
          simp only [intercalate_eq_nil_iff ['-'] hruns, List.append_assoc, List.singleton_append]

/-- The slug of a lowercase text is made of its runs. -/
theorem tidy_eq (cs : List Char) : tidy cs = ['-'].intercalate (runs cs) := by
  have h := tidy_flatten (List.nil_notMem_splitBy sameKind cs)
    (fun _ hseg => List.isChain_of_mem_splitBy hseg) (List.isChain_getLast_head_splitBy sameKind cs)
  rwa [List.flatten_splitBy] at h

theorem slugChars_eq (cs : List Char) :
    slugChars cs = ['-'].intercalate (runs (Text.lower cs)) :=
  tidy_eq (Text.lower cs)

/-! ## The form of slugs -/

theorem head?_squeeze (cs : List Char) : (squeeze cs).head? = cs.head? := by
  induction cs with
  | nil => rfl
  | cons c cs ih =>
      unfold squeeze
      split
      · next h =>
          obtain ⟨hc, hnext⟩ := (Bool.and_eq_true _ _).mp h
          rw [ih, beq_iff_eq.mp hnext, beq_iff_eq.mp hc, List.head?_cons]
      · rfl

theorem single_squeeze (cs : List Char) : ¬['-', '-'] <:+: squeeze cs := by
  induction cs with
  | nil => decide
  | cons c cs ih =>
      unfold squeeze
      split
      · exact ih
      · next h =>
          rw [List.infix_cons_iff]
          rintro (hfront | hlater)
          · obtain ⟨hc, hnext⟩ := List.cons_prefix_cons.mp hfront
            have hhead : (squeeze cs).head? = some '-' := by
              obtain ⟨rest, hrest⟩ := hnext
              rw [← hrest]
              rfl
            rw [head?_squeeze] at hhead
            exact h (by simp [← hc, hhead])
          · exact ih hlater

theorem head?_dropWhile_ne (c : Char) (cs : List Char) :
    (cs.dropWhile (· == c)).head? ≠ some c := by
  intro h
  have hnot := List.head?_dropWhile_not (· == c) cs
  rw [h] at hnot
  simp at hnot

theorem isSlug_slugChars (cs : List Char) : IsSlug (slugChars cs) := by
  let squeezed := squeeze ((Text.lower cs).map hyphenate)
  obtain ⟨dropped, hsplit, -⟩ :=
    Text.exists_dropEndWhile_append (· == '-') (squeezed.dropWhile (· == '-'))
  change squeezed.dropWhile (· == '-') = slugChars cs ++ dropped at hsplit
  refine ⟨fun _ h => mem_slugChars h, fun h => ?_, fun h => ?_, fun h => ?_⟩
  · apply head?_dropWhile_ne '-' squeezed
    rw [hsplit, List.head?_append, h]
    rfl
  · have hlast : (slugChars cs).getLast? =
        ((squeezed.dropWhile (· == '-')).reverse.dropWhile (· == '-')).head? :=
      List.getLast?_reverse
    exact head?_dropWhile_ne '-' _ (hlast.symm.trans h)
  · have hinfix : slugChars cs <:+: squeezed :=
      List.IsInfix.trans ⟨[], dropped, by rw [List.nil_append, hsplit]⟩
        (List.dropWhile_suffix _).isInfix
    exact single_squeeze _ (h.trans hinfix)

/-- What a slug keeps has no other form in lower case. -/
theorem lowerChar_of_isSlugChar {c : Char} (h : isSlugChar c = true ∨ c = '-') :
    c ≠ 'Σ' ∧ Text.lowerChar c = [c] := by
  -- the characters are in ASCII and none of them is a capital letter
  have hrange : (97 ≤ c.val.toNat ∧ c.val.toNat ≤ 122) ∨ (48 ≤ c.val.toNat ∧ c.val.toNat ≤ 57) ∨
      c.val.toNat = 95 ∨ c.val.toNat = 45 := by
    rcases h with h | rfl
    · rw [isSlugChar, Bool.or_eq_true, Bool.or_eq_true, beq_iff_eq] at h
      rcases h with (h | h) | rfl
      · obtain ⟨hlow, hhigh⟩ := (Bool.and_eq_true _ _).mp h
        exact Or.inl ⟨of_decide_eq_true hlow, of_decide_eq_true hhigh⟩
      · obtain ⟨hlow, hhigh⟩ := (Bool.and_eq_true _ _).mp h
        exact Or.inr (Or.inl ⟨of_decide_eq_true hlow, of_decide_eq_true hhigh⟩)
      · exact Or.inr (Or.inr (Or.inl rfl))
    · exact Or.inr (Or.inr (Or.inr rfl))
  have hsmall : c.toNat < 0x80 := by
    change c.val.toNat < 0x80
    omega
  refine ⟨?_, ?_⟩
  · rintro rfl
    exact absurd hsmall (by decide)
  · have hcapital : ¬(c.val ≥ 'A'.val ∧ c.val ≤ 'Z'.val) := by
      rintro ⟨hlow, hhigh⟩
      have hlow' : 65 ≤ c.val.toNat := hlow
      have hhigh' : c.val.toNat ≤ 90 := hhigh
      omega
    have hlower : c.toLower = c := dif_neg hcapital
    rw [Text.lowerChar, if_pos hsmall, hlower]

theorem lowerFrom_eq_self {cs : List Char} (h : ∀ c ∈ cs, isSlugChar c = true ∨ c = '-')
    (before : List Char) : Text.lowerFrom before cs = cs := by
  induction cs generalizing before with
  | nil => rfl
  | cons c cs ih =>
      obtain ⟨hc, hcs⟩ := List.forall_mem_cons.mp h
      obtain ⟨hsigma, hlower⟩ := lowerChar_of_isSlugChar hc
      rw [Text.lowerFrom]
      simp only [if_neg hsigma, hlower, ih hcs]
      rfl

theorem squeeze_eq_self {cs : List Char} (h : ¬['-', '-'] <:+: cs) : squeeze cs = cs := by
  induction cs with
  | nil => rfl
  | cons c cs ih =>
      have hcs : ¬['-', '-'] <:+: cs := fun hinfix => h (List.infix_cons hinfix)
      unfold squeeze
      split
      · next hdouble =>
          obtain ⟨hc, hnext⟩ := (Bool.and_eq_true _ _).mp hdouble
          obtain ⟨rest, rfl⟩ := List.head?_eq_some_iff.mp (beq_iff_eq.mp hnext)
          exact absurd ⟨[], rest, by rw [beq_iff_eq.mp hc]; rfl⟩ h
      · rw [ih hcs]

/-- A text in the form of slugs is its own slug. -/
theorem IsSlug.slugChars_eq_self {cs : List Char} (h : IsSlug cs) : slugChars cs = cs := by
  have hlower : Text.lower cs = cs := lowerFrom_eq_self h.chars []
  rw [slugChars, hlower, map_hyphenate_eq_self h.chars, squeeze_eq_self h.single,
    trimHyphens_eq_self h.first h.last]

end Slug

/-- **The normal form of slugs.** A slug is made of the maximal runs of ASCII letters, digits and
underscores in the lowercase text, in order, with single hyphens between them. It has no other
characters, no hyphen at an end, no two hyphens side by side and no slash, and it is its own
slug. -/
theorem slugify_eq_runs (text : String) :
    slugify text =
        "-".intercalate ((Slug.runs (Text.lower text.toList)).map String.ofList) ∧
      Slug.IsSlug (slugify text).toList ∧
      '/' ∉ (slugify text).toList ∧
      slugify (slugify text) = slugify text := by
  have hform : Slug.IsSlug (slugify text).toList := by
    rw [slugify, String.toList_ofList]
    exact Slug.isSlug_slugChars text.toList
  refine ⟨?_, hform, slash_notMem_slugify text, ?_⟩
  · have hstrings : ((Slug.runs (Text.lower text.toList)).map String.ofList).map String.toList =
        Slug.runs (Text.lower text.toList) := by
      rw [List.map_map]
      exact List.map_id'' (fun _ => String.toList_ofList) _
    rw [← String.toList_inj, String.toList_intercalate, hstrings, slugify, String.toList_ofList]
    exact Slug.slugChars_eq text.toList
  · have hself := hform.slugChars_eq_self
    rw [slugify, hself, String.ofList_toList]

example : slugify "Ünits -- A_1!" = "nits-a_1" := by decide +kernel

end MarkdownSections
