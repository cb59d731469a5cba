import Mathlib.Data.List.TakeWhile
import MarkdownSections.Text.Blank

/-!
# Trimmed and split texts

Trimming stops at the last character that stays (`dropEndWhile_append_cons`), and the pieces of a
split text make it up again (`intercalate_splitWhen`) and are found again (`splitWhen_intercalate`).
-/

set_option autoImplicit false

namespace MarkdownSections.Text

/-! ## Ends -/

theorem dropEndWhile_sublist (p : Char → Bool) (cs : List Char) :
    (dropEndWhile p cs).Sublist cs := by
  have hdrop := (List.dropWhile_sublist p (l := cs.reverse)).reverse
  rwa [List.reverse_reverse] at hdrop

theorem dropEndWhile_append (p : Char → Bool) (xs ys : List Char) :
    dropEndWhile p (xs ++ ys) =
      if dropEndWhile p ys = [] then dropEndWhile p xs else xs ++ dropEndWhile p ys := by
  unfold dropEndWhile
  rw [List.reverse_append, List.dropWhile_append]
  simp only [List.isEmpty_iff, List.reverse_eq_nil_iff]
  split
  · rfl
  · rw [List.reverse_append, List.reverse_reverse]

theorem dropEndWhile_append_cons {p : Char → Bool} {c : Char} (h : p c = false)
    (front rest : List Char) :
    dropEndWhile p (front ++ c :: rest) = front ++ c :: dropEndWhile p rest := by
  have hstays : dropEndWhile p (c :: rest) = c :: dropEndWhile p rest := by
    rw [← List.singleton_append, dropEndWhile_append]
    split
    · next hrest =>
        rw [hrest]
        simp [dropEndWhile, h]
    · rfl
  rw [dropEndWhile_append, hstays, if_neg (List.cons_ne_nil _ _)]

theorem exists_dropEndWhile_append (p : Char → Bool) (cs : List Char) :
    ∃ dropped, cs = dropEndWhile p cs ++ dropped ∧ ∀ c ∈ dropped, p c = true := by
  refine ⟨(cs.reverse.takeWhile p).reverse, ?_, fun c hc => ?_⟩
  · have hsplit : cs.reverse.takeWhile p ++ cs.reverse.dropWhile p = cs.reverse :=
      List.takeWhile_append_dropWhile
    unfold dropEndWhile
    rw [← List.reverse_append, hsplit, List.reverse_reverse]
  · exact List.mem_takeWhile_imp (List.mem_reverse.mp hc)

/-- Nothing stays where every character is dropped. -/
theorem dropEndWhile_eq_nil {p : Char → Bool} {cs : List Char} (h : ∀ c ∈ cs, p c = true) :
    dropEndWhile p cs = [] := by
  unfold dropEndWhile
  rw [List.reverse_eq_nil_iff, List.dropWhile_eq_nil_iff]
  exact fun c hc => h c (List.mem_reverse.mp hc)

theorem dropEndWhile_append_singleton {p : Char → Bool} {c : Char} (h : p c = true)
    (cs : List Char) : dropEndWhile p (cs ++ [c]) = dropEndWhile p cs := by
  simp [dropEndWhile, h]

/-- Nothing is dropped where the last character stays. -/
theorem dropEndWhile_eq_self {p : Char → Bool} {cs : List Char}
    (h : ∀ c ∈ cs.getLast?, p c = false) : dropEndWhile p cs = cs := by
  rcases List.eq_nil_or_concat cs with rfl | ⟨front, c, rfl⟩
  · rfl
  · rw [List.concat_eq_append] at h ⊢
    exact dropEndWhile_append_cons (h c (by simp)) front []

theorem eq_false_of_dropEndWhile_eq_self {p : Char → Bool} {cs : List Char}
    (h : dropEndWhile p cs = cs) : ∀ c ∈ cs.getLast?, p c = false := by
  rcases List.eq_nil_or_concat cs with rfl | ⟨front, c, rfl⟩
  · simp
  · rw [List.concat_eq_append] at h ⊢
    simp only [List.getLast?_concat, Option.mem_some_iff, forall_eq']
    by_contra hc
    rw [dropEndWhile_append_singleton (by simpa using hc)] at h
    have hlength := (dropEndWhile_sublist p front).length_le
    rw [h, List.length_append, List.length_singleton] at hlength
    omega

/-! ## Pieces -/

section Pieces

variable {α : Type} {p : α → Bool}

theorem splitWhen_ne_nil (p : α → Bool) (cs : List α) : splitWhen p cs ≠ [] := by
  induction cs with
  | nil => simp [splitWhen]
  | cons c cs ih =>
      rw [splitWhen]
      split
      · simp
      · split
        · simp
        · simp

/-- A text without separators is a piece up to the separator behind it. -/
theorem splitWhen_append_cons {piece : List α} (hpiece : ∀ c ∈ piece, p c = false) {c : α}
    (hc : p c = true) (rest : List α) :
    splitWhen p (piece ++ c :: rest) = piece :: splitWhen p rest := by
  induction piece with
  | nil => simp [splitWhen, hc]
  | cons d piece ih =>
      have hd : p d = false := hpiece d List.mem_cons_self
      have hrest := ih fun x hx => hpiece x (List.mem_cons_of_mem d hx)
      simp [splitWhen, hd, hrest]

/-- No piece holds a separator. -/
theorem notMem_of_mem_splitWhen {cs piece : List α} (h : piece ∈ splitWhen p cs) :
    ∀ c ∈ piece, p c = false := by
  induction cs generalizing piece with
  | nil =>
      rw [splitWhen, List.mem_singleton] at h
      simp [h]
  | cons c cs ih =>
      rw [splitWhen] at h
      split at h
      · rcases List.mem_cons.mp h with rfl | h
        · simp
        · exact ih h
      · next hc =>
          -- A character that does not separate is put in front of the first piece of the rest.
          obtain ⟨front, rest, hsplit⟩ := List.exists_cons_of_ne_nil (splitWhen_ne_nil p cs)
          rw [hsplit] at h ih
          rcases List.mem_cons.mp h with rfl | h
          · intro d hd
            rcases List.mem_cons.mp hd with rfl | hd
            · exact Bool.not_eq_true _ ▸ hc
            · exact ih List.mem_cons_self d hd
          · exact ih (List.mem_cons_of_mem front h)

/-- Pieces between separators make up the text. -/
theorem intercalate_splitWhen [DecidableEq α] (separator : α) (cs : List α) :
    [separator].intercalate (splitWhen (· == separator) cs) = cs := by
  induction cs with
  | nil => rfl
  | cons c cs ih =>
      obtain ⟨front, rest, hsplit⟩ := List.exists_cons_of_ne_nil
        (splitWhen_ne_nil (· == separator) cs)
      rw [splitWhen]
      split
      · next hc =>
          rw [hsplit] at ih ⊢
          rw [List.intercalate_cons_cons, ih]
          simp [beq_iff_eq.mp hc]
      · rw [hsplit] at ih ⊢
        -- With a single piece there is no separator to put between.
        cases rest with
        | nil => simpa using ih
        | cons piece rest =>
            rw [List.intercalate_cons_cons] at ih ⊢
            rw [← ih]
            simp

theorem splitWhen_eq_singleton {piece : List α} (h : ∀ c ∈ piece, p c = false) :
    splitWhen p piece = [piece] := by
  induction piece with
  | nil => rfl
  | cons c piece ih =>
      obtain ⟨hc, hpiece⟩ := List.forall_mem_cons.mp h
      simp [splitWhen, hc, ih hpiece]

/-- Pieces without separators are found again between the separators. -/
theorem splitWhen_intercalate [DecidableEq α] {separator : α} {pieces : List (List α)}
    (hne : pieces ≠ []) (h : ∀ piece ∈ pieces, separator ∉ piece) :
    splitWhen (· == separator) ([separator].intercalate pieces) = pieces := by
  have hplain : ∀ piece ∈ pieces, ∀ c ∈ piece, (c == separator) = false :=
    fun piece hpiece c hc => beq_eq_false_iff_ne.mpr fun heq => h piece hpiece (heq ▸ hc)
  induction pieces with
  | nil => exact absurd rfl hne
  | cons piece pieces ih =>
      obtain ⟨hfirst, hrest⟩ := List.forall_mem_cons.mp hplain
      cases pieces with
      | nil => simpa using splitWhen_eq_singleton hfirst
      | cons next pieces =>
          rw [List.intercalate_cons_cons, List.append_assoc, List.singleton_append,
            splitWhen_append_cons hfirst (beq_self_eq_true separator),
            ih (List.cons_ne_nil next pieces) (fun x hx => h x (List.mem_cons_of_mem piece hx)) hrest]

end Pieces

end MarkdownSections.Text
