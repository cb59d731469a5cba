import MarkdownSections.Proofs.Slug.Registry
import MarkdownSections.Proofs.Text.Blank

/-!
# The characters of slugs

A slug keeps nothing but its own characters and hyphens (`mem_slugChars`), and the ids that a
registry makes of it add a hyphen and digits. So no id has a slash in it, and the ids on a path can
be told apart (`slash_notMem_freeId`).
-/

set_option autoImplicit false

namespace MarkdownSections

namespace Slug

theorem squeeze_sublist (cs : List Char) : (squeeze cs).Sublist cs := by
  induction cs with
  | nil => exact List.Sublist.refl []
  | cons c cs ih =>
      unfold squeeze
      split
      · exact ih.cons c
      · exact ih.cons_cons c

theorem trimHyphens_sublist (cs : List Char) : (trimHyphens cs).Sublist cs :=
  (Text.dropEndWhile_sublist _ _).trans (List.dropWhile_sublist _)

/-- A slug has only characters that slugs keep, and hyphens. -/
theorem mem_slugChars {cs : List Char} {c : Char} (h : c ∈ slugChars cs) :
    isSlugChar c = true ∨ c = '-' := by
  have hmem := (squeeze_sublist _).subset ((trimHyphens_sublist _).subset h)
  obtain ⟨x, -, rfl⟩ := List.mem_map.mp hmem
  unfold hyphenate
  split
  · next hkeep => exact Or.inl hkeep
  · exact Or.inr rfl

end Slug

theorem slash_notMem_slugify (text : String) : '/' ∉ (slugify text).toList := by
  intro h
  rw [slugify, String.toList_ofList] at h
  rcases Slug.mem_slugChars h with hkeep | hhyphen
  · exact absurd hkeep (by decide)
  · exact absurd hhyphen (by decide)

namespace SlugRegistry

theorem slash_notMem_showNat (n : Nat) : '/' ∉ (Text.showNat n).toList := by
  intro h
  rw [Text.showNat, String.toList_ofList] at h
  have hdigit : '/'.isDigit = true :=
    Nat.isDigit_of_mem_toDigits (Nat.succ_pos 9) (Nat.le_refl 10) h
  exact absurd hdigit (by decide)

theorem slash_notMem_numbered {slug : String} (h : '/' ∉ slug.toList) (n : Nat) :
    '/' ∉ (numbered slug n).toList := by
  cases n with
  | zero => exact h
  | succ n =>
      rw [numbered_succ, String.toList_append, String.toList_append, List.append_assoc]
      intro hmem
      rcases List.mem_append.mp hmem with hslug | hnumber
      · exact h hslug
      · rcases List.mem_append.mp hnumber with hhyphen | hdigits
        · exact absurd hhyphen (by decide)
        · exact slash_notMem_showNat (n + 1) hdigits

/-- No id that is made of a heading text has a slash in it. -/
theorem slash_notMem_freeId (taken : List String) (text : String) :
    '/' ∉ (freeId taken (slugify text)).toList :=
  slash_notMem_numbered (slash_notMem_slugify text) _

end SlugRegistry

end MarkdownSections
