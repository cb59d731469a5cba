import Mathlib.Data.List.Perm.Subperm
import MarkdownSections.Proofs.Text.Numeral
import MarkdownSections.Slug.Registry

/-!
# The ids that a registry hands out

A registry keeps, for each slug, a number below which it does not look again. The number is sound
when every id below it is taken (`SlugRegistry.Sound`). The empty registry is sound, and reserving
and claiming keep it so (`sound_empty`, `sound_reserve`, `sound_claim`).

In a sound registry the kept numbers do not show: `claim` hands out the first free one of the ids
`s`, `s-1`, `s-2`, … (`claim_fst`). That id is a function of the taken ids alone (`freeId_congr`)
and is not among them (`freeId_notMem`). The search ends because these ids differ from each other
(`numbered_injective`) and only finitely many are taken.
-/

set_option autoImplicit false

namespace MarkdownSections

namespace SlugRegistry

/-! ## Numbered ids -/

theorem showNat_injective : Function.Injective Text.showNat := fun _ _ h =>
  Text.natDigits_injective (String.ofList_injective h)

@[simp] theorem numbered_zero (slug : String) : numbered slug 0 = slug := rfl

theorem numbered_succ (slug : String) (n : Nat) :
    numbered slug (n + 1) = slug ++ "-" ++ Text.showNat (n + 1) := rfl

theorem numbered_succ_ne_self (slug : String) (n : Nat) : numbered slug (n + 1) ≠ slug := by
  intro h
  have hlength := congrArg String.length h
  simp only [numbered_succ, String.length_append] at hlength
  have hhyphen : ("-" : String).length = 1 := rfl
  omega

/-- Different numbers make different ids of one slug. -/
theorem numbered_injective (slug : String) : Function.Injective (numbered slug) := by
  intro m n h
  cases m with
  | zero =>
      cases n with
      | zero => rfl
      | succ n => exact absurd h.symm (numbered_succ_ne_self slug n)
  | succ m =>
      cases n with
      | zero => exact absurd h (numbered_succ_ne_self slug m)
      | succ n =>
          simp only [numbered_succ, String.append_right_inj] at h
          exact showNat_injective h

/-- Only the bare empty slug is an empty id. -/
theorem numbered_eq_empty_iff (slug : String) (n : Nat) :
    numbered slug n = "" ↔ slug = "" ∧ n = 0 := by
  cases n with
  | zero => simp [numbered_zero]
  | succ n =>
      constructor
      · intro h
        have hlength := congrArg String.length h
        simp only [numbered_succ, String.length_append] at hlength
        have hhyphen : ("-" : String).length = 1 := rfl
        have hempty : ("" : String).length = 0 := rfl
        omega
      · rintro ⟨-, h⟩
        exact absurd h (Nat.succ_ne_zero n)

/-! ## The search for a free id -/

section Search

variable (taken : List String) (slug : String)

/-- The search passes over taken ids only. -/
theorem numbered_mem_of_lt_firstFree (fuel : Nat) {start m : Nat} (hstart : start ≤ m)
    (hm : m < firstFree taken slug fuel start) : numbered slug m ∈ taken := by
  induction fuel generalizing start with
  | zero =>
      have : m < start := hm
      omega
  | succ fuel ih =>
      unfold firstFree at hm
      split at hm
      · next htaken =>
          rcases Nat.eq_or_lt_of_le hstart with rfl | hlt
          · simpa using htaken
          · exact ih hlt hm
      · omega

/-- A search that does not run out of candidates ends at a free id. -/
theorem numbered_firstFree_notMem_of_lt (fuel start : Nat)
    (h : firstFree taken slug fuel start < start + fuel) :
    numbered slug (firstFree taken slug fuel start) ∉ taken := by
  induction fuel generalizing start with
  | zero =>
      have : start < start + 0 := h
      omega
  | succ fuel ih =>
      unfold firstFree at h ⊢
      split at h
      · next htaken =>
          rw [if_pos htaken]
          exact ih (start + 1) (by omega)
      · next hfree =>
          rw [if_neg hfree]
          simpa using hfree

/-- Among as many candidates as there are taken ids, and one more, one is free. -/
theorem exists_numbered_notMem (start : Nat) :
    ∃ m, start ≤ m ∧ m ≤ start + taken.length ∧ numbered slug m ∉ taken := by
  by_contra hnone
  push Not at hnone
  -- all candidates would be taken, but they are different and one more than the taken ids
  let candidates := (List.range' start (taken.length + 1)).map (numbered slug)
  have hnodup : candidates.Nodup :=
    List.Pairwise.map _ (fun _ _ hne heq => hne (numbered_injective slug heq)) List.nodup_range'
  have hsubset : candidates ⊆ taken := by
    intro id hid
    obtain ⟨m, hm, rfl⟩ := List.mem_map.mp hid
    rw [List.mem_range'_1] at hm
    exact hnone m hm.1 (by omega)
  have hlength := (List.subperm_of_subset hnodup hsubset).length_le
  simp only [candidates, List.length_map, List.length_range'] at hlength
  omega

/-- With as many candidates as there are taken ids the search ends at a free id. -/
theorem numbered_firstFree_notMem (start : Nat) :
    numbered slug (firstFree taken slug taken.length start) ∉ taken := by
  obtain ⟨m, hstart, hm, hfree⟩ := exists_numbered_notMem taken slug start
  have hle : firstFree taken slug taken.length start ≤ m := by
    by_contra hlt
    exact hfree (numbered_mem_of_lt_firstFree taken slug taken.length hstart (by omega))
  rcases Nat.eq_or_lt_of_le hle with heq | hlt
  · rw [heq]
    exact hfree
  · exact numbered_firstFree_notMem_of_lt taken slug _ start (by omega)

/-- The first free id of a slug: the slug itself, or the slug with the least number that makes it
free. -/
def freeId : String :=
  numbered slug (firstFree taken slug taken.length 0)

@[simp] theorem freeId_notMem : freeId taken slug ∉ taken :=
  numbered_firstFree_notMem taken slug 0

/-- The first free id is the only numbered id that is free and has only taken ones in front. -/
theorem eq_freeId {n : Nat} (hfree : numbered slug n ∉ taken)
    (hbelow : ∀ m < n, numbered slug m ∈ taken) : numbered slug n = freeId taken slug := by
  have hfirst := numbered_firstFree_notMem taken slug 0
  rcases Nat.lt_trichotomy n (firstFree taken slug taken.length 0) with hlt | heq | hgt
  · -- ids in front of the first free one are taken
    exact absurd (numbered_mem_of_lt_firstFree taken slug _ (Nat.zero_le n) hlt) hfree
  · rw [freeId, ← heq]
  · exact absurd (hbelow _ hgt) hfirst

/-- A slug that is free is its own first free id. -/
theorem freeId_eq_self (h : slug ∉ taken) : freeId taken slug = slug :=
  (eq_freeId taken slug (n := 0) h (fun m hm => absurd hm (Nat.not_lt_zero m))).symm

/-- Only the empty slug has an empty id. -/
theorem eq_empty_of_freeId_eq_empty (h : freeId taken slug = "") : slug = "" :=
  ((numbered_eq_empty_iff slug _).mp h).1

end Search

/-- The first free id depends on which ids are taken, not on their order or number. -/
theorem freeId_congr {a b : List String} (h : ∀ id, id ∈ a ↔ id ∈ b) (slug : String) :
    freeId a slug = freeId b slug := by
  apply eq_freeId
  · rw [← h]
    exact freeId_notMem a slug
  · intro m hm
    rw [← h]
    exact numbered_mem_of_lt_firstFree a slug _ (Nat.zero_le m) hm

/-! ## Sound registries -/

/-- Every id below the number that is tried next for its slug is taken. -/
def Sound (r : SlugRegistry) : Prop :=
  ∀ slug m, m < r.nextNumber slug → numbered slug m ∈ r.taken

theorem sound_empty : Sound empty := by
  intro slug m hm
  simp [nextNumber, empty] at hm

theorem lookup_filter_of_ne {slug other : String} (h : other ≠ slug)
    (entries : List (String × Nat)) :
    (entries.filter (·.1 != slug)).lookup other = entries.lookup other := by
  induction entries with
  | nil => rfl
  | cons entry entries ih =>
      obtain ⟨key, value⟩ := entry
      by_cases hkey : key = slug
      · subst hkey
        have hne : (other == key) = false := by simpa using h
        simpa [List.lookup_cons, hne] using ih
      · have hkept : (key != slug) = true := by simpa using hkey
        rw [List.filter_cons, if_pos hkept, List.lookup_cons, List.lookup_cons, ih]

theorem nextNumber_setNext (r : SlugRegistry) (slug other : String) (n : Nat) :
    (r.setNext slug n).nextNumber other = if other = slug then n else r.nextNumber other := by
  unfold nextNumber setNext
  by_cases h : other = slug
  · subst h
    simp
  · have hne : (other == slug) = false := by simpa using h
    rw [if_neg h, List.lookup_cons, hne, lookup_filter_of_ne h]

/-- Reserving an id adds it to the taken ones. -/
@[simp] theorem taken_reserve (r : SlugRegistry) (id : String) :
    (r.reserve id).taken = id :: r.taken := by
  unfold reserve
  cases r.next.lookup id with
  | none => rfl
  | some n => rfl

theorem sound_reserve {r : SlugRegistry} (hr : r.Sound) (id : String) : (r.reserve id).Sound := by
  intro slug m hm
  rw [taken_reserve]
  unfold reserve at hm
  cases hlookup : r.next.lookup id with
  | some n =>
      -- a number that is kept already is not touched
      rw [hlookup] at hm
      exact List.mem_cons_of_mem id (hr slug m hm)
  | none =>
      rw [hlookup] at hm
      simp only [nextNumber_setNext] at hm
      split at hm
      · next h =>
          -- below the number one stands the bare slug, which is taken now
          have hzero : m = 0 := by omega
          subst h hzero
          exact List.mem_cons_self
      · exact List.mem_cons_of_mem id (hr slug m hm)

/-- Claiming hands out an id and adds it to the taken ones. -/
@[simp] theorem taken_claim (r : SlugRegistry) (slug : String) :
    (r.claim slug).2.taken = (r.claim slug).1 :: r.taken := rfl

/-- In a sound registry, claiming hands out the first free id of the slug. -/
theorem claim_fst {r : SlugRegistry} (hr : r.Sound) (slug : String) :
    (r.claim slug).1 = freeId r.taken slug := by
  apply eq_freeId
  · exact numbered_firstFree_notMem r.taken slug (r.nextNumber slug)
  · intro m hm
    -- ids below the kept number are taken by soundness, those from there on were passed over
    by_cases h : m < r.nextNumber slug
    · exact hr slug m h
    · exact numbered_mem_of_lt_firstFree r.taken slug _ (Nat.le_of_not_lt h) hm

theorem sound_claim {r : SlugRegistry} (hr : r.Sound) (slug : String) : (r.claim slug).2.Sound := by
  intro other m hm
  change m < (r.setNext slug
    (firstFree r.taken slug r.taken.length (r.nextNumber slug) + 1)).nextNumber other at hm
  rw [taken_claim]
  rw [nextNumber_setNext] at hm
  split at hm
  · next h =>
      subst h
      -- below the new number stand the id handed out, those passed over and the old ones
      by_cases hnew : m = firstFree r.taken other r.taken.length (r.nextNumber other)
      · subst hnew
        exact List.mem_cons_self
      · refine List.mem_cons_of_mem _ ?_
        by_cases hold : m < r.nextNumber other
        · exact hr other m hold
        · exact numbered_mem_of_lt_firstFree r.taken other r.taken.length (Nat.le_of_not_lt hold)
            (by omega)
  · exact List.mem_cons_of_mem _ (hr other m hm)

/-- Handing out an id for a text adds the first free id of its slug to the taken ones. -/
theorem unique_spec {r : SlugRegistry} (hr : r.Sound) (text : String) :
    (r.unique text).1 = freeId r.taken (slugify text) ∧
      (r.unique text).2.taken = freeId r.taken (slugify text) :: r.taken ∧
      (r.unique text).2.Sound := by
  refine ⟨claim_fst hr _, ?_, sound_claim hr _⟩
  rw [← claim_fst hr]
  exact taken_claim r _

end SlugRegistry

end MarkdownSections
