import Mathlib.Data.List.Basic
import MarkdownSections.Section.Reduce

/-!
# The headings around a place

A heading is seen here as its level and its id. Among the headings in front of a place, latest
first, those around it are found by always going on to the nearest one of a smaller level
(`Outline.enclosing`). The trail of the last heading is that heading and those around it
(`Outline.trail`), which is what a grouping run keeps on its stack: dropping the entries of no
smaller level leaves the headings around the new one (`dropWhile_trail`).

A heading stays around what follows until one of its level or a smaller one comes
(`enclosing_append_of_deep`, `enclosing_append_of_shallow`). A path joins ids by slashes; ids
without slashes can be read off it, so that one path continues another exactly if its ids do
(`slashed_prefix_iff`).
-/

set_option autoImplicit false

namespace MarkdownSections

namespace Outline

/-! ## Enclosing headings -/

/-- The headings around a place where a heading of level `level` may stand, innermost first;
`above` are the headings in front of it, latest first. -/
def enclosing : List (Int × String) → Int → List (Int × String)
  | [], _ => []
  | m :: above, level => if m.1 < level then m :: enclosing above m.1 else enclosing above level

/-- The last heading and those around it, innermost first. -/
def trail : List (Int × String) → List (Int × String)
  | [] => []
  | m :: above => m :: enclosing above m.1

theorem enclosing_cons_of_lt {m : Int × String} {level : Int} (h : m.1 < level)
    (above : List (Int × String)) : enclosing (m :: above) level = m :: enclosing above m.1 := by
  rw [enclosing, if_pos h]

theorem enclosing_cons_of_le {m : Int × String} {level : Int} (h : level ≤ m.1)
    (above : List (Int × String)) : enclosing (m :: above) level = enclosing above level := by
  rw [enclosing, if_neg (by omega)]

theorem enclosing_sublist (above : List (Int × String)) (level : Int) :
    (enclosing above level).Sublist above := by
  induction above generalizing level with
  | nil => exact List.Sublist.refl []
  | cons m above ih =>
      unfold enclosing
      split
      · exact (ih m.1).cons_cons m
      · exact (ih level).cons m

/-- The innermost heading around a place is the nearest one of a smaller level. -/
theorem head?_enclosing (above : List (Int × String)) (level : Int) :
    (enclosing above level).head? = above.find? fun m => decide (m.1 < level) := by
  induction above with
  | nil => rfl
  | cons m above ih =>
      by_cases h : m.1 < level
      · rw [enclosing_cons_of_lt h, List.find?_cons_of_pos (by simpa using h)]
        rfl
      · rw [enclosing_cons_of_le (by omega), ih, List.find?_cons_of_neg (by simpa using h)]

theorem dropWhile_enclosing {level inner : Int} (h : level ≤ inner) (above : List (Int × String)) :
    (enclosing above inner).dropWhile (fun m => decide (m.1 ≥ level)) = enclosing above level := by
  induction above generalizing inner with
  | nil => rfl
  | cons m above ih =>
      by_cases hm : m.1 < level
      · rw [enclosing_cons_of_lt hm, enclosing_cons_of_lt (by omega)]
        exact List.dropWhile_cons_of_neg (by simpa using hm)
      · -- `m` is dropped if it is around the inner place at all
        rw [enclosing_cons_of_le (show level ≤ m.1 by omega)]
        by_cases hinner : m.1 < inner
        · rw [enclosing_cons_of_lt hinner, List.dropWhile_cons_of_pos (by simpa using hm)]
          exact ih (by omega)
        · rw [enclosing_cons_of_le (by omega)]
          exact ih h

/-- Closing the headings of no smaller level leaves the headings around a new one. -/
theorem dropWhile_trail (above : List (Int × String)) (level : Int) :
    (trail above).dropWhile (fun m => decide (m.1 ≥ level)) = enclosing above level := by
  cases above with
  | nil => rfl
  | cons m above =>
      -- `m` is around the new heading and all that is around `m` stays, or `m` is closed
      by_cases hm : m.1 < level
      · rw [enclosing_cons_of_lt hm]
        exact List.dropWhile_cons_of_neg (by simpa using hm)
      · rw [enclosing_cons_of_le (by omega)]
        rw [trail, List.dropWhile_cons_of_pos (by simpa using hm)]
        exact dropWhile_enclosing (by omega) above

/-- A heading is around every later place that only deeper headings lead to. -/
theorem enclosing_append_of_deep {m : Int × String} {above between : List (Int × String)}
    {level : Int} (hbetween : ∀ x ∈ between, m.1 < x.1) (hlevel : m.1 < level) :
    ∃ inner, enclosing (between ++ m :: above) level = inner ++ m :: enclosing above m.1 := by
  induction between generalizing level with
  | nil => exact ⟨[], enclosing_cons_of_lt hlevel above⟩
  | cons x between ih =>
      have hx : m.1 < x.1 := hbetween x List.mem_cons_self
      have hrest : ∀ y ∈ between, m.1 < y.1 := fun y hy =>
        hbetween y (List.mem_cons_of_mem x hy)
      rw [List.cons_append]
      -- `x` is around the place or not; `m` is of a smaller level than either asks for
      by_cases h : x.1 < level
      · obtain ⟨inner, hinner⟩ := ih hrest hx
        exact ⟨x :: inner, by rw [enclosing_cons_of_lt h, hinner, List.cons_append]⟩
      · rw [enclosing_cons_of_le (by omega)]
        exact ih hrest hlevel

/-- A heading is no longer around a place behind a heading of its level or a smaller one, or where
such a heading stands. -/
theorem enclosing_append_of_shallow {m : Int × String} {above between : List (Int × String)}
    {level : Int} (h : level ≤ m.1 ∨ ∃ x ∈ between, x.1 ≤ m.1) :
    (enclosing (between ++ m :: above) level).Sublist (between ++ above) := by
  induction between generalizing level with
  | nil =>
      have hlevel : level ≤ m.1 := by simpa using h
      rw [List.nil_append, enclosing_cons_of_le hlevel]
      exact enclosing_sublist above level
  | cons x between ih =>
      rw [List.cons_append, List.cons_append]
      -- a shallow heading closes `m` for what comes in front of it, and `x` itself may be one
      by_cases hx : x.1 < level
      · rw [enclosing_cons_of_lt hx]
        refine (ih ?_).cons_cons x
        rcases h with hlevel | ⟨y, hy, hle⟩
        · exact Or.inl (by omega)
        · rcases List.mem_cons.mp hy with rfl | hy
          · exact Or.inl hle
          · exact Or.inr ⟨y, hy, hle⟩
      · rw [enclosing_cons_of_le (by omega)]
        refine (ih ?_).cons x
        rcases h with hlevel | ⟨y, hy, hle⟩
        · exact Or.inl hlevel
        · rcases List.mem_cons.mp hy with rfl | hy
          · exact Or.inl (by omega)
          · exact Or.inr ⟨y, hy, hle⟩

/-! ## Paths -/

/-- The path of a heading is the path of the heading around it, a slash and its id. -/
theorem pathOf_cons (m : Int × String) (around : List (Int × String)) :
    Reducer.pathOf (m :: around) =
      if around = [] then m.2 else Reducer.pathOf around ++ "/" ++ m.2 := by
  unfold Reducer.pathOf
  rw [List.reverse_cons, List.map_append]
  split
  · next h =>
      subst h
      simp
  · next h =>
      rw [String.intercalate_append_of_ne_nil (by simpa using h) (by simp)]
      simp

theorem append_slash_prefix_iff {xs ys as bs : List Char} (hx : '/' ∉ xs) (hy : '/' ∉ ys) :
    xs ++ '/' :: as <+: ys ++ '/' :: bs ↔ xs = ys ∧ as <+: bs := by
  induction xs generalizing ys with
  | nil =>
      cases ys with
      | nil => simp
      | cons y ys =>
          have hne : '/' ≠ y := fun h => hy (h ▸ List.mem_cons_self)
          simp [hne]
  | cons x xs ih =>
      cases ys with
      | nil =>
          have hne : x ≠ '/' := fun h => hx (h ▸ List.mem_cons_self)
          simp [hne]
      | cons y ys =>
          have hx' : '/' ∉ xs := fun h => hx (List.mem_cons_of_mem x h)
          have hy' : '/' ∉ ys := fun h => hy (List.mem_cons_of_mem y h)
          simp [ih hx' hy', and_assoc]

theorem slashed_not_start {s t : String} (h : '/' ∉ t.toList) :
    ¬(s ++ "/").toList <+: t.toList := by
  intro hstart
  have hslash : '/' ∈ (s ++ "/").toList := by
    rw [String.toList_append]
    exact List.mem_append_right _ (by decide)
  exact h (hstart.subset hslash)

/-- A joined text with a slash behind it starts another joined text exactly if the pieces of the
one start the pieces of the other, which has more. -/
theorem slashed_prefix_iff {xs ys : List String} (hxs : xs ≠ []) (hys : ys ≠ [])
    (hx : ∀ x ∈ xs, '/' ∉ x.toList) (hy : ∀ y ∈ ys, '/' ∉ y.toList) :
    ("/".intercalate xs ++ "/").toList <+: ("/".intercalate ys).toList ↔
      ∃ z zs, ys = xs ++ z :: zs := by
  induction xs generalizing ys with
  | nil => exact absurd rfl hxs
  | cons x xs ih =>
      obtain ⟨y, ys, rfl⟩ := List.exists_cons_of_ne_nil hys
      have hslash : ("/" : String).toList = ['/'] := rfl
      have hx₀ : '/' ∉ x.toList := hx x List.mem_cons_self
      have hy₀ : '/' ∉ y.toList := hy y List.mem_cons_self
      by_cases hys' : ys = []
      · -- a single piece has no slash to match
        subst hys'
        rw [String.intercalate_singleton]
        refine iff_of_false (slashed_not_start hy₀) ?_
        rintro ⟨z, zs, h⟩
        have hlength := congrArg List.length h
        simp at hlength
      · obtain ⟨z, zs, rfl⟩ := List.exists_cons_of_ne_nil hys'
        rw [String.intercalate_cons_of_ne_nil hys']
        -- the first pieces are equal, as each ends at its first slash; then the rests are compared
        by_cases hxs' : xs = []
        · subst hxs'
          rw [String.intercalate_singleton]
          simp only [String.toList_append, hslash, List.append_assoc, List.singleton_append]
          rw [append_slash_prefix_iff hx₀ hy₀, String.toList_inj]
          simp [eq_comm]
        · rw [String.intercalate_cons_of_ne_nil hxs']
          have hstep := ih hxs' hys' (fun a ha => hx a (List.mem_cons_of_mem x ha))
            (fun b hb => hy b (List.mem_cons_of_mem y hb))
          simp only [String.toList_append, hslash, List.append_assoc, List.cons_append,
            List.nil_append] at hstep ⊢
          rw [append_slash_prefix_iff hx₀ hy₀, hstep, String.toList_inj]
          simp [eq_comm]

theorem slash_notMem_of_mem_ids {around : List (Int × String)}
    (h : ∀ y ∈ around, '/' ∉ y.2.toList) : ∀ id ∈ around.reverse.map (·.2), '/' ∉ id.toList := by
  intro id hid
  obtain ⟨y, hy, rfl⟩ := List.mem_map.mp hid
  exact h y (List.mem_reverse.mp hy)

/-- A heading in front of another one: its path goes on to the path of the other exactly if that one
and all headings between them are deeper. -/
theorem pathOf_prefix_iff {m x : Int × String} {above between : List (Int × String)}
    (hids : ((x :: (between ++ m :: above)).map (·.2)).Nodup)
    (hslash : ∀ y ∈ x :: (between ++ m :: above), '/' ∉ y.2.toList) :
    (Reducer.pathOf (m :: enclosing above m.1) ++ "/").toList <+:
        (Reducer.pathOf (x :: enclosing (between ++ m :: above) x.1)).toList ↔
      m.1 < x.1 ∧ ∀ y ∈ between, m.1 < y.1 := by
  have hm : ∀ y ∈ m :: enclosing above m.1, y ∈ x :: (between ++ m :: above) := fun y hy =>
    List.mem_cons_of_mem x (List.mem_append_right between
      (((enclosing_sublist above m.1).cons_cons m).subset hy))
  have hx : ∀ y ∈ x :: enclosing (between ++ m :: above) x.1, y ∈ x :: (between ++ m :: above) :=
    fun y hy => ((enclosing_sublist _ x.1).cons_cons x).subset hy
  unfold Reducer.pathOf
  rw [slashed_prefix_iff (by simp) (by simp)
    (slash_notMem_of_mem_ids fun y hy => hslash y (hm y hy))
    (slash_notMem_of_mem_ids fun y hy => hslash y (hx y hy))]
  constructor
  · rintro ⟨z, zs, heq⟩
    -- otherwise `m` is not around `x`, though its id is on the path of `x`
    by_contra hnot
    have hshallow : x.1 ≤ m.1 ∨ ∃ y ∈ between, y.1 ≤ m.1 := by
      by_contra hdeep
      refine hnot ⟨?_, fun y hy => ?_⟩
      · by_contra hle
        exact hdeep (Or.inl (by omega))
      · by_contra hle
        exact hdeep (Or.inr ⟨y, hy, by omega⟩)
    have hmem : m.2 ∈ (x :: enclosing (between ++ m :: above) x.1).map (·.2) := by
      rw [← List.mem_reverse, ← List.map_reverse, heq]
      simp
    have hmem' : m.2 ∈ (x :: (between ++ above)).map (·.2) :=
      (((enclosing_append_of_shallow hshallow).cons_cons x).map (·.2)).subset hmem
    -- the id of `m` would stand twice in the outline
    have hperm : (x :: (between ++ m :: above)).Perm (m :: x :: (between ++ above)) :=
      (List.perm_middle.cons x).trans (List.Perm.swap m x _)
    have hids' := (hperm.map (·.2)).nodup_iff.mp hids
    exact (List.nodup_cons.mp hids').1 hmem'
  · rintro ⟨hlevel, hbetween⟩
    obtain ⟨inner, hinner⟩ :
        ∃ inner, enclosing (between ++ m :: above) x.1 = inner ++ m :: enclosing above m.1 :=
      enclosing_append_of_deep hbetween hlevel
    rw [hinner]
    obtain ⟨z, zs, hzs⟩ : ∃ z zs, (inner.reverse ++ [x]).map (·.2) = z :: zs :=
      List.exists_cons_of_ne_nil (by simp)
    refine ⟨z, zs, ?_⟩
    rw [← hzs]
    simp

end Outline

end MarkdownSections
