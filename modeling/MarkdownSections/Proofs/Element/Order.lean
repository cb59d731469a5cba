import MarkdownSections.Element.Basic

/-!
# Elements in ascending order

Sorting by `order` is stable: the result ascends, and the elements of each order stand in it as
they stand in the list (`stablySorted_sortByOrder`). A list that ascends already stays as it is
(`sortByOrder_of_ascending`).
-/

set_option autoImplicit false

namespace MarkdownSections

namespace Element

/-- A list holds the elements of another in ascending order, and those of equal order as they
stand there. -/
structure StablySorted (es sorted : List Element) : Prop where
  ascending : sorted.Pairwise fun a b => a.order ≤ b.order
  stable : ∀ order, sorted.filter (·.order == order) = es.filter (·.order == order)

theorem order_le_trans (a b c : Element) :
    decide (a.order ≤ b.order) = true → decide (b.order ≤ c.order) = true →
      decide (a.order ≤ c.order) = true := by
  intro hab hbc
  have hab' := of_decide_eq_true hab
  have hbc' := of_decide_eq_true hbc
  exact decide_eq_true (Int.le_trans hab' hbc')

theorem order_le_total (a b : Element) :
    (decide (a.order ≤ b.order) || decide (b.order ≤ a.order)) = true := by
  rcases Int.le_total a.order b.order with h | h
  · simp [h]
  · simp [h]

/-- Sorting by order is stable. -/
theorem stablySorted_sortByOrder (es : List Element) : StablySorted es (sortByOrder es) where
  ascending :=
    (List.pairwise_mergeSort order_le_trans order_le_total es).imp fun h => of_decide_eq_true h
  stable := by
    intro order
    let same := es.filter (·.order == order)
    have hequal : same.Pairwise fun a b => decide (a.order ≤ b.order) = true := by
      refine List.Pairwise.imp_of_mem ?_ (List.pairwise_of_forall (R := fun _ _ => True) ?_)
      · intro a b ha hb _
        have ha' : a.order = order := by simpa using (List.mem_filter.mp ha).2
        have hb' : b.order = order := by simpa using (List.mem_filter.mp hb).2
        simp [ha', hb']
      · exact fun _ _ => trivial
    -- sorting keeps a sublist that is in order, and its length leaves room for nothing else
    have hsublist : same.Sublist (sortByOrder es) :=
      List.sublist_mergeSort order_le_trans order_le_total hequal List.filter_sublist
    have hfiltered : same.Sublist ((sortByOrder es).filter (·.order == order)) := by
      have hself : same.filter (·.order == order) = same :=
        List.filter_eq_self.mpr fun e he => (List.mem_filter.mp he).2
      have h := hsublist.filter (·.order == order)
      rwa [hself] at h
    have hlength : ((sortByOrder es).filter (·.order == order)).length = same.length :=
      ((List.mergeSort_perm es _).filter _).length_eq
    exact (hfiltered.eq_of_length hlength.symm).symm

/-- What ascends already stays as it is. -/
theorem sortByOrder_of_ascending {es : List Element}
    (h : es.Pairwise fun a b => a.order ≤ b.order) : sortByOrder es = es :=
  List.mergeSort_of_pairwise (h.imp fun hab => decide_eq_true hab)

end Element

end MarkdownSections
