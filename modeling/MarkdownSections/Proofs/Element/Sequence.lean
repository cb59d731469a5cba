import Mathlib.Data.List.Nodup
import MarkdownSections.Proofs.Element.Order
import MarkdownSections.Section.Reduce

/-!
# Sequences of elements

Rendering and grouping read elements in ascending order, and those of equal order as they stand in
the list. These two demands leave one sequence only (`StablySorted.eq_sortByOrder`), so the places of
elements of different order do not count (`sortByOrder_eq_of_perm`).

The text of a sequence that is cut in two is made of the texts of its parts: a block at the start of
the second part depends on the first part in one thing only, whether it follows an inline element
(`renderInOrder_append`). The main statement is `texts_follow_order`.
-/

set_option autoImplicit false

namespace MarkdownSections

namespace Element

/-! ## One sequence -/

theorem mem_of_filter_eq {e : Element} {es es' : List Element}
    (h : es.filter (·.order == e.order) = es'.filter (·.order == e.order)) (he : e ∈ es) :
    e ∈ es' := by
  have hfilter : e ∈ es'.filter (·.order == e.order) := h ▸ List.mem_filter.mpr ⟨he, by simp⟩
  exact (List.mem_filter.mp hfilter).1

theorem order_le_of_mem {first e : Element} {es : List Element}
    (h : (first :: es).Pairwise fun a b => a.order ≤ b.order) (he : e ∈ first :: es) :
    first.order ≤ e.order := by
  rcases List.mem_cons.mp he with rfl | he
  · exact Int.le_refl e.order
  · exact (List.pairwise_cons.mp h).1 e he

/-- Two lists in ascending order are equal if those of each order are the same elements in the same
places among them. -/
theorem eq_of_ascending {xs ys : List Element} (hxs : xs.Pairwise fun a b => a.order ≤ b.order)
    (hys : ys.Pairwise fun a b => a.order ≤ b.order)
    (h : ∀ order, xs.filter (·.order == order) = ys.filter (·.order == order)) : xs = ys := by
  induction xs generalizing ys with
  | nil =>
      cases ys with
      | nil => rfl
      | cons y ys =>
          exact absurd (mem_of_filter_eq (h y.order).symm List.mem_cons_self) List.not_mem_nil
  | cons x xs ih =>
      cases ys with
      | nil => exact absurd (mem_of_filter_eq (h x.order) List.mem_cons_self) List.not_mem_nil
      | cons y ys =>
          -- each head stands in the other list, so both are of one order and the first of it
          have hle := order_le_of_mem hys (mem_of_filter_eq (h x.order) List.mem_cons_self)
          have hge := order_le_of_mem hxs (mem_of_filter_eq (h y.order).symm List.mem_cons_self)
          have horder : y.order = x.order := Int.le_antisymm hle hge
          have hfirst := h x.order
          rw [List.filter_cons_of_pos (by simp), List.filter_cons_of_pos (by simp [horder])]
            at hfirst
          obtain ⟨rfl, -⟩ := List.cons.inj hfirst
          have hrest := ih (List.pairwise_cons.mp hxs).2 (List.pairwise_cons.mp hys).2 fun order => by
            have hall := h order
            rw [List.filter_cons, List.filter_cons] at hall
            split at hall
            · exact (List.cons.inj hall).2
            · exact hall
          rw [hrest]

theorem StablySorted.eq_sortByOrder {es sorted : List Element} (h : StablySorted es sorted) :
    sorted = sortByOrder es :=
  eq_of_ascending h.ascending (stablySorted_sortByOrder es).ascending fun order =>
    (h.stable order).trans ((stablySorted_sortByOrder es).stable order).symm

/-- The places of elements of different order do not count. -/
theorem sortByOrder_eq_of_perm {es es' : List Element} (hperm : es.Perm es')
    (hnodup : (es.map (·.order)).Nodup) : sortByOrder es = sortByOrder es' := by
  have hsorted := List.mergeSort_perm es fun a b => decide (a.order ≤ b.order)
  have hsorted' := List.mergeSort_perm es' fun a b => decide (a.order ≤ b.order)
  refine (hsorted.trans (hperm.trans hsorted'.symm)).eq_of_pairwise ?_
    (stablySorted_sortByOrder es).ascending (stablySorted_sortByOrder es').ascending
  intro a b ha hb hab hba
  have ha' : a ∈ es := hsorted.mem_iff.mp ha
  have hb' : b ∈ es := hperm.mem_iff.mpr (hsorted'.mem_iff.mp hb)
  exact List.inj_on_of_nodup_map hnodup ha' hb' (Int.le_antisymm hab hba)

/-! ## A sequence in two parts -/

/-- Whether what stands behind a sequence follows an inline element. -/
def endsInline (afterInline : Bool) (es : List Element) : Bool :=
  (es.getLast?.map isInline).getD afterInline

/-- What stands in front of the text of a sequence: an empty line where a block follows an inline
element. -/
def breakBefore (afterInline : Bool) (es : List Element) : String :=
  if afterInline && es.head?.any (!·.isInline) then "\n\n" else ""

/-- What stands between the texts of two parts of a sequence. -/
def separator (front back : List Element) : String :=
  breakBefore (front.getLast?.any isInline) back

theorem endsInline_cons (afterInline : Bool) (e : Element) (es : List Element) :
    endsInline afterInline (e :: es) = endsInline e.isInline es := by
  unfold endsInline
  cases es with
  | nil => rfl
  | cons e' es => simp [List.getLast?_cons]

/-- The text of a sequence in two parts: the second part starts where the first one ends. -/
theorem renderInOrder_append (codec : Codec) (afterInline : Bool) (front back : List Element) :
    renderInOrder codec afterInline (front ++ back) = do
      let first ← renderInOrder codec afterInline front
      let rest ← renderInOrder codec (endsInline afterInline front) back
      return first ++ rest := by
  -- what the second part follows is found at the end of the first; the first error ends both sides
  -- at once
  induction front generalizing afterInline with
  | nil =>
      rw [List.nil_append, renderInOrder]
      change _ = renderInOrder codec afterInline back >>= fun rest => _
      cases renderInOrder codec afterInline back with
      | error fault => rfl
      | ok rest => exact congrArg Except.ok String.empty_append.symm
  | cons e front ih =>
      rw [List.cons_append, renderInOrder, renderInOrder, ih, endsInline_cons]
      cases e.render codec with
      | error fault => rfl
      | ok text =>
          cases renderInOrder codec e.isInline front with
          | error fault => rfl
          | ok first =>
              cases renderInOrder codec (endsInline e.isInline front) back with
              | error fault => rfl
              | ok rest => exact congrArg Except.ok String.append_assoc.symm

/-- What a sequence follows shows in front of its text and nowhere else. -/
theorem renderInOrder_eq_map (codec : Codec) (afterInline : Bool) (es : List Element) :
    renderInOrder codec afterInline es =
      (renderInOrder codec false es).map (breakBefore afterInline es ++ ·) := by
  cases es with
  | nil =>
      have hnone : breakBefore afterInline [] = "" := if_neg (by simp)
      rw [hnone]
      rfl
  | cons e es =>
      rw [renderInOrder, renderInOrder]
      cases e.render codec with
      | error fault => rfl
      | ok text =>
          cases renderInOrder codec e.isInline es with
          | error fault => rfl
          | ok rest =>
              refine congrArg Except.ok ?_
              simp [breakBefore, String.append_assoc]

theorem renderAll_of_ascending (codec : Codec) {es : List Element}
    (h : es.Pairwise fun a b => a.order ≤ b.order) :
    renderAll codec es = renderInOrder codec false es := by
  rw [renderAll, sortByOrder_of_ascending h]

/-- The text of an ascending sequence that is cut in two. -/
theorem renderAll_append (codec : Codec) {front back : List Element}
    (h : (front ++ back).Pairwise fun a b => a.order ≤ b.order) :
    renderAll codec (front ++ back) = do
      let first ← renderAll codec front
      let rest ← renderAll codec back
      return first ++ separator front back ++ rest := by
  obtain ⟨hfront, hback, -⟩ := List.pairwise_append.mp h
  -- both parts ascend, so all three sequences are rendered as they stand
  have hends : endsInline false front = front.getLast?.any isInline := by
    unfold endsInline
    cases front.getLast? with
    | none => rfl
    | some e => rfl
  rw [renderAll_of_ascending codec h, renderAll_of_ascending codec hfront,
    renderAll_of_ascending codec hback, renderInOrder_append, hends,
    renderInOrder_eq_map codec (front.getLast?.any isInline) back]
  cases renderInOrder codec false front with
  | error fault => rfl
  | ok first =>
      cases renderInOrder codec false back with
      | error fault => rfl
      | ok rest => exact congrArg Except.ok String.append_assoc.symm

/-- **Texts and rows follow the orders.** Elements of different order can stand in any places: the
document and the section rows are the same. They are those of the only sequence that ascends and
keeps the elements of each order as they stand in the list. And where such a sequence is cut, its
text is that of both parts with an empty line between them exactly if the first ends with an inline
element and the second starts with a block. -/
theorem texts_follow_order (codec : Codec) :
    (∀ es es' : List Element, es.Perm es' → (es.map (·.order)).Nodup →
      renderAll codec es = renderAll codec es' ∧
        reduceSections codec es = reduceSections codec es') ∧
    (∀ es : List Element, ∃ sorted, StablySorted es sorted ∧
      (∀ sorted', StablySorted es sorted' → sorted' = sorted) ∧
      renderAll codec es = renderInOrder codec false sorted ∧
      reduceSections codec es = do
        let r ← sorted.foldlM (Reducer.feed codec) Reducer.start
        return r.finish.sections) ∧
    ∀ front back : List Element, (front ++ back).Pairwise (fun a b => a.order ≤ b.order) →
      renderAll codec (front ++ back) = do
        let first ← renderAll codec front
        let rest ← renderAll codec back
        return first ++ separator front back ++ rest := by
  refine ⟨fun es es' hperm hnodup => ?_, fun es => ?_, fun front back h => renderAll_append codec h⟩
  · have hsorted := sortByOrder_eq_of_perm hperm hnodup
    constructor
    · rw [renderAll, renderAll, hsorted]
    · rw [reduceSections, reduceSections, hsorted]
  · exact ⟨sortByOrder es, stablySorted_sortByOrder es, fun _ h => h.eq_sortByOrder, rfl, rfl⟩

/-- An emphasis that does not say that it is inline. -/
def emphasized : Element :=
  { elementType := ElementType.emphasis.tag, content := "a", order := 1 }

/-- A heading behind it. -/
def headed : Element :=
  { elementType := ElementType.heading.tag, content := "B", level := some 2, order := 2 }

theorem texts_follow_order_headed :
    ([headed, emphasized].Perm [emphasized, headed] ∧
        ([headed, emphasized].map (·.order)).Nodup ∧
        ([emphasized] ++ [headed]).Pairwise fun a b => a.order ≤ b.order) ∧
      renderAll .lenient [headed, emphasized] = .ok "*a*\n\n## B\n\n" ∧
      reduceSections .lenient [headed, emphasized] =
        reduceSections .lenient [emphasized, headed] := by
  have hperm : [headed, emphasized].Perm [emphasized, headed] := List.Perm.swap _ _ _
  have hnodup : ([headed, emphasized].map (·.order)).Nodup := by decide
  have hascending : ([emphasized] ++ [headed]).Pairwise fun a b => a.order ≤ b.order := by decide
  obtain ⟨hplaces, -, hcut⟩ := texts_follow_order .lenient
  obtain ⟨htext, hrows⟩ := hplaces _ _ hperm hnodup
  have hfirst : renderAll .lenient [emphasized] = .ok "*a*" :=
    (renderAll_of_ascending .lenient (List.pairwise_singleton _ _)).trans rfl
  have hrest : renderAll .lenient [headed] = .ok "## B\n\n" :=
    (renderAll_of_ascending .lenient (List.pairwise_singleton _ _)).trans rfl
  refine ⟨⟨hperm, hnodup, hascending⟩, ?_, hrows⟩
  rw [htext]
  refine (hcut [emphasized] [headed] hascending).trans ?_
  rw [hfirst, hrest]
  rfl

end Element

end MarkdownSections
