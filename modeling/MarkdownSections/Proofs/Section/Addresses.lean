import Mathlib.Data.List.Nodup
import MarkdownSections.Document.Parse
import MarkdownSections.Proofs.Section.Levels
import MarkdownSections.Section.Lookup

/-!
# The ids of a table of contents

A table of contents up to some level hands out its ids without a look at the deeper headings, while
ids are looked up among the sections of all levels. Both runs go over the same headings, one over a
part of them (`idsFrom`). As long as the ids taken in the shorter run are taken in the longer one,
an id of the table is either taken in the longer run already or given there to the same heading; so
every id of the table is the id of some section (`mem_of_mem_idsFrom`). If none of them is the id of
a deeper section, both runs give the same ids (`idsFrom_eq_filter`), and the ids of the table lead
to their own headings. A single id of the table that belongs to a deeper section leads elsewhere
(`WellHeaded.addresses_iff`).
-/

set_option autoImplicit false

namespace MarkdownSections

open Attempt (exists_of_isSome eq_ok_of_toOption)
open SlugRegistry (freeId)

/-! ## Two runs over the same headings -/

/-- With more ids taken, the first free id stays what it was as long as it is free. -/
theorem SlugRegistry.freeId_of_subset {a b : List String} (hsubset : ∀ id ∈ a, id ∈ b)
    {slug : String} (hfree : freeId a slug ∉ b) : freeId b slug = freeId a slug := by
  symm
  apply eq_freeId
  · exact hfree
  · intro m hm
    exact hsubset _ (numbered_mem_of_lt_firstFree a slug _ (Nat.zero_le m) hm)

namespace Heading

/-- The ids that the headings of the wanted levels get, each with its heading; `taken` are the ids
taken before. -/
def idsFrom (wanted : Int → Bool) (taken : List String) : List Heading → List (String × Heading)
  | [] => []
  | h :: hs =>
    if wanted h.level then
      (freeId taken (slugify h.title), h) ::
        idsFrom wanted (freeId taken (slugify h.title) :: taken) hs
    else idsFrom wanted taken hs

/-- Headings with ids are the headings with the ids that they get. -/
theorem filterMap_assignIds {β : Type} (f : String → Heading → β)
    (hf : ∀ id h id', f id { h with id := id' } = f id h) (o : SectionOptions) {r : SlugRegistry}
    (hr : r.Sound) {hs : List Heading} (hs₀ : ∀ h ∈ hs, h.id = none) :
    (assignIds o r hs).filterMap (fun h => h.id.map fun id => f id h) =
      (idsFrom o.includes r.taken hs).map fun k => f k.1 k.2 := by
  induction hs generalizing r with
  | nil => rfl
  | cons h hs ih =>
      obtain ⟨hnone, hrest⟩ := List.forall_mem_cons.mp hs₀
      unfold assignIds idsFrom
      split
      · obtain ⟨hid, htaken, hsound⟩ := SlugRegistry.unique_spec hr h.title
        simp only [List.map_cons]
        rw [List.filterMap_cons_some (b := f (freeId r.taken (slugify h.title)) h),
          ih hsound hrest, htaken]
        simp only [hid, Option.map_some, hf]
      · rw [List.filterMap_cons_none (by rw [hnone]; rfl)]
        exact ih hr hrest

section Runs

variable {shallow all : Int → Bool} {taken more : List String} {hs : List Heading}

/-- Every id that is given belongs to a heading of a wanted level and is its slug, numbered or
not. -/
theorem of_mem_idsFrom {k : String × Heading} (hk : k ∈ idsFrom shallow taken hs) :
    k.2 ∈ hs ∧ shallow k.2.level = true ∧
      ∃ n, k.1 = SlugRegistry.numbered (slugify k.2.title) n := by
  induction hs generalizing taken with
  | nil => cases hk
  | cons h hs ih =>
      unfold idsFrom at hk
      split at hk
      · next hin =>
          rcases List.mem_cons.mp hk with rfl | hk
          · exact ⟨List.mem_cons_self, hin, _, rfl⟩
          · exact ⟨List.mem_cons_of_mem h (ih hk).1, (ih hk).2⟩
      · exact ⟨List.mem_cons_of_mem h (ih hk).1, (ih hk).2⟩

/-- No id that is given was taken before, and none is given twice. -/
theorem nodup_idsFrom (wanted : Int → Bool) (taken : List String) (hs : List Heading) :
    ((idsFrom wanted taken hs).map (·.1)).Nodup ∧
      ∀ id ∈ (idsFrom wanted taken hs).map (·.1), id ∉ taken := by
  induction hs generalizing taken with
  | nil => exact ⟨List.nodup_nil, fun id hid => by cases hid⟩
  | cons h hs ih =>
      unfold idsFrom
      split
      · obtain ⟨hnodup, hfresh⟩ := ih (freeId taken (slugify h.title) :: taken)
        rw [List.map_cons]
        refine ⟨List.nodup_cons.mpr ⟨fun hmem => ?_, hnodup⟩, fun id hid => ?_⟩
        · exact hfresh _ hmem List.mem_cons_self
        · rcases List.mem_cons.mp hid with rfl | hid
          · exact SlugRegistry.freeId_notMem taken _
          · exact fun hin => hfresh id hid (List.mem_cons_of_mem _ hin)
      · exact ih taken

/-- The run over all headings gives every id of the run over some of them, if it was not taken. -/
theorem mem_of_mem_idsFrom (hall : ∀ h ∈ hs, all h.level = true)
    (hsubset : ∀ id ∈ taken, id ∈ more) {id : String}
    (hid : id ∈ (idsFrom shallow taken hs).map (·.1)) :
    id ∈ more ∨ id ∈ (idsFrom all more hs).map (·.1) := by
  induction hs generalizing taken more with
  | nil => cases hid
  | cons h hs ih =>
      obtain ⟨hin, hrest⟩ := List.forall_mem_cons.mp hall
      -- what the longer run gives first counts as taken behind it
      have hlater : id ∈ freeId more (slugify h.title) :: more ∨
          id ∈ (idsFrom all (freeId more (slugify h.title) :: more) hs).map (·.1) →
          id ∈ more ∨ id ∈ (idsFrom all more (h :: hs)).map (·.1) := by
        rw [idsFrom, if_pos hin, List.map_cons]
        rintro (hmem | hmem)
        · rcases List.mem_cons.mp hmem with rfl | hmem
          · exact Or.inr List.mem_cons_self
          · exact Or.inl hmem
        · exact Or.inr (List.mem_cons_of_mem _ hmem)
      -- the free id of the shorter run is taken in the longer one, or free there too
      have hfirst : freeId taken (slugify h.title) ∈ freeId more (slugify h.title) :: more := by
        by_cases hfree : freeId taken (slugify h.title) ∈ more
        · exact List.mem_cons_of_mem _ hfree
        · rw [SlugRegistry.freeId_of_subset hsubset hfree]
          exact List.mem_cons_self
      apply hlater
      unfold idsFrom at hid
      split at hid
      · rcases List.mem_cons.mp hid with rfl | hid
        · exact Or.inl hfirst
        · refine ih hrest (fun x hx => ?_) hid
          rcases List.mem_cons.mp hx with rfl | hx
          · exact hfirst
          · exact List.mem_cons_of_mem _ (hsubset x hx)
      · exact ih hrest (fun x hx => List.mem_cons_of_mem _ (hsubset x hx)) hid

/-- If no id of the shorter run is that of a heading which it leaves out, then the longer run gives
the same ids. Besides the ids of the shorter run, only those of headings left out are taken in the
longer one (`deep`). -/
theorem idsFrom_eq_filter (deep : List String) (hall : ∀ h ∈ hs, all h.level = true)
    (hsubset : ∀ id ∈ taken, id ∈ more) (hmore : ∀ id ∈ more, id ∈ taken ∨ id ∈ deep)
    (hdeep : ∀ k ∈ idsFrom shallow taken hs, k.1 ∉ deep)
    (hsame : ∀ k ∈ idsFrom shallow taken hs, ∀ k' ∈ idsFrom all more hs, k'.1 = k.1 →
      shallow k'.2.level = true) :
    idsFrom shallow taken hs = (idsFrom all more hs).filter fun k => shallow k.2.level := by
  induction hs generalizing taken more deep with
  | nil => rfl
  | cons h hs ih =>
      obtain ⟨hin, hrest⟩ := List.forall_mem_cons.mp hall
      cases hshown : shallow h.level with
      | true =>
          rw [idsFrom, if_pos hshown] at hdeep hsame ⊢
          rw [idsFrom, if_pos hin] at hsame ⊢
          rw [List.filter_cons_of_pos (by exact hshown)]
          have hfree : freeId taken (slugify h.title) ∉ more := by
            intro hmem
            rcases hmore _ hmem with hmem | hmem
            · exact SlugRegistry.freeId_notMem taken _ hmem
            · exact hdeep _ List.mem_cons_self hmem
          rw [SlugRegistry.freeId_of_subset hsubset hfree] at hsame ⊢
          refine congrArg _ (ih deep hrest (fun x hx => ?_) (fun x hx => ?_)
            (fun k hk => hdeep k (List.mem_cons_of_mem _ hk))
            fun k hk k' hk' => hsame k (List.mem_cons_of_mem _ hk) k' (List.mem_cons_of_mem _ hk'))
          · rcases List.mem_cons.mp hx with rfl | hx
            · exact List.mem_cons_self
            · exact List.mem_cons_of_mem _ (hsubset x hx)
          · rcases List.mem_cons.mp hx with rfl | hx
            · exact Or.inl List.mem_cons_self
            · exact (hmore x hx).imp_left (List.mem_cons_of_mem _)
      | false =>
          rw [idsFrom, if_neg (by simp [hshown])] at hdeep hsame ⊢
          rw [idsFrom, if_pos hin] at hsame ⊢
          rw [List.filter_cons_of_neg (by simp [hshown])]
          -- the id of a heading left out is none of the shorter run
          refine ih (freeId more (slugify h.title) :: deep) hrest
            (fun x hx => List.mem_cons_of_mem _ (hsubset x hx)) (fun x hx => ?_)
            (fun k hk hmem => ?_) fun k hk k' hk' => hsame k hk k' (List.mem_cons_of_mem _ hk')
          · rcases List.mem_cons.mp hx with rfl | hx
            · exact Or.inr List.mem_cons_self
            · exact (hmore x hx).imp_right (List.mem_cons_of_mem _)
          · rcases List.mem_cons.mp hmem with heq | hmem
            · have := hsame k hk _ List.mem_cons_self heq.symm
              rw [hshown] at this
              cases this
            · exact hdeep k hk hmem

end Runs

end Heading

namespace Document

/-! ## Rows and the ids that they show -/

/-- The headings of the wanted levels with their ids. -/
def addressed (d : Document) (wanted : Int → Bool) : List (String × Heading) :=
  Heading.idsFrom wanted d.startRegistry.taken (Heading.listOf d.blocks)

/-- What the row of a heading shows of it, apart from its place in the outline. -/
def shownOf (d : Document) (o : SectionOptions) (id : String) (h : Heading) :
    String × Int × Option Int × String :=
  (id, h.level, d.startLine h.node, if o.includeContent then d.textOf (h.body o.mode) else "")

theorem map_headingRows (d : Document) {o : SectionOptions} (hmode : o.mode ≠ .smart)
    (above : List (Int × String)) (hs : List Heading) :
    (d.headingRows o above hs).map (fun s => (s.id, s.level, s.startLine, s.content)) =
      hs.filterMap fun h => h.id.map fun id => d.shownOf o id h := by
  induction hs generalizing above with
  | nil => rfl
  | cons h later ih =>
      cases hid : h.id with
      | none =>
          rw [headingRows_cons_of_none d o above hid, ih,
            List.filterMap_cons_none (by rw [hid]; rfl)]
      | some id =>
          rw [headingRows_cons_of_id d o above hid, List.map_cons, ih,
            List.filterMap_cons_some (by rw [hid]; rfl)]
          simp only [headingRow, contentOf_of_ne_smart d hmode, shownOf]

/-- The rows of headings show the headings with their ids, in order. -/
theorem map_headingRows_headings (d : Document) {o : SectionOptions} (hmode : o.mode ≠ .smart) :
    (d.headingRows o [] (d.headings o)).map (fun s => (s.id, s.level, s.startLine, s.content)) =
      (d.addressed o.includes).map fun k => d.shownOf o k.1 k.2 := by
  rw [map_headingRows d hmode]
  exact Heading.filterMap_assignIds (d.shownOf o) (fun _ _ _ => rfl) o d.sound_startRegistry
    d.id_eq_none_of_mem_listOf

section HeadingRows

variable {d : Document} {o : SectionOptions}

theorem exists_of_mem_rows (hmode : o.mode ≠ .smart) {s : Section}
    (hs : s ∈ d.headingRows o [] (d.headings o)) :
    ∃ k ∈ d.addressed o.includes,
      (s.id, s.level, s.startLine, s.content) = d.shownOf o k.1 k.2 := by
  have hmem := List.mem_map_of_mem
    (f := fun s : Section => (s.id, s.level, s.startLine, s.content)) hs
  rw [map_headingRows_headings d hmode] at hmem
  obtain ⟨k, hk, heq⟩ := List.mem_map.mp hmem
  exact ⟨k, hk, heq.symm⟩

theorem exists_row_of_mem (hmode : o.mode ≠ .smart) {k : String × Heading}
    (hk : k ∈ d.addressed o.includes) :
    ∃ s ∈ d.headingRows o [] (d.headings o),
      (s.id, s.level, s.startLine, s.content) = d.shownOf o k.1 k.2 := by
  have hmem := List.mem_map_of_mem (f := fun k : String × Heading => d.shownOf o k.1 k.2) hk
  rw [← map_headingRows_headings d hmode] at hmem
  exact List.mem_map.mp hmem

end HeadingRows

/-! ## Where an id leads -/

/-- The id of a row leads to the heading that the row stands for: the one section with the id starts
where the row starts, and under the id one finds the text of the section of a heading that starts
there, alone or with all that is nested in it. -/
structure Addresses (d : Document) (r : Section) : Prop where
  line : ∃ rows, d.sections {} = .ok rows ∧
    (rows.filter fun s => s.id == r.id).map (·.startLine) = [r.startLine]
  text : ∀ nested, ∃ h ∈ Heading.listOf d.blocks, d.startLine h.node = r.startLine ∧
    d.sectionContent r.id nested = .ok (d.textOf (h.body (if nested then .full else .minimal)))

/-- No heading deeper than a level shares its slug, numbered or not, with a heading up to it. -/
def SlugsApart (d : Document) (maxLevel : Int) : Prop :=
  ∀ h ∈ Heading.listOf d.blocks, ∀ g ∈ Heading.listOf d.blocks, h.level ≤ maxLevel →
    maxLevel < g.level → ∀ m n,
      SlugRegistry.numbered (slugify h.title) m ≠ SlugRegistry.numbered (slugify g.title) n

/-- The rows of the headings up to a level, without content. -/
def tableRows (d : Document) (maxLevel : Int) : List Section :=
  d.headingRows { maxLevel, includeContent := false } []
    (d.headings { maxLevel, includeContent := false })

/-- The headings up to a level with the ids that they get in a table of contents. -/
def addressedTo (d : Document) (maxLevel : Int) : List (String × Heading) :=
  d.addressed ({ maxLevel } : SectionOptions).includes

/-- The headings of all levels with their ids. -/
def addressedAll (d : Document) : List (String × Heading) :=
  d.addressed ({} : SectionOptions).includes

/-- The rows of a table of contents are those of the headings up to its level. -/
theorem WellHeaded.contentsTable_eq {d : Document} (hd : d.WellHeaded) {maxLevel : Int}
    (hmax : 1 ≤ maxLevel) : d.contentsTable maxLevel = .ok (d.tableRows maxLevel) := by
  have hcheck : ({ maxLevel, includeContent := false } : SectionOptions).check "minimal" =
      .ok { maxLevel, includeContent := false } := by
    unfold SectionOptions.check
    rw [if_neg (Int.not_lt.mpr hmax)]
    rfl
  unfold contentsTable
  rw [hcheck]
  change ((d.sections _).map Section.ofHeadings) = _
  rw [sections_eq hd]
  exact congrArg Except.ok (ofHeadings_frontmatterRow_append d _ hd.level_pos_of_mem)

section Tables

variable {d : Document} {wanted : Int → Bool} {maxLevel : Int}

theorem WellHeaded.includes_of_mem_listOf (hd : d.WellHeaded) {h : Heading}
    (hmem : h ∈ Heading.listOf d.blocks) : ({} : SectionOptions).includes h.level = true := by
  obtain ⟨hblock, hheading, hlevel, -⟩ := Heading.mem_listOf hmem
  rw [hlevel]
  exact hd.includes rfl rfl h.node hblock hheading

/-- Every id of the headings of some levels is the id of a heading. -/
theorem WellHeaded.exists_addressed (hd : d.WellHeaded) {k : String × Heading}
    (hk : k ∈ d.addressed wanted) : ∃ k' ∈ d.addressedAll, k'.1 = k.1 := by
  have hid := List.mem_map_of_mem (f := fun k : String × Heading => k.1) hk
  rcases Heading.mem_of_mem_idsFrom (fun _ hmem => hd.includes_of_mem_listOf hmem)
    (fun _ hmem => hmem) hid with htaken | hall
  · exact absurd htaken ((Heading.nodup_idsFrom wanted _ _).2 _ hid)
  · exact List.mem_map.mp hall

/-- As long as no id of the headings of some levels is that of another heading of other levels,
these headings have the ids that they have among all headings. -/
theorem WellHeaded.addressed_eq_filter (hd : d.WellHeaded)
    (hsame : ∀ k ∈ d.addressed wanted, ∀ k' ∈ d.addressedAll, k'.1 = k.1 →
      wanted k'.2.level = true) :
    d.addressed wanted = d.addressedAll.filter fun k => wanted k.2.level :=
  Heading.idsFrom_eq_filter [] (fun _ hmem => hd.includes_of_mem_listOf hmem)
    (fun _ hid => hid) (fun _ hid => Or.inl hid) (fun _ _ => List.not_mem_nil) hsame

/-- Among rows with different ids, only a row itself has its id. -/
theorem filter_id_eq {rows : List Section} (hnodup : (rows.map (·.id)).Nodup) {s : Section}
    (hs : s ∈ rows) : (rows.filter fun x => x.id == s.id) = [s] := by
  induction rows with
  | nil => cases hs
  | cons x rows ih =>
      obtain ⟨hfresh, hrest⟩ := List.nodup_cons.mp hnodup
      have hne : ∀ y ∈ rows, y.id ≠ x.id := fun y hy heq =>
        hfresh (List.mem_map.mpr ⟨y, hy, heq⟩)
      rcases List.mem_cons.mp hs with rfl | hs
      · rw [List.filter_cons_of_pos (by simp), List.filter_eq_nil_iff.mpr]
        intro y hy
        simpa using hne y hy
      · rw [List.filter_cons_of_neg (by simpa using (hne s hs).symm)]
        exact ih hrest hs

/-- The id of a heading among all headings leads to it. -/
theorem WellHeaded.addresses (hd : d.WellHeaded) {k : String × Heading} (hk : k ∈ d.addressedAll)
    {r : Section} (hid : r.id = k.1) (hline : r.startLine = d.startLine k.2.node) :
    d.Addresses r := by
  -- in any mode, the heading has a row, and no other row has its id
  have hfound : ∀ mode ≠ ContentMode.smart, ∃ rows s, d.sections { mode } = .ok rows ∧
      (rows.filter fun x => x.id == r.id) = [s] ∧ s.startLine = r.startLine ∧
      s.content = d.textOf (k.2.body mode) := by
    intro mode hmode
    obtain ⟨s, hs, hshown⟩ := exists_row_of_mem (o := { mode }) hmode hk
    simp only [shownOf, if_true, Prod.mk.injEq] at hshown
    obtain ⟨hsid, -, hsline, hstext⟩ := hshown
    have hrows := sections_eq hd { mode }
    refine ⟨_, s, hrows, ?_, hsline.trans hline.symm, hstext⟩
    rw [hid, ← hsid]
    exact filter_id_eq (nodup_ids_of_sections hrows) (List.mem_append_right _ hs)
  constructor
  · obtain ⟨rows, s, hrows, hfilter, hstart, -⟩ := hfound .minimal (by decide)
    exact ⟨rows, hrows, by rw [hfilter, List.map_singleton, hstart]⟩
  · intro nested
    refine ⟨k.2, (Heading.of_mem_idsFrom hk).1, hline.symm, ?_⟩
    obtain ⟨rows, s, hrows, hfilter, -, htext⟩ :=
      hfound (if nested then .full else .minimal) (by cases nested <;> decide)
    unfold sectionContent
    rw [hrows]
    change Except.ok ((rows.find? _).map _ |>.getD "") = _
    rw [← List.head?_filter, hfilter]
    exact congrArg Except.ok htext

/-- Links to the ids of the headings are accepted. -/
theorem WellHeaded.linkIsValid_of_mem (hd : d.WellHeaded) {k : String × Heading}
    (hk : k ∈ d.addressedAll) : linkIsValid (.ok d) ("#" ++ k.1) = .ok true := by
  obtain ⟨s, hs, hshown⟩ :=
    exists_row_of_mem (o := { maxLevel := 6, includeContent := false }) (by decide) hk
  have hid : s.id = k.1 := congrArg Prod.fst hshown
  have htarget : ("#" ++ k.1).toList = '#' :: k.1.toList := by simp
  unfold linkIsValid
  rw [htarget]
  change (d.contentsTable 6).map _ = _
  rw [hd.contentsTable_eq (by decide)]
  refine congrArg Except.ok (List.any_eq_true.mpr ⟨s, hs, ?_⟩)
  rw [String.ofList_toList, hid]
  exact beq_self_eq_true k.1

theorem exists_of_mem_tableRows {r : Section} (hr : r ∈ d.tableRows maxLevel) :
    ∃ k ∈ d.addressedTo maxLevel, r.id = k.1 ∧ r.startLine = d.startLine k.2.node := by
  obtain ⟨k, hk, heq⟩ := exists_of_mem_rows
    (o := { maxLevel, includeContent := false }) (fun h => nomatch h) hr
  exact ⟨k, hk, congrArg (·.1) heq, congrArg (·.2.2.1) heq⟩

theorem level_le_of_mem_addressedTo {k : String × Heading} (hk : k ∈ d.addressedTo maxLevel) :
    k.2.level ≤ maxLevel := by
  have hin := (Heading.of_mem_idsFrom hk).2.1
  simp only [SectionOptions.includes, Bool.and_eq_true, decide_eq_true_eq] at hin
  exact hin.2

/-- If no id in a table of contents is that of a deeper heading, then the ids lead to the headings
that they stand for. -/
theorem WellHeaded.addresses_of_shallow (hd : d.WellHeaded)
    (hshallow : ∀ k ∈ d.addressedTo maxLevel, ∀ k' ∈ d.addressedAll, k'.1 = k.1 →
      k'.2.level ≤ maxLevel) {r : Section} (hr : r ∈ d.tableRows maxLevel) : d.Addresses r := by
  obtain ⟨k, hk, hid, hline⟩ := exists_of_mem_tableRows hr
  have hall : k ∈ d.addressedAll := by
    unfold addressedTo at hk
    rw [hd.addressed_eq_filter fun x hx x' hx' heq => ?_] at hk
    · exact List.mem_of_mem_filter hk
    · have hlow := hd.includes_of_mem_listOf (Heading.of_mem_idsFrom hx').1
      simp only [SectionOptions.includes, Bool.and_eq_true, decide_eq_true_eq] at hlow ⊢
      exact ⟨hlow.1, hshallow x hx x' hx' heq⟩
  exact hd.addresses hall hid hline

/-- A section whose id leads to a heading of a table of contents is not deeper than the table. -/
theorem WellHeaded.level_le_of_addresses (hd : d.WellHeaded)
    (hlines : ((Heading.listOf d.blocks).map fun h => d.startLine h.node).Nodup) {r s : Section}
    (hr : r ∈ d.tableRows maxLevel) (haddresses : d.Addresses r)
    (hs : s ∈ d.headingRows {} [] (d.headings {})) (heq : s.id = r.id) : s.level ≤ maxLevel := by
  obtain ⟨k, hk, -, hline⟩ := exists_of_mem_tableRows hr
  obtain ⟨k', hk', hshown⟩ := exists_of_mem_rows (o := {}) (by decide) hs
  have hslevel : s.level = k'.2.level := congrArg (·.2.1) hshown
  -- the one section with the id starts where the heading of the table does
  have hstart : d.startLine k'.2.node = d.startLine k.2.node := by
    obtain ⟨rows, hrows, hfilter⟩ := haddresses.line
    obtain rfl := Except.ok.inj ((sections_eq hd {}).symm.trans hrows)
    have hfound : s.startLine ∈ [r.startLine] := by
      rw [← hfilter]
      exact List.mem_map_of_mem
        (List.mem_filter.mpr ⟨List.mem_append_right _ hs, by simpa using heq⟩)
    rw [← hline, ← List.mem_singleton.mp hfound]
    exact (congrArg (·.2.2.1) hshown).symm
  have hsame : k'.2 = k.2 := List.inj_on_of_nodup_map hlines (Heading.of_mem_idsFrom hk').1
    (Heading.of_mem_idsFrom hk).1 hstart
  rw [hslevel, hsame]
  exact level_le_of_mem_addressedTo hk

end Tables

/-- **Ids in a table of contents.** Every id is the id of some section, and links to it are
accepted. The ids lead to the headings that they stand for exactly if none of them is the id of a
deeper section; so they do if no deeper heading shares a slug with a heading of the table. -/
theorem WellHeaded.addresses_iff {d : Document} (hd : d.WellHeaded)
    (hlines : ((Heading.listOf d.blocks).map fun h => d.startLine h.node).Nodup) {maxLevel : Int}
    (hmax : 1 ≤ maxLevel) :
    ∃ table rows, d.contentsTable maxLevel = .ok table ∧ d.sections {} = .ok rows ∧
      (∀ r ∈ table, (∃ s ∈ rows, s.id = r.id) ∧ linkIsValid (.ok d) ("#" ++ r.id) = .ok true) ∧
      ((∀ r ∈ table, d.Addresses r) ↔ ∀ r ∈ table, ∀ s ∈ rows, s.id = r.id → s.level ≤ maxLevel) ∧
      (d.SlugsApart maxLevel → ∀ r ∈ table, d.Addresses r) := by
  refine ⟨_, _, hd.contentsTable_eq hmax, sections_eq hd {}, fun r hr => ?_,
    ⟨fun haddresses r hr s hs heq => ?_, fun hshallow r hr => ?_⟩, fun hapart r hr => ?_⟩
  · obtain ⟨k, hk, hid, -⟩ := exists_of_mem_tableRows hr
    obtain ⟨k', hk', heq⟩ := hd.exists_addressed hk
    obtain ⟨s, hs, hshown⟩ := exists_row_of_mem (o := {}) (by decide) hk'
    have hsid : s.id = k'.1 := congrArg (·.1) hshown
    rw [hid, ← heq]
    exact ⟨⟨s, List.mem_append_right _ hs, hsid⟩, hd.linkIsValid_of_mem hk'⟩
  · rcases List.mem_append.mp hs with hfront | hs
    · -- the row of the frontmatter is of level zero
      rw [(of_mem_frontmatterRow hfront).2.2.2.1]
      omega
    · exact hd.level_le_of_addresses hlines hr (haddresses r hr) hs heq
  · refine hd.addresses_of_shallow (fun k hk k' hk' heq => ?_) hr
    obtain ⟨x, hx, hxshown⟩ := exists_row_of_mem
      (o := { maxLevel, includeContent := false }) (fun h => nomatch h) hk
    obtain ⟨s, hs, hshown⟩ := exists_row_of_mem (o := {}) (by decide) hk'
    have hsame : s.id = x.id :=
      (congrArg (·.1) hshown).trans (heq.trans (congrArg (·.1) hxshown).symm)
    have hlevel : s.level = k'.2.level := congrArg (·.2.1) hshown
    rw [← hlevel]
    exact hshallow x hx s (List.mem_append_right _ hs) hsame
  · refine hd.addresses_of_shallow (fun k hk k' hk' heq => ?_) hr
    obtain ⟨hmem, -, n, hn⟩ := Heading.of_mem_idsFrom hk
    obtain ⟨hmem', -, n', hn'⟩ := Heading.of_mem_idsFrom hk'
    by_contra hdeep
    exact hapart k.2 hmem k'.2 hmem' (level_le_of_mem_addressedTo hk) (Int.not_le.mp hdeep) n n'
      (hn.symm.trans (heq.symm.trans hn'))

theorem addresses_sample :
    sample.WellHeaded ∧
      ((Heading.listOf sample.blocks).map fun h => sample.startLine h.node).Nodup ∧
      ∃ table, sample.contentsTable 1 = .ok table ∧ table.map (·.id) = ["a", "a-1"] ∧
        ∀ r ∈ table, sample.Addresses r := by
  have hlines : ((Heading.listOf sample.blocks).map fun h => sample.startLine h.node).Nodup := by
    decide
  obtain ⟨table, rows, htable, hrows, -, hiff, -⟩ :=
    wellHeaded_sample.addresses_iff hlines (show (1 : Int) ≤ 1 by decide)
  have hids : ((sample.contentsTable 1).toOption.getD []).map (·.id) = ["a", "a-1"] := by
    decide +kernel
  have hshallow : ∀ r ∈ (sample.contentsTable 1).toOption.getD [],
      ∀ s ∈ (sample.sections {}).toOption.getD [], s.id = r.id → s.level ≤ 1 := by
    decide +kernel
  rw [htable] at hids hshallow
  rw [hrows] at hshallow
  exact ⟨wellHeaded_sample, hlines, table, htable, hids, hiff.mpr hshallow⟩

/-- Two headings of one title with a deeper heading of that title between them. -/
def clashText : String :=
  "# A\n\none\n\n## A\n\ntwo\n\n# A\n\nthree\n"

/-- The second heading of level one gets an id in the table of contents that is the id of the deeper
heading, whose text is then found under it. -/
theorem not_addresses_clash :
    ∃ d table, ofText clashText = .ok d ∧ d.WellHeaded ∧
      ((Heading.listOf d.blocks).map fun h => d.startLine h.node).Nodup ∧
      d.contentsTable 1 = .ok table ∧
      table.map (fun r => (r.id, r.startLine)) = [("a", some 1), ("a-1", some 9)] ∧
      d.sectionContent "a-1" false = .ok "two\n\n" ∧ ¬∀ r ∈ table, d.Addresses r := by
  obtain ⟨d, hread⟩ := exists_of_isSome (x := ofText clashText) (by decide +kernel)
  have hfacts : ∀ d ∈ (ofText clashText).toOption,
      ((∀ n ∈ d.blocks, n.isHeading = true → n.tag ∈ Node.headingTags) ∧
        ∀ n ∈ d.blocks, n.isHeading = true → n.lines.isSome = true) ∧
      ((Heading.listOf d.blocks).map fun h => d.startLine h.node).Nodup ∧
      ((d.contentsTable 1).toOption.getD []).map (fun r => (r.id, r.startLine)) =
        [("a", some 1), ("a-1", some 9)] ∧
      (d.sectionContent "a-1" false).toOption = some "two\n\n" ∧
      (((d.sections {}).toOption.getD []).filter fun s => s.id == "a-1").map (·.startLine) =
        [some 5] := by
    decide +kernel
  obtain ⟨⟨htagged, hplaced⟩, hlines, htable, htext, hline⟩ := hfacts d (by rw [hread]; rfl)
  have hd : d.WellHeaded := ⟨htagged, hplaced⟩
  rw [hd.contentsTable_eq (by decide)] at htable
  rw [sections_eq hd] at hline
  refine ⟨d, _, hread, hd, hlines, hd.contentsTable_eq (by decide), htable, ?_,
    fun haddresses => ?_⟩
  · exact eq_ok_of_toOption htext
  · -- the second row of the table starts on line 9, and the section with its id on line 5
    have hrow : ("a-1", some 9) ∈ (d.tableRows 1).map fun r => (r.id, r.startLine) := by
      rw [show (d.tableRows 1).map (fun r => (r.id, r.startLine)) = _ from htable]
      decide
    obtain ⟨r, hr, heq⟩ := List.mem_map.mp hrow
    obtain ⟨hid, hstart⟩ := Prod.mk.inj heq
    obtain ⟨rows, hrows, hfilter⟩ := (haddresses r hr).line
    obtain rfl := Except.ok.inj ((sections_eq hd {}).symm.trans hrows)
    rw [hid, hstart] at hfilter
    cases hline.symm.trans hfilter

end Document

end MarkdownSections
