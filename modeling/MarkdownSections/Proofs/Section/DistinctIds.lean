import MarkdownSections.Proofs.Document.Elements
import MarkdownSections.Proofs.Section.Grouping

/-!
# The ids of grouped rows

The rows of a grouping get their ids in three ways: a heading is given a free one, a metadata
element always makes a row named `frontmatter`, and the row of loose text is always named by the
empty id. The two fixed ids are marked as taken when such a row is made, and not looked up first.

The rows of headings have different ids whatever stands between them (`nodup_headingIds`). All rows
have different ids exactly if there is at most one metadata element and no heading takes a fixed
id, with a row of its own, in front of the group that is bound to have it (`nodup_ids_iff`).
-/

set_option autoImplicit false

namespace MarkdownSections

open Attempt (mapM_eq_ok_iff exists_of_mem_mapM)
open SlugRegistry (freeId numbered)

namespace SlugRegistry

/-- An id that no slug is numbered to, so that it is handed out only for itself. -/
def IsBare (id : String) : Prop :=
  ∀ slug n, numbered slug n = id → n = 0

theorem isBare_of_hyphen_notMem {id : String} (h : '-' ∉ id.toList) : IsBare id := by
  intro slug n hid
  cases n with
  | zero => rfl
  | succ n =>
      have hyphen : '-' ∈ (numbered slug (n + 1)).toList := by
        rw [numbered_succ]
        simp
      rw [hid] at hyphen
      exact absurd hyphen h

/-- A bare id is handed out to those who ask for it while it is free. -/
theorem IsBare.freeId_eq_iff {id : String} (h : IsBare id) (taken : List String) (slug : String) :
    freeId taken slug = id ↔ slug = id ∧ id ∉ taken := by
  constructor
  · intro heq
    have hzero := h slug _ heq
    have hslug : slug = id := by
      rw [freeId, hzero, numbered_zero] at heq
      exact heq
    exact ⟨hslug, heq ▸ freeId_notMem taken slug⟩
  · rintro ⟨rfl, hfree⟩
    exact freeId_eq_self taken slug hfree

end SlugRegistry

namespace Grouping

open SlugRegistry (IsBare)

/-- The ids of rows that do not depend on the groups in front of them. -/
def fixedIds : List String :=
  [Section.frontmatterId, ""]

theorem isBare_of_mem_fixedIds {id : String} (h : id ∈ fixedIds) : IsBare id := by
  apply SlugRegistry.isBare_of_hyphen_notMem
  rcases List.mem_cons.mp h with rfl | h
  · decide
  · rw [List.mem_singleton.mp h]
    decide

/-! ## Groups and the ids they make -/

/-- A group stands behind a metadata element. -/
def Group.isMetadata (g : Group) : Bool :=
  match g.opener with
  | .metadata _ => true
  | _ => false

/-- The fixed ids that a group takes. -/
def Group.reserved (g : Group) : List String :=
  (if g.isMetadata then [Section.frontmatterId] else []) ++
    if g.looseText.isEmpty then [] else [""]

/-- The id that the heading of a group asks for. -/
def Group.wanted? (g : Group) : Option String :=
  match g.opener with
  | .heading _ _ wanted => some wanted
  | _ => none

/-- The ids of the rows that the headings of groups make. -/
def headingIds (before : List Group) : List Group → List String
  | [] => []
  | g :: gs =>
    (if g.hasHeadingRow then g.wanted?.toList.map (freeId (takenBy before)) else []) ++
      headingIds (g :: before) gs

/-- The row of loose text stands at the first group with loose text. -/
def looseIds (before : List Group) : List Group → List String
  | [] => []
  | g :: gs =>
    (if g.looseText.isEmpty || !(looseBefore before).isEmpty then [] else [""]) ++
      looseIds (g :: before) gs

/-- A heading takes a fixed id with its row, and a later group is bound to have that id. -/
def isForestalled (id : String) : List Group → Bool
  | [] => false
  | g :: gs =>
    if g.reserved.contains id then false
    else if g.wanted? = some id then
      g.hasHeadingRow && gs.any fun later => later.reserved.contains id
    else isForestalled id gs

theorem reserved_of_isHeading {g : Group} (h : g.isHeading = true) : g.reserved = [] := by
  obtain ⟨level, title, wanted, hopener⟩ := exists_opener_of_isHeading h
  rw [Group.reserved, Group.isMetadata, hopener, looseText_of_isHeading h]
  rfl

theorem isHeading_of_wanted? {g : Group} {wanted : String} (h : g.wanted? = some wanted) :
    g.isHeading = true := by
  rw [Group.wanted?] at h
  split at h
  · next hopener => rw [Group.isHeading, hopener]
  · cases h

/-- The ids that are taken behind a group. -/
theorem mem_takenBy_cons (g : Group) (before : List Group) (id : String) :
    id ∈ takenBy (g :: before) ↔
      id ∈ takenBy before ∨ id ∈ g.reserved ∨
        ∃ wanted, g.wanted? = some wanted ∧ id = freeId (takenBy before) wanted := by
  have hloose : ∀ ids : List String,
      id ∈ (if g.looseText.isEmpty then ids else "" :: ids) ↔
        id ∈ ids ∨ id ∈ if g.looseText.isEmpty then [] else [""] := by
    intro ids
    cases g.looseText.isEmpty with
    | true => simp
    | false => simp [or_comm]
  rw [takenBy, hloose, Group.reserved, List.mem_append]
  unfold Group.isMetadata Group.wanted?
  cases g.opener with
  | start => simp
  | heading level title wanted => simp [or_comm, or_assoc]
  | metadata content => simp [or_assoc, or_left_comm]

/-- A fixed id is taken by the groups that are bound to have it, and by headings that ask for it. -/
theorem mem_takenBy_cons_of_isBare {id : String} (hid : IsBare id) (g : Group)
    (before : List Group) :
    id ∈ takenBy (g :: before) ↔
      id ∈ takenBy before ∨ id ∈ g.reserved ∨ g.wanted? = some id := by
  -- a bare id is never made by numbering, so only a heading that asks for it can get it
  rw [mem_takenBy_cons]
  constructor
  · rintro (h | h | ⟨wanted, hwanted, hfree⟩)
    · exact Or.inl h
    · exact Or.inr (Or.inl h)
    · obtain ⟨rfl, -⟩ := (hid.freeId_eq_iff _ _).mp hfree.symm
      exact Or.inr (Or.inr hwanted)
  · rintro (h | h | hwanted)
    · exact Or.inl h
    · exact Or.inr (Or.inl h)
    · by_cases htaken : id ∈ takenBy before
      · exact Or.inl htaken
      · exact Or.inr (Or.inr ⟨id, hwanted, ((hid.freeId_eq_iff _ _).mpr ⟨rfl, htaken⟩).symm⟩)

/-! ## The rows of headings -/

/-- No heading gets an id that is taken in front of it. -/
theorem notMem_headingIds_of_taken {id : String} {before : List Group} (h : id ∈ takenBy before)
    (gs : List Group) : id ∉ headingIds before gs := by
  induction gs generalizing before with
  | nil => exact List.not_mem_nil
  | cons g gs ih =>
      rw [headingIds, List.mem_append, not_or]
      refine ⟨?_, ih (takenBy_subset_cons g before id h)⟩
      split
      · intro hmem
        obtain ⟨wanted, -, rfl⟩ := List.mem_map.mp hmem
        exact SlugRegistry.freeId_notMem _ _ h
      · exact List.not_mem_nil

/-- The rows of headings have different ids. -/
theorem nodup_headingIds (before gs : List Group) : (headingIds before gs).Nodup := by
  induction gs generalizing before with
  | nil => exact List.nodup_nil
  | cons g gs ih =>
      rw [headingIds]
      split
      · cases hwanted : g.wanted? with
        | none => exact ih (g :: before)
        | some wanted =>
            -- the id that `g` gets is taken behind it
            have htaken : freeId (takenBy before) wanted ∈ takenBy (g :: before) :=
              (mem_takenBy_cons g before _).mpr (Or.inr (Or.inr ⟨wanted, hwanted, rfl⟩))
            exact List.nodup_cons.mpr ⟨notMem_headingIds_of_taken htaken gs, ih (g :: before)⟩
      · exact ih (g :: before)

theorem mem_headingIds_cons_of_isBare {id : String} (hid : IsBare id) (g : Group)
    (before gs : List Group) :
    id ∈ headingIds before (g :: gs) ↔
      (g.hasHeadingRow = true ∧ g.wanted? = some id ∧ id ∉ takenBy before) ∨
        id ∈ headingIds (g :: before) gs := by
  rw [headingIds, List.mem_append]
  apply or_congr_left
  cases g.hasHeadingRow with
  | false => simp
  | true =>
      cases g.wanted? with
      | none => simp
      | some wanted => simp [eq_comm (a := id), hid.freeId_eq_iff]

/-- A heading that has a fixed id took it in front of every group that is bound to have it. -/
theorem isForestalled_iff {id : String} (hid : IsBare id) {before : List Group}
    (hfree : id ∉ takenBy before) (gs : List Group) :
    isForestalled id gs = true ↔
      id ∈ headingIds before gs ∧ ∃ g ∈ gs, id ∈ g.reserved := by
  induction gs generalizing before with
  | nil => simp [isForestalled, headingIds]
  | cons g gs ih =>
      have htaken := mem_takenBy_cons_of_isBare hid g before
      rw [isForestalled, mem_headingIds_cons_of_isBare hid]
      by_cases hreserved : id ∈ g.reserved
      · -- the id is gone for all later headings, and `g` is no heading
        have hlater := notMem_headingIds_of_taken (htaken.mpr (Or.inr (Or.inl hreserved))) gs
        have hwanted : g.wanted? ≠ some id := by
          intro h
          rw [reserved_of_isHeading (isHeading_of_wanted? h)] at hreserved
          cases hreserved
        simp [hreserved, hlater, hwanted]
      · by_cases hwanted : g.wanted? = some id
        · -- the heading of `g` has the id, and no later heading gets it
          have hlater := notMem_headingIds_of_taken (htaken.mpr (Or.inr (Or.inr hwanted))) gs
          simp [hreserved, hwanted, hlater, hfree]
        · -- the id is as free behind `g` as in front of it
          have hfree' : id ∉ takenBy (g :: before) := by
            rw [htaken, not_or, not_or]
            exact ⟨hfree, hreserved, hwanted⟩
          simp [hreserved, hwanted, ih hfree']

/-! ## All rows -/

theorem ids_rowsAt (loose : String) (before : List Group) (g : Group) :
    (rowsAt loose before g).map (·.id) =
      (if g.hasHeadingRow then g.wanted?.toList.map (freeId (takenBy before)) else []) ++
        ((if g.isMetadata then [Section.frontmatterId] else []) ++
          if g.looseText.isEmpty || !(looseBefore before).isEmpty then [] else [""]) := by
  have hloose : (looseRowAt loose before g).map (·.id) =
      if g.looseText.isEmpty || !(looseBefore before).isEmpty then [] else [""] := by
    unfold looseRowAt
    split
    · rfl
    · rfl
  -- at most one of the three parts is there: a heading has no loose text, and the start has no row
  -- of its own
  unfold rowsAt Group.hasHeadingRow Group.wanted? Group.isMetadata
  cases hopener : g.opener with
  | start => simpa using hloose
  | metadata content => simpa [metadataRow] using hloose
  | heading level title wanted =>
      have hnone : g.looseText = "" := by simp [Group.looseText, hopener]
      rw [hnone]
      by_cases hempty : (title.isEmpty && g.text.isEmpty) = true
      · simp [hempty]
      · simp [hempty, headingRow]

/-- The ids of rows are those of headings, one for each metadata element, and one for loose text. -/
theorem ids_rowsFrom_perm (loose : String) (before gs : List Group) :
    ((rowsFrom loose before gs).map (·.id)).Perm
      (headingIds before gs ++
        (List.replicate (gs.countP Group.isMetadata) Section.frontmatterId ++
          looseIds before gs)) := by
  -- the rows of the three kinds stand mixed, so their ids are counted one by one
  rw [List.perm_iff_count]
  induction gs generalizing before with
  | nil =>
      intro id
      rfl
  | cons g gs ih =>
      intro id
      have hrest := ih (g :: before) id
      have hone : List.replicate (if g.isMetadata then 1 else 0) Section.frontmatterId =
          if g.isMetadata then [Section.frontmatterId] else [] := by
        cases g.isMetadata with
        | false => rfl
        | true => rfl
      rw [rowsFrom, headingIds, looseIds, List.map_append, ids_rowsAt, List.countP_cons,
        List.replicate_add, hone]
      simp only [List.count_append] at hrest ⊢
      omega

/-- There is one row of loose text, or none. -/
theorem looseIds_eq (before gs : List Group) :
    looseIds before gs =
      if (looseBefore before).isEmpty && gs.any fun g => !g.looseText.isEmpty then [""] else [] := by
  induction gs generalizing before with
  | nil => simp [looseIds]
  | cons g gs ih =>
      rw [looseIds, ih, looseBefore, isEmpty_append, List.any_cons]
      cases (looseBefore before).isEmpty <;> cases g.looseText.isEmpty <;> simp

theorem mem_reserved (g : Group) (id : String) :
    id ∈ g.reserved ↔
      (g.isMetadata = true ∧ id = Section.frontmatterId) ∨
        ((!g.looseText.isEmpty) = true ∧ id = "") := by
  unfold Group.reserved
  cases g.isMetadata <;> cases g.looseText.isEmpty <;> simp

/-- The rows of metadata and of loose text have the ids that groups are bound to have. -/
theorem mem_fixedRowIds (gs : List Group) (id : String) :
    id ∈ List.replicate (gs.countP Group.isMetadata) Section.frontmatterId ++ looseIds [] gs ↔
      ∃ g ∈ gs, id ∈ g.reserved := by
  have hloose : id ∈ looseIds [] gs ↔ (∃ g ∈ gs, (!g.looseText.isEmpty) = true) ∧ id = "" := by
    rw [looseIds_eq, ← List.any_eq_true]
    change (id ∈ if (gs.any fun g => !g.looseText.isEmpty) = true then [""] else []) ↔ _
    split
    · next h => simp [h]
    · next h => simp [h]
  rw [List.mem_append, List.mem_replicate, hloose, ← Nat.pos_iff_ne_zero, List.countP_pos_iff]
  simp only [mem_reserved]
  constructor
  · rintro (⟨⟨g, hg, hmetadata⟩, rfl⟩ | ⟨⟨g, hg, hsome⟩, rfl⟩)
    · exact ⟨g, hg, Or.inl ⟨hmetadata, rfl⟩⟩
    · exact ⟨g, hg, Or.inr ⟨hsome, rfl⟩⟩
  · rintro ⟨g, hg, ⟨hmetadata, rfl⟩ | ⟨hsome, rfl⟩⟩
    · exact Or.inl ⟨⟨g, hg, hmetadata⟩, rfl⟩
    · exact Or.inr ⟨⟨g, hg, hsome⟩, rfl⟩

theorem nodup_fixedRowIds_iff (gs : List Group) :
    (List.replicate (gs.countP Group.isMetadata) Section.frontmatterId ++
      looseIds [] gs).Nodup ↔ gs.countP Group.isMetadata ≤ 1 := by
  have hne : Section.frontmatterId ≠ "" := by decide
  rw [List.nodup_append, List.nodup_replicate, looseIds_eq]
  -- the rows without id are at most one, and none of them has the id of a frontmatter
  constructor
  · exact And.left
  · intro hfew
    refine ⟨hfew, ?_, ?_⟩
    · split
      · exact List.nodup_cons.mpr ⟨List.not_mem_nil, List.nodup_nil⟩
      · exact List.nodup_nil
    · intro a ha b hb
      rw [List.eq_of_mem_replicate ha]
      split at hb
      · rw [List.mem_singleton.mp hb]
        exact hne
      · cases hb

/-- The rows of groups have different ids exactly if at most one metadata element is among them and
no heading forestalls a fixed id. -/
theorem nodup_ids_rows_iff (gs : List Group) :
    ((rows gs).map (·.id)).Nodup ↔
      gs.countP Group.isMetadata ≤ 1 ∧ ∀ id ∈ fixedIds, isForestalled id gs = false := by
  have hperm := ids_rowsFrom_perm (String.join (gs.map Group.looseText)) [] gs
  have hforestalled : ∀ id ∈ fixedIds, isForestalled id gs = true ↔
      id ∈ headingIds [] gs ∧ ∃ g ∈ gs, id ∈ g.reserved := fun id hid =>
    isForestalled_iff (isBare_of_mem_fixedIds hid) List.not_mem_nil gs
  have hreserved : ∀ g ∈ gs, ∀ id ∈ g.reserved, id ∈ fixedIds := by
    intro g _ id hid
    rcases (mem_reserved g id).mp hid with ⟨-, rfl⟩ | ⟨-, rfl⟩
    · exact List.mem_cons_self
    · exact List.mem_cons_of_mem _ List.mem_cons_self
  rw [rows, hperm.nodup_iff, List.nodup_append, nodup_fixedRowIds_iff]
  -- ids of headings differ anyway; what is left is that none of them is a fixed one of another row
  constructor
  · rintro ⟨-, hfew, hapart⟩
    refine ⟨hfew, fun id hid => ?_⟩
    rw [← Bool.not_eq_true, hforestalled id hid]
    rintro ⟨hheading, hmade⟩
    exact hapart id hheading id ((mem_fixedRowIds gs id).mpr hmade) rfl
  · rintro ⟨hfew, hnone⟩
    refine ⟨nodup_headingIds [] gs, hfew, ?_⟩
    rintro id hheading _ hfixed rfl
    obtain ⟨g, hg, hid⟩ := (mem_fixedRowIds gs id).mp hfixed
    have hmem := hreserved g hg id hid
    have htrue := (hforestalled id hmem).mpr ⟨hheading, g, hg, hid⟩
    rw [hnone id hmem] at htrue
    cases htrue

/-! ## Rows of elements -/

theorem countP_isMetadata_split (ps : List Piece) :
    (split ps).2.countP Group.isMetadata = ps.countP Piece.isMetadata := by
  induction ps with
  | nil => rfl
  | cons p ps ih =>
      cases p with
      | text s => simp [split, Piece.isMetadata, ih]
      | heading level title wanted => simp [split, Piece.isMetadata, Group.isMetadata, ih]
      | metadata content => rw [split, List.countP_cons_of_pos rfl, List.countP_cons_of_pos rfl, ih]

/-- Every metadata element has a group. -/
theorem countP_isMetadata_groupsOf {codec : Codec} {es : List Element} {ps : List Piece}
    (h : es.mapM (Piece.ofElement codec) = .ok ps) :
    (groupsOf ps).countP Group.isMetadata = es.countP (·.type.isMetadata) := by
  have hgroups : (groupsOf ps).countP Group.isMetadata = ps.countP Piece.isMetadata := by
    rw [groupsOf, List.countP_cons_of_neg (by simp [Group.isMetadata]), countP_isMetadata_split]
  rw [hgroups]
  have hpieces := mapM_eq_ok_iff.mp h
  clear h hgroups
  induction hpieces with
  | nil => rfl
  | cons hp hps ih => rw [List.countP_cons, List.countP_cons, ih, isMetadata_of_ofElement hp]

theorem ids_headingRowsFrom (before gs : List Group) :
    (headingRowsFrom before gs).map (·.id) = headingIds before gs := by
  induction gs generalizing before with
  | nil => rfl
  | cons g gs ih =>
      rw [headingRowsFrom, headingIds, List.map_append, ih]
      apply congrArg (· ++ headingIds (g :: before) gs)
      unfold Group.wanted?
      cases hopener : g.opener with
      | start => simp
      | metadata content => simp
      | heading level title wanted =>
          cases g.hasHeadingRow with
          | true => rfl
          | false => rfl

/-- **Ids of rows.** The rows of headings have different ids. All rows have different ids exactly if
there is at most one metadata element, no heading with a row takes the id of the frontmatter before
it, and none takes the empty id before the first loose text. -/
theorem nodup_ids_iff {codec : Codec} {es : List Element} {sections : List Section}
    (h : reduceSections codec es = .ok sections) :
    ∃ ps, (Element.sortByOrder es).mapM (Piece.ofElement codec) = .ok ps ∧
      ((sections.filter fun s => s.level != 0).map (·.id)).Nodup ∧
      ((sections.map (·.id)).Nodup ↔
        es.countP (·.type.isMetadata) ≤ 1 ∧
          ∀ id ∈ fixedIds, isForestalled id (groupsOf ps) = false) := by
  obtain ⟨ps, hps, rfl⟩ := exists_pieces_of_reduceSections h
  have hsorted : (Element.sortByOrder es).countP (·.type.isMetadata) =
      es.countP (·.type.isMetadata) := (List.mergeSort_perm es _).countP_eq _
  refine ⟨ps, hps, ?_, ?_⟩
  · unfold rows
    rw [filter_level_rowsFrom (groupsOf_isLeveled hps), ids_headingRowsFrom]
    exact nodup_headingIds [] (groupsOf ps)
  · rw [nodup_ids_rows_iff, countP_isMetadata_groupsOf hps, hsorted]

/-- Loose text around a metadata element, and a heading behind them. -/
def tidy : List Element :=
  [{ elementType := "paragraph", content := "x", order := 1 },
    { elementType := "metadata", content := "a: 1", order := 2 },
    { elementType := "paragraph", content := "y", order := 3 },
    { elementType := "heading", content := "!!!", order := 4 }]

theorem nodup_ids_tidy :
    ∃ sections, reduceSections .lenient tidy = .ok sections ∧
      sections.map (·.id) = ["", Section.frontmatterId, "-1"] ∧ (sections.map (·.id)).Nodup := by
  have hsorted : Element.sortByOrder tidy = tidy := Element.sortByOrder_of_ascending (by decide)
  have hreduce : reduceSections .lenient tidy =
      (tidy.mapM (Piece.ofElement .lenient)).map fun ps => rows (groupsOf ps) := by
    rw [reduceSections_eq_map_rows, hsorted]
  obtain ⟨ps, hps, -, hiff⟩ := nodup_ids_iff hreduce
  rw [hsorted] at hps
  cases hps
  exact ⟨_, hreduce, by decide +kernel, hiff.mpr (by decide +kernel)⟩

/-- Two metadata elements; a heading whose slug is the id of the frontmatter behind it; and a heading
with an empty slug before the first loose text. -/
def clashing : List (List Element) :=
  [[{ elementType := "metadata", content := "a: 1", order := 1 },
      { elementType := "metadata", content := "b: 2", order := 2 }],
    [{ elementType := "heading", content := "Frontmatter", order := 1 },
      { elementType := "metadata", content := "a: 1", order := 2 }],
    [{ elementType := "heading", content := "!!!", order := 1 },
      { elementType := "metadata", content := "a: 1", order := 2 },
      { elementType := "paragraph", content := "x", order := 3 }]]

/-- Grouping does not make the ids different. -/
theorem not_nodup_clashing :
    ∃ two heading loose,
      clashing.map (reduceSections .lenient) = [.ok two, .ok heading, .ok loose] ∧
      ¬(two.map (·.id)).Nodup ∧ ¬(heading.map (·.id)).Nodup ∧ ¬(loose.map (·.id)).Nodup := by
  have hascending : ∀ es ∈ clashing, es.Pairwise fun a b => a.order ≤ b.order := by decide
  have hreduce : ∀ es ∈ clashing, reduceSections .lenient es =
      (es.mapM (Piece.ofElement .lenient)).map fun ps => rows (groupsOf ps) := by
    intro es hes
    rw [reduceSections_eq_map_rows, Element.sortByOrder_of_ascending (hascending es hes)]
  rw [List.map_congr_left hreduce]
  refine ⟨_, _, _, rfl, ?_, ?_, ?_⟩
  · decide +kernel
  · decide +kernel
  · decide +kernel

/-! ## Rows of the elements of a document -/

theorem isForestalled_of_isHeading {gs : List Group} (h : ∀ g ∈ gs, g.isHeading = true)
    (id : String) : isForestalled id gs = false := by
  induction gs with
  | nil => rfl
  | cons g gs ih =>
      have hgs : ∀ later ∈ gs, later.isHeading = true := fun later hlater =>
        h later (List.mem_cons_of_mem g hlater)
      have hnone : (gs.any fun later => later.reserved.contains id) = false := by
        rw [List.any_eq_false]
        intro later hlater
        simp [reserved_of_isHeading (hgs later hlater)]
      rw [isForestalled, reserved_of_isHeading (h g List.mem_cons_self), hnone, Bool.and_false,
        ih hgs]
      simp

/-- A group without a heading forestalls no id. -/
theorem isForestalled_cons {g : Group} (hg : g.wanted? = none) {gs : List Group} {id : String}
    (h : isForestalled id gs = false) : isForestalled id (g :: gs) = false := by
  rw [isForestalled, hg, h]
  simp

/-- With metadata in front only, all rows have different ids. -/
theorem nodup_ids_rows_of_front {ps : List Piece} (h : ∀ p ∈ ps, p.isMetadata = false) :
    ((rows (groupsOf ps)).map (·.id)).Nodup ∧
      ∀ content, ((rows (groupsOf (.metadata content :: ps))).map (·.id)).Nodup := by
  have hheadings := isForestalled_of_isHeading (isHeading_split h)
  -- only the group in front of all headings can be one of metadata
  have hnone : (split ps).2.countP Group.isMetadata = 0 := by
    rw [countP_isMetadata_split, List.countP_eq_zero]
    intro p hp
    rw [h p hp]
    exact Bool.false_ne_true
  constructor
  · rw [nodup_ids_rows_iff, groupsOf]
    refine ⟨?_, fun id _ => isForestalled_cons rfl (hheadings id)⟩
    rw [List.countP_cons_of_neg (by simp [Group.isMetadata]), hnone]
    omega
  · intro content
    rw [nodup_ids_rows_iff, groupsOf, split]
    refine ⟨?_, fun id _ => isForestalled_cons rfl (isForestalled_cons rfl (hheadings id))⟩
    have hone : (⟨.start, []⟩ :: ⟨.metadata content, (split ps).1⟩ :: (split ps).2 :
        List Group).countP Group.isMetadata = 1 := by
      rw [List.countP_cons_of_neg (by simp [Group.isMetadata]), List.countP_cons_of_pos rfl, hnone]
    exact Nat.le_of_eq hone

end Grouping

namespace Document

open Grouping (Piece rows groupsOf)

theorem isMetadata_blockElements (d : Document) (codec : Codec) (r : SlugRegistry) (order : Int)
    (ns : List Node) : ∀ e ∈ d.blockElements codec r order ns, e.type.isMetadata = false := by
  induction ns generalizing r order with
  | nil =>
      intro e he
      cases he
  | cons n ns ih =>
      intro e he
      cases hn : n.isHeading with
      | true =>
          rw [blockElements_cons_of_heading d codec r order hn] at he
          rcases List.mem_cons.mp he with rfl | he
          · rw [Element.type_of_tag (t := .heading) rfl]
            rfl
          · exact ih _ _ e he
      | false =>
          rw [blockElements_cons_of_not_heading d codec r order hn] at he
          rcases List.mem_cons.mp he with rfl | he
          · obtain ⟨t, -, htag, -, hmetadata⟩ := blockElement_spec d codec n
            have htype : (d.blockElement codec n).type = t := Element.type_of_tag htag
            change (d.blockElement codec n).type.isMetadata = false
            rw [htype]
            exact hmetadata
          · exact ih _ _ e he

/-- The elements of a document are grouped into rows with different ids. -/
theorem nodup_ids_of_elements {d : Document} {codec codec' : Codec} {es : List Element}
    (hes : d.elements codec = .ok es) {sections : List Section}
    (h : reduceSections codec' es = .ok sections) : (sections.map (·.id)).Nodup := by
  obtain ⟨-, rfl⟩ := elements_eq_ok_iff.mp hes
  obtain ⟨ps, hps, rfl⟩ := Grouping.exists_pieces_of_reduceSections h
  rw [Element.sortByOrder_of_ascending (elements_ascending d codec)] at hps
  have hpieces := mapM_eq_ok_iff.mp hps
  have hblocks : ∀ {order : Int} {qs : List Piece},
      List.Forall₂ (fun e p => Piece.ofElement codec' e = .ok p)
        (d.blockElements codec d.startRegistry order d.blocks) qs →
      ∀ q ∈ qs, q.isMetadata = false := by
    intro order qs hqs q hq
    obtain ⟨e, he, hpiece⟩ := exists_of_mem_mapM (mapM_eq_ok_iff.mpr hqs) hq
    rw [Grouping.isMetadata_of_ofElement hpiece]
    exact isMetadata_blockElements d codec _ _ _ e he
  unfold frontmatterElement at hpieces
  split at hpieces
  · exact (Grouping.nodup_ids_rows_of_front (hblocks hpieces)).1
  · -- the frontmatter has the first piece, which is that of a metadata element
    obtain ⟨p, qs, hp, hqs, rfl⟩ := List.forall₂_cons_left_iff.mp hpieces
    have hmetadata : p = .metadata d.rawFrontmatter := (Except.ok.inj hp).symm
    rw [hmetadata]
    exact (Grouping.nodup_ids_rows_of_front (hblocks hqs)).2 d.rawFrontmatter

end Document

end MarkdownSections
