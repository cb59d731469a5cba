import MarkdownSections.Proofs.Attempt
import MarkdownSections.Proofs.Element.Order
import MarkdownSections.Proofs.Section.Ancestors
import MarkdownSections.Proofs.Slug.Registry

/-!
# The groups of a sequence of elements

A sequence of elements falls into groups: one in front of the first heading or metadata element,
and one behind each of these, with the texts of the other elements up to the next (`groupsOf`).
The rows of the groups are given here group by group, each from the groups in front of it
(`rowsAt`), without a state that is carried along:

* a heading makes a row unless its title and its text are both empty; the row has the first free id
  of what the heading asks for, and it belongs to the nearest heading in front of it of a smaller
  level, whether that one has a row or not;
* a metadata element makes a row with its content;
* the texts of all other groups are loose; together they make one row without id, which stands
  where the first of them that is not empty stands.

Main statement: grouping an element sequence gives these rows, and fails exactly if an element
that is neither a heading nor metadata cannot be rendered
(`reduceSections_eq_rows_groupsOf`).
-/

set_option autoImplicit false

namespace MarkdownSections

namespace Grouping

open Attempt (exists_of_map_eq_ok exists_of_mem_mapM)
open Outline (enclosing trail)
open SlugRegistry (freeId)

/-! ## Pieces and groups -/

/-- What an element is to the grouping. -/
inductive Piece where
  /-- A heading: its level, its title and the id that it asks for. -/
  | heading (level : Int) (title wanted : String)
  | metadata (content : String)
  /-- Any other element: its text. -/
  | text (text : String)

/-- The id that a heading asks for: its attribute, or else the slug of its title. -/
def wantedId (e : Element) : String :=
  if (e.attr "id").isEmpty then slugify e.content else e.attr "id"

/-- A piece is that of a metadata element. -/
def Piece.isMetadata : Piece → Bool
  | .metadata _ => true
  | _ => false

/-- The piece of an element. -/
def Piece.ofElement (codec : Codec) (e : Element) : Except PayloadError Piece :=
  if e.type = .heading then .ok (.heading e.headingLevel e.content (wantedId e))
  else if e.type.isMetadata then .ok (.metadata e.content)
  else (e.render codec).map .text

theorem ofElement_of_heading (codec : Codec) {e : Element} (h : e.type = .heading) :
    Piece.ofElement codec e = .ok (.heading e.headingLevel e.content (wantedId e)) :=
  if_pos h

theorem ofElement_of_metadata (codec : Codec) {e : Element} (hheading : e.type ≠ .heading)
    (hmetadata : e.type.isMetadata = true) : Piece.ofElement codec e = .ok (.metadata e.content) := by
  rw [Piece.ofElement, if_neg hheading, if_pos hmetadata]

/-- Only the elements that are neither headings nor metadata are rendered. -/
theorem ofElement_of_other (codec : Codec) {e : Element} (hheading : e.type ≠ .heading)
    (hmetadata : e.type.isMetadata = false) :
    Piece.ofElement codec e = (e.render codec).map .text := by
  rw [Piece.ofElement, if_neg hheading, hmetadata, if_neg Bool.false_ne_true]

/-- The elements that a piece can be of. -/
inductive IsPieceOf (codec : Codec) (e : Element) : Piece → Prop where
  | heading (type : e.type = .heading) :
    IsPieceOf codec e (.heading e.headingLevel e.content (wantedId e))
  | metadata (type : e.type ≠ .heading) (isMetadata : e.type.isMetadata = true) :
    IsPieceOf codec e (.metadata e.content)
  | text {t : String} (type : e.type ≠ .heading) (isMetadata : e.type.isMetadata = false)
    (render : e.render codec = .ok t) : IsPieceOf codec e (.text t)

theorem isPieceOf_of_ofElement {codec : Codec} {e : Element} {p : Piece}
    (h : Piece.ofElement codec e = .ok p) : IsPieceOf codec e p := by
  by_cases hheading : e.type = .heading
  · rw [ofElement_of_heading codec hheading] at h
    cases h
    exact .heading hheading
  · cases hmetadata : e.type.isMetadata with
    | true =>
        rw [ofElement_of_metadata codec hheading hmetadata] at h
        cases h
        exact .metadata hheading hmetadata
    | false =>
        rw [ofElement_of_other codec hheading hmetadata] at h
        obtain ⟨t, hrender, rfl⟩ := exists_of_map_eq_ok h
        exact .text hheading hmetadata hrender

theorem isMetadata_of_ofElement {codec : Codec} {e : Element} {p : Piece}
    (h : Piece.ofElement codec e = .ok p) : p.isMetadata = e.type.isMetadata := by
  cases isPieceOf_of_ofElement h with
  | heading htype =>
      rw [htype]
      rfl
  | metadata _ hmetadata => exact hmetadata.symm
  | text _ hmetadata _ => exact hmetadata.symm

/-- What a group stands behind. -/
inductive Opener where
  | start
  | heading (level : Int) (title wanted : String)
  | metadata (content : String)

/-- What a group stands behind, and the texts in it. -/
structure Group where
  opener : Opener
  body : List String

/-- The texts in front of the first heading or metadata element, and the groups from there on. -/
def split : List Piece → List String × List Group
  | [] => ([], [])
  | .text s :: ps => (s :: (split ps).1, (split ps).2)
  | .heading level title wanted :: ps =>
    ([], ⟨.heading level title wanted, (split ps).1⟩ :: (split ps).2)
  | .metadata content :: ps => ([], ⟨.metadata content, (split ps).1⟩ :: (split ps).2)

/-- The groups of a list of pieces. -/
def groupsOf (ps : List Piece) : List Group :=
  ⟨.start, (split ps).1⟩ :: (split ps).2

/-- A group stands behind a heading. -/
def Group.isHeading (g : Group) : Bool :=
  match g.opener with
  | .heading _ _ _ => true
  | _ => false

/-- The text of a group. -/
def Group.text (g : Group) : String :=
  String.join g.body

/-- The text of a group that belongs to no heading. -/
def Group.looseText (g : Group) : String :=
  match g.opener with
  | .heading _ _ _ => ""
  | _ => g.text

/-! ## Rows of groups

The groups in front of a group are listed latest first. -/

/-- The ids that are taken behind the given groups. -/
def takenBy : List Group → List String
  | [] => []
  | g :: before =>
    let opened := match g.opener with
      | .start => takenBy before
      | .heading _ _ wanted => freeId (takenBy before) wanted :: takenBy before
      | .metadata _ => Section.frontmatterId :: takenBy before
    if g.looseText.isEmpty then opened else "" :: opened

/-- The headings of the given groups with their ids, latest first. -/
def headingsOf : List Group → List (Int × String)
  | [] => []
  | g :: before =>
    match g.opener with
    | .heading level _ wanted => (level, freeId (takenBy before) wanted) :: headingsOf before
    | _ => headingsOf before

/-- The loose text of the given groups. -/
def looseBefore : List Group → String
  | [] => ""
  | g :: before => looseBefore before ++ g.looseText

/-- The row of a heading. -/
def headingRow (before : List Group) (level : Int) (title wanted content : String) : Section :=
  let id := freeId (takenBy before) wanted
  let parent := (headingsOf before).find? fun m => decide (m.1 < level)
  { id, path := Reducer.pathOf ((level, id) :: enclosing (headingsOf before) level), level, title,
    content, parentId := (parent.map (·.2)).getD "" }

/-- The row of a metadata element. -/
def metadataRow (content : String) : Section :=
  { id := Section.frontmatterId, path := Section.frontmatterId, level := 0, content }

/-- The row of loose text. -/
def looseRow (content : String) : Section :=
  { id := "", path := "", level := 0, content }

/-- The row of loose text stands at the first group that has any; `loose` is the text of the
row. -/
def looseRowAt (loose : String) (before : List Group) (g : Group) : List Section :=
  if g.looseText.isEmpty || !(looseBefore before).isEmpty then [] else [looseRow loose]

/-- The rows of a group. -/
def rowsAt (loose : String) (before : List Group) (g : Group) : List Section :=
  match g.opener with
  | .start => looseRowAt loose before g
  | .heading level title wanted =>
    if title.isEmpty && g.text.isEmpty then []
    else [headingRow before level title wanted g.text]
  | .metadata content => metadataRow content :: looseRowAt loose before g

/-- The rows of groups behind the groups `before`. -/
def rowsFrom (loose : String) (before : List Group) : List Group → List Section
  | [] => []
  | g :: gs => rowsAt loose before g ++ rowsFrom loose (g :: before) gs

/-- The rows of groups. -/
def rows (gs : List Group) : List Section :=
  rowsFrom (String.join (gs.map Group.looseText)) [] gs

/-- The heading of a group has a title or a text, and so a row. -/
def Group.hasHeadingRow (g : Group) : Bool :=
  match g.opener with
  | .heading _ title _ => !(title.isEmpty && g.text.isEmpty)
  | _ => false

/-- The rows that headings make. -/
def headingRowsFrom (before : List Group) : List Group → List Section
  | [] => []
  | g :: gs =>
    (match g.opener with
      | .heading level title wanted =>
        if g.hasHeadingRow then [headingRow before level title wanted g.text] else []
      | _ => []) ++ headingRowsFrom (g :: before) gs

/-- The rows of the groups in front of a place. -/
def rowsBefore (loose : String) : List Group → List Section
  | [] => []
  | g :: before => rowsBefore loose before ++ rowsAt loose before g

theorem rowsBefore_append_rowsFrom (loose : String) (before gs : List Group) :
    rowsBefore loose before ++ rowsFrom loose before gs =
      rowsBefore loose (gs.reverse ++ before) := by
  induction gs generalizing before with
  | nil => simp [rowsFrom]
  | cons g gs ih =>
      have h := ih (g :: before)
      rw [rowsBefore, List.append_assoc] at h
      rw [rowsFrom, h, List.reverse_cons, List.append_assoc, List.singleton_append]

theorem looseBefore_reverse_append (gs before : List Group) :
    looseBefore (gs.reverse ++ before) =
      looseBefore before ++ String.join (gs.map Group.looseText) := by
  induction gs generalizing before with
  | nil => simp
  | cons g gs ih =>
      rw [List.reverse_cons, List.append_assoc, List.singleton_append, ih, looseBefore,
        List.map_cons, String.join_cons, String.append_assoc]

/-- The rows of groups are those in front of the end. -/
theorem rows_eq_rowsBefore (gs : List Group) :
    rows gs = rowsBefore (looseBefore gs.reverse) gs.reverse := by
  have hrows := rowsBefore_append_rowsFrom (String.join (gs.map Group.looseText)) [] gs
  have hloose := looseBefore_reverse_append gs []
  rw [List.append_nil, looseBefore, String.empty_append] at hloose
  rw [rowsBefore, List.nil_append, List.append_nil] at hrows
  rw [rows, hrows, hloose]

/-! ## Groups as steps of a run -/

/-- Opens a group in a state whose open section has been closed. -/
def opened (r : Reducer) : Opener → Reducer
  | .start => r.reset
  | .heading level title wanted =>
    { r with
      title := title, level := level, id := (r.registry.claim wanted).1, content := ""
      stack := (level, (r.registry.claim wanted).1)
        :: r.stack.dropWhile fun entry => decide (entry.1 ≥ level)
      registry := (r.registry.claim wanted).2 }
  | .metadata content =>
    { r with
      sections := r.sections ++ [metadataRow content]
      registry := r.registry.reserve Section.frontmatterId }.reset

/-- Takes a whole group in and closes it. -/
def absorb (r : Reducer) (g : Group) : Reducer :=
  let r := opened r g.opener
  { r with content := r.content ++ g.text }.flush

/-- Takes one piece in. -/
def take (r : Reducer) : Piece → Reducer
  | .heading level title wanted => opened r.flush (.heading level title wanted)
  | .metadata content => opened r.flush (.metadata content)
  | .text s => { r with content := r.content ++ s }

theorem onHeading_eq_opened (r : Reducer) (e : Element) :
    r.onHeading e = opened r.flush (.heading e.headingLevel e.content (wantedId e)) := by
  unfold Reducer.onHeading opened wantedId
  by_cases h : (e.attr "id").isEmpty = true
  · simp only [h, if_true]
    rfl
  · simp only [h]
    rfl

/-- An element is fed as its piece is taken in, and fails with it. -/
theorem feed_eq_take (codec : Codec) (r : Reducer) (e : Element) :
    r.feed codec e = (Piece.ofElement codec e).map (take r) := by
  unfold Reducer.feed Piece.ofElement
  split
  · exact congrArg Except.ok (onHeading_eq_opened r e)
  · split
    · rfl
    · unfold Reducer.onOther
      cases e.render codec with
      | error fault => rfl
      | ok text => rfl

theorem foldlM_feed (codec : Codec) (es : List Element) (r : Reducer) :
    es.foldlM (Reducer.feed codec) r =
      (es.mapM (Piece.ofElement codec)).map fun ps => ps.foldl take r := by
  induction es generalizing r with
  | nil => rfl
  | cons e es ih =>
      rw [List.foldlM_cons, List.mapM_cons, feed_eq_take]
      -- a fault of the first element ends both sides at once
      cases Piece.ofElement codec e with
      | error fault => rfl
      | ok p =>
          change es.foldlM (Reducer.feed codec) (take r p) = _
          rw [ih]
          cases es.mapM (Piece.ofElement codec) with
          | error fault => rfl
          | ok ps => rfl

/-- Taking pieces in one by one is taking their groups in. -/
theorem flush_foldl_take (ps : List Piece) (r : Reducer) :
    (ps.foldl take r).flush =
      (split ps).2.foldl absorb
        { r with content := r.content ++ String.join (split ps).1 }.flush := by
  induction ps generalizing r with
  | nil => simp [split]
  | cons p ps ih =>
      rw [List.foldl_cons, ih]
      -- a text goes into the open group; the other two close it and open one of their own
      cases p with
      | text s => simp [take, split, String.append_assoc]
      | heading level title wanted => simp [take, split, absorb, Group.text]
      | metadata content => simp [take, split, absorb, Group.text]

theorem reduceSections_eq_foldl (codec : Codec) (es : List Element) :
    reduceSections codec es =
      ((Element.sortByOrder es).mapM (Piece.ofElement codec)).map fun ps =>
        ((groupsOf ps).foldl absorb Reducer.start).sections := by
  unfold reduceSections
  rw [foldlM_feed]
  cases (Element.sortByOrder es).mapM (Piece.ofElement codec) with
  | error fault => rfl
  | ok ps =>
      -- the first group has no opener, so opening it leaves the start state as it is
      have hrun := flush_foldl_take ps Reducer.start
      change Except.ok ((ps.foldl take Reducer.start).flush).sections = _
      rw [hrun]
      rfl

/-! ## What a run keeps -/

/-- A heading that opens a group has a positive level. -/
def Group.IsLeveled (g : Group) : Prop :=
  match g.opener with
  | .heading level _ _ => 0 < level
  | _ => True

theorem one_le_headingLevel (e : Element) : 1 ≤ e.headingLevel := by
  simp only [Element.headingLevel]
  omega

/-- A group of a heading stands behind it. -/
theorem exists_opener_of_isHeading {g : Group} (h : g.isHeading = true) :
    ∃ level title wanted, g.opener = .heading level title wanted := by
  rw [Group.isHeading] at h
  split at h
  · next level title wanted hopener => exact ⟨level, title, wanted, hopener⟩
  · cases h

/-- A group of a heading has no loose text. -/
theorem looseText_of_isHeading {g : Group} (h : g.isHeading = true) : g.looseText = "" := by
  obtain ⟨level, title, wanted, hopener⟩ := exists_opener_of_isHeading h
  rw [Group.looseText, hopener]

/-- Without metadata all groups but the first are those of headings. -/
theorem isHeading_split {ps : List Piece} (h : ∀ p ∈ ps, p.isMetadata = false) :
    ∀ g ∈ (split ps).2, g.isHeading = true := by
  induction ps with
  | nil =>
      intro g hg
      cases hg
  | cons p ps ih =>
      have hps := ih fun q hq => h q (List.mem_cons_of_mem p hq)
      cases p with
      | text s => exact hps
      | metadata content => exact absurd (h _ List.mem_cons_self) (by simp [Piece.isMetadata])
      | heading level title wanted =>
          intro g hg
          rcases List.mem_cons.mp hg with rfl | hg
          · rfl
          · exact hps g hg

theorem split_isLeveled {ps : List Piece}
    (h : ∀ p ∈ ps, ∀ level title wanted, p = .heading level title wanted → 0 < level) :
    ∀ g ∈ (split ps).2, g.IsLeveled := by
  induction ps with
  | nil =>
      intro g hg
      cases hg
  | cons p ps ih =>
      have hps := ih fun q hq => h q (List.mem_cons_of_mem p hq)
      cases p with
      | text s => exact hps
      | heading level title wanted =>
          intro g hg
          rcases List.mem_cons.mp hg with rfl | hg
          · exact h _ List.mem_cons_self level title wanted rfl
          · exact hps g hg
      | metadata content =>
          intro g hg
          rcases List.mem_cons.mp hg with rfl | hg
          · trivial
          · exact hps g hg

/-! ### The row of loose text -/

theorem isPreamble_headingRow {level : Int} (hlevel : 0 < level) (before : List Group)
    (title wanted content : String) :
    Reducer.isPreamble (headingRow before level title wanted content) = false := by
  have hne : level ≠ 0 := by omega
  simp [Reducer.isPreamble, headingRow, hne]

@[simp] theorem isPreamble_metadataRow (content : String) :
    Reducer.isPreamble (metadataRow content) = false := rfl

@[simp] theorem isPreamble_looseRow (content : String) :
    Reducer.isPreamble (looseRow content) = true := rfl

/-- Appends text to the row of loose text and leaves the others. -/
def appendLoose (text : String) (s : Section) : Section :=
  if Reducer.isPreamble s then { s with content := s.content ++ text } else s

theorem appendLoose_eq_self {s : Section} (h : Reducer.isPreamble s = false) (text : String) :
    appendLoose text s = s := by
  simp [appendLoose, h]

theorem map_appendLoose_rowsAt {g : Group} (hg : g.IsLeveled) (loose text : String)
    (before : List Group) :
    (rowsAt loose before g).map (appendLoose text) = rowsAt (loose ++ text) before g := by
  have hloose : (looseRowAt loose before g).map (appendLoose text) =
      looseRowAt (loose ++ text) before g := by
    unfold looseRowAt
    split <;> rfl
  unfold rowsAt
  unfold Group.IsLeveled at hg
  cases hopener : g.opener with
  | start => simpa using hloose
  | heading level title wanted =>
      -- a positive level tells the row of a heading from the row of loose text
      simp only [hopener] at hg ⊢
      split
      · rfl
      · simp [appendLoose_eq_self (isPreamble_headingRow hg before title wanted g.text)]
  | metadata content =>
      simp [hloose, appendLoose_eq_self (isPreamble_metadataRow content)]

/-- More loose text changes the row of loose text alone. -/
theorem map_appendLoose_rowsBefore {before : List Group} (h : ∀ g ∈ before, g.IsLeveled)
    (loose text : String) :
    (rowsBefore loose before).map (appendLoose text) = rowsBefore (loose ++ text) before := by
  induction before with
  | nil => rfl
  | cons g before ih =>
      rw [rowsBefore, rowsBefore, List.map_append, ih fun x hx => h x (List.mem_cons_of_mem g hx),
        map_appendLoose_rowsAt (h g List.mem_cons_self)]

theorem any_isPreamble_rowsAt {g : Group} (hg : g.IsLeveled) (loose : String)
    (before : List Group) :
    (rowsAt loose before g).any Reducer.isPreamble =
      (!g.looseText.isEmpty && (looseBefore before).isEmpty) := by
  -- only a row of loose text is one in front of all headings
  have hloose : (looseRowAt loose before g).any Reducer.isPreamble =
      (!g.looseText.isEmpty && (looseBefore before).isEmpty) := by
    unfold looseRowAt
    cases g.looseText.isEmpty <;> cases (looseBefore before).isEmpty <;> rfl
  unfold rowsAt
  unfold Group.IsLeveled at hg
  cases hopener : g.opener with
  | start => exact hloose
  | heading level title wanted =>
      simp only [hopener] at hg
      have hempty : g.looseText = "" := by simp [Group.looseText, hopener]
      rw [hempty]
      dsimp only
      split
      · rfl
      · simp [isPreamble_headingRow hg]
  | metadata content => simpa using hloose

theorem isEmpty_append (s t : String) : (s ++ t).isEmpty = (s.isEmpty && t.isEmpty) := by
  rw [Bool.eq_iff_iff, Bool.and_eq_true, String.isEmpty_iff, String.isEmpty_iff, String.isEmpty_iff,
    String.append_eq_empty_iff]

/-- There is a row of loose text exactly if there is loose text. -/
theorem any_isPreamble_rowsBefore {before : List Group} (h : ∀ g ∈ before, g.IsLeveled)
    (loose : String) :
    (rowsBefore loose before).any Reducer.isPreamble = !(looseBefore before).isEmpty := by
  induction before with
  | nil => rfl
  | cons g before ih =>
      rw [rowsBefore, List.any_append, ih fun x hx => h x (List.mem_cons_of_mem g hx),
        any_isPreamble_rowsAt (h g List.mem_cons_self), looseBefore, isEmpty_append]
      cases g.looseText.isEmpty <;> cases (looseBefore before).isEmpty <;> rfl

/-- Without loose text the rows do not depend on it. -/
theorem rowsBefore_congr_of_looseBefore_eq {before : List Group} (h : looseBefore before = "")
    (loose other : String) : rowsBefore loose before = rowsBefore other before := by
  induction before with
  | nil => rfl
  | cons g before ih =>
      -- neither the groups in front nor `g` have loose text
      rw [looseBefore, String.append_eq_empty_iff] at h
      rw [rowsBefore, rowsBefore, ih h.1]
      congr 1
      unfold rowsAt looseRowAt
      simp [h.2]

/-! ### One group -/

theorem flush_of_level_ne_zero {r : Reducer} (h : r.level ≠ 0) :
    r.flush =
      { r with
        sections := r.sections ++
          if r.title.isEmpty && r.content.isEmpty then []
          else
            [{ id := r.id, path := r.path, level := r.level, title := r.title,
               content := r.content, parentId := r.parentId }] } := by
  unfold Reducer.flush
  by_cases hempty : (r.title.isEmpty && r.content.isEmpty) = true
  · simp [hempty]
  · rw [if_neg hempty, if_neg h, if_neg hempty]

theorem flush_of_loose {r : Reducer} (htitle : r.title = "") (hlevel : r.level = 0) :
    r.flush = if r.content.isEmpty then r else r.addPreamble r.content := by
  unfold Reducer.flush
  rw [htitle, if_pos hlevel]
  rfl

theorem parentId_of_stack {r : Reducer} {m : Int × String} {around : List (Int × String)}
    (h : r.stack = m :: around) : r.parentId = (around.head?.map (·.2)).getD "" := by
  unfold Reducer.parentId
  rw [h]
  cases around with
  | nil => rfl
  | cons parent around => rfl

/-- The state of a run behind the groups `before`, all of them closed. -/
structure Follows (before : List Group) (r : Reducer) : Prop where
  sections : r.sections = rowsBefore (looseBefore before) before
  stack : r.stack = trail (headingsOf before)
  sound : r.registry.Sound
  taken : ∀ id, id ∈ r.registry.taken ↔ id ∈ takenBy before

theorem follows_start : Follows [] Reducer.start where
  sections := rfl
  stack := rfl
  sound := SlugRegistry.sound_empty
  taken := fun _ => Iff.rfl

/-- A heading with its texts is taken in. -/
theorem Follows.absorb_heading {before : List Group} {r : Reducer} (h : Follows before r)
    {g : Group} {level : Int} {title wanted : String} (hg : g.opener = .heading level title wanted)
    (hlevel : 0 < level) : Follows (g :: before) (absorb r g) := by
  -- the registry and `takenBy` hold the same ids, though not in the same order
  have hid : (r.registry.claim wanted).1 = freeId (takenBy before) wanted :=
    (SlugRegistry.claim_fst h.sound wanted).trans (SlugRegistry.freeId_congr h.taken wanted)
  have hloose : g.looseText = "" := by simp [Group.looseText, hg]
  let id := freeId (takenBy before) wanted
  let around := enclosing (headingsOf before) level
  -- the state with all texts of the group gathered, before it is closed
  let open' : Reducer :=
    { sections := r.sections, title := title, level := level, id := id, content := g.text
      stack := (level, id) :: around, registry := (r.registry.claim wanted).2 }
  have hopen : absorb r g = open'.flush := by
    simp only [absorb, hg, opened, hid, h.stack, Outline.dropWhile_trail, String.empty_append]
    rfl
  have hflush := flush_of_level_ne_zero (r := open') (Int.ne_of_gt hlevel)
  have hparent : open'.parentId = (around.head?.map (·.2)).getD "" := parentId_of_stack rfl
  have hrow : headingRow before level title wanted g.text =
      { id := open'.id, path := open'.path, level := open'.level, title := open'.title
        content := open'.content, parentId := open'.parentId } := by
    rw [hparent]
    unfold headingRow
    simp only [← Outline.head?_enclosing]
    rfl
  rw [hopen, hflush]
  constructor
  · -- the heading adds its row and no loose text
    rw [looseBefore, hloose, String.append_empty, rowsBefore, ← h.sections]
    simp only [rowsAt, hg, hrow]
    rfl
  · rw [headingsOf, hg]
    rfl
  · exact SlugRegistry.sound_claim h.sound wanted
  · -- the claimed id is the one taken id that is new
    intro x
    rw [takenBy, hloose, hg]
    change x ∈ (r.registry.claim wanted).2.taken ↔
      x ∈ freeId (takenBy before) wanted :: takenBy before
    rw [SlugRegistry.taken_claim, hid, List.mem_cons, List.mem_cons, h.taken]

theorem takenBy_subset_cons (g : Group) (before : List Group) :
    ∀ id ∈ takenBy before, id ∈ takenBy (g :: before) := by
  intro id hid
  rw [takenBy]
  cases g.opener with
  | start => split <;> simp [hid]
  | heading level title wanted => split <;> simp [hid]
  | metadata content => split <;> simp [hid]

theorem empty_mem_takenBy {before : List Group} (h : looseBefore before ≠ "") :
    "" ∈ takenBy before := by
  induction before with
  | nil => exact absurd rfl h
  | cons g before ih =>
      -- the loose text that is there stands in `g` or in front of it
      by_cases hbefore : looseBefore before = ""
      · have hloose : g.looseText ≠ "" := by
          intro hempty
          exact h (by rw [looseBefore, hbefore, hempty, String.append_empty])
        rw [takenBy, if_neg (by simpa using hloose)]
        exact List.mem_cons_self
      · exact takenBy_subset_cons g before "" (ih hbefore)

/-- The state of a run behind the groups `before`, with the texts of the group `g` gathered and not
closed yet. The group belongs to no heading; `extra` are the rows that opening it has made, and
`taken` the ids that are taken then. -/
structure Gathers (before : List Group) (g : Group) (extra : List Section) (taken : List String)
    (r : Reducer) : Prop where
  rows_eq : ∀ loose, rowsAt loose before g = extra ++ looseRowAt loose before g
  takenBy_eq : takenBy (g :: before) = if g.looseText.isEmpty then taken else "" :: taken
  kept : ∀ id ∈ takenBy before, id ∈ taken
  noPreamble : ∀ s ∈ extra, Reducer.isPreamble s = false
  sections : r.sections = rowsBefore (looseBefore before) before ++ extra
  stack : r.stack = trail (headingsOf (g :: before))
  sound : r.registry.Sound
  taken : ∀ id, id ∈ r.registry.taken ↔ id ∈ taken
  title : r.title = ""
  level : r.level = 0
  content : r.content = g.looseText

section Gathers

variable {before : List Group} {g : Group} {extra : List Section} {taken : List String}
  {r : Reducer}

/-- Without loose text nothing is added. -/
theorem Gathers.follows_of_empty (h : Gathers before g extra taken r)
    (hempty : g.looseText.isEmpty = true) : Follows (g :: before) r := by
  have hloose : g.looseText = "" := String.isEmpty_iff.mp hempty
  refine ⟨?_, h.stack, h.sound, ?_⟩
  · rw [h.sections, rowsBefore, h.rows_eq, looseBefore, hloose, String.append_empty]
    simp [looseRowAt, hempty]
  · rw [h.takenBy_eq, if_pos hempty]
    exact h.taken

theorem Gathers.any_isPreamble (h : Gathers before g extra taken r)
    (hbefore : ∀ x ∈ before, x.IsLeveled) :
    r.sections.any Reducer.isPreamble = !(looseBefore before).isEmpty := by
  have hnone : extra.any Reducer.isPreamble = false := by simpa using h.noPreamble
  rw [h.sections, List.any_append, any_isPreamble_rowsBefore hbefore, hnone, Bool.or_false]

/-- The first loose text makes the row, behind all rows so far. -/
theorem Gathers.follows_of_first (h : Gathers before g extra taken r)
    (hbefore : ∀ x ∈ before, x.IsLeveled) (hsome : ¬g.looseText.isEmpty = true)
    (hfirst : looseBefore before = "") : Follows (g :: before) (r.addPreamble g.looseText) := by
  unfold Reducer.addPreamble
  -- there is no row of loose text yet, so a new one is made
  rw [h.any_isPreamble hbefore, if_neg (by simp [hfirst])]
  refine ⟨?_, h.stack, SlugRegistry.sound_reserve h.sound "", fun id => ?_⟩
  · simp only
    rw [h.sections, rowsBefore, h.rows_eq, looseBefore, hfirst, String.empty_append,
      rowsBefore_congr_of_looseBefore_eq hfirst "" g.looseText, List.append_assoc]
    simp [looseRowAt, hsome, hfirst, looseRow]
  · simp only
    rw [h.takenBy_eq, if_neg hsome, SlugRegistry.taken_reserve, List.mem_cons, List.mem_cons,
      h.taken]

/-- Later loose text goes into the row that is there; its id is taken already. -/
theorem Gathers.follows_of_later (h : Gathers before g extra taken r)
    (hbefore : ∀ x ∈ before, x.IsLeveled) (hsome : ¬g.looseText.isEmpty = true)
    (hlater : looseBefore before ≠ "") : Follows (g :: before) (r.addPreamble g.looseText) := by
  unfold Reducer.addPreamble
  rw [h.any_isPreamble hbefore, if_pos (by simpa using hlater)]
  refine ⟨?_, h.stack, h.sound, fun id => ?_⟩
  · change r.sections.map (appendLoose g.looseText) = _
    -- the row of loose text stands in front, not among the rows that opening the group made
    have hsame : extra.map (appendLoose g.looseText) = extra :=
      (List.map_congr_left fun s hs => appendLoose_eq_self (h.noPreamble s hs) _).trans
        (List.map_id extra)
    rw [h.sections, List.map_append, map_appendLoose_rowsBefore hbefore, hsame, rowsBefore,
      h.rows_eq, looseBefore]
    simp [looseRowAt, hlater]
  · have hmem : "" ∈ taken := h.kept "" (empty_mem_takenBy hlater)
    rw [h.takenBy_eq, if_neg hsome, h.taken, List.mem_cons]
    constructor
    · exact Or.inr
    · rintro (rfl | hid)
      · exact hmem
      · exact hid

/-- Closing the group takes its texts in. -/
theorem Gathers.follows_flush (h : Gathers before g extra taken r)
    (hbefore : ∀ x ∈ before, x.IsLeveled) : Follows (g :: before) r.flush := by
  rw [flush_of_loose h.title h.level, h.content]
  by_cases hempty : g.looseText.isEmpty = true
  · rw [if_pos hempty]
    exact h.follows_of_empty hempty
  · rw [if_neg hempty]
    by_cases hfirst : looseBefore before = ""
    · exact h.follows_of_first hbefore hempty hfirst
    · exact h.follows_of_later hbefore hempty hfirst

end Gathers

/-- The texts in front of the first heading or metadata element are gathered. -/
theorem Follows.gathers_start {before : List Group} {r : Reducer} (h : Follows before r)
    {g : Group} (hopener : g.opener = .start) :
    Gathers before g [] (takenBy before) { r.reset with content := r.reset.content ++ g.text } where
  rows_eq := by
    intro loose
    simp [rowsAt, hopener]
  takenBy_eq := by simp only [takenBy, hopener]
  kept := fun _ hid => hid
  noPreamble := by simp
  sections := by
    rw [List.append_nil, ← h.sections]
    rfl
  stack := by
    rw [headingsOf, hopener]
    exact h.stack
  sound := h.sound
  taken := h.taken
  title := rfl
  level := rfl
  content := by simp [Group.looseText, hopener, Reducer.reset]

/-- A metadata element makes its row, and the texts behind it are gathered. -/
theorem Follows.gathers_metadata {before : List Group} {r : Reducer} (h : Follows before r)
    {g : Group} {content : String} (hopener : g.opener = .metadata content) :
    Gathers before g [metadataRow content] (Section.frontmatterId :: takenBy before)
      { opened r (.metadata content) with
        content := (opened r (.metadata content)).content ++ g.text } where
  rows_eq := by
    intro loose
    simp [rowsAt, hopener]
  takenBy_eq := by simp only [takenBy, hopener]
  kept := fun _ => List.mem_cons_of_mem _
  noPreamble := by
    intro s hs
    rw [List.mem_singleton.mp hs]
    exact isPreamble_metadataRow content
  sections := by
    rw [← h.sections]
    rfl
  stack := by
    rw [headingsOf, hopener]
    exact h.stack
  sound := SlugRegistry.sound_reserve h.sound _
  taken := by
    intro id
    change id ∈ (r.registry.reserve Section.frontmatterId).taken ↔ _
    rw [SlugRegistry.taken_reserve, List.mem_cons, List.mem_cons, h.taken]
  title := rfl
  level := rfl
  content := by simp [Group.looseText, hopener, opened, Reducer.reset]

/-- Taking one group in makes its rows. -/
theorem Follows.absorb {before : List Group} {r : Reducer} (h : Follows before r)
    (hbefore : ∀ x ∈ before, x.IsLeveled) {g : Group} (hg : g.IsLeveled) :
    Follows (g :: before) (absorb r g) := by
  cases hopener : g.opener with
  | heading level title wanted =>
      have hlevel : 0 < level := by simpa [Group.IsLeveled, hopener] using hg
      exact h.absorb_heading hopener hlevel
  | start =>
      have hgathers := h.gathers_start hopener
      unfold Grouping.absorb
      rw [hopener]
      exact hgathers.follows_flush hbefore
  | metadata content =>
      have hgathers := h.gathers_metadata hopener
      unfold Grouping.absorb
      rw [hopener]
      exact hgathers.follows_flush hbefore

/-! ### Whole runs -/

theorem Follows.foldl_absorb {before gs : List Group} {r : Reducer} (h : Follows before r)
    (hbefore : ∀ g ∈ before, g.IsLeveled) (hgs : ∀ g ∈ gs, g.IsLeveled) :
    Follows (gs.reverse ++ before) (gs.foldl Grouping.absorb r) := by
  induction gs generalizing before r with
  | nil => exact h
  | cons g gs ih =>
      have hg : g.IsLeveled := hgs g List.mem_cons_self
      have hstep := ih (h.absorb hbefore hg)
        (fun x hx => by
          rcases List.mem_cons.mp hx with rfl | hx
          · exact hg
          · exact hbefore x hx)
        (fun x hx => hgs x (List.mem_cons_of_mem g hx))
      rw [List.reverse_cons, List.append_assoc, List.singleton_append, List.foldl_cons]
      exact hstep

/-- A run over groups makes their rows. -/
theorem sections_foldl_absorb {gs : List Group} (h : ∀ g ∈ gs, g.IsLeveled) :
    (gs.foldl absorb Reducer.start).sections = rows gs := by
  have hrun := follows_start.foldl_absorb (by simp) h
  rw [rows_eq_rowsBefore, hrun.sections, List.append_nil]

/-- The pieces of elements make groups whose headings have positive levels. -/
theorem groupsOf_isLeveled {codec : Codec} {es : List Element} {ps : List Piece}
    (h : es.mapM (Piece.ofElement codec) = .ok ps) : ∀ g ∈ groupsOf ps, g.IsLeveled := by
  have hpieces : ∀ p ∈ ps, ∀ level title wanted, p = .heading level title wanted → 0 < level := by
    intro p hp level title wanted heq
    subst heq
    obtain ⟨e, -, he⟩ := exists_of_mem_mapM h hp
    cases isPieceOf_of_ofElement he with
    | heading _ => exact one_le_headingLevel e
  intro g hg
  -- the group at the start stands behind no heading
  rcases List.mem_cons.mp hg with rfl | hg
  · trivial
  · exact split_isLeveled hpieces g hg

/-- The rows of headings are those whose level is not zero. -/
theorem filter_level_rowsFrom {gs : List Group} (h : ∀ g ∈ gs, g.IsLeveled) (loose : String)
    (before : List Group) :
    (rowsFrom loose before gs).filter (fun s => s.level != 0) = headingRowsFrom before gs := by
  induction gs generalizing before with
  | nil => rfl
  | cons g gs ih =>
      have hloose : (looseRowAt loose before g).filter (fun s => s.level != 0) = [] := by
        unfold looseRowAt
        split
        · rfl
        · rfl
      have hg := h g List.mem_cons_self
      rw [rowsFrom, headingRowsFrom, List.filter_append,
        ih (fun x hx => h x (List.mem_cons_of_mem g hx))]
      -- what is left is that of one group only its heading row has a level
      apply congrArg (· ++ headingRowsFrom (g :: before) gs)
      unfold rowsAt Group.hasHeadingRow
      unfold Group.IsLeveled at hg
      cases hopener : g.opener with
      | start => exact hloose
      | metadata content => simpa [metadataRow] using hloose
      | heading level title wanted =>
          have hlevel : level ≠ 0 := by
            have hpos : 0 < level := by simpa [hopener] using hg
            omega
          by_cases hempty : (title.isEmpty && g.text.isEmpty) = true
          · simp [hempty]
          · simp [hempty, headingRow, hlevel]

/-- Grouping gives the rows of the groups of the elements in ascending order. -/
theorem reduceSections_eq_map_rows (codec : Codec) (es : List Element) :
    reduceSections codec es =
      ((Element.sortByOrder es).mapM (Piece.ofElement codec)).map fun ps => rows (groupsOf ps) := by
  rw [reduceSections_eq_foldl]
  cases h : (Element.sortByOrder es).mapM (Piece.ofElement codec) with
  | error fault => rfl
  | ok ps => exact congrArg Except.ok (sections_foldl_absorb (groupsOf_isLeveled h))

/-- Rows that grouping gives are those of the groups of the pieces in ascending order. -/
theorem exists_pieces_of_reduceSections {codec : Codec} {es : List Element}
    {sections : List Section} (h : reduceSections codec es = .ok sections) :
    ∃ ps, (Element.sortByOrder es).mapM (Piece.ofElement codec) = .ok ps ∧
      sections = rows (groupsOf ps) := by
  rw [reduceSections_eq_map_rows] at h
  obtain ⟨ps, hps, hrows⟩ := exists_of_map_eq_ok h
  exact ⟨ps, hps, hrows.symm⟩

/-- **Grouping.** With its elements in ascending order, those of equal order in their places, a
sequence is grouped into the rows of its groups. Grouping fails only with the first element that is
neither a heading nor metadata and cannot be rendered. -/
theorem reduceSections_eq_rows_groupsOf (codec : Codec) (es : List Element) :
    ∃ sorted, Element.StablySorted es sorted ∧
      reduceSections codec es =
        (sorted.mapM (Piece.ofElement codec)).map fun ps => rows (groupsOf ps) :=
  ⟨Element.sortByOrder es, Element.stablySorted_sortByOrder es, reduceSections_eq_map_rows codec es⟩

end Grouping

end MarkdownSections
