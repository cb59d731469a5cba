import MarkdownSections.Proofs.Section.Grouping

/-!
# Runs of transitions

The transitions of a reducer can be called one by one, in any order and with any elements. Every
state that such a run reaches is consistent (`Reducer.IsConsistent`): the open headings have levels
from 1 to 6, each deeper than the one around it, and different ids that are registered; the innermost
of them is the open section, if there is one; and one row at most is the preamble.

A step leaves the rows that are there in their places (`Reducer.Keeps`). Only the preamble changes, by
text at the end of its content. A row of a heading that a step adds is the row of the innermost open
heading in front of the step (`Reducer.IsRowOf`).

Main statement: all of this holds of every run (`Reducer.run_isConsistent_and_keeps`).
-/

set_option autoImplicit false

namespace MarkdownSections.Reducer

open Grouping (appendLoose looseRow opened)

/-! ## Steps and runs -/

/-- A transition with the element that it takes in, if it takes one. -/
inductive Transition where
  | feed (e : Element)
  | heading (e : Element)
  | metadata (e : Element)
  | other (e : Element)
  | flush
  | finish

/-- The state behind a transition, which fails with an element that cannot be rendered. -/
def Transition.apply (codec : Codec) (r : Reducer) : Transition → Except PayloadError Reducer
  | .feed e => r.feed codec e
  | .heading e => .ok (r.onHeading e)
  | .metadata e => .ok (r.onMetadata e)
  | .other e => r.onOther codec e
  | .flush => .ok r.flush
  | .finish => .ok r.finish

/-- One step of a run. A transition that fails leaves the state as it is. -/
def step (codec : Codec) (r : Reducer) (t : Transition) : Reducer :=
  match t.apply codec r with
  | .ok next => next
  | .error _ => r

/-- The state behind a run of transitions. -/
def run (codec : Codec) (ts : List Transition) : Reducer :=
  ts.foldl (step codec) start

theorem run_append (codec : Codec) (ts us : List Transition) :
    run codec (ts ++ us) = us.foldl (step codec) (run codec ts) :=
  List.foldl_append

/-- Text behind that of the open section. -/
def withText (r : Reducer) (text : String) : Reducer :=
  { r with content := r.content ++ text }

/-- A failing rendering adds no text. -/
theorem onOther_cases (codec : Codec) (r : Reducer) (e : Element) :
    (∃ text, r.onOther codec e = .ok (r.withText text)) ∨ ∃ fault, r.onOther codec e = .error fault := by
  unfold onOther
  cases e.render codec with
  | error fault => exact Or.inr ⟨fault, rfl⟩
  | ok text => exact Or.inl ⟨text, rfl⟩

/-- What a step can do: close the open section, and then open another one, make a row of metadata or
leave all sections closed; or add text. -/
theorem step_cases (codec : Codec) (r : Reducer) (t : Transition) :
    (∃ level title wanted, 1 ≤ level ∧ level ≤ 6 ∧
        step codec r t = opened r.flush (.heading level title wanted)) ∨
      (∃ content, step codec r t = opened r.flush (.metadata content)) ∨
      step codec r t = r.flush ∨ step codec r t = r.flush.reset ∨
      ∃ text, step codec r t = r.withText text := by
  have hheading : ∀ e : Element, ∃ level title wanted, 1 ≤ level ∧ level ≤ 6 ∧
      r.onHeading e = opened r.flush (.heading level title wanted) := by
    intro e
    refine ⟨e.headingLevel, e.content, Grouping.wantedId e, Grouping.one_le_headingLevel e, ?_,
      Grouping.onHeading_eq_opened r e⟩
    simp only [Element.headingLevel]
    omega
  -- a transition that fails adds no text
  have hother : ∀ e : Element, ∃ text,
      (match r.onOther codec e with | .ok next => next | .error _ => r) = r.withText text := by
    intro e
    rcases onOther_cases codec r e with ⟨text, hok⟩ | ⟨fault, herror⟩
    · exact ⟨text, by rw [hok]⟩
    · exact ⟨"", by rw [herror, withText, String.append_empty]⟩
  cases t with
  | heading e => exact Or.inl (hheading e)
  | metadata e => exact Or.inr (Or.inl ⟨e.content, rfl⟩)
  | flush => exact Or.inr (Or.inr (Or.inl rfl))
  | finish => exact Or.inr (Or.inr (Or.inr (Or.inl rfl)))
  | other e => exact Or.inr (Or.inr (Or.inr (Or.inr (hother e))))
  | feed e =>
      by_cases htype : e.type = .heading
      · have hfeed : step codec r (.feed e) = r.onHeading e := by
          simp only [step, Transition.apply, feed, if_pos htype]
        rw [hfeed]
        exact Or.inl (hheading e)
      · by_cases hmetadata : e.type.isMetadata = true
        · have hfeed : step codec r (.feed e) = r.onMetadata e := by
            simp only [step, Transition.apply, feed, if_neg htype, if_pos hmetadata]
          rw [hfeed]
          exact Or.inr (Or.inl ⟨e.content, rfl⟩)
        · have hfeed : step codec r (.feed e) = step codec r (.other e) := by
            simp only [step, Transition.apply, feed, if_neg htype, if_neg hmetadata]
          rw [hfeed]
          exact Or.inr (Or.inr (Or.inr (Or.inr (hother e))))

/-! ## Consistent states -/

/-- What holds of the open headings, the open section and the preamble in every state of a run. -/
structure IsConsistent (r : Reducer) : Prop where
  /-- Each open heading is deeper than those around it; the stack lists the innermost first. -/
  deeper : r.stack.Pairwise fun inner outer => outer.1 < inner.1
  inRange : ∀ m ∈ r.stack, 1 ≤ m.1 ∧ m.1 ≤ 6
  distinct : (r.stack.map (·.2)).Nodup
  registered : ∀ m ∈ r.stack, r.registry.contains m.2 = true
  /-- An open section is that of the innermost open heading; without one the level is 0. -/
  top : r.level = 0 ∨ 0 < r.level ∧ r.stack.head? = some (r.level, r.id)
  onePreamble : r.sections.countP isPreamble ≤ 1

theorem isConsistent_start : IsConsistent start where
  deeper := List.Pairwise.nil
  inRange := by simp [start]
  distinct := List.nodup_nil
  registered := by simp [start]
  top := Or.inl rfl
  onePreamble := Nat.zero_le 1

/-- Six levels leave room for six open headings. -/
theorem IsConsistent.length_stack_le {r : Reducer} (h : IsConsistent r) : r.stack.length ≤ 6 := by
  let levels : List Int := [1, 2, 3, 4, 5, 6]
  have hnodup : (r.stack.map (·.1)).Nodup := by
    rw [List.nodup_iff_pairwise_ne, List.pairwise_map]
    exact h.deeper.imp fun hlt heq => by omega
  have hsubset : r.stack.map (·.1) ⊆ levels := by
    intro level hlevel
    obtain ⟨m, hm, rfl⟩ := List.mem_map.mp hlevel
    have hrange := h.inRange m hm
    simp only [levels, List.mem_cons, List.not_mem_nil, or_false]
    omega
  have hlength := (List.subperm_of_subset hnodup hsubset).length_le
  rwa [List.length_map] at hlength

/-! ### One preamble -/

theorem isPreamble_appendLoose (text : String) (s : Section) :
    isPreamble (appendLoose text s) = isPreamble s := by
  unfold appendLoose
  split
  · rfl
  · rfl

/-- The rows behind the first text of the preamble, and behind further text. -/
theorem sections_addPreamble (r : Reducer) (text : String) :
    (r.sections.any isPreamble = false ∧
        (r.addPreamble text).sections = r.sections ++ [looseRow text]) ∨
      (r.addPreamble text).sections = r.sections.map (appendLoose text) := by
  unfold addPreamble
  by_cases hany : r.sections.any isPreamble = true
  · rw [if_pos hany]
    exact Or.inr rfl
  · rw [if_neg hany]
    exact Or.inl ⟨Bool.eq_false_iff.mpr hany, rfl⟩

theorem countP_isPreamble_addPreamble {r : Reducer} (h : r.sections.countP isPreamble ≤ 1)
    (text : String) : (r.addPreamble text).sections.countP isPreamble ≤ 1 := by
  rcases sections_addPreamble r text with ⟨hnone, hrows⟩ | hrows
  · -- the first row of its kind
    have hzero : r.sections.countP isPreamble = 0 := by
      rw [List.countP_eq_zero]
      intro s hs
      exact List.any_eq_false.mp hnone s hs
    rw [hrows, List.countP_append, hzero]
    exact Nat.le_refl 1
  · have hsame : isPreamble ∘ appendLoose text = isPreamble :=
      funext (isPreamble_appendLoose text)
    rw [hrows, List.countP_map, hsame]
    exact h

/-! ### What flushing does -/

/-- The row that flushing makes of an open section. -/
def openRow (r : Reducer) : Section :=
  { id := r.id, path := r.path, level := r.level, title := r.title, content := r.content
    parentId := r.parentId }

/-- What flushing can do: nothing, add text to the preamble outside all sections, or add the row of
the open section. -/
theorem flush_cases (r : Reducer) :
    r.flush = r ∨ (r.level = 0 ∧ r.flush = r.addPreamble r.content) ∨
      (r.level ≠ 0 ∧ r.flush = { r with sections := r.sections ++ [r.openRow] }) := by
  unfold flush
  by_cases hempty : (r.title.isEmpty && r.content.isEmpty) = true
  · rw [if_pos hempty]
    exact Or.inl rfl
  · rw [if_neg hempty]
    by_cases hlevel : r.level = 0
    · rw [if_pos hlevel]
      exact Or.inr (Or.inl ⟨hlevel, rfl⟩)
    · rw [if_neg hlevel]
      exact Or.inr (Or.inr ⟨hlevel, rfl⟩)

/-- Flushing leaves the open headings and the open section, and takes no id back. -/
theorem flush_frame (r : Reducer) :
    r.flush.stack = r.stack ∧ r.flush.level = r.level ∧ r.flush.id = r.id ∧
      ∀ id, r.registry.contains id = true → r.flush.registry.contains id = true := by
  rcases flush_cases r with hflush | ⟨-, hflush⟩ | ⟨-, hflush⟩
  · rw [hflush]
    exact ⟨rfl, rfl, rfl, fun _ h => h⟩
  · rw [hflush]
    unfold addPreamble
    split
    · exact ⟨rfl, rfl, rfl, fun _ h => h⟩
    · -- the empty id is taken besides
      refine ⟨rfl, rfl, rfl, fun id h => ?_⟩
      simp only [SlugRegistry.contains, List.contains_iff_mem] at h ⊢
      rw [SlugRegistry.taken_reserve]
      exact List.mem_cons_of_mem "" h
  · rw [hflush]
    exact ⟨rfl, rfl, rfl, fun _ h => h⟩

theorem IsConsistent.flush {r : Reducer} (h : IsConsistent r) : IsConsistent r.flush := by
  obtain ⟨hstack, hlevel, hid, hregistry⟩ := flush_frame r
  constructor
  · rw [hstack]
    exact h.deeper
  · rw [hstack]
    exact h.inRange
  · rw [hstack]
    exact h.distinct
  · intro m hm
    rw [hstack] at hm
    exact hregistry m.2 (h.registered m hm)
  · rw [hstack, hlevel, hid]
    exact h.top
  · rcases flush_cases r with hflush | ⟨-, hflush⟩ | ⟨hopen, hflush⟩
    · rw [hflush]
      exact h.onePreamble
    · rw [hflush]
      exact countP_isPreamble_addPreamble h.onePreamble r.content
    · -- the row of a section has a level and is no preamble
      have hrow : isPreamble r.openRow = false := by simp [isPreamble, openRow, hopen]
      rw [hflush, List.countP_append, List.countP_singleton, hrow]
      exact h.onePreamble

/-! ### What opening does -/

/-- The new innermost heading is deeper than those that stay around it, and its id is new. -/
theorem IsConsistent.opened_heading {r : Reducer} (h : IsConsistent r) {level : Int}
    (hlow : 1 ≤ level) (hhigh : level ≤ 6) (title wanted : String) :
    IsConsistent (opened r (.heading level title wanted)) := by
  have hsublist := List.dropWhile_sublist (l := r.stack) fun entry => decide (entry.1 ≥ level)
  have hmem : ∀ {m}, m ∈ r.stack.dropWhile (fun entry => decide (entry.1 ≥ level)) → m ∈ r.stack :=
    fun hm => hsublist.subset hm
  have hnew : (r.registry.claim wanted).1 ∉ r.registry.taken :=
    SlugRegistry.numbered_firstFree_notMem r.registry.taken wanted (r.registry.nextNumber wanted)
  constructor
  · refine List.Pairwise.cons ?_ (h.deeper.sublist hsublist)
    intro m hm
    -- the first heading that stays is of a smaller level, and those around it are even less deep
    cases hrest : r.stack.dropWhile fun entry => decide (entry.1 ≥ level) with
    | nil =>
        rw [hrest] at hm
        exact absurd hm List.not_mem_nil
    | cons first around =>
        have hfirst : first.1 < level := by
          have hhead := List.head?_dropWhile_not (fun entry => decide (entry.1 ≥ level)) r.stack
          rw [hrest] at hhead
          simpa using hhead
        have hpairwise := h.deeper.sublist hsublist
        rw [hrest] at hm hpairwise
        rcases List.mem_cons.mp hm with rfl | hm
        · exact hfirst
        · have hless := (List.pairwise_cons.mp hpairwise).1 m hm
          change m.1 < level
          omega
  · intro m hm
    rcases List.mem_cons.mp hm with rfl | hm
    · exact ⟨hlow, hhigh⟩
    · exact h.inRange m (hmem hm)
  · refine List.nodup_cons.mpr ⟨?_, h.distinct.sublist (hsublist.map _)⟩
    intro hold
    -- an open id is registered, but a claimed one was free
    obtain ⟨m, hm, hid⟩ := List.mem_map.mp hold
    have htaken := h.registered m (hmem hm)
    rw [hid, SlugRegistry.contains, List.contains_iff_mem] at htaken
    exact hnew htaken
  · intro m hm
    change (r.registry.claim wanted).2.contains m.2 = true
    rw [SlugRegistry.contains, List.contains_iff_mem, SlugRegistry.taken_claim, List.mem_cons]
    rcases List.mem_cons.mp hm with rfl | hm
    · exact Or.inl rfl
    · have htaken := h.registered m (hmem hm)
      rw [SlugRegistry.contains, List.contains_iff_mem] at htaken
      exact Or.inr htaken
  · exact Or.inr ⟨by change 0 < level; omega, rfl⟩
  · exact h.onePreamble

theorem IsConsistent.opened_metadata {r : Reducer} (h : IsConsistent r) (content : String) :
    IsConsistent (opened r (.metadata content)) := by
  constructor
  · exact h.deeper
  · exact h.inRange
  · exact h.distinct
  · intro m hm
    have htaken := h.registered m hm
    change (r.registry.reserve Section.frontmatterId).contains m.2 = true
    rw [SlugRegistry.contains, List.contains_iff_mem] at htaken ⊢
    rw [SlugRegistry.taken_reserve]
    exact List.mem_cons_of_mem _ htaken
  · exact Or.inl rfl
  · change (r.sections ++ [Grouping.metadataRow content]).countP isPreamble ≤ 1
    rw [List.countP_append, List.countP_singleton, Grouping.isPreamble_metadataRow]
    exact h.onePreamble

theorem IsConsistent.reset {r : Reducer} (h : IsConsistent r) : IsConsistent r.reset :=
  ⟨h.deeper, h.inRange, h.distinct, h.registered, Or.inl rfl, h.onePreamble⟩

theorem IsConsistent.withText {r : Reducer} (h : IsConsistent r) (text : String) :
    IsConsistent (r.withText text) :=
  ⟨h.deeper, h.inRange, h.distinct, h.registered, h.top, h.onePreamble⟩

/-- A step leads from consistent states to consistent states. -/
theorem IsConsistent.step {r : Reducer} (h : IsConsistent r) (codec : Codec) (t : Transition) :
    IsConsistent (step codec r t) := by
  rcases step_cases codec r t with ⟨level, title, wanted, hlow, hhigh, hstep⟩ | ⟨content, hstep⟩ |
    hstep | hstep | ⟨text, hstep⟩
  · rw [hstep]
    exact h.flush.opened_heading hlow hhigh title wanted
  · rw [hstep]
    exact h.flush.opened_metadata content
  · rw [hstep]
    exact h.flush
  · rw [hstep]
    exact h.flush.reset
  · rw [hstep]
    exact h.withText text

theorem isConsistent_run (codec : Codec) (ts : List Transition) : IsConsistent (run codec ts) := by
  induction ts using List.reverseRecOn with
  | nil => exact isConsistent_start
  | append_singleton ts t ih =>
      rw [run_append]
      exact ih.step codec t

/-! ## Rows -/

/-- What may become of a row: it stays as it is, or it is the preamble and gets text at the end of its
content. -/
def GrowsTo (s s' : Section) : Prop :=
  s' = s ∨ isPreamble s = true ∧ ∃ text, s' = { s with content := s.content ++ text }

/-- Every row is still in its place, grown at most. -/
def Keeps (rows rows' : List Section) : Prop :=
  ∀ (i : Nat) (s : Section), rows[i]? = some s → ∃ s', rows'[i]? = some s' ∧ GrowsTo s s'

/-- A row is that of the innermost open heading. -/
structure IsRowOf (r : Reducer) (s : Section) : Prop where
  top : r.stack.head? = some (s.level, s.id)
  path : s.path = "/".intercalate (r.stack.reverse.map (·.2))
  parentId : s.parentId = (r.stack.tail.head?.map (·.2)).getD ""
  title : s.title = r.title
  content : s.content = r.content

theorem growsTo_refl (s : Section) : GrowsTo s s :=
  Or.inl rfl

theorem GrowsTo.trans {s s' s'' : Section} (h : GrowsTo s s') (h' : GrowsTo s' s'') :
    GrowsTo s s'' := by
  rcases h with rfl | ⟨hpreamble, text, rfl⟩
  · exact h'
  · rcases h' with rfl | ⟨-, text', rfl⟩
    · exact Or.inr ⟨hpreamble, text, rfl⟩
    · refine Or.inr ⟨hpreamble, text ++ text', ?_⟩
      rw [String.append_assoc]

theorem growsTo_appendLoose (text : String) (s : Section) : GrowsTo s (appendLoose text s) := by
  unfold appendLoose
  by_cases hpreamble : isPreamble s = true
  · rw [if_pos hpreamble]
    exact Or.inr ⟨hpreamble, text, rfl⟩
  · rw [if_neg hpreamble]
    exact Or.inl rfl

/-- A row of a heading does not grow. -/
theorem GrowsTo.eq_of_level_pos {s s' : Section} (h : GrowsTo s s') (hlevel : 0 < s'.level) :
    s' = s := by
  rcases h with heq | ⟨hpreamble, text, rfl⟩
  · exact heq
  · -- the preamble has level 0
    have hzero : s.level = 0 := by
      rw [isPreamble, Bool.and_eq_true, beq_iff_eq] at hpreamble
      exact hpreamble.1
    change 0 < s.level at hlevel
    omega

theorem Keeps.trans {a b c : List Section} (hab : Keeps a b) (hbc : Keeps b c) : Keeps a c := by
  intro i s hs
  obtain ⟨s', hs', hgrown⟩ := hab i s hs
  obtain ⟨s'', hs'', hgrown'⟩ := hbc i s' hs'
  exact ⟨s'', hs'', hgrown.trans hgrown'⟩

theorem keeps_append (rows added : List Section) : Keeps rows (rows ++ added) := by
  intro i s hs
  obtain ⟨hi, -⟩ := List.getElem?_eq_some_iff.mp hs
  exact ⟨s, by rw [List.getElem?_append_left hi, hs], growsTo_refl s⟩

theorem keeps_refl (rows : List Section) : Keeps rows rows := fun _ s hs =>
  ⟨s, hs, growsTo_refl s⟩

theorem keeps_map_appendLoose (text : String) (rows : List Section) :
    Keeps rows (rows.map (appendLoose text)) := by
  intro i s hs
  exact ⟨appendLoose text s, by rw [List.getElem?_map, hs]; rfl, growsTo_appendLoose text s⟩

/-- The rows behind a step from a state: the rows of the state are kept, and a heading row among the
added ones is that of the innermost open heading. -/
structure Emits (r : Reducer) (rows : List Section) : Prop where
  keeps : Keeps r.sections rows
  isRowOf : ∀ (i : Nat) (s : Section), rows[i]? = some s → r.sections.length ≤ i → 0 < s.level →
    IsRowOf r s

theorem emits_refl (r : Reducer) : Emits r r.sections := by
  refine ⟨keeps_refl r.sections, fun i s hs hi => ?_⟩
  rw [List.getElem?_eq_none hi] at hs
  cases hs

/-- Rows behind the last one, none of which is a heading's. -/
theorem Emits.append {r : Reducer} {rows added : List Section} (h : Emits r rows)
    (hadded : ∀ s ∈ added, s.level = 0) : Emits r (rows ++ added) := by
  refine ⟨h.keeps.trans (keeps_append rows added), fun i s hs hi hlevel => ?_⟩
  by_cases hold : i < rows.length
  · rw [List.getElem?_append_left hold] at hs
    exact h.isRowOf i s hs hi hlevel
  · rw [List.getElem?_append_right (Nat.le_of_not_lt hold)] at hs
    have hzero := hadded s (List.mem_of_getElem? hs)
    omega

theorem IsConsistent.isRowOf_openRow {r : Reducer} (h : IsConsistent r) (hopen : r.level ≠ 0) :
    IsRowOf r r.openRow := by
  rcases h.top with hzero | ⟨-, hhead⟩
  · exact absurd hzero hopen
  · refine ⟨hhead, rfl, ?_, rfl, rfl⟩
    -- the stack is not empty, so its tail is what stands around the innermost heading
    cases hstack : r.stack with
    | nil =>
        rw [hstack] at hhead
        cases hhead
    | cons m around => exact Grouping.parentId_of_stack hstack

theorem IsConsistent.emits_flush {r : Reducer} (h : IsConsistent r) : Emits r r.flush.sections := by
  rcases flush_cases r with hflush | ⟨-, hflush⟩ | ⟨hopen, hflush⟩
  · rw [hflush]
    exact emits_refl r
  · rw [hflush]
    rcases sections_addPreamble r r.content with ⟨-, hrows⟩ | hrows
    · rw [hrows]
      refine (emits_refl r).append fun s hs => ?_
      rw [List.mem_singleton.mp hs]
      rfl
    · -- no row is added
      rw [hrows]
      refine ⟨keeps_map_appendLoose r.content r.sections, fun i s hs hi => ?_⟩
      rw [List.getElem?_eq_none (by rwa [List.length_map])] at hs
      cases hs
  · rw [hflush]
    refine ⟨keeps_append r.sections [r.openRow], fun i s hs hi hlevel => ?_⟩
    rw [List.getElem?_append_right hi] at hs
    rw [List.mem_singleton.mp (List.mem_of_getElem? hs)]
    exact h.isRowOf_openRow hopen

/-- What a step from a consistent state makes of the rows. -/
theorem IsConsistent.emits_step {r : Reducer} (h : IsConsistent r) (codec : Codec)
    (t : Transition) : Emits r (Reducer.step codec r t).sections := by
  rcases step_cases codec r t with ⟨level, title, wanted, -, -, hstep⟩ | ⟨content, hstep⟩ |
    hstep | hstep | ⟨text, hstep⟩
  · rw [hstep]
    exact h.emits_flush
  · -- the row of metadata comes behind the row of the section that it closes
    rw [hstep]
    refine h.emits_flush.append fun s hs => ?_
    rw [List.mem_singleton.mp hs]
    rfl
  · rw [hstep]
    exact h.emits_flush
  · rw [hstep]
    exact h.emits_flush
  · rw [hstep]
    exact emits_refl r

/-- A longer run keeps the rows of a shorter one. -/
theorem keeps_run_append (codec : Codec) (front back : List Transition) :
    Keeps (run codec front).sections (run codec (front ++ back)).sections := by
  induction back using List.reverseRecOn with
  | nil =>
      rw [List.append_nil]
      exact keeps_refl _
  | append_singleton back t ih =>
      have hstep := (isConsistent_run codec (front ++ back)).emits_step codec t
      rw [← List.append_assoc, run_append codec (front ++ back)]
      exact ih.trans hstep.keeps

/-- The row of a heading was added in the course of the run, as the row of what was then the innermost
open heading. -/
theorem exists_isRowOf_of_run (codec : Codec) (ts : List Transition) {i : Nat} {s : Section}
    (hs : (run codec ts).sections[i]? = some s) (hlevel : 0 < s.level) :
    ∃ front t back, ts = front ++ t :: back ∧ (run codec front).sections.length ≤ i ∧
      (run codec (front ++ [t])).sections[i]? = some s ∧ IsRowOf (run codec front) s := by
  induction ts using List.reverseRecOn with
  | nil => cases hs
  | append_singleton ts t ih =>
      have hstep := (isConsistent_run codec ts).emits_step codec t
      have hrun : run codec (ts ++ [t]) = Reducer.step codec (run codec ts) t :=
        run_append codec ts [t]
      by_cases hi : (run codec ts).sections.length ≤ i
      · -- the last step added the row
        refine ⟨ts, t, [], rfl, hi, hs, ?_⟩
        rw [hrun] at hs
        exact hstep.isRowOf i s hs hi hlevel
      · -- the row was there before the last step, and unchanged
        obtain ⟨s', hs'⟩ : ∃ s', (run codec ts).sections[i]? = some s' :=
          ⟨_, List.getElem?_eq_getElem (Nat.lt_of_not_le hi)⟩
        obtain ⟨s'', hs'', hgrown⟩ := hstep.keeps i s' hs'
        rw [hrun, hs''] at hs
        obtain rfl := Option.some.inj hs
        obtain rfl := hgrown.eq_of_level_pos hlevel
        obtain ⟨front, t', back, rfl, hfront, hadded, hrow⟩ := ih hs'
        exact ⟨front, t', back ++ [t], by simp, hfront, hadded, hrow⟩

/-- **Runs of transitions.** Behind every run, in any order and with any elements, the state is
consistent and at most six headings are open. Each heading row was added by one step of the run as the
row of the heading that was innermost in front of the step: its path joins the ids of the open
headings, and its parent is the heading around it. Every row stays in its place from the step on that
adds it, and only the preamble changes, by text at the end of its content. -/
theorem run_isConsistent_and_keeps (codec : Codec) (ts : List Transition) :
    IsConsistent (run codec ts) ∧ (run codec ts).stack.length ≤ 6 ∧
      (∀ (i : Nat) (s : Section), (run codec ts).sections[i]? = some s → 0 < s.level →
        ∃ front t back, ts = front ++ t :: back ∧ (run codec front).sections.length ≤ i ∧
          (run codec (front ++ [t])).sections[i]? = some s ∧ IsRowOf (run codec front) s) ∧
      ∀ front back, ts = front ++ back →
        Keeps (run codec front).sections (run codec ts).sections := by
  have hconsistent := isConsistent_run codec ts
  refine ⟨hconsistent, hconsistent.length_stack_le, fun i s hs hlevel => ?_, ?_⟩
  · exact exists_isRowOf_of_run codec ts hs hlevel
  · rintro front back rfl
    exact keeps_run_append codec front back

end MarkdownSections.Reducer
