import Mathlib.Data.List.Nodup
import MarkdownSections.Settings.Read

/-!
# Checked settings

What a field of the settings takes is said by `Field.Reads`: how a value is read, and the bounds
that it keeps. Checking a record has one of three results (`ofEntries_cases`). Every field is read and
the levels are in order: then these settings are the result. Or only the levels are out of order, which
is one issue without a place. Or some fields refuse what they are given, with one issue for each of
them in the order of the fields (`exists_mem_fieldIssues_iff`).
-/

set_option autoImplicit false

namespace MarkdownSections

namespace Checked

variable {α β : Type}

/-- A check of a value that may be left out: the default stands in for it. -/
def ofOption (default : α) (check : β → Checked α) : Option β → Checked α
  | none => .ok default
  | some v => check v

theorem optional_eq_ofOption (entries : List (String × β)) (name : String) (default : α)
    (check : β → Checked α) :
    Checked.optional entries name default check =
      ofOption default check (entries.lookup name) := by
  unfold Checked.optional
  split
  · next h =>
      rw [h]
      rfl
  · next v h =>
      rw [h]
      rfl

theorem mem_issues_iff {name : String} {x : Checked α} {issue : Issue} :
    issue ∈ x.issues name ↔ ∃ cause, x = .error cause ∧ issue = ⟨[.field name], cause⟩ := by
  cases x with
  | ok a =>
      constructor
      · intro h
        cases h
      · rintro ⟨cause, h, -⟩
        cases h
  | error cause => simp [issues]

/-- A bound on what was read lets through what keeps it. -/
theorem eq_ok_of_bound_iff {x : Checked Int} {p : Int → Prop} [DecidablePred p] {cause : Cause}
    {i : Int} :
    (do let j ← x; if p j then throw cause else return j) = Except.ok i ↔ x = .ok i ∧ ¬p i := by
  cases x with
  | error c => simp [bind, Except.bind]
  | ok j =>
      change (if p j then .error cause else .ok j) = Except.ok i ↔ _
      by_cases h : p j
      · rw [if_pos h]
        constructor
        · intro hok
          cases hok
        · rintro ⟨hj, hi⟩
          cases hj
          exact absurd h hi
      · rw [if_neg h]
        constructor
        · intro hok
          cases hok
          exact ⟨rfl, h⟩
        · exact And.left

end Checked

theorem ContentMode.ofName?_eq_some_iff {name : String} {mode : ContentMode} :
    ContentMode.ofName? name = some mode ↔ name = mode.name := by
  constructor
  · intro h
    have hname := List.find?_some h
    exact (beq_iff_eq.mp hname).symm
  · rintro rfl
    cases mode with
    | minimal => rfl
    | full => rfl
    | smart => rfl

namespace Settings

/-! ## Fields -/

/-- The fields of the settings. -/
inductive Field where
  | appName | preset | minLevel | maxLevel | includeContent | mode | maxContentLength | blankLines
  | logLevel
deriving DecidableEq, Repr

namespace Field

/-- The name of a field. -/
def name : Field → String
  | appName => "app_name"
  | preset => "parser_config"
  | minLevel => "min_level"
  | maxLevel => "max_level"
  | includeContent => "include_content"
  | mode => "content_mode"
  | maxContentLength => "max_content_length"
  | blankLines => "blank_lines"
  | logLevel => "log_level"

/-- The fields in the order of the type. -/
def all : List Field :=
  [appName, preset, minLevel, maxLevel, includeContent, mode, maxContentLength, blankLines, logLevel]

theorem mem_all (field : Field) : field ∈ all := by
  cases field <;> decide

theorem name_mem_fieldNames (field : Field) : field.name ∈ fieldNames :=
  List.mem_map_of_mem (f := name) (mem_all field)

theorem name_inj {a b : Field} : a.name = b.name ↔ a = b :=
  ⟨fun h => List.inj_on_of_nodup_map (by decide : (all.map name).Nodup) (mem_all a) (mem_all b) h,
    congrArg name⟩

/-- What a field holds. -/
def Value : Field → Type
  | appName | preset | logLevel => String
  | minLevel | maxLevel | maxContentLength | blankLines => Int
  | includeContent => Bool
  | mode => ContentMode

/-- What settings hold in a field. -/
def get (s : Settings) : (field : Field) → field.Value
  | appName => s.appName
  | preset => s.preset
  | minLevel => s.minLevel
  | maxLevel => s.maxLevel
  | includeContent => s.includeContent
  | mode => s.mode
  | maxContentLength => s.maxContentLength
  | blankLines => s.blankLines
  | logLevel => s.logLevel

/-- What a value is read as by a field that takes it. -/
def Reads (v : Loose) : (field : Field) → field.Value → Prop
  | appName | preset | logLevel => fun (text : String) => v.toText = .ok text
  | minLevel | maxLevel => fun (i : Int) => v.toInt = .ok i ∧ 1 ≤ i ∧ i ≤ 6
  | includeContent => fun (b : Bool) => v.toBool = .ok b
  | mode => fun (m : ContentMode) => v = .text m.name
  | maxContentLength => fun (i : Int) => v.toInt = .ok i ∧ 1 ≤ i
  | blankLines => fun (i : Int) => v.toInt = .ok i ∧ 0 ≤ i

/-- The check of a field. -/
def check : (field : Field) → Loose → Checked field.Value
  | appName | preset | logLevel => Loose.toText
  | minLevel | maxLevel => readLevel
  | includeContent => Loose.toBool
  | mode => readMode
  | maxContentLength => readAtLeast 1
  | blankLines => readAtLeast 0

/-- The check of what is given for a field, if anything is. -/
def checked (given : Option Loose) (field : Field) : Checked field.Value :=
  .ofOption (field.get {}) field.check given

/-- Settings hold in a field what the given value is read as, or else the default. -/
def Fits (s : Settings) (given : Option Loose) (field : Field) : Prop :=
  (∀ v, given = some v → field.Reads v (field.get s)) ∧ (given = none → field.get s = field.get {})

/-- The given value is read as nothing. -/
def Refuses (given : Option Loose) (field : Field) : Prop :=
  ∃ v, given = some v ∧ ∀ a, ¬field.Reads v a

end Field

/-! ## Checks -/

theorem readAtLeast_eq_ok_iff {least i : Int} {v : Loose} :
    readAtLeast least v = .ok i ↔ v.toInt = .ok i ∧ least ≤ i := by
  rw [← Int.not_lt]
  exact Checked.eq_ok_of_bound_iff

theorem readLevel_eq_ok_iff {i : Int} {v : Loose} :
    readLevel v = .ok i ↔ v.toInt = .ok i ∧ 1 ≤ i ∧ i ≤ 6 := by
  rw [← and_assoc, ← readAtLeast_eq_ok_iff, ← Int.not_lt]
  exact Checked.eq_ok_of_bound_iff

theorem readMode_eq_ok_iff {mode : ContentMode} {v : Loose} :
    readMode v = .ok mode ↔ v = .text mode.name := by
  cases v with
  | text name =>
      -- A name is read exactly if it is the name of the mode, so both sides speak of the name
      -- alone.
      rw [Loose.text.injEq, ← ContentMode.ofName?_eq_some_iff]
      unfold readMode Loose.toText
      dsimp only [bind, Except.bind]
      cases ContentMode.ofName? name with
      | none => simp
      | some mode' =>
          exact ⟨fun h => congrArg some (Except.ok.inj h),
            fun h => congrArg Except.ok (Option.some.inj h)⟩
  | null | bool | int | float | brokenText | garbled | other =>
      constructor
      · intro h
        cases h
      · intro h
        cases h

namespace Field

theorem check_eq_ok_iff {v : Loose} (field : Field) {a : field.Value} :
    field.check v = .ok a ↔ field.Reads v a := by
  cases field with
  | appName | preset | includeContent | logLevel => exact Iff.rfl
  | minLevel | maxLevel => exact readLevel_eq_ok_iff
  | mode => exact readMode_eq_ok_iff
  | maxContentLength | blankLines => exact readAtLeast_eq_ok_iff

theorem checked_eq_ok_iff {given : Option Loose} (field : Field) {s : Settings} :
    field.checked given = .ok (field.get s) ↔ field.Fits s given := by
  cases given with
  | none =>
      constructor
      · intro h
        exact ⟨fun v hv => (Option.some_ne_none v hv.symm).elim, fun _ => (Except.ok.inj h).symm⟩
      · intro h
        exact congrArg Except.ok (h.2 rfl).symm
  | some v =>
      rw [Fits]
      simp only [Option.some.injEq, forall_eq', reduceCtorEq, false_implies, and_true]
      exact field.check_eq_ok_iff

theorem refuses_iff {given : Option Loose} (field : Field) :
    field.Refuses given ↔ ∃ cause, field.checked given = .error cause := by
  constructor
  · rintro ⟨v, rfl, hnone⟩
    cases hcheck : field.check v with
    | ok a => exact absurd (field.check_eq_ok_iff.mp hcheck) (hnone a)
    | error cause => exact ⟨cause, hcheck⟩
  · rintro ⟨cause, hchecked⟩
    cases given with
    | none => cases hchecked
    | some v =>
        refine ⟨v, rfl, fun a hread => ?_⟩
        have hcheck : field.check v = .error cause := hchecked
        rw [field.check_eq_ok_iff.mpr hread] at hcheck
        cases hcheck

theorem exists_checked_of_not_refuses {given : Option Loose} (field : Field)
    (h : ¬field.Refuses given) : ∃ a, field.checked given = .ok a := by
  cases hchecked : field.checked given with
  | ok a => exact ⟨a, rfl⟩
  | error cause => exact absurd (field.refuses_iff.mpr ⟨cause, hchecked⟩) h

theorem Fits.not_refuses {s : Settings} {given : Option Loose} {field : Field}
    (h : field.Fits s given) : ¬field.Refuses given := by
  rintro ⟨v, hgiven, hnone⟩
  exact hnone _ (h.1 v hgiven)

/-- Settings are what they hold in their fields. -/
theorem eq_of_get_eq {s t : Settings} (h : ∀ field : Field, field.get s = field.get t) : s = t := by
  obtain ⟨sName, sPreset, sMin, sMax, sInclude, sMode, sLength, sBlank, sLog⟩ := s
  obtain ⟨tName, tPreset, tMin, tMax, tInclude, tMode, tLength, tBlank, tLog⟩ := t
  obtain rfl : sName = tName := h .appName
  obtain rfl : sPreset = tPreset := h .preset
  obtain rfl : sMin = tMin := h .minLevel
  obtain rfl : sMax = tMax := h .maxLevel
  obtain rfl : sInclude = tInclude := h .includeContent
  obtain rfl : sMode = tMode := h .mode
  obtain rfl : sLength = tLength := h .maxContentLength
  obtain rfl : sBlank = tBlank := h .blankLines
  obtain rfl : sLog = tLog := h .logLevel
  rfl

/-- What is given for every field leaves room for one settings only. -/
theorem eq_of_fits {given : Field → Option Loose} {s t : Settings}
    (hs : ∀ field : Field, field.Fits s (given field))
    (ht : ∀ field : Field, field.Fits t (given field)) : s = t :=
  eq_of_get_eq fun field => Except.ok.inj
    ((field.checked_eq_ok_iff.mpr (hs field)).symm.trans (field.checked_eq_ok_iff.mpr (ht field)))

end Field

/-! ## Records -/

section Records

variable (entries : List (String × Loose))

/-- The issues of all fields of a record. -/
def fieldIssues : List Issue :=
  Field.all.flatMap fun field => (field.checked (entries.lookup field.name)).issues field.name

theorem mem_fieldIssues_iff {issue : Issue} :
    issue ∈ fieldIssues entries ↔ ∃ (field : Field) (cause : Cause),
      field.checked (entries.lookup field.name) = .error cause ∧
        issue = ⟨[.field field.name], cause⟩ := by
  simp only [fieldIssues, List.mem_flatMap, Checked.mem_issues_iff, Field.mem_all, true_and]

/-- The issues of a record are about the fields that refuse their values. -/
theorem exists_mem_fieldIssues_iff {field : Field} :
    (∃ cause, (⟨[.field field.name], cause⟩ : Issue) ∈ fieldIssues entries) ↔
      field.Refuses (entries.lookup field.name) := by
  simp only [field.refuses_iff, mem_fieldIssues_iff]
  constructor
  · rintro ⟨cause, field', cause', hchecked, hissue⟩
    simp only [Issue.mk.injEq, List.cons.injEq, Step.field.injEq, Field.name_inj, and_true]
      at hissue
    obtain ⟨rfl, rfl⟩ := hissue
    exact ⟨cause, hchecked⟩
  · rintro ⟨cause, hchecked⟩
    exact ⟨cause, field, cause, hchecked, rfl⟩

/-- What checking a record gives. -/
theorem ofEntries_cases :
    (∃ s, (∀ field : Field, field.Fits s (entries.lookup field.name)) ∧
      ofEntries entries = if s.maxLevel < s.minLevel then .error [⟨[], .unsound⟩] else .ok s) ∨
    ((∃ field : Field, field.Refuses (entries.lookup field.name)) ∧
      ofEntries entries = .error (fieldIssues entries)) := by
  unfold ofEntries
  simp only [Checked.optional_eq_ofOption]
  split
  · next appName preset minLevel maxLevel includeContent mode maxContentLength blankLines logLevel
      happ hpreset hmin hmax hinclude hmode hlength hblank hlog =>
    left
    refine ⟨{ appName, preset, minLevel, maxLevel, includeContent, mode, maxContentLength
              blankLines, logLevel }, fun field => field.checked_eq_ok_iff.mp ?_, rfl⟩
    cases field with
    | appName => exact happ
    | preset => exact hpreset
    | minLevel => exact hmin
    | maxLevel => exact hmax
    | includeContent => exact hinclude
    | mode => exact hmode
    | maxContentLength => exact hlength
    | blankLines => exact hblank
    | logLevel => exact hlog
  · next hrefused =>
    right
    constructor
    · -- If no field refused its entry, each would be read, and the first case would have applied.
      by_contra hnone
      have hread : ∀ field : Field, ∃ a, field.checked (entries.lookup field.name) = .ok a :=
        fun field => field.exists_checked_of_not_refuses fun h => hnone ⟨field, h⟩
      obtain ⟨_, happ⟩ := hread .appName
      obtain ⟨_, hpreset⟩ := hread .preset
      obtain ⟨_, hmin⟩ := hread .minLevel
      obtain ⟨_, hmax⟩ := hread .maxLevel
      obtain ⟨_, hinclude⟩ := hread .includeContent
      obtain ⟨_, hmode⟩ := hread .mode
      obtain ⟨_, hlength⟩ := hread .maxContentLength
      obtain ⟨_, hblank⟩ := hread .blankLines
      obtain ⟨_, hlog⟩ := hread .logLevel
      exact hrefused _ _ _ _ _ _ _ _ _ happ hpreset hmin hmax hinclude hmode hlength hblank hlog
    · refine congrArg Except.error ?_
      simp only [fieldIssues, Field.all, List.flatMap_cons, List.flatMap_nil, List.append_nil,
        List.append_assoc]
      rfl

end Records

end Settings

end MarkdownSections
