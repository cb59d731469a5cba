import MarkdownSections.Proofs.Section.Rows
import MarkdownSections.Proofs.Settings.Checks
import MarkdownSections.Settings.Load

/-!
# Layers of settings

What a field is given is decided for that field alone (`Takes`): by an override that is not null,
else by an environment variable that is not empty, else by the settings file. Loading succeeds exactly
if each field reads what it is given and the levels are in order, and otherwise names the fields that
refuse what they are given (`load_by_field`). The settings that are loaded pass the checks of the
section rows, so that every well-headed document has its rows under them.
-/

set_option autoImplicit false

namespace MarkdownSections

namespace Settings

section Layers

variable {values : List (String × Loose)} {environment : List (String × String)}
  {overrides : List (String × Loose)}

/-! ## What a field is given -/

/-- No override counts for a field. -/
def NotOverridden (overrides : List (String × Loose)) (field : String) : Prop :=
  ∀ v, overrides.lookup field = some v → v = .null

/-- No environment variable counts for a field. -/
def NotInEnvironment (environment : List (String × String)) (field : String) : Prop :=
  ∀ text, environment.lookup (variableName field) = some text → text = ""

/-- What a field is given, if anything is, by the entries of the settings file, the environment and
the overrides. -/
inductive Takes (values : List (String × Loose)) (environment : List (String × String))
    (overrides : List (String × Loose)) (field : String) : Option Loose → Prop where
  | fromOverride (v : Loose) (hlookup : overrides.lookup field = some v) (hnull : v ≠ .null) :
      Takes values environment overrides field (some v)
  | fromEnvironment (text : String) (hover : NotOverridden overrides field)
      (hlookup : environment.lookup (variableName field) = some text) (hempty : text ≠ "") :
      Takes values environment overrides field (some (.text text))
  | fromFile (v : Loose) (hover : NotOverridden overrides field)
      (henv : NotInEnvironment environment field) (hlookup : values.lookup field = some v) :
      Takes values environment overrides field (some v)
  | fromNowhere (hover : NotOverridden overrides field)
      (henv : NotInEnvironment environment field) (hlookup : values.lookup field = none) :
      Takes values environment overrides field none

theorem overrideValue?_eq_some_iff {field : String} {v : Loose} :
    overrideValue? overrides field = some v ↔ overrides.lookup field = some v ∧ v ≠ .null := by
  unfold overrideValue?
  split
  · next h => simp [h]
  · next h =>
      rw [h, Option.some.injEq]
      constructor
      · intro hv
        cases hv
      · rintro ⟨rfl, hnull⟩
        exact absurd rfl hnull
  · next w hnull h =>
      rw [h, Option.some.injEq]
      constructor
      · rintro rfl
        exact ⟨rfl, hnull⟩
      · exact And.left

theorem overrideValue?_eq_none_iff {field : String} :
    overrideValue? overrides field = none ↔ NotOverridden overrides field := by
  rw [Option.eq_none_iff_forall_ne_some]
  simp only [ne_eq, overrideValue?_eq_some_iff, not_and, not_not]
  rfl

theorem environmentValue?_eq_some_iff {field : String} {v : Loose} :
    environmentValue? environment field = some v ↔
      ∃ text, environment.lookup (variableName field) = some text ∧ text ≠ "" ∧ v = .text text := by
  unfold environmentValue?
  cases environment.lookup (variableName field) with
  | none => simp
  | some text =>
      simp only [String.isEmpty_iff, Option.some.injEq, exists_eq_left']
      by_cases hempty : text = ""
      · simp [hempty]
      · rw [if_neg hempty, Option.some.injEq]
        exact ⟨fun h => ⟨hempty, h.symm⟩, fun h => h.2.symm⟩

theorem environmentValue?_eq_none_iff {field : String} :
    environmentValue? environment field = none ↔ NotInEnvironment environment field := by
  rw [Option.eq_none_iff_forall_ne_some]
  simp only [ne_eq, environmentValue?_eq_some_iff]
  constructor
  · intro hnone text hlookup
    by_contra hempty
    exact hnone _ ⟨text, hlookup, hempty, rfl⟩
  · rintro hnot v ⟨text, hlookup, hempty, -⟩
    exact hempty (hnot text hlookup)

theorem takes_chosen? (values : List (String × Loose)) (environment : List (String × String))
    (overrides : List (String × Loose)) (field : String) :
    Takes values environment overrides field (chosen? values environment overrides field) := by
  unfold chosen?
  -- layer by layer, from the overrides down; a lower one counts only if those above give nothing
  cases hoverride : overrideValue? overrides field with
  | some v =>
      obtain ⟨hlookup, hnull⟩ := overrideValue?_eq_some_iff.mp hoverride
      exact .fromOverride v hlookup hnull
  | none =>
      have hover := overrideValue?_eq_none_iff.mp hoverride
      cases henvironment : environmentValue? environment field with
      | some v =>
          obtain ⟨text, hlookup, hempty, rfl⟩ := environmentValue?_eq_some_iff.mp henvironment
          exact .fromEnvironment text hover hlookup hempty
      | none =>
          have henv := environmentValue?_eq_none_iff.mp henvironment
          cases hlookup : values.lookup field with
          | some v => exact .fromFile v hover henv hlookup
          | none => exact .fromNowhere hover henv hlookup

/-- A field is given one thing only, the chosen one. -/
theorem takes_iff {field : String} {given : Option Loose} :
    Takes values environment overrides field given ↔
      given = chosen? values environment overrides field := by
  constructor
  · intro h
    unfold chosen?
    cases h with
    | fromOverride v hlookup hnull =>
        rw [overrideValue?_eq_some_iff.mpr ⟨hlookup, hnull⟩]
        rfl
    | fromEnvironment text hover hlookup hempty =>
        rw [overrideValue?_eq_none_iff.mpr hover,
          environmentValue?_eq_some_iff.mpr ⟨text, hlookup, hempty, rfl⟩]
        rfl
    | fromFile v hover henv hlookup =>
        rw [overrideValue?_eq_none_iff.mpr hover, environmentValue?_eq_none_iff.mpr henv, hlookup]
        rfl
    | fromNowhere hover henv hlookup =>
        rw [overrideValue?_eq_none_iff.mpr hover, environmentValue?_eq_none_iff.mpr henv, hlookup]
        rfl
  · rintro rfl
    exact takes_chosen? values environment overrides field

/-! ## Loading -/

/-- Looking up a name among those that are given a value. -/
theorem lookup_filterMap {α β : Type} [DecidableEq α] (given : α → Option β) (name : α)
    (names : List α) :
    (names.filterMap fun x => (given x).map (x, ·)).lookup name =
      if name ∈ names then given name else none := by
  induction names with
  | nil => rfl
  | cons x names ih =>
      by_cases hname : name = x
      · subst hname
        rw [if_pos List.mem_cons_self]
        cases hgiven : given name with
        | some v => simp [hgiven]
        | none =>
            -- a later copy of the name is not given a value either
            rw [List.filterMap_cons_none (by rw [hgiven]; rfl), ih, hgiven, ite_self]
      · have hbehind : ((x :: names).filterMap fun x => (given x).map (x, ·)).lookup name =
            (names.filterMap fun x => (given x).map (x, ·)).lookup name := by
          cases hgiven : given x with
          | some v => simp [hgiven, List.lookup_cons, beq_false_of_ne hname]
          | none => simp [hgiven]
        rw [hbehind, ih]
        simp [hname]

variable (values environment overrides) in
/-- The chosen entries, in the order of the fields. -/
def chosenEntries : List (String × Loose) :=
  fieldNames.filterMap fun field => (chosen? values environment overrides field).map (field, ·)

theorem lookup_chosenEntries (field : Field) :
    (chosenEntries values environment overrides).lookup field.name =
      chosen? values environment overrides field.name := by
  rw [chosenEntries, lookup_filterMap, if_pos field.name_mem_fieldNames]

section Outcomes

variable {f : Files} (hfile : FileContent.ofFiles f = .ok (.entries values))

include hfile

theorem load_eq :
    load f environment overrides =
      (ofEntries (chosenEntries values environment overrides)).mapError SettingsError.refused := by
  unfold load chosenEntries
  rw [hfile]
  dsimp only [bind, Except.bind]
  cases ofEntries _ with
  | ok s => rfl
  | error issues => rfl

variable (environment overrides)

/-- What loading gives when the settings file holds a record. -/
theorem load_cases :
    (∃ s, (∀ field : Field, field.Fits s (chosen? values environment overrides field.name)) ∧
      s.minLevel ≤ s.maxLevel ∧ load f environment overrides = .ok s) ∨
    (∃ s, (∀ field : Field, field.Fits s (chosen? values environment overrides field.name)) ∧
      s.maxLevel < s.minLevel ∧
      load f environment overrides = .error (.refused [⟨[], .unsound⟩])) ∨
    ((∃ field : Field, field.Refuses (chosen? values environment overrides field.name)) ∧
      load f environment overrides =
        .error (.refused (fieldIssues (chosenEntries values environment overrides)))) := by
  have hcases := ofEntries_cases (chosenEntries values environment overrides)
  simp only [lookup_chosenEntries] at hcases
  rcases hcases with ⟨s, hfits, hs⟩ | ⟨hrefuses, hissues⟩
  · by_cases hlevels : s.maxLevel < s.minLevel
    · rw [if_pos hlevels] at hs
      exact .inr (.inl ⟨s, hfits, hlevels, by rw [load_eq hfile, hs]; rfl⟩)
    · rw [if_neg hlevels] at hs
      exact .inl ⟨s, hfits, Int.not_lt.mp hlevels, by rw [load_eq hfile, hs]; rfl⟩
  · exact .inr (.inr ⟨hrefuses, by rw [load_eq hfile, hissues]; rfl⟩)

theorem load_eq_ok_iff {s : Settings} :
    load f environment overrides = .ok s ↔
      (∀ field : Field, field.Fits s (chosen? values environment overrides field.name)) ∧
        s.minLevel ≤ s.maxLevel := by
  -- the settings whose fields fit what is given are the only ones
  rcases load_cases environment overrides hfile with
    ⟨t, hfits, hlevels, hload⟩ | ⟨t, hfits, hlevels, hload⟩ | ⟨⟨field, hrefuses⟩, hload⟩
  · rw [hload]
    constructor
    · rintro ⟨⟩
      exact ⟨hfits, hlevels⟩
    · rintro ⟨hs, -⟩
      exact congrArg Except.ok (Field.eq_of_fits hfits hs)
  · rw [hload]
    constructor
    · rintro ⟨⟩
    · rintro ⟨hs, hle⟩
      obtain rfl := Field.eq_of_fits hfits hs
      exact absurd hlevels (Int.not_lt.mpr hle)
  · rw [hload]
    constructor
    · rintro ⟨⟩
    · rintro ⟨hs, -⟩
      exact absurd hrefuses (hs field).not_refuses

theorem exists_load_eq_error_iff :
    (∃ e, load f environment overrides = .error e) ↔
      (∃ field : Field, field.Refuses (chosen? values environment overrides field.name)) ∨
        ∃ s, (∀ field : Field, field.Fits s (chosen? values environment overrides field.name)) ∧
          s.maxLevel < s.minLevel := by
  rcases load_cases environment overrides hfile with
    ⟨t, hfits, hlevels, hload⟩ | ⟨t, hfits, hlevels, hload⟩ | ⟨hrefuses, hload⟩
  · constructor
    · rintro ⟨e, he⟩
      rw [hload] at he
      cases he
    · rintro (⟨field, hrefuses⟩ | ⟨s, hs, hlt⟩)
      · exact absurd hrefuses (hfits field).not_refuses
      · obtain rfl := Field.eq_of_fits hfits hs
        exact absurd hlt (Int.not_lt.mpr hlevels)
  · exact ⟨fun _ => .inr ⟨t, hfits, hlevels⟩, fun _ => ⟨_, hload⟩⟩
  · exact ⟨fun _ => .inl hrefuses, fun _ => ⟨_, hload⟩⟩

/-- An error of loading is a refusal, which says what fields refuse what they are given. -/
theorem refused_of_load {e : SettingsError} (he : load f environment overrides = .error e) :
    ∃ issues, e = .refused issues ∧
      ∀ field : Field, (∃ cause, (⟨[.field field.name], cause⟩ : Issue) ∈ issues) ↔
        field.Refuses (chosen? values environment overrides field.name) := by
  rcases load_cases environment overrides hfile with
    ⟨t, -, -, hload⟩ | ⟨t, hfits, -, hload⟩ | ⟨-, hload⟩
  · rw [hload] at he
    cases he
  · rw [hload] at he
    cases he
    refine ⟨_, rfl, fun field => ⟨?_, fun hrefuses => ?_⟩⟩
    · -- the issue of the levels has no place
      rintro ⟨cause, hmem⟩
      cases List.mem_singleton.mp hmem
    · exact absurd hrefuses (hfits field).not_refuses
  · rw [hload] at he
    cases he
    refine ⟨_, rfl, fun field => ?_⟩
    rw [exists_mem_fieldIssues_iff, lookup_chosenEntries]

end Outcomes

end Layers

/-! ## What is loaded -/

/-- The bounds of the settings. -/
structure InBounds (s : Settings) : Prop where
  one_le_minLevel : 1 ≤ s.minLevel
  minLevel_le_maxLevel : s.minLevel ≤ s.maxLevel
  maxLevel_le_six : s.maxLevel ≤ 6
  mode_mem : s.mode.name ∈ ["minimal", "full", "smart"]
  one_le_maxContentLength : 1 ≤ s.maxContentLength
  zero_le_blankLines : 0 ≤ s.blankLines

theorem inBounds_default : InBounds {} :=
  ⟨by decide, by decide, by decide, by decide, by decide, by decide⟩

/-- What the default and every value that is read have in common is true of the field. -/
theorem Field.Fits.elim {s : Settings} {given : Option Loose} {field : Field}
    (h : field.Fits s given) {p : field.Value → Prop} (hdefault : p (field.get {}))
    (hread : ∀ v a, field.Reads v a → p a) : p (field.get s) := by
  cases given with
  | none => exact h.2 rfl ▸ hdefault
  | some v => exact hread v _ (h.1 v rfl)

theorem inBounds_of_fits {given : Field → Option Loose} {s : Settings}
    (h : ∀ field : Field, field.Fits s (given field)) (hlevels : s.minLevel ≤ s.maxLevel) :
    s.InBounds where
  one_le_minLevel := (h .minLevel).elim (p := fun i : Int => 1 ≤ i)
    inBounds_default.one_le_minLevel fun _ _ hread => hread.2.1
  minLevel_le_maxLevel := hlevels
  maxLevel_le_six := (h .maxLevel).elim (p := fun i : Int => i ≤ 6)
    inBounds_default.maxLevel_le_six fun _ _ hread => hread.2.2
  mode_mem := by cases s.mode <;> decide
  one_le_maxContentLength := (h .maxContentLength).elim (p := fun i : Int => 1 ≤ i)
    inBounds_default.one_le_maxContentLength fun _ _ hread => hread.2
  zero_le_blankLines := (h .blankLines).elim (p := fun i : Int => 0 ≤ i)
    inBounds_default.zero_le_blankLines fun _ _ hread => hread.2

/-- The section rows take settings in bounds as they are. -/
theorem InBounds.check_sectionOptions {s : Settings} (h : s.InBounds) :
    s.sectionOptions.check s.mode.name = .ok s.sectionOptions := by
  have hlevels : ¬s.sectionOptions.maxLevel < s.sectionOptions.minLevel :=
    Int.not_lt.mpr h.minLevel_le_maxLevel
  unfold SectionOptions.check
  rw [if_neg hlevels, ContentMode.ofName?_eq_some_iff.mpr rfl]
  rfl

theorem InBounds.exists_sections {s : Settings} (h : s.InBounds) {d : Document}
    (hd : d.WellHeaded) :
    ∃ rows, s.sectionOptions.check s.mode.name >>= d.sections = .ok rows := by
  rw [h.check_sectionOptions]
  exact ⟨_, Document.sections_eq hd s.sectionOptions⟩

/-- Each field is given something by the first layer that counts for it. Settings are loaded exactly
if their fields read what they are given and their levels are in order; every error says which fields
refuse what they are given. Loaded settings are in bounds, and every well-headed document has its
section rows under them. -/
theorem load_by_field {f : Files} {values : List (String × Loose)}
    (hfile : FileContent.ofFiles f = .ok (.entries values))
    (environment : List (String × String)) (overrides : List (String × Loose)) :
    ∃ given : Field → Option Loose,
      (∀ field x, Takes values environment overrides field.name x ↔ x = given field) ∧
      (∀ s, load f environment overrides = .ok s ↔
        (∀ field : Field, field.Fits s (given field)) ∧ s.minLevel ≤ s.maxLevel) ∧
      ((∃ e, load f environment overrides = .error e) ↔
        (∃ field : Field, field.Refuses (given field)) ∨
          ∃ s, (∀ field : Field, field.Fits s (given field)) ∧ s.maxLevel < s.minLevel) ∧
      (∀ e, load f environment overrides = .error e → ∃ issues, e = .refused issues ∧
        ∀ field : Field, (∃ cause, (⟨[.field field.name], cause⟩ : Issue) ∈ issues) ↔
          field.Refuses (given field)) ∧
      ∀ s, load f environment overrides = .ok s → s.InBounds ∧
        ∀ d : Document, d.WellHeaded →
          ∃ rows, s.sectionOptions.check s.mode.name >>= d.sections = .ok rows := by
  refine ⟨fun field => chosen? values environment overrides field.name,
    fun field x => takes_iff, fun s => load_eq_ok_iff environment overrides hfile,
    exists_load_eq_error_iff environment overrides hfile,
    fun e he => refused_of_load environment overrides hfile he, fun s hs => ?_⟩
  obtain ⟨hfits, hlevels⟩ := (load_eq_ok_iff environment overrides hfile).mp hs
  have hbounds := inBounds_of_fits hfits hlevels
  exact ⟨hbounds, fun d hd => hbounds.exists_sections hd⟩

/-- An override of zero counts, and is refused as a level. -/
example :
    load { top := .directory [] } [("MDBLOCKS_MAX_LEVEL", "4")] [("max_level", .int 0)] =
      .error (.refused [⟨[.field "max_level"], .tooSmall⟩]) := by
  decide +kernel

/-- Three layers: a file that gives the greatest level and, as zero, the number of empty lines; a
variable for the least level and an empty one; and overrides, one of them null. -/
def layeredFiles : Files :=
  { top := .directory
      [("config.yaml", .file ("max_level: 2\nblank_lines: 0\n".toList.flatMap Text.Utf8.bytesOf))] }

def layeredEnvironment : List (String × String) :=
  [("MDBLOCKS_MIN_LEVEL", "3"), ("MDBLOCKS_BLANK_LINES", "")]

def layeredOverrides : List (String × Loose) :=
  [("max_level", .int 4), ("min_level", .null), ("include_content", .bool false)]

theorem load_by_field_layered :
    FileContent.ofFiles layeredFiles =
        .ok (.entries [("max_level", .int 2), ("blank_lines", .int 0)]) ∧
      load layeredFiles layeredEnvironment layeredOverrides =
        .ok { minLevel := 3, maxLevel := 4, blankLines := 0, includeContent := false } ∧
      ∃ s, load layeredFiles layeredEnvironment layeredOverrides = .ok s ∧ s.InBounds ∧
        ∃ rows, s.sectionOptions.check s.mode.name >>= Document.sample.sections = .ok rows := by
  have hfile : FileContent.ofFiles layeredFiles =
      .ok (.entries [("max_level", .int 2), ("blank_lines", .int 0)]) := by decide +kernel
  have hload : load layeredFiles layeredEnvironment layeredOverrides =
      .ok { minLevel := 3, maxLevel := 4, blankLines := 0, includeContent := false } := by
    decide +kernel
  obtain ⟨given, -, -, -, -, hall⟩ := load_by_field hfile layeredEnvironment layeredOverrides
  obtain ⟨hbounds, hrows⟩ := hall _ hload
  exact ⟨hfile, hload, _, hload, hbounds, hrows Document.sample Document.wellHeaded_sample⟩

end Settings

end MarkdownSections
