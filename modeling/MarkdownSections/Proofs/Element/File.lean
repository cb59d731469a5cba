import MarkdownSections.Command.Run
import MarkdownSections.Proofs.Json.Reader
import MarkdownSections.Proofs.Json.Sound
import MarkdownSections.Proofs.Text.Utf8

/-!
# Element files are read back

The elements that an element file can give are those with every attribute key once and with numbers
of a length that is written (`IsValid`): the checks of the fields let nothing else through
(`isValid_of_listOfBytes`), whatever spelling the file has. Such elements are read back from the
file that is written for them (`listOfBytes_dumpAll`), so writing and reading change nothing any
more once elements have been read, and the commands on the written file answer for the elements.

The record of an element names every field, and the check of each field takes what is written
there for exactly what was there before (`ofJson_toJson`).
-/

set_option autoImplicit false

namespace MarkdownSections.Element

open Attempt (exists_of_bind_eq_ok exists_of_map_eq_ok)

/-! ## Valid elements -/

/-- An element that an element file can hold. -/
structure IsValid (e : Element) : Prop where
  keys : (e.attributes.map (·.1)).Nodup
  level : ∀ n ∈ e.level, Text.isWritable n = true
  order : Text.isWritable e.order = true

/-! ## Records are read back -/

theorem ofJson_toJson (e : Element) : ofJson e.toJson = .ok (.ok e) := by
  obtain ⟨kind, elementType, content, level, encoding, attributes, order⟩ := e
  have hkind : readKind ((kind.map fun k => Json.text k.name).getD .null) = .ok kind := by
    rcases kind with _ | _ | _ <;> rfl
  have hlevel : ((level.map Json.int).getD .null).toLoose.toOptionalInt = .ok level := by
    cases level <;> rfl
  have hencoding : readEncoding (.text encoding.name) = .ok encoding := by
    cases encoding <;> rfl
  have hattributes : readAttributes (.map (attributes.map fun a => (a.1, .text a.2))) =
      .ok (.ok attributes) := by
    change Except.ok (Except.ok ((attributes.map fun a => (a.1, Json.text a.2)).map
      fun e => (e.1, attributeText e.2))) = _
    rw [List.map_map]
    exact congrArg (fun as => Except.ok (Except.ok as)) (List.map_id attributes)
  unfold toJson ofJson ofRecord
  simp only [Checked.optional, Checked.required, readAttributeField, List.lookup_cons,
    String.reduceBEq, BEq.rfl, hkind, hlevel, hencoding, hattributes]
  rfl

theorem ofJsonItems_map_toJson (es : List Element) (position : Nat) :
    ofJsonItems position (es.map toJson) = .ok (es, []) := by
  induction es generalizing position with
  | nil => rfl
  | cons e es ih =>
      rw [List.map_cons, ofJsonItems, ofJson_toJson, ih]
      rfl

theorem listOfJson_map_toJson (es : List Element) : listOfJson (.list (es.map toJson)) = .ok es := by
  unfold listOfJson
  simp only [ofJsonItems_map_toJson]
  rfl

/-- The record of a valid element is read back, however deep it stands. -/
theorem readsAs_toJson {e : Element} (h : e.IsValid) (rules : Json.ReadRules) (room depth : Nat) :
    Json.ReadsAs rules (room + 2) (e.toJson.indented depth) e.toJson := by
  refine Json.readsAs_indented_map ?_ (show
    ["kind", "element_type", "content", "level", "encoding", "attributes", "order"].Nodup by decide)
  -- field by field; only the attributes are a collection of their own
  simp only [List.forall_mem_cons]
  refine ⟨?kind, ?elementType, ?content, ?level, ?encoding, ?attributes, ?order,
    fun _ hmem => absurd hmem List.not_mem_nil⟩
  case kind => exact Json.readsAs_optional rfl fun k _ => Json.readsBack_text rules _ k.name
  case elementType => exact Json.readsBack_text rules _ e.elementType
  case content => exact Json.readsBack_text rules _ e.content
  case level => exact Json.readsAs_optional rfl fun n hn => Json.readsAs_int (h.level n hn)
  case encoding => exact Json.readsBack_text rules _ e.encoding.name
  case order => exact Json.readsAs_int h.order
  case attributes =>
    refine Json.readsAs_indented_map (fun a ha => ?_) ?_
    · obtain ⟨a, -, rfl⟩ := List.mem_map.mp ha
      exact Json.readsBack_text rules _ a.2
    · rw [List.map_map]
      exact h.keys

/-- The bytes of the element file that is written for elements. -/
def fileBytes (es : List Element) : List Nat :=
  Text.Utf8.encode (dumpAll es).toList

theorem listOfText_dumpAll {es : List Element} (h : ∀ e ∈ es, e.IsValid) :
    listOfText (dumpAll es).toList = .ok es := by
  have hread : Json.ReadsAs readRules readRules.maxNesting ((Json.list (es.map toJson)).indented 0)
      (.list (es.map toJson)) := by
    refine Json.readsAs_indented_list fun v hv => ?_
    obtain ⟨e, he, rfl⟩ := List.mem_map.mp hv
    exact readsAs_toJson (h e he) readRules 197 1
  unfold listOfText dumpAll Json.toIndentedString
  rw [String.toList_ofList, hread.read_eq]
  exact listOfJson_map_toJson es

/-- Valid elements are read back from the file that is written for them. -/
theorem listOfBytes_fileBytes {es : List Element} (h : ∀ e ∈ es, e.IsValid) :
    listOfBytes (fileBytes es) = .ok es := by
  unfold listOfBytes fileBytes
  rw [Text.Utf8.decode?_encode]
  exact listOfText_dumpAll h

/-! ## What a file gives is valid -/

theorem isWritable_of_wholeNumber {x : Binary64} {i : Int} (h : Loose.wholeNumber x = .ok i) :
    Text.isWritable i = true := by
  unfold Loose.wholeNumber at h
  split at h
  · cases h
  · split at h
    · cases h
    · split at h
      · next hbound =>
          cases h
          rw [Bool.and_eq_true, decide_eq_true_eq, decide_eq_true_eq] at hbound
          have hword : Loose.wordBound ≤ (tenPow 19 : Nat) := by decide
          exact Text.isWritable_of_natAbs_lt (k := 19) (by omega) (by decide)
      · cases h

theorem isDigit_of_plainDigits? {cs ds : List Char} {negative : Bool}
    (h : Loose.plainDigits? cs = some (negative, ds)) : ∀ c ∈ ds, c.isDigit = true := by
  unfold Loose.plainDigits? at h
  split at h
  split at h
  · cases h
  · next hplain =>
      cases h
      simp only [Bool.or_eq_true, not_or, Bool.not_eq_true, Bool.not_eq_false'] at hplain
      exact List.all_eq_true.mp hplain.1.2

theorem isWritable_of_readNumeral {s : String} {i : Int} (h : Loose.readNumeral s = .ok i) :
    Text.isWritable i = true := by
  unfold Loose.readNumeral at h
  dsimp only at h
  split at h
  · cases h
  · next negative ds hform =>
      -- the digits stand alone or between underscores, and the length that is checked counts digits
      -- only
      have hdigits : ∀ c ∈ ds, c.isDigit = true := by
        cases hplain : Loose.plainDigits? (Text.trimNumeral s.toList) with
        | some split =>
            rw [hplain] at hform
            cases hform
            exact isDigit_of_plainDigits? hplain
        | none =>
            rw [hplain] at hform
            obtain ⟨cs, -, hcs⟩ := Option.bind_eq_some_iff.mp hform
            exact isDigit_of_plainDigits? hcs
      split at h
      · next hlength =>
          cases h
          exact Text.isWritable_ofDigits hdigits hlength negative
      · cases h

/-- A whole number that a check lets through is written again. -/
theorem isWritable_of_toInt {v : Json} (hv : v.Sound) {i : Int} (h : v.toLoose.toInt = .ok i) :
    Text.isWritable i = true := by
  cases hv with
  | int hi =>
      cases h
      exact hi
  | bool b =>
      cases h
      exact Text.isWritable_of_natAbs_lt (k := 1) (by cases b <;> decide) (by decide)
  | float x => exact isWritable_of_wholeNumber h
  | text s => exact isWritable_of_readNumeral h
  | null | brokenText | list | map | brokenMap => cases h

theorem isWritable_of_toOptionalInt {v : Json} (hv : v.Sound) {level : Option Int}
    (h : v.toLoose.toOptionalInt = .ok level) : ∀ n ∈ level, Text.isWritable n = true := by
  unfold Loose.toOptionalInt at h
  split at h
  · cases h
    exact fun _ hn => absurd hn (Option.not_mem_none _)
  · obtain ⟨i, hi, rfl⟩ := exists_of_map_eq_ok h
    intro n hn
    cases hn
    exact isWritable_of_toInt hv hi

theorem nodup_of_readEntries {known attributes : List (String × String)} {vs : List Json}
    (hknown : (known.map (·.1)).Nodup) (h : readEntries known vs = .ok (.ok attributes)) :
    (attributes.map (·.1)).Nodup := by
  induction vs generalizing known with
  | nil =>
      cases h
      exact hknown
  | cons v vs ih =>
      unfold readEntries at h
      split at h
      · exact ih (Json.nodup_insertEntry hknown) h
      all_goals cases h

/-- Whatever form attributes have, every key is there once. -/
theorem nodup_of_readAttributes {v : Json} (hv : v.Sound) {attributes : List (String × String)}
    (h : readAttributes v = .ok (.ok attributes)) : (attributes.map (·.1)).Nodup := by
  have hnone : (([] : List (String × String)).map (·.1)).Nodup := List.nodup_nil
  cases hv with
  | null =>
      cases h
      exact List.nodup_nil
  | map hkeys =>
      cases h
      rw [List.map_map]
      exact hkeys
  | list => exact nodup_of_readEntries hnone h
  | text => exact nodup_of_readEntries hnone h
  | bool | int | float | brokenText | brokenMap => cases h

/-- What holds of the default of a field and of what its check lets through holds of the field. -/
theorem of_optional {α : Type} {entries : List (String × Json)} {name : String} {default a : α}
    {check : Json → Checked α} {P : α → Prop} (h : Checked.optional entries name default check = .ok a)
    (hdefault : P default) (hcheck : ∀ v, entries.lookup name = some v → check v = .ok a → P a) :
    P a := by
  unfold Checked.optional at h
  split at h
  · cases h
    exact hdefault
  · next v hv => exact hcheck v hv h

/-- A record whose values are sound gives a valid element, if it gives one. -/
theorem isValid_of_ofRecord {entries : List (String × Json)} (hentries : ∀ x ∈ entries, x.2.Sound)
    {e : Element} (h : ofRecord entries = .ok (.ok e)) : e.IsValid := by
  have hlookup : ∀ {name : String} {v : Json}, entries.lookup name = some v → v.Sound := by
    intro name v hv
    obtain ⟨front, behind, rfl, -⟩ := List.lookup_eq_some_iff.mp hv
    exact hentries (name, v) (by simp)
  -- every field was read from a value of the record or is the one that stands for no value
  obtain ⟨attributes, hattributes, hfields⟩ := exists_of_bind_eq_ok h
  dsimp only at hfields
  split at hfields
  · next hlevel _ horder =>
      cases hfields
      refine ⟨?_, ?_, ?_⟩
      · unfold readAttributeField at hattributes
        split at hattributes
        · cases hattributes
          exact List.nodup_nil
        · next v hv => exact nodup_of_readAttributes (hlookup hv) hattributes
      · exact of_optional (P := fun level => ∀ n ∈ level, Text.isWritable n = true) hlevel
          (fun _ hn => absurd hn (Option.not_mem_none _))
          fun v hv hcheck => isWritable_of_toOptionalInt (hlookup hv) hcheck
      · exact of_optional (P := fun order => Text.isWritable order = true) horder
          (Text.isWritable_of_natAbs_lt (k := 1) (by decide) (by decide))
          fun v hv hcheck => isWritable_of_toInt (hlookup hv) hcheck
  · cases hfields

theorem isValid_of_ofJson {v : Json} (hv : v.Sound) {e : Element} (h : ofJson v = .ok (.ok e)) :
    e.IsValid := by
  cases hv with
  | map _ hvalues => exact isValid_of_ofRecord hvalues h
  | null | bool | int | float | text | brokenText | list | brokenMap => cases h

theorem isValid_of_ofJsonItems {vs : List Json} (hvs : ∀ v ∈ vs, v.Sound) {position : Nat}
    {es : List Element} {issues : List Issue} (h : ofJsonItems position vs = .ok (es, issues)) :
    ∀ e ∈ es, e.IsValid := by
  induction vs generalizing position es issues with
  | nil =>
      cases h
      exact fun _ he => absurd he List.not_mem_nil
  | cons v vs ih =>
      obtain ⟨reading, hreading, hmore⟩ := exists_of_bind_eq_ok h
      obtain ⟨⟨es', issues'⟩, hes', hpure⟩ := exists_of_bind_eq_ok hmore
      have hrest := ih (fun w hw => hvs w (List.mem_cons_of_mem v hw)) hes'
      cases reading with
      | error found =>
          cases hpure
          exact hrest
      | ok e =>
          cases hpure
          exact List.forall_mem_cons.mpr
            ⟨isValid_of_ofJson (hvs v List.mem_cons_self) hreading, hrest⟩

theorem isValid_of_listOfText {cs : List Char} {es : List Element} (h : listOfText cs = .ok es) :
    ∀ e ∈ es, e.IsValid := by
  unfold listOfText at h
  split at h
  · next v hread =>
      have hv : v.Sound := Json.sound_of_read hread
      unfold listOfJson at h
      split at h
      · cases hv with
        | list hitems =>
            obtain ⟨⟨es', issues⟩, hes', hend⟩ := exists_of_bind_eq_ok h
            dsimp only at hend
            split at hend
            · cases hend
              exact isValid_of_ofJsonItems hitems hes'
            · cases hend
      · cases h
  · cases h

/-- Whatever spelling an element file has, its elements are valid. -/
theorem isValid_of_listOfBytes {bytes : List Nat} {es : List Element}
    (h : listOfBytes bytes = .ok es) : ∀ e ∈ es, e.IsValid := by
  unfold listOfBytes at h
  split at h
  · exact isValid_of_listOfText h
  · cases h

/-! ## The commands -/

section Work

variable {α : Type} {f : Files} {p : Path} {work : List Element → Except PayloadError α}

theorem workOnFile_of_ok {es : List Element} (h : listOfFile f p = .ok es) :
    workOnFile f p work = (work es).mapError .payload := by
  rw [workOnFile, h]

theorem workOnFile_of_error {e : ElementFileError} (h : listOfFile f p = .error e) :
    workOnFile f p work = .error (.file e) := by
  rw [workOnFile, h]

/-- A failure on the elements of a file escapes from a command. -/
theorem fromElements_mapError (failure : String) (x : Except PayloadError α) :
    Command.fromElements failure (x.mapError .payload) = Command.orEscape .payload x := by
  cases x with
  | error e => rfl
  | ok a => rfl

end Work

theorem listOfFile_of_bytes? {f : Files} {p : Path} {bytes : List Nat} {es : List Element}
    (hbytes : f.bytes? p = some bytes) (h : listOfBytes bytes = .ok es) :
    listOfFile f p = .ok es := by
  unfold listOfFile
  rw [hbytes]
  simp only [h]

/-- The lists of elements that reading some element file gives are the lists of valid elements, and
they are the ones that are read back from the file that is written for them: reading that file
changes nothing, and rendering and grouping it is rendering and grouping the list. -/
theorem listOfFile_fileBytes (es : List Element) :
    ((∃ bytes, listOfBytes bytes = .ok es) ↔ ∀ e ∈ es, e.IsValid) ∧
      ((∃ bytes, listOfBytes bytes = .ok es) ↔ listOfBytes (fileBytes es) = .ok es) ∧
      ∀ bytes, listOfBytes bytes = .ok es → ∀ (s : Surroundings) (path : String),
        s.files.bytes? (Path.ofText path) = some (fileBytes es) →
          listOfFile s.files (Path.ofText path) = .ok es ∧ ∀ out,
            Command.runRender s path out = (do
              let _ ← Command.settings s
              Command.present s (← Command.orEscape .payload (renderAll .lenient es)) out) ∧
            Command.runReduce s path out = (do
              let _ ← Command.settings s
              let rows ← Command.orEscape .payload (reduceSections .lenient es)
              Command.present s (Section.dumpAll rows ++ "\n") out) := by
  have hvalid : ∀ bytes, listOfBytes bytes = .ok es → ∀ e ∈ es, e.IsValid := fun _ h =>
    isValid_of_listOfBytes h
  refine ⟨⟨fun ⟨bytes, h⟩ => hvalid bytes h, fun h => ⟨_, listOfBytes_fileBytes h⟩⟩,
    ⟨fun ⟨bytes, h⟩ => listOfBytes_fileBytes (hvalid bytes h), fun h => ⟨_, h⟩⟩, ?_⟩
  intro bytes h s path hfile
  have hfile := listOfFile_of_bytes? hfile (listOfBytes_fileBytes (hvalid bytes h))
  refine ⟨hfile, fun out => ⟨?_, ?_⟩⟩
  · rw [Command.runRender, renderFile, workOnFile_of_ok hfile, fromElements_mapError]
  · rw [Command.runReduce, reduceFile, workOnFile_of_ok hfile, fromElements_mapError]

/-- A file with the name of an encoding in other letters, a null, pairs and records of attributes
with a repeated key, and a number as a text. -/
def looseFile : List Nat :=
  Text.Utf8.encode ("[\x7b\"element_type\": \"list\", \"encoding\": \"YAMLlike\", " ++
    "\"content\": null, \"attributes\": [[\"b\", 1], \x7b\"key\": \"é\", \"value\": null\x7d, " ++
    "[\"b\", true]], \"order\": \"-3\"\x7d]").toList

/-- The elements that it holds. -/
def looseElements : List Element :=
  [{ elementType := "list", encoding := .yaml, attributes := [("b", "True"), ("é", "")], order := -3 }]

/-- A directory with the file that is written for them. -/
def writtenSurroundings : Surroundings :=
  { files := { top := .directory [("elements.json", .file (fileBytes looseElements))] } }

theorem listOfFile_fileBytes_sample :
    listOfBytes looseFile = .ok looseElements ∧
      listOfFile writtenSurroundings.files (Path.ofText "elements.json") = .ok looseElements := by
  have hread : listOfBytes looseFile = .ok looseElements := by decide +kernel
  exact ⟨hread, ((listOfFile_fileBytes looseElements).2.2 looseFile hread writtenSurroundings
    "elements.json" (by decide +kernel)).1⟩

end MarkdownSections.Element
