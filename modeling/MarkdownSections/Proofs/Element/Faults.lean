import MarkdownSections.Proofs.Element.File
import MarkdownSections.Proofs.Element.Render
import MarkdownSections.Proofs.Section.Grouping

/-!
# Which element files are refused under their name

A refused value is an issue, and issues are reported under the name of the file. Attributes that
cannot be walked through are a fault instead, which names no file (`ElementFileError.source?`).

Walking takes the entries of a list of attributes one by one and stops at the first one that is no
pair, so what stands behind that entry does not matter (`entriesWalk`). A reading of records ends in
a fault exactly when the attributes of one of them cannot be walked through, whatever issues the
records have (`FaultsUnless`, `faultsUnless_ofJsonItems`). Once elements are read, rendering and
grouping them fails exactly when a list is numbered beyond the numbers that are written.
-/

set_option autoImplicit false

namespace MarkdownSections

open Attempt (exists_of_bind_eq_ok exists_of_map_eq_ok)

/-- The file that an error names; the faults of attributes name none. -/
def ElementFileError.source? : ElementFileError → Option String
  | unreadable source | refused source _ => some source
  | attributesNotWalkable | attributeFieldMissing => none

/-- The file that an error in work on a file names; a failure on its elements names none. -/
def ElementWorkError.source? : ElementWorkError → Option String
  | file e => e.source?
  | payload _ => none

/-- Whether an error ends a reading at once. -/
def ElementError.isFault : ElementError → Bool
  | refused _ => false
  | attributesNotWalkable | attributeFieldMissing => true

namespace Element

/-! ## Attributes that can be walked through -/

/-- Whether a record has a key and a value. -/
def hasKeyAndValue (entries : List (String × Json)) : Bool :=
  (entries.lookup "key").isSome && (entries.lookup "value").isSome

/-- Whether an entry can be taken apart at all: a collection or a text of any length, but a record
only with a key and a value. -/
def isOpenable : Json → Bool
  | .map entries => hasKeyAndValue entries
  | .list _ | .text _ => true
  | _ => false

/-- Whether an entry is a key and a value. -/
def isPair : Json → Bool
  | .map entries => hasKeyAndValue entries
  | .list items => items.length == 2
  | .text s => s.toList.length == 2
  | _ => false

/-- Whether the entries of a list can be taken apart, up to the first one that is no pair. -/
def entriesWalk : List Json → Bool
  | [] => true
  | v :: vs => isOpenable v && (!isPair v || entriesWalk vs)

/-- Whether attributes can be walked through. -/
def attributesWalk : Json → Bool
  | .null | .map _ | .text _ => true
  | .list items => entriesWalk items
  | _ => false

/-- Whether the attributes of a value can be walked through, if it is a record that has any. -/
def recordWalks : Json → Bool
  | .map entries => (entries.lookup "attributes").all attributesWalk
  | _ => true

/-! ## Readings that end in a fault -/

/-- A reading ends in a fault exactly unless `walks` holds, and in nothing else. -/
def FaultsUnless {α : Type} (walks : Bool) : Except ElementError α → Prop
  | .ok _ => walks = true
  | .error e => walks = false ∧ e.isFault = true

theorem FaultsUnless.bind {α β : Type} {front behind : Bool} {x : Except ElementError α}
    {f : α → Except ElementError β} (hx : FaultsUnless front x)
    (hf : ∀ a, FaultsUnless behind (f a)) : FaultsUnless (front && behind) (x >>= f) := by
  cases x with
  | error e =>
      obtain ⟨hfront, hfault⟩ := hx
      exact ⟨by rw [hfront, Bool.false_and], hfault⟩
  | ok a =>
      have hfront : front = true := hx
      rw [hfront, Bool.true_and]
      exact hf a

/-- A step that cannot fault does not change whether a reading does. -/
theorem FaultsUnless.bind_ok {α β : Type} {walks : Bool} {x : Except ElementError α}
    {f : α → Except ElementError β} (hx : FaultsUnless walks x) (hf : ∀ a, ∃ b, f a = .ok b) :
    FaultsUnless walks (x >>= f) := by
  have hall : ∀ a, FaultsUnless true (f a) := by
    intro a
    obtain ⟨b, hb⟩ := hf a
    rw [hb]
    rfl
  have h := hx.bind hall
  rwa [Bool.and_true] at h

/-- How an entry is read follows from whether it can be taken apart and whether it is a pair. -/
theorem readEntry_cases (v : Json) :
    (isOpenable v = true ∧ isPair v = true ∧ ∃ key value, readEntry v = .entry key value) ∨
      (isOpenable v = true ∧ isPair v = false ∧ readEntry v = .refused) ∨
      (isOpenable v = false ∧ (readEntry v = .notWalkable ∨ readEntry v = .fieldMissing)) := by
  -- records have a key and a value or fault; lists and texts are pairs or are refused; the rest
  -- cannot be taken apart
  cases v with
  | null => exact Or.inr (Or.inr ⟨rfl, Or.inl rfl⟩)
  | bool b => exact Or.inr (Or.inr ⟨rfl, Or.inl rfl⟩)
  | int i => exact Or.inr (Or.inr ⟨rfl, Or.inl rfl⟩)
  | float x => exact Or.inr (Or.inr ⟨rfl, Or.inl rfl⟩)
  | brokenText points => exact Or.inr (Or.inr ⟨rfl, Or.inl rfl⟩)
  | brokenMap entries => exact Or.inr (Or.inr ⟨rfl, Or.inl rfl⟩)
  | map entries =>
      cases hkey : entries.lookup "key" with
      | none =>
          refine Or.inr (Or.inr ⟨?_, Or.inr ?_⟩)
          · simp [isOpenable, hasKeyAndValue, hkey]
          · simp [readEntry, hkey]
      | some key =>
          cases hvalue : entries.lookup "value" with
          | none =>
              refine Or.inr (Or.inr ⟨?_, Or.inr ?_⟩)
              · simp [isOpenable, hasKeyAndValue, hvalue]
              · simp [readEntry, hvalue]
          | some value =>
              refine Or.inl ⟨?_, ?_, key.plainText, attributeText value, ?_⟩
              · simp [isOpenable, hasKeyAndValue, hkey, hvalue]
              · simp [isPair, hasKeyAndValue, hkey, hvalue]
              · simp [readEntry, hkey, hvalue]
  | list items =>
      rcases items with _ | ⟨key, _ | ⟨value, _ | ⟨third, rest⟩⟩⟩
      · exact Or.inr (Or.inl ⟨rfl, rfl, rfl⟩)
      · exact Or.inr (Or.inl ⟨rfl, rfl, rfl⟩)
      · exact Or.inl ⟨rfl, rfl, key.plainText, attributeText value, rfl⟩
      · exact Or.inr (Or.inl ⟨rfl, by simp [isPair], rfl⟩)
  | text s =>
      rcases hs : s.toList with _ | ⟨key, _ | ⟨value, _ | ⟨third, rest⟩⟩⟩
      · exact Or.inr (Or.inl ⟨rfl, by simp [isPair, hs], by simp [readEntry, hs]⟩)
      · exact Or.inr (Or.inl ⟨rfl, by simp [isPair, hs], by simp [readEntry, hs]⟩)
      · exact Or.inl ⟨rfl, by simp [isPair, hs], String.singleton key, String.singleton value,
          by simp [readEntry, hs]⟩
      · exact Or.inr (Or.inl ⟨rfl, by simp [isPair, hs], by simp [readEntry, hs]⟩)

/-- Reading the entries of a list faults exactly at an entry that cannot be taken apart. -/
theorem faultsUnless_readEntries (known : List (String × String)) (vs : List Json) :
    FaultsUnless (entriesWalk vs) (readEntries known vs) := by
  induction vs generalizing known with
  | nil => rfl
  | cons v vs ih =>
      rw [readEntries, entriesWalk]
      rcases readEntry_cases v with ⟨hopen, hpair, key, value, hread⟩ | ⟨hopen, hpair, hread⟩ |
        ⟨hopen, hread⟩
      · -- a pair is taken in, and the walk goes on
        rw [hread, hopen, hpair]
        exact ih (Json.insertEntry known key value)
      · rw [hread, hopen, hpair]
        rfl
      · rw [hopen]
        rcases hread with hread | hread
        · rw [hread]
          exact ⟨rfl, rfl⟩
        · rw [hread]
          exact ⟨rfl, rfl⟩

theorem faultsUnless_readAttributes (v : Json) :
    FaultsUnless (attributesWalk v) (readAttributes v) := by
  cases v with
  | list items => exact faultsUnless_readEntries [] items
  | null => rfl
  | map entries => rfl
  | bool b => exact ⟨rfl, rfl⟩
  | int i => exact ⟨rfl, rfl⟩
  | float x => exact ⟨rfl, rfl⟩
  | brokenText points => exact ⟨rfl, rfl⟩
  | brokenMap entries => exact ⟨rfl, rfl⟩
  | text s =>
      -- the entries are single characters, so the first one already is no pair
      have hwalk : entriesWalk (s.toList.map fun c => Json.text (String.singleton c)) = true := by
        cases s.toList with
        | nil => rfl
        | cons c cs => simp [entriesWalk, isOpenable, isPair]
      have h := faultsUnless_readEntries [] (s.toList.map fun c => Json.text (String.singleton c))
      rw [hwalk] at h
      exact h

theorem faultsUnless_ofJson (v : Json) : FaultsUnless (recordWalks v) (ofJson v) := by
  cases v with
  | map entries =>
      have hfield : FaultsUnless (recordWalks (.map entries)) (readAttributeField entries) := by
        simp only [readAttributeField, recordWalks]
        cases entries.lookup "attributes" with
        | none => rfl
        | some attributes => exact faultsUnless_readAttributes attributes
      -- the issues of the other fields are collected behind the attributes
      exact hfield.bind_ok fun _ => ⟨_, rfl⟩
  | null | bool | int | float | text | brokenText | list | brokenMap => rfl

/-- Reading records faults exactly when the attributes of one of them cannot be walked through. -/
theorem faultsUnless_ofJsonItems (position : Nat) (vs : List Json) :
    FaultsUnless (vs.all recordWalks) (ofJsonItems position vs) := by
  induction vs generalizing position with
  | nil => rfl
  | cons v vs ih =>
      rw [ofJsonItems, List.all_cons]
      refine (faultsUnless_ofJson v).bind fun reading => ?_
      exact (ih (position + 1)).bind_ok fun found => ⟨_, rfl⟩

/-! ## Element files -/

/-- The values of the list that the bytes of a file hold, if they hold one. -/
def fileItems? (bytes : List Nat) : Option (List Json) :=
  match (Text.Utf8.decode? bytes).map (Json.read readRules) with
  | some (.ok (.list items)) => some items
  | _ => none

/-- Bytes that hold no list of values are refused. -/
theorem listOfBytes_of_no_items {bytes : List Nat} (h : fileItems? bytes = none) :
    ∃ issues, listOfBytes bytes = .error (.refused issues) := by
  unfold fileItems? at h
  unfold listOfBytes
  cases hdecode : Text.Utf8.decode? bytes with
  | none => exact ⟨_, rfl⟩
  | some text =>
      rw [hdecode] at h
      simp only [listOfText]
      cases hread : Json.read readRules text with
      | error fault => exact ⟨_, rfl⟩
      | ok v =>
          simp only [Option.map_some, hread] at h
          cases v with
          | list items => cases h
          | null | bool | int | float | text | brokenText | map | brokenMap => exact ⟨_, rfl⟩

theorem listOfBytes_of_items {bytes : List Nat} {items : List Json}
    (h : fileItems? bytes = some items) : listOfBytes bytes = listOfJson (.list items) := by
  unfold fileItems? at h
  unfold listOfBytes
  cases hdecode : Text.Utf8.decode? bytes with
  | none =>
      rw [hdecode] at h
      cases h
  | some text =>
      rw [hdecode] at h
      simp only [listOfText]
      cases hread : Json.read readRules text with
      | error fault =>
          simp only [Option.map_some, hread] at h
          cases h
      | ok v =>
          simp only [Option.map_some, hread] at h
          cases v with
          | list found =>
              cases h
              rfl
          | null | bool | int | float | text | brokenText | map | brokenMap => cases h

theorem listOfJson_list (items : List Json) :
    listOfJson (.list items) = (ofJsonItems 0 items).bind fun found =>
      if found.2.isEmpty then .ok found.1 else .error (.refused found.2) := rfl

/-- The bytes of a file give elements, or are refused, exactly when the attributes of all records
can be walked through. -/
theorem listOfBytes_faults (bytes : List Nat) :
    if (fileItems? bytes).all (·.all recordWalks) then
      (∃ es, listOfBytes bytes = .ok es) ∨ ∃ issues, listOfBytes bytes = .error (.refused issues)
    else ∃ e, listOfBytes bytes = .error e ∧ e.isFault = true := by
  cases hitems : fileItems? bytes with
  | none => exact Or.inr (listOfBytes_of_no_items hitems)
  | some items =>
      rw [listOfBytes_of_items hitems, listOfJson_list, Option.all_some]
      have h := faultsUnless_ofJsonItems 0 items
      cases hread : ofJsonItems 0 items with
      | error e =>
          rw [hread] at h
          obtain ⟨hwalks, hfault⟩ := h
          rw [hwalks, if_neg Bool.false_ne_true]
          exact ⟨e, rfl, hfault⟩
      | ok found =>
          rw [hread] at h
          have hwalks : items.all recordWalks = true := h
          rw [if_pos hwalks]
          -- the values are read, and what is left are their issues
          by_cases hissues : found.2.isEmpty = true
          · exact Or.inl ⟨found.1, if_pos hissues⟩
          · exact Or.inr ⟨found.2, if_neg hissues⟩

/-! ## Rendering and grouping what was read -/

/-- Elements are rendered one behind the other exactly if each of them is. -/
theorem exists_renderInOrder_iff (codec : Codec) (afterInline : Bool) (es : List Element) :
    (∃ text, renderInOrder codec afterInline es = .ok text) ↔
      ∀ e ∈ es, ∃ text, e.render codec = .ok text := by
  induction es generalizing afterInline with
  | nil => exact ⟨fun _ e he => absurd he List.not_mem_nil, fun _ => ⟨"", rfl⟩⟩
  | cons e es ih =>
      rw [List.forall_mem_cons, ← ih e.isInline, renderInOrder]
      constructor
      · rintro ⟨text, h⟩
        obtain ⟨first, hfirst, h⟩ := exists_of_bind_eq_ok h
        obtain ⟨rest, hrest, -⟩ := exists_of_bind_eq_ok h
        exact ⟨⟨first, hfirst⟩, rest, hrest⟩
      · rintro ⟨⟨first, hfirst⟩, rest, hrest⟩
        rw [hfirst, hrest]
        exact ⟨_, rfl⟩

theorem exists_renderAll_iff (codec : Codec) (es : List Element) :
    (∃ text, renderAll codec es = .ok text) ↔ ∀ e ∈ es, ∃ text, e.render codec = .ok text := by
  unfold renderAll
  rw [exists_renderInOrder_iff]
  simp only [sortByOrder, List.mem_mergeSort]

theorem exists_piece_iff (codec : Codec) (e : Element) :
    (∃ p, Grouping.Piece.ofElement codec e = .ok p) ↔
      (e.type ≠ .heading → e.type.isMetadata = false → ∃ text, e.render codec = .ok text) := by
  constructor
  · rintro ⟨p, hp⟩ hheading hmetadata
    rw [Grouping.ofElement_of_other codec hheading hmetadata] at hp
    obtain ⟨text, htext, -⟩ := exists_of_map_eq_ok hp
    exact ⟨text, htext⟩
  · intro h
    by_cases hheading : e.type = .heading
    · exact ⟨_, Grouping.ofElement_of_heading codec hheading⟩
    · cases hmetadata : e.type.isMetadata with
      | true => exact ⟨_, Grouping.ofElement_of_metadata codec hheading hmetadata⟩
      | false =>
          obtain ⟨text, htext⟩ := h hheading hmetadata
          exact ⟨.text text, by rw [Grouping.ofElement_of_other codec hheading hmetadata, htext]; rfl⟩

/-- Grouping renders the elements that are neither headings nor metadata, and fails exactly if one
of these is not rendered. -/
theorem exists_reduceSections_iff (codec : Codec) (es : List Element) :
    (∃ rows, reduceSections codec es = .ok rows) ↔
      ∀ e ∈ es, e.type ≠ .heading → e.type.isMetadata = false →
        ∃ text, e.render codec = .ok text := by
  rw [Grouping.reduceSections_eq_foldl, Attempt.exists_map_iff, Attempt.exists_mapM_iff]
  simp only [exists_piece_iff, sortByOrder, List.mem_mergeSort]

/-- Only lists are numbered. -/
theorem type_of_numbersTooFar {e : Element} (h : e.numbersTooFar e.lenientPayload = true) :
    e.type = .list := by
  by_contra hlist
  have hitems : ∀ x xs, e.lenientPayload ≠ .items x xs := by
    intro x xs hpayload
    have hread := payload_lenient e
    rw [hpayload] at hread
    unfold payload at hread
    split at hread
    · cases hread
    · split at hread
      · next htype => exact hlist htype
      · -- a table gives cells or nothing
        obtain ⟨cells, -, hcells⟩ := exists_of_bind_eq_ok hread
        cases hempty : cells.isEmpty with
        | true =>
            rw [hempty] at hcells
            cases hcells
        | false =>
            rw [hempty] at hcells
            cases hcells
      · cases hread
  unfold numbersTooFar at h
  split at h
  · next x xs hpayload => exact hitems x xs hpayload
  · cases h

theorem exists_render_lenient_iff (e : Element) :
    (∃ text, e.render .lenient = .ok text) ↔ e.numbersTooFar e.lenientPayload = false := by
  rw [render_lenient]
  cases e.numbersTooFar e.lenientPayload with
  | false => exact ⟨fun _ => rfl, fun _ => ⟨_, rfl⟩⟩
  | true => simp

/-! ## Answers under the name of the file -/

/-- Work on a file gives a result, or an error with the name of the file. -/
def AnswersFor {ε α : Type} (source? : ε → Option String) (name : String) (x : Except ε α) : Prop :=
  (∃ a, x = .ok a) ∨ ∃ e, x = .error e ∧ source? e = some name

section Answers

variable {ε α : Type} {source? : ε → Option String} {name : String}

theorem answersFor_ok (a : α) : AnswersFor source? name (.ok a : Except ε α) :=
  Or.inl ⟨a, rfl⟩

theorem answersFor_error_iff {e : ε} :
    AnswersFor source? name (.error e : Except ε α) ↔ source? e = some name := by
  constructor
  · rintro (⟨a, ha⟩ | ⟨_, herror, hsource⟩)
    · cases ha
    · cases herror
      exact hsource
  · intro hsource
    exact Or.inr ⟨e, rfl, hsource⟩

end Answers

/-- The attributes of all records in the file at a path can be walked through. -/
def FileWalks (f : Files) (p : Path) : Prop :=
  ∀ bytes items, f.bytes? p = some bytes → fileItems? bytes = some items →
    ∀ v ∈ items, recordWalks v = true

/-- No list among the elements of the file at a path is numbered beyond the numbers that are
written. -/
def FileNumbers (f : Files) (p : Path) : Prop :=
  ∀ es, listOfFile f p = .ok es → ∀ e ∈ es, e.numbersTooFar e.lenientPayload = false

theorem fileWalks_iff {f : Files} {p : Path} {bytes : List Nat} (h : f.bytes? p = some bytes) :
    FileWalks f p ↔ (fileItems? bytes).all (·.all recordWalks) = true := by
  unfold FileWalks
  -- the bytes of a file are the given ones
  cases hitems : fileItems? bytes with
  | none =>
      refine ⟨fun _ => rfl, fun _ bytes' items hbytes hsome => ?_⟩
      rw [h] at hbytes
      cases hbytes
      rw [hitems] at hsome
      cases hsome
  | some items =>
      rw [Option.all_some, List.all_eq_true]
      refine ⟨fun hall => hall bytes items h hitems, fun hall bytes' items' hbytes hsome => ?_⟩
      rw [h] at hbytes
      cases hbytes
      rw [hitems] at hsome
      cases hsome
      exact hall

/-- A file that does not walk ends in an error that names no file. -/
theorem answersFor_listOfFile (f : Files) (p : Path) :
    AnswersFor ElementFileError.source? p.toText (listOfFile f p) ↔ FileWalks f p := by
  unfold listOfFile
  cases hbytes : f.bytes? p with
  | none =>
      refine ⟨fun _ bytes items h => ?_, fun _ => answersFor_error_iff.mpr rfl⟩
      rw [hbytes] at h
      cases h
  | some bytes =>
      rw [fileWalks_iff hbytes]
      have h := listOfBytes_faults bytes
      -- bytes that walk give elements or issues, and issues name the file; all others end in a
      -- fault, which names none
      cases hwalks : (fileItems? bytes).all (·.all recordWalks) with
      | true =>
          rw [hwalks, if_pos rfl] at h
          apply iff_of_true
          · rcases h with ⟨es, hes⟩ | ⟨issues, hissues⟩
            · simp only [hes]
              exact answersFor_ok es
            · simp only [hissues]
              exact answersFor_error_iff.mpr rfl
          · rfl
      | false =>
          rw [hwalks, if_neg Bool.false_ne_true] at h
          obtain ⟨e, he, hfault⟩ := h
          apply iff_of_false
          · simp only [he, answersFor_error_iff]
            intro hsource
            cases e with
            | refused issues => cases hfault
            | attributesNotWalkable => cases hsource
            | attributeFieldMissing => cases hsource
          · exact Bool.false_ne_true

/-- Work on the elements of a file answers under its name exactly if reading them does and the work
never fails on elements that are read. -/
theorem answersFor_workOnFile {α : Type} (f : Files) (p : Path)
    (work : List Element → Except PayloadError α) :
    AnswersFor ElementWorkError.source? p.toText (workOnFile f p work) ↔
      AnswersFor ElementFileError.source? p.toText (listOfFile f p) ∧
        ∀ es, listOfFile f p = .ok es → ∃ a, work es = .ok a := by
  cases hread : listOfFile f p with
  | error e =>
      rw [workOnFile_of_error hread, answersFor_error_iff, answersFor_error_iff]
      constructor
      · intro hsource
        exact ⟨hsource, fun es hes => nomatch hes⟩
      · intro h
        exact h.1
  | ok es =>
      rw [workOnFile_of_ok hread]
      cases hwork : work es with
      | error fault =>
          -- a failure of the work names no file, so there must be none
          apply iff_of_false
          · intro hanswers
            cases answersFor_error_iff.mp hanswers
          · rintro ⟨-, h⟩
            obtain ⟨a, ha⟩ := h es rfl
            rw [hwork] at ha
            cases ha
      | ok a =>
          apply iff_of_true
          · exact answersFor_ok a
          · refine ⟨answersFor_ok es, fun es' hes' => ?_⟩
            cases hes'
            exact ⟨a, hwork⟩

/-- Reading an element file, whatever bytes it holds, gives elements or an error with the name of
the file exactly if the attributes of all its records can be walked through. Rendering and grouping
the file do so exactly if, besides, none of its lists is numbered beyond the numbers that are
written. -/
theorem answersFor_file_iff (f : Files) (p : Path) :
    (AnswersFor ElementFileError.source? p.toText (listOfFile f p) ↔ FileWalks f p) ∧
      (AnswersFor ElementWorkError.source? p.toText (renderFile f p) ↔
        FileWalks f p ∧ FileNumbers f p) ∧
      (AnswersFor ElementWorkError.source? p.toText (reduceFile f p) ↔
        FileWalks f p ∧ FileNumbers f p) := by
  have hread := answersFor_listOfFile f p
  refine ⟨hread, ?_, ?_⟩
  · unfold renderFile FileNumbers
    rw [answersFor_workOnFile, hread]
    simp only [exists_renderAll_iff, exists_render_lenient_iff]
  · unfold reduceFile FileNumbers
    rw [answersFor_workOnFile, hread]
    simp only [exists_reduceSections_iff, exists_render_lenient_iff]
    refine and_congr_right fun _ => forall₂_congr fun es _ => forall₂_congr fun e _ => ?_
    -- headings and metadata are not numbered
    refine ⟨fun h => ?_, fun h _ _ => h⟩
    by_contra hfar
    have htype := type_of_numbersTooFar (eq_true_of_ne_false hfar)
    exact hfar (h (by rw [htype]; decide) (by rw [htype]; rfl))

/-- A directory with an element file whose one record has a number for its attributes. -/
def numberedAttributes : Files :=
  { top := .directory [("elements.json", .file (Text.Utf8.encode
      "[\x7b\"element_type\": \"paragraph\", \"attributes\": 5\x7d]".toList))] }

theorem not_answersFor_numberedAttributes :
    ¬∀ (f : Files) (p : Path), AnswersFor ElementFileError.source? p.toText (listOfFile f p) := by
  intro h
  have hread : listOfFile numberedAttributes (Path.ofText "elements.json") =
      .error .attributesNotWalkable := by decide +kernel
  have hanswers := h numberedAttributes (Path.ofText "elements.json")
  rw [hread, answersFor_error_iff] at hanswers
  cases hanswers

/-- A pair without a value stops the walk through attributes; behind an entry that is no pair
nothing is looked at any more. -/
example : entriesWalk [.map [("key", .text "a")]] = false ∧
    entriesWalk [.list [.null], .map [("key", .text "a")]] = true := by decide

end Element

end MarkdownSections
