import Mathlib.Data.List.Nodup
import MarkdownSections.Document.Batch
import MarkdownSections.Proofs.Document.Attributes
import MarkdownSections.Proofs.Files.Paths

/-!
# Documents in a batch

A batch that skips faults takes in results and structural faults, each with its document, and ends at
any other error. The answer for a file depends on its bytes only (`Files.answer_congr`), so every
document of a batch has the one that it has alone.

Not every fault of a text is a structural one: a scalar of the frontmatter that stands for no value,
a line that ends too early and a tree that is too high end the whole batch. Apart from such texts
faults are isolated, and only apart from them (`Files.isolates_iff`).
-/

set_option autoImplicit false

namespace MarkdownSections

open Attempt (exists_of_bind_eq_ok eq_ok_of_toOption)

/-! ## Batches of answers -/

namespace Batch

variable {α : Type}

/-- The failed document that an answer stands for. -/
def failure? : Except DocumentError α → Option FailedDocument
  | .error (.structural source fault) => some ⟨source, fault⟩
  | _ => none

/-- The answers behind which a batch that skips faults goes on. -/
inductive TakesIn : Except DocumentError α → Prop
  | result (a : α) : TakesIn (.ok a)
  | failure (source : String) (fault : StructuralFault) : TakesIn (.error (.structural source fault))

theorem TakesIn.of_named {x : Except DocumentError α} {name : String}
    (h : (∃ a, x = .ok a) ∨ ∃ fault, x = .error (.structural name fault)) : TakesIn x := by
  rcases h with ⟨a, rfl⟩ | ⟨fault, rfl⟩
  · exact .result a
  · exact .failure name fault

/-- The batch that holds the answers for paths. -/
def ofAnswers (answer : Path → Except DocumentError α) (ps : List Path) : Batch α :=
  { results := ps.filterMap fun p => (answer p).toOption.map (p, ·)
    failures := ps.filterMap fun p => failure? (answer p) }

variable {answer : Path → Except DocumentError α} {p : Path} {ps : List Path}

theorem ofAnswers_cons_of_ok {a : α} (h : answer p = .ok a) (ps : List Path) :
    ofAnswers answer (p :: ps) =
      { ofAnswers answer ps with results := (p, a) :: (ofAnswers answer ps).results } := by
  simp [ofAnswers, h, failure?, Except.toOption]

theorem ofAnswers_cons_of_error {source : String} {fault : StructuralFault}
    (h : answer p = .error (.structural source fault)) (ps : List Path) :
    ofAnswers answer (p :: ps) =
      { ofAnswers answer ps with
        failures := ⟨source, fault⟩ :: (ofAnswers answer ps).failures } := by
  simp [ofAnswers, h, failure?, Except.toOption]

theorem of_mem_results {a : α} (h : (p, a) ∈ (ofAnswers answer ps).results) :
    p ∈ ps ∧ answer p = .ok a := by
  obtain ⟨q, hq, hpair⟩ := List.mem_filterMap.mp h
  obtain ⟨x, hx, heq⟩ := Option.map_eq_some_iff.mp hpair
  obtain ⟨rfl, rfl⟩ := Prod.mk.inj heq
  exact ⟨hq, eq_ok_of_toOption hx⟩

theorem exists_of_mem_failures {source : String} {fault : StructuralFault}
    (h : ⟨source, fault⟩ ∈ (ofAnswers answer ps).failures) :
    ∃ q ∈ ps, answer q = .error (.structural source fault) := by
  obtain ⟨q, hq, hfailure⟩ := List.mem_filterMap.mp h
  refine ⟨q, hq, ?_⟩
  unfold failure? at hfailure
  split at hfailure
  · next s e hanswer =>
      obtain ⟨rfl, rfl⟩ := FailedDocument.mk.inj (Option.some.inj hfailure)
      exact hanswer
  · cases hfailure

/-- A batch holds all answers, but without skipping faults it ends at the first one. -/
theorem collect_eq (h : ∀ p ∈ ps, TakesIn (answer p)) (skip : Bool) :
    collect answer skip ps =
      match skip, (ofAnswers answer ps).failures with
      | false, e :: _ => .error e.error
      | _, _ => .ok (ofAnswers answer ps) := by
  induction ps with
  | nil =>
      cases skip with
      | true => rfl
      | false => rfl
  | cons p ps ih =>
      obtain ⟨hp, hps⟩ := List.forall_mem_cons.mp h
      generalize hanswer : answer p = x at hp
      cases hp with
      | result a =>
          rw [collect, hanswer, ofAnswers_cons_of_ok hanswer, ih hps]
          -- the result stands in front of whatever comes of the rest
          cases skip with
          | true => rfl
          | false =>
              cases (ofAnswers answer ps).failures with
              | nil => rfl
              | cons e es => rfl
      | failure source fault =>
          rw [collect, hanswer, ofAnswers_cons_of_error hanswer]
          cases skip with
          | true =>
              rw [ih hps]
              rfl
          | false => rfl

/-- A batch that skips faults holds all answers. -/
theorem collect_skip (h : ∀ p ∈ ps, TakesIn (answer p)) :
    collect answer true ps = .ok (ofAnswers answer ps) :=
  collect_eq h true

/-- A batch that does not skip faults ends at the first one. -/
theorem collect_strict (h : ∀ p ∈ ps, TakesIn (answer p)) :
    collect answer false ps =
      match (ofAnswers answer ps).failures with
      | [] => .ok (ofAnswers answer ps)
      | e :: _ => .error e.error := by
  rw [collect_eq h]
  cases (ofAnswers answer ps).failures with
  | nil => rfl
  | cons e es => rfl

/-- A batch that ends without an error has taken all answers in. -/
theorem takesIn_of_collect {b : Batch α} (h : collect answer true ps = .ok b) :
    ∀ p ∈ ps, TakesIn (answer p) := by
  induction ps generalizing b with
  | nil => exact List.forall_mem_nil _
  | cons p ps ih =>
      rw [collect] at h
      -- whatever the first answer is, the batch ends only if the rest of it does
      have hps : ∃ rest, collect answer true ps = .ok rest := by
        cases hrest : collect answer true ps with
        | ok rest => exact ⟨rest, rfl⟩
        | error e =>
            rw [hrest] at h
            split at h
            · cases h
            · cases h
            · cases h
      obtain ⟨rest, hrest⟩ := hps
      refine List.forall_mem_cons.mpr ⟨?_, ih hrest⟩
      cases hanswer : answer p with
      | ok a => exact .result a
      | error e =>
          rw [hanswer] at h
          cases e with
          | structural source fault => exact .failure source fault
          | _ => cases h

/-- A batch holds every path once, with a result or with a failure, each in the order of the
paths. -/
structure Covers (b : Batch α) (ps : List Path) : Prop where
  different : (ps.map Path.toText).Nodup
  results : (b.results.map (·.1)).Sublist ps
  failures : (b.failures.map (·.source)).Sublist (ps.map Path.toText)
  all : (b.results.map (·.1.toText) ++ b.failures.map (·.source)).Perm (ps.map Path.toText)

theorem covers_ofAnswers (hdifferent : (ps.map Path.toText).Nodup)
    (h : ∀ p ∈ ps,
      (∃ a, answer p = .ok a) ∨ ∃ fault, answer p = .error (.structural p.toText fault)) :
    (ofAnswers answer ps).Covers ps := by
  induction ps with
  | nil => exact ⟨hdifferent, List.Sublist.slnil, List.Sublist.slnil, List.Perm.nil⟩
  | cons p ps ih =>
      obtain ⟨hp, hps⟩ := List.forall_mem_cons.mp h
      have hrest := ih (List.nodup_cons.mp hdifferent).2 hps
      -- the first path goes to the results or to the failures
      rcases hp with ⟨a, ha⟩ | ⟨fault, hfault⟩
      · rw [ofAnswers_cons_of_ok ha]
        exact
          { different := hdifferent
            results := hrest.results.cons_cons p
            failures := hrest.failures.cons p.toText
            all := hrest.all.cons p.toText }
      · rw [ofAnswers_cons_of_error hfault]
        exact
          { different := hdifferent
            results := hrest.results.cons p
            failures := hrest.failures.cons_cons p.toText
            all := List.perm_middle.trans (hrest.all.cons p.toText) }

end Batch

/-! ## Answers of documents -/

namespace ParsedText

/-- Whether all faults of a text are structural: those of its frontmatter, and behind a known preset
no line ends too early and no tree is too high. -/
def faultsAreStructural (preset : String) (cs : List Char) : Bool :=
  match Frontmatter.readMap (Frontmatter.split cs).1 with
  | .error fault => fault.isOfDocument
  | .ok _ =>
    match Markdown.Preset.ofName? preset with
    | none => true
    | some p =>
      match Markdown.parse? p (Frontmatter.split cs).2 with
      | none => false
      | some tokens =>
        (Node.ofTokens? tokens).all fun blocks => decide (Node.heightAll blocks ≤ Node.maxHeight)

/-- What comes of reading a text under a name: a document, a structural fault with that name, or
another error; the last exactly if not all its faults are structural. -/
inductive ReadsAs (name : String) (structural : Bool) : Except DocumentError Document → Prop
  | document (h : structural = true) (d : Document) : ReadsAs name structural (.ok d)
  | fault (h : structural = true) (fault : StructuralFault) :
      ReadsAs name structural (.error (.structural name fault))
  | other (h : structural = false) (e : DocumentError)
      (hother : ∀ source fault, e ≠ .structural source fault) : ReadsAs name structural (.error e)

theorem readsAs_ofText {name : String} (hname : (Path.ofText name).toText = name)
    (preset : String) (cs : List Char) :
    ReadsAs name (faultsAreStructural preset cs)
      ((ofText (String.ofList cs) name preset).bind toDocument) := by
  unfold ofText faultsAreStructural
  simp only [String.toList_ofList]
  cases Frontmatter.readMap (Frontmatter.split cs).1 with
  | error fault =>
      cases hof : fault.isOfDocument with
      | true =>
          simp only [hof, if_true]
          exact .fault rfl (.frontmatter fault)
      | false =>
          simp only [hof, Bool.false_eq_true, if_false]
          exact .other rfl (.frontmatter fault) fun _ _ h => by cases h
  | ok frontmatter =>
      cases Markdown.Preset.ofName? preset with
      | none => exact .fault rfl (.unknownPreset preset)
      | some p =>
          simp only
          cases Markdown.parse? p (Frontmatter.split cs).2 with
          | none => exact .other rfl .unreadableLine fun _ _ h => by cases h
          | some tokens =>
              simp only [Except.bind, toDocument]
              cases Node.ofTokens? tokens with
              | none =>
                  simp only [hname]
                  exact .fault rfl .unbalancedTokens
              | some blocks =>
                  -- a tree that is too high is the one error behind the blocks
                  simp only [Option.all_some]
                  split
                  · next hheight =>
                      exact .other (by simpa using hheight) .nestedTooDeeply fun _ _ h => by cases h
                  · next hheight => exact .document (by simpa using hheight) _

end ParsedText

namespace Files

variable {α : Type} {f g : Files} {p : Path}

/-- The documents that are found under a path given by its text. -/
def found (f : Files) (path : String) : List Path :=
  f.documentPaths (Path.ofText path)

theorem found_spec (h : f.top.isWellNamed = true) (path : String) :
    (f.found path).Nodup ∧ ∀ p ∈ f.found path, p.IsProper ∧ p.isDocument = true :=
  documentPaths_spec h (Path.isProper_ofText path)

/-- Whether all faults of the file at a path are structural. One that is not read as a text has such
a fault and no other. -/
def faultsAreStructural (f : Files) (preset : String) (p : Path) : Bool :=
  (f.text? p).all (ParsedText.faultsAreStructural preset)

/-- What a step gives for the document at a path. -/
def answer (f : Files) (preset : String) (step : Document → Except DocumentError α) (p : Path) :
    Except DocumentError α :=
  (Document.ofFile f p preset).bind step

/-- An answer depends on the bytes of the file only. -/
theorem answer_congr (h : g.bytes? p = f.bytes? p) (preset : String)
    (step : Document → Except DocumentError α) : g.answer preset step p = f.answer preset step p := by
  unfold answer Document.ofFile ParsedText.ofFile text?
  rw [h]

theorem readsAs_ofFile (hp : p.IsProper) (preset : String) :
    ParsedText.ReadsAs p.toText (f.faultsAreStructural preset p) (Document.ofFile f p preset) := by
  unfold Document.ofFile ParsedText.ofFile faultsAreStructural
  cases f.text? p with
  | none => exact .fault rfl .unreadableFile
  | some cs => exact ParsedText.readsAs_ofText (by rw [Path.ofText_toText hp]) preset cs

theorem isParsed_of_ofFile {preset : String} {d : Document}
    (h : Document.ofFile f p preset = .ok d) : d.IsParsed := by
  unfold Document.ofFile ParsedText.ofFile at h
  cases htext : f.text? p with
  | none =>
      rw [htext] at h
      cases h
  | some cs =>
      rw [htext] at h
      simp only at h
      obtain ⟨t, ht, hd⟩ := exists_of_bind_eq_ok h
      exact Document.isParsed_of_toDocument (ParsedText.isOf_of_ofText ht) hd

/-- A step that succeeds with all documents that are read adds no faults to those of the file. -/
theorem answer_cases {step : Document → Except DocumentError α}
    (hstep : ∀ d : Document, d.IsParsed → ∃ a, step d = .ok a) (hp : p.IsProper)
    (preset : String) :
    (f.faultsAreStructural preset p = true ∧ ((∃ a, f.answer preset step p = .ok a) ∨
        ∃ fault, f.answer preset step p = .error (.structural p.toText fault))) ∨
      (f.faultsAreStructural preset p = false ∧ ¬Batch.TakesIn (f.answer preset step p)) := by
  have hreads := readsAs_ofFile (f := f) hp preset
  unfold answer
  generalize hread : Document.ofFile f p preset = x at hreads
  cases hreads with
  | document h d => exact Or.inl ⟨h, Or.inl (hstep d (isParsed_of_ofFile hread))⟩
  | fault h fault => exact Or.inl ⟨h, Or.inr ⟨fault, rfl⟩⟩
  | other h e hother =>
      refine Or.inr ⟨h, fun htakes => ?_⟩
      cases htakes with
      | failure source fault => exact hother source fault rfl

/-- A structural fault names its file. -/
theorem answer_source {step : Document → Except DocumentError α}
    (hstep : ∀ d : Document, d.IsParsed → ∃ a, step d = .ok a) (hp : p.IsProper)
    (preset : String) {source : String} {fault : StructuralFault}
    (h : f.answer preset step p = .error (.structural source fault)) : source = p.toText := by
  rcases answer_cases (f := f) hstep hp preset with ⟨-, ⟨a, ha⟩ | ⟨found, hfound⟩⟩ | ⟨-, hnot⟩
  · rw [ha] at h
    cases h
  · rw [hfound] at h
    cases h
    rfl
  · rw [h] at hnot
    exact absurd (.failure source fault) hnot

/-! ## Isolated faults -/

/-- Faults of documents do not spread: skipping them, the batch `run` over the documents under a path
ends with `b`, which holds every document once. A document has the result or the failure that its
file has alone, in these or in any other files. Without skipping, the first failure is raised. -/
structure Isolates (f : Files) (path : String)
    (run : Files → String → Bool → Except DocumentError (Batch α)) (b : Batch α) : Prop where
  skips : run f path true = .ok b
  covers : b.Covers (f.found path)
  result_alone : ∀ p a, (p, a) ∈ b.results → ∀ g bytes, f.bytes? p = some bytes →
    g.bytes? p = some bytes → ∀ skip, run g p.toText skip = .ok { results := [(p, a)] }
  failure_alone : ∀ p ∈ f.found path, ∀ fault, ⟨p.toText, fault⟩ ∈ b.failures →
    ∀ g bytes, f.bytes? p = some bytes → g.bytes? p = some bytes →
      run g p.toText true = .ok { failures := [⟨p.toText, fault⟩] } ∧
        run g p.toText false = .error (.structural p.toText fault)
  raises : run f path false =
    match b.failures with
    | [] => .ok b
    | e :: _ => .error e.error

section Run

variable {step : Document → Except DocumentError α} {path : String} {settings : Settings}

theorem eachDocument_eq {ps : List Path} (hps : f.found path = ps)
    (hne : ps ≠ []) (skip : Bool) :
    f.eachDocument path settings step skip =
      Batch.collect (f.answer settings.preset step) skip ps := by
  unfold found at hps
  unfold eachDocument
  rw [hps]
  cases ps with
  | nil => exact absurd rfl hne
  | cons p ps => rfl

/-- A batch over one file holds the answer for it. -/
theorem eachDocument_alone (hp : p.IsProper) (hdocument : p.isDocument = true) {bytes : List Nat}
    (hf : f.bytes? p = some bytes) (hg : g.bytes? p = some bytes) (skip : Bool) :
    g.eachDocument p.toText settings step skip =
      Batch.collect (f.answer settings.preset step) skip [p] := by
  have hpaths : g.found p.toText = [p] := by
    unfold found
    rw [Path.ofText_toText hp]
    exact documentPaths_of_bytes? hg hdocument
  rw [eachDocument_eq hpaths (List.cons_ne_nil p [])]
  unfold Batch.collect
  rw [answer_congr (hg.trans hf.symm)]
  rfl

theorem isolates_ofAnswers (hstep : ∀ d : Document, d.IsParsed → ∃ a, step d = .ok a)
    (hnames : f.top.isWellNamed = true) (hne : f.found path ≠ [])
    (hfaults : ∀ p ∈ f.found path,
      f.faultsAreStructural settings.preset p = true) :
    f.Isolates path (fun g path skip => g.eachDocument path settings step skip)
      (Batch.ofAnswers (f.answer settings.preset step) (f.found path)) := by
  obtain ⟨hnodup, hproper⟩ := found_spec hnames path
  have hanswers : ∀ p ∈ f.found path,
      (∃ a, f.answer settings.preset step p = .ok a) ∨
        ∃ fault, f.answer settings.preset step p = .error (.structural p.toText fault) := by
    intro p hp
    rcases answer_cases (f := f) hstep (hproper p hp).1 settings.preset with ⟨-, h⟩ | ⟨h, -⟩
    · exact h
    · rw [hfaults p hp] at h
      cases h
  have htakes := fun p hp => Batch.TakesIn.of_named (hanswers p hp)
  have hsame : ∀ p ∈ f.found path, ∀ q ∈ f.found path,
      p.toText = q.toText → p = q := fun p hp q hq =>
    Path.toText_injective (hproper p hp).1 (hproper q hq).1
  exact
    { skips := (eachDocument_eq rfl hne true).trans (Batch.collect_skip htakes)
      covers := Batch.covers_ofAnswers (List.Nodup.map_on hsame hnodup) hanswers
      result_alone := fun p a hresult g bytes hf hg skip => by
        obtain ⟨hp, ha⟩ := Batch.of_mem_results hresult
        rw [eachDocument_alone (hproper p hp).1 (hproper p hp).2 hf hg, Batch.collect, ha]
        rfl
      failure_alone := fun p hp fault hfailure g bytes hf hg => by
        obtain ⟨q, hq, hanswer⟩ := Batch.exists_of_mem_failures hfailure
        -- the failure names the file that it belongs to
        obtain rfl : p = q :=
          hsame p hp q hq (answer_source hstep (hproper q hq).1 settings.preset hanswer)
        constructor
        · rw [eachDocument_alone (hproper p hp).1 (hproper p hp).2 hf hg, Batch.collect, hanswer]
          rfl
        · rw [eachDocument_alone (hproper p hp).1 (hproper p hp).2 hf hg, Batch.collect, hanswer]
          rfl
      raises := (eachDocument_eq rfl hne false).trans (Batch.collect_strict htakes) }

/-- Faults of the documents under a path are isolated exactly if all of them are structural. -/
theorem isolates_iff_of_step (hstep : ∀ d : Document, d.IsParsed → ∃ a, step d = .ok a)
    (hnames : f.top.isWellNamed = true) (hne : f.found path ≠ []) :
    (∀ p ∈ f.found path, f.faultsAreStructural settings.preset p = true) ↔
      ∃ b, f.Isolates path (fun g path skip => g.eachDocument path settings step skip) b := by
  constructor
  · exact fun hfaults => ⟨_, isolates_ofAnswers hstep hnames hne hfaults⟩
  · rintro ⟨b, hb⟩ p hp
    have hproper := ((found_spec hnames path).2 p hp).1
    have htakes := Batch.takesIn_of_collect ((eachDocument_eq rfl hne true).symm.trans hb.skips) p hp
    rcases answer_cases (f := f) hstep hproper settings.preset with ⟨h, -⟩ | ⟨-, h⟩
    · exact h
    · exact absurd htakes h

end Run

/-- **Isolated faults.** Of the documents under a path in well-named files, if there are any, faults
are isolated exactly if all of them are structural, both where section rows and where elements are
asked for. -/
theorem isolates_iff {f : Files} (hnames : f.top.isWellNamed = true) {path : String}
    (hne : f.found path ≠ []) (settings : Settings) :
    ((∀ p ∈ f.found path, f.faultsAreStructural settings.preset p = true) ↔
      ∃ b, f.Isolates path (fun g path skip => g.sectionsUnder path settings skip) b) ∧
    ((∀ p ∈ f.found path, f.faultsAreStructural settings.preset p = true) ↔
      ∃ b, f.Isolates path (fun g path skip => g.elementsUnder path settings skip) b) := by
  have hsections : ∀ d : Document, d.IsParsed →
      ∃ rows, d.sections settings.sectionOptions = .ok rows := fun _ hd =>
    ⟨_, Document.sections_eq hd.wellHeaded settings.sectionOptions⟩
  have helements : ∀ d : Document, d.IsParsed → ∃ es, d.elements .lenient = .ok es :=
    fun _ hd => hd.exists_elements .lenient
  exact ⟨isolates_iff_of_step hsections hnames hne, isolates_iff_of_step helements hnames hne⟩

/-- A file that holds a text. -/
def textFile (text : String) : FileTree :=
  .file (text.toList.flatMap Text.Utf8.bytesOf)

/-- A directory with two documents. -/
def twoDocuments (first second : String) : Files :=
  { top := .directory [("a.md", textFile first), ("b.md", textFile second)] }

theorem found_twoDocuments (first second : String) :
    (twoDocuments first second).found "." =
      [{ names := ["a.md"] }, { names := ["b.md"] }] := by
  have hlookup : (twoDocuments first second).lookup? (Path.ofText ".") =
      some (.directory [("a.md", textFile first), ("b.md", textFile second)]) := rfl
  have hpaths : (FileTree.entryPaths (Path.ofText ".")
      [("a.md", textFile first), ("b.md", textFile second)]).filter Path.isDocument =
        [{ names := ["a.md"] }, { names := ["b.md"] }] := rfl
  unfold found
  rw [documentPaths_of_pairwise hlookup, hpaths]
  rw [hpaths]
  decide

/-- A document, and one whose frontmatter is a list. -/
def mixedFiles : Files :=
  twoDocuments "# A\n" "---\n- x\n---\n"

theorem isolates_iff_mixedFiles :
    mixedFiles.top.isWellNamed = true ∧ mixedFiles.found "." ≠ [] ∧
      ∃ b, mixedFiles.Isolates "." (fun g path skip => g.sectionsUnder path {} skip) b ∧
        b.results.map (fun r => (r.1.toText, r.2.map (·.id))) = [("a.md", ["a"])] ∧
        b.failures = [⟨"b.md", .frontmatter (.notAMap "list")⟩] := by
  have hpaths : mixedFiles.found "." =
      [{ names := ["a.md"] }, { names := ["b.md"] }] := found_twoDocuments _ _
  have hne : mixedFiles.found "." ≠ [] := by
    rw [hpaths]
    exact List.cons_ne_nil _ _
  have hnames : mixedFiles.top.isWellNamed = true := by decide
  have hfaults : ∀ p ∈ mixedFiles.found ".",
      mixedFiles.faultsAreStructural ({} : Settings).preset p = true := by
    rw [hpaths]
    decide +kernel
  have hfacts : ∀ b ∈ (Batch.collect (mixedFiles.answer ({} : Settings).preset
      (·.sections ({} : Settings).sectionOptions)) true
        [{ names := ["a.md"] }, { names := ["b.md"] }]).toOption,
      b.results.map (fun r => (r.1.toText, r.2.map (·.id))) = [("a.md", ["a"])] ∧
        b.failures = [⟨"b.md", .frontmatter (.notAMap "list")⟩] := by
    decide +kernel
  obtain ⟨b, hb⟩ := (isolates_iff hnames hne {}).1.mp hfaults
  have hrun := (eachDocument_eq hpaths (List.cons_ne_nil _ _) true).symm.trans hb.skips
  exact ⟨hnames, hne, b, hb, hfacts b (by rw [hrun]; rfl)⟩

/-- A document whose frontmatter holds an empty number, and one without faults. -/
def emptyNumberFiles : Files :=
  twoDocuments "---\na: !!int\n---\n" "# B\n"

/-- The empty number of the first document is no structural fault. It ends the batch, whether faults
are skipped or not, though the second document has rows alone. -/
theorem not_isolates_emptyNumber :
    emptyNumberFiles.top.isWellNamed = true ∧
      (emptyNumberFiles.found ".").map Path.toText = ["a.md", "b.md"] ∧
      (∀ skip, emptyNumberFiles.sectionsUnder "." {} skip =
        .error (.frontmatter (.scalar .emptyNumeral))) ∧
      (emptyNumberFiles.sectionsUnder "b.md" {} true).toOption.isSome = true ∧
      ¬∃ b, emptyNumberFiles.Isolates "." (fun g path skip => g.sectionsUnder path {} skip) b := by
  have hpaths : emptyNumberFiles.found "." =
      [{ names := ["a.md"] }, { names := ["b.md"] }] := found_twoDocuments _ _
  have hanswers : ∀ skip, (Batch.collect (emptyNumberFiles.answer ({} : Settings).preset
      (·.sections ({} : Settings).sectionOptions)) skip
        [{ names := ["a.md"] }, { names := ["b.md"] }]).map (·.results.length) =
      .error (.frontmatter (.scalar .emptyNumeral)) := by
    decide +kernel
  have hends : ∀ skip, emptyNumberFiles.sectionsUnder "." {} skip =
      .error (.frontmatter (.scalar .emptyNumeral)) := fun skip =>
    (eachDocument_eq hpaths (List.cons_ne_nil _ _) skip).trans
      (Attempt.eq_error_of_map (hanswers skip))
  refine ⟨by decide, ?_, hends, by decide +kernel, ?_⟩
  · rw [hpaths]
    decide
  · rintro ⟨b, hb⟩
    exact nomatch (hends true).symm.trans hb.skips

end Files

end MarkdownSections
