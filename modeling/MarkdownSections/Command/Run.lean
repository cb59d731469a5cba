import MarkdownSections.Command.Basic
import MarkdownSections.Document.Batch
import MarkdownSections.Document.Write
import MarkdownSections.Element.File
import MarkdownSections.Element.Write
import MarkdownSections.Section.Lookup
import MarkdownSections.Section.Write
import MarkdownSections.Settings.Load
import MarkdownSections.Settings.LogLevel

/-!
# Running commands

A command reads the settings and files and leaves an outcome: a text on standard output, lines on
standard error, an exit code, and perhaps a text for a file. Errors about values are reported in
lines; all other errors escape from the command and are part of the outcome as they are.
-/

set_option autoImplicit false

namespace MarkdownSections

/-- The errors that can escape from a command. -/
inductive CommandError where
  | settings (e : SettingsError)
  | logLevel (fault : LogLevel.Fault)
  | document (e : DocumentError)
  | elements (e : ElementFileError)
  | payload (e : PayloadError)
  | write (fault : WriteFault)
deriving Repr

/-- The wording of an error that escapes. -/
def CommandError.message : CommandError → String
  | settings e => e.message
  | logLevel fault => fault.message
  | document e => e.message
  | elements e => e.message
  | payload e => e.message
  | write fault => fault.message

/-- What a command leaves behind. -/
structure Outcome where
  exitCode : Nat := 0
  /-- The text on standard output. -/
  output : String := ""
  /-- The lines on standard error. -/
  errors : String := ""
  /-- The error that escaped, if one did. -/
  escaped : Option CommandError := none
  /-- The text that is written to a file, if one is. -/
  written : Option (Path × String) := none
deriving Repr

/-- Where a command runs: the files, and the environment variables. -/
structure Surroundings where
  files : Files
  environment : List (String × String) := []
deriving Repr

namespace Command

/-! ## Stopping early -/

/-- Why a command stops early. -/
inductive Stop where
  /-- With lines on standard error. -/
  | reported (lines : String)
  | escaped (e : CommandError)
deriving Repr

/-- A command that may stop early. -/
abbrev Run (α : Type) := Except Stop α

/-- The outcome of a command that stops early. -/
def Stop.outcome : Stop → Outcome
  | reported lines => { exitCode := 1, errors := lines }
  | escaped e => { exitCode := 1, escaped := some e }

/-- Stops with a message. -/
def fail {α : Type} (message : String) : Run α :=
  .error (.reported ("Error: " ++ message ++ "\n"))

/-- Stops with a message and its cause. -/
def failBecause {α : Type} (message cause : String) : Run α :=
  .error (.reported ("Error: " ++ message ++ "\n  " ++ cause ++ "\n"))

/-- Stops because a document has no section with an id. -/
def failForSection {α : Type} (id path : String) : Run α :=
  .error (.reported ("No section '" ++ id ++ "' in " ++ path ++ ".\n"))

/-- Goes on with a result; an error escapes. -/
def orEscape {ε α : Type} (wrap : ε → CommandError) : Except ε α → Run α
  | .ok a => .ok a
  | .error e => .error (.escaped (wrap e))

/-! ## Steps -/

/-- The settings, with the log level that they name checked. -/
def settings (s : Surroundings) (overrides : List (String × Loose) := []) : Run Settings :=
  match Settings.load s.files s.environment overrides with
  | .error e => if e.isReported then fail e.message else .error (.escaped (.settings e))
  | .ok settings => do
    let _ ← orEscape .logLevel (LogLevel.ofName settings.logLevel)
    return settings

/-- The document at a path. -/
def document (s : Surroundings) (path : String) (settings : Settings) : Run Document :=
  match Document.ofFile s.files (Path.ofText path) settings.preset with
  | .ok d => .ok d
  | .error (.structural source fault) =>
    failBecause ("Cannot parse " ++ path) (DocumentError.structural source fault).message
  | .error e => .error (.escaped (.document e))

/-- What is made of an element file; `failure` is what is said when it is not read. -/
def fromElements {α : Type} (failure : String) : Except ElementWorkError α → Run α
  | .ok a => .ok a
  | .error (.file e) =>
    if e.isReported then failBecause failure e.message else .error (.escaped (.elements e))
  | .error (.payload e) => .error (.escaped (.payload e))

/-- The outcome that shows a text, or writes it to a file when one is named. -/
def present (s : Surroundings) (text : String) (out : Option String) : Run Outcome :=
  match out with
  | none | some "" => .ok { output := text }
  | some out => do
    let path := Path.ofText out
    let _ ← orEscape .write (s.files.write path text)
    return { output := "Wrote " ++ out ++ "\n", written := some (path, text) }

/-- The outcome that shows a value, spread over lines. -/
def presentJson (v : Json) : Outcome :=
  { output := v.toIndentedString ++ "\n" }

/-! ## The commands -/

/-- The override of a field, null when it is left open. -/
def override {α : Type} (name : String) (make : α → Loose) (value : Option α) : String × Loose :=
  (name, (value.map make).getD .null)

/-- The overrides in a request for section rows. -/
def SectionsRequest.overrides (r : SectionsRequest) : List (String × Loose) :=
  [override "min_level" .int r.minLevel, override "max_level" .int r.maxLevel,
    override "content_mode" .text r.mode,
    override "max_content_length" .int r.maxContentLength,
    override "include_content" .bool r.includeContent]

/-- The rows of all documents as one list, each with the path of its document. -/
def rowsJson (b : Batch (List Section)) : Json :=
  .list (b.results.flatMap fun (p, rows) =>
    rows.map fun row => .map (("file", .text p.toText) :: row.fields))

/-- The lines about the documents that failed. -/
def skippedLines (b : Batch (List Section)) : String :=
  String.join (b.failures.map fun d => "  skipped: " ++ d.error.message ++ "\n")

/-- Shows the section rows of all documents under a path. -/
def runSections (s : Surroundings) (r : SectionsRequest) : Run Outcome := do
  let settings ← settings s (SectionsRequest.overrides r)
  match s.files.sectionsUnder r.path settings with
  | .error e => if e.isReported then fail e.message else .error (.escaped (.document e))
  | .ok b =>
    let text :=
      if r.asMarkdown then
        String.join (b.results.map fun (_, rows) => Section.renderAll rows "" settings.blankLines)
      else (rowsJson b).toIndentedString ++ "\n"
    return { ← present s text r.out with errors := skippedLines b }

/-- Shows the content of one section. -/
def runSectionContent (s : Surroundings) (path id : String) (nested : Bool) : Run Outcome := do
  let d ← document s path (← settings s)
  if ← orEscape .document (linkIsValid (.ok d) ("#" ++ id)) then
    return { output := ← orEscape .document (d.sectionContent id nested) }
  else failForSection id path

/-- The line of a table of contents for a row. -/
def contentsLine (row : Section) : String :=
  String.ofList (List.replicate (2 * (row.level - 1).toNat) ' ') ++ "- " ++ row.title
    ++ " (#" ++ row.id ++ ")\n"

/-- Shows the table of contents. -/
def runHeadings (s : Surroundings) (path : String) (maxLevel : Option Int) : Run Outcome := do
  let settings ← settings s [override "max_level" .int maxLevel]
  let d ← document s path settings
  let rows ← orEscape .document (d.contentsTable settings.maxLevel)
  return { output := String.join (rows.map contentsLine) }

/-- Shows the titles on the way to a section. -/
def runBreadcrumb (s : Surroundings) (path id separator : String) : Run Outcome := do
  let d ← document s path (← settings s)
  let trail ← orEscape .document (d.breadcrumb id separator)
  if trail.isEmpty then failForSection id path else return { output := trail ++ "\n" }

/-- Shows the elements of the one document under a path. -/
def runBlocks (s : Surroundings) (path : String) (out : Option String) : Run Outcome := do
  let settings ← settings s
  match s.files.elementsUnder path settings false with
  | .error e => if e.isReported then fail e.message else .error (.escaped (.document e))
  | .ok b =>
    match b.results with
    | [(_, es)] => present s (Element.dumpAll es ++ "\n") out
    | results =>
      fail ("Expected a single markdown file, found " ++ Text.showNat results.length)

/-- Shows an element file as a document. -/
def runRender (s : Surroundings) (path : String) (out : Option String) : Run Outcome := do
  let _ ← settings s
  present s (← fromElements "Render failed" (Element.renderFile s.files (Path.ofText path))) out

/-- Shows the section rows of an element file. -/
def runReduce (s : Surroundings) (path : String) (out : Option String) : Run Outcome := do
  let _ ← settings s
  let rows ← fromElements "Reduce failed" (Element.reduceFile s.files (Path.ofText path))
  present s (Section.dumpAll rows ++ "\n") out

/-- Shows what is asked of the document at a path. -/
def runOnDocument (s : Surroundings) (path : String)
    (answer : Document → Except DocumentError Outcome) : Run Outcome := do
  orEscape .document (answer (← document s path (← settings s)))

/-- Runs a command. -/
def run (s : Surroundings) : Command → Run Outcome
  | sections r => runSections s r
  | sectionContent path id nested => runSectionContent s path id nested
  | headings path maxLevel => runHeadings s path maxLevel
  | breadcrumb path id separator => runBreadcrumb s path id separator
  | blocks path out => runBlocks s path out
  | render path out => runRender s path out
  | reduce path out => runReduce s path out
  | code path language => runOnDocument s path fun d =>
    return presentJson (.list ((d.codeBlocks language).map CodeBlock.toJson))
  | links path => runOnDocument s path fun d =>
    return presentJson (.list ((← d.links).map Link.toJson))
  | images path => runOnDocument s path fun d =>
    return presentJson (.list ((← d.images).map Image.toJson))
  | tables path cells => runOnDocument s path fun d =>
    return presentJson (.list
      (if cells then d.tableCells.map TableCell.toJson else d.tables.map DocumentTable.toJson))
  | stats path => runOnDocument s path fun d => return presentJson d.stats.toJson
  | text path => runOnDocument s path fun d => return { output := d.visibleText }
  | metadata path => runOnDocument s path fun d =>
    return presentJson (.textMap d.frontmatter)

/-- What a command line leaves behind. -/
def Invocation.outcome (s : Surroundings) : Invocation → Outcome
  | help => {}
  | misuse => { exitCode := 2 }
  | command c =>
    match c.run s with
    | .ok outcome => outcome
    | .error stop => stop.outcome

end Command

end MarkdownSections
