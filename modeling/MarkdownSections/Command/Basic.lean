import MarkdownSections.Command.Words

/-!
# Commands

The commands, what each is told, and how a command line spells them. A command line names a command
and then its operands and options; it may ask for help instead.
-/

set_option autoImplicit false

namespace MarkdownSections

/-- What section rows a command line asks for; what is left open is taken from the settings. -/
structure SectionsRequest where
  path : String
  minLevel : Option Int := none
  maxLevel : Option Int := none
  mode : Option String := none
  maxContentLength : Option Int := none
  includeContent : Option Bool := none
  /-- Whether the sections are written back as a document. -/
  asMarkdown : Bool := false
  out : Option String := none
deriving DecidableEq, Repr

/-- A command with what it is told. -/
inductive Command where
  | sections (request : SectionsRequest)
  | sectionContent (path id : String) (nested : Bool)
  | headings (path : String) (maxLevel : Option Int)
  | breadcrumb (path id separator : String)
  | blocks (path : String) (out : Option String)
  | render (path : String) (out : Option String)
  | reduce (path : String) (out : Option String)
  | code (path : String) (language : Option String)
  | links (path : String)
  | images (path : String)
  | tables (path : String) (cells : Bool)
  | stats (path : String)
  | text (path : String)
  | metadata (path : String)
deriving DecidableEq, Repr

namespace Command

/-- The path that a command reads. -/
def path : Command → String
  | sections r => r.path
  | sectionContent path _ _ | headings path _ | breadcrumb path _ _ | blocks path _ | render path _
  | reduce path _ | code path _ | links path | images path | tables path _ | stats path
  | text path | metadata path => path

/-- The option that asks for help. -/
def helpName : String := "--help"

/-- The options of a command, by the name of the command. -/
def optionTables : List (String × OptionTable) :=
  [("sections",
      [("--min-level", .valued), ("--max-level", .valued), ("--content-mode", .valued),
        ("--max-content-length", .valued), ("--content", .flag), ("--no-content", .flag),
        ("--markdown", .flag), ("--out", .valued)]),
    ("section", [("--include-subsections", .flag)]),
    ("headings", [("--max-level", .valued)]),
    ("breadcrumb", [("--separator", .valued)]),
    ("blocks", [("--out", .valued)]),
    ("render", [("--out", .valued)]),
    ("reduce", [("--out", .valued)]),
    ("code", [("--language", .valued)]),
    ("links", []),
    ("images", []),
    ("tables", [("--cells", .flag)]),
    ("stats", []),
    ("text", []),
    ("metadata", [])]

/-- The separator between titles that is used by default. -/
def defaultSeparator : String := " > "

/-- The request for section rows in sorted words. -/
def sectionsRequest? (path : String) (w : Words) : Option SectionsRequest := do
  let minLevel ← w.readInt? "--min-level"
  let maxLevel ← w.readInt? "--max-level"
  let maxContentLength ← w.readInt? "--max-content-length"
  some
    { path, minLevel, maxLevel, mode := w.text? "--content-mode", maxContentLength
      includeContent := w.choice? "--content" "--no-content", asMarkdown := w.has "--markdown"
      out := w.text? "--out" }

/-- The command of a name and its sorted words. -/
def ofWords? (name : String) (w : Words) : Option Command :=
  match name, w.operands with
  | "sections", [path] => (sectionsRequest? path w).map sections
  | "section", [path, id] => some (sectionContent path id (w.has "--include-subsections"))
  | "headings", [path] => (w.readInt? "--max-level").map (headings path)
  | "breadcrumb", [path, id] =>
    some (breadcrumb path id ((w.text? "--separator").getD defaultSeparator))
  | "blocks", [path] => some (blocks path (w.text? "--out"))
  | "render", [path] => some (render path (w.text? "--out"))
  | "reduce", [path] => some (reduce path (w.text? "--out"))
  | "code", [path] => some (code path (w.text? "--language"))
  | "links", [path] => some (links path)
  | "images", [path] => some (images path)
  | "tables", [path] => some (tables path (w.has "--cells"))
  | "stats", [path] => some (stats path)
  | "text", [path] => some (text path)
  | "metadata", [path] => some (metadata path)
  | _, _ => none

/-- What a command line asks for. -/
inductive Invocation where
  | help
  /-- Nothing that is known. -/
  | misuse
  | command (c : Command)
deriving DecidableEq, Repr

/-- What the words behind the name of a command ask for. -/
def Invocation.ofCommandWords (name : String) (words : List String) : Invocation :=
  match optionTables.lookup name with
  | none => misuse
  | some options =>
    match Words.sort? ((helpName, .flag) :: options) words with
    | none => misuse
    | some w => if w.has helpName then help else (ofWords? name w).elim misuse command

/-- What a command line asks for. Options in front of the name of a command can only ask for
help. -/
def Invocation.ofWords : List String → Invocation
  | [] => misuse
  | word :: rest =>
    if word == helpName then afterHelp rest
    else if word == "--" then ofName rest
    else if Words.isOption word then misuse
    else ofCommandWords word rest
where
  /-- The words behind a request for help. -/
  afterHelp : List String → Invocation
    | [] => help
    | word :: rest =>
      if word == helpName then afterHelp rest
      else if word != "--" && Words.isOption word then misuse
      else help
  /-- The words behind a double dash. -/
  ofName : List String → Invocation
    | [] => misuse
    | name :: rest => ofCommandWords name rest

end Command

end MarkdownSections
