import MarkdownSections.Files.Tree
import MarkdownSections.Settings.Read
import MarkdownSections.Yaml.Value

/-!
# Loading settings

Each field is taken from the overrides, else from its environment variable, else from the settings
file, else from its default. An override that is null and a variable that is empty do not count.
The chosen values are checked together.
-/

set_option autoImplicit false

namespace MarkdownSections

/-- Why no settings are loaded. -/
inductive SettingsError where
  /-- Values that are refused, in the order of the fields. -/
  | refused (issues : List Issue)
  | malformedFile
  /-- A scalar in the settings file stands for no value. -/
  | scalar (fault : Yaml.ScalarFault)
  /-- The nodes of the settings file stand inside each other too deeply. -/
  | nestedTooDeeply
  /-- The settings file is no text. -/
  | garbledFile (fault : Text.Utf8.Fault)
  | fileIsDirectory
  /-- The settings file holds no record. -/
  | notARecord
  /-- The settings file holds a value to which overrides cannot be added. -/
  | notExtensible
deriving DecidableEq, Repr

namespace SettingsError

/-- The wording of an error. What a library says about it is left out. -/
def message : SettingsError → String
  | refused issues => refusalMessage "Settings" issues.length
  | malformedFile => "Invalid config.yaml:"
  | scalar fault => fault.message
  | nestedTooDeeply => "the settings file is nested too deeply"
  | garbledFile fault => fault.message
  | fileIsDirectory => "the settings file is a directory"
  | notARecord => "the settings file holds no record"
  | notExtensible => "the settings file holds no map"

/-- Whether an error is about a value, and so one that a command reports. -/
def isReported : SettingsError → Bool
  | refused _ | malformedFile | garbledFile _ => true
  | scalar (.truth _) => false
  | scalar fault => fault.isOfText
  | nestedTooDeeply | fileIsDirectory | notARecord | notExtensible => false

end SettingsError

namespace Settings

/-- The path of the settings file. -/
def filePath : Path := { names := ["config.yaml"] }

/-- What a settings file holds. -/
inductive FileContent where
  /-- A map whose keys are texts. -/
  | entries (values : List (String × Loose))
  /-- Something that takes further entries and yet is no record: a set, or a map with other keys. -/
  | extensible
  /-- Something that takes no entries. -/
  | fixed
deriving DecidableEq, Repr

/-- The value of a scalar before its check. Bytes stand for the text that they spell. -/
def looseOfScalar : Yaml.Scalar → Loose
  | .null => .null
  | .bool b => .bool b
  | .int i => .int i
  | .float x => .float x
  | .text s => .text s
  | .brokenText points => .brokenText points
  | .bytes bytes =>
    match Text.Utf8.decode? bytes with
    | some cs => .text (String.ofList cs)
    | none => .garbled
  | .date _ | .moment _ => .other

/-- The value of a node before its check. -/
def looseOfNode (g : Yaml.Graph) (n : Nat) : Loose :=
  match g.value n with
  | .scalar s => looseOfScalar s
  | _ => .other

/-- The entry of a map whose key is a text. -/
def entryOf? (g : Yaml.Graph) (entry : (Nat × Yaml.Scalar) × Nat) : Option (String × Loose) :=
  match entry.1.2 with
  | .text key => some (key, looseOfNode g entry.2)
  | .brokenText points => some (String.ofList (Text.charsOfPoints points), looseOfNode g entry.2)
  | _ => none

/-- What the value at the root of a graph holds. -/
def FileContent.ofGraph (g : Yaml.Graph) : FileContent :=
  match g.value Yaml.Graph.root with
  | .map pairs =>
    match pairs.mapM (entryOf? g) with
    | some values => .entries values
    | none => .extensible
  | .set [] => .entries []
  | .set _ => .extensible
  | value => if value.isBlankValue then .entries [] else .fixed

/-- What the text of a settings file holds. -/
def FileContent.ofText (text : List Char) : Except SettingsError FileContent :=
  match Yaml.Graph.ofText? text with
  | .error .malformed => .error .malformedFile
  | .error .nestedTooDeeply => .error .nestedTooDeeply
  | .error (.scalar fault) => .error (.scalar fault)
  | .ok none => .ok (.entries [])
  | .ok (some g) => .ok (.ofGraph g)

/-- What the settings file holds; a file that does not exist holds nothing. -/
def FileContent.ofFiles (f : Files) : Except SettingsError FileContent :=
  match f.lookup? filePath with
  | none => .ok (.entries [])
  | some (.directory _) => .error .fileIsDirectory
  | some (.file bytes) =>
    match Text.Utf8.decode? bytes with
    | some text => ofText (Text.unifyNewlines text)
    | none => .error ((Text.Utf8.fault? bytes).elim .malformedFile .garbledFile)

/-! ## Choosing -/

/-- The name of the environment variable of a field. -/
def variableName (field : String) : String :=
  "MDBLOCKS_" ++ Text.upperString field

/-- The value of the environment variable of a field, if it is set and not empty. -/
def environmentValue? (environment : List (String × String)) (field : String) : Option Loose :=
  match environment.lookup (variableName field) with
  | some value => if value.isEmpty then none else some (.text value)
  | none => none

/-- The override of a field, if there is one. -/
def overrideValue? (overrides : List (String × Loose)) (field : String) : Option Loose :=
  match overrides.lookup field with
  | none | some .null => none
  | some value => some value

/-- The chosen value of a field, if any is given. -/
def chosen? (values : List (String × Loose)) (environment : List (String × String))
    (overrides : List (String × Loose)) (field : String) : Option Loose :=
  ((overrideValue? overrides field).or (environmentValue? environment field)).or
    (values.lookup field)

/-- Loads the settings. -/
def load (f : Files) (environment : List (String × String)) (overrides : List (String × Loose)) :
    Except SettingsError Settings := do
  match ← FileContent.ofFiles f with
  | .entries values =>
    let chosen := fieldNames.filterMap fun field =>
      (chosen? values environment overrides field).map (field, ·)
    match ofEntries chosen with
    | .ok settings => return settings
    | .error issues => throw (.refused issues)
  | .extensible => throw .notARecord
  | .fixed =>
    let changed := fieldNames.any fun field => (environmentValue? environment field).isSome
    throw (if overrides.isEmpty || changed then .notARecord else .notExtensible)

end Settings

end MarkdownSections
