import MarkdownSections.Schema.Record
import MarkdownSections.Settings.Basic

/-!
# Checking settings

Every field has a default, and fields with other names are passed over. Levels lie between 1 and 6,
the length limit is positive, and the number of empty lines is not negative. Only when every field
passes are the two levels compared with each other.
-/

set_option autoImplicit false

namespace MarkdownSections.Settings

/-- The names of the fields, in the order of the type. -/
def fieldNames : List String :=
  ["app_name", "parser_config", "min_level", "max_level", "include_content", "content_mode",
    "max_content_length", "blank_lines", "log_level"]

/-- The level of the deepest headings. -/
def greatestLevel : Int := 6

/-- Reads a whole number that must reach a bound. -/
def readAtLeast (least : Int) (v : Loose) : Checked Int := do
  let i ← v.toInt
  if i < least then throw .tooSmall else return i

/-- Reads a level of headings. -/
def readLevel (v : Loose) : Checked Int := do
  let i ← readAtLeast 1 v
  if greatestLevel < i then throw .tooLarge else return i

/-- Reads the name of a content mode. -/
def readMode (v : Loose) : Checked ContentMode := do
  match v with
  | .brokenText _ => throw .garbledText
  | v =>
    match ContentMode.ofName? (← v.toText) with
    | some mode => return mode
    | none => throw .patternMismatch

/-- Checks a record of settings. -/
def ofEntries (entries : List (String × Loose)) : Except (List Issue) Settings :=
  let d : Settings := {}
  let appName := Checked.optional entries "app_name" d.appName Loose.toText
  let preset := Checked.optional entries "parser_config" d.preset Loose.toText
  let minLevel := Checked.optional entries "min_level" d.minLevel readLevel
  let maxLevel := Checked.optional entries "max_level" d.maxLevel readLevel
  let includeContent := Checked.optional entries "include_content" d.includeContent Loose.toBool
  let mode := Checked.optional entries "content_mode" d.mode readMode
  let maxContentLength :=
    Checked.optional entries "max_content_length" d.maxContentLength (readAtLeast 1)
  let blankLines := Checked.optional entries "blank_lines" d.blankLines (readAtLeast 0)
  let logLevel := Checked.optional entries "log_level" d.logLevel Loose.toText
  match appName, preset, minLevel, maxLevel, includeContent, mode, maxContentLength, blankLines,
    logLevel with
  | .ok appName, .ok preset, .ok minLevel, .ok maxLevel, .ok includeContent, .ok mode,
    .ok maxContentLength, .ok blankLines, .ok logLevel =>
    if maxLevel < minLevel then .error [⟨[], .unsound⟩]
    else
      .ok
        { appName, preset, minLevel, maxLevel, includeContent, mode, maxContentLength, blankLines
          logLevel }
  | _, _, _, _, _, _, _, _, _ =>
    .error (appName.issues "app_name" ++ preset.issues "parser_config"
      ++ minLevel.issues "min_level" ++ maxLevel.issues "max_level"
      ++ includeContent.issues "include_content" ++ mode.issues "content_mode"
      ++ maxContentLength.issues "max_content_length" ++ blankLines.issues "blank_lines"
      ++ logLevel.issues "log_level")

end MarkdownSections.Settings
