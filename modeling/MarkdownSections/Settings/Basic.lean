import MarkdownSections.Document.Parse
import MarkdownSections.Section.Extract

/-!
# Settings

What can be chosen once for all documents: the preset of the parser, which section rows are wanted,
and how sections are written back.
-/

set_option autoImplicit false

namespace MarkdownSections

/-- The choices for all documents, each with its default. -/
structure Settings where
  appName : String := "mdblocks"
  /-- The name of the preset of the parser. -/
  preset : String := ParsedText.defaultPreset
  minLevel : Int := 1
  maxLevel : Int := 6
  includeContent : Bool := true
  mode : ContentMode := .minimal
  maxContentLength : Int := SectionOptions.defaultLimit
  /-- The number of empty lines between sections that are written back. -/
  blankLines : Int := 1
  logLevel : String := "WARNING"
deriving DecidableEq, Repr

namespace Settings

/-- What rows are wanted by default. -/
def sectionOptions (s : Settings) : SectionOptions :=
  { minLevel := s.minLevel, maxLevel := s.maxLevel, includeContent := s.includeContent
    mode := s.mode, maxContentLength := s.maxContentLength }

end Settings

end MarkdownSections
