import MarkdownSections.Json.Writer
import MarkdownSections.Section.Basic

/-!
# Writing sections

The record of a section names every field, in the order of the type.

Section rows are written back as a document: a heading line for each titled row, its content, and
blank lines. A row of level 0 is written as frontmatter. Frontmatter that is given outright
replaces all rows of level 0.
-/

set_option autoImplicit false

namespace MarkdownSections.Section

/-! ## As records -/

/-- The value of an optional number. -/
def optionalInt (n : Option Int) : Json :=
  (n.map Json.int).getD .null

/-- The fields of a section. -/
def fields (s : Section) : List (String × Json) :=
  [("id", .text s.id), ("path", .text s.path), ("level", .int s.level), ("title", .text s.title),
    ("content", .text s.content), ("parent_id", .text s.parentId),
    ("start_line", optionalInt s.startLine), ("end_line", optionalInt s.endLine)]

/-- The record of a section. -/
def toJson (s : Section) : Json :=
  .map s.fields

/-- The text of a list of sections, spread over lines. -/
def dumpAll (sections : List Section) : String :=
  (Json.list (sections.map toJson)).toIndentedString

/-! ## As a document -/

/-- The text of one row. -/
def render (blankLines : Int) (s : Section) : String :=
  if s.level = 0 then
    if s.content.isEmpty then "" else "---\n" ++ s.content ++ "\n---\n\n"
  else
    let heading :=
      if 1 ≤ s.level && s.level ≤ 6 && !s.title.isEmpty then
        String.ofList (List.replicate s.level.toNat '#') ++ " " ++ s.title ++ "\n"
      else ""
    let body := if s.content.isEmpty then "" else "\n" ++ s.content ++ "\n"
    heading ++ body ++ String.ofList (List.replicate blankLines.toNat '\n')

/-- The document that rows make, with an optional frontmatter of its own. -/
def renderAll (sections : List Section) (frontmatter : String) (blankLines : Int) : String :=
  if frontmatter.isEmpty then String.join (sections.map (render blankLines))
  else
    "---\n" ++ frontmatter ++ "\n---\n\n"
      ++ String.join ((sections.filter (·.level != 0)).map (render blankLines))

end MarkdownSections.Section
