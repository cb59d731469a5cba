import MarkdownSections.Section.Extract

/-!
# Looking sections up

Questions that the section rows of a document answer: its table of contents, the content of one
section, the titles on the way to it, and whether a link to an anchor of the document leads
somewhere.
-/

set_option autoImplicit false

namespace MarkdownSections

namespace Document

/-- The rows of all headings up to a level, without content. -/
def contentsTable (d : Document) (maxLevel : Int) : Except DocumentError (List Section) := do
  let options ← ({ maxLevel, includeContent := false } : SectionOptions).check "minimal"
  return (← d.sections options).filter fun s => decide (0 < s.level)

/-- The content of the section with an id, alone or with all that is nested in it; empty when
there is none. -/
def sectionContent (d : Document) (id : String) (nested : Bool) : Except DocumentError String := do
  let rows ← d.sections { mode := if nested then .full else .minimal }
  return ((rows.find? (·.id == id)).map (·.content)).getD ""

/-- The titles on the way from an id up to its outermost section, seen through at most `fuel`
rows. -/
def titlesUpFrom (rows : List Section) : Nat → String → List String
  | 0, _ => []
  | fuel + 1, id =>
    match rows.find? (·.id == id) with
    | none => []
    | some row =>
      row.title :: if row.parentId.isEmpty then [] else titlesUpFrom rows fuel row.parentId

/-- The titles from the outermost section down to the one with an id, with a separator between
them. -/
def breadcrumb (d : Document) (id separator : String) : Except DocumentError String := do
  let rows ← d.sections { includeContent := false }
  return separator.intercalate (titlesUpFrom rows rows.length id).reverse

end Document

/-- Whether a link target leads somewhere. A target outside the document counts as valid without a
look at the document; an anchor must be the id of a heading. -/
def linkIsValid (document : Except DocumentError Document) (target : String) :
    Except DocumentError Bool :=
  match target.toList with
  | '#' :: id => do
    let rows ← (← document).contentsTable 6
    return rows.any fun s => s.id == String.ofList id
  | _ => .ok true

end MarkdownSections
