import MarkdownSections.Element.Render
import MarkdownSections.Section.Basic
import MarkdownSections.Slug.Registry

/-!
# Grouping elements into sections

A reducer walks over elements in order and gathers rendered text under the latest heading. It holds
the rows made so far, the open section, and the headings on the way to it. Each transition is a
function on the reducer, so a run can be followed one element at a time.

Text outside all headings gathers in one row of level 0 with an empty id, the preamble. Metadata
makes a row of its own and closes the open section; the headings on the way stay.
-/

set_option autoImplicit false

namespace MarkdownSections

/-- The state of a grouping run. -/
structure Reducer where
  sections : List Section := []
  title : String := ""
  level : Int := 0
  id : String := ""
  content : String := ""
  /-- The headings on the way to the open section, innermost first: level and id. -/
  stack : List (Int × String) := []
  registry : SlugRegistry := {}
deriving Repr

namespace Reducer

/-- The state before the first element. -/
def start : Reducer := {}

/-- The ids of a stack, outermost first, joined into a path. -/
def pathOf (stack : List (Int × String)) : String :=
  "/".intercalate (stack.reverse.map (·.2))

/-- The path of the open section. -/
def path (r : Reducer) : String :=
  pathOf r.stack

/-- The id below the top of the stack. -/
def parentId (r : Reducer) : String :=
  match r.stack with
  | _ :: parent :: _ => parent.2
  | _ => ""

/-- Closes the open section without a row. -/
def reset (r : Reducer) : Reducer :=
  { r with title := "", level := 0, id := "", content := "" }

/-- Whether a row is the preamble. -/
def isPreamble (s : Section) : Bool :=
  s.level == 0 && s.id == ""

/-- Adds text to the preamble; the first text makes the row. -/
def addPreamble (r : Reducer) (content : String) : Reducer :=
  if r.sections.any isPreamble then
    { r with
      sections := r.sections.map fun s =>
        if isPreamble s then { s with content := s.content ++ content } else s }
  else
    { r with
      sections := r.sections ++ [{ id := "", path := "", level := 0, content := content }]
      registry := r.registry.reserve "" }

/-- Makes the row of the open section, unless it has neither title nor content. -/
def flush (r : Reducer) : Reducer :=
  if r.title.isEmpty && r.content.isEmpty then r
  else if r.level = 0 then r.addPreamble r.content
  else
    { r with
      sections := r.sections ++
        [{ id := r.id, path := r.path, level := r.level, title := r.title,
           content := r.content, parentId := r.parentId }] }

/-- Opens the section of a heading. -/
def onHeading (r : Reducer) (e : Element) : Reducer :=
  let r := r.flush
  let level := e.headingLevel
  let stack := r.stack.dropWhile fun entry => entry.1 ≥ level
  let explicit := e.attr "id"
  let (id, registry) :=
    if explicit.isEmpty then r.registry.unique e.content else r.registry.claim explicit
  { r with
    title := e.content, level := level, id := id, content := ""
    stack := (level, id) :: stack
    registry := registry }

/-- Makes the row of a metadata element. -/
def onMetadata (r : Reducer) (e : Element) : Reducer :=
  let r := r.flush
  let row : Section :=
    { id := Section.frontmatterId, path := Section.frontmatterId, level := 0, content := e.content }
  { r with
    sections := r.sections ++ [row]
    registry := r.registry.reserve Section.frontmatterId }.reset

/-- Adds the text of any other element to the open section. -/
def onOther (codec : Codec) (r : Reducer) (e : Element) : Except PayloadError Reducer := do
  let text ← e.render codec
  return { r with content := r.content ++ text }

/-- Takes one element in. -/
def feed (codec : Codec) (r : Reducer) (e : Element) : Except PayloadError Reducer :=
  if e.type = .heading then .ok (r.onHeading e)
  else if e.type.isMetadata then .ok (r.onMetadata e)
  else r.onOther codec e

/-- Closes the last section; the rows are then complete. -/
def finish (r : Reducer) : Reducer :=
  r.flush.reset

end Reducer

/-- Groups elements, read in ascending order, under their nearest preceding headings. -/
def reduceSections (codec : Codec) (es : List Element) : Except PayloadError (List Section) := do
  let r ← (Element.sortByOrder es).foldlM (Reducer.feed codec) Reducer.start
  return r.finish.sections

/-- The warnings that grouping gives: those of the elements it renders. -/
def reduceWarnings (codec : Codec) (es : List Element) : List String :=
  ((Element.sortByOrder es).filter fun e => e.type != .heading && !e.type.isMetadata).filterMap
    (Element.warning? codec)

end MarkdownSections
