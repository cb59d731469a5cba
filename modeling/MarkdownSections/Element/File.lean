import MarkdownSections.Element.Read
import MarkdownSections.Files.Tree
import MarkdownSections.Section.Reduce

/-!
# Element files

An element file holds a list of element records. A file that cannot be opened and a file that holds
refused values are reported under the name of the file; attributes that cannot be walked through
are not. The elements of a file are rendered as a document, or grouped into section rows.
-/

set_option autoImplicit false

namespace MarkdownSections

/-- Why an element file is not read. -/
inductive ElementFileError where
  /-- There is no such file. -/
  | unreadable (source : String)
  /-- The file holds refused values. -/
  | refused (source : String) (issues : List Issue)
  | attributesNotWalkable
  | attributeFieldMissing
deriving DecidableEq, Repr

namespace ElementFileError

/-- The error of a file whose values cannot be read. -/
def ofElementError (source : String) : ElementError → ElementFileError
  | .refused issues => refused source issues
  | .attributesNotWalkable => attributesNotWalkable
  | .attributeFieldMissing => attributeFieldMissing

/-- The wording of an error. What a library or a device says about it is left out. -/
def message : ElementFileError → String
  | unreadable source | refused source _ => source ++ ": invalid element file:"
  | attributesNotWalkable => "attributes are no collection"
  | attributeFieldMissing => "an attribute lacks its key or its value"

/-- Whether an error is reported under the name of its file. -/
def isReported : ElementFileError → Bool
  | unreadable _ | refused _ _ => true
  | attributesNotWalkable | attributeFieldMissing => false

end ElementFileError

/-- What goes wrong in work on an element file: it is not read, or the work fails on its
elements. -/
inductive ElementWorkError where
  | file (e : ElementFileError)
  | payload (e : PayloadError)
deriving DecidableEq, Repr

namespace Element

/-- Reads the elements of bytes; bytes that are no text are malformed. -/
def listOfBytes (bytes : List Nat) : Except ElementError (List Element) :=
  match Text.Utf8.decode? bytes with
  | some text => listOfText text
  | none => .error (.refused [⟨[], .malformedFile⟩])

/-- Reads the element file at a path. -/
def listOfFile (f : Files) (p : Path) : Except ElementFileError (List Element) :=
  match f.bytes? p with
  | none => .error (.unreadable p.toText)
  | some bytes =>
    match listOfBytes bytes with
    | .ok es => .ok es
    | .error e => .error (.ofElementError p.toText e)

/-- What is made of the elements of the file at a path. -/
def workOnFile {α : Type} (f : Files) (p : Path) (work : List Element → Except PayloadError α) :
    Except ElementWorkError α :=
  match listOfFile f p with
  | .ok es => (work es).mapError .payload
  | .error e => .error (.file e)

/-- The document that the element file at a path makes. -/
def renderFile (f : Files) (p : Path) : Except ElementWorkError String :=
  workOnFile f p (renderAll .lenient)

/-- The section rows of the element file at a path. -/
def reduceFile (f : Files) (p : Path) : Except ElementWorkError (List Section) :=
  workOnFile f p (reduceSections .lenient)

end Element

end MarkdownSections
