import MarkdownSections.Element.Basic
import MarkdownSections.Json.Writer

/-!
# Writing elements

The record of an element names every field, in the order of the type, and an element file spreads
the list of records over lines.
-/

set_option autoImplicit false

namespace MarkdownSections

/-- The name of a kind. -/
def ElementKind.name : ElementKind → String
  | block => "block"
  | inline => "inline"

/-- The name of an encoding. -/
def Encoding.name : Encoding → String
  | text => "text"
  | structured => "json"
  | yaml => "yaml"

namespace Element

/-- The record of an element. -/
def toJson (e : Element) : Json :=
  .map
    [("kind", (e.kind.map fun k => Json.text k.name).getD .null),
      ("element_type", .text e.elementType),
      ("content", .text e.content),
      ("level", (e.level.map Json.int).getD .null),
      ("encoding", .text e.encoding.name),
      ("attributes", .map (e.attributes.map fun a => (a.1, .text a.2))),
      ("order", .int e.order)]

/-- The text of an element file. -/
def dumpAll (es : List Element) : String :=
  (Json.list (es.map toJson)).toIndentedString

end Element

end MarkdownSections
