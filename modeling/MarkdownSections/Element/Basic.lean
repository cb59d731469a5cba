/-!
# Elements

An element is one typed unit of a flat document: a block such as a paragraph, or an inline piece
such as a link. Its type is an open tag; the tags that have a meaning of their own are the
constructors of `ElementType`, and every other tag stands for `other`.
-/

set_option autoImplicit false

namespace MarkdownSections

/-- Whether an element is laid out as a block or runs inside a line. -/
inductive ElementKind where
  | block
  | inline
deriving DecidableEq, Repr

/-- How the content of an element is encoded: as it stands, as a structured payload, or as a
frontmatter text. -/
inductive Encoding where
  | text
  | structured
  | yaml
deriving DecidableEq, Repr

/-- The types of elements that have a rendering rule of their own. -/
inductive ElementType where
  | heading | paragraph | code | blockquote | list | listItem | table | rule
  | metadata | frontmatter | image | raw | html | htmlBlock
  | link | bold | strong | italic | emphasis | em | text | space | softbreak | linebreak | br
  | strikethrough | deletion | superscript | sup | subscript | sub | underline | smallcaps
  | math | quoted | cite | note | span | other
deriving DecidableEq, Repr

namespace ElementType

/-- The tag of a type. -/
def tag : ElementType → String
  | heading => "heading"
  | paragraph => "paragraph"
  | code => "code"
  | blockquote => "blockquote"
  | list => "list"
  | listItem => "list_item"
  | table => "table"
  | rule => "hr"
  | metadata => "metadata"
  | frontmatter => "frontmatter"
  | image => "image"
  | raw => "raw"
  | html => "html"
  | htmlBlock => "md:html_block"
  | link => "link"
  | bold => "bold"
  | strong => "strong"
  | italic => "italic"
  | emphasis => "emphasis"
  | em => "em"
  | text => "text"
  | space => "space"
  | softbreak => "softbreak"
  | linebreak => "linebreak"
  | br => "br"
  | strikethrough => "strikethrough"
  | deletion => "del"
  | superscript => "superscript"
  | sup => "sup"
  | subscript => "subscript"
  | sub => "sub"
  | underline => "underline"
  | smallcaps => "smallcaps"
  | math => "math"
  | quoted => "quoted"
  | cite => "cite"
  | note => "note"
  | span => "span"
  | other => "other"

/-- All types. -/
def all : List ElementType :=
  [heading, paragraph, code, blockquote, list, listItem, table, rule, metadata, frontmatter,
    image, raw, html, htmlBlock, link, bold, strong, italic, emphasis, em, text, space, softbreak,
    linebreak, br, strikethrough, deletion, superscript, sup, subscript, sub, underline,
    smallcaps, math, quoted, cite, note, span, other]

/-- The type that a tag names; unknown tags stand for `other`. -/
def ofTag (tag : String) : ElementType :=
  (all.find? (·.tag == tag)).getD other

/-- The types that are blocks when an element does not say what it is. -/
def isBlock : ElementType → Bool
  | heading | paragraph | blockquote | list | table | rule | metadata | frontmatter | code
  | image => true
  | _ => false

/-- The types that carry a document's metadata. -/
def isMetadata : ElementType → Bool
  | metadata | frontmatter => true
  | _ => false

end ElementType

/-- One unit of a flat document. Elements are read in ascending `order`. -/
structure Element where
  kind : Option ElementKind := none
  elementType : String
  content : String := ""
  level : Option Int := none
  encoding : Encoding := .text
  attributes : List (String × String) := []
  order : Int := 0
deriving DecidableEq, Repr

namespace Element

/-- The type that the element's tag names. -/
def type (e : Element) : ElementType :=
  .ofTag e.elementType

/-- Whether the element runs inside a line; without a kind its type decides. -/
def isInline (e : Element) : Bool :=
  match e.kind with
  | none => !e.type.isBlock
  | some kind => kind == .inline

/-- The value of an attribute, empty when there is none. -/
def attr (e : Element) (key : String) : String :=
  (e.attributes.lookup key).getD ""

/-- Elements in ascending order; elements of equal order keep their places. -/
def sortByOrder (es : List Element) : List Element :=
  es.mergeSort fun a b => a.order ≤ b.order

end Element

end MarkdownSections
