import MarkdownSections.Element.Basic
import MarkdownSections.Payload.Codec
import MarkdownSections.Text.Lines

/-!
# Rendering elements

Every element has a Markdown text. A block ends with an empty line; an inline element is just its
marks and its content. List and table blocks with a structured encoding carry a payload, which is
read first (`Element.payload`); the text is then a plain function of the element and that payload
(`Element.renderPayload`). An element of an unknown type is its content.
-/

set_option autoImplicit false

namespace MarkdownSections

namespace Element

/-- The depth of a heading, from 1 to 6: the attribute `heading_level` if there is one, else the
level if it is in range, else 1. An attribute that is no number counts as 1, and a number out of
range as the nearest in range. -/
def headingLevel (e : Element) : Int :=
  let stated := e.attr "heading_level"
  let level :=
    if stated.isEmpty then
      match e.level with
      | some n => if 1 ≤ n && n ≤ 6 then n else 1
      | none => 1
    else (Text.readInt? (Text.trim stated.toList)).getD 1
  min (max level 1) 6

/-- The whole number in an attribute, or a default. -/
def intAttr (e : Element) (key : String) (default : Int) : Int :=
  (Text.readInt? (e.attr key).toList).getD default

/-! ## Payloads -/

/-- What the content of an element decodes to. -/
inductive Payload where
  /-- The content is used as it stands. -/
  | plain
  | items (first : String) (rest : List String)
  | table (cells : TableData)
  /-- The content should have held a list or a table, and holds none. -/
  | undecoded
deriving DecidableEq, Repr

/-- Reads the payload of a block; only lists and tables with a structured encoding have one. -/
def payload (codec : Codec) (e : Element) : Except PayloadError Payload :=
  if e.isInline || e.encoding != .structured then .ok .plain
  else match e.type with
    | .list => do
      match ← codec.parseItems e.content with
      | some (x :: xs) => return .items x xs
      | _ => return .undecoded
    | .table => do
      let cells ← codec.parseTable e.content
      return if cells.isEmpty then .undecoded else .table cells
    | _ => .ok .plain

/-- The warning about a payload that could not be read: the first forty characters of the quoted
content. -/
def payloadWarning? (e : Element) : Payload → Option String
  | .undecoded =>
    let shown := String.ofList ((Text.Literal.quoted e.content.toList).take 40)
    let noun := if e.type = .list then "List" else "Table"
    some (noun ++ " payload did not decode; rendering as text: " ++ shown)
  | _ => none

/-! ## Blocks -/

/-- A link target with its title, if there is one. -/
def titled (url title : String) : String :=
  if title.isEmpty then url else url ++ " \"" ++ title ++ "\""

/-- Content as a paragraph. -/
def paragraphText (content : String) : String :=
  content ++ "\n\n"

/-- Metadata between its fences. -/
def metadataText (content : String) : String :=
  "---\n" ++ content ++ "\n---\n\n"

/-- A quoted block: each visual line behind a mark. -/
def quoteText (content : String) : String :=
  String.join ((Text.visualLines content.toList).map fun line => "> " ++ String.ofList line ++ "\n")
    ++ "\n"

/-- List lines numbered from `n` on. -/
def numberedLines (n : Int) : List String → String
  | [] => ""
  | item :: items => Text.showInt n ++ ". " ++ item ++ "\n" ++ numberedLines (n + 1) items

/-- List lines behind hyphens. -/
def bulletLines (items : List String) : String :=
  String.join (items.map fun item => "- " ++ item ++ "\n")

/-- The lines of a list. -/
def listText (e : Element) (items : List String) : String :=
  (if e.attr "ordered" = "true" then numberedLines (e.intAttr "start" 1) items
    else bulletLines items) ++ "\n"

/-- One item of a list that stands on its own. -/
def listItemText (e : Element) : String :=
  let number := e.attr "item_number"
  if e.attr "ordered" = "true" && !number.isEmpty then number ++ ". " ++ e.content ++ "\n"
  else "- " ++ e.content ++ "\n"

/-- A header line; an empty cell keeps only one blank. -/
def headerLine (cells : List String) : String :=
  "|" ++ String.join (cells.map fun h => if h.isEmpty then " |" else " " ++ h ++ " |") ++ "\n"

/-- A data line. -/
def rowLine (cells : List String) : String :=
  "|" ++ String.join (cells.map fun cell => " " ++ cell ++ " |") ++ "\n"

/-- A table: its header line, the delimiter line, and one line for each row. A table without
headers gets empty ones. -/
def tableText (t : TableData) : String :=
  let width := t.columnCount
  let headers := if t.headers.isEmpty then List.replicate width "" else t.headers
  headerLine headers ++ "|" ++ String.join (List.replicate width "---|") ++ "\n"
    ++ String.join (t.rows.map rowLine) ++ "\n"

/-- An image, its text from the attribute `alt` or else the content. -/
def blockImageText (e : Element) : String :=
  let alt := e.attr "alt"
  "![" ++ (if alt.isEmpty then e.content else alt) ++ "]("
    ++ titled (e.attr "src") (e.attr "title") ++ ")\n\n"

/-- The text of a block. -/
def blockText (e : Element) : Payload → String
  | .items x xs => e.listText (x :: xs)
  | .table cells => tableText cells
  | .plain | .undecoded =>
    match e.type with
    | .heading =>
      String.ofList (List.replicate e.headingLevel.toNat '#') ++ " " ++ e.content ++ "\n\n"
    | .code => "```" ++ e.attr "language" ++ "\n" ++ e.content ++ "\n```\n\n"
    | .blockquote => quoteText e.content
    | .listItem => e.listItemText
    | .rule => "---\n\n"
    | .metadata | .frontmatter => metadataText e.content
    | .image => e.blockImageText
    | _ => paragraphText e.content

/-! ## Inline elements -/

/-- Content between two marks. -/
def wrapped (opening closing content : String) : String :=
  opening ++ content ++ closing

/-- A code span; content that holds a backtick gets double delimiters and blanks. -/
def codeSpan (content : String) : String :=
  if content.contains '\x60' then wrapped "`` " " ``" content else wrapped "`" "`" content

/-- The text of an inline element. -/
def inlineText (e : Element) : String :=
  let c := e.content
  match e.type with
  | .link => wrapped "[" "](" c ++ titled (e.attr "href") (e.attr "title") ++ ")"
  | .image => wrapped "![" "](" c ++ titled (e.attr "src") (e.attr "title") ++ ")"
  | .bold | .strong => wrapped "**" "**" c
  | .italic | .emphasis | .em => wrapped "*" "*" c
  | .code => codeSpan c
  | .space => " "
  | .softbreak => "\n"
  | .linebreak | .br => "  \n"
  | .strikethrough | .deletion => wrapped "~~" "~~" c
  | .superscript | .sup => wrapped "^" "^" c
  | .subscript | .sub => wrapped "~" "~" c
  | .underline => wrapped "<u>" "</u>" c
  | .smallcaps => wrapped "<span style=\"font-variant: small-caps\">" "</span>" c
  | .math => if e.attr "display" = "block" then wrapped "$$" "$$" c else wrapped "$" "$" c
  | .quoted => if e.attr "quote_type" = "single" then wrapped "'" "'" c else wrapped "\"" "\"" c
  | .cite => if (e.attr "key").isEmpty then c else wrapped "[@" "]" (e.attr "key")
  | .note => wrapped "[^" "]" c
  | _ => c

/-! ## Elements and sequences -/

/-- The text of an element whose payload has been read. -/
def renderPayload (e : Element) (p : Payload) : String :=
  if e.isInline then e.inlineText else e.blockText p

/-- Whether a list is numbered beyond the numbers that are written. -/
def numbersTooFar (e : Element) : Payload → Bool
  | .items _ xs =>
    e.attr "ordered" = "true" && !Text.isWritable (e.intAttr "start" 1 + xs.length)
  | _ => false

/-- The text of an element. -/
def render (codec : Codec) (e : Element) : Except PayloadError String := do
  let p ← e.payload codec
  if e.numbersTooFar p then throw .unwritableNumber
  return e.renderPayload p

/-- The texts of elements in the given order; a block that follows an inline element starts after
an empty line. -/
def renderInOrder (codec : Codec) (afterInline : Bool) : List Element → Except PayloadError String
  | [] => .ok ""
  | e :: es => do
    let text ← e.render codec
    let rest ← renderInOrder codec e.isInline es
    return (if afterInline && !e.isInline then "\n\n" else "") ++ text ++ rest

/-- The document that a sequence of elements makes, read in ascending order. -/
def renderAll (codec : Codec) (es : List Element) : Except PayloadError String :=
  renderInOrder codec false (sortByOrder es)

/-- The warning that rendering an element gives. -/
def warning? (codec : Codec) (e : Element) : Option String :=
  match e.payload codec with
  | .ok p => e.payloadWarning? p
  | .error _ => none

end Element

end MarkdownSections
