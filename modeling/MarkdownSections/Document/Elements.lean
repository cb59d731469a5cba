import MarkdownSections.Document.TableCells
import MarkdownSections.Document.Error
import MarkdownSections.Element.Basic
import MarkdownSections.Json.Literal
import MarkdownSections.Payload.Codec

/-!
# Elements of a document

Every top-level block of a document becomes one element, in order; the frontmatter comes first.
Lists and tables carry their texts as a payload. A paragraph that holds nothing but an image
becomes that image, and a block of a type without a rule becomes a raw element with its source.
-/

set_option autoImplicit false

namespace MarkdownSections

namespace Node

/-- The text of an attribute; a value that counts as absent gives the default. -/
def attributeText (n : Node) (name default : String) : String :=
  match n.attributes.lookup name with
  | some v => if v.isBlankValue then default else v.plainText
  | none => default

/-- The value of an attribute, null if the node does not have it. -/
def attributeValue (n : Node) (name : String) : Json :=
  (n.attributes.lookup name).getD .null

/-- Why a record does not take the texts of attributes, each of which goes to a place in the record:
a number in one of them is not written, or else some are texts with lone halves of surrogate
pairs. -/
def textFault? (n : Node) (record : String) (fields : List (String × List Step)) :
    Option ValueFault :=
  if fields.all fun field => (n.attributeValue field.1).isWritable then
    let broken := fields.filter fun field => (n.attributeValue field.1).isBrokenText
    if broken.isEmpty then none
    else some (.refused record (broken.map fun field => ⟨field.2, .garbledText⟩))
  else some (.numeral .unwritable)

/-- The image of a paragraph that holds one image and otherwise only line breaks. -/
def onlyImage? (n : Node) : Option Node :=
  n.children.findSome? fun line =>
    if line.type == "inline" then
      match line.children.filter fun c => !(c.type == "softbreak" || c.type == "hardbreak") with
      | [image] => if image.type == "image" then some image else none
      | _ => none
    else none

/-- The text of a list item: that of its first paragraph, or else of its first blocks that show
any; nested lists end the search. -/
def firstText : List Node → String
  | [] => ""
  | n :: ns =>
    if n.type == "bullet_list" || n.type == "ordered_list" then ""
    else
      let text := n.plainText
      if n.type == "paragraph" || !text.isEmpty then text else firstText ns

/-- The texts of the items of a list. -/
def itemTexts (n : Node) : List String :=
  n.children.map fun item => firstText item.children

/-- The text behind the mark of a quoted line, or the line itself. -/
def unquoteLine (line : List Char) : List Char :=
  match Text.trimStart line with
  | '>' :: ' ' :: rest => rest
  | '>' :: rest => rest
  | _ => line

/-- A quotation without its outermost marks. -/
def unquote (text : String) : String :=
  let lines := (Text.visualLines text.toList).map fun line => String.ofList (unquoteLine line)
  Text.dropFinalNewlines ("\n".intercalate lines)

/-- The info string of a code block, without blanks around it. -/
def infoString (n : Node) : String :=
  Text.trimString n.info

/-- The language of a code block: the info string up to the first space. -/
def language (n : Node) : String :=
  String.ofList (n.infoString.toList.takeWhile (· != ' '))

/-- The attributes of a code block: its language, and the info string when that says more. -/
def codeAttributes (n : Node) : List (String × String) :=
  if n.infoString.isEmpty then []
  else
    let rest := (n.infoString.toList.dropWhile (· != ' ')).drop 1
    ("language", n.language)
      :: if rest.isEmpty then [] else [("info_string", n.infoString)]

/-- The attributes of a list: whether it is numbered, and from which number on. -/
def listAttributes (n : Node) : List (String × String) :=
  if n.type == "ordered_list" then
    [("ordered", "true"), ("start", n.attributeText "start" "1")]
  else [("ordered", "false")]

/-- Why an element does not take the texts of some attributes. -/
def elementFault? (n : Node) (names : List String) : Option ValueFault :=
  n.textFault? "Element" (names.map fun name => (name, [.field "attributes", .field name]))

/-- What is wrong with the attributes that the element of a block takes over: the start of a
numbered list, and the source and title of the image that is a paragraph. -/
def attributeFault? (n : Node) : Option ValueFault :=
  match n.type with
  | "ordered_list" => n.elementFault? ["start"]
  | "paragraph" => n.onlyImage?.bind fun image => image.elementFault? ["src", "title"]
  | _ => none

/-- What is wrong with the values of a block: a level that is not read, or an attribute that is not
taken over. -/
def valueFault? (n : Node) : Option ValueFault :=
  (n.levelFault?.map ValueFault.numeral).or n.attributeFault?

end Node

/-! ## Elements of blocks -/

/-- The element of a paragraph. -/
def Document.paragraphElement (d : Document) (n : Node) : Element :=
  match n.onlyImage? with
  | some image =>
    let text := image.plainText
    let content := if text.isEmpty then image.content else text
    let title := image.attributeText "title" ""
    let hasTitle := !((image.attributes.lookup "title").getD .null).isBlankValue
    { kind := some .block, elementType := ElementType.image.tag, content
      attributes := [("src", image.attributeText "src" ""), ("alt", content)]
        ++ if hasTitle then [("title", title)] else [] }
  | none =>
    { kind := some .block, elementType := ElementType.paragraph.tag
      content := Text.dropFinalNewlines (d.sourceOf n) }

/-- The element of a block that is no heading. -/
def Document.blockElement (d : Document) (codec : Codec) (n : Node) : Element :=
  match n.type with
  | "paragraph" => d.paragraphElement n
  | "fence" | "code_block" =>
    { kind := some .block, elementType := ElementType.code.tag
      content := Text.dropFinalNewlines n.content, attributes := n.codeAttributes }
  | "blockquote" =>
    { kind := some .block, elementType := ElementType.blockquote.tag
      content := Node.unquote (d.sourceOf n), level := some 1 }
  | "bullet_list" | "ordered_list" =>
    { kind := some .block, elementType := ElementType.list.tag
      content := codec.dumpItems n.itemTexts, level := some 1, encoding := .structured
      attributes := n.listAttributes }
  | "table" =>
    { kind := some .block, elementType := ElementType.table.tag
      content := codec.dumpTable n.tableData, encoding := .structured }
  | "hr" => { kind := some .block, elementType := ElementType.rule.tag }
  | "html_block" =>
    { kind := some .block, elementType := ElementType.html.tag
      content := Text.dropFinalNewlines n.content }
  | type =>
    { kind := some .block, elementType := ElementType.raw.tag
      content := d.sourceOf n, attributes := [("original_type", type)] }

/-- The element of a heading with its id. -/
def Node.headingElement (n : Node) (id : String) : Element :=
  { kind := some .block, elementType := ElementType.heading.tag
    content := n.plainText, level := some n.headingLevel, attributes := [("id", id)] }

/-- The elements of blocks, numbered from `order` on; headings take their ids from the registry. -/
def Document.blockElements (d : Document) (codec : Codec) (r : SlugRegistry) (order : Int) :
    List Node → List Element
  | [] => []
  | n :: ns =>
    if n.isHeading then
      let (id, r) := r.unique n.plainText
      { n.headingElement id with order := order } :: d.blockElements codec r (order + 1) ns
    else { d.blockElement codec n with order := order } :: d.blockElements codec r (order + 1) ns

/-- The element of the frontmatter, if there is one. -/
def Document.frontmatterElement (d : Document) : List Element :=
  if d.rawFrontmatter.isEmpty then []
  else
    [{ kind := some .block, elementType := ElementType.frontmatter.tag
       content := d.rawFrontmatter, level := some 0, encoding := .yaml, order := 1 }]

/-- What is wrong with the first block that has an attribute that its element does not take over. -/
def Document.attributeFault? (d : Document) : Option ValueFault :=
  d.blocks.findSome? Node.attributeFault?

/-- What is wrong with the first block whose element cannot be made. -/
def Document.valueFault? (d : Document) : Option ValueFault :=
  d.blocks.findSome? Node.valueFault?

/-- The elements of a document, numbered from one on. -/
def Document.elements (d : Document) (codec : Codec) : Except DocumentError (List Element) :=
  match d.valueFault? with
  | some fault => .error (.value fault)
  | none =>
    let first := d.frontmatterElement
    .ok (first ++ d.blockElements codec d.startRegistry (first.length + 1) d.blocks)

end MarkdownSections
