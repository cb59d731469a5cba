import MarkdownSections.Document.Elements
import MarkdownSections.Number.Shortest
import MarkdownSections.Text.LetterCase

/-!
# What a document contains

Lists of the code blocks, links and images of a document at any depth, counts over its text and its
tree, and its visible text.
-/

set_option autoImplicit false

namespace MarkdownSections

/-- A code block with its place. -/
structure CodeBlock where
  language : String
  code : String
  line : Option Int
  infoString : String
deriving DecidableEq, Repr

/-- A link with its place. -/
structure Link where
  text : String
  url : String
  title : String
  /-- Whether the url stands in a link definition of the text. -/
  isReference : Bool
  line : Int
deriving DecidableEq, Repr

/-- An image with its place. -/
structure Image where
  altText : String
  url : String
  title : String
  line : Int
deriving DecidableEq, Repr

/-- Counts over the text and the tree of a document. -/
structure DocumentStats where
  words : Nat
  chars : Nat
  lines : Nat
  headings : Nat
  codeBlocks : Nat
  links : Nat
deriving DecidableEq, Repr

/-! ## Link definitions in the text -/

/-- The url of a link definition at the start of a line, and how many characters it takes up. A
definition is a label in brackets, a colon, blanks, and a url that may stand in angle brackets. -/
def definitionAt? (cs : List Char) : Option (List Char × Nat) :=
  match Text.trimStart cs with
  | '[' :: label =>
    match label.dropWhile (· != ']') with
    | ']' :: ':' :: rest =>
      let target := Text.trimStart rest
      let bare := match target with
        | '<' :: inner => if (inner.takeWhile isUrlChar).isEmpty then target else inner
        | _ => target
      let url := bare.takeWhile isUrlChar
      if (label.takeWhile (· != ']')).isEmpty || target.length == rest.length || url.isEmpty then
        none
      else
        let behind := bare.dropWhile isUrlChar
        let behind := if behind.head? == some '>' then behind.tail else behind
        some (url, cs.length - behind.length)
    | _ => none
  | _ => none
where
  /-- A character of a url: neither blank nor a closing angle bracket. -/
  isUrlChar (c : Char) : Bool := !(Text.isBlank c || c == '>')

/-- The urls of the link definitions of a text. `skip` characters belong to a definition that is
already read; `fresh` tells whether a line starts here. -/
def definitionUrlsFrom (skip : Nat) (fresh : Bool) : List Char → List String
  | [] => []
  | c :: cs =>
    let next := c == '\n'
    match skip with
    | skip + 1 => definitionUrlsFrom skip next cs
    | 0 =>
      match if fresh then definitionAt? (c :: cs) else none with
      | some (url, length) => String.ofList url :: definitionUrlsFrom (length - 1) next cs
      | none => definitionUrlsFrom 0 next cs

/-- The urls of the link definitions of a text. -/
def definitionUrls (text : String) : List String :=
  definitionUrlsFrom 0 true text.toList

namespace Node

/-- Whether a node is a code block. -/
def isCode (n : Node) : Bool :=
  n.type == "fence" || n.type == "code_block"

end Node

namespace Document

/-- The code blocks of a document; a language that is given and not empty selects those in it, in
any case. -/
def codeBlocks (d : Document) (language : Option String) : List CodeBlock :=
  let wanted (n : Node) : Bool := match language with
    | some l => l.isEmpty || Text.lowerString n.language == Text.lowerString l
    | none => true
  (d.nodes.filter fun n => n.isCode && wanted n).map fun n =>
    { language := n.language, code := n.content, line := d.startLine n
      infoString := n.infoString }

/-- The nodes of a type, each with its line; it fails on a node with a fault, and on one for which
no line is known. A number that is not written is found in front of a line that is not known, and
texts that a record refuses behind it. -/
def placedNodes (d : Document) (type : String) (fault? : Node → Option ValueFault) :
    Except DocumentError (List (Node × Int)) :=
  (d.nodesWithLine.filter (·.1.type == type)).mapM fun (n, line) =>
    match fault? n, line with
    | some (.numeral fault), _ => .error (.value fault)
    | _, none => .error .nodeWithoutLines
    | some fault, _ => .error (.value fault)
    | none, some line => .ok (n, line)

/-- The links of a document. -/
def links (d : Document) : Except DocumentError (List Link) := do
  let definitions := definitionUrls d.body
  let fault? (n : Node) : Option ValueFault :=
    n.textFault? "Link" [("href", [.field "url"]), ("title", [.field "title"])]
  return (← d.placedNodes "link" fault?).map fun (n, line) =>
    let url := n.attributeText "href" ""
    { text := n.plainText, url, title := n.attributeText "title" ""
      isReference := definitions.contains url, line }

/-- The images of a document. -/
def images (d : Document) : Except DocumentError (List Image) := do
  let fault? (n : Node) : Option ValueFault :=
    n.textFault? "Image" [("src", [.field "url"]), ("title", [.field "title"])]
  return (← d.placedNodes "image" fault?).map fun (n, line) =>
    { altText := n.plainText, url := n.attributeText "src" "", title := n.attributeText "title" ""
      line }

/-- The counts over the whole text and over the tree. -/
def stats (d : Document) : DocumentStats :=
  { words := (Text.words d.text.toList).length
    chars := d.text.length
    lines := if d.text.isEmpty then 0 else d.text.toList.count '\n' + 1
    headings := d.nodes.countP Node.isHeading
    codeBlocks := d.nodes.countP Node.isCode
    links := d.nodes.countP (·.type == "link") }

/-- The visible text of the body: the texts of its blocks with an empty line between them. -/
def visibleText (d : Document) : String :=
  let text := "\n\n".intercalate ((d.blocks.map Node.plainText).filter (!·.isEmpty))
  if text.isEmpty then "" else text ++ "\n"

end Document

/-- How many words are read in a minute. -/
def wordsPerMinute : Nat := 200

/-- The reading time in minutes. -/
def DocumentStats.readingTime (s : DocumentStats) : Binary64 :=
  .ofRatio false s.words wordsPerMinute

end MarkdownSections
