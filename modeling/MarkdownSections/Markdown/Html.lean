import MarkdownSections.Markdown.Html.Tag
import MarkdownSections.Text.Fold

/-!
# Raw HTML

Where raw HTML starts and ends. Each function on constructs takes the text from the opening angle
bracket on and gives what follows the construct. Line starts decide whether a line opens an HTML
block, and which line closes it.
-/

set_option autoImplicit false

namespace MarkdownSections.Markdown.Html

/-! ## Constructs -/

/-- What follows a text up to a character, that character included. -/
def afterChar? (c : Char) (cs : List Char) : Option (List Char) :=
  match cs.dropWhile (· != c) with
  | _ :: rest => some rest
  | [] => none

/-- What follows the body of a comment and its closing mark. A body never holds two hyphens in
front of a closing bracket, and two hyphens take the character behind them along. -/
def afterCommentBody? : List Char → Option (List Char)
  | '-' :: '-' :: '>' :: rest => some rest
  | '-' :: '-' :: _ :: rest => afterCommentBody? rest
  | ['-', '-'] => none
  | '-' :: _ :: rest => afterCommentBody? rest
  | ['-'] => none
  | _ :: rest => afterCommentBody? rest
  | [] => none

/-- What follows a comment. -/
def afterComment? : List Char → Option (List Char)
  | '<' :: '!' :: '-' :: '-' :: '>' :: rest => some rest
  | '<' :: '!' :: '-' :: '-' :: '-' :: '>' :: rest => some rest
  | '<' :: '!' :: '-' :: '-' :: rest => afterCommentBody? rest
  | _ => none

/-- What follows a processing instruction. -/
def afterProcessing? : List Char → Option (List Char)
  | '<' :: '?' :: rest => Text.afterFirst? ['?', '>'] rest
  | _ => none

/-- What follows a declaration. -/
def afterDeclaration? : List Char → Option (List Char)
  | '<' :: '!' :: c :: rest => if c.isAlpha then afterChar? '>' rest else none
  | _ => none

/-- What follows a section of character data. -/
def afterCharacterData? (cs : List Char) : Option (List Char) := do
  let rest ← Text.after? "<![CDATA[".toList cs
  Text.afterFirst? [']', ']', '>'] rest

/-- What follows any construct, tried in the order tag, comment, processing instruction,
declaration, character data. -/
def afterAny? (cs : List Char) : Option (List Char) :=
  [afterOpenTag?, afterCloseTag?, afterComment?, afterProcessing?, afterDeclaration?,
    afterCharacterData?].findSome? fun after => after cs

/-! ## Blocks -/

/-- What opened an HTML block. -/
inductive BlockStart where
  /-- A tag whose content is raw text. -/
  | rawText
  | comment
  | processing
  | declaration
  | characterData
  /-- A tag of a block element. -/
  | blockTag
  /-- Any other tag alone on its line. -/
  | loneTag
deriving DecidableEq, Repr

/-- Elements whose content is raw text. -/
def rawTextNames : List String := ["script", "pre", "style", "textarea"]

/-- Elements that are blocks. -/
def blockNames : List String :=
  ["address", "article", "aside", "base", "basefont", "blockquote", "body", "caption", "center",
    "col", "colgroup", "dd", "details", "dialog", "dir", "div", "dl", "dt", "fieldset",
    "figcaption", "figure", "footer", "form", "frame", "frameset", "h1", "h2", "h3", "h4", "h5",
    "h6", "head", "header", "hr", "html", "iframe", "legend", "li", "link", "main", "menu",
    "menuitem", "nav", "noframes", "ol", "optgroup", "option", "p", "param", "search", "section",
    "summary", "table", "tbody", "td", "tfoot", "th", "thead", "title", "tr", "track", "ul"]

/-- Whether a text starts with one of some names, letter case ignored, and what follows the name
ends it. -/
def startsWithName (names : List String) (ends : List Char → Bool) (cs : List Char) : Bool :=
  names.any fun name =>
    match Text.afterFolded? name.toList cs with
    | some rest => ends rest
    | none => false

/-- Whether the name of a raw text element ends here. -/
def endsRawTextName : List Char → Bool
  | [] => true
  | c :: _ => Text.isBlank c || c = '>'

/-- Whether the name of a block element ends here. -/
def endsBlockName : List Char → Bool
  | '/' :: '>' :: _ => true
  | cs => endsRawTextName cs

/-- Whether a line is one whole tag and blanks. -/
def isLoneTag (cs : List Char) : Bool :=
  match (afterOpenTag? cs).orElse fun _ => afterCloseTag? cs with
  | some rest => rest.all Text.isBlank
  | none => false

/-- What block a line opens; the first fitting kind wins. -/
def blockStart? (cs : List Char) : Option BlockStart :=
  match cs with
  | '<' :: rest =>
    if startsWithName rawTextNames endsRawTextName rest then some .rawText
    else if (Text.after? ['!', '-', '-'] rest).isSome then some .comment
    else if rest.head? = some '?' then some .processing
    else if rest.head? = some '!' && ((rest.drop 1).head?.map Char.isAlpha).getD false then
      some .declaration
    else if (Text.after? "![CDATA[".toList rest).isSome then some .characterData
    else if startsWithName blockNames endsBlockName ((Text.after? ['/'] rest).getD rest) then
      some .blockTag
    else if isLoneTag cs then some .loneTag
    else none
  | _ => none

/-- Whether a line holds the closing tag of a raw text element. -/
def holdsRawTextEnd : List Char → Bool
  | [] => false
  | c :: cs =>
    (c = '<' && cs.head? = some '/' && startsWithName rawTextNames (·.head? = some '>') (cs.drop 1))
      || holdsRawTextEnd cs

/-- Whether a line closes the block that a start opened. -/
def BlockStart.closes (start : BlockStart) (line : List Char) : Bool :=
  match start with
  | .rawText => holdsRawTextEnd line
  | .comment => (Text.afterFirst? ['-', '-', '>'] line).isSome
  | .processing => (Text.afterFirst? ['?', '>'] line).isSome
  | .declaration => (Text.afterFirst? ['>'] line).isSome
  | .characterData => (Text.afterFirst? [']', ']', '>'] line).isSome
  | .blockTag | .loneTag => line.isEmpty

/-- Whether a start may follow a paragraph without an empty line. -/
def BlockStart.interrupts (start : BlockStart) : Bool :=
  start != .loneTag

end MarkdownSections.Markdown.Html
