import MarkdownSections.Document.Basic
import MarkdownSections.Document.Error
import MarkdownSections.Files.Path
import MarkdownSections.Frontmatter.Map
import MarkdownSections.Frontmatter.Split
import MarkdownSections.Markdown.Block.Container
import MarkdownSections.Markdown.Inline.Text

/-!
# Reading a document

A text is split into its frontmatter and its body, the frontmatter is read into a map, and the body
into tokens, from which the tree is built. Frontmatter that cannot be read is reported before an
unknown preset, and that before a line that cannot be read.

The tokens of a body are read in two passes: first its blocks and reference definitions, then the
running text of each block, for which all definitions of the document are known.
-/

set_option autoImplicit false

namespace MarkdownSections

/-! ## Tokens of a text -/

namespace Markdown

/-- A text as the parser sees it: line ends are line feeds, and no character is NUL. -/
def normalizeSource (cs : List Char) : List Char :=
  (Text.unifyNewlines cs).map fun c => if c.toNat = 0 then Char.ofNat 0xFFFD else c

/-- Reads the running text that a block token holds. -/
def fillInline (preset : Preset) (definitions : List Definition) (t : Token) : Token :=
  if t.type == "inline" then
    { t with children := Inline.pieces preset definitions t.content.toList }
  else t

/-- The tokens of a text, unless a line of it is unreadable. -/
def parse? (preset : Preset) (cs : List Char) : Option (List Token) :=
  let blocks := Block.ofText preset (normalizeSource cs)
  if blocks.readable then some (blocks.tokens.map (fillInline preset blocks.definitions)) else none

end Markdown

/-! ## Documents of a text -/

/-- A source with the tokens of its body. -/
structure ParsedText extends Source where
  tokens : List Markdown.Token
deriving Repr, Inhabited

namespace ParsedText

/-- The name of a text that came without one. -/
def unnamed : String := "<string>"

/-- The name of the preset that is used by default. -/
def defaultPreset : String := "gfm-like"

/-- Splits and parses a text. -/
def ofText (text name preset : String) : Except DocumentError ParsedText :=
  let (raw, body) := Frontmatter.split text.toList
  match Frontmatter.readMap raw with
  | .error fault =>
    let error : DocumentError :=
      if fault.isOfDocument then .structural name (.frontmatter fault) else .frontmatter fault
    .error error
  | .ok frontmatter =>
    match Markdown.Preset.ofName? preset with
    | none => .error (.structural name (.unknownPreset preset))
    | some preset =>
      match Markdown.parse? preset body with
      | none => .error .unreadableLine
      | some tokens =>
        .ok
          { path := (Path.ofText name).toText, text, body := String.ofList body, frontmatter
            rawFrontmatter := String.ofList raw
            lineOffset := Frontmatter.lineCount text.toList body, tokens }

/-- Builds the tree of a parsed text. -/
def toDocument (t : ParsedText) : Except DocumentError Document :=
  match Node.ofTokens? t.tokens with
  | some blocks =>
    if Node.maxHeight < Node.heightAll blocks then .error .nestedTooDeeply
    else .ok { t.toSource with blocks := blocks }
  | none => .error (.structural t.path .unbalancedTokens)

end ParsedText

/-- Reads a document from a text without a name. -/
def Document.ofText (text : String) (preset : String := ParsedText.defaultPreset) :
    Except DocumentError Document := do
  (← ParsedText.ofText text ParsedText.unnamed preset).toDocument

end MarkdownSections
