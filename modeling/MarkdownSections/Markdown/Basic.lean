import MarkdownSections.Json.Basic
import MarkdownSections.Text.Blank

/-!
# Tokens, presets and white space

A parsed document is a flat list of tokens. An opening token and its closing token stand around
what they contain; a leaf stands for itself and may hold tokens of its own, the pieces of a line
of text. A block token tells which source lines it covers.

A preset names the constructs that a parser knows and its limit on nesting.

The blanks that count around running text are the controls from tab to carriage return, and the
spaces of all scripts. The separators of lines and paragraphs count where text is trimmed, but not
next to runs of marks. All other separators are ordinary characters.
-/

set_option autoImplicit false

namespace MarkdownSections.Markdown

/-- One token. Nesting is 1 for an opening token, -1 for a closing one and 0 for a leaf; lines are
counted from zero, and the end line is not covered. -/
structure Token where
  type : String
  tag : String := ""
  nesting : Int := 0
  level : Nat := 0
  lines : Option (Int × Int) := none
  attributes : List (String × Json) := []
  content : String := ""
  info : String := ""
  children : List Token := []
deriving Repr, Inhabited

/-! ## Presets -/

/-- What a parser knows. -/
structure Preset where
  /-- All block and inline constructs of the core language, or paragraphs and plain text only. -/
  core : Bool := true
  html : Bool := true
  tables : Bool := false
  strikethrough : Bool := false
  /-- One tilde strikes through as two do. -/
  singleTilde : Bool := false
  /-- A checkbox may stand in front of the content of a list item. -/
  checkboxes : Bool := false
  /-- A quote that opens with the name of an alert is that alert. -/
  alerts : Bool := false
  /-- How deep blocks and links may stand inside each other. -/
  maxNesting : Nat := 20
deriving DecidableEq, Repr

namespace Preset

/-- The core language with raw HTML. -/
def commonMark : Preset := {}

/-- The core language with raw HTML, tables and strikethrough. -/
def gfmLike : Preset := { tables := true, strikethrough := true }

/-- The same with single tildes, checkboxes and alerts. -/
def gfmExtended : Preset :=
  { gfmLike with singleTilde := true, checkboxes := true, alerts := true }

/-- The core language with tables and strikethrough, without raw HTML. -/
def withoutHtml : Preset :=
  { html := false, tables := true, strikethrough := true, maxNesting := 100 }

/-- Paragraphs and plain text only. -/
def plain : Preset := { core := false, html := false }

/-- The preset of a name. -/
def ofName? (name : String) : Option Preset :=
  [("gfm-like", gfmLike), ("commonmark", commonMark), ("default", withoutHtml),
    ("js-default", withoutHtml), ("zero", plain), ("gfm-like2", gfmExtended)].lookup name

end Preset

/-! ## White space -/

/-- White space next to runs of marks. -/
def isTextBlank (c : Char) : Bool :=
  let n := c.toNat
  (0x2000 ≤ n && n ≤ 0x200A) || (0x09 ≤ n && n ≤ 0x0D) || n == 0x20 || n == 0xA0 || n == 0x1680
    || n == 0x202F || n == 0x205F || n == 0x3000

/-- White space around running text, cells and labels. -/
def isOuterBlank (c : Char) : Bool :=
  isTextBlank c || c.toNat == 0x2028 || c.toNat == 0x2029

/-- Drops blanks on both sides of running text. -/
def trimText (cs : List Char) : List Char :=
  Text.dropEndWhile isOuterBlank (cs.dropWhile isOuterBlank)

end MarkdownSections.Markdown
