import MarkdownSections.Text.Blank
import MarkdownSections.Text.LetterCase

/-!
# Slugs

A slug is the anchor name of a heading: the lowercase text with every run of characters other than
ASCII letters, digits, underscores and hyphens replaced by one hyphen, without repeated hyphens
and without hyphens at the ends.
-/

set_option autoImplicit false

namespace MarkdownSections.Slug

/-- The characters that a slug keeps. -/
def isSlugChar (c : Char) : Bool :=
  c.isLower || c.isDigit || c == '_'

/-- A character of the lowercase text: kept, or else a hyphen. -/
def hyphenate (c : Char) : Char :=
  if isSlugChar c then c else '-'

/-- Writes every run of hyphens as one. -/
def squeeze : List Char → List Char
  | [] => []
  | c :: cs => if c == '-' && cs.head? == some '-' then squeeze cs else c :: squeeze cs

/-- Drops the hyphens at both ends. -/
def trimHyphens (cs : List Char) : List Char :=
  Text.dropEndWhile (· == '-') (cs.dropWhile (· == '-'))

/-- The slug of a text, as characters. -/
def slugChars (cs : List Char) : List Char :=
  trimHyphens (squeeze ((Text.lower cs).map hyphenate))

end MarkdownSections.Slug

namespace MarkdownSections

/-- The slug of a text. -/
def slugify (text : String) : String :=
  String.ofList (Slug.slugChars text.toList)

end MarkdownSections
