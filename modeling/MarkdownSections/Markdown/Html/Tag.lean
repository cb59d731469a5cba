import MarkdownSections.Text.Blank

/-!
# HTML tags

Where a tag ends. An opening tag is read character by character, and a character may leave more
than one reading open: some blanks of other scripts may stand in a value without quotes and may end
it as well. The reading is the list of all places in the grammar of tags where the text so far may
have got to. A quote leaves at most one place, so either all places or none are in quotes, and the
first closing bracket outside quotes decides.
-/

set_option autoImplicit false

namespace MarkdownSections.Markdown.Html

/-! ## Characters -/

/-- Whether a character may start an attribute name. -/
def isNameStart (c : Char) : Bool :=
  c.isAlpha || c = '_' || c = ':'

/-- Whether a character may stand in an attribute name. -/
def isNameChar (c : Char) : Bool :=
  c.isAlphanum || c = ':' || c = '.' || c = '_' || c = '-'

/-- Whether a character may stand in a tag name behind its first letter. -/
def isTagChar (c : Char) : Bool :=
  c.isAlphanum || c = '-'

/-- Whether a character may stand in an attribute value without quotes. -/
def isBareValueChar (c : Char) : Bool :=
  !(c = '"' || c = '\'' || c = '=' || c = '<' || c = '>' || c = '\x60' || c.toNat ≤ 0x20)

/-! ## Opening tags -/

/-- A place in an opening tag. -/
inductive TagPlace where
  | tagName
  /-- Behind blanks after the tag name or a value. -/
  | gap
  | attributeName
  /-- Behind blanks after an attribute name. -/
  | nameGap
  /-- Behind an equals sign. -/
  | assignment
  | bareValue
  | quoted (quote : Char)
  /-- Behind a closing quote. -/
  | quoteEnd
  /-- Behind a slash, which only a closing bracket may follow. -/
  | slash
deriving DecidableEq, Repr

namespace TagPlace

/-- The places that a character leads to when each test on the left holds. -/
def choose (choices : List (Bool × TagPlace)) : List TagPlace :=
  (choices.filter (·.1)).map (·.2)

/-- Where a character leads to; a closing bracket outside quotes leads nowhere. -/
def next (c : Char) : TagPlace → List TagPlace
  | tagName => choose [(isTagChar c, tagName), (Text.isBlank c, gap), (c = '/', slash)]
  | gap => choose [(Text.isBlank c, gap), (isNameStart c, attributeName), (c = '/', slash)]
  | attributeName =>
    choose [(isNameChar c, attributeName), (Text.isBlank c, nameGap), (c = '=', assignment),
      (c = '/', slash)]
  | nameGap =>
    choose [(Text.isBlank c, nameGap), (isNameStart c, attributeName), (c = '=', assignment),
      (c = '/', slash)]
  | assignment =>
    choose [(Text.isBlank c, assignment), (isBareValueChar c, bareValue),
      (c = '"' || c = '\'', quoted c)]
  | bareValue => choose [(isBareValueChar c, bareValue), (Text.isBlank c, gap), (c = '/', slash)]
  | quoted quote => [if c = quote then quoteEnd else quoted quote]
  | quoteEnd => choose [(Text.isBlank c, gap), (c = '/', slash)]
  | slash => []

/-- Whether a closing bracket may follow. -/
def mayEnd : TagPlace → Bool
  | assignment | quoted _ => false
  | _ => true

end TagPlace

/-- What follows an opening tag that has got to some places. -/
def afterTagPlaces? (places : List TagPlace) : List Char → Option (List Char)
  | [] => none
  | c :: cs =>
    if places.isEmpty then none
    else if c = '>' && places.any TagPlace.mayEnd then some cs
    else afterTagPlaces? ((places.flatMap (TagPlace.next c)).eraseDups) cs

/-- What follows an opening tag. -/
def afterOpenTag? : List Char → Option (List Char)
  | '<' :: c :: cs => if c.isAlpha then afterTagPlaces? [.tagName] cs else none
  | _ => none

/-! ## Closing tags -/

/-- What follows a closing tag. -/
def afterCloseTag? : List Char → Option (List Char)
  | '<' :: '/' :: c :: cs =>
    match c.isAlpha, Text.trimStart (cs.dropWhile isTagChar) with
    | true, '>' :: rest => some rest
    | _, _ => none
  | _ => none

end MarkdownSections.Markdown.Html
