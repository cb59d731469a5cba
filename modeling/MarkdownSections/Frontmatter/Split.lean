/-!
# Splitting off the frontmatter

A frontmatter block starts a text: a fence line, the raw frontmatter, and a second fence line,
which ends at a line end or at the end of the text. A fence is three hyphens with spaces or tabs
behind them. The line ends right behind the second fence belong to the block; what follows is the
body.

At least one line end stands between the two fence lines besides the one that ends the first.
-/

set_option autoImplicit false

namespace MarkdownSections.Frontmatter

/-- The text behind a line end at its start. -/
def afterLineEnd? : List Char → Option (List Char)
  | '\n' :: cs => some cs
  | '\r' :: '\n' :: cs => some cs
  | _ => none

/-- The text behind all line ends at its start. -/
def dropLineEnds : List Char → List Char
  | '\n' :: cs => dropLineEnds cs
  | '\r' :: '\n' :: cs => dropLineEnds cs
  | cs => cs

/-- The text behind a fence at its start. -/
def afterFence? : List Char → Option (List Char)
  | '-' :: '-' :: '-' :: cs => some (cs.dropWhile fun c => c == ' ' || c == '\t')
  | _ => none

/-- The body, when a line end and a closing fence line stand at the start of a text. -/
def bodyAfterClosing? (cs : List Char) : Option (List Char) :=
  match (afterLineEnd? cs).bind afterFence? with
  | some [] => some []
  | some rest => if (afterLineEnd? rest).isSome then some (dropLineEnds rest) else none
  | none => none

/-- The text in front of the first closing fence line, and the body behind it. -/
def untilClosing? : List Char → Option (List Char × List Char)
  | [] => none
  | c :: cs =>
    match bodyAfterClosing? (c :: cs) with
    | some body => some ([], body)
    | none => (untilClosing? cs).map fun (raw, body) => (c :: raw, body)

/-- Writes every pair of carriage return and line feed as a line feed. -/
def joinLineEnds : List Char → List Char
  | [] => []
  | '\r' :: '\n' :: cs => '\n' :: joinLineEnds cs
  | c :: cs => c :: joinLineEnds cs

/-- The raw frontmatter of a text and its body; without a frontmatter block the raw frontmatter is
empty and the body is the whole text. -/
def split (cs : List Char) : List Char × List Char :=
  match ((afterFence? cs).bind afterLineEnd?).bind untilClosing? with
  | some (raw, body) => (joinLineEnds raw, body)
  | none => ([], cs)

/-- How many lines the frontmatter block takes up in front of the body. -/
def lineCount (cs body : List Char) : Nat :=
  (cs.take (cs.length - body.length)).count '\n'

end MarkdownSections.Frontmatter
