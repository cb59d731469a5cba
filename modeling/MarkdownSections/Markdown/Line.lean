/-!
# Source lines as containers see them

A block container looks at each line from a start mark on: list items and quotes hide what stands
in front of their content. A line knows the characters behind its mark, how many of them stand in
front of the content, the column of the content, and how many columns the marks in front of it
take up, which tabs need to know.
-/

set_option autoImplicit false

namespace MarkdownSections.Markdown

/-- One source line behind its start mark. -/
structure Line where
  /-- The characters behind the mark, without the line end. -/
  chars : List Char := []
  /-- How many characters stand in front of the content. -/
  shift : Nat := 0
  /-- The column of the content; -1 for a line that only continues a paragraph. -/
  indent : Int := 0
  /-- The columns in front of the mark. -/
  base : Nat := 0
  /-- Whether a line end follows. -/
  ended : Bool := false
deriving DecidableEq, Repr, Inhabited

/-- Whether a character is a blank of indentation. -/
def isIndentation (c : Char) : Bool :=
  c = ' ' || c = '\t'

/-- The column behind blanks that start at column `start`; a tab goes to the next multiple of four,
counted from `base` columns further left. -/
def columnAfter (base start : Nat) (blanks : List Char) : Nat :=
  blanks.foldl (fun n c => if c = '\t' then n + (4 - (n + base) % 4) else n + 1) start

namespace Line

/-- The line of a source text. -/
def ofChars (cs : List Char) (ended : Bool) : Line :=
  let blanks := cs.takeWhile isIndentation
  { chars := cs, shift := blanks.length, indent := columnAfter 0 0 blanks, ended }

/-- The content of a line. -/
def content (l : Line) : List Char :=
  l.chars.drop l.shift

/-- Whether a line has no content. -/
def isEmpty (l : Line) : Bool :=
  l.content.isEmpty

/-- Whether a line is empty and ends with the text, so that no character follows its blanks. -/
def isUnended (l : Line) : Bool :=
  l.isEmpty && !l.ended

/-- Helper of `cut`: `seen` characters are already cut, which take up `column` columns. -/
def cutFrom (l : Line) (width seen column : Nat) : List Char → List Char
  | [] => List.replicate (column - width) ' '
  | c :: cs =>
    if column < width then
      if c = '\t' then cutFrom l width (seen + 1) (column + (4 - (column + l.base) % 4)) cs
      else if c = ' ' || seen < l.shift then cutFrom l width (seen + 1) (column + 1) cs
      else c :: cs
    else List.replicate (column - width) ' ' ++ c :: cs

/-- The characters of a line behind at most `width` columns of indentation; what a tab reaches
beyond that width becomes spaces. -/
def cut (l : Line) (width : Nat) : List Char :=
  cutFrom l width 0 0 l.chars

/-- The line end, if there is one. -/
def lineEnd (l : Line) : List Char :=
  if l.ended then ['\n'] else []

end Line

/-- The lines of a text with unified line ends. A last line of blanks without a line end is no
line. -/
def linesOf (line : List Char) : List Char → List Line
  | [] => if line.all isIndentation then [] else [.ofChars line.reverse false]
  | c :: cs =>
    if c = '\n' then .ofChars line.reverse true :: linesOf [] cs else linesOf (c :: line) cs

end MarkdownSections.Markdown
