/-!
# Lines

Two ways to number lines. Source lines end at a line feed, a carriage return or the pair of both,
and nowhere else. Visual lines end at those and at the vertical tab, the form feed, the three
upper information separators, the next-line control and the two separators beyond ASCII.
-/

set_option autoImplicit false

namespace MarkdownSections.Text

/-- Writes every line end (`\r\n`, `\r` or `\n`) as one line feed. -/
def unifyNewlines : List Char → List Char
  | [] => []
  | '\r' :: '\n' :: cs => '\n' :: unifyNewlines cs
  | '\r' :: cs => '\n' :: unifyNewlines cs
  | c :: cs => c :: unifyNewlines cs

/-- The lines of a text, each ended by its line feed; a last line without one gets one. -/
def endedLines : List Char → List (List Char)
  | [] => []
  | c :: cs =>
    if c = '\n' then ['\n'] :: endedLines cs
    else match endedLines cs with
      | [] => [[c, '\n']]
      | line :: rest => (c :: line) :: rest

/-- The source lines of a text, each ended by one line feed, also the last. -/
def sourceLines (text : String) : List String :=
  (endedLines (unifyNewlines text.toList)).map String.ofList

/-- The single characters that end a visual line. -/
def isLineEnd (c : Char) : Bool :=
  let n := c.toNat
  (0x0A ≤ n && n ≤ 0x0D) || (0x1C ≤ n && n ≤ 0x1E) || n == 0x85 || n == 0x2028 || n == 0x2029

/-- Helper of `visualLines`: `line` holds the characters of the open line, last first. -/
def visualLinesFrom (line : List Char) : List Char → List (List Char)
  | [] => if line.isEmpty then [] else [line.reverse]
  | '\r' :: '\n' :: cs => line.reverse :: visualLinesFrom [] cs
  | c :: cs =>
    if isLineEnd c then line.reverse :: visualLinesFrom [] cs
    else visualLinesFrom (c :: line) cs

/-- The visual lines of a text, without their ends. -/
def visualLines (cs : List Char) : List (List Char) :=
  visualLinesFrom [] cs

end MarkdownSections.Text
