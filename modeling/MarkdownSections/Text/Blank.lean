/-!
# White space

The characters at which words end and which trimming removes: the controls from tab to carriage
return, the four information separators, the space, and the blanks beyond ASCII.

Trimming and splitting work on lists of characters; the forms on strings wrap them.
-/

set_option autoImplicit false

namespace MarkdownSections.Text

/-- White space of any script. -/
def isBlank (c : Char) : Bool :=
  let n := c.toNat
  (0x09 ≤ n && n ≤ 0x0D) || (0x1C ≤ n && n ≤ 0x20) || n == 0x85 || n == 0xA0 || n == 0x1680
    || (0x2000 ≤ n && n ≤ 0x200A) || n == 0x2028 || n == 0x2029 || n == 0x202F || n == 0x205F
    || n == 0x3000

/-- Drops the longest end whose characters all satisfy `p`. -/
def dropEndWhile (p : Char → Bool) (cs : List Char) : List Char :=
  (cs.reverse.dropWhile p).reverse

/-- Drops blanks in front. -/
def trimStart (cs : List Char) : List Char :=
  cs.dropWhile isBlank

/-- Drops blanks at the end. -/
def trimEnd (cs : List Char) : List Char :=
  dropEndWhile isBlank cs

/-- Drops blanks on both sides. -/
def trim (cs : List Char) : List Char :=
  trimEnd (trimStart cs)

/-- White space around numerals: the information separators do not count. -/
def isNumeralBlank (c : Char) : Bool :=
  isBlank c && !(0x1C ≤ c.toNat && c.toNat ≤ 0x1F)

/-- Drops blanks around a numeral. -/
def trimNumeral (cs : List Char) : List Char :=
  dropEndWhile isNumeralBlank (cs.dropWhile isNumeralBlank)

/-- The pieces of a list between the members that satisfy `p`; there is always one. -/
def splitWhen {α : Type} (p : α → Bool) : List α → List (List α)
  | [] => [[]]
  | c :: cs =>
    if p c then [] :: splitWhen p cs
    else match splitWhen p cs with
      | [] => [[c]]
      | piece :: rest => (c :: piece) :: rest

/-- The words of a text: its maximal runs without white space. -/
def words (cs : List Char) : List (List Char) :=
  (splitWhen isBlank cs).filter (!·.isEmpty)

/-- A string without the blanks at its end. -/
def trimEndString (s : String) : String :=
  String.ofList (trimEnd s.toList)

/-- A string without the blanks on both sides. -/
def trimString (s : String) : String :=
  String.ofList (trim s.toList)

/-- A text without one line feed at its end. -/
def withoutFinalNewline (cs : List Char) : List Char :=
  if cs.getLast? = some '\n' then cs.dropLast else cs

/-- A string without the line feeds at its end. -/
def dropFinalNewlines (s : String) : String :=
  String.ofList (dropEndWhile (· == '\n') s.toList)

end MarkdownSections.Text
