import MarkdownSections.Markdown.Basic
import MarkdownSections.Markdown.Entity
import MarkdownSections.Text.LetterCase
import MarkdownSections.Url.Target

/-!
# Link destinations, titles and labels

The parts of a link as they are written, in a link of running text or in a reference definition.
Each reader takes a text and gives what it read, unescaped, and what follows it.
-/

set_option autoImplicit false

namespace MarkdownSections.Markdown

/-- Whether a character is a space or a tab. -/
def isSpace (c : Char) : Bool :=
  c = ' ' || c = '\t'

/-! ## Destinations -/

/-- The written form of a destination in angle brackets, after the opening one. -/
def bracketedDestination? : List Char → Option (List Char × List Char)
  | [] => none
  | '\\' :: d :: cs => (bracketedDestination? cs).map fun (dest, rest) => ('\\' :: d :: dest, rest)
  | '>' :: cs => some ([], cs)
  | c :: cs =>
    if c = '\n' || c = '<' then none
    else (bracketedDestination? cs).map fun (dest, rest) => (c :: dest, rest)

/-- The written form of a destination without brackets: no blanks, no controls, and balanced
parentheses at most 32 deep, of which `depth` are open. -/
def bareDestination? (depth : Nat) : List Char → Option (List Char × List Char)
  | [] => if depth = 0 then some ([], []) else none
  | '\\' :: ' ' :: cs => if depth = 0 then some ([], '\\' :: ' ' :: cs) else none
  | '\\' :: d :: cs => (bareDestination? depth cs).map fun (dest, rest) => ('\\' :: d :: dest, rest)
  | c :: cs =>
    let continued (depth : Nat) :=
      (bareDestination? depth cs).map fun (dest, rest) => (c :: dest, rest)
    if c.toNat ≤ 0x20 || c.toNat = 0x7F then if depth = 0 then some ([], c :: cs) else none
    else if c = '(' then if 32 ≤ depth then none else continued (depth + 1)
    else if c = ')' then if depth = 0 then some ([], c :: cs) else continued (depth - 1)
    else continued depth

/-- Reads a link destination. -/
def linkDestination? (cs : List Char) : Option (List Char × List Char) :=
  match cs with
  | '<' :: rest => (bracketedDestination? rest).map fun (dest, rest) => (unescape dest, rest)
  | cs =>
    match bareDestination? 0 cs with
    | some ([], _) => none
    | some (dest, rest) => some (unescape dest, rest)
    | none => none

/-- Reads a link destination that a link may have, in the form in which it is stored. -/
def allowedDestination? (cs : List Char) : Option (List Char × List Char) := do
  let (dest, rest) ← linkDestination? cs
  let url := Url.normalize dest
  if Url.isAllowed url then some (url, rest) else none

/-! ## Titles -/

/-- What reading a title up to its closing mark gives. -/
inductive TitleReading where
  /-- The text in front of the closing mark, and what follows the mark. -/
  | closed (text rest : List Char)
  /-- The text ends inside the title. -/
  | unended (text : List Char)
  /-- An opening parenthesis stands inside parentheses. -/
  | refused
deriving DecidableEq, Repr

/-- The same reading with more text in front. -/
def TitleReading.prepend (front : List Char) : TitleReading → TitleReading
  | .closed text rest => .closed (front ++ text) rest
  | .unended text => .unended (front ++ text)
  | .refused => .refused

/-- Reads a title after its opening mark, as it is written. -/
def readTitle (closing : Char) : List Char → TitleReading
  | [] => .unended []
  | '\\' :: d :: cs => (readTitle closing cs).prepend ['\\', d]
  | c :: cs =>
    if c = closing then .closed [] cs
    else if c = '(' && closing = ')' then .refused
    else (readTitle closing cs).prepend [c]

/-- The mark that closes a title, by the mark that opens it. -/
def titleClosing? (c : Char) : Option Char :=
  if c = '"' || c = '\'' then some c else if c = '(' then some ')' else none

/-- Reads a title that ends within the text. -/
def linkTitle? (cs : List Char) : Option (List Char × List Char) :=
  match cs with
  | [] => none
  | c :: cs => do
    let closing ← titleClosing? c
    match readTitle closing cs with
    | .closed text rest => some (unescape text, rest)
    | _ => none

/-! ## Labels -/

/-- A label in the form in which labels are compared: trimmed, runs of blanks as one space, letter
case removed. -/
def normalizeLabel (cs : List Char) : List Char :=
  let words := (Text.splitWhen isOuterBlank cs).filter (!·.isEmpty)
  Text.upper (Text.lower ([' '].intercalate words))

/-- A link reference definition: a label in compared form, a destination and a title. -/
structure Definition where
  label : List Char
  destination : List Char
  title : List Char
deriving DecidableEq, Repr

end MarkdownSections.Markdown
