import MarkdownSections.Markdown.EntityName
import MarkdownSections.Text.CharacterClass
import MarkdownSections.Text.Fold

/-!
# Character references and escapes

A character reference is `&name;`, `&#decimal;` or `&#xhexadecimal;`; a backslash in front of an
ASCII punctuation character stands for that character. Link targets, titles and code fences'
languages are unescaped as a whole; running text treats one reference at a time.
-/

set_option autoImplicit false

namespace MarkdownSections.Markdown

/-- Whether a code point may be written as a reference. -/
def isReferableCode (n : Nat) : Bool :=
  !((0xD800 ≤ n && n ≤ 0xDFFF) || (0xFDD0 ≤ n && n ≤ 0xFDEF) || n % 0x10000 == 0xFFFF
    || n % 0x10000 == 0xFFFE || n ≤ 0x08 || n == 0x0B || (0x0E ≤ n && n ≤ 0x1F)
    || (0x7F ≤ n && n ≤ 0x9F) || 0x10FFFF < n)

/-- The number of a numeric reference between `&#` and `;`, and what follows the semicolon. The
reference has at most `decimals` digits, or `x` and at most `hexadecimals` digits. -/
def numericReference? (decimals hexadecimals : Nat) (cs : List Char) :
    Option (Nat × List Char) :=
  let finish (base : Nat) (limit : Nat) (isDigit : Char → Bool) (cs : List Char) :
      Option (Nat × List Char) :=
    let digits := cs.takeWhile isDigit
    match cs.dropWhile isDigit with
    | ';' :: rest =>
      if digits.isEmpty || limit < digits.length then none
      else some (digits.foldl (fun n c => base * n + (Text.hexValue? c).getD 0) 0, rest)
    | _ => none
  match cs with
  | 'x' :: rest | 'X' :: rest => finish 16 hexadecimals (fun c => (Text.hexValue? c).isSome) rest
  | cs => finish 10 decimals Char.isDigit cs

/-- The name of a named reference after its ampersand, and what follows the semicolon. -/
def referenceName? (cs : List Char) : Option (List Char × List Char) :=
  let name := cs.takeWhile Text.isFoldedAlphanum
  match cs.dropWhile Text.isFoldedAlphanum with
  | ';' :: rest =>
    if (name.head?.map Text.isFoldedLetter).getD false && 2 ≤ name.length && name.length ≤ 32 then
      some (name, rest)
    else none
  | _ => none

/-- The characters of a reference in running text, after its ampersand, and what follows it. A
number that is no referable code point stands for the replacement character. -/
def textReference? : List Char → Option (List Char × List Char)
  | '#' :: cs =>
    (numericReference? 7 6 cs).map fun (n, rest) =>
      ([Char.ofNat (if isReferableCode n then n else 0xFFFD)], rest)
  | cs => do
    let (name, rest) ← referenceName? cs
    let chars ← entityByName? name
    return (chars, rest)

/-- The characters of a reference inside a target or title, after its ampersand, and what follows
it. A number that is no referable code point is no reference. -/
def literalReference? : List Char → Option (List Char × List Char)
  | '#' :: cs => do
    let (n, rest) ← numericReference? 8 8 cs
    if isReferableCode n then some ([Char.ofNat n], rest) else none
  | cs => do
    let (name, rest) ← referenceName? cs
    let chars ← entityByName? name
    return (chars, rest)

/-- Helper of `unescape`: the first `skip` characters belong to a reference that is already
replaced. -/
def unescapeFrom (skip : Nat) : List Char → List Char
  | [] => []
  | c :: cs =>
    match skip with
    | skip + 1 => unescapeFrom skip cs
    | 0 =>
      if c = '\\' then
        match cs with
        | d :: _ =>
          if Text.isAsciiPunctuation d then d :: unescapeFrom 1 cs else c :: unescapeFrom 0 cs
        | [] => [c]
      else if c = '&' then
        match literalReference? cs with
        | some (chars, rest) => chars ++ unescapeFrom (cs.length - rest.length) cs
        | none => c :: unescapeFrom 0 cs
      else c :: unescapeFrom 0 cs

/-- Replaces the escapes and references of a text. -/
def unescape (cs : List Char) : List Char :=
  unescapeFrom 0 cs

end MarkdownSections.Markdown
