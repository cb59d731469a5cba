/-!
# Folding to ASCII letters

Comparison of a text with ASCII words, letter case ignored. Besides the capitals, four letters
beyond ASCII fold to an ASCII letter: the dotted capital and the dotless small `i`, the long `s`,
and the Kelvin sign.
-/

set_option autoImplicit false

namespace MarkdownSections.Text

/-- The small letter that a character folds to; most characters fold to themselves. -/
def foldChar (c : Char) : Char :=
  if c.toNat < 0x80 then c.toLower
  else if c = 'İ' || c = 'ı' then 'i'
  else if c = 'ſ' then 's'
  else if c.toNat = 0x212A then 'k'
  else c

/-- Whether a character folds to an ASCII letter. -/
def isFoldedLetter (c : Char) : Bool :=
  (foldChar c).isLower

/-- Whether a character is a letter or a digit after folding. -/
def isFoldedAlphanum (c : Char) : Bool :=
  isFoldedLetter c || c.isDigit

/-- What follows a small-letter word in front of a text, letter case ignored. -/
def afterFolded? : List Char → List Char → Option (List Char)
  | [], cs => some cs
  | _ :: _, [] => none
  | w :: word, c :: cs => if foldChar c = w then afterFolded? word cs else none

/-- What follows a word in front of a text. -/
def after? : List Char → List Char → Option (List Char)
  | [], cs => some cs
  | _ :: _, [] => none
  | w :: word, c :: cs => if c = w then after? word cs else none

/-- What follows the first place where a word stands in a text. -/
def afterFirst? (word : List Char) : List Char → Option (List Char)
  | [] => after? word []
  | c :: cs =>
    match after? word (c :: cs) with
    | some rest => some rest
    | none => afterFirst? word cs

end MarkdownSections.Text
