import MarkdownSections.Number.Binary64
import MarkdownSections.Text.Numeral

/-!
# Reading decimal numbers

A number is a sign, decimal digits of any script with a point among them, and an exponent; or one
of the words for what is not finite. Blanks may stand on both sides.
-/

set_option autoImplicit false

namespace MarkdownSections.Binary64

/-- The words for infinity. -/
def infinityWords : List (List Char) :=
  [['i', 'n', 'f'], ['i', 'n', 'f', 'i', 'n', 'i', 't', 'y']]

/-- The values of the decimal digits in front of a text, and the text behind them. -/
def leadingDigits : List Char → List Nat × List Char
  | [] => ([], [])
  | c :: cs =>
    match Text.digitValue? c with
    | some d =>
      let (ds, rest) := leadingDigits cs
      (d :: ds, rest)
    | none => ([], c :: cs)

/-- Reads the exponent of a number. -/
def readExponent? : List Char → Option Int
  | [] => some 0
  | e :: cs =>
    let (negative, cs) := match cs with
      | '-' :: cs => (true, cs)
      | '+' :: cs => (false, cs)
      | cs => (false, cs)
    if e != 'e' && e != 'E' then none
    else match leadingDigits cs with
      | (d :: ds, []) =>
        let n : Int := Text.ofDigits (d :: ds)
        some (if negative then -n else n)
      | _ => none

/-- Reads a number without its sign. -/
def readUnsigned? (negative : Bool) (cs : List Char) : Option Binary64 :=
  let word := cs.map Char.toLower
  if infinityWords.contains word then some (.infinite negative)
  else if word == ['n', 'a', 'n'] then some .nan
  else
    let (whole, rest) := leadingDigits cs
    let (fraction, rest) := match rest with
      | '.' :: rest => leadingDigits rest
      | rest => ([], rest)
    if whole.isEmpty && fraction.isEmpty then none
    else (readExponent? rest).map fun exponent =>
      ofDecimal negative (Text.ofDigits (whole ++ fraction)) (exponent - fraction.length)

/-- Reads a number. -/
def read? (cs : List Char) : Option Binary64 :=
  match Text.trimNumeral cs with
  | '-' :: cs => readUnsigned? true cs
  | '+' :: cs => readUnsigned? false cs
  | cs => readUnsigned? false cs

end MarkdownSections.Binary64
