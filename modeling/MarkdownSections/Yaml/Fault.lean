import MarkdownSections.Calendar.Moment
import MarkdownSections.Text.Literal

/-!
# What can go wrong with a YAML text

A text is malformed when it breaks the rules of the language in any way. A text that keeps the rules
may still hold a scalar that stands for no value; what that scalar is decides how the fault shows.
-/

set_option autoImplicit false

namespace MarkdownSections.Yaml

/-- Why a scalar stands for no value. -/
inductive ScalarFault where
  /-- An escape names no code point. -/
  | code
  /-- An escape names a number of more than thirty-one bits. -/
  | codeTooLarge
  | integer (fault : Text.NumeralFault)
  | number (points : List Nat)
  /-- The first place of a number in base sixty weighs more than any floating-point number. -/
  | placeTooLarge
  | calendar (fault : CalendarFault)
  /-- A truth value is spelled by another word, in lower case. -/
  | truth (points : List Nat)
  /-- A numeral without any character. -/
  | emptyNumeral
  /-- A timestamp that has not the form of one. -/
  | timestamp
  /-- A timestamp that a map gives as its default value. -/
  | timestampOfMap
deriving DecidableEq, Repr

/-- Why a text is not read. -/
inductive Fault where
  | malformed
  /-- Nodes stand inside each other too deeply. -/
  | nestedTooDeeply
  | scalar (fault : ScalarFault)
deriving DecidableEq, Repr

namespace ScalarFault

/-- The wording of a fault. -/
def message : ScalarFault → String
  | code => "chr() arg not in range(0x110000)"
  | codeTooLarge => "the number of a character is too large"
  | integer fault => fault.message
  | number points =>
    "could not convert string to float: " ++ String.ofList (Text.Literal.quotedPoints points)
  | calendar fault => fault.message
  | truth points => String.ofList (Text.Literal.quotedPoints points)
  | emptyNumeral => "string index out of range"
  | placeTooLarge => "a place of a number is too large"
  | timestamp => "no timestamp"
  | timestampOfMap => "a timestamp cannot be given by a map"

/-- Whether a fault counts as one of the text that holds the scalar. -/
def isOfText : ScalarFault → Bool
  | codeTooLarge | placeTooLarge | emptyNumeral | timestamp | timestampOfMap => false
  | _ => true

end ScalarFault

end MarkdownSections.Yaml
