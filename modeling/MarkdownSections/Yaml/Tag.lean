import MarkdownSections.Text.Numeral

/-!
# Tags

The tag of a node tells what kind of value it stands for. A plain scalar without a tag gets one by
its form: words for truth and absence, numbers in several notations, and timestamps are told apart
from other texts.
-/

set_option autoImplicit false

namespace MarkdownSections.Yaml

/-- The kinds of values. -/
inductive Tag where
  | null
  | bool
  | int
  | float
  | binary
  | timestamp
  | orderedMap
  | pairs
  | set
  | text
  | sequence
  | map
  /-- A key that takes the entries of other maps in. -/
  | merge
  /-- The key of the default value of a map. -/
  | value
  | unknown
deriving DecidableEq, Repr

namespace Tag

/-- The short names of the tags that a text can state. -/
def names : List (String × Tag) :=
  [("null", null), ("bool", bool), ("int", int), ("float", float), ("binary", binary),
    ("timestamp", timestamp), ("omap", orderedMap), ("pairs", pairs), ("set", set), ("str", text),
    ("seq", sequence), ("map", map), ("merge", merge), ("value", value)]

/-- What stands in front of the short names. -/
def namespaceText : List Char :=
  "tag:yaml.org,2002:".toList

/-- The tag of a full name. -/
def ofName (name : String) : Tag :=
  let cs := name.toList
  if namespaceText.isPrefixOf cs then
    (names.lookup (String.ofList (cs.drop namespaceText.length))).getD unknown
  else unknown

/-- The short name of a tag with its handle. -/
def shorthand (t : Tag) : String :=
  "!!" ++ ((names.find? (·.2 == t)).map (·.1)).getD ""

/-! ## Forms of plain scalars -/

/-- The words for truth and falsehood. -/
def truthWords : List String :=
  ["yes", "Yes", "YES", "no", "No", "NO", "true", "True", "TRUE", "false", "False", "FALSE",
    "on", "On", "ON", "off", "Off", "OFF"]

/-- The texts for absence. -/
def nullWords : List String :=
  ["~", "null", "Null", "NULL", ""]

/-- A digit or an underscore. -/
def isDigitOrGap (c : Char) : Bool :=
  c.isDigit || c == '_'

/-- Whether a text starts with a digit and goes on with digits and underscores. -/
def isDigits : List Char → Bool
  | c :: cs => c.isDigit && cs.all isDigitOrGap
  | [] => false

/-- Whether a text is a place of base sixty: one digit, or two of which the first is below six. -/
def isSixty : List Char → Bool
  | [a] => a.isDigit
  | [a, b] => '0' ≤ a && a ≤ '5' && b.isDigit
  | _ => false

/-- Whether a text is empty or an exponent with a sign. -/
def isExponent : List Char → Bool
  | [] => true
  | e :: s :: cs =>
    (e == 'e' || e == 'E') && (s == '-' || s == '+') && !cs.isEmpty && cs.all Char.isDigit
  | _ => false

/-- Whether a text has the form of a floating-point number. -/
def isFloat (cs : List Char) : Bool :=
  let body := Text.withoutSign cs
  let whole := body.takeWhile (· != '.')
  match body.dropWhile (· != '.') with
  | '.' :: rest =>
    let fraction := rest.takeWhile isDigitOrGap
    let behind := rest.dropWhile isDigitOrGap
    (isDigits whole && isExponent behind)
      || (body == cs && whole.isEmpty && isDigits fraction && isExponent behind)
      || (match Text.splitWhen (· == ':') whole with
        | first :: second :: more =>
          isDigits first && (second :: more).all isSixty && behind.isEmpty
        | _ => false)
      || (whole.isEmpty && ["inf", "Inf", "INF"].contains (String.ofList rest))
      || (body == cs && whole.isEmpty && ["nan", "NaN", "NAN"].contains (String.ofList rest))
  | _ => false

/-- Whether a text has the form of a whole number. -/
def isInt (cs : List Char) : Bool :=
  match Text.withoutSign cs with
  | ['0'] => true
  | '0' :: 'b' :: c :: cs => (c :: cs).all fun c => c == '0' || c == '1' || c == '_'
  | '0' :: 'x' :: c :: cs => (c :: cs).all fun c => (Text.hexValue? c).isSome || c == '_'
  | '0' :: cs => cs.all fun c => ('0' ≤ c && c ≤ '7') || c == '_'
  | cs =>
    match Text.splitWhen (· == ':') cs with
    | first :: more => isDigits first && more.all isSixty
    | [] => false

end Tag

end MarkdownSections.Yaml
