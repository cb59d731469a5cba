import MarkdownSections.Json.Basic
import MarkdownSections.Schema.Issue

/-!
# Lenient readings of scalars

A field that wants a whole number also takes a truth value, a number without fraction and a
numeral; a field that wants a truth value also takes zero, one and the usual words. A field that
wants a text takes nothing else.
-/

set_option autoImplicit false

namespace MarkdownSections

/-- A value before its check; what is neither a scalar nor null cannot be told apart. -/
inductive Loose where
  | null
  | bool (value : Bool)
  | int (value : Int)
  | float (value : Binary64)
  | text (value : String)
  /-- A text that holds a half of a surrogate pair, by its code points. -/
  | brokenText (points : List Nat)
  /-- Bytes that spell no text. -/
  | garbled
  | other
deriving DecidableEq, Repr

/-- A value of a data file before its check. -/
def Json.toLoose : Json → Loose
  | .null => .null
  | .bool b => .bool b
  | .int i => .int i
  | .float x => .float x
  | .text s => .text s
  | .brokenText points => .brokenText points
  | .list _ | .map _ | .brokenMap _ => .other

namespace Loose

/-- The sign and the digits of a whole number in plain form, without leading zeros. -/
def plainDigits? (cs : List Char) : Option (Bool × List Char) :=
  let (negative, ds) := match cs with
    | '-' :: rest => (true, rest)
    | rest => (false, rest)
  if ds.isEmpty || !ds.all Char.isDigit || (ds.head? = some '0' && ds != ['0']) then none
  else some (negative, ds)

/-- Helper of `withoutLeadingZeros?`, behind a zero; `last` is the character in front. -/
def skipZeros? (last : Char) : List Char → Option (List Char)
  | [] => some [last]
  | c :: cs =>
    if c = '0' || c = '_' then skipZeros? c cs
    else if c = '.' then some (last :: c :: cs)
    else if c = '-' || c.isDigit then some (c :: cs)
    else none

/-- A numeral without the zeros in front and the underscores among them; of zeros alone, or in
front of a point, the last character stays. A numeral starts with a digit or a minus sign. -/
def withoutLeadingZeros? : List Char → Option (List Char)
  | '0' :: cs => skipZeros? '0' cs
  | c :: cs => if c = '-' || c.isDigit then some (c :: cs) else none
  | [] => none

/-- The part of a numeral in front of a point that zeros and nothing else follow. -/
def withoutZeroFraction (cs : List Char) : List Char :=
  let zeros := (cs.dropWhile (· != '.')).tail
  if zeros.isEmpty || !zeros.all (· == '0') then cs else cs.takeWhile (· != '.')

/-- A numeral without the single underscores between its characters. -/
def withoutSeparators? : List Char → Option (List Char)
  | [] => some []
  | ['_'] => none
  | '_' :: _ => none
  | c :: '_' :: d :: cs => (withoutSeparators? (d :: cs)).map (c :: ·)
  | c :: cs => (withoutSeparators? cs).map (c :: ·)

/-- Brings a numeral into plain form: one sign in front counts, leading zeros, a fraction of zeros
and separators do not. -/
def plainForm? (cs : List Char) : Option (List Char) := do
  let (sign, body) := match cs with
    | '-' :: rest => (['-'], rest)
    | '+' :: rest => ([], rest)
    | rest => ([], rest)
  let body ← withoutLeadingZeros? body
  let body ← withoutSeparators? (withoutZeroFraction body)
  return sign ++ body

/-- Reads a numeral: a sign, digits, and perhaps a fraction of zeros. Too many digits are reported
as such where no separator stands among them. -/
def readNumeral (s : String) : Except Cause Int :=
  let cs := Text.trimNumeral s.toList
  match (plainDigits? cs).orElse fun _ => (plainForm? cs).bind plainDigits? with
  | none => .error .unreadableInteger
  | some (negative, ds) =>
    if ds.length ≤ Text.maxDigits then
      let n : Int := Text.ofDigits (ds.map fun c => c.toNat - 0x30)
      .ok (if negative then -n else n)
    else .error (if cs.contains '_' then .unreadableInteger else .integerTooLong)

/-- The least number that sixty-three bits do not hold. -/
def wordBound : Int :=
  twoPow 63

/-- Reads a floating-point number as a whole number of 64 bits. -/
def wholeNumber (x : Binary64) : Except Cause Int :=
  if !x.isFinite then .error .notFinite
  else match x.toInt? with
    | none => .error .fractionalNumber
    | some i => if -wordBound < i && i < wordBound then .ok i else .error .integerTooLong

/-- Reads a whole number. -/
def toInt : Loose → Except Cause Int
  | .int i => .ok i
  | .bool b => .ok (if b then 1 else 0)
  | .float x => wholeNumber x
  | .text s => readNumeral s
  | .brokenText _ => .error .garbledText
  | .garbled => .error .unreadableInteger
  | .null | .other => .error .notAnInteger

/-- Reads a whole number that may be left open by a null. -/
def toOptionalInt : Loose → Except Cause (Option Int)
  | .null => .ok none
  | v => v.toInt.map some

/-- The words for truth. -/
def trueWords : List String := ["1", "t", "y", "on", "yes", "true"]

/-- The words for falsehood. -/
def falseWords : List String := ["0", "f", "n", "no", "off", "false"]

/-- Reads a truth value from a whole number. -/
def truthOfInt (i : Int) : Except Cause Bool :=
  if i = 0 then .ok false else if i = 1 then .ok true else .error .unreadableBoolean

/-- Reads a truth value. -/
def toBool : Loose → Except Cause Bool
  | .bool b => .ok b
  | .text s =>
    let word := s.map Char.toLower
    if falseWords.contains word then .ok false
    else if trueWords.contains word then .ok true
    else .error .unreadableBoolean
  | .int i => if -wordBound ≤ i && i < wordBound then truthOfInt i else .error .notABoolean
  | .float x =>
    match wholeNumber x with
    | .ok i => truthOfInt i
    | .error _ => .error .notABoolean
  | .brokenText _ => .error .garbledText
  | .garbled => .error .unreadableBoolean
  | .null | .other => .error .notABoolean

/-- Reads a text. -/
def toText : Loose → Except Cause String
  | .text s => .ok s
  | .brokenText points => .ok (String.ofList (Text.charsOfPoints points))
  | .garbled => .error .garbledText
  | _ => .error .notAText

end Loose

end MarkdownSections
