import MarkdownSections.Text.Blank
import MarkdownSections.Text.LetterCase

/-!
# Host names in ASCII

A label of a host name with characters beyond ASCII is written as its ASCII characters, followed
by the positions and differences of the others as numbers of variable length whose digit
thresholds adapt to the label, marked by `xn--` in front.
-/

set_option autoImplicit false

namespace MarkdownSections.Url.Punycode

/-! ## Numbers of variable length -/

/-- The threshold of the digit at a place. -/
def threshold (place bias : Nat) : Nat :=
  let t := 36 * (place + 1) - bias
  if t < 1 then 1 else if 26 < t then 26 else t

/-- The letter or digit of a digit value. -/
def digitChar (d : Nat) : Char :=
  if d < 26 then Char.ofNat (0x61 + d) else Char.ofNat (0x16 + d)

/-- The value of a digit, in either case. -/
def digitValue? (c : Char) : Option Nat :=
  if c.isUpper then some (c.toNat - 0x41)
  else if c.isLower then some (c.toNat - 0x61)
  else if c.isDigit then some (c.toNat - 0x16)
  else none

/-- Divides a difference by 35 until it is below 456, counting the divisions. -/
def shrink : Nat → Nat → Nat → Nat × Nat
  | 0, delta, count => (delta, count)
  | fuel + 1, delta, count =>
    if 455 < delta then shrink fuel (delta / 35) (count + 1) else (delta, count)

/-- The next bias after a difference, in a label of `length` characters. -/
def adapt (delta : Nat) (first : Bool) (length : Nat) : Nat :=
  let halved := if first then delta / 700 else delta / 2
  let (delta, count) := shrink halved (halved + halved / length) 0
  36 * count + 36 * delta / (delta + 38)

/-- The digits of a number; `fuel` bounds their count. -/
def writeNumber (bias : Nat) : Nat → Nat → Nat → List Char
  | 0, _, _ => []
  | fuel + 1, place, n =>
    let t := threshold place bias
    if n < t then [digitChar n]
    else
      digitChar (t + (n - t) % (36 - t)) :: writeNumber bias fuel (place + 1) ((n - t) / (36 - t))

/-- Reads a number in front of a text. -/
def readNumber? (bias : Nat) (place weight value : Nat) : List Char → Option (Nat × List Char)
  | [] => none
  | c :: cs => do
    let d ← digitValue? c
    let t := threshold place bias
    let value := value + d * weight
    if d < t then return (value, cs)
    else readNumber? bias (place + 1) (weight * (36 - t)) value cs

/-! ## Labels -/

/-- The state of writing: the digits so far, the difference since the last insertion, the bias,
and how many characters are written. -/
structure WriteState where
  digits : List Char
  delta : Nat
  bias : Nat
  written : Nat

/-- Looks at one character of the label while the characters with code point `n` are inserted. -/
def writeStep (ascii n : Nat) (s : WriteState) (c : Char) : WriteState :=
  if c.toNat < n then { s with delta := s.delta + 1 }
  else if c.toNat = n then
    { digits := s.digits ++ writeNumber s.bias (s.delta + 1) 0 s.delta
      delta := 0
      bias := adapt s.delta (s.written == ascii) (s.written + 1)
      written := s.written + 1 }
  else s

/-- Inserts the characters of each code point, ascending; `next` is the least code point that may
still come. -/
def writePoints (label : List Char) (ascii : Nat) : List Nat → Nat → WriteState → WriteState
  | [], _, s => s
  | n :: ns, next, s =>
    let s := { s with delta := s.delta + (n - next) * (s.written + 1) }
    let s := label.foldl (writeStep ascii n) s
    writePoints label ascii ns (n + 1) { s with delta := s.delta + 1 }

/-- The code points beyond ASCII of a label, ascending and without repetition. -/
def extendedPoints (label : List Char) : List Nat :=
  (((label.map Char.toNat).filter (0x80 ≤ ·)).mergeSort).eraseDups

/-- A label written in ASCII characters. -/
def encodeLabel (label : List Char) : List Char :=
  let ascii := label.filter (·.toNat < 0x80)
  let start : WriteState := ⟨[], 0, 72, ascii.length⟩
  let written := writePoints label ascii.length (extendedPoints label) 0x80 start
  if ascii.isEmpty then written.digits else ascii ++ '-' :: written.digits

/-- Inserts the characters that digits describe into a label; `point` and `position` say where the
last insertion was. -/
def readPoints (fuel : Nat) (first : Bool) (bias point position : Nat) (label digits : List Char) :
    Option (List Char) :=
  match fuel, digits with
  | _, [] => some label
  | 0, _ => none
  | fuel + 1, digits => do
    let (delta, rest) ← readNumber? bias 0 1 0 digits
    let advanced := position + delta
    let point := point + advanced / (label.length + 1)
    let position := advanced % (label.length + 1)
    if point.isValidChar then
      let label := label.take position ++ Char.ofNat point :: label.drop position
      readPoints fuel false (adapt delta first label.length) point (position + 1) label rest
    else none

/-- The label that ASCII characters write; nothing when they are no written label. -/
def decodeLabel? (cs : List Char) : Option (List Char) :=
  if cs.any (0x80 ≤ ·.toNat) then none
  else
    let digits := (cs.reverse.takeWhile (· != '-')).reverse
    let ascii := cs.take (cs.length - digits.length - 1)
    readPoints cs.length true 72 0x80 0 ascii digits

/-! ## Host names -/

/-- The dots that separate labels, in any script. -/
def isLabelDot (c : Char) : Bool :=
  c = '.' || c.toNat = 0x3002 || c.toNat = 0xFF0E || c.toNat = 0xFF61

/-- Applies a function to each label of a host name; what stands in front of an at sign is kept,
and what follows a second one is dropped. -/
def mapLabels? (f : List Char → Option (List Char)) (host : List Char) : Option (List Char) := do
  let (kept, host) := match Text.splitWhen (· == '@') host with
    | user :: host :: _ => (user ++ ['@'], host)
    | _ => ([], host)
  let labels ← (Text.splitWhen isLabelDot host).mapM f
  return kept ++ ['.'].intercalate labels

/-- The mark of a written label. -/
def labelMark : List Char := ['x', 'n', '-', '-']

/-- A host name with all labels in ASCII. -/
def toAscii (host : List Char) : List Char :=
  let label (cs : List Char) : Option (List Char) :=
    some (if cs.any (0x7E < ·.toNat) then labelMark ++ encodeLabel cs else cs)
  (mapLabels? label host).getD host

/-- A host name with written labels read back; unchanged if one of them cannot be read. -/
def toUnicode (host : List Char) : List Char :=
  let label (cs : List Char) : Option (List Char) :=
    if labelMark.isPrefixOf cs then decodeLabel? (Text.lower (cs.drop 4)) else some cs
  (mapLabels? label host).getD host

end MarkdownSections.Url.Punycode
