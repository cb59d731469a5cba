import MarkdownSections.Text.Numeral
import MarkdownSections.Text.Utf8

/-!
# Percent encoding

Encoding keeps letters, digits, the reserved marks of a link target, and percent signs that start
an escape; every other character becomes the escapes of its bytes. Decoding reads runs of escapes
as UTF-8: a broken sequence becomes replacement characters, and a reserved mark stays escaped.
-/

set_option autoImplicit false

namespace MarkdownSections.Url

/-- The marks that encoding keeps. -/
def keptMarks : List Char :=
  [';', '/', '?', ':', '@', '&', '=', '+', '$', ',', '-', '_', '.', '!', '~', '*', '\'', '(', ')',
    '#']

/-- The marks that decoding leaves escaped. -/
def reservedMarks : List Char :=
  [';', '/', '?', ':', '@', '&', '=', '+', '$', ',', '#', '%']

/-- One upper-case hexadecimal digit. -/
def hexDigit (n : Nat) : Char :=
  if n < 10 then Char.ofNat (0x30 + n) else Char.ofNat (0x37 + n)

/-- The escape of a byte. -/
def escapeByte (n : Nat) : List Char :=
  ['%', hexDigit (n / 16), hexDigit (n % 16)]

/-- One character encoded. -/
def encodeChar (c : Char) : List Char :=
  if c.isAlphanum || keptMarks.contains c then [c] else (Text.Utf8.bytesOf c).flatMap escapeByte

/-- Encodes a link target; escapes that stand in it already are kept. -/
def encode : List Char → List Char
  | [] => []
  | '%' :: a :: b :: cs =>
    if (Text.hexValue? a).isSome && (Text.hexValue? b).isSome then '%' :: a :: b :: encode cs
    else encodeChar '%' ++ encode (a :: b :: cs)
  | c :: cs => encodeChar c ++ encode cs

/-- The byte that an escape in front of a text writes. -/
def escapedByte? : List Char → Option Nat
  | '%' :: a :: b :: _ => Text.hexNumber? [a, b]
  | _ => none

/-- The continuation byte that the escape at a distance from the front writes. -/
def continuation? (cs : List Char) (distance : Nat) : Option Nat :=
  match escapedByte? (cs.drop (3 * distance)) with
  | some b => if 0x80 ≤ b && b < 0xC0 then some (b - 0x80) else none
  | none => none

/-- How many bytes a sequence has that starts with a byte. -/
def sequenceLength (lead : Nat) : Nat :=
  if 0xC0 ≤ lead && lead < 0xE0 then 2
  else if 0xE0 ≤ lead && lead < 0xF0 then 3
  else if 0xF0 ≤ lead && lead < 0xF8 then 4
  else 1

/-- The payload bits of a leading byte. -/
def leadBits (lead : Nat) : Nat :=
  if lead < 0xE0 then lead - 0xC0 else if lead < 0xF0 then lead - 0xE0 else lead - 0xF0

/-- The least code point that needs a sequence of a length. -/
def leastOfLength (length : Nat) : Nat :=
  if length ≤ 2 then 0x80 else if length = 3 then 0x800 else 0x10000

/-- The replacement character. -/
def replacement : Char := Char.ofNat 0xFFFD

/-- The characters that a sequence of escapes of a length stands for: one, or a replacement for
each byte when it is no character. -/
def decodeSequence (lead : Nat) (tail : List Nat) : List Char :=
  let length := tail.length + 1
  let n := tail.foldl (fun n b => n * 0x40 + b) (leadBits lead)
  if leastOfLength length ≤ n && n.isValidChar then [Char.ofNat n]
  else List.replicate length replacement

/-- The characters in front of a run of escapes whose first byte is `lead`, and how many escapes
they take. -/
def decodeFront (lead : Nat) (cs : List Char) : List Char × Nat :=
  if lead < 0x80 then
    (if reservedMarks.contains (Char.ofNat lead) then escapeByte lead else [Char.ofNat lead], 1)
  else
    let length := sequenceLength lead
    let tail := (List.range (length - 1)).filterMap fun k => continuation? cs (k + 1)
    if length = 1 || tail.length + 1 < length then ([replacement], 1)
    else (decodeSequence lead tail, length)

/-- Helper of `decode`: the first `skip` characters belong to escapes that are already decoded. -/
def decodeFrom (skip : Nat) : List Char → List Char
  | [] => []
  | c :: cs =>
    match skip with
    | skip + 1 => decodeFrom skip cs
    | 0 =>
      match escapedByte? (c :: cs) with
      | none => c :: decodeFrom 0 cs
      | some lead =>
        let (front, taken) := decodeFront lead (c :: cs)
        front ++ decodeFrom (3 * taken - 1) cs

/-- Decodes the escapes of a text. -/
def decode (cs : List Char) : List Char :=
  decodeFrom 0 cs

end MarkdownSections.Url
