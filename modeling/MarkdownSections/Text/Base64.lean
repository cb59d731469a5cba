/-!
# Base 64

Bytes written in groups of six bits. Reading skips characters that are no digits of the notation
and stops behind the padding; a text that ends inside a group of four is refused. Writing breaks
the text into lines.
-/

set_option autoImplicit false

namespace MarkdownSections.Text.Base64

/-- The value of a digit. -/
def value? (c : Char) : Option Nat :=
  if c.isUpper then some (c.toNat - 0x41)
  else if c.isLower then some (c.toNat - 0x61 + 26)
  else if c.isDigit then some (c.toNat - 0x30 + 52)
  else if c == '+' then some 62
  else if c == '/' then some 63
  else none

/-- Reads on with `place` digits of a group read, whose last bits are `left`, and `pads` padding
marks. -/
def decodeFrom (place left pads : Nat) : List Char → Option (List Nat)
  | [] => if place = 0 then some [] else none
  | c :: cs =>
    if c == '=' then
      if 2 ≤ place then
        if 4 ≤ place + (pads + 1) then some [] else decodeFrom place left (pads + 1) cs
      else decodeFrom place left pads cs
    else match value? c with
      | none => decodeFrom place left pads cs
      | some v =>
        match place with
        | 0 => decodeFrom 1 v 0 cs
        | 1 => (decodeFrom 2 (v % 16) 0 cs).map ((left * 4 + v / 16) :: ·)
        | 2 => (decodeFrom 3 (v % 4) 0 cs).map ((left * 16 + v / 4) :: ·)
        | _ => (decodeFrom 0 0 0 cs).map ((left * 64 + v) :: ·)

/-- The bytes of a text. -/
def decode? (cs : List Char) : Option (List Nat) :=
  decodeFrom 0 0 0 cs

/-- The digit of a value. -/
def digit (v : Nat) : Char :=
  if v < 26 then Char.ofNat (0x41 + v)
  else if v < 52 then Char.ofNat (0x61 + (v - 26))
  else if v < 62 then Char.ofNat (0x30 + (v - 52))
  else if v = 62 then '+' else '/'

/-- The digits of bytes, padded to groups of four. -/
def encode : List Nat → List Char
  | [] => []
  | [a] => [digit (a / 4), digit (a % 4 * 16), '=', '=']
  | [a, b] => [digit (a / 4), digit (a % 4 * 16 + b / 16), digit (b % 16 * 4), '=']
  | a :: b :: c :: rest =>
    digit (a / 4) :: digit (a % 4 * 16 + b / 16) :: digit (b % 16 * 4 + c / 64) :: digit (c % 64)
      :: encode rest

/-- Ends a line behind every `room` digits and behind the last; `room` digits fit on this line. -/
def breakLines (width room : Nat) : List Char → List Char
  | [] => if room = width then [] else ['\n']
  | c :: cs =>
    match room with
    | 0 => '\n' :: c :: breakLines width (width - 1) cs
    | room + 1 => c :: breakLines width room cs

/-- The digits of bytes in lines of 76. -/
def encodeLines (bytes : List Nat) : List Char :=
  breakLines 76 76 (encode bytes)

end MarkdownSections.Text.Base64
