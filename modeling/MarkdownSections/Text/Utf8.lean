import MarkdownSections.Text.Numeral

/-!
# Code units

The bytes of a text in UTF-8, and the text of bytes. Decoding is strict: every character has one
sequence of bytes, the shortest one, and bytes that form no such sequences are no text. A fault
tells which bytes stand in the way first.

An escape may name any code unit of sixteen bits, and so half of a surrogate pair, which is no
character. A text that may hold such halves is a list of code points; two halves that make a pair
are one character.
-/

set_option autoImplicit false

namespace MarkdownSections.Text

/-! ## Halves of surrogate pairs -/

/-- Joins surrogate pairs; a half that stands alone stays as it is. -/
def joinPairs : List Nat → List Nat
  | [] => []
  | [n] => [n]
  | n :: low :: units =>
    if 0xD800 ≤ n && n < 0xDC00 && 0xDC00 ≤ low && low < 0xE000 then
      (0x10000 + (n - 0xD800) * 0x400 + (low - 0xDC00)) :: joinPairs units
    else n :: joinPairs (low :: units)

/-- Whether all code points are characters. -/
def areChars (points : List Nat) : Bool :=
  points.all Nat.isValidChar

/-- The characters of code points; those that are no characters become replacement characters. -/
def charsOfPoints (points : List Nat) : List Char :=
  points.map fun n => if n.isValidChar then Char.ofNat n else Char.ofNat 0xFFFD

/-- The code points of characters. -/
def pointsOfChars (cs : List Char) : List Nat :=
  cs.map Char.toNat

/-! ## Bytes -/

namespace Utf8

/-- The bytes of a character. -/
def bytesOf (c : Char) : List Nat :=
  let n := c.toNat
  if n < 0x80 then [n]
  else if n < 0x800 then [0xC0 + n / 0x40, 0x80 + n % 0x40]
  else if n < 0x10000 then [0xE0 + n / 0x1000, 0x80 + n / 0x40 % 0x40, 0x80 + n % 0x40]
  else [0xF0 + n / 0x40000, 0x80 + n / 0x1000 % 0x40, 0x80 + n / 0x40 % 0x40, 0x80 + n % 0x40]

/-- The payload bits of a continuation byte. -/
def continuation? (b : Nat) : Option Nat :=
  if 0x80 ≤ b && b < 0xC0 then some (b - 0x80) else none

/-- The character of a code point that needs a sequence of its length, which starts at `least`. -/
def charOf? (least n : Nat) : Option Char :=
  if least ≤ n && n.isValidChar then some (Char.ofNat n) else none

/-- The text of bytes. -/
def decode? : List Nat → Option (List Char)
  | [] => some []
  | a :: rest =>
    if a < 0x80 then (decode? rest).map (Char.ofNat a :: ·)
    else if a < 0xE0 then
      match rest with
      | b :: rest => do
        if a < 0xC0 then none
        else
          let c ← charOf? 0x80 ((a - 0xC0) * 0x40 + (← continuation? b))
          return c :: (← decode? rest)
      | _ => none
    else if a < 0xF0 then
      match rest with
      | b :: c :: rest => do
        let n := ((a - 0xE0) * 0x40 + (← continuation? b)) * 0x40 + (← continuation? c)
        return (← charOf? 0x800 n) :: (← decode? rest)
      | _ => none
    else if a < 0xF8 then
      match rest with
      | b :: c :: d :: rest => do
        let n := (((a - 0xF0) * 0x40 + (← continuation? b)) * 0x40 + (← continuation? c)) * 0x40
          + (← continuation? d)
        return (← charOf? 0x10000 n) :: (← decode? rest)
      | _ => none
    else none

/-! ## Faults -/

/-- What is wrong with bytes that are no text. -/
inductive FaultKind where
  /-- No sequence starts with this byte. -/
  | start
  /-- A byte is followed by one that does not go on with its sequence. -/
  | continuation
  /-- The bytes end inside a sequence. -/
  | unfinished
deriving DecidableEq, Repr

/-- The first bytes that are no part of a text. -/
structure Fault where
  position : Nat
  /-- The bytes at fault, from the start of their sequence on. -/
  bytes : List Nat
  kind : FaultKind
deriving DecidableEq, Repr

/-- The length of the sequence that starts with a byte. -/
def sequenceLength? (a : Nat) : Option Nat :=
  if a < 0x80 then some 1
  else if a < 0xC2 then none
  else if a < 0xE0 then some 2
  else if a < 0xF0 then some 3
  else if a < 0xF5 then some 4
  else none

/-- Whether a byte can stand second in the sequence that starts with `a`. -/
def canFollow (a b : Nat) : Bool :=
  let least := if a == 0xE0 then 0xA0 else if a == 0xF0 then 0x90 else 0x80
  let greatest := if a == 0xED then 0x9F else if a == 0xF4 then 0x8F else 0xBF
  decide (least ≤ b) && decide (b ≤ greatest)

/-- The bytes that go on with the sequence that starts with `a`. -/
def followers (a : Nat) : List Nat → List Nat
  | [] => []
  | b :: bs => if canFollow a b then b :: bs.takeWhile fun b => (continuation? b).isSome else []

/-- The first fault from a position on; `skip` bytes belong to a sequence that is already read. -/
def faultFrom (position skip : Nat) : List Nat → Option Fault
  | [] => none
  | a :: rest =>
    match skip with
    | skip + 1 => faultFrom (position + 1) skip rest
    | 0 =>
      match sequenceLength? a with
      | none => some ⟨position, [a], .start⟩
      | some length =>
        let good := followers a (rest.take (length - 1))
        if good.length + 1 == length then faultFrom (position + 1) (length - 1) rest
        else
          some ⟨position, a :: good,
            if good.length == rest.length then .unfinished else .continuation⟩

/-- The first fault in bytes, if they are no text. -/
def fault? (bytes : List Nat) : Option Fault :=
  faultFrom 0 0 bytes

/-- The wording of a kind of faults. -/
def FaultKind.message : FaultKind → String
  | start => "invalid start byte"
  | continuation => "invalid continuation byte"
  | unfinished => "unexpected end of data"

/-- The wording of a fault. -/
def Fault.message (f : Fault) : String :=
  let place := match f.bytes with
    | [a] =>
      "byte 0x" ++ String.ofList (hexDigits 2 a) ++ " in position " ++ showNat f.position
    | bytes =>
      "bytes in position " ++ showNat f.position ++ "-"
        ++ showNat (f.position + bytes.length - 1)
  "'utf-8' codec can't decode " ++ place ++ ": " ++ f.kind.message

end Utf8

end MarkdownSections.Text
