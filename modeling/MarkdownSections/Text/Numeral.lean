import MarkdownSections.Text.Blank
import MarkdownSections.Text.CharacterClass

/-!
# Numerals

A whole number is read from decimal digits of any script, with single underscores between digits,
an optional sign and blanks on both sides. Numerals of more than `maxDigits` digits are refused, and
so is what starts with as many, before a look at what follows.
-/

set_option autoImplicit false

namespace MarkdownSections

/-- The power of ten with an exponent. -/
def tenPow (n : Nat) : Nat :=
  Nat.pow 10 n

namespace Text

/-- The longest numeral that is read or written, in digits. -/
def maxDigits : Nat := 4300

/-- The values of a run of digits in which single underscores may separate digits. -/
def numeralDigits? : List Char → Option (List Nat)
  | [] => none
  | [c] => (digitValue? c).map ([·])
  | c :: '_' :: cs => do
    let d ← digitValue? c
    return d :: (← numeralDigits? cs)
  | c :: cs => do
    let d ← digitValue? c
    return d :: (← numeralDigits? cs)

/-- The number that a list of decimal digits writes, most significant first. -/
def ofDigits (ds : List Nat) : Nat :=
  ds.foldl (fun n d => 10 * n + d) 0

/-- Reads an unsigned numeral. -/
def readNat? (cs : List Char) : Option Nat := do
  let ds ← numeralDigits? cs
  if ds.length ≤ maxDigits then some (ofDigits ds) else none

/-- Reads a whole number, blanks on both sides allowed. -/
def readInt? (cs : List Char) : Option Int :=
  match trimNumeral cs with
  | '-' :: ds => (readNat? ds).map fun n => -(n : Int)
  | '+' :: ds => (readNat? ds).map fun n => (n : Int)
  | ds => (readNat? ds).map fun n => (n : Int)

/-- A text without its sign. -/
def withoutSign : List Char → List Char
  | '-' :: cs => cs
  | '+' :: cs => cs
  | cs => cs

/-- Why a text is no numeral, or a number has none. -/
inductive NumeralFault where
  | malformed
  /-- The digits in front are too many. -/
  | tooLong (digits : Nat)
  /-- The number has too many digits to be written. -/
  | unwritable
deriving DecidableEq, Repr

/-- What is wrong with a text that is no numeral. -/
def numeralFault (cs : List Char) : NumeralFault :=
  let front := (withoutSign (trimNumeral cs)).takeWhile fun c => c == '_' || (digitValue? c).isSome
  match numeralDigits? front with
  | some ds => if maxDigits < ds.length then .tooLong ds.length else .malformed
  | none => .malformed

/-- Reads a whole number, or tells why there is none. -/
def readInt (cs : List Char) : Except NumeralFault Int :=
  match readInt? cs with
  | some i => .ok i
  | none => .error (numeralFault cs)

/-- The decimal digits of a number. -/
def natDigits (n : Nat) : List Char :=
  Nat.toDigits 10 n

/-- A whole number in decimal digits, a minus sign in front of negative ones. -/
def showInt (i : Int) : String :=
  match i with
  | .ofNat n => String.ofList (natDigits n)
  | .negSucc n => String.ofList ('-' :: natDigits (n + 1))

/-- A natural number in decimal digits. -/
def showNat (n : Nat) : String :=
  String.ofList (natDigits n)

/-- Whether a whole number is written at all: numbers of more than `maxDigits` digits are not. -/
def isWritable (i : Int) : Bool :=
  i.natAbs < tenPow maxDigits

/-- The wording of the refusal to write a number that is too long. -/
def unwritableMessage : String :=
  "Exceeds the limit (" ++ showNat maxDigits ++ " digits) for integer string conversion; "
    ++ "use sys.set_int_max_str_digits() to increase the limit"

/-- The wording of the refusal of a numeral that is too long. -/
def tooLongMessage (digits : Nat) : String :=
  "Exceeds the limit (" ++ showNat maxDigits ++ " digits) for integer string conversion: value has "
    ++ showNat digits ++ " digits; use sys.set_int_max_str_digits() to increase the limit"

/-- The wording of a fault. -/
def NumeralFault.message : NumeralFault → String
  | malformed => "invalid literal for int()"
  | tooLong digits => tooLongMessage digits
  | unwritable => unwritableMessage

/-- The value of a hexadecimal digit. -/
def hexValue? (c : Char) : Option Nat :=
  let n := c.toNat
  if 0x30 ≤ n && n ≤ 0x39 then some (n - 0x30)
  else if 0x41 ≤ n && n ≤ 0x46 then some (n - 0x37)
  else if 0x61 ≤ n && n ≤ 0x66 then some (n - 0x57)
  else none

/-- The number that a list of hexadecimal digits writes. -/
def hexNumber? (cs : List Char) : Option Nat :=
  if cs.isEmpty then none
  else cs.foldlM (fun n c => (hexValue? c).map (16 * n + ·)) 0

/-- A number in at least `width` lower-case hexadecimal digits. -/
def hexDigits (width n : Nat) : List Char :=
  let ds := Nat.toDigits 16 n
  List.replicate (width - ds.length) '0' ++ ds

end Text

end MarkdownSections
