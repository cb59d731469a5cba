import MarkdownSections.Json.Basic

/-!
# Reading data files

The JSON grammar with the three literals `NaN`, `Infinity` and `-Infinity`. Control
characters inside texts are refused, a repeated key keeps its first place and its last value, and
a numeral without fraction or exponent is a whole number.

Each function reads one construct in front of a text and gives the rest. What is read beyond the
grammar, and how deep, is a matter of the rules that the reader takes; it descends by fuel, which
`read` computes from the length of the text.
-/

set_option autoImplicit false

namespace MarkdownSections.Json

/-- Why a text is not read. -/
inductive ReadError where
  | malformed
  | nestedTooDeeply
  | numeralTooLong (digits : Nat)
deriving DecidableEq, Repr

/-- What a reader admits. -/
structure ReadRules where
  /-- How many collections a value may stand in. -/
  maxNesting : Nat
  /-- Whether a text may hold a lone half of a surrogate pair. -/
  loneHalves : Bool
  /-- Whether a numeral with a fraction or an exponent may have a whole part of any length. -/
  longFloats : Bool
deriving DecidableEq, Repr

/-- Drops the blanks of the format. -/
def skipBlanks (cs : List Char) : List Char :=
  cs.dropWhile fun c => c == ' ' || c == '\t' || c == '\n' || c == '\r'

/-- The character of a one-letter escape. -/
def shortEscape? : Char → Option Char
  | '"' => some '"'
  | '\\' => some '\\'
  | '/' => some '/'
  | 'b' => some '\x08'
  | 'f' => some '\x0c'
  | 'n' => some '\n'
  | 'r' => some '\r'
  | 't' => some '\t'
  | _ => none

/-- Reads the code units of a text up to and with its closing quote. A `\u` escape gives one unit
of sixteen bits, everything else a whole code point. -/
def readUnits : List Char → Except ReadError (List Nat × List Char)
  | [] => throw .malformed
  | '"' :: rest => pure ([], rest)
  | '\\' :: 'u' :: a :: b :: c :: d :: rest =>
    match Text.hexNumber? [a, b, c, d] with
    | none => throw .malformed
    | some n => do
      let (units, rest) ← readUnits rest
      pure (n :: units, rest)
  | '\\' :: e :: rest =>
    match shortEscape? e with
    | none => throw .malformed
    | some c => do
      let (units, rest) ← readUnits rest
      pure (c.toNat :: units, rest)
  | c :: rest =>
    if c.toNat < 0x20 || c = '\\' then throw .malformed
    else do
      let (units, rest) ← readUnits rest
      pure (c.toNat :: units, rest)

/-- Reads the code points of a text after its opening quote. -/
def readText (rules : ReadRules) (cs : List Char) : Except ReadError (List Nat × List Char) := do
  let (units, rest) ← readUnits cs
  let points := Text.joinPairs units
  if rules.loneHalves || Text.areChars points then pure (points, rest) else throw .malformed

/-- Splits off the digits in front. -/
def spanDigits (cs : List Char) : List Char × List Char :=
  (cs.takeWhile Char.isDigit, cs.dropWhile Char.isDigit)

/-- The number that ASCII digits write. -/
def digitsValue (ds : List Char) : Nat :=
  ds.foldl (fun n c => 10 * n + (c.toNat - 0x30)) 0

/-- Splits off a fraction: a point and at least one digit. -/
def spanFraction (cs : List Char) : List Char × List Char :=
  match cs with
  | '.' :: rest =>
    match spanDigits rest with
    | ([], _) => ([], cs)
    | split => split
  | _ => ([], cs)

/-- Splits off an exponent: `e` or `E`, an optional sign, and at least one digit. -/
def spanExponent (cs : List Char) : Option Int × List Char :=
  let signed (rest : List Char) : Bool × List Char :=
    match rest with
    | '-' :: rest => (true, rest)
    | '+' :: rest => (false, rest)
    | rest => (false, rest)
  match cs with
  | c :: rest =>
    if c = 'e' || c = 'E' then
      let (negative, rest) := signed rest
      match spanDigits rest with
      | ([], _) => (none, cs)
      | (ds, rest) =>
        let n : Int := digitsValue ds
        (some (if negative then -n else n), rest)
    else (none, cs)
  | [] => (none, cs)

/-- Reads an unsigned numeral in front of a text; a numeral has no leading zeros. -/
def readNumeral (rules : ReadRules) (negative : Bool) (cs : List Char) :
    Except ReadError (Json × List Char) :=
  let (whole, rest) := match cs with
    | '0' :: rest => (['0'], rest)
    | cs => spanDigits cs
  if whole.isEmpty then throw .malformed
  else
    let (fraction, rest) := spanFraction rest
    let (exponent, rest) := spanExponent rest
    let isWhole := fraction.isEmpty && exponent.isNone
    if Text.maxDigits < whole.length && (isWhole || !rules.longFloats) then
      throw (.numeralTooLong whole.length)
    else if isWhole then
      let n : Int := digitsValue whole
      pure (.int (if negative then -n else n), rest)
    else
      let scale := exponent.getD 0 - fraction.length
      pure (.float (Binary64.ofDecimal negative (digitsValue (whole ++ fraction)) scale), rest)

/-- Reads a literal word or a number. -/
def readScalar (rules : ReadRules) (cs : List Char) : Except ReadError (Json × List Char) :=
  match cs with
  | 'n' :: 'u' :: 'l' :: 'l' :: rest => pure (.null, rest)
  | 't' :: 'r' :: 'u' :: 'e' :: rest => pure (.bool true, rest)
  | 'f' :: 'a' :: 'l' :: 's' :: 'e' :: rest => pure (.bool false, rest)
  | 'N' :: 'a' :: 'N' :: rest => pure (.float .nan, rest)
  | 'I' :: 'n' :: 'f' :: 'i' :: 'n' :: 'i' :: 't' :: 'y' :: rest =>
    pure (.float (.infinite false), rest)
  | '-' :: 'I' :: 'n' :: 'f' :: 'i' :: 'n' :: 'i' :: 't' :: 'y' :: rest =>
    pure (.float (.infinite true), rest)
  | '-' :: rest => readNumeral rules true rest
  | cs => readNumeral rules false cs

mutual

/-- Reads a value; `room` more collections may stand inside it. -/
def readValue (rules : ReadRules) : Nat → Nat → List Char → Except ReadError (Json × List Char)
  | 0, _, _ => throw .malformed
  | fuel + 1, room, cs =>
    match cs with
    | '"' :: rest => do
      let (points, rest) ← readText rules rest
      pure (ofPoints points, rest)
    | '[' :: rest =>
      match room, skipBlanks rest with
      | _, ']' :: rest => pure (.list [], rest)
      | 0, _ => throw .nestedTooDeeply
      | room + 1, rest => do
        let (items, rest) ← readItems rules fuel room rest
        pure (.list items, rest)
    | '{' :: rest =>
      match room, skipBlanks rest with
      | _, '}' :: rest => pure (.map [], rest)
      | 0, _ => throw .nestedTooDeeply
      | room + 1, rest => do
        let (entries, rest) ← readEntries rules fuel room [] rest
        pure (ofPointEntries entries, rest)
    | cs => readScalar rules cs

/-- Reads the items of a list up to its closing bracket. -/
def readItems (rules : ReadRules) : Nat → Nat → List Char → Except ReadError (List Json × List Char)
  | 0, _, _ => throw .malformed
  | fuel + 1, room, cs => do
    let (v, rest) ← readValue rules fuel room cs
    match skipBlanks rest with
    | ',' :: rest => do
      let (vs, rest) ← readItems rules fuel room (skipBlanks rest)
      pure (v :: vs, rest)
    | ']' :: rest => pure ([v], rest)
    | _ => throw .malformed

/-- Reads the entries of a map up to its closing brace, after those already read. -/
def readEntries (rules : ReadRules) :
    Nat → Nat → List (List Nat × Json) → List Char →
      Except ReadError (List (List Nat × Json) × List Char)
  | 0, _, _, _ => throw .malformed
  | fuel + 1, room, entries, cs =>
    match cs with
    | '"' :: rest => do
      let (key, rest) ← readText rules rest
      match skipBlanks rest with
      | ':' :: rest => do
        let (v, rest) ← readValue rules fuel room (skipBlanks rest)
        let entries := insertEntry entries key v
        match skipBlanks rest with
        | ',' :: rest => readEntries rules fuel room entries (skipBlanks rest)
        | '\x7d' :: rest => pure (entries, rest)
        | _ => throw .malformed
      | _ => throw .malformed
    | _ => throw .malformed

end

/-- Reads a whole text as one value. -/
def read (rules : ReadRules) (cs : List Char) : Except ReadError Json := do
  let (v, rest) ← readValue rules (2 * cs.length + 2) rules.maxNesting (skipBlanks cs)
  if (skipBlanks rest).isEmpty then pure v else throw .malformed

end MarkdownSections.Json
