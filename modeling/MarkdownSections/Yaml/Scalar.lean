import MarkdownSections.Number.Decimal
import MarkdownSections.Number.Shortest
import MarkdownSections.Text.Base64
import MarkdownSections.Text.LetterCase
import MarkdownSections.Text.Utf8
import MarkdownSections.Yaml.Fault
import MarkdownSections.Yaml.Tag
import MarkdownSections.Yaml.Timestamp

/-!
# Scalar values

The value that a scalar stands for, by its tag. Numerals may hold underscores, whole numbers may be
written in base two, eight, ten or sixteen, and both kinds of numbers in base sixty.
-/

set_option autoImplicit false

namespace MarkdownSections.Yaml

/-- A value without parts. -/
inductive Scalar where
  | null
  | bool (value : Bool)
  | int (value : Int)
  | float (value : Binary64)
  | text (value : String)
  /-- A text that holds a half of a surrogate pair, by its code points. -/
  | brokenText (points : List Nat)
  | bytes (value : List Nat)
  | date (value : Date)
  | moment (value : Moment)
deriving DecidableEq, Repr, Inhabited

namespace Scalar

/-! ## Reading -/

/-- The code points of a numeral without underscores, its sign apart. -/
def signedNumeral (points : List Nat) : Except ScalarFault (Bool × List Nat) :=
  match points.filter (· != '_'.toNat) with
  | [] => .error .emptyNumeral
  | n :: ns =>
    if n == '-'.toNat then .ok (true, ns)
    else if n == '+'.toNat then .ok (false, ns)
    else .ok (false, n :: ns)

/-- The value of a digit in a base. -/
def digitIn? (base : Nat) (c : Char) : Option Nat := do
  let v ← (Text.digitValue? c).or (Text.hexValue? c)
  if v < base then some v else none

/-- A numeral without the letter that names its base. -/
def withoutBaseMark (letter : Char) (cs : List Char) : List Char :=
  match cs with
  | '0' :: c :: ds => if c.toLower == letter then ds else cs
  | _ => cs

/-- Reads a whole number in a base that a letter names. -/
def readInBase (base : Nat) (letter : Char) (cs : List Char) : Except ScalarFault Int :=
  let (negative, ds) := match Text.trimNumeral cs with
    | '-' :: ds => (true, ds)
    | '+' :: ds => (false, ds)
    | ds => (false, ds)
  match (withoutBaseMark letter ds).mapM (digitIn? base) with
  | none | some [] => .error (.integer .malformed)
  | some (v :: vs) =>
    let n := (v :: vs).foldl (fun n v => base * n + v) 0
    .ok (if negative then -(n : Int) else n)

/-- Reads a whole number in base ten. -/
def readDecimal (cs : List Char) : Except ScalarFault Int :=
  match Text.readInt cs with
  | .ok i => .ok i
  | .error fault => .error (.integer fault)

/-- Reads a whole number. -/
def readInt (points : List Nat) : Except ScalarFault Int := do
  let (negative, body) ← signedNumeral points
  let i ← match Text.charsOfPoints body with
    | [] => throw .emptyNumeral
    | ['0'] => pure 0
    | '0' :: 'b' :: ds => readInBase 2 'b' ds
    | '0' :: 'x' :: ds => readInBase 16 'x' ds
    | ds@('0' :: _) => readInBase 8 'o' ds
    | ds =>
      if ds.contains ':' then do
        let places ← (Text.splitWhen (· == ':') ds).mapM readDecimal
        pure (places.foldl (fun n d => 60 * n + d) 0)
      else readDecimal ds
  return if negative then -i else i

/-- Reads a number without base sixty. -/
def readPlainFloat (points : List Nat) : Except ScalarFault Binary64 :=
  match Binary64.read? (Text.charsOfPoints points) with
  | some x => .ok x
  | none => .error (.number points)

/-- The number that places of base sixty write, the least one first; `weight` is that of the first
place, and must itself be a number of that kind. -/
def sumOfSixty (weight : Nat) (sum : Binary64) : List Binary64 → Except ScalarFault Binary64
  | [] => .ok sum
  | x :: xs =>
    let factor := Binary64.ofInt weight
    if factor.isFinite then sumOfSixty (weight * 60) (sum.add (x.mul factor)) xs
    else .error .placeTooLarge

/-- Reads a floating-point number. -/
def readFloat (points : List Nat) : Except ScalarFault Binary64 := do
  let (negative, body) ← signedNumeral (Text.lowerPoints points)
  if body == Text.pointsOfChars ".nan".toList then return .nan
  let x ←
    if body == Text.pointsOfChars ".inf".toList then pure (Binary64.infinite false)
    else if body.contains ':'.toNat then do
      let places ← (Text.splitWhen (· == ':'.toNat) body).mapM readPlainFloat
      sumOfSixty 1 (.zero false) places.reverse
    else readPlainFloat body
  return if negative then x.neg else x

/-- Reads a truth value. -/
def readBool (points : List Nat) : Except ScalarFault Bool :=
  let lowered := Text.lowerPoints points
  let word := String.ofList (Text.charsOfPoints lowered)
  if ["yes", "true", "on"].contains word then .ok true
  else if ["no", "false", "off"].contains word then .ok false
  else .error (.truth lowered)

/-- Reads a timestamp; a line feed may end it. -/
def readTimestamp (cs : List Char) : Except ScalarFault Scalar :=
  match Timestamp.read? (Text.withoutFinalNewline cs) with
  | none => .error .timestamp
  | some t =>
    match t.time with
    | none =>
      match Date.check t.year t.month t.day with
      | .ok d => .ok (.date d)
      | .error fault => .error (.calendar fault)
    | some time =>
      match t.moment time with
      | .ok m => .ok (.moment m)
      | .error fault => .error (.calendar fault)

/-- Reads bytes. -/
def readBytes (cs : List Char) : Except Fault Scalar :=
  if cs.all (·.toNat < 0x80) then
    match Text.Base64.decode? cs with
    | some bs => .ok (.bytes bs)
    | none => .error .malformed
  else .error .malformed

/-- The outcome of a reading that can only fail in the value. -/
def ofReading {α : Type} (make : α → Scalar) (x : Except ScalarFault α) : Except Fault Scalar :=
  match x with
  | .ok a => .ok (make a)
  | .error fault => .error (.scalar fault)

/-- The value of a text of code points by its tag. -/
def read (tag : Tag) (points : List Nat) : Except Fault Scalar :=
  let cs := Text.charsOfPoints points
  match tag with
  | .null => .ok .null
  | .bool => ofReading .bool (readBool points)
  | .int => ofReading .int (readInt points)
  | .float => ofReading .float (readFloat points)
  | .binary => readBytes cs
  | .timestamp => ofReading id (readTimestamp cs)
  | .text => .ok (if Text.areChars points then .text (String.ofList cs) else .brokenText points)
  | _ => .error .malformed

/-! ## Comparing -/

/-- The number that a value counts as among keys. -/
def keyNumber? : Scalar → Option Binary64
  | .bool b => some (.ofInt (if b then 1 else 0))
  | .int i => some (.ofInt i)
  | .float x => some x
  | _ => none

/-- The whole number that a value counts as among keys. -/
def keyInt? : Scalar → Option Int
  | .bool b => some (if b then 1 else 0)
  | .int i => some i
  | .float x => x.toInt?
  | _ => none

/-- Whether two values are the same key: numbers of all kinds count by their value, and moments by
the time they name. -/
def sameKey (a b : Scalar) : Bool :=
  match a.keyNumber?, b.keyNumber? with
  | some x, some y =>
    match a.keyInt?, b.keyInt? with
    | some i, some j => i == j
    | none, none => x == y
    | _, _ => false
  | none, none =>
    match a, b with
    | .moment m, .moment n => m.sameTime n
    | a, b => a == b
  | _, _ => false

/-- Whether a value counts as absent where absence is asked for. -/
def isBlankValue : Scalar → Bool
  | .null => true
  | .bool b => !b
  | .int i => i == 0
  | .float x => x.isZero
  | .text s => s.isEmpty
  | .brokenText points => points.isEmpty
  | .bytes bs => bs.isEmpty
  | .date _ | .moment _ => false

/-! ## Texts -/

/-- Whether a value can be written: whole numbers may be too long. -/
def isWritable : Scalar → Bool
  | .int i => Text.isWritable i
  | _ => true

/-- The plain text of a value. -/
def plainText : Scalar → String
  | .null => "None"
  | .bool b => if b then "True" else "False"
  | .int i => Text.showInt i
  | .float x => x.text
  | .text s => s
  | .brokenText points => String.ofList (Text.charsOfPoints (Text.joinPairs points))
  | .bytes bs => String.ofList (Text.Literal.quotedBytes bs)
  | .date d => d.text
  | .moment m => m.text

/-- The fields of a date or a moment in a list of values. -/
def fieldList (fields : List Nat) : String :=
  ", ".intercalate (fields.map Text.showNat)

/-- The time fields of a moment; seconds and microseconds that are zero are left out at the end. -/
def timeFields (m : Moment) : List Nat :=
  if m.microsecond != 0 then [m.hour, m.minute, m.second, m.microsecond]
  else if m.second != 0 then [m.hour, m.minute, m.second]
  else [m.hour, m.minute]

/-- The zone of a moment in a list of values. -/
def zoneLiteral (minutes : Int) : String :=
  if minutes = 0 then "datetime.timezone.utc"
  else
    let days := minutes.fdiv Moment.minutesPerDay
    let seconds := (minutes - days * Moment.minutesPerDay) * 60
    "datetime.timezone(datetime.timedelta("
      ++ (if days = 0 then "" else "days=" ++ Text.showInt days ++ ", ")
      ++ "seconds=" ++ Text.showInt seconds ++ "))"

/-- The spelling of a value in a list of values: texts are quoted. -/
def literal : Scalar → String
  | .text s => String.ofList (Text.Literal.quoted s.toList)
  | .brokenText points => String.ofList (Text.Literal.quotedPoints points)
  | .date d => "datetime.date(" ++ fieldList [d.year, d.month, d.day] ++ ")"
  | .moment m =>
    "datetime.datetime(" ++ fieldList ([m.date.year, m.date.month, m.date.day] ++ timeFields m)
      ++ ((m.offset.map fun o => ", tzinfo=" ++ zoneLiteral o).getD "") ++ ")"
  | s => s.plainText

end Scalar

end MarkdownSections.Yaml
