import MarkdownSections.Calendar.Moment
import MarkdownSections.Yaml.Fault

/-!
# Timestamps

A timestamp is a date, or a date and a time with an optional fraction of a second and an optional
zone. Only its form is read here; whether there is such a day is checked when its value is made.
-/

set_option autoImplicit false

namespace MarkdownSections.Yaml

/-- The zone of a timestamp. -/
inductive Zone where
  | none
  | universal
  | offset (negative : Bool) (hours minutes : Nat)
deriving DecidableEq, Repr

/-- The time of a timestamp. -/
structure ClockTime where
  hour : Nat
  minute : Nat
  second : Nat
  /-- The digits behind the decimal point. -/
  fraction : List Char
  zone : Zone
deriving DecidableEq, Repr

/-- A timestamp as it is spelled. -/
structure Timestamp where
  year : Nat
  month : Nat
  day : Nat
  /-- Whether the month and the day have two digits each. -/
  full : Bool
  time : Option ClockTime
deriving DecidableEq, Repr

namespace Timestamp

/-- The number of a list of digits. -/
def number (ds : List Char) : Nat :=
  ds.foldl (fun n d => 10 * n + (d.toNat - 0x30)) 0

/-- Reads at least `least` and at most `most` digits. -/
def digits? (least most : Nat) (cs : List Char) : Option (List Char × List Char) :=
  let ds := (cs.takeWhile Char.isDigit).take most
  if ds.length < least then none else some (ds, cs.drop ds.length)

/-- Moves over a character. -/
def expect? (c : Char) (cs : List Char) : Option (List Char) :=
  match cs with
  | x :: rest => if x == c then some rest else none
  | [] => none

/-- A space or a tab. -/
def isGap (c : Char) : Bool :=
  c == ' ' || c == '\t'

/-- Reads a zone, which ends the text. -/
def zone? (cs : List Char) : Option Zone :=
  match cs, cs.dropWhile isGap with
  | [], _ => some .none
  | _, ['Z'] => some .universal
  | _, sign :: rest =>
    if sign != '-' && sign != '+' then none
    else do
      let (hours, rest) ← digits? 1 2 rest
      match rest with
      | [] => return .offset (sign == '-') (number hours) 0
      | ':' :: rest =>
        let (minutes, rest) ← digits? 2 2 rest
        if rest.isEmpty then some (.offset (sign == '-') (number hours) (number minutes)) else none
      | _ => none
  | _, [] => none

/-- Reads a time, which ends the text. -/
def time? (cs : List Char) : Option ClockTime := do
  let (hour, cs) ← digits? 1 2 cs
  let (minute, cs) ← digits? 2 2 (← expect? ':' cs)
  let (second, cs) ← digits? 2 2 (← expect? ':' cs)
  let (fraction, cs) := match cs with
    | '.' :: cs => (cs.takeWhile Char.isDigit, cs.dropWhile Char.isDigit)
    | cs => ([], cs)
  let zone ← zone? cs
  return { hour := number hour, minute := number minute, second := number second, fraction, zone }

/-- Reads a timestamp. -/
def read? (cs : List Char) : Option Timestamp := do
  let (year, cs) ← digits? 4 4 cs
  let (month, cs) ← digits? 1 2 (← expect? '-' cs)
  let (day, cs) ← digits? 1 2 (← expect? '-' cs)
  let time ← match cs with
    | [] => some none
    | c :: rest =>
      if c == 'T' || c == 't' then (time? rest).map some
      else if isGap c then (time? (rest.dropWhile isGap)).map some
      else none
  return { year := number year, month := number month, day := number day
           full := month.length == 2 && day.length == 2, time }

/-- Whether a text has the form that makes a plain scalar a timestamp: without a time, the month and
the day need two digits. -/
def isPlain (cs : List Char) : Bool :=
  match read? cs with
  | some t => t.full || t.time.isSome
  | none => false

/-- The first six digits of a fraction of a second, as microseconds. -/
def microseconds (fraction : List Char) : Nat :=
  number (fraction.take 6 ++ List.replicate (6 - fraction.length) '0')

/-- The offset of a zone in minutes. -/
def offsetOf : Zone → Option Int
  | .none => Option.none
  | .universal => some 0
  | .offset negative hours minutes =>
    let n : Int := (60 * hours + minutes : Nat)
    some (if negative then -n else n)

/-- The moment of a timestamp with a time. -/
def moment (t : Timestamp) (time : ClockTime) : Except CalendarFault Moment :=
  Moment.check t.year t.month t.day time.hour time.minute time.second
    (microseconds time.fraction) (offsetOf time.zone)

end Timestamp

end MarkdownSections.Yaml
