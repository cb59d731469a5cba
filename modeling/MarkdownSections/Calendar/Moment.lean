import MarkdownSections.Text.Numeral

/-!
# Dates and moments

A date is a day of the calendar from year 1 on. A moment is a time of a date, to the microsecond,
perhaps with its offset from universal time. Both are checked field by field when they are made.
-/

set_option autoImplicit false

namespace MarkdownSections

/-- A day of the calendar. -/
structure Date where
  year : Nat
  month : Nat
  day : Nat
deriving DecidableEq, Repr

/-- A time of a day. The offset is in minutes. -/
structure Moment where
  date : Date
  hour : Nat
  minute : Nat
  second : Nat
  microsecond : Nat := 0
  offset : Option Int := none
deriving DecidableEq, Repr

/-- Why there is no such date or moment. -/
inductive CalendarFault where
  | year (n : Nat)
  | month
  | day
  | hour
  | minute
  | second
  /-- The offset, in minutes, reaches a whole day. -/
  | offset (minutes : Int)
deriving DecidableEq, Repr

namespace Date

/-- Whether a year has a leap day. -/
def isLeapYear (year : Nat) : Bool :=
  year % 4 == 0 && (year % 100 != 0 || year % 400 == 0)

/-- The number of days of a month. -/
def daysInMonth (year month : Nat) : Nat :=
  if month = 2 then (if isLeapYear year then 29 else 28)
  else if month = 4 || month = 6 || month = 9 || month = 11 then 30
  else 31

/-- The date of three numbers. -/
def check (year month day : Nat) : Except CalendarFault Date :=
  if year = 0 || 9999 < year then .error (.year year)
  else if month = 0 || 12 < month then .error .month
  else if day = 0 || daysInMonth year month < day then .error .day
  else .ok ⟨year, month, day⟩

/-- A number in at least `width` digits. -/
def padded (width n : Nat) : String :=
  let ds := Text.natDigits n
  String.ofList (List.replicate (width - ds.length) '0' ++ ds)

/-- The text of a date: year, month and day. -/
def text (d : Date) : String :=
  padded 4 d.year ++ "-" ++ padded 2 d.month ++ "-" ++ padded 2 d.day

/-- How many days lie between the first day of year 1 and a date. -/
def dayNumber (d : Date) : Nat :=
  let y := d.year - 1
  365 * y + y / 4 - y / 100 + y / 400
    + (List.range (d.month - 1)).foldl (fun n m => n + daysInMonth d.year (m + 1)) (d.day - 1)

end Date

namespace Moment

/-- The number of minutes in a day. -/
def minutesPerDay : Int := 1440

/-- The moment of a date and a time; the offset is checked first, then the date. -/
def check (year month day hour minute second microsecond : Nat) (offset : Option Int) :
    Except CalendarFault Moment := do
  match offset with
  | some minutes => if minutesPerDay ≤ minutes.natAbs then throw (.offset minutes)
  | none => pure ()
  let date ← Date.check year month day
  if 23 < hour then throw .hour
  if 59 < minute then throw .minute
  if 59 < second then throw .second
  return { date, hour, minute, second, microsecond, offset }

/-- The text of an offset: its sign, hours and minutes. -/
def offsetText (minutes : Int) : String :=
  let n := minutes.natAbs
  (if minutes < 0 then "-" else "+") ++ Date.padded 2 (n / 60) ++ ":" ++ Date.padded 2 (n % 60)

/-- The text of a moment: date and time, microseconds if there are any, and the offset. -/
def text (m : Moment) : String :=
  m.date.text ++ " " ++ Date.padded 2 m.hour ++ ":" ++ Date.padded 2 m.minute ++ ":"
    ++ Date.padded 2 m.second
    ++ (if m.microsecond = 0 then "" else "." ++ Date.padded 6 m.microsecond)
    ++ ((m.offset.map offsetText).getD "")

/-- Microseconds since the first day of year 1, in universal time if the offset is known. -/
def instant (m : Moment) : Int :=
  let minutes : Int :=
    ((m.date.dayNumber * 24 + m.hour) * 60 + m.minute : Nat) - m.offset.getD 0
  (minutes * 60 + m.second) * 1000000 + m.microsecond

/-- Whether two moments are the same time; a known and an unknown offset never agree. -/
def sameTime (a b : Moment) : Bool :=
  a.offset.isSome == b.offset.isSome && a.instant == b.instant

end Moment

namespace CalendarFault

/-- A length of time in days and seconds, the seconds not negative. -/
def durationText (minutes : Int) : String :=
  let days := minutes.fdiv Moment.minutesPerDay
  let seconds := (minutes - days * Moment.minutesPerDay) * 60
  "datetime.timedelta(days=" ++ Text.showInt days
    ++ (if seconds = 0 then "" else ", seconds=" ++ Text.showInt seconds) ++ ")"

/-- The wording of a fault. -/
def message : CalendarFault → String
  | year n => "year " ++ Text.showNat n ++ " is out of range"
  | month => "month must be in 1..12"
  | day => "day is out of range for month"
  | hour => "hour must be in 0..23"
  | minute => "minute must be in 0..59"
  | second => "second must be in 0..59"
  | offset minutes =>
    "offset must be a timedelta strictly between -timedelta(hours=24) and timedelta(hours=24), not "
      ++ durationText minutes ++ "."

end CalendarFault

end MarkdownSections
