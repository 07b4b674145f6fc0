import AgentFlow.Number.Integer

/-!
# Calendar dates and times of day

Dates of the proleptic Gregorian calendar, times of day to the microsecond, and
the instants that a date, a time and an optional offset from UTC name.  A value
is built only from parts that are in range.
-/

namespace AgentFlow

open AgentFlow.Number

/-- The number in decimal digits, with leading zeros up to a width. -/
def paddedDigits (width n : Nat) : List Char :=
  let digits := Nat.toDigits 10 n
  List.replicate (width - digits.length) '0' ++ digits

/-- What is out of range in a date or a time of day. -/
inductive CalendarFault where
  | year (year : Nat)
  | month
  | day
  | hour
  | minute
  | second
  | offset (minutes : Int)
  deriving DecidableEq, Repr

/-- A calendar date. -/
structure Date where
  year : Nat
  month : Nat
  day : Nat
  deriving DecidableEq, Repr

/-- A time of day. -/
structure TimeOfDay where
  hour : Nat
  minute : Nat
  second : Nat
  microsecond : Nat
  deriving DecidableEq, Repr

/-- A date and a time of day, at an offset from UTC in minutes or at no known one. -/
structure DateTime where
  date : Date
  time : TimeOfDay
  offset : Option Int
  deriving DecidableEq, Repr

/-- A leap year has a 29 February. -/
def isLeapYear (year : Nat) : Bool :=
  year % 4 = 0 && (year % 100 != 0 || year % 400 = 0)

/-- The number of days of a month. -/
def daysInMonth (year month : Nat) : Nat :=
  if month = 2 then (if isLeapYear year then 29 else 28)
  else if month ∈ [4, 6, 9, 11] then 30 else 31

namespace Date

/-- The date with these parts, if there is one. -/
def make? (year month day : Nat) : Except CalendarFault Date :=
  if year < 1 ∨ 9999 < year then .error (.year year)
  else if month < 1 ∨ 12 < month then .error .month
  else if day < 1 ∨ daysInMonth year month < day then .error .day
  else .ok ⟨year, month, day⟩

/-- The date as `YYYY-MM-DD`. -/
def chars (d : Date) : List Char :=
  paddedDigits 4 d.year ++ '-' :: paddedDigits 2 d.month ++ '-' :: paddedDigits 2 d.day

/-- `Date.chars` as a string. -/
def text (d : Date) : String := String.ofList d.chars

/-- Days since the first day of year one. -/
def ordinal (d : Date) : Nat :=
  let before := d.year - 1
  let months := (List.range (d.month - 1)).foldl (fun days i => days + daysInMonth d.year (i + 1)) 0
  before * 365 + before / 4 - before / 100 + before / 400 + months + d.day

end Date

namespace TimeOfDay

/-- The time of day with these parts, if there is one. -/
def make? (hour minute second microsecond : Nat) : Except CalendarFault TimeOfDay :=
  if 23 < hour then .error .hour
  else if 59 < minute then .error .minute
  else if 59 < second then .error .second
  else .ok ⟨hour, minute, second, microsecond⟩

/-- The time as `HH:MM:SS`, with six places after the second if they are not all zero. -/
def chars (t : TimeOfDay) : List Char :=
  paddedDigits 2 t.hour ++ ':' :: paddedDigits 2 t.minute ++ ':' :: paddedDigits 2 t.second ++
    if t.microsecond = 0 then [] else '.' :: paddedDigits 6 t.microsecond

end TimeOfDay

namespace DateTime

/-- Offsets from UTC are shorter than a day. -/
def checkOffset (minutes : Int) : Except CalendarFault Int :=
  if minutes.natAbs < 24 * 60 then .ok minutes else .error (.offset minutes)

/-- The offset as `+HH:MM` or `-HH:MM`. -/
def offsetChars (minutes : Int) : List Char :=
  (if minutes < 0 then '-' else '+') :: paddedDigits 2 (minutes.natAbs / 60) ++
    ':' :: paddedDigits 2 (minutes.natAbs % 60)

/-- The date, a space, the time and the offset, if there is one. -/
def chars (d : DateTime) : List Char :=
  d.date.chars ++ ' ' :: d.time.chars ++ (d.offset.map offsetChars).getD []

/-- Microseconds since the start of year one, at UTC. -/
def instant (d : DateTime) : Int :=
  let t := d.time
  (((d.date.ordinal * 24 + t.hour) * 60 + t.minute - d.offset.getD 0) * 60 + t.second) *
    1000000 + t.microsecond

/-- Two date-times are the same when both know their offset and name one instant,
or neither does and their parts agree. -/
def same (d e : DateTime) : Bool :=
  d.offset.isSome == e.offset.isSome && d.instant == e.instant

end DateTime

end AgentFlow
