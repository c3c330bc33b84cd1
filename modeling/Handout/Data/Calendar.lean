/-!
# Dates and moments

Days of the Gregorian calendar and moments of a day, as configuration files may hold them. A date is
checked when it is made: the year is 1 to 9999, and the month and the day exist.
-/

namespace Handout

/-- A day. -/
structure Date where
  year : Nat
  month : Nat
  day : Nat
  deriving DecidableEq, Repr

/-- A moment of a day; the offset from universal time is in minutes, where one is known. -/
structure Moment where
  date : Date
  hour : Nat
  minute : Nat
  second : Nat
  microsecond : Nat
  offset : Option Int
  deriving DecidableEq, Repr

/-- Why numbers make no date or moment. -/
inductive CalendarFault
  | year (given : Nat)
  | month
  | day
  | hour
  | minute
  | second
  | offset (minutes : Int)
  deriving DecidableEq, Repr

/-- A year with a leap day. -/
def Date.isLeap (year : Nat) : Bool :=
  year % 4 = 0 && (year % 100 ≠ 0 || year % 400 = 0)

/-- The days of a month. -/
def Date.daysIn (year month : Nat) : Nat :=
  if month = 2 then (if Date.isLeap year then 29 else 28)
  else if month = 4 ∨ month = 6 ∨ month = 9 ∨ month = 11 then 30
  else 31

/-- The date of three numbers. -/
def Date.make (year month day : Nat) : Except CalendarFault Date :=
  if year < 1 ∨ 9999 < year then .error (.year year)
  else if month < 1 ∨ 12 < month then .error .month
  else if day < 1 ∨ Date.daysIn year month < day then .error .day
  else .ok ⟨year, month, day⟩

/-- The minutes of a day and of a night: an offset stays below them on both sides. -/
def Moment.offsetBound : Int := 24 * 60

/-- The moment of its numbers. The offset is checked first, then the date, then the time. -/
def Moment.make (year month day hour minute second microsecond : Nat) (offset : Option Int) :
    Except CalendarFault Moment := do
  if let some o := offset then
    if o ≤ -Moment.offsetBound ∨ Moment.offsetBound ≤ o then throw (.offset o)
  let date ← Date.make year month day
  if 23 < hour then throw .hour
  if 59 < minute then throw .minute
  if 59 < second then throw .second
  return ⟨date, hour, minute, second, microsecond, offset⟩

/-- A number in as many digits as asked for. -/
def Date.digits (width n : Nat) : String :=
  let ds := Nat.toDigits 10 n
  String.ofList (List.replicate (width - ds.length) '0' ++ ds)

/-- A date in the order year, month, day. -/
def Date.text (d : Date) : String :=
  Date.digits 4 d.year ++ "-" ++ Date.digits 2 d.month ++ "-" ++ Date.digits 2 d.day

/-- An offset from universal time. -/
def Moment.offsetText (minutes : Int) : String :=
  let n := minutes.natAbs
  (if minutes < 0 then "-" else "+") ++ Date.digits 2 (n / 60) ++ ":" ++ Date.digits 2 (n % 60)

/-- A moment: its date, its time, the microseconds where there are any, and the offset. -/
def Moment.text (m : Moment) : String :=
  m.date.text ++ " " ++ Date.digits 2 m.hour ++ ":" ++ Date.digits 2 m.minute ++ ":" ++
    Date.digits 2 m.second ++ (if m.microsecond = 0 then "" else "." ++ Date.digits 6 m.microsecond) ++
    (match m.offset with
      | none => ""
      | some o => Moment.offsetText o)

/-- A moment of universal time as the time of an event. -/
def Moment.universalText (m : Moment) : String :=
  m.date.text ++ "T" ++ Date.digits 2 m.hour ++ ":" ++ Date.digits 2 m.minute ++ ":" ++
    Date.digits 2 m.second ++ (if m.microsecond = 0 then "" else "." ++ Date.digits 6 m.microsecond) ++
    "Z"

/-- The days before a date since the start of the calendar. -/
def Date.ordinal (d : Date) : Nat :=
  let y := d.year - 1
  let months := (List.range (d.month - 1)).foldl (fun n i => n + Date.daysIn d.year (i + 1)) 0
  365 * y + y / 4 - y / 100 + y / 400 + months + d.day

/-- A moment in microseconds, on the clock of universal time where the offset is known. -/
def Moment.instant (m : Moment) : Int :=
  let minutes : Int := (m.date.ordinal * 24 + m.hour) * 60 + m.minute
  ((minutes - m.offset.getD 0) * 60 + m.second) * 1000000 + m.microsecond

/-- Equality of moments: both know their offset, or neither does, and they are the same instant. -/
def Moment.same (a b : Moment) : Bool :=
  a.offset.isSome == b.offset.isSome && a.instant == b.instant

end Handout
