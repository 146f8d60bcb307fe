/-!
Dates of the proleptic Gregorian calendar.

A date is a count of days, so that the next day and the day of the week are arithmetic. Year, month
and day of the month are read off the count in cycles of 400 years; inside a cycle the year is
counted from the first of March, which puts the leap day at its end.
-/

namespace FlowScheduler

/-- The days of the week, Monday first. -/
inductive Weekday where
  | mon | tue | wed | thu | fri | sat | sun
  deriving DecidableEq, Repr

namespace Weekday

/-- All days of the week in order. -/
def all : List Weekday := [mon, tue, wed, thu, fri, sat, sun]

/-- Days since Monday. -/
def index : Weekday → Nat
  | mon => 0 | tue => 1 | wed => 2 | thu => 3 | fri => 4 | sat => 5 | sun => 6

/-- The weekday `n` days after a Monday. -/
def ofIndex (n : Nat) : Weekday :=
  match n % 7 with
  | 0 => mon | 1 => tue | 2 => wed | 3 => thu | 4 => fri | 5 => sat | _ => sun

/-- The code of three capital letters. -/
def code : Weekday → String
  | mon => "MON" | tue => "TUE" | wed => "WED" | thu => "THU" | fri => "FRI" | sat => "SAT"
  | sun => "SUN"

theorem ofIndex_index (w : Weekday) : ofIndex w.index = w := by
  cases w <;> rfl

theorem index_lt (w : Weekday) : w.index < 7 := by
  cases w <;> decide

end Weekday

/-- Whether a year has a leap day. -/
def isLeapYear (year : Int) : Bool :=
  year % 4 = 0 && (year % 100 ≠ 0 || year % 400 = 0)

/-- The number of days of a month, 1 to 12. -/
def daysInMonth (year : Int) (month : Nat) : Nat :=
  if month = 2 then (if isLeapYear year then 29 else 28)
  else if month = 4 ∨ month = 6 ∨ month = 9 ∨ month = 11 then 30
  else 31

/-- A calendar date, as the number of days since 1 January 1970. -/
structure Date where
  dayNumber : Int
  deriving DecidableEq, Repr

namespace Date

/-- The day of the 400-year cycle that begins on a first of March, 0 to 146096. -/
def dayOfCycle (d : Date) : Int := (d.dayNumber + 719468) % 146097

/-- The year of the cycle, 0 to 399, counted from March. -/
def yearOfCycle (d : Date) : Int :=
  let n := d.dayOfCycle
  (n - n / 1460 + n / 36524 - n / 146096) / 365

/-- Days since the first of March, 0 to 365. -/
def dayOfYear (d : Date) : Int :=
  let y := d.yearOfCycle
  d.dayOfCycle - (365 * y + y / 4 - y / 100)

/-- Months since March, 0 to 11. -/
def monthFromMarch (d : Date) : Int := (5 * d.dayOfYear + 2) / 153

/-- The month, 1 to 12. -/
def month (d : Date) : Nat :=
  let m := d.monthFromMarch
  (if m < 10 then m + 3 else m - 9).toNat

/-- The day of the month, from 1. -/
def day (d : Date) : Nat :=
  (d.dayOfYear - (153 * d.monthFromMarch + 2) / 5 + 1).toNat

/-- The year; the year before year 1 is year 0. -/
def year (d : Date) : Int :=
  d.yearOfCycle + 400 * ((d.dayNumber + 719468) / 146097) + (if d.month ≤ 2 then 1 else 0)

/-- The day of the week. -/
def weekday (d : Date) : Weekday := .ofIndex ((d.dayNumber + 3) % 7).toNat

/-- The date of a year, a month (1 to 12) and a day of the month; days past the month's end run
into the following months. -/
def ofYearMonthDay (year : Int) (month day : Nat) : Date :=
  let y := if month ≤ 2 then year - 1 else year
  let m : Int := if month ≤ 2 then month + 9 else month - 3
  let yearOfCycle := y % 400
  let dayOfYear := (153 * m + 2) / 5 + day - 1
  ⟨(y / 400) * 146097 + (365 * yearOfCycle + yearOfCycle / 4 - yearOfCycle / 100 + dayOfYear)
    - 719468⟩

/-- The first date of the calendar. -/
def first : Date := ofYearMonthDay (-262143) 1 1

/-- The last date of the calendar. -/
def last : Date := ofYearMonthDay 262142 12 31

/-- Whether a date lies in the calendar. -/
def inCalendar (d : Date) : Bool :=
  first.dayNumber ≤ d.dayNumber && d.dayNumber ≤ last.dayNumber

/-- The date of a year, month and day that exist. -/
def ofYearMonthDay? (year : Int) (month day : Nat) : Option Date :=
  if 1 ≤ month ∧ month ≤ 12 ∧ 1 ≤ day ∧ day ≤ daysInMonth year month then
    let d := ofYearMonthDay year month day
    if d.inCalendar then some d else none
  else none

/-- The following day, unless the calendar ends. -/
def next? (d : Date) : Option Date :=
  if d.dayNumber < last.dayNumber then some ⟨d.dayNumber + 1⟩ else none

/-- The first day of the following month, unless the calendar ends. -/
def firstOfNextMonth? (d : Date) : Option Date :=
  if d.month = 12 then ofYearMonthDay? (d.year + 1) 1 1 else ofYearMonthDay? d.year (d.month + 1) 1

/-- Whether the date is the last of its month. -/
def isLastOfMonth (d : Date) : Bool :=
  match d.next? with
  | some n => n.month != d.month
  | none => true

end Date

end FlowScheduler
