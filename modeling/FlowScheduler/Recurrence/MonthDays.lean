import FlowScheduler.Recurrence.Mask
import FlowScheduler.Text.LetterCase
import FlowScheduler.Text.Number
import FlowScheduler.Text.Pieces

/-!
Filters on the day of the month.

A filter is a list of entries separated by commas: a day number, `FIRST`, `LAST`, or an ordinal with
a weekday such as `3TUE` for the third Tuesday. A date passes if some entry denotes it; a filter
without entries lets every date pass.
-/

namespace FlowScheduler

/-- One entry of a filter on the day of the month. -/
inductive MonthDayEntry where
  | first
  | last
  /-- A day number from 1 to 31. -/
  | day (number : Nat)
  /-- The occurrence of a weekday in the month, counted from 1 to 5. -/
  | nth (ordinal : Nat) (weekday : Weekday)
  deriving DecidableEq, Repr

namespace MonthDayEntry

/-- An ordinal and a weekday code. -/
def nth? : List Char → Option MonthDayEntry
  | n :: code =>
    match Text.digit? n, Weekday.all.find? (·.code.toList = code) with
    | some k, some w => if 1 ≤ k ∧ k ≤ 5 then some (.nth k w) else none
    | _, _ => none
  | [] => none

/-- The entry that a text in capitals denotes. -/
def ofChars? (cs : List Char) : Option MonthDayEntry :=
  if cs = ['F', 'I', 'R', 'S', 'T'] then some .first
  else if cs = ['L', 'A', 'S', 'T'] then some .last
  else (nth? cs).or (((Text.natUpTo? 31 cs).filter (1 ≤ ·)).map .day)

end MonthDayEntry

/-- A filter on the day of the month. -/
structure MonthDays where
  first : Bool := false
  last : Bool := false
  /-- Ordinals and weekdays: bit `7 * (ordinal - 1) + weekday`. -/
  nth : Mask 35 := .empty 35
  /-- Day numbers: bit `number - 1`. -/
  days : Mask 31 := .empty 31
  deriving DecidableEq, Repr

/-- The occurrence of its weekday in the month that a date is, with the weekday, as a bit number. -/
def Date.nthWeekdayBit (d : Date) : Nat := (d.day - 1) / 7 * 7 + d.weekday.index

namespace MonthDays

/-- The filter that lets every date pass. -/
def any : MonthDays := {}

/-- Whether no condition is set. -/
def isUnrestricted (f : MonthDays) : Bool :=
  !f.first && !f.last && f.nth.isEmpty && f.days.isEmpty

/-- Whether a date passes. -/
def admits (f : MonthDays) (d : Date) : Bool :=
  f.isUnrestricted || f.days.contains (d.day - 1) || (f.first && d.day == 1) ||
    (f.last && d.isLastOfMonth) || f.nth.contains d.nthWeekdayBit

/-- The filter with one more entry. -/
def insert (f : MonthDays) : MonthDayEntry → MonthDays
  | .first => { f with first := true }
  | .last => { f with last := true }
  | .day n => { f with days := f.days.insert (n - 1) }
  | .nth k w => { f with nth := f.nth.insert ((k - 1) * 7 + w.index) }

/-- The entries in a fixed order: `FIRST`, `LAST`, weekdays alphabetically, days in order. -/
def toText (f : MonthDays) : String :=
  if f.isUnrestricted then "*"
  else
    let weekdays := f.nth.members.map fun b =>
      toString (b / 7 + 1) ++ (Weekday.ofIndex (b % 7)).code
    let sorted := weekdays.mergeSort fun a b => a ≤ b
    Text.joinWith "," <|
      (if f.first then ["FIRST"] else []) ++ (if f.last then ["LAST"] else []) ++ sorted ++
        f.days.members.map fun n => toString (n + 1)

/-- The non-empty pieces between commas. -/
def entries (cs : List Char) : List (List Char) :=
  (Text.splitAll ',' cs).filter (· ≠ [])

/-- The filter that a text denotes, blanks and case aside; the entries that denote nothing if there
are any. -/
def ofText (text : String) : Except (List String) MonthDays :=
  let cs := Text.upperChars (Text.withoutBlanks text)
  if cs = ['*'] then .ok any
  else match (entries cs).filter (fun e => (MonthDayEntry.ofChars? e).isNone) with
    | [] => .ok (((entries cs).filterMap MonthDayEntry.ofChars?).foldl insert any)
    | unknown => .error (unknown.map String.ofList)

end MonthDays

end FlowScheduler
