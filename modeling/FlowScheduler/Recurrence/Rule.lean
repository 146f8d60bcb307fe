import FlowScheduler.Recurrence.MonthDays
import FlowScheduler.Recurrence.Times

/-!
Recurrence rules.

A rule launches at its times of day on the dates that pass all three filters: month, weekday and day
of the month. Its text form, a `RuleDefinition`, is what files hold; `Rule.ofDefinition` validates it
and `Rule.toDefinition` gives the normal form.
-/

namespace FlowScheduler

/-- A rule as it is written down. -/
structure RuleDefinition where
  /-- Seconds between launches; a number that is not positive selects the listed hours. -/
  interval : Int := 0
  /-- Windows for the interval, such as `08:00:05-10:00:00,14:00:00-18:00:00`. -/
  intervalHours : String := ""
  /-- Times of day, such as `08:00:05,10:00:00`. -/
  hours : String := ""
  /-- Twelve zeros and ones, or `*`. -/
  months : String := ""
  /-- Seven zeros and ones, Monday first, or `*`. -/
  weekDays : String := ""
  /-- Entries such as `1,15,FIRST,LAST,1MON,3TUE`, or `*`. -/
  monthDays : String := ""
  deriving DecidableEq, Repr

/-- Why a definition is no rule. -/
inductive RuleError where
  /-- There is no interval and no time of day. -/
  | noHours
  /-- Entries that are no times of day. -/
  | hours (entries : List String)
  /-- Entries that are no windows. -/
  | intervalHours (entries : List (String × WindowFault))
  /-- A text that is no mask of weekdays. -/
  | weekDays (text : String)
  /-- Entries that denote no day of the month. -/
  | monthDays (entries : List String)
  /-- A text that is no mask of months. -/
  | months (text : String)
  deriving DecidableEq, Repr

/-- What is wrong with a mask of a given width. -/
def maskMessage (width : Nat) (text : String) : String :=
  text ++ " : expected " ++ toString width ++ " characters of 0/1 or *"

/-- What is wrong with the entries of a filter on the day of the month. -/
def monthDaysMessage (entries : List String) : String :=
  Text.joinWith "," (entries.map (· ++ " : unknown day"))

namespace RuleError

/-- The part of the definition that is at fault. -/
def field : RuleError → String
  | noHours | hours _ => "Hours"
  | intervalHours _ => "IntervalHours"
  | weekDays _ => "WeekDays"
  | monthDays _ => "MonthDays"
  | months _ => "Months"

/-- What is wrong with it. -/
def message : RuleError → String
  | noHours => "empty"
  | hours entries => Text.joinWith "," (entries.map (· ++ " : parse fail"))
  | intervalHours entries =>
    Text.joinWith "," (entries.map fun (e, fault) => e ++ " : " ++ fault.message)
  | weekDays text => maskMessage 7 text
  | monthDays entries => monthDaysMessage entries
  | months text => maskMessage 12 text

end RuleError

/-- How the times of day of a rule came about. -/
inductive Timing where
  /-- They were listed. -/
  | listed
  /-- Every so many seconds within windows, or all day if there is none. -/
  | every (seconds : Nat) (windows : List TimeWindow)
  deriving DecidableEq, Repr

/-- A valid recurrence rule. -/
structure Rule where
  timing : Timing
  /-- The times of day in ascending order. -/
  times : Array TimeOfDay
  months : MonthSet
  weekDays : WeekdaySet
  monthDays : MonthDays
  deriving DecidableEq, Repr

namespace Rule

/-- The longest interval, in seconds; a longer one counts as this. -/
def maxInterval : Nat := 4294967295

/-- Whether the rule launches at an interval. -/
def isInterval (r : Rule) : Bool :=
  match r.timing with
  | .every .. => true
  | .listed => false

/-- The windows of an interval. -/
def windows (r : Rule) : List TimeWindow :=
  match r.timing with
  | .every _ ws => ws
  | .listed => []

/-- The timing and the times of a definition. -/
def timesOf (d : RuleDefinition) : Except RuleError (Timing × List TimeOfDay) :=
  if 0 < d.interval then
    let seconds := min d.interval.toNat maxInterval
    match TimeWindow.listOfText d.intervalHours with
    | .ok ws => .ok (.every seconds ws, TimeOfDay.everySeconds (.ofNat seconds) ws)
    | .error faults => .error (.intervalHours faults)
  else if Text.isAllBlank d.hours then .error .noHours
  else (TimeOfDay.listOfText d.hours).map (Timing.listed, ·) |>.mapError .hours

/-- The rule that a definition denotes. Of several faults the first counts, in the order times,
weekdays, days of the month, months. -/
def ofDefinition (d : RuleDefinition) : Except RuleError Rule := do
  let (timing, times) ← timesOf d
  let weekDays ← (Mask.ofText 7 d.weekDays).mapError .weekDays
  let monthDays ← (MonthDays.ofText d.monthDays).mapError .monthDays
  let months ← (Mask.ofText 12 d.months).mapError .months
  return { timing, times := times.toArray, months, weekDays, monthDays }

/-- The normal form of the rule as text. -/
def toDefinition (r : Rule) : RuleDefinition where
  interval := match r.timing with
    | .every seconds _ => seconds
    | .listed => 0
  intervalHours := Text.joinWith "," (r.windows.map TimeWindow.toText)
  hours := match r.timing with
    | .every .. => ""
    | .listed => Text.joinWith "," (r.times.toList.map TimeOfDay.toText)
  months := r.months.toText
  weekDays := r.weekDays.toText
  monthDays := r.monthDays.toText

/-- Whether a date passes the three filters. -/
def admits (r : Rule) (d : Date) : Bool :=
  r.months.admits d.month && r.weekDays.admits d.weekday && r.monthDays.admits d

end Rule

end FlowScheduler
