import FlowScheduler.Zone.Basic
import FlowScheduler.Zone.Table.Africa
import FlowScheduler.Zone.Table.AmericaAToI
import FlowScheduler.Zone.Table.AmericaJToZ
import FlowScheduler.Zone.Table.Asia
import FlowScheduler.Zone.Table.Etc
import FlowScheduler.Zone.Table.Europe
import FlowScheduler.Zone.Table.Oceans
import FlowScheduler.Zone.Table.Pacific
import FlowScheduler.Zone.Table.Alias
import FlowScheduler.Text.Blank

/-!
The zones of the IANA time zone database by name.

A history is written as words, on any number of lines: the initial offset, then transitions `second>offset`. A zone that
changes its clock twice a year for good has after a bar the first year of that habit and the two
yearly changes `month/weekday/day/seconds/offset`: on the first such weekday (0 is Monday) on or
after that day of the month, the given number of seconds after its universal midnight. The habit is
followed to the end of 2099; after that the offset no longer changes.
-/

namespace FlowScheduler

/-- A change of the clock that recurs every year. -/
structure YearlyChange where
  month : Nat
  /-- Days since Monday. -/
  weekday : Nat
  /-- The earliest day of the month. -/
  day : Nat
  /-- Seconds after universal midnight. -/
  seconds : Int
  offset : Int

namespace YearlyChange

/-- The change in one year. -/
def inYear (c : YearlyChange) (year : Int) : Transition :=
  let earliest := (Date.ofYearMonthDay year c.month c.day).dayNumber
  let day := earliest + ((c.weekday : Int) - (earliest + 3)) % 7
  ⟨day * 86400 + c.seconds, c.offset⟩

end YearlyChange

namespace Zone

/-- The last year for which yearly changes are expanded. -/
def lastYear : Nat := 2099

/-- The yearly changes of all years from `since` to `lastYear`. -/
def expand (since : Nat) (changes : List YearlyChange) : List Transition :=
  (List.range (lastYear + 1 - since)).flatMap fun n =>
    changes.map (·.inYear (since + n : Nat))

private def readTransition? (word : String) : Option Transition :=
  match word.splitOn ">" with
  | [s, o] => do some ⟨← s.toInt?, ← o.toInt?⟩
  | _ => none

private def readChange? (word : String) : Option YearlyChange :=
  match word.splitOn "/" with
  | [m, w, d, s, o] => do
    some ⟨← m.toNat?, ← w.toNat?, ← d.toNat?, ← s.toInt?, ← o.toInt?⟩
  | _ => none

private def readTail? : List String → Option (List Transition)
  | [] => some []
  | since :: changes => do some (expand (← since.toNat?) (← changes.mapM readChange?))

/-- The zone that a history denotes, if its transitions ascend. -/
def ofHistory? (name : String) (lines : List String) : Option Zone :=
  match lines.flatMap (·.splitOn " ") with
  | [] => none
  | initial :: words => do
    let past := words.takeWhile (· != "|")
    let tail := (words.dropWhile (· != "|")).drop 1
    let zone : Zone :=
      ⟨name, ← initial.toInt?, (← past.mapM readTransition?) ++ (← readTail? tail)⟩
    if zone.IsAscending then some zone else none

/-- All names with histories. -/
def histories : List (List (String × List String)) :=
  [Table.africa, Table.americaAToI, Table.americaJToZ, Table.asia, Table.etc, Table.europe,
    Table.oceans, Table.pacific]

/-- The zone of a name, which is case-sensitive; a further name of a zone keeps its own spelling. -/
def named? (name : String) : Option Zone := do
  let canonical := (Table.aliases.lookup name).getD name
  ofHistory? name (← histories.findSome? (·.lookup canonical))

/-- The zone that a text names once trimmed; the host's zone if there is none of that name. -/
def resolve (name : String) : Zone :=
  (named? (Text.trim name)).getD host

end Zone

end FlowScheduler
