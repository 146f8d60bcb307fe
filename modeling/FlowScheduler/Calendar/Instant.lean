import FlowScheduler.Calendar.Date
import FlowScheduler.Calendar.TimeOfDay

/-!
Instants, local times and the offsets between them.

An `Instant` counts universal seconds, a `LocalTime` the seconds that a local clock shows. Both carry
a fraction that may run into a leap second (see `TimeOfDay`), and both are ordered by second, then
fraction. An offset, in seconds east of universal time, turns one into the other and leaves the
fraction alone.
-/

namespace FlowScheduler

/-- An instant of universal time. -/
structure Instant where
  /-- Seconds since the beginning of 1970. -/
  second : Int
  /-- The fraction, with the leap second as in `TimeOfDay`. -/
  nanos : Nat
  nanos_lt : nanos < 2000000000 := by omega
  deriving Repr

/-- The reading of a local clock with its date. -/
structure LocalTime where
  /-- Shown seconds since the beginning of 1970. -/
  second : Int
  /-- The fraction, with the leap second as in `TimeOfDay`. -/
  nanos : Nat
  nanos_lt : nanos < 2000000000 := by omega
  deriving Repr

theorem Instant.ext_iff {a b : Instant} : a = b ↔ a.second = b.second ∧ a.nanos = b.nanos := by
  cases a; cases b; simp

instance : DecidableEq Instant := fun _ _ => decidable_of_iff _ Instant.ext_iff.symm

theorem LocalTime.ext_iff {a b : LocalTime} : a = b ↔ a.second = b.second ∧ a.nanos = b.nanos := by
  cases a; cases b; simp

instance : DecidableEq LocalTime := fun _ _ => decidable_of_iff _ LocalTime.ext_iff.symm

/-- An instant together with the offset, in seconds east, at which it is shown. -/
structure OffsetTime where
  instant : Instant
  offset : Int
  deriving DecidableEq, Repr

namespace Instant

instance : LT Instant where
  lt a b := a.second < b.second ∨ a.second = b.second ∧ a.nanos < b.nanos

instance : LE Instant where
  le a b := a.second < b.second ∨ a.second = b.second ∧ a.nanos ≤ b.nanos

theorem lt_iff {a b : Instant} :
    a < b ↔ a.second < b.second ∨ a.second = b.second ∧ a.nanos < b.nanos := .rfl

theorem le_iff {a b : Instant} :
    a ≤ b ↔ a.second < b.second ∨ a.second = b.second ∧ a.nanos ≤ b.nanos := .rfl

instance (a b : Instant) : Decidable (a < b) := decidable_of_iff _ lt_iff.symm
instance (a b : Instant) : Decidable (a ≤ b) := decidable_of_iff _ le_iff.symm

theorem le_refl (a : Instant) : a ≤ a := by rw [le_iff]; omega

theorem le_trans {a b c : Instant} (h : a ≤ b) (h' : b ≤ c) : a ≤ c := by
  rw [le_iff] at *; omega

theorem lt_of_lt_of_le {a b c : Instant} (h : a < b) (h' : b ≤ c) : a < c := by
  rw [lt_iff, le_iff] at *; omega

theorem lt_of_le_of_lt {a b c : Instant} (h : a ≤ b) (h' : b < c) : a < c := by
  rw [lt_iff, le_iff] at *; omega

theorem lt_trans {a b c : Instant} (h : a < b) (h' : b < c) : a < c := by
  rw [lt_iff] at *; omega

theorem lt_irrefl (a : Instant) : ¬a < a := by rw [lt_iff]; omega

theorem le_of_lt {a b : Instant} (h : a < b) : a ≤ b := by
  rw [lt_iff] at h; rw [le_iff]; omega

theorem le_antisymm {a b : Instant} (h : a ≤ b) (h' : b ≤ a) : a = b := by
  rw [le_iff] at *; rw [ext_iff]; omega

theorem not_lt {a b : Instant} : ¬a < b ↔ b ≤ a := by rw [lt_iff, le_iff]; omega

theorem not_le {a b : Instant} : ¬a ≤ b ↔ b < a := by rw [lt_iff, le_iff]; omega

theorem le_of_not_le {a b : Instant} (h : ¬a ≤ b) : b ≤ a := le_of_lt (not_le.1 h)

/-- The start of a universal second. -/
def ofSecond (n : Int) : Instant := { second := n, nanos := 0 }

/-- The beginning of 1970. -/
def epoch : Instant := ofSecond 0

/-- The reading of a clock that is `offset` seconds east. -/
def shownAt (i : Instant) (offset : Int) : LocalTime :=
  { second := i.second + offset, nanos := i.nanos, nanos_lt := i.nanos_lt }

/-- The date in universal time. -/
def date (i : Instant) : Date := ⟨i.second / 86400⟩

/-- The universal second of the day. -/
def secondOfDay (i : Instant) : Int := i.second % 86400

/-- Whether the instant lies in the calendar. -/
def inCalendar (i : Instant) : Bool := i.date.inCalendar

/-- A second and a possibly negative or too large fraction, carried into the second. -/
def carried (second fraction : Int) : Instant :=
  { second := second + fraction / 1000000000, nanos := (fraction % 1000000000).toNat }

/-- The instant `duration` nanoseconds later. Leaving a leap second skips what is left of it: the
seconds after it are counted as if it had not been inserted. -/
def addNanos (i : Instant) (duration : Int) : Instant :=
  let seconds := duration.tdiv 1000000000
  let fraction := duration.tmod 1000000000
  if i.nanos < 1000000000 then carried (i.second + seconds) (i.nanos + fraction)
  else if 0 < seconds ∨ 0 < fraction ∧ 2000000000 - fraction ≤ i.nanos then
    carried (i.second + seconds) (i.nanos - 1000000000 + fraction)
  else if seconds < 0 then carried (i.second + 1 + seconds) (i.nanos - 1000000000 + fraction)
  else { second := i.second, nanos := (i.nanos + fraction).toNat % 2000000000 }

/-- The nanoseconds from `j` to `i`. A leap second strictly between the two seconds of the day
counts. -/
def nanosSince (i j : Instant) : Int :=
  let days := i.date.dayNumber - j.date.dayNumber
  let seconds := i.secondOfDay - j.secondOfDay
  let leap : Int :=
    if j.secondOfDay < i.secondOfDay ∧ 1000000000 ≤ j.nanos then 1
    else if i.secondOfDay < j.secondOfDay ∧ 1000000000 ≤ i.nanos then -1
    else 0
  (days * 86400 + seconds + leap) * 1000000000 + ((i.nanos : Int) - j.nanos)

/-- The whole milliseconds from `j` to `i`, rounded towards zero. -/
def millisSince (i j : Instant) : Int := (i.nanosSince j).tdiv 1000000

end Instant

namespace LocalTime

instance : LT LocalTime where
  lt a b := a.second < b.second ∨ a.second = b.second ∧ a.nanos < b.nanos

theorem lt_iff {a b : LocalTime} :
    a < b ↔ a.second < b.second ∨ a.second = b.second ∧ a.nanos < b.nanos := .rfl

instance (a b : LocalTime) : Decidable (a < b) := decidable_of_iff _ lt_iff.symm

/-- The date of the reading. -/
def date (l : LocalTime) : Date := ⟨l.second / 86400⟩

/-- The time of day of the reading. -/
def time (l : LocalTime) : TimeOfDay :=
  { second := (l.second % 86400).toNat, nanos := l.nanos, nanos_lt := l.nanos_lt }

/-- The reading on a date at a time of day. -/
def ofDateTime (d : Date) (t : TimeOfDay) : LocalTime :=
  { second := d.dayNumber * 86400 + t.second, nanos := t.nanos, nanos_lt := t.nanos_lt }

/-- The reading rounded up to a whole second. -/
def ceilSecond (l : LocalTime) : LocalTime :=
  { second := if l.nanos = 0 then l.second else l.second + 1, nanos := 0 }

/-- The reading one hour later; a leap second is left as `Instant.addNanos` leaves it. -/
def hourLater (l : LocalTime) : LocalTime :=
  { second := l.second + 3600, nanos := l.nanos % 1000000000 }

/-- The instant at which a clock that is `offset` seconds east shows this reading. -/
def instantAt (l : LocalTime) (offset : Int) : Instant :=
  { second := l.second - offset, nanos := l.nanos, nanos_lt := l.nanos_lt }

end LocalTime

namespace OffsetTime

/-- The shown local time. -/
def shown (t : OffsetTime) : LocalTime := t.instant.shownAt t.offset

/-- An instant in universal time. -/
def utc (i : Instant) : OffsetTime := ⟨i, 0⟩

end OffsetTime

end FlowScheduler
