import FlowScheduler.Recurrence.Rule
import FlowScheduler.Zone.Basic

/-!
The next launch of a rule.

The search walks the dates from the reference's local date on and takes the first time of day whose
instant is after the reference. Months that the rule leaves out are jumped over, and on the first
date the times up to the reference are passed by bisection. It gives up after `searchDays` dates, not
counting those of the months that it jumped over. `Rule.next?_gt`: a launch is after the reference.
-/

namespace FlowScheduler

namespace Rule

/-- The number of dates that a search looks at. -/
def searchDays : Nat := 366

/-- Bisection: the first index in `low, …, high` at which a time is after `t`, if the times before
`low` are not after `t` and those from `high` on are. -/
def bisect (times : Array TimeOfDay) (t : TimeOfDay) (low high : Nat)
    (h : high ≤ times.size) : Nat :=
  if hlt : low < high then
    let mid := (low + high) / 2
    have : mid < times.size := by omega
    if times[mid] ≤ t then bisect times t (mid + 1) high h
    else bisect times t low mid (by omega)
  else low
termination_by high - low

/-- The number of leading times that are not after `t`. -/
def countUpTo (times : Array TimeOfDay) (t : TimeOfDay) : Nat :=
  bisect times t 0 times.size (Nat.le_refl _)

/-- The instant of a time of day on a date, if there is one after the reference. -/
def instantOn? (zone : Zone) (reference : Instant) (d : Date) (t : TimeOfDay) : Option Instant :=
  (zone.ofLocal? (.ofDateTime d t)).filter fun i => reference < i

/-- The first instant after the reference among the times from an index on, on one date. -/
def firstOn? (r : Rule) (reference : Instant) (zone : Zone) (d : Date) (index : Nat) :
    Option Instant :=
  if h : index < r.times.size then
    match instantOn? zone reference d r.times[index] with
    | some i => some i
    | none => firstOn? r reference zone d (index + 1)
  else none
termination_by r.times.size - index

/-- The date itself if its month is admitted, else the first date of the next admitted month, jumping
over at most `jumps` months. -/
def skipMonths (months : MonthSet) : (jumps : Nat) → Date → Option Date
  | 0, d => some d
  | n + 1, d =>
    if months.admits d.month then some d
    else d.firstOfNextMonth?.bind (skipMonths months n)

/-- The date itself if its month is admitted, else the first date of the next admitted month. -/
def admittedFrom? (months : MonthSet) (d : Date) : Option Date := skipMonths months 12 d

/-- The first launch on a date whose month is admitted. `start` is the local reading of the reference,
rounded up. -/
def launchOn? (r : Rule) (reference : Instant) (zone : Zone) (start : LocalTime) (d : Date) :
    Option Instant :=
  if r.weekDays.admits d.weekday && r.monthDays.admits d then
    r.firstOn? reference zone d (if d = start.date then countUpTo r.times start.time else 0)
  else none

/-- The first launch on a date from `d` on, looking at so many dates. -/
def search (r : Rule) (reference : Instant) (zone : Zone) (start : LocalTime) :
    (dates : Nat) → Date → Option Instant
  | 0, _ => none
  | n + 1, d =>
    (admittedFrom? r.months d).bind fun d =>
      (r.launchOn? reference zone start d).orElse fun _ =>
        d.next?.bind (search r reference zone start n)

/-- The next launch after the reference, with the rule's dates and times read in the zone. -/
def next? (r : Rule) (zone : Zone) (reference : Instant) : Option Instant :=
  if r.times.isEmpty || r.months.isEmpty then none
  else
    let start := (zone.toLocal reference).ceilSecond
    r.search reference zone start searchDays start.date

theorem instantOn?_gt {zone : Zone} {reference : Instant} {d : Date} {t : TimeOfDay} {i : Instant}
    (h : instantOn? zone reference d t = some i) : reference < i := by
  have := (Option.filter_eq_some_iff.1 h).2
  simpa using this

theorem firstOn?_gt {r : Rule} {reference : Instant} {zone : Zone} {d : Date} {index : Nat}
    {i : Instant} (h : r.firstOn? reference zone d index = some i) : reference < i := by
  fun_induction firstOn? r reference zone d index with
  | case1 index _ j hj => exact instantOn?_gt (hj.trans h)
  | case2 index _ _ ih => exact ih h
  | case3 => nomatch h

theorem launchOn?_gt {r : Rule} {reference : Instant} {zone : Zone} {start : LocalTime} {d : Date}
    {i : Instant} (h : r.launchOn? reference zone start d = some i) : reference < i := by
  simp only [launchOn?] at h
  split at h
  · exact firstOn?_gt h
  · nomatch h

theorem search_gt {r : Rule} {reference : Instant} {zone : Zone} {start : LocalTime} {n : Nat}
    {d : Date} {i : Instant} (h : r.search reference zone start n d = some i) : reference < i := by
  induction n generalizing d with
  | zero => nomatch h
  | succ n ih =>
    obtain ⟨d, _, h⟩ := Option.bind_eq_some_iff.1 h
    cases found : r.launchOn? reference zone start d with
    | some j =>
      rw [found] at h
      exact launchOn?_gt (found.trans h)
    | none =>
      rw [found] at h
      obtain ⟨d', _, h⟩ := Option.bind_eq_some_iff.1 h
      exact ih h

theorem next?_gt {r : Rule} {zone : Zone} {reference i : Instant}
    (h : r.next? zone reference = some i) : reference < i := by
  simp only [next?] at h
  split at h
  · nomatch h
  · exact search_gt h

end Rule

end FlowScheduler
