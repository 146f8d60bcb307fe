import FlowScheduler.Calendar.Instant

/-!
Time zones: the history of a clock's offset.

A zone has an offset from the beginning and a list of transitions. Between two transitions the offset
is constant; such a stretch is a *span*. An instant has one offset. A local reading may lie in no
span (the clock was set forward past it), in one, or in two (the clock was set back over it); the
earliest span decides, and a reading that was skipped counts as one hour later.
-/

namespace FlowScheduler

/-- A change of a clock's offset. -/
structure Transition where
  /-- The universal second of the change. -/
  second : Int
  /-- The offset from then on, in seconds east. -/
  offset : Int
  deriving DecidableEq, Repr

/-- A time zone. -/
structure Zone where
  name : String
  /-- The offset before every transition. -/
  initial : Int
  /-- The transitions in ascending order. -/
  transitions : List Transition
  deriving DecidableEq, Repr

/-- A stretch of constant offset, from `start` (from the beginning if absent) to before `stop`
(to the end if absent), in universal seconds. -/
structure Zone.Span where
  start : Option Int
  stop : Option Int
  offset : Int
  deriving DecidableEq, Repr

namespace Zone

/-- Whether the transitions ascend. -/
def IsAscending (z : Zone) : Prop := z.transitions.Pairwise (·.second < ·.second)

instance (z : Zone) : Decidable z.IsAscending :=
  inferInstanceAs (Decidable (z.transitions.Pairwise _))

/-- A zone whose offset never changes. -/
def fixed (name : String) (offset : Int) : Zone := ⟨name, offset, []⟩

/-- The zone of the host, which keeps universal time. -/
def host : Zone := fixed "Local" 0

/-- The spans from `start` on. -/
def spansFrom (start : Option Int) (offset : Int) : List Transition → List Span
  | [] => [⟨start, none, offset⟩]
  | t :: ts => ⟨start, some t.second, offset⟩ :: spansFrom (some t.second) t.offset ts

/-- The spans in order. -/
def spans (z : Zone) : List Span := spansFrom none z.initial z.transitions

/-- The offset after the last of the transitions that is not after `second`. -/
def offsetFrom (second : Int) (offset : Int) : List Transition → Int
  | [] => offset
  | t :: ts => if t.second ≤ second then offsetFrom second t.offset ts else offset

/-- The offset at an instant. -/
def offsetAt (z : Zone) (i : Instant) : Int := offsetFrom i.second z.initial z.transitions

/-- Whether a clock showed the local second `l` during the span. -/
def Span.showed (s : Span) (l : Int) : Bool :=
  s.start.all (fun start => start + s.offset ≤ l) && s.stop.all (fun stop => l < stop + s.offset)

/-- The reading of the zone's clock. -/
def toLocal (z : Zone) (i : Instant) : LocalTime := i.shownAt (z.offsetAt i)

/-- The instant with the offset of the zone's clock. -/
def toOffset (z : Zone) (i : Instant) : OffsetTime := ⟨i, z.offsetAt i⟩

/-- The first instant at which the zone's clock showed a reading, if it ever did. -/
def firstShown? (z : Zone) (l : LocalTime) : Option Instant :=
  match z.spans.find? (·.showed l.second) with
  | some s =>
    let i := l.instantAt s.offset
    if i.inCalendar then some i else none
  | none => none

/-- The instant of a local reading: the first at which the clock showed it, and for a skipped reading
that of one hour later. -/
def ofLocal? (z : Zone) (l : LocalTime) : Option Instant :=
  (z.firstShown? l).or (z.firstShown? l.hourLater)

end Zone

end FlowScheduler
