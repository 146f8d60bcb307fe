import FlowScheduler.Text.Number

/-!
Times of day.

A time of day is a second of the day and a fraction in nanoseconds. A fraction of one second or more
stands for an inserted leap second: the clock then reads `:60`, after every fraction of second 59
and before the next minute.
-/

namespace FlowScheduler

/-- The number of seconds of a day. -/
def secondsPerDay : Nat := 86400

/-- The number of nanoseconds of a second. -/
def nanosPerSecond : Nat := 1000000000

/-- A time of day. -/
structure TimeOfDay where
  /-- Seconds since midnight. -/
  second : Nat
  /-- The fraction of the second; from `nanosPerSecond` on, the fraction of a leap second. -/
  nanos : Nat
  second_lt : second < 86400 := by omega
  nanos_lt : nanos < 2000000000 := by omega
  deriving DecidableEq, Repr

namespace TimeOfDay

instance : LT TimeOfDay where
  lt a b := a.second < b.second ∨ a.second = b.second ∧ a.nanos < b.nanos

instance : LE TimeOfDay where
  le a b := a.second < b.second ∨ a.second = b.second ∧ a.nanos ≤ b.nanos

theorem lt_iff {a b : TimeOfDay} :
    a < b ↔ a.second < b.second ∨ a.second = b.second ∧ a.nanos < b.nanos := .rfl

theorem le_iff {a b : TimeOfDay} :
    a ≤ b ↔ a.second < b.second ∨ a.second = b.second ∧ a.nanos ≤ b.nanos := .rfl

instance (a b : TimeOfDay) : Decidable (a < b) := decidable_of_iff _ lt_iff.symm
instance (a b : TimeOfDay) : Decidable (a ≤ b) := decidable_of_iff _ le_iff.symm

theorem ext_iff {a b : TimeOfDay} : a = b ↔ a.second = b.second ∧ a.nanos = b.nanos := by
  cases a; cases b; simp

/-- The start of a second of the day. -/
def ofSecond? (n : Nat) : Option TimeOfDay :=
  if h : n < 86400 then some { second := n, nanos := 0 } else none

/-- The time of an hour, minute and second; second 60 is the leap second after second 59. -/
def ofClock? (hour minute second nanos : Nat) : Option TimeOfDay :=
  if h : hour < 24 ∧ minute < 60 ∧ second ≤ 60 ∧ nanos < 1000000000 then
    if second = 60 then
      some { second := hour * 3600 + minute * 60 + 59, nanos := 1000000000 + nanos }
    else some { second := hour * 3600 + minute * 60 + min second 59, nanos }
  else none

/-- The hour, 0 to 23. -/
def hour (t : TimeOfDay) : Nat := t.second / 3600

/-- The minute, 0 to 59. -/
def minute (t : TimeOfDay) : Nat := t.second / 60 % 60

/-- The second without a leap second, 0 to 59. -/
def secondOfMinute (t : TimeOfDay) : Nat := t.second % 60

/-- Whether the time lies in a leap second. -/
def isLeapSecond (t : TimeOfDay) : Bool := nanosPerSecond ≤ t.nanos

/-- The second that a clock shows, 60 in a leap second. -/
def shownSecond (t : TimeOfDay) : Nat := t.secondOfMinute + t.nanos / nanosPerSecond

/-- The fraction of the shown second. -/
def shownNanos (t : TimeOfDay) : Nat := t.nanos % nanosPerSecond

/-- Hours, minutes and seconds, each of two digits. -/
def toText (t : TimeOfDay) : String :=
  Text.padded 2 t.hour ++ ":" ++ Text.padded 2 t.minute ++ ":" ++ Text.padded 2 t.shownSecond

/-- One or two digits and the rest of the text. -/
def clockField? (cs : List Char) : Option (Nat × List Char) :=
  let (ds, rest) := Text.takeDigits 2 cs
  (Text.number? ds).map (·, rest)

/-- A time written as hours, minutes and seconds of one or two digits. -/
def ofChars? (cs : List Char) : Option TimeOfDay :=
  match clockField? cs with
  | some (h, ':' :: cs) =>
    match clockField? cs with
    | some (m, ':' :: cs) =>
      match clockField? cs with
      | some (s, []) => ofClock? h m s 0
      | _ => none
    | _ => none
  | _ => none

end TimeOfDay

end FlowScheduler
