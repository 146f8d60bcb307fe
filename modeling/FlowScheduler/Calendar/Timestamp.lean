import FlowScheduler.Calendar.Instant
import FlowScheduler.Text.Blank

/-!
Timestamps in the format of RFC 3339.

Printing gives the fewest of 0, 3, 6 or 9 fraction digits that hold the fraction, and a sign to years
outside 0 to 9999. Reading is more generous: blanks may stand between the fields, the fields of a
date and time may have fewer digits, and any number of colons and blanks may divide the offset.
-/

namespace FlowScheduler

/-! ### Printing -/

/-- A year of four digits, or with a sign when it has more. -/
def yearText (year : Int) : String :=
  if 0 ≤ year ∧ year ≤ 9999 then Text.padded 4 year.toNat
  else (if year < 0 then "-" else "+") ++ Text.padded 4 year.natAbs

/-- Year, month and day. -/
def Date.toText (d : Date) : String :=
  yearText d.year ++ "-" ++ Text.padded 2 d.month ++ "-" ++ Text.padded 2 d.day

/-- A fraction of a second with its point, in groups of three digits; nothing when it is zero. -/
def fractionText (nanos : Nat) : String :=
  if nanos = 0 then ""
  else if nanos % 1000000 = 0 then "." ++ Text.padded 3 (nanos / 1000000)
  else if nanos % 1000 = 0 then "." ++ Text.padded 6 (nanos / 1000)
  else "." ++ Text.padded 9 nanos

/-- Date and time without an offset. -/
def LocalTime.toText (l : LocalTime) : String :=
  l.date.toText ++ "T" ++ l.time.toText ++ fractionText l.time.shownNanos

/-- An offset as hours and minutes, rounded to the nearest minute; `Z` when it is zero. -/
def offsetText (offset : Int) : String :=
  if offset = 0 then "Z"
  else
    let minutes := (offset.natAbs + 30) / 60
    (if offset < 0 then "-" else "+") ++ Text.padded 2 (minutes / 60) ++ ":" ++
      Text.padded 2 (minutes % 60)

/-- The local time and the offset. -/
def OffsetTime.toText (t : OffsetTime) : String := t.shown.toText ++ offsetText t.offset

/-- The instant in universal time. -/
def Instant.toText (i : Instant) : String := (OffsetTime.utc i).toText

/-! ### Reading -/

namespace Timestamp

open Text

/-- After blanks, a number of one to `max` digits, and the rest. -/
def field? (max : Nat) (cs : List Char) : Option (Nat × List Char) :=
  let (ds, rest) := takeDigits max (dropBlanks cs)
  (number? ds).map (·, rest)

/-- A year: at most four digits, or a sign and any number of digits. -/
def yearField? (cs : List Char) : Option (Int × List Char) :=
  let signed (sign : Int) (cs : List Char) : Option (Int × List Char) :=
    let ds := cs.takeWhile Char.isDigit
    (number? ds).map fun n => (sign * n, cs.drop ds.length)
  match dropBlanks cs with
  | '-' :: cs => signed (-1) cs
  | '+' :: cs => signed 1 cs
  | cs => (field? 4 cs).map fun (n, rest) => ((n : Int), rest)

/-- After blanks, the mark `c`. -/
def mark? (c : Char) (cs : List Char) : Option (List Char) :=
  match dropBlanks cs with
  | d :: rest => if c = d then some rest else none
  | [] => none

/-- A point and digits, of which nine count; nothing when there is no point. -/
def fraction? : List Char → Option (Nat × List Char)
  | '.' :: cs =>
    let ds := cs.takeWhile Char.isDigit
    let counted := ds.take 9
    (number? counted).map fun n => (n * Nat.pow 10 (9 - counted.length), cs.drop ds.length)
  | cs => some (0, cs)

/-- Two digits. -/
def twoDigits? : List Char → Option (Nat × List Char)
  | a :: b :: rest => do some (10 * (← digit? a) + (← digit? b), rest)
  | _ => none

/-- An offset: `Z`, `UTC` in any case, or a sign, two digits of hours and two digits of minutes. -/
def offset? (cs : List Char) : Option (Int × List Char) :=
  match cs with
  | u :: t :: c :: rest =>
    if u.toUpper = 'U' ∧ t.toUpper = 'T' ∧ c.toUpper = 'C' then some (0, rest) else numeric cs
  | _ => numeric cs
where
  numeric : List Char → Option (Int × List Char)
    | [] => none
    | sign :: cs =>
      if sign = 'Z' ∨ sign = 'z' then some (0, cs)
      else if sign = '+' then measured 1 cs
      else if sign = '-' ∨ sign = Char.ofNat 0x2212 then measured (-1) cs
      else none
  measured (sign : Int) (cs : List Char) : Option (Int × List Char) := do
    let (hours, cs) ← twoDigits? cs
    let (minutes, cs) ← twoDigits? (cs.dropWhile fun c => c = ':' || isBlank c)
    if minutes < 60 ∧ hours < 24 then some (sign * (hours * 3600 + minutes * 60 : Nat), cs)
    else none

/-- A date of three numbers with dashes between them. -/
def date? (cs : List Char) : Option (Date × List Char) := do
  let (year, cs) ← yearField? cs
  let cs ← mark? '-' cs
  let (month, cs) ← field? 2 cs
  let cs ← mark? '-' cs
  let (day, cs) ← field? 2 cs
  some (← Date.ofYearMonthDay? year month day, cs)

/-- A time of three numbers with colons between them and an optional fraction. -/
def time? (cs : List Char) : Option (TimeOfDay × List Char) := do
  let (hour, cs) ← field? 2 cs
  let cs ← mark? ':' cs
  let (minute, cs) ← field? 2 cs
  let cs ← mark? ':' cs
  let (second, cs) ← field? 2 cs
  let (nanos, cs) ← fraction? cs
  some (← TimeOfDay.ofClock? hour minute second nanos, cs)

/-- Date and time with a `T` or one blank between them. -/
def dateTime? (cs : List Char) : Option (LocalTime × List Char) := do
  let (d, cs) ← date? cs
  match cs with
  | sep :: cs =>
    if sep = 'T' ∨ sep = 't' ∨ sep = ' ' then
      let (t, cs) ← time? cs
      some (.ofDateTime d t, cs)
    else none
  | [] => none

end Timestamp

open Timestamp in
/-- The timestamp that a text denotes: a local time and its offset. -/
def OffsetTime.ofText? (s : String) : Option OffsetTime := do
  let (shown, cs) ← dateTime? s.toList
  let (offset, cs) ← offset? (Text.dropBlanks cs)
  let instant := shown.instantAt offset
  if Text.dropBlanks cs = [] ∧ instant.inCalendar then some ⟨instant, offset⟩ else none

/-- The instant that a timestamp denotes. -/
def Instant.ofText? (s : String) : Option Instant := (OffsetTime.ofText? s).map (·.instant)

open Timestamp in
/-- A date and time without an offset. -/
def LocalTime.ofText? (s : String) : Option LocalTime :=
  match dateTime? s.toList with
  | some (l, []) => some l
  | _ => none

open Timestamp in
/-- A date. -/
def Date.ofText? (s : String) : Option Date :=
  match date? s.toList with
  | some (d, []) => some d
  | _ => none

open Timestamp in
/-- A time of day with an optional fraction. -/
def TimeOfDay.ofText? (s : String) : Option TimeOfDay :=
  match time? s.toList with
  | some (t, []) => some t
  | _ => none

end FlowScheduler
