import FlowScheduler.Calendar.TimeOfDay
import FlowScheduler.Text.Blank
import FlowScheduler.Text.Pieces

/-!
Windows of the day, both ends included, and their merging.
-/

namespace FlowScheduler

/-- A stretch of the day from `start` to `stop`, both included. -/
structure TimeWindow where
  start : TimeOfDay
  stop : TimeOfDay
  deriving DecidableEq, Repr

namespace TimeWindow

/-- Order by start, then by end. -/
def le (a b : TimeWindow) : Bool := a.start < b.start || (a.start = b.start && a.stop ≤ b.stop)

/-- The two ends with a dash between them. -/
def toText (w : TimeWindow) : String := w.start.toText ++ "-" ++ w.stop.toText

/-- A window followed by windows that start no earlier: those that start before it ends are absorbed
into it. -/
def absorb (current : TimeWindow) : List TimeWindow → List TimeWindow
  | [] => [current]
  | w :: ws =>
    if w.start ≤ current.stop then
      absorb (if current.stop < w.stop then { current with stop := w.stop } else current) ws
    else current :: absorb w ws

/-- The windows in order, with those that touch or overlap merged into one. -/
def merge (ws : List TimeWindow) : List TimeWindow :=
  match ws.mergeSort le with
  | [] => []
  | w :: rest => absorb w rest

end TimeWindow

/-- What is wrong with an entry of a list of windows. -/
inductive WindowFault where
  /-- There is no dash. -/
  | noDash
  /-- An end is no time of day. -/
  | badTime
  /-- The window ends no later than it starts. -/
  | notForward
  deriving DecidableEq, Repr

/-- The wording of a fault. -/
def WindowFault.message : WindowFault → String
  | noDash => "invalid"
  | badTime => "parse fail"
  | notForward => "end must be after start"

namespace TimeWindow

/-- The window that an entry denotes. -/
def ofChars (entry : List Char) : Except WindowFault TimeWindow :=
  match Text.cut? ['-'] entry with
  | none => .error .noDash
  | some (start, stop) =>
    match TimeOfDay.ofChars? start, TimeOfDay.ofChars? stop with
    | some start, some stop =>
      if start < stop then .ok ⟨start, stop⟩ else .error .notForward
    | _, _ => .error .badTime

/-- The merged windows that a list with commas denotes, blanks aside; `*` and empty entries stand for
no window. The error names the bad entries. -/
def listOfText (text : String) : Except (List (String × WindowFault)) (List TimeWindow) :=
  let cs := Text.withoutBlanks text
  if cs = ['*'] then .ok []
  else
    let entries := (Text.splitAll ',' cs).filter (· ≠ [])
    let faults := entries.filterMap fun e =>
      match ofChars e with
      | .error fault => some (String.ofList e, fault)
      | .ok _ => none
    if faults = [] then
      .ok (merge (entries.filterMap fun e => (ofChars e).toOption))
    else .error faults

end TimeWindow

end FlowScheduler
