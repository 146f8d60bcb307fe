import FlowScheduler.Recurrence.Window
import FlowScheduler.Word

/-!
The times of day at which a rule launches: listed one by one, or generated at a fixed interval within
windows.
-/

namespace FlowScheduler

namespace TimeOfDay

/-- The time in front of a list, unless the list begins with it. -/
def consNew (t : TimeOfDay) : List TimeOfDay → List TimeOfDay
  | [] => [t]
  | u :: ts => if t = u then u :: ts else t :: u :: ts

/-- The times in ascending order, each once. -/
def ascending (ts : List TimeOfDay) : List TimeOfDay :=
  (ts.mergeSort fun a b => decide (a ≤ b)).foldr consNew []

/-- The times that a list with commas denotes, blanks aside; the entries that are no times if there
are any. -/
def listOfText (text : String) : Except (List String) (List TimeOfDay) :=
  let entries := Text.splitAll ',' (Text.withoutBlanks text)
  match entries.filter (fun e => (ofChars? e).isNone) with
  | [] => .ok (ascending (entries.filterMap ofChars?))
  | bad => .error (bad.map String.ofList)

/-- The second of the day as a word. -/
def secondWord (t : TimeOfDay) : UInt32 := .ofNat t.second

@[simp] theorem toNat_secondWord (t : TimeOfDay) : t.secondWord.toNat = t.second := by
  have hlt := t.second_lt
  exact UInt32.toNat_ofNat_of_lt' (by rw [UInt32.size]; omega)

/-- The seconds from one time to the next. -/
structure Step where
  seconds : UInt32
  pos : 0 < seconds.toNat

/-- The step of an interval; an interval of 0 counts as 1. -/
def Step.ofInterval (interval : UInt32) : Step where
  seconds := max interval 1
  pos := by
    rw [Word.toNat_max]
    exact Nat.le_max_right ..

@[simp] theorem Step.toNat_ofInterval (interval : UInt32) :
    (Step.ofInterval interval).seconds.toNat = max interval.toNat 1 :=
  Word.toNat_max ..

/-- The times found so far and the start of a second, if the day has it. -/
def pushSecond (times : Array TimeOfDay) (second : Nat) : Array TimeOfDay :=
  match ofSecond? second with
  | some t => times.push t
  | none => times

theorem toList_pushSecond (times : Array TimeOfDay) (second : Nat) :
    (pushSecond times second).toList = times.toList ++ (ofSecond? second).toList := by
  rw [pushSecond]
  cases ofSecond? second with
  | some t => rw [Array.toList_push, Option.toList_some]
  | none => rw [Option.toList_none, List.append_nil]

/-- The times found so far and those at `second`, a step later and so on, up to `stop` and within the
day. The count also ends where the next second takes more than 32 bits. -/
def pushEvery (step : Step) (stop : UInt32) (times : Array TimeOfDay) (second : UInt32) :
    Array TimeOfDay :=
  if second ≤ stop ∧ second.toNat < secondsPerDay then
    let times := pushSecond times second.toNat
    match _hnext : Word.add? second step.seconds with
    | some next => pushEvery step stop times next
    | none => times
  else times
termination_by secondsPerDay - second.toNat
decreasing_by
  -- a sum that fits is the sum of the natural numbers, so the count moves on
  have hsum := Word.add?_eq_some_iff.1 _hnext
  have hpos := step.pos
  omega

/-- The first and the last second of each stretch that is counted over: those of the windows, or of the
whole day if there is no window. -/
def ranges (windows : List TimeWindow) : List (UInt32 × UInt32) :=
  if windows = [] then [(0, .ofNat (secondsPerDay - 1))]
  else windows.map fun w => (w.start.secondWord, w.stop.secondWord)

/-- The times of an interval in seconds, counted from the start of each window, or from midnight over
the whole day if there is no window. -/
def everySeconds (interval : UInt32) (windows : List TimeWindow) : List TimeOfDay :=
  let step := Step.ofInterval interval
  let times := (ranges windows).foldl (fun times (start, stop) => pushEvery step stop times start) #[]
  ascending times.toList

end TimeOfDay

end FlowScheduler
