import FlowScheduler.Error
import FlowScheduler.Recurrence.NextLaunch
import FlowScheduler.Zone.Database

/-!
Schedules: rules in a time zone, any of which may launch.
-/

namespace FlowScheduler

/-- The error of a rule that stands alone. -/
def RuleError.toError (e : RuleError) : SchedulerError := .invalidRecurrence e.field e.message

/-- A schedule as it is written down. -/
structure Schedule where
  id : Int
  name : String
  /-- The name of a time zone; the host's zone if it is empty or unknown. -/
  timeZone : String := ""
  rules : List RuleDefinition := []
  deriving DecidableEq, Repr

/-- A schedule whose rules are valid and whose zone is known. -/
structure CompiledSchedule where
  id : Int
  name : String
  zone : Zone
  rules : List Rule
  deriving DecidableEq, Repr

/-- Why a schedule cannot be compiled. -/
inductive ScheduleError where
  /-- It has no rules. -/
  | noRules
  /-- The rule at this place, counted from 1, is invalid. -/
  | badRule (place : Nat) (cause : RuleError)
  deriving DecidableEq, Repr

/-- The wording of the reason. -/
def ScheduleError.message : ScheduleError → String
  | noRules => "invalid scheduling"
  | badRule place cause =>
    "invalid scheduling " ++ toString place ++ " : " ++ cause.toError.message

/-- The rules of definitions, or the first invalid one with its place. -/
def Rule.listOf (place : Nat) : List RuleDefinition → Except ScheduleError (List Rule)
  | [] => .ok []
  | d :: ds =>
    match Rule.ofDefinition d with
    | .error e => .error (.badRule place e)
    | .ok r => (Rule.listOf (place + 1) ds).map (r :: ·)

/-- The compiled schedule; it needs a rule, and all rules must be valid. -/
def Schedule.compile (s : Schedule) : Except ScheduleError CompiledSchedule :=
  match s.rules with
  | [] => .error .noRules
  | ds => (Rule.listOf 1 ds).map fun rules => ⟨s.id, s.name, .resolve s.timeZone, rules⟩

/-- The earlier of two instants, of which either may be missing. -/
def Instant.earlier? : Option Instant → Option Instant → Option Instant
  | none, b => b
  | a, none => a
  | some a, some b => if b < a then some b else some a

theorem Instant.earlier?_eq_some {a b : Option Instant} {i : Instant}
    (h : earlier? a b = some i) : a = some i ∨ b = some i := by
  cases a <;> cases b <;> simp only [earlier?] at h
  · exact .inl h
  · exact .inr h
  · exact .inl h
  · split at h
    · exact .inr h
    · exact .inl h

namespace CompiledSchedule

/-- The earliest next launch of all rules. -/
def next? (s : CompiledSchedule) (reference : Instant) : Option Instant :=
  s.rules.foldl (fun best r => Instant.earlier? best (r.next? s.zone reference)) none

private theorem foldl_next?_gt {zone : Zone} {reference i : Instant} {rules : List Rule}
    {best : Option Instant} (hb : ∀ j, best = some j → reference < j)
    (h : rules.foldl (fun best r => Instant.earlier? best (r.next? zone reference)) best = some i) :
    reference < i := by
  induction rules generalizing best with
  | nil => exact hb i h
  | cons r rs ih =>
    refine ih (fun j hj => ?_) h
    rcases Instant.earlier?_eq_some hj with hj | hj
    · exact hb j hj
    · exact Rule.next?_gt hj

theorem next?_gt {s : CompiledSchedule} {reference i : Instant} (h : s.next? reference = some i) :
    reference < i :=
  foldl_next?_gt (by simp) h

end CompiledSchedule

/-- `count` launches, each found from the one before; the list ends early with `none` if there is no
further launch. -/
def launchesFrom (next? : Instant → Option Instant) : (count : Nat) → Instant → List (Option Instant)
  | 0, _ => []
  | n + 1, reference =>
    match next? reference with
    | none => [none]
    | some i => some i :: launchesFrom next? n i

end FlowScheduler
