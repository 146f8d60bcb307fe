/-!
Waiting for a condition: it is looked at again after every pause, until it holds or time is up.
-/

namespace FlowScheduler

/-- How waiting ended. -/
structure Waiting where
  held : Bool
  /-- How often the condition was looked at. -/
  looks : Nat
  deriving DecidableEq, Repr

namespace Waiting

/-- Milliseconds between two looks. -/
def pauseMs : Nat := 10

/-- Looks at the condition for the `n`th time and then after each of `more` pauses. -/
def look (condition : Nat → Bool) : (more n : Nat) → Waiting
  | 0, n => ⟨condition n, n⟩
  | more + 1, n => if condition n then ⟨true, n⟩ else look condition more (n + 1)

/-- Waits until the condition, a function of the number of the look, holds. The last look is the
first one that is not before the deadline. -/
def await (timeoutMs : Nat) (condition : Nat → Bool) : Waiting :=
  look condition ((timeoutMs + pauseMs - 1) / pauseMs) 1

end Waiting

end FlowScheduler
