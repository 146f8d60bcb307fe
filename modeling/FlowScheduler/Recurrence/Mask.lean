import FlowScheduler.Calendar.Date
import FlowScheduler.Text.Blank

/-!
Sets of months and of weekdays, written as masks of zeros and ones.

A mask is read and written from the first member on: January or Monday stands first. The full set is
written `*`, and an empty text denotes it too.
-/

namespace FlowScheduler

/-- A set of the numbers below `width`, as one truth value per number. -/
structure Mask (width : Nat) where
  bits : List Bool
  length_bits : bits.length = width
  deriving DecidableEq, Repr

namespace Mask

variable {width : Nat}

/-- The set of all numbers below `width`. -/
def full (width : Nat) : Mask width := ⟨List.replicate width true, by simp⟩

/-- The set without members. -/
def empty (width : Nat) : Mask width := ⟨List.replicate width false, by simp⟩

/-- Whether a number is a member. -/
def contains (m : Mask width) (n : Nat) : Bool := m.bits[n]?.getD false

/-- The set with one more member; a number out of range changes nothing. -/
def insert (m : Mask width) (n : Nat) : Mask width :=
  ⟨m.bits.set n true, by simp [m.length_bits]⟩

/-- Whether there is no member. -/
def isEmpty (m : Mask width) : Bool := m.bits.all (!·)

/-- The members in ascending order. -/
def members (m : Mask width) : List Nat := (List.range width).filter m.contains

/-- Zeros and ones, or `*` for the full set. -/
def toText (m : Mask width) : String :=
  if m.bits.all id then "*"
  else String.ofList (m.bits.map fun b => if b then '1' else '0')

/-- The set that a text denotes, blanks aside; the text without blanks if it denotes none. -/
def ofText (width : Nat) (text : String) : Except String (Mask width) :=
  let cs := Text.withoutBlanks text
  if cs = [] ∨ cs = ['*'] then .ok (full width)
  else if h : cs.length = width ∧ cs.all (fun c => c = '0' || c = '1') then
    .ok ⟨cs.map (· == '1'), by simp [h.1]⟩
  else .error (String.ofList cs)

end Mask

/-- A set of months, January first. -/
abbrev MonthSet := Mask 12

/-- A set of weekdays, Monday first. -/
abbrev WeekdaySet := Mask 7

namespace MonthSet

/-- Whether the month with this number, 1 to 12, is a member. -/
def admits (s : MonthSet) (month : Nat) : Bool := 1 ≤ month && Mask.contains s (month - 1)

end MonthSet

namespace WeekdaySet

/-- Whether a weekday is a member. -/
def admits (s : WeekdaySet) (w : Weekday) : Bool := Mask.contains s w.index

end WeekdaySet

end FlowScheduler
