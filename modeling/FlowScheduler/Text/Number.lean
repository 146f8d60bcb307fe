/-!
Numbers in texts: decimal digits, padded numbers, and the reading of signed whole numbers.
-/

namespace FlowScheduler.Text

/-- The value of an ASCII digit. -/
def digit? (c : Char) : Option Nat :=
  if '0' ≤ c ∧ c ≤ '9' then some (c.toNat - 48) else none

/-- The number that a non-empty sequence of ASCII digits denotes. -/
def number? (cs : List Char) : Option Nat :=
  if cs.isEmpty then none
  else cs.foldlM (fun n c => (digit? c).map (10 * n + ·)) 0

/-- A whole number with an optional sign. -/
def integer? : List Char → Option Int
  | '-' :: cs => (number? cs).map fun n => -(n : Int)
  | '+' :: cs => (number? cs).map fun n => (n : Int)
  | cs => (number? cs).map fun n => (n : Int)

/-- A whole number without a minus sign that is at most `max`. -/
def natUpTo? (max : Nat) (cs : List Char) : Option Nat :=
  let digits := match cs with
    | '+' :: rest => rest
    | _ => cs
  (number? digits).filter (· ≤ max)

/-- A whole number between `low` and `high`. -/
def integerIn? (low high : Int) (cs : List Char) : Option Int :=
  (integer? cs).filter fun n => low ≤ n ∧ n ≤ high

/-- The longest run of ASCII digits at the front that has at most `max` characters, and the rest. -/
def takeDigits : (max : Nat) → List Char → List Char × List Char
  | 0, cs => ([], cs)
  | _, [] => ([], [])
  | max + 1, c :: cs =>
    if c.isDigit then
      let (ds, rest) := takeDigits max cs
      (c :: ds, rest)
    else ([], c :: cs)

/-- Decimal digits, with zeros in front up to `width`. -/
def padded (width n : Nat) : String :=
  let ds := Nat.toDigits 10 n
  String.ofList (List.replicate (width - ds.length) '0' ++ ds)

/-- A signed number; the digits are padded, and the sign counts towards the width. -/
def paddedInt (width : Nat) (n : Int) : String :=
  if n < 0 then "-" ++ padded (width - 1) n.natAbs else padded width n.natAbs

end FlowScheduler.Text
