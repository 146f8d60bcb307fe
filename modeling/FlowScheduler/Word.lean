/-!
The ranges of numbers of 32 and 64 bits, and arithmetic that keeps to them.
-/

namespace FlowScheduler.Word

/-- One more than the greatest natural number of 32 bits. -/
abbrev nat32End : Nat := 4294967296

/-- One more than the greatest natural number of 64 bits. -/
abbrev nat64End : Nat := 18446744073709551616

/-- One more than the greatest integer of 32 bits with a sign; the least one is its negative. -/
abbrev int32End : Int := 2147483648

/-- One more than the greatest integer of 64 bits with a sign; the least one is its negative. -/
abbrev int64End : Int := 9223372036854775808

/-- Whether an integer has 64 bits with a sign. -/
def isInt64 (n : Int) : Bool := -int64End ≤ n && n < int64End

/-- Whether an integer has 64 bits, with or without a sign. -/
def isIn64 (n : Int) : Bool := -int64End ≤ n && n < nat64End

/-- The integer of 32 bits with a sign that has the lowest 32 bits of another. -/
def wrapInt32 (n : Int) : Int := n.bmod nat32End

theorem wrapInt32_of_bounds {n : Int} (hlow : -int32End ≤ n) (hlt : n < int32End) : wrapInt32 n = n := by
  simp only [int32End] at hlow hlt
  rw [wrapInt32, nat32End]
  exact Int.bmod_eq_of_le (by omega) (by omega)

/-- The natural number of 32 bits that has the lowest 32 bits of another. -/
def wrapNat32 (n : Nat) : Nat := n % nat32End

theorem wrapNat32_le (n : Nat) : wrapNat32 n ≤ n := Nat.mod_le n nat32End

theorem wrapNat32_of_lt {n : Nat} (h : n < nat32End) : wrapNat32 n = n := Nat.mod_eq_of_lt h

theorem toNat_max (a b : UInt32) : (max a b).toNat = max a.toNat b.toNat := by
  change (if a ≤ b then b else a).toNat = _
  split
  · next h => rw [Nat.max_eq_right (UInt32.le_iff_toNat_le.1 h)]
  · next h => rw [Nat.max_eq_left (Nat.le_of_not_le fun hle => h (UInt32.le_iff_toNat_le.2 hle))]

/-- The sum of two words, unless it takes more than 32 bits. -/
def add? (a b : UInt32) : Option UInt32 :=
  if a.toNat + b.toNat < nat32End then some (a + b) else none

theorem add?_eq_some_iff {a b c : UInt32} : add? a b = some c ↔ c.toNat = a.toNat + b.toNat := by
  have hc : c.toNat < nat32End := c.toNat_lt
  rw [add?]
  split
  · next h =>
    have hsum : (a + b).toNat = a.toNat + b.toNat := by
      rw [UInt32.toNat_add]
      exact Nat.mod_eq_of_lt h
    rw [Option.some.injEq, ← UInt32.toNat_inj, hsum, eq_comm]
  · next h =>
    simp only [reduceCtorEq, false_iff]
    omega

theorem add?_eq_none_iff {a b : UInt32} : add? a b = none ↔ nat32End ≤ a.toNat + b.toNat := by
  rw [add?]
  split
  · next h => simp only [reduceCtorEq, false_iff, Nat.not_le, h]
  · next h => simpa only [true_iff] using Nat.not_lt.1 h

end FlowScheduler.Word
