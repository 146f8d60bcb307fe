import Mathlib
import FlowScheduler.Text.Number

/-!
The reading of decimal numbers.

A sequence of digits is read as a number if and only if it is the decimal notation of that number behind
some zeros (`number?_eq_some_iff`): the last digit is the number modulo ten, and the digits before it, if
any, are read as its tenth part. So a padded number reads back (`number?_padded`), and a number with a
bound may have a plus sign and zeros in front (`natUpTo?_eq_some_iff`).
-/

namespace FlowScheduler.Text

variable {c : Char} {cs : List Char} {n d max : Nat}

theorem digit?_eq_some_iff : digit? c = some d ↔ d < 10 ∧ c = Nat.digitChar d := by
  have hrange : ('0' ≤ c ∧ c ≤ '9') ↔ 48 ≤ c.toNat ∧ c.toNat ≤ 57 := by
    simp [Char.le_def, UInt32.le_iff_toNat_le]
  constructor
  · intro h
    rw [digit?] at h
    split at h
    · next hdigit =>
      rw [hrange] at hdigit
      cases h
      refine ⟨by omega, Char.toNat_inj.1 ?_⟩
      rw [Nat.toNat_digitChar_of_lt_ten (by omega)]
      omega
    · cases h
  · rintro ⟨hd, rfl⟩
    have hchar := Nat.toNat_digitChar_of_lt_ten hd
    rw [digit?, if_pos (hrange.2 (by omega)), hchar, Nat.add_sub_cancel_left]

theorem number?_append_singleton : number? (cs ++ [c]) = some n ↔
    (cs = [] ∧ n < 10 ∨ number? cs = some (n / 10)) ∧ digit? c = some (n % 10) := by
  have hread : number? (cs ++ [c]) = some n ↔
      ∃ m, (cs = [] ∧ m = 0 ∨ number? cs = some m) ∧ ∃ d, digit? c = some d ∧ 10 * m + d = n := by
    cases cs with
    | nil => simp [number?]
    | cons x xs =>
      have hstep : number? (x :: xs ++ [c]) =
          (number? (x :: xs)).bind fun m => (digit? c).map (10 * m + ·) := by
        simp [number?, List.foldlM_append, Option.bind_assoc]
      simp only [hstep, Option.bind_eq_some_iff, Option.map_eq_some_iff, reduceCtorEq, false_and, false_or]
  rw [hread]
  constructor
  · rintro ⟨m, hm, d, hd, rfl⟩
    have hlt := (digit?_eq_some_iff.1 hd).1
    have htens : (10 * m + d) / 10 = m := by omega
    have hunits : (10 * m + d) % 10 = d := by omega
    rw [htens, hunits]
    exact ⟨hm.imp_left fun h => ⟨h.1, by omega⟩, hd⟩
  · rintro ⟨hm, hd⟩
    exact ⟨n / 10, hm.imp_left fun h => ⟨h.1, by omega⟩, n % 10, hd, by omega⟩

/-- The notation of a number behind zeros ends in the last digit of the number; what stands before it is empty
or the notation of the tenth part behind zeros. -/
theorem exists_zeros_append_singleton :
    (∃ zeros, cs ++ [c] = List.replicate zeros '0' ++ Nat.toDigits 10 n) ↔
      (cs = [] ∧ n < 10 ∨ ∃ zeros, cs = List.replicate zeros '0' ++ Nat.toDigits 10 (n / 10)) ∧
        c = Nat.digitChar (n % 10) := by
  by_cases hn : n < 10
  · have hzero : Nat.toDigits 10 (n / 10) = ['0'] := by rw [Nat.div_eq_of_lt hn]; rfl
    have hzeros : (∃ zeros, cs = List.replicate zeros '0') ↔
        cs = [] ∨ ∃ zeros, cs = List.replicate zeros '0' ++ ['0'] := by
      rw [← Nat.or_exists_add_one]
      simp only [List.replicate_zero, List.replicate_succ']
    simp only [Nat.toDigits_of_lt_base hn, hzero, Nat.mod_eq_of_lt hn, List.append_singleton_inj,
      exists_and_right, hn, and_true, hzeros]
  · have hdigits : Nat.toDigits 10 n = Nat.toDigits 10 (n / 10) ++ [Nat.digitChar (n % 10)] := by
      have hlast : n % 10 < 10 := Nat.mod_lt n (by decide)
      rw [← Nat.toDigits_of_lt_base hlast, Nat.toDigits_append_toDigits (by decide) (by omega) hlast,
        Nat.div_add_mod]
    simp only [hdigits, ← List.append_assoc, List.append_singleton_inj, exists_and_right, hn, and_false,
      false_or]

theorem number?_eq_some_iff :
    number? cs = some n ↔ ∃ zeros, cs = List.replicate zeros '0' ++ Nat.toDigits 10 n := by
  induction cs using List.reverseRecOn generalizing n with
  | nil => simp [number?, Nat.toDigits_ne_nil]
  | append_singleton cs c ih =>
    rw [number?_append_singleton, exists_zeros_append_singleton, ih, digit?_eq_some_iff,
      and_iff_right (Nat.mod_lt n (by decide))]

theorem number?_padded (width : Nat) : number? (padded width n).toList = some n := by
  rw [padded, String.toList_ofList]
  exact number?_eq_some_iff.2 ⟨_, rfl⟩

theorem number?_plus : number? ('+' :: cs) = none := by
  rw [Option.eq_none_iff_forall_ne_some]
  intro n h
  obtain ⟨zeros, heq⟩ := number?_eq_some_iff.1 h
  have hmem : '+' ∈ List.replicate zeros '0' ++ Nat.toDigits 10 n := heq ▸ List.mem_cons_self
  rcases List.mem_append.1 hmem with hzero | hdigit
  · exact absurd (List.eq_of_mem_replicate hzero) (by decide)
  · exact absurd (Nat.isDigit_of_mem_toDigits (by decide) (by decide) hdigit) (by decide)

theorem natUpTo?_eq_some_iff : natUpTo? max cs = some n ↔
    n ≤ max ∧ ∃ sign ∈ [[], ['+']], ∃ zeros, cs = sign ++ List.replicate zeros '0' ++ Nat.toDigits 10 n := by
  have hform : (∃ sign ∈ [[], ['+']], ∃ zeros, cs = sign ++ List.replicate zeros '0' ++ Nat.toDigits 10 n) ↔
      number? cs = some n ∨ ∃ rest, cs = '+' :: rest ∧ number? rest = some n := by
    simp [number?_eq_some_iff]
  rw [hform, and_comm]
  unfold natUpTo?
  rw [Option.filter_eq_some_iff, decide_eq_true_eq]
  refine and_congr_left fun _ => ?_
  split
  · simp [number?_plus]
  · next h =>
    rw [or_iff_left]
    rintro ⟨rest, rfl, -⟩
    exact h rest rfl

end FlowScheduler.Text
