import Mathlib
import FlowScheduler.Text.LetterCase

/-!
Capitals and the characters that have none.

A character below the letters, such as a separator of lists or a star, is the capital of itself alone
(`mem_upperChar_iff`). So a text in capitals is divided where the text is.
-/

namespace FlowScheduler.Text

variable {c s : Char} {cs : List Char}

/-! ### The tables -/

theorem upperRuns_image : ∀ r ∈ upperRuns, 0x41 ≤ (r.low : Int) + r.shift ∧
    ((r.high : Int) + r.shift < 0xD800 ∨
      0xDFFF < (r.low : Int) + r.shift ∧ (r.high : Int) + r.shift < 0x110000) := by
  decide +kernel

theorem upperExpansions_image :
    ∀ e ∈ upperExpansions, e.2 ≠ [] ∧ ∀ n ∈ e.2, 0x41 ≤ (Char.ofNat n).toNat := by
  decide +kernel

theorem toUpper_ascii : ∀ n < 0x80, (Char.ofNat n).toUpper = Char.ofNat n ∨
    0x61 ≤ n ∧ 0x41 ≤ (Char.ofNat n).toUpper.toNat := by
  decide +kernel

theorem le_toNat_of_image? {r : CaseRun} {n : Nat} (hr : r ∈ upperRuns)
    (h : r.image? n = some c) : 0x41 ≤ c.toNat := by
  obtain ⟨hlow, hvalid⟩ := upperRuns_image r hr
  rw [CaseRun.image?] at h
  split at h
  · next hn =>
    cases h
    have hchar : (n + r.shift).toNat.isValidChar := by
      simp only [Nat.isValidChar]
      omega
    rw [Char.toNat_ofNat, if_pos hchar]
    omega
  · cases h

private theorem mem_of_lookup {table : List (Nat × List Nat)} {n : Nat} {ns : List Nat}
    (h : table.lookup n = some ns) : (n, ns) ∈ table := by
  obtain ⟨before, after, rfl, -⟩ := List.lookup_eq_some_iff.1 h
  simp

/-! ### Characters -/

theorem upperChar_ne_nil (c : Char) : upperChar c ≠ [] := by
  rw [upperChar]
  split
  · simp
  · split
    · next ns hns => simpa using (upperExpansions_image _ (mem_of_lookup hns)).1
    · simp

/-- The capitals of a character are the character itself or letters, and then it is above `A`. -/
theorem mem_upperChar (h : s ∈ upperChar c) : s = c ∨ 0x41 ≤ s.toNat ∧ 0x41 ≤ c.toNat := by
  rw [upperChar] at h
  split at h
  · next hascii =>
    rw [List.mem_singleton] at h
    subst h
    rcases toUpper_ascii c.toNat hascii with hself | ⟨hc, hs⟩
    · rw [Char.ofNat_toNat] at hself
      exact .inl hself
    · rw [Char.ofNat_toNat] at hs
      exact .inr ⟨hs, by omega⟩
  · next hc =>
    split at h
    · next ns hns =>
      obtain ⟨n, hn, rfl⟩ := List.mem_map.1 h
      exact .inr ⟨(upperExpansions_image _ (mem_of_lookup hns)).2 n hn, by omega⟩
    · rw [List.mem_singleton] at h
      cases hrun : upperRuns.findSome? (·.image? c.toNat) with
      | none =>
        rw [hrun, Option.getD_none] at h
        exact .inl h
      | some x =>
        rw [hrun, Option.getD_some] at h
        subst h
        obtain ⟨r, hr, himage⟩ := List.exists_of_findSome?_eq_some hrun
        exact .inr ⟨le_toNat_of_image? hr himage, by omega⟩

theorem upperChar_of_lt (hs : s.toNat < 0x41) : upperChar s = [s] := by
  have hmem : ∀ x ∈ upperChar s, x = s := fun x hx => by
    rcases mem_upperChar hx with rfl | ⟨-, h⟩
    · rfl
    · omega
  rw [upperChar, if_pos (by omega)] at *
  rw [hmem s.toUpper (List.mem_singleton_self _)]

theorem mem_upperChar_iff (hs : s.toNat < 0x41) : s ∈ upperChar c ↔ c = s := by
  constructor
  · intro h
    rcases mem_upperChar h with h | ⟨h, -⟩
    · exact h.symm
    · omega
  · rintro rfl
    rw [upperChar_of_lt hs]
    exact List.mem_singleton_self _

/-! ### Texts -/

theorem upperChars_eq_nil_iff : upperChars cs = [] ↔ cs = [] := by
  cases cs with
  | nil => exact iff_of_true rfl rfl
  | cons c cs => simp [upperChars, upperChar_ne_nil]

theorem upperChars_eq_singleton_iff (hs : s.toNat < 0x41) : upperChars cs = [s] ↔ cs = [s] := by
  constructor
  · intro h
    cases cs with
    | nil => cases h
    | cons c cs =>
      rw [upperChars, List.flatMap_cons, List.append_eq_singleton_iff] at h
      rcases h with ⟨hnil, -⟩ | ⟨hc, hcs⟩
      · exact absurd hnil (upperChar_ne_nil c)
      · have hc : c = s := (mem_upperChar_iff hs).1 (hc ▸ List.mem_singleton_self s)
        rw [hc, upperChars_eq_nil_iff.1 hcs]
  · rintro rfl
    rw [upperChars, List.flatMap_singleton, upperChar_of_lt hs]

end FlowScheduler.Text
