import Mathlib
import FlowScheduler.Recurrence.Rule

/-!
The times of day of a valid rule.

They stand in strictly ascending order (`Rule.times_ascending`), and each is the start of a second or of
a leap second (`Rule.isWhole_of_mem_times`). Both follow from how lists of times come about: read from a
text or generated at an interval, then sorted without repetition. The times at an interval come from counts
with words, which lead to the seconds that a count with natural numbers leads to
(`TimeOfDay.toList_pushEvery`, `TimeOfDay.mem_everySeconds`).
-/

namespace FlowScheduler

namespace TimeOfDay

theorem le_refl (a : TimeOfDay) : a ≤ a := by rw [le_iff]; omega

theorem le_of_lt {a b : TimeOfDay} (h : a < b) : a ≤ b := by
  rw [lt_iff] at h; rw [le_iff]; omega

theorem le_antisymm {a b : TimeOfDay} (h : a ≤ b) (h' : b ≤ a) : a = b := by
  rw [le_iff] at *; rw [ext_iff]; omega

theorem le_trans {a b c : TimeOfDay} (h : a ≤ b) (h' : b ≤ c) : a ≤ c := by
  rw [le_iff] at *; omega

theorem lt_of_le_of_lt {a b c : TimeOfDay} (h : a ≤ b) (h' : b < c) : a < c := by
  rw [le_iff] at h; rw [lt_iff] at *; omega

theorem lt_trans {a b c : TimeOfDay} (h : a < b) (h' : b < c) : a < c := by
  rw [lt_iff] at *; omega

theorem lt_of_lt_of_le {a b c : TimeOfDay} (h : a < b) (h' : b ≤ c) : a < c := by
  rw [le_iff] at h'; rw [lt_iff] at *; omega

theorem lt_irrefl (a : TimeOfDay) : ¬a < a := by rw [lt_iff]; omega

theorem not_le {a b : TimeOfDay} : ¬a ≤ b ↔ b < a := by rw [le_iff, lt_iff]; omega

theorem not_lt {a b : TimeOfDay} : ¬a < b ↔ b ≤ a := by rw [le_iff, lt_iff]; omega

theorem lt_of_le_of_ne {a b : TimeOfDay} (h : a ≤ b) (hne : a ≠ b) : a < b := by
  rw [le_iff] at h
  rw [Ne, ext_iff] at hne
  rw [lt_iff]
  omega

/-! ### Ascending lists -/

@[simp] theorem mem_consNew {t u : TimeOfDay} {ts : List TimeOfDay} :
    u ∈ consNew t ts ↔ u = t ∨ u ∈ ts := by
  cases ts with
  | nil => simp [consNew]
  | cons v vs =>
    rw [consNew]
    split
    · next h => simp [h]
    · simp

@[simp] theorem mem_foldr_consNew {t : TimeOfDay} {ts : List TimeOfDay} :
    t ∈ ts.foldr consNew [] ↔ t ∈ ts := by
  induction ts with
  | nil => simp
  | cons u us ih => simp [ih]

@[simp] theorem mem_ascending {t : TimeOfDay} {ts : List TimeOfDay} : t ∈ ascending ts ↔ t ∈ ts := by
  simp [ascending]

theorem pairwise_consNew {t : TimeOfDay} {ts : List TimeOfDay} (ht : ∀ u ∈ ts, t ≤ u)
    (h : ts.Pairwise (· < ·)) : (consNew t ts).Pairwise (· < ·) := by
  cases ts with
  | nil => simp [consNew]
  | cons v vs =>
    rw [consNew]
    split
    · exact h
    · next hne =>
      refine List.pairwise_cons.2 ⟨fun u hu => ?_, h⟩
      have hv : t < v := lt_of_le_of_ne (ht v List.mem_cons_self) hne
      rcases List.mem_cons.1 hu with rfl | hu
      · exact hv
      · exact lt_trans hv ((List.pairwise_cons.1 h).1 u hu)

theorem pairwise_foldr_consNew {ts : List TimeOfDay} (h : ts.Pairwise (· ≤ ·)) :
    (ts.foldr consNew []).Pairwise (· < ·) := by
  induction ts with
  | nil => exact .nil
  | cons t ts ih =>
    obtain ⟨ht, hts⟩ := List.pairwise_cons.1 h
    exact pairwise_consNew (fun u hu => ht u (mem_foldr_consNew.1 hu)) (ih hts)

theorem pairwise_ascending (ts : List TimeOfDay) : (ascending ts).Pairwise (· < ·) := by
  refine pairwise_foldr_consNew ?_
  have htrans (a b c : TimeOfDay) (hab : decide (a ≤ b) = true) (hbc : decide (b ≤ c) = true) :
      decide (a ≤ c) = true := by
    rw [decide_eq_true_eq] at *
    exact le_trans hab hbc
  have htotal (a b : TimeOfDay) : (decide (a ≤ b) || decide (b ≤ a)) = true := by
    rw [Bool.or_eq_true, decide_eq_true_eq, decide_eq_true_eq, le_iff, le_iff]
    omega
  exact (List.pairwise_mergeSort htrans htotal ts).imp (by simp)

/-- An ascending list is determined by its members. -/
theorem eq_of_mem_iff {ts us : List TimeOfDay} (hts : ts.Pairwise (· < ·))
    (hus : us.Pairwise (· < ·)) (h : ∀ t, t ∈ ts ↔ t ∈ us) : ts = us := by
  have hnodup {vs : List TimeOfDay} (hvs : vs.Pairwise (· < ·)) : vs.Nodup :=
    hvs.imp fun {a b} (hab : a < b) (heq : a = b) => lt_irrefl b (by rwa [heq] at hab)
  refine List.Perm.eq_of_pairwise (fun a b _ _ hab hba => ?_) hts hus
    ((List.perm_ext_iff_of_nodup (hnodup hts) (hnodup hus)).2 h)
  exact absurd (lt_trans hab hba) (lt_irrefl a)

theorem ascending_congr {ts us : List TimeOfDay} (h : ∀ t, t ∈ ts ↔ t ∈ us) :
    ascending ts = ascending us :=
  eq_of_mem_iff (pairwise_ascending ts) (pairwise_ascending us) fun t => by
    rw [mem_ascending, mem_ascending, h]

theorem ascending_of_pairwise {ts : List TimeOfDay} (h : ts.Pairwise (· < ·)) : ascending ts = ts :=
  eq_of_mem_iff (pairwise_ascending ts) h fun _ => mem_ascending

/-! ### Starts of seconds -/

/-- Whether a time is the start of a second or of a leap second. -/
def IsWhole (t : TimeOfDay) : Prop := t.nanos = 0 ∨ t.nanos = 1000000000

theorem isWhole_of_ofClock? {hour minute second : Nat} {t : TimeOfDay}
    (h : ofClock? hour minute second 0 = some t) : t.IsWhole := by
  simp only [ofClock?] at h
  split at h
  · split at h
    · cases h
      exact .inr rfl
    · cases h
      exact .inl rfl
  · cases h

theorem isWhole_of_ofChars? {cs : List Char} {t : TimeOfDay} (h : ofChars? cs = some t) :
    t.IsWhole := by
  simp only [ofChars?] at h
  split at h
  · split at h
    · split at h
      · exact isWhole_of_ofClock? h
      · cases h
    · cases h
  · cases h

/-! ### Times at an interval -/

theorem ofSecond?_eq_some_iff {n : Nat} {t : TimeOfDay} :
    ofSecond? n = some t ↔ t.second = n ∧ t.nanos = 0 := by
  rw [ofSecond?]
  split
  · rw [Option.some.injEq, ext_iff, eq_comm (a := t.second), eq_comm (a := t.nanos)]
  · next h =>
    have hlt := t.second_lt
    simp only [reduceCtorEq, false_iff]
    omega

theorem ofSecond?_eq_none {n : Nat} (h : secondsPerDay ≤ n) : ofSecond? n = none :=
  dif_neg (Nat.not_lt.2 h)

/-- The seconds `start, start + step, …` up to `stop`. -/
def secondsBy (step start stop : Nat) : List Nat :=
  List.range' start ((stop + step - start) / step) step

section SecondsBy

variable {step start stop n : Nat}

theorem secondsBy_of_le (hstep : 0 < step) (h : start ≤ stop) :
    secondsBy step start stop = start :: secondsBy step (start + step) stop := by
  have hlater : stop + step - start = stop + step - (start + step) + step := by omega
  rw [secondsBy, hlater, Nat.add_div_right _ hstep, List.range'_succ, secondsBy]

theorem secondsBy_of_lt (hstep : 0 < step) (h : stop < start) : secondsBy step start stop = [] := by
  rw [secondsBy, Nat.div_eq_of_lt (by omega), List.range'_zero]

theorem secondsBy_eq_range' (hstep : 0 < step) (h : start ≤ stop) :
    secondsBy step start stop = List.range' start ((stop - start) / step + 1) step := by
  have hdiff : stop + step - start = stop - start + step := by omega
  rw [secondsBy, hdiff, Nat.add_div_right _ hstep]

theorem mem_secondsBy (hstep : 0 < step) :
    n ∈ secondsBy step start stop ↔ ∃ k, n = start + k * step ∧ n ≤ stop := by
  have hround (k : Nat) : k < (stop + step - start) / step ↔ start + k * step ≤ stop := by
    rw [← Nat.add_one_le_iff, Nat.le_div_iff_mul_le hstep, Nat.add_mul, Nat.one_mul]
    omega
  rw [secondsBy, List.mem_range']
  constructor
  · rintro ⟨k, hk, rfl⟩
    rw [Nat.mul_comm]
    exact ⟨k, rfl, (hround k).1 hk⟩
  · rintro ⟨k, rfl, hle⟩
    exact ⟨k, (hround k).2 hle, by rw [Nat.mul_comm]⟩

theorem filterMap_secondsBy (hstep : 0 < step) (h : secondsPerDay ≤ start) :
    (secondsBy step start stop).filterMap ofSecond? = [] := by
  refine List.filterMap_eq_nil_iff.2 fun n hn => ?_
  obtain ⟨k, rfl, -⟩ := (mem_secondsBy hstep).1 hn
  exact ofSecond?_eq_none (Nat.le_trans h (Nat.le_add_right ..))

end SecondsBy

private theorem filterMap_ofSecond?_cons (n : Nat) (ns : List Nat) :
    (n :: ns).filterMap ofSecond? = (ofSecond? n).toList ++ ns.filterMap ofSecond? := by
  rw [List.filterMap_eq_flatMap_toList, List.flatMap_cons, ← List.filterMap_eq_flatMap_toList]

/-- A count leaves out no second of the day up to its end: where it is short of bits, the seconds to come
are past the day. -/
theorem toList_pushEvery (step : Step) (stop : UInt32) (times : Array TimeOfDay) (second : UInt32) :
    (pushEvery step stop times second).toList = times.toList ++
      (secondsBy step.seconds.toNat second.toNat stop.toNat).filterMap ofSecond? := by
  fun_induction pushEvery step stop times second with
  | case1 times second hin pushed next hnext ih =>
    rw [ih, toList_pushSecond, Word.add?_eq_some_iff.1 hnext,
      secondsBy_of_le step.pos (UInt32.le_iff_toNat_le.1 hin.1), filterMap_ofSecond?_cons, List.append_assoc]
  | case2 times second hin pushed hnone =>
    have hpast : secondsPerDay ≤ second.toNat + step.seconds.toNat :=
      Nat.le_trans (by decide) (Word.add?_eq_none_iff.1 hnone)
    rw [toList_pushSecond, secondsBy_of_le step.pos (UInt32.le_iff_toNat_le.1 hin.1),
      filterMap_ofSecond?_cons, filterMap_secondsBy step.pos hpast, List.append_nil]
  | case3 times second hout =>
    rw [UInt32.le_iff_toNat_le, not_and_or, Nat.not_le, Nat.not_lt] at hout
    rcases hout with hstop | hday
    · rw [secondsBy_of_lt step.pos hstop, List.filterMap_nil, List.append_nil]
    · rw [filterMap_secondsBy step.pos hday, List.append_nil]

theorem toList_foldl_pushEvery (step : Step) (rs : List (UInt32 × UInt32)) (times : Array TimeOfDay) :
    (rs.foldl (fun times (start, stop) => pushEvery step stop times start) times).toList =
      times.toList ++ rs.flatMap fun (start, stop) =>
        (secondsBy step.seconds.toNat start.toNat stop.toNat).filterMap ofSecond? := by
  induction rs generalizing times with
  | nil => rw [List.foldl_nil, List.flatMap_nil, List.append_nil]
  | cons r rs ih =>
    rw [List.foldl_cons, ih, toList_pushEvery, List.append_assoc, List.flatMap_cons]

/-- The times at an interval are the starts of the seconds that are a number of steps after the start of
a range, and within it. -/
theorem mem_everySeconds {interval : UInt32} {windows : List TimeWindow} {t : TimeOfDay} :
    t ∈ everySeconds interval windows ↔ t.nanos = 0 ∧ ∃ r ∈ ranges windows, ∃ k,
      t.second = r.1.toNat + k * max interval.toNat 1 ∧ t.second ≤ r.2.toNat := by
  have hstep : 0 < max interval.toNat 1 := Nat.le_max_right ..
  simp only [everySeconds, mem_ascending, toList_foldl_pushEvery, List.nil_append, List.mem_flatMap,
    List.mem_filterMap, Step.toNat_ofInterval, mem_secondsBy hstep, ofSecond?_eq_some_iff]
  constructor
  · rintro ⟨r, hr, n, hn, rfl, hnanos⟩
    exact ⟨hnanos, r, hr, hn⟩
  · rintro ⟨hnanos, r, hr, hn⟩
    exact ⟨r, hr, t.second, hn, rfl, hnanos⟩

end TimeOfDay

/-! ### Valid rules -/

namespace Rule

/-- The times of a timing are the members of some list of whole times, in ascending order. -/
private theorem timesOf_eq {d : RuleDefinition} {timing : Timing} {times : List TimeOfDay}
    (h : timesOf d = .ok (timing, times)) :
    ∃ ts : List TimeOfDay, times = TimeOfDay.ascending ts ∧ ∀ t ∈ ts, t.IsWhole := by
  simp only [timesOf] at h
  split at h
  · split at h
    · cases h
      refine ⟨_, rfl, fun t ht => ?_⟩
      exact .inl (TimeOfDay.mem_everySeconds.1 (TimeOfDay.mem_ascending.2 ht)).1
    · cases h
  · split at h
    · cases h
    · simp only [TimeOfDay.listOfText] at h
      split at h
      · cases h
        refine ⟨_, rfl, fun t ht => ?_⟩
        obtain ⟨e, -, he⟩ := List.mem_filterMap.1 ht
        exact TimeOfDay.isWhole_of_ofChars? he
      · cases h

private theorem timesOf_of_ofDefinition {d : RuleDefinition} {r : Rule} (h : ofDefinition d = .ok r) :
    ∃ timing times, timesOf d = .ok (timing, times) ∧ r.times = times.toArray := by
  simp only [ofDefinition, bind, Except.bind] at h
  split at h
  · cases h
  · next v hv =>
    split at h
    · cases h
    · split at h
      · cases h
      · split at h
        · cases h
        · cases h
          exact ⟨_, _, hv, rfl⟩

theorem times_ascending {d : RuleDefinition} {r : Rule} (h : ofDefinition d = .ok r) :
    r.times.toList.Pairwise (· < ·) := by
  obtain ⟨_, times, htimes, hr⟩ := timesOf_of_ofDefinition h
  obtain ⟨ts, rfl, -⟩ := timesOf_eq htimes
  rw [hr]
  exact TimeOfDay.pairwise_ascending ts

theorem isWhole_of_mem_times {d : RuleDefinition} {r : Rule} (h : ofDefinition d = .ok r)
    {t : TimeOfDay} (ht : t ∈ r.times) : t.IsWhole := by
  obtain ⟨_, times, htimes, hr⟩ := timesOf_of_ofDefinition h
  obtain ⟨ts, rfl, hts⟩ := timesOf_eq htimes
  rw [hr, List.mem_toArray, TimeOfDay.mem_ascending] at ht
  exact hts t ht

end Rule

end FlowScheduler
