import Mathlib
import FlowScheduler.Proofs.Recurrence.NormalForm
import FlowScheduler.Proofs.Recurrence.Scan

/-!
Times at an interval, and what the search asks of a rule's times.

A count with words passes the seconds that a count with natural numbers passes
(`TimeOfDay.map_second_pushEvery`), so the times at an interval are those of the seconds that are due, in
order, and there is always one (`TimeOfDay.isTimetable_everySeconds`). Listed times are in order too and at
least one, so the bisection finds its place in the times of every valid rule (`Rule.isSearchable_times`).
-/

namespace FlowScheduler

namespace TimeOfDay

variable {interval : UInt32} {windows : List TimeWindow}

/-- Whether a second is due at an interval, where 0 counts as 1: it is a multiple of the interval or, if
there are windows, a number of intervals after the start of one and not after its end. -/
def IsDue (interval : UInt32) (windows : List TimeWindow) (second : Nat) : Prop :=
  second < secondsPerDay ∧
    (windows = [] ∧ max interval.toNat 1 ∣ second ∨ ∃ w ∈ windows, ∃ k,
      second = w.start.second + k * max interval.toNat 1 ∧ second ≤ w.stop.second)

/-- Whether times are the starts of the seconds that are due, in order. -/
structure IsTimetable (interval : UInt32) (windows : List TimeWindow) (times : List TimeOfDay) :
    Prop where
  ne_nil : times ≠ []
  ascending : times.Pairwise (· < ·)
  nanos_eq : ∀ t ∈ times, t.nanos = 0
  exists_second_iff : ∀ second, (∃ t ∈ times, t.second = second) ↔ IsDue interval windows second

/-! ### Ranges -/

theorem mem_ranges_iff {r : UInt32 × UInt32} : r ∈ ranges windows ↔
    windows = [] ∧ r = (0, .ofNat (secondsPerDay - 1)) ∨
      ∃ w ∈ windows, r = (w.start.secondWord, w.stop.secondWord) := by
  rw [ranges]
  split
  · next hnil => simp only [hnil, List.mem_singleton, true_and, List.not_mem_nil, false_and,
      exists_false, or_false]
  · next hnil => simp only [hnil, false_and, false_or, List.mem_map, eq_comm]

theorem exists_mem_ranges (windows : List TimeWindow) : ∃ r, r ∈ ranges windows := by
  cases windows with
  | nil => exact ⟨_, mem_ranges_iff.2 (.inl ⟨rfl, rfl⟩)⟩
  | cons w ws => exact ⟨_, mem_ranges_iff.2 (.inr ⟨w, List.mem_cons_self, rfl⟩)⟩

theorem forward_of_mem_ranges (h : TimeWindow.IsCanonical windows) {r : UInt32 × UInt32}
    (hr : r ∈ ranges windows) : r.1 ≤ r.2 ∧ r.2.toNat < secondsPerDay := by
  rcases mem_ranges_iff.1 hr with ⟨-, rfl⟩ | ⟨w, hw, rfl⟩
  · decide
  · have hforward := h.forward w hw
    rw [UInt32.le_iff_toNat_le, toNat_secondWord, toNat_secondWord]
    rw [lt_iff] at hforward
    exact ⟨by omega, w.stop.second_lt⟩

theorem isDue_iff_exists_range {second : Nat} : IsDue interval windows second ↔
    ∃ r ∈ ranges windows, ∃ k,
      second = r.1.toNat + k * max interval.toNat 1 ∧ second ≤ r.2.toNat := by
  have hlast : (UInt32.ofNat (secondsPerDay - 1)).toNat = secondsPerDay - 1 := by decide
  constructor
  · rintro ⟨hday, ⟨hnil, k, rfl⟩ | ⟨w, hw, k, hk, hle⟩⟩
    · refine ⟨_, mem_ranges_iff.2 (.inl ⟨hnil, rfl⟩), k, ?_, ?_⟩
      · rw [UInt32.toNat_zero, Nat.zero_add, Nat.mul_comm]
      · rw [hlast]
        exact Nat.le_sub_one_of_lt hday
    · refine ⟨_, mem_ranges_iff.2 (.inr ⟨w, hw, rfl⟩), k, ?_, ?_⟩ <;> rwa [toNat_secondWord]
  · rintro ⟨r, hr, k, hk, hle⟩
    rcases mem_ranges_iff.1 hr with ⟨hnil, rfl⟩ | ⟨w, hw, rfl⟩
    · rw [UInt32.toNat_zero, Nat.zero_add] at hk
      rw [hlast] at hle
      exact ⟨Nat.lt_of_le_of_lt hle (by decide), .inl ⟨hnil, k, by rw [hk, Nat.mul_comm]⟩⟩
    · rw [toNat_secondWord] at hk hle
      exact ⟨Nat.lt_of_le_of_lt hle w.stop.second_lt, .inr ⟨w, hw, k, hk, hle⟩⟩

/-! ### Counting -/

theorem map_second_filterMap {ns : List Nat} (h : ∀ n ∈ ns, n < secondsPerDay) :
    (ns.filterMap ofSecond?).map second = ns := by
  induction ns with
  | nil => rfl
  | cons n ns ih =>
    obtain ⟨hn, hns⟩ := List.forall_mem_cons.1 h
    have hsome : ofSecond? n = some { second := n, nanos := 0, second_lt := hn } := dif_pos hn
    rw [List.filterMap_cons_some hsome, List.map_cons, ih hns]

/-- A count within the day has as many rounds as there are steps between its ends, and one more. Each
passes the second that counting with natural numbers leads to. -/
theorem map_second_pushEvery (step : Step) (times : Array TimeOfDay) {start stop : UInt32}
    (hle : start ≤ stop) (hday : stop.toNat < secondsPerDay) :
    (pushEvery step stop times start).toList.map second = times.toList.map second ++
      List.range' start.toNat ((stop.toNat - start.toNat) / step.seconds.toNat + 1)
        step.seconds.toNat := by
  have hin : ∀ n ∈ secondsBy step.seconds.toNat start.toNat stop.toNat, n < secondsPerDay := by
    intro n hn
    obtain ⟨_, -, hn⟩ := (mem_secondsBy step.pos).1 hn
    exact Nat.lt_of_le_of_lt hn hday
  rw [toList_pushEvery, List.map_append, map_second_filterMap hin,
    secondsBy_eq_range' step.pos (UInt32.le_iff_toNat_le.1 hle)]

/-! ### The timetable -/

theorem exists_second_everySeconds_iff {second : Nat} :
    (∃ t ∈ everySeconds interval windows, t.second = second) ↔ IsDue interval windows second := by
  constructor
  · rintro ⟨t, ht, rfl⟩
    exact isDue_iff_exists_range.2 (mem_everySeconds.1 ht).2
  · intro hdue
    have hrange := isDue_iff_exists_range.1 hdue
    exact ⟨{ second, nanos := 0, second_lt := hdue.1 }, mem_everySeconds.2 ⟨rfl, hrange⟩, rfl⟩

/-- The first second of each range is due. -/
theorem everySeconds_ne_nil (h : TimeWindow.IsCanonical windows) (interval : UInt32) :
    everySeconds interval windows ≠ [] := by
  obtain ⟨r, hr⟩ := exists_mem_ranges windows
  have hle := UInt32.le_iff_toNat_le.1 (forward_of_mem_ranges h hr).1
  have hdue : IsDue interval windows r.1.toNat :=
    isDue_iff_exists_range.2 ⟨r, hr, 0, by rw [Nat.zero_mul, Nat.add_zero], hle⟩
  obtain ⟨t, ht, -⟩ := exists_second_everySeconds_iff.2 hdue
  exact List.ne_nil_of_mem ht

theorem isTimetable_everySeconds (h : TimeWindow.IsCanonical windows) (interval : UInt32) :
    IsTimetable interval windows (everySeconds interval windows) where
  ne_nil := everySeconds_ne_nil h interval
  ascending := pairwise_ascending _
  nanos_eq _ ht := (mem_everySeconds.1 ht).1
  exists_second_iff _ := exists_second_everySeconds_iff

end TimeOfDay

namespace Rule

/-- What the search asks of the times of a rule: there is one, they are in order, and the bisection
parts them into those up to a time and those after it, wherever it is looked for. -/
structure IsSearchable (times : Array TimeOfDay) : Prop where
  ne_empty : times ≠ #[]
  ascending : times.toList.Pairwise (· < ·)
  countUpTo_le : ∀ t, countUpTo times t ≤ times.size
  lt_countUpTo_iff : ∀ t i (hi : i < times.size), i < countUpTo times t ↔ times[i] ≤ t

theorem bisect_le {times : Array TimeOfDay} {t : TimeOfDay} {low high : Nat} {h : high ≤ times.size}
    (hle : low ≤ high) : bisect times t low high h ≤ high := by
  fun_induction bisect times t low high h with
  | case1 low high h hlt mid hmid hup ih => exact ih (by omega)
  | case2 low high h hlt mid hmid hup ih => exact Nat.le_trans (ih (by omega)) (by omega)
  | case3 => exact hle

theorem ne_nil_of_timesOf {d : RuleDefinition} {timing : Timing} {times : List TimeOfDay}
    (h : timesOf d = .ok (timing, times)) : times ≠ [] := by
  by_cases hpos : 0 < d.interval
  · obtain ⟨ws, hws, -, rfl⟩ := (timesOf_interval_iff hpos).1 h
    exact TimeOfDay.everySeconds_ne_nil (TimeWindow.isCanonical_of_listOfText hws) _
  · exact TimeOfDay.ne_nil_of_listOfText ((timesOf_listed_iff hpos).1 h).2

theorem isSearchable_times {d : RuleDefinition} {r : Rule} (h : ofDefinition d = .ok r) :
    IsSearchable r.times where
  ne_empty hempty := ne_nil_of_timesOf (ofDefinition_eq_ok_iff.1 h).1 (by rw [hempty])
  ascending := times_ascending h
  countUpTo_le _ := bisect_le (Nat.zero_le _)
  lt_countUpTo_iff _ _ hi := Rule.lt_countUpTo_iff (times_ascending h) hi

/-- At every interval of 32 bits and over all windows that a text denotes, each count has the rounds and
passes the seconds of one with natural numbers, and the times are those of the seconds that are due, in
order and at least one. Listed times are in order and at least one too, so the times of every valid rule
can be searched. -/
theorem times_exact_and_searchable :
    (∀ (interval : UInt32) {text : String} {windows : List TimeWindow},
      TimeWindow.listOfText text = .ok windows →
        (∀ r ∈ TimeOfDay.ranges windows, ∀ times,
          (TimeOfDay.pushEvery (.ofInterval interval) r.2 times r.1).toList.map TimeOfDay.second =
            times.toList.map TimeOfDay.second ++
              List.range' r.1.toNat ((r.2.toNat - r.1.toNat) / max interval.toNat 1 + 1)
                (max interval.toNat 1)) ∧
        TimeOfDay.IsTimetable interval windows (TimeOfDay.everySeconds interval windows)) ∧
    ∀ {d : RuleDefinition} {r : Rule}, ofDefinition d = .ok r → IsSearchable r.times := by
  refine ⟨fun interval text windows htext => ?_, isSearchable_times⟩
  have hcanonical := TimeWindow.isCanonical_of_listOfText htext
  refine ⟨fun r hr times => ?_, TimeOfDay.isTimetable_everySeconds hcanonical interval⟩
  obtain ⟨hle, hday⟩ := TimeOfDay.forward_of_mem_ranges hcanonical hr
  rw [TimeOfDay.map_second_pushEvery _ times hle hday, TimeOfDay.Step.toNat_ofInterval]

private def timeAt (second : Fin 86400) (nanos : Fin 2000000000 := 0) : TimeOfDay :=
  ⟨second, nanos, second.isLt, nanos.isLt⟩

private def writtenWindows : String := "23:59:58-23:59:60, 08:00:50-08:00:60"

private def readWindows : List TimeWindow :=
  [⟨timeAt 28850, timeAt 28859 1000000000⟩, ⟨timeAt 86398, timeAt 86399 1000000000⟩]

/-- An interval of which no two fit into 32 bits, over windows that end in leap seconds. -/
theorem times_exact_and_searchable_at_longest_interval :
    TimeWindow.listOfText writtenWindows = .ok readWindows ∧
      TimeOfDay.IsTimetable 4294967295 readWindows (TimeOfDay.everySeconds 4294967295 readWindows) ∧
      TimeOfDay.everySeconds 4294967295 readWindows = [timeAt 28850, timeAt 86398] ∧
      ∃ r, ofDefinition { interval := 4294967296, intervalHours := writtenWindows } = .ok r ∧
        r.times = #[timeAt 28850, timeAt 86398] ∧ IsSearchable r.times := by
  have hmerged : TimeWindow.merge readWindows.reverse = readWindows := by cbv
  have hread : TimeWindow.listOfText writtenWindows = .ok (TimeWindow.merge readWindows.reverse) := rfl
  rw [hmerged] at hread
  have htimes : TimeOfDay.everySeconds 4294967295 readWindows = [timeAt 28850, timeAt 86398] := by cbv
  let rule : Rule :=
    ⟨.every 4294967295 readWindows, #[timeAt 28850, timeAt 86398], .full 12, .full 7, .any⟩
  have hrule : ofDefinition { interval := 4294967296, intervalHours := writtenWindows } = .ok rule := by
    refine ofDefinition_eq_ok_iff.2 ⟨(timesOf_interval_iff (by decide)).2 ?_, rfl, rfl, rfl⟩
    exact ⟨readWindows, hread, rfl, htimes.symm⟩
  obtain ⟨hexact, hsearchable⟩ := times_exact_and_searchable
  exact ⟨hread, (hexact 4294967295 hread).2, htimes, rule, hrule, rfl, hsearchable hrule⟩

end Rule

end FlowScheduler
