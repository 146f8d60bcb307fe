import Mathlib
import FlowScheduler.Proofs.Dispatch.Punctuality

/-!
Looks at the clock in a fixed beat.

The beat of the clock and the lookahead are checked one by one, never against each other. Every look falls
into the window that was planned last exactly if the beat is not longer than the lookahead
(`Watch.covers_iff`). Then a look finds due what a search up to that very look would have found.
-/

namespace FlowScheduler

namespace Instant

variable {i : Instant} {a b : Int}

/-! ### Going forward

Spans of time that are not negative lead forward alike from every instant: through a leap second while it
lasts, and from its end as if it had been an ordinary second. -/

private theorem tdiv_tmod (ha : 0 ≤ a) :
    a.tdiv 1000000000 = a / 1000000000 ∧ a.tmod 1000000000 = a % 1000000000 :=
  ⟨Int.tdiv_eq_ediv_of_nonneg ha, Int.tmod_eq_emod_of_nonneg ha⟩

theorem addNanos_of_nanos_lt (ha : 0 ≤ a) (h : i.nanos < nanosPerSecond) :
    i.addNanos a = carried i.second (i.nanos + a) := by
  obtain ⟨hdiv, hmod⟩ := tdiv_tmod ha
  rw [nanosPerSecond] at h
  simp only [addNanos, hdiv, hmod, if_pos h, ext_iff, carried]
  omega

/-- A leap second goes on for as long as it lasts. -/
theorem addNanos_within_leap (ha : 0 ≤ a) (h : nanosPerSecond ≤ i.nanos)
    (h' : i.nanos + a < 2000000000) :
    (i.addNanos a).second = i.second ∧ (i.addNanos a).nanos = (i.nanos + a).toNat := by
  obtain ⟨hdiv, hmod⟩ := tdiv_tmod ha
  rw [nanosPerSecond] at h
  have hwithin : ¬(0 < a / 1000000000 ∨
      0 < a % 1000000000 ∧ 2000000000 - a % 1000000000 ≤ (i.nanos : Int)) := by
    omega
  simp only [addNanos, hdiv, hmod, if_neg (Nat.not_lt.2 h), if_neg hwithin,
    if_neg (show ¬a / 1000000000 < 0 by omega)]
  refine ⟨trivial, ?_⟩
  omega

/-- Behind a leap second the time goes on as if the leap second had been an ordinary one. -/
theorem addNanos_behind_leap (ha : 0 ≤ a) (h : nanosPerSecond ≤ i.nanos)
    (h' : 2000000000 ≤ i.nanos + a) : i.addNanos a = carried i.second (i.nanos - 1000000000 + a) := by
  have := i.nanos_lt
  obtain ⟨hdiv, hmod⟩ := tdiv_tmod ha
  rw [nanosPerSecond] at h
  have hbehind : 0 < a / 1000000000 ∨
      0 < a % 1000000000 ∧ 2000000000 - a % 1000000000 ≤ (i.nanos : Int) := by
    omega
  simp only [addNanos, hdiv, hmod, if_neg (Nat.not_lt.2 h), if_pos hbehind, ext_iff, carried]
  omega

theorem carried_nanos_lt (s f : Int) : (carried s f).nanos < nanosPerSecond := by
  simp only [carried, nanosPerSecond]
  omega

theorem addNanos_addNanos (ha : 0 ≤ a) (hb : 0 ≤ b) : (i.addNanos a).addNanos b = i.addNanos (a + b) := by
  have hab := Int.add_nonneg ha hb
  have hcarry (s f : Int) : (carried s f).addNanos b = carried s (f + b) := by
    rw [addNanos_of_nanos_lt hb (carried_nanos_lt s f), ext_iff]
    simp only [carried]
    omega
  rcases Nat.lt_or_ge i.nanos nanosPerSecond with h | h
  · rw [addNanos_of_nanos_lt ha h, addNanos_of_nanos_lt hab h, hcarry, Int.add_assoc]
  · by_cases hfar : 2000000000 ≤ i.nanos + a
    · rw [addNanos_behind_leap ha h hfar, addNanos_behind_leap hab h (by omega), hcarry, Int.add_assoc]
    · obtain ⟨hsecond, hnanos⟩ := addNanos_within_leap ha h (by omega)
      have h₁ : nanosPerSecond ≤ (i.addNanos a).nanos := by omega
      by_cases hfar : 2000000000 ≤ i.nanos + (a + b)
      · rw [addNanos_behind_leap hb h₁ (by omega), addNanos_behind_leap hab h hfar, hsecond, ext_iff]
        simp only [carried]
        omega
      · obtain ⟨hsecond', hnanos'⟩ := addNanos_within_leap hb h₁ (by omega)
        obtain ⟨hsecond'', hnanos''⟩ := addNanos_within_leap hab h (by omega)
        rw [ext_iff]
        omega

theorem addNanos_lt_addNanos (ha : 0 ≤ a) (hab : a < b) : i.addNanos a < i.addNanos b := by
  have hb : 0 ≤ b := by omega
  rcases Nat.lt_or_ge i.nanos nanosPerSecond with h | h
  · rw [addNanos_of_nanos_lt ha h, addNanos_of_nanos_lt hb h, lt_iff]
    simp only [carried]
    omega
  · by_cases hfar : 2000000000 ≤ i.nanos + a
    · rw [addNanos_behind_leap ha h hfar, addNanos_behind_leap hb h (by omega), lt_iff]
      simp only [carried]
      omega
    · obtain ⟨hsecond, hnanos⟩ := addNanos_within_leap ha h (by omega)
      by_cases hfar : 2000000000 ≤ i.nanos + b
      · rw [addNanos_behind_leap hb h hfar, lt_iff, hsecond]
        simp only [carried]
        omega
      · obtain ⟨hsecond', hnanos'⟩ := addNanos_within_leap hb h (by omega)
        rw [lt_iff]
        omega

theorem addNanos_zero : i.addNanos 0 = i := by
  have := i.nanos_lt
  rcases Nat.lt_or_ge i.nanos nanosPerSecond with h | h
  · rw [addNanos_of_nanos_lt (Int.le_refl 0) h, ext_iff]
    simp only [nanosPerSecond] at h
    simp only [carried]
    omega
  · obtain ⟨hsecond, hnanos⟩ := addNanos_within_leap (Int.le_refl 0) h (by omega)
    rw [ext_iff]
    omega

theorem addNanos_le_addNanos_iff (ha : 0 ≤ a) (hb : 0 ≤ b) : i.addNanos a ≤ i.addNanos b ↔ a ≤ b := by
  constructor
  · intro hle
    by_contra hlt
    exact lt_irrefl _ (lt_of_lt_of_le (addNanos_lt_addNanos hb (Int.not_le.1 hlt)) hle)
  · intro hle
    rcases Int.lt_or_eq_of_le hle with hlt | rfl
    · exact le_of_lt (addNanos_lt_addNanos ha hlt)
    · exact le_refl _

theorem addNanos_neg_lt (ha : 0 < a) : i.addNanos (-a) < i := by
  have := i.nanos_lt
  obtain ⟨hdiv, hmod⟩ := tdiv_tmod (Int.le_of_lt ha)
  rw [lt_iff]
  simp only [addNanos, Int.neg_tdiv, Int.neg_tmod, hdiv, hmod]
  split
  · simp only [carried]
    omega
  · split
    · omega
    · split
      · simp only [carried]
        omega
      · refine .inr ⟨rfl, ?_⟩
        simp only
        omega

end Instant

/-- Whether a search from one instant to another finds a launch for one of the cached schedules. -/
def Cache.Finds (c : Cache) (reference last : Instant) (e : PlannedLaunch) : Prop :=
  ∃ s ∈ c.schedules.values, e.scheduleId = s.id ∧ e.instant ∈ s.launchesUntil last reference

namespace SchedulerSettings

/-- The nanoseconds between two looks at the clock. -/
def tickNanos (s : SchedulerSettings) : Int := s.tickIntervalMs * 1000000

/-- The instant of a look: the first one is at the start. -/
def lookAt (s : SchedulerSettings) (start : Instant) (n : Nat) : Instant := start.addNanos (n * s.tickNanos)

end SchedulerSettings

/-- A planner and the reference of its last planning. -/
structure Watch where
  planner : Planner
  planned : Instant

namespace Watch

variable {settings : SchedulerSettings} {cache : Cache} {start now : Instant} {n : Nat}

/-- A look at the clock, at which the planner may plan anew. -/
def look (w : Watch) (now : Instant) : Watch where
  planner := (w.planner.tick now).1
  planned := if w.planner.refreshAt ≤ now then now else w.planned

/-- A planner that has planned at the start and looked at the clock so many times since, in the beat of its
settings. -/
def after (settings : SchedulerSettings) (cache : Cache) (start : Instant) : Nat → Watch
  | 0 => ⟨.ofCache settings cache start, start⟩
  | n + 1 => (after settings cache start n).look (settings.lookAt start n)

/-- Before each look the planner holds what it planned at an earlier one and what has not been due since. -/
structure IsPaced (w : Watch) (settings : SchedulerSettings) (cache : Cache) (start : Instant)
    (n : Nat) : Prop where
  cache_eq : w.planner.cache = cache
  lookaheadNanos_eq : w.planner.lookaheadNanos = settings.lookaheadNanos
  reference_eq : w.planner.reference = settings.lookAt start (n - 1)
  exists_look : ∃ k ≤ n - 1, w.planned = settings.lookAt start k
  fresh : w.planner.Fresh w.planned

theorem lookAt_zero : settings.lookAt start 0 = start := by
  rw [SchedulerSettings.lookAt, Int.natCast_zero, Int.zero_mul, Instant.addNanos_zero]

theorem planned_after_one : (after settings cache start 1).planned = start := by
  simp only [after, look, lookAt_zero, ite_self]

theorem tickNanos_nonneg : 0 ≤ settings.tickNanos :=
  Int.mul_nonneg (Int.natCast_nonneg _) (by decide)

theorem offset_nonneg (settings : SchedulerSettings) (n : Nat) : 0 ≤ n * settings.tickNanos :=
  Int.mul_nonneg (Int.natCast_nonneg n) tickNanos_nonneg

theorem lookAt_addNanos {a : Int} (ha : 0 ≤ a) :
    (settings.lookAt start n).addNanos a = start.addNanos (n * settings.tickNanos + a) :=
  Instant.addNanos_addNanos (offset_nonneg settings n) ha

theorem lookAt_le_iff {a : Int} (ha : 0 ≤ a) :
    settings.lookAt start n ≤ start.addNanos a ↔ n * settings.tickNanos ≤ a :=
  Instant.addNanos_le_addNanos_iff (offset_nonneg settings n) ha

theorem lookAt_lt_iff {a : Int} (ha : 0 ≤ a) :
    settings.lookAt start n < start.addNanos a ↔ n * settings.tickNanos < a := by
  rw [← Instant.not_le, SchedulerSettings.lookAt,
    Instant.addNanos_le_addNanos_iff ha (offset_nonneg settings n), Int.not_le]

theorem lookAt_mono {k n : Nat} (h : k ≤ n) : settings.lookAt start k ≤ settings.lookAt start n := by
  apply (lookAt_le_iff (offset_nonneg settings n)).2
  exact Int.mul_le_mul_of_nonneg_right (Int.ofNat_le.2 h) tickNanos_nonneg

theorem isPaced_zero (hhalf : 0 < settings.lookaheadNanos / 2) :
    (after settings cache start 0).IsPaced settings cache start 0 where
  cache_eq := rfl
  lookaheadNanos_eq := rfl
  reference_eq := lookAt_zero.symm
  exists_look := ⟨0, Nat.le_refl _, lookAt_zero.symm⟩
  fresh := by
    apply Planner.fresh_ofCache_of_lt
    have := Instant.addNanos_lt_addNanos (i := start) (Int.le_refl 0) hhalf
    rwa [Instant.addNanos_zero] at this

theorem IsPaced.look {w : Watch} (h : w.IsPaced settings cache start n)
    (hhalf : 0 < settings.lookaheadNanos / 2) :
    (w.look (settings.lookAt start n)).IsPaced settings cache start (n + 1) where
  cache_eq := by
    rw [Watch.look, Planner.tick_cache]
    exact h.cache_eq
  lookaheadNanos_eq := by
    rw [Watch.look, Planner.tick_lookaheadNanos]
    exact h.lookaheadNanos_eq
  reference_eq := by
    rw [Watch.look, Planner.tick_reference, Nat.add_sub_cancel]
  exists_look := by
    obtain ⟨k, hk, hplanned⟩ := h.exists_look
    simp only [Watch.look, Nat.add_sub_cancel]
    split
    · exact ⟨n, Nat.le_refl n, rfl⟩
    · exact ⟨k, by omega, hplanned⟩
  fresh := by
    apply h.fresh.tick_of_lt
    · rw [h.reference_eq]
      exact lookAt_mono (Nat.sub_le n 1)
    · have hoffset := offset_nonneg settings n
      rw [h.lookaheadNanos_eq, lookAt_addNanos (Int.le_of_lt hhalf), lookAt_lt_iff (by omega)]
      omega

theorem isPaced_after (hhalf : 0 < settings.lookaheadNanos / 2) (n : Nat) :
    (after settings cache start n).IsPaced settings cache start n := by
  induction n with
  | zero => exact isPaced_zero hhalf
  | succ n ih => exact ih.look hhalf

/-- A beat that is not longer than the lookahead never leaves the window: one step goes at most as far as
the lookahead, and if there were several since the last planning, they took less than half of it, so that
one more takes less than the other half. -/
theorem IsPaced.lookAt_le {w : Watch} (h : w.IsPaced settings cache start n)
    (hhalf : 0 < settings.lookaheadNanos / 2) (hbeat : settings.tickNanos ≤ settings.lookaheadNanos) :
    settings.lookAt start n ≤ w.planned.addNanos settings.lookaheadNanos := by
  obtain ⟨k, hk, hplanned⟩ := h.exists_look
  have hoffset := offset_nonneg settings k
  have hearly := h.fresh.early
  rw [h.fresh.refreshAt, h.reference_eq, h.lookaheadNanos_eq, hplanned,
    lookAt_addNanos (Int.le_of_lt hhalf), lookAt_lt_iff (by omega)] at hearly
  rw [hplanned, lookAt_addNanos (by omega), lookAt_le_iff (by omega)]
  cases n with
  | zero => omega
  | succ n =>
    obtain ⟨m, rfl⟩ := Nat.exists_eq_add_of_le hk
    simp only [Nat.add_sub_cancel, Int.natCast_add, Int.add_mul, Int.natCast_one, Int.one_mul] at hearly ⊢
    rcases Nat.eq_zero_or_pos m with rfl | hm
    · omega
    · have hone : 1 * settings.tickNanos ≤ m * settings.tickNanos :=
        Int.mul_le_mul_of_nonneg_right (by omega) tickNanos_nonneg
      omega

/-- At a look within the window the planner finds due what it would find by a search up to the look. -/
theorem IsPaced.mem_due_iff {w : Watch} (h : w.IsPaced settings cache start n)
    (hle : now ≤ w.planned.addNanos settings.lookaheadNanos) {e : PlannedLaunch}
    (he : e.instant.nanos < nanosPerSecond) : e ∈ w.planner.launches.due now ↔
      settings.lookAt start (n - 1) < e.instant ∧ cache.Finds w.planned now e := by
  rw [Lookahead.mem_due, h.fresh.mem_launches e he, Lookahead.isDue_iff he, Planner.Plans,
    h.cache_eq, h.lookaheadNanos_eq, h.reference_eq, Cache.Finds]
  constructor
  · rintro ⟨⟨⟨s, hs, hid, hmem⟩, hlt⟩, hdue⟩
    exact ⟨hlt, s, hs, hid, (CompiledSchedule.mem_launchesUntil_iff_of_le hle).2 ⟨hmem, hdue⟩⟩
  · rintro ⟨hlt, s, hs, hid, hmem⟩
    obtain ⟨hmem, hdue⟩ := (CompiledSchedule.mem_launchesUntil_iff_of_le hle).1 hmem
    exact ⟨⟨⟨s, hs, hid, hmem⟩, hlt⟩, hdue⟩

/-- Every look of a planner with valid settings falls into the window that was planned last, and finds due, of
the launches outside leap seconds, those that a search from the last planning to the look finds after the look
before, exactly if the beat of the clock is not longer than the lookahead. -/
theorem covers_iff (cache : Cache) (start : Instant) (hvalid : settings.fault? = none) :
    (∀ n, let w := after settings cache start n
      let now := settings.lookAt start n
      now ≤ w.planned.addNanos settings.lookaheadNanos ∧
      ∀ e : PlannedLaunch, e.instant.nanos < nanosPerSecond → (e ∈ w.planner.launches.due now ↔
        settings.lookAt start (n - 1) < e.instant ∧ cache.Finds w.planned now e)) ↔
      settings.tickNanos ≤ settings.lookaheadNanos := by
  constructor
  · intro h
    have hstart : start ≤ start.addNanos settings.lookaheadNanos := by
      have hfirst := (h 0).1
      rwa [lookAt_zero] at hfirst
    have hnonneg : 0 ≤ settings.lookaheadNanos := by
      by_contra hneg
      have hback := Instant.addNanos_neg_lt (i := start) (Int.neg_pos.2 (Int.not_le.1 hneg))
      rw [Int.neg_neg] at hback
      exact Instant.lt_irrefl _ (Instant.lt_of_le_of_lt hstart hback)
    have hnext := (h 1).1
    rw [planned_after_one, lookAt_le_iff hnonneg] at hnext
    omega
  · intro hbeat n w now
    have htick : 0 < settings.tickNanos := by
      have := (SchedulerSettings.fault?_eq_none_iff.1 hvalid).1
      exact Int.mul_pos (by omega) (by decide)
    have hhalf : 0 < settings.lookaheadNanos / 2 := by
      rw [SchedulerSettings.lookaheadNanos] at hbeat ⊢
      omega
    have hpaced : w.IsPaced settings cache start n := isPaced_after hhalf n
    have hle := hpaced.lookAt_le hhalf hbeat
    exact ⟨hle, fun e he => hpaced.mem_due_iff hle he⟩

/-! ### A beat of five minutes -/

private def threePast : TimeOfDay := ((Instant.ofSecond 32580).shownAt 0).time

private def atThreePast : CompiledSchedule where
  id := 1
  name := "daily"
  zone := .fixed "UTC" 0
  rules := [⟨.listed, #[threePast], .full 12, .full 7, .any⟩]

private def threePastOnly : Cache := { schedules := (∅ : ById CompiledSchedule).insert 1 atThreePast }

private theorem atThreePast_hasValidRules : atThreePast.HasValidRules := by
  intro r hr
  have hsorted : TimeOfDay.ascending [threePast] = [threePast] := by cbv
  have hread : TimeOfDay.listOfText "09:03:00" = .ok (TimeOfDay.ascending [threePast]) := rfl
  refine ⟨{ hours := "09:03:00" }, ?_⟩
  cases List.mem_singleton.1 hr
  simp only [Rule.ofDefinition, Rule.timesOf, hread, hsorted]
  rfl

/-- The first of January 2024, so many minutes after nine o'clock. -/
private def pastNine (minutes : Int) : Instant := .ofSecond (1704099600 + minutes * 60)

private theorem atThreePast_occurs : atThreePast.Occurs 0 (pastNine 3) := by
  refine ⟨_, List.mem_singleton.2 rfl, ?_, ?_, ?_, ?_⟩
  · decide
  · decide
  · decide
  · exact List.mem_toArray.2 (List.mem_singleton.2 rfl)

private theorem not_atThreePast_occurs : ¬atThreePast.Occurs 0 (pastNine 3).leapBefore := by
  rintro ⟨r, hr, hocc⟩
  cases List.mem_singleton.1 hr
  have htime := List.mem_singleton.1 (List.mem_toArray.1 hocc.mem_times)
  exact absurd htime (by decide)

private theorem threePast_mem {reference last : Instant} (hcal : reference.inCalendar)
    (hfrom : reference.ceilSecond < pastNine 3) (hlast : pastNine 3 ≤ last)
    (hyear : 1704067200 ≤ reference.second) :
    pastNine 3 ∈ atThreePast.launchesUntil last reference := by
  have huniversal : atThreePast.zone.IsConstant 0 := ⟨rfl, rfl⟩
  apply (CompiledSchedule.mem_launchesUntil_iff atThreePast_hasValidRules huniversal hcal ?_
    atThreePast_occurs rfl hlast ?_).2
  · exact ⟨hfrom, not_atThreePast_occurs⟩
  · simpa [Instant.inCalendar, Instant.date, LocalTime.date, Instant.shownAt] using hcal
  · simp only [pastNine, Instant.ofSecond]
    omega

/-- A beat of a minute stays within a window of two minutes, and the launch is due in its minute. -/
theorem covers_iff_minutely :
    let settings : SchedulerSettings := { tickIntervalMs := 60000, lookaheadMinutes := 2 }
    let w := after settings threePastOnly (pastNine 0) 3
    settings.fault? = none ∧ settings.tickNanos ≤ settings.lookaheadNanos ∧
      ⟨pastNine 3, atThreePast.id⟩ ∈ w.planner.launches.due (settings.lookAt (pastNine 0) 3) := by
  intro settings w
  have hvalid : settings.fault? = none := by decide
  have hbeat : settings.tickNanos ≤ settings.lookaheadNanos := by decide
  have hplanned : w.planned = pastNine 2 := by decide
  have hcovers := (covers_iff threePastOnly (pastNine 0) hvalid).2 hbeat 3
  refine ⟨hvalid, hbeat, (hcovers.2 _ (by decide)).2 ⟨by decide, atThreePast, ?_, rfl, ?_⟩⟩
  · exact List.mem_singleton.2 rfl
  rw [hplanned]
  exact threePast_mem (by decide) (by decide) (by decide) (by decide)

/-- In a beat of five minutes the looks come behind a window of two minutes, and the launch between two of
them is never due. -/
theorem launch_skipped_behind_horizon :
    let settings : SchedulerSettings := { tickIntervalMs := 300000, lookaheadMinutes := 2 }
    let start := pastNine 0
    let now := settings.lookAt start 1
    let e : PlannedLaunch := ⟨pastNine 3, atThreePast.id⟩
    settings.fault? = none ∧ threePastOnly.schedules.values = [atThreePast] ∧ now = pastNine 5 ∧
      ¬now ≤ (after settings threePastOnly start 1).planned.addNanos settings.lookaheadNanos ∧
      threePastOnly.Finds start now e ∧
      ∀ n, e ∉ (after settings threePastOnly start n).planner.launches.due (settings.lookAt start n) := by
  intro settings start now e
  have hhalf : 0 < settings.lookaheadNanos / 2 := by decide
  have hmem : pastNine 3 ∈ atThreePast.launchesUntil now start :=
    threePast_mem (by decide) (by decide) (by decide) (by decide)
  refine ⟨by decide, rfl, by decide, by rw [planned_after_one]; decide,
    ⟨atThreePast, List.mem_singleton.2 rfl, rfl, hmem⟩, fun n hdue => ?_⟩
  have hpaced : (after settings threePastOnly start n).IsPaced settings threePastOnly start n :=
    isPaced_after hhalf n
  obtain ⟨k, -, hplanned⟩ := hpaced.exists_look
  obtain ⟨hplans, -⟩ := (hpaced.fresh.mem_launches e (by decide)).1 (Lookahead.mem_due.1 hdue).1
  rcases Nat.eq_zero_or_pos k with rfl | hk
  · -- The window that was planned at the start ends before the launch.
    obtain ⟨s, -, -, hmem⟩ := hplans
    have hle := CompiledSchedule.le_of_mem_launchesUntil hmem
    rw [hplanned, lookAt_zero, hpaced.lookaheadNanos_eq] at hle
    exact absurd hle (by decide)
  · -- All later windows begin behind it.
    have hlt := hplans.lt
    rw [hplanned] at hlt
    have hfirst := Instant.lt_of_le_of_lt (lookAt_mono hk) hlt
    exact absurd hfirst (by decide)

end Watch

end FlowScheduler
