import Mathlib
import FlowScheduler.Dispatch.Planner
import FlowScheduler.Proofs.Recurrence.ConstantOffset

/-!
The launches between a reference and a horizon.

Each is found from the one before, so an occurrence is missing exactly if the search for it started too
late: from the reference itself, less than a second before it, or from a launch in the leap second right
before it (`CompiledSchedule.mem_launchesUntil_iff`).
-/

namespace FlowScheduler

namespace Instant

theorem lt_or_eq_of_le {i j : Instant} (h : i ≤ j) : i < j ∨ i = j := by
  rw [le_iff] at h
  rw [lt_iff, ext_iff]
  omega

/-- The leap second that may be inserted right before a whole second. -/
def leapBefore (i : Instant) : Instant where
  second := i.second - 1
  nanos := nanosPerSecond
  nanos_lt := by decide

end Instant

namespace CompiledSchedule

variable {s : CompiledSchedule} {offset : Int} {horizon near reference x y : Instant}

private theorem ceilSecond_inCalendar (hr : (reference.shownAt offset).date.inCalendar)
    (hy : (y.shownAt offset).date.inCalendar) (hwhole : y.nanos = 0) (hlt : reference < y) :
    (reference.ceilSecond.shownAt offset).date.inCalendar := by
  have hle := Instant.le_ceilSecond reference
  have hge := Instant.ceilSecond_le_of_lt hlt hwhole
  rw [Instant.le_iff] at hle hge
  rw [Date.inCalendar_iff] at hr hy ⊢
  simp only [LocalTime.date, Instant.shownAt] at hr hy ⊢
  omega

/-- A search that starts before a whole second finds it from there, unless it starts in the leap second
right before it. -/
private theorem ceilSecond_lt_or_eq (hx : x.IsWhole) (hlt : x < y) (hy : y.nanos = 0) :
    x.ceilSecond < y ∨ x = y.leapBefore := by
  rcases hx with hzero | hleap
  · rw [Instant.ceilSecond_of_nanos hzero]
    exact .inl hlt
  · rcases Instant.lt_or_eq_of_le (Instant.ceilSecond_le_of_lt hlt hy) with hceil | rfl
    · exact .inl hceil
    · have hne : x.nanos ≠ 0 := by simp [hleap, nanosPerSecond]
      refine .inr (Instant.ext_iff.2 ⟨?_, hleap⟩)
      simp only [Instant.leapBefore, Instant.ceilSecond_second, if_neg hne]
      omega

private theorem ceilSecond_lt_leapBefore (h : reference.ceilSecond < y) (hy : y.nanos = 0) :
    reference.ceilSecond < y.leapBefore := by
  rw [Instant.lt_iff] at h ⊢
  simp only [Instant.leapBefore, Instant.ceilSecond_second, Instant.ceilSecond_nanos,
    nanosPerSecond] at h ⊢
  omega

private theorem leapBefore_lt (y : Instant) : y.leapBefore < y := by
  rw [Instant.lt_iff]
  exact .inl (Int.sub_one_lt_of_le (Int.le_refl _))

private theorem next?_le (hs : s.HasValidRules) (hz : s.zone.IsConstant offset)
    (hr : reference.inCalendar) (hshown : (reference.shownAt offset).date.inCalendar)
    (hy : s.Occurs offset y) (hwhole : y.nanos = 0)
    (hyear : y.second ≤ reference.second + 365 * 86400) (hlt : reference.ceilSecond < y) :
    ∃ x ∈ s.next? reference, x ≤ y := by
  have hgt := Instant.lt_of_le_of_lt reference.le_ceilSecond hlt
  have hcal := ceilSecond_inCalendar hshown hy.shown_inCalendar hwhole hgt
  exact next?_le_of_occurs hs hz hr hcal hy hlt hyear

/-- A whole second at which a schedule occurs is among the launches up to a horizon unless it comes
less than a second after the reference or right after a leap second at which the schedule occurs. -/
theorem mem_launchesUntil_iff (hs : s.HasValidRules) (hz : s.zone.IsConstant offset)
    (hr : reference.inCalendar) (hshown : (reference.shownAt offset).date.inCalendar)
    (hy : s.Occurs offset y) (hwhole : y.nanos = 0) (hhor : y ≤ horizon)
    (hyear : y.second ≤ reference.second + 365 * 86400) :
    y ∈ s.launchesUntil horizon reference ↔
      reference.ceilSecond < y ∧ ¬s.Occurs offset y.leapBefore := by
  fun_induction launchesUntil s horizon reference with
  | case1 reference hnone =>
    constructor
    · intro hmem
      cases hmem
    · rintro ⟨hlt, -⟩
      obtain ⟨x, hx, -⟩ := next?_le hs hz hr hshown hy hwhole hyear hlt
      rw [hnone] at hx
      cases hx
  | case2 reference x hx hle hdec ih =>
    have hgt := next?_gt hx
    by_cases hlt : reference < y
    · have hcal := ceilSecond_inCalendar hshown hy.shown_inCalendar hwhole hlt
      obtain ⟨hocc, hxlt⟩ := occurs_of_next? hs hz hr hcal hx
      have hfirst {z : Instant} (hz' : s.Occurs offset z) (hzlt : reference.ceilSecond < z)
          (hzy : z ≤ y) : x ≤ z := by
        rw [Instant.le_iff] at hzy
        obtain ⟨x', hx', hle⟩ := next?_le_of_occurs hs hz hr hcal hz' hzlt (by omega)
        rw [hx] at hx'
        cases hx'
        exact hle
      have hyear' : y.second ≤ x.second + 365 * 86400 := by
        rw [Instant.lt_iff] at hgt
        omega
      have ih := ih hocc.inCalendar hocc.shown_inCalendar hyear'
      rw [List.mem_cons]
      constructor
      · rintro (rfl | hmem)
        · -- An occurrence in the leap second would have been found first.
          refine ⟨hxlt, fun hleap => ?_⟩
          have hle := hfirst hleap (ceilSecond_lt_leapBefore hxlt hwhole)
            (Instant.le_of_lt (leapBefore_lt y))
          exact Instant.lt_irrefl _ (Instant.lt_of_lt_of_le (leapBefore_lt y) hle)
        · obtain ⟨hxy, hno⟩ := ih.1 hmem
          have hmono := Instant.ceilSecond_mono (Instant.le_of_lt hgt)
          exact ⟨Instant.lt_of_le_of_lt hmono hxy, hno⟩
      · rintro ⟨hcy, hno⟩
        rcases Instant.lt_or_eq_of_le (hfirst hy hcy (Instant.le_refl y)) with hxy | rfl
        · rcases ceilSecond_lt_or_eq (hocc.isWhole hs) hxy hwhole with hceil | rfl
          · exact .inr (ih.2 ⟨hceil, hno⟩)
          · exact absurd hocc hno
        · exact .inl rfl
    · constructor
      · intro hmem
        rcases List.mem_cons.1 hmem with rfl | hmem
        · exact absurd hgt hlt
        · exact absurd (Instant.lt_trans hgt (lt_of_mem_launchesUntil hmem)) hlt
      · rintro ⟨hcy, -⟩
        exact absurd (Instant.lt_of_le_of_lt reference.le_ceilSecond hcy) hlt
  | case3 reference x hx hnle =>
    constructor
    · intro hmem
      cases hmem
    · rintro ⟨hlt, -⟩
      obtain ⟨x', hx', hle⟩ := next?_le hs hz hr hshown hy hwhole hyear hlt
      rw [hx] at hx'
      cases hx'
      exact absurd (Instant.le_trans hle hhor) hnle

/-! ### Nearer horizons -/

theorem le_of_mem_launchesUntil (h : x ∈ s.launchesUntil horizon reference) : x ≤ horizon := by
  fun_induction launchesUntil s horizon reference with
  | case1 => cases h
  | case2 reference y hy hle _ ih =>
    rcases List.mem_cons.1 h with rfl | h
    · exact hle
    · exact ih h
  | case3 => cases h

theorem launchesUntil_of_eq_none (h : s.next? reference = none) : s.launchesUntil horizon reference = [] := by
  rw [launchesUntil]
  split
  · rfl
  · next x hx =>
    rw [h] at hx
    cases hx

theorem launchesUntil_of_eq_some (h : s.next? reference = some x) : s.launchesUntil horizon reference =
    if x ≤ horizon then x :: s.launchesUntil horizon x else [] := by
  rw [launchesUntil]
  split
  · next hnone =>
    rw [h] at hnone
    cases hnone
  · next y hy =>
    rw [h] at hy
    cases hy
    rfl

/-- A search that goes further finds the same launches first. -/
theorem mem_launchesUntil_iff_of_le (hle : near ≤ horizon) :
    x ∈ s.launchesUntil near reference ↔ x ∈ s.launchesUntil horizon reference ∧ x ≤ near := by
  fun_induction launchesUntil s horizon reference with
  | case1 reference hnone => simp [launchesUntil_of_eq_none hnone]
  | case2 reference y hy _ _ ih =>
    rw [launchesUntil_of_eq_some hy]
    by_cases hnear : y ≤ near
    · rw [if_pos hnear, List.mem_cons, List.mem_cons, ih]
      constructor
      · rintro (rfl | ⟨hmem, hx⟩)
        · exact ⟨.inl rfl, hnear⟩
        · exact ⟨.inr hmem, hx⟩
      · rintro ⟨rfl | hmem, hx⟩
        · exact .inl rfl
        · exact .inr ⟨hmem, hx⟩
    · -- The search stops here, and what it would have found is later still.
      rw [if_neg hnear]
      constructor
      · intro h
        cases h
      · rintro ⟨hmem, hx⟩
        rcases List.mem_cons.1 hmem with rfl | hmem
        · exact absurd hx hnear
        · exact absurd (Instant.le_trans (Instant.le_of_lt (lt_of_mem_launchesUntil hmem)) hx) hnear
  | case3 reference y hy hfar =>
    rw [launchesUntil_of_eq_some hy, if_neg fun hnear => hfar (Instant.le_trans hnear hle)]
    simp

end CompiledSchedule

/-! ### Looking at the clock -/

/-- Whether each cached schedule stands under its own id. -/
def Cache.IsKeyed (c : Cache) : Prop := ∀ id s, c.schedules.get? id = some s → s.id = id

namespace Instant

theorem addNanos_seconds {i : Instant} (h : i.nanos < nanosPerSecond) (n : Int) :
    i.addNanos (n * 1000000000) = { second := i.second + n, nanos := i.nanos, nanos_lt := i.nanos_lt } := by
  have hnanos : i.nanos < 1000000000 := h
  have hdiv : (n * 1000000000).tdiv 1000000000 = n := Int.mul_tdiv_cancel n (by decide)
  have hmod : (n * 1000000000).tmod 1000000000 = 0 := Int.mul_tmod_left n 1000000000
  refine ext_iff.2 ⟨?_, ?_⟩
  · simp only [addNanos, hdiv, hmod, if_pos hnanos, carried]
    omega
  · simp only [addNanos, hdiv, hmod, if_pos hnanos, carried]
    omega

/-- Whether an instant lies in the leap second right behind the last nanosecond of a second. -/
def FollowsInLeapSecond (j i : Instant) : Prop :=
  j.nanos + 1 = nanosPerSecond ∧ i.second = j.second ∧ nanosPerSecond ≤ i.nanos

theorem FollowsInLeapSecond.lt {i j : Instant} (h : FollowsInLeapSecond j i) : j < i := by
  obtain ⟨hlast, hsecond, hleap⟩ := h
  rw [lt_iff]
  omega

/-- Nothing but a leap second lies between an instant and a nanosecond later. -/
theorem lt_addNanos_one_iff_or {i j : Instant} : i < j.addNanos 1 ↔ i ≤ j ∨ FollowsInLeapSecond j i := by
  have := i.nanos_lt
  have := j.nanos_lt
  have hdiv : (1 : Int).tdiv 1000000000 = 0 := rfl
  have hmod : (1 : Int).tmod 1000000000 = 1 := rfl
  rw [lt_iff, le_iff]
  simp only [FollowsInLeapSecond, nanosPerSecond, addNanos, hdiv, hmod]
  split
  · simp only [carried]
    omega
  · split
    · simp only [carried]
      omega
    · simp only [Int.lt_irrefl, if_false]
      omega

theorem lt_addNanos_one_iff {i j : Instant} (h : i.nanos < nanosPerSecond) : i < j.addNanos 1 ↔ i ≤ j := by
  rw [lt_addNanos_one_iff_or, or_iff_left]
  rintro ⟨-, -, hleap⟩
  omega

end Instant

namespace Lookahead

theorem isDue_iff {now : Instant} {e : PlannedLaunch} (h : e.instant.nanos < nanosPerSecond) :
    isDue now e ↔ e.instant ≤ now := by
  rw [isDue, decide_eq_true_iff]
  exact Instant.lt_addNanos_one_iff h

end Lookahead

namespace Planner

variable {p : Planner} {now reference : Instant} {e : PlannedLaunch}

/-- Whether a launch is planned from a reference on. -/
def Plans (p : Planner) (reference : Instant) (e : PlannedLaunch) : Prop :=
  ∃ s ∈ p.cache.schedules.values, e.scheduleId = s.id ∧
    e.instant ∈ s.launchesUntil (reference.addNanos p.lookaheadNanos) reference

theorem Plans.lt (h : p.Plans reference e) : reference < e.instant := by
  obtain ⟨s, -, -, hmem⟩ := h
  exact CompiledSchedule.lt_of_mem_launchesUntil hmem

/-- A launch of a cached schedule is planned by that schedule. -/
theorem plans_iff (hkeyed : p.cache.IsKeyed) {s : CompiledSchedule}
    (hs : p.cache.schedules.get? s.id = some s) {i : Instant} : p.Plans reference ⟨i, s.id⟩ ↔
      i ∈ s.launchesUntil (reference.addNanos p.lookaheadNanos) reference := by
  constructor
  · rintro ⟨s', hmem, hid, hi⟩
    obtain ⟨id, hs'⟩ := ById.mem_values_iff.1 hmem
    have hid' := hkeyed id s' hs'
    rw [← hid', ← hid, hs] at hs'
    cases hs'
    exact hi
  · intro hi
    exact ⟨s, ById.mem_values_iff.2 ⟨s.id, hs⟩, rfl, hi⟩

theorem mem_foldl_addAll {horizon : Instant} {schedules : List CompiledSchedule}
    {l : Lookahead} :
    e ∈ schedules.foldl
      (fun l s => l.addAll s.id _ (s.launchesUntil_pairwise horizon reference)) l ↔
      (∃ s ∈ schedules, e.scheduleId = s.id ∧ e.instant ∈ s.launchesUntil horizon reference) ∨
        e ∈ l := by
  induction schedules generalizing l with
  | nil => simp
  | cons s schedules ih =>
    rw [List.foldl_cons, ih, Lookahead.mem_addAll]
    simp only [List.mem_cons, or_and_right, exists_or, exists_eq_left, or_assoc, or_left_comm]

theorem mem_recompute : e ∈ (p.recompute reference).launches ↔
    p.Plans reference e ∨ e ∈ p.launches ∧ Lookahead.isDue reference e := by
  rw [recompute, mem_foldl_addAll, Lookahead.dropAfter, Lookahead.mem_filter]
  rfl

@[simp] theorem publish_launches : p.publish.launches = p.launches := rfl

@[simp] theorem tick_cache : (p.tick now).1.cache = p.cache := by
  simp only [tick]
  split <;> rfl

@[simp] theorem tick_lookaheadNanos : (p.tick now).1.lookaheadNanos = p.lookaheadNanos := by
  simp only [tick]
  split <;> rfl

@[simp] theorem tick_reference : (p.tick now).1.reference = now := by
  simp only [tick]
  split <;> rfl

@[simp] theorem tick_plans : (p.tick now).1.Plans reference e ↔ p.Plans reference e := by
  simp [Plans]

theorem tick_refreshAt : (p.tick now).1.refreshAt =
    if p.refreshAt ≤ now then now.addNanos (p.lookaheadNanos / 2) else p.refreshAt := by
  simp only [tick]
  split <;> rfl

/-- A look at the clock keeps what is not due yet or, after half of the lookahead, plans anew. -/
theorem mem_tick : e ∈ (p.tick now).1.launches ↔
    if p.refreshAt ≤ now then p.Plans now e else e ∈ p.launches ∧ ¬Lookahead.isDue now e := by
  simp only [tick]
  split
  · rw [publish_launches, mem_recompute, Lookahead.dropDue, Lookahead.mem_filter]
    constructor
    · rintro (hplans | ⟨⟨-, hnot⟩, hdue⟩)
      · exact hplans
      · simp [hdue] at hnot
    · exact .inl
  · rw [publish_launches, Lookahead.dropDue, Lookahead.mem_filter]
    simp

end Planner

end FlowScheduler
