import Mathlib
import FlowScheduler.Proofs.Dispatch.Once

/-!
What planning anew puts between the reference and the horizon.

For a schedule in a zone of constant offset that stays out of leap seconds, the launches up to a horizon
are its occurrences after the reference, rounded up to a whole second
(`CompiledSchedule.mem_launchesUntil_iff_occurs`). So planning anew keeps what is not after the reference
and holds exactly these occurrences after it, in whatever order the schedules are visited
(`Planner.recompute_fills_window`).
-/

namespace FlowScheduler

/-! ### One schedule -/

namespace CompiledSchedule

variable {s : CompiledSchedule} {offset : Int} {horizon reference x y : Instant}

/-- Whether a schedule has valid rules, launches at no leap second and keeps to a clock that is never
set. -/
structure IsSteady (s : CompiledSchedule) : Prop where
  rules : s.HasValidRules
  leapFree : s.IsLeapFree
  constant : s.zone.IsConstant s.zone.initial

theorem Occurs.nanos_eq (h : s.Occurs offset x) (hs : s.HasValidRules) (hleap : s.IsLeapFree) :
    x.nanos = 0 := by
  rcases h.isWhole hs with hzero | hsecond
  · exact hzero
  · obtain ⟨r, hr, hx⟩ := h
    have hno := hleap r hr _ hx.mem_times
    simp only [TimeOfDay.isLeapSecond, decide_eq_true_eq] at hno
    exact absurd (Nat.le_of_eq hsecond.symm) hno

/-- The launches up to a horizon of at most 365 days are the occurrences up to it. -/
theorem mem_launchesUntil_iff_occurs (hs : s.HasValidRules) (hleap : s.IsLeapFree)
    (hz : s.zone.IsConstant offset) (hr : reference.inCalendar)
    (hcal : (reference.ceilSecond.shownAt offset).date.inCalendar)
    (hyear : horizon.second ≤ reference.second + 365 * 86400) :
    y ∈ s.launchesUntil horizon reference ↔
      s.Occurs offset y ∧ reference.ceilSecond < y ∧ y ≤ horizon := by
  fun_induction launchesUntil s horizon reference with
  | case1 reference hnone =>
    constructor
    · intro hmem
      cases hmem
    · rintro ⟨hy, hlt, hle⟩
      rw [Instant.le_iff] at hle
      obtain ⟨x, hx, -⟩ := next?_le_of_occurs hs hz hr hcal hy hlt (by omega)
      rw [hnone] at hx
      cases hx
  | case2 reference x hx hle hdec ih =>
    obtain ⟨hocc, hxlt⟩ := occurs_of_next? hs hz hr hcal hx
    have hceil := Instant.ceilSecond_of_nanos (hocc.nanos_eq hs hleap)
    have hgt := next?_gt hx
    have hyear' : horizon.second ≤ x.second + 365 * 86400 := by
      rw [Instant.lt_iff] at hgt
      omega
    have ih := ih hocc.inCalendar (by rw [hceil]; exact hocc.shown_inCalendar) hyear'
    rw [List.mem_cons, ih, hceil]
    constructor
    · rintro (rfl | ⟨hy, hlt, hyle⟩)
      · exact ⟨hocc, hxlt, hle⟩
      · exact ⟨hy, Instant.lt_trans hxlt hlt, hyle⟩
    · rintro ⟨hy, hlt, hyle⟩
      have hsecond := Instant.le_iff.1 hyle
      obtain ⟨x', hx', hle'⟩ := next?_le_of_occurs hs hz hr hcal hy hlt (by omega)
      rw [hx] at hx'
      cases hx'
      rcases Instant.lt_or_eq_of_le hle' with hxy | rfl
      · exact .inr ⟨hy, hxy, hyle⟩
      · exact .inl rfl
  | case3 reference x hx hnle =>
    constructor
    · intro hmem
      cases hmem
    · rintro ⟨hy, hlt, hyle⟩
      have hsecond := Instant.le_iff.1 hyle
      obtain ⟨x', hx', hle'⟩ := next?_le_of_occurs hs hz hr hcal hy hlt (by omega)
      rw [hx] at hx'
      cases hx'
      exact absurd (Instant.le_trans hle' hyle) hnle

/-- The search for launches takes at most one step for each second. -/
theorem length_launchesUntil_le (hs : s.HasValidRules) (hleap : s.IsLeapFree)
    (hz : s.zone.IsConstant offset) (hr : reference.inCalendar)
    (hcal : (reference.ceilSecond.shownAt offset).date.inCalendar) (horizon : Instant) :
    ((s.launchesUntil horizon reference).length : Int) ≤
      max 0 (horizon.second - reference.ceilSecond.second) := by
  fun_induction launchesUntil s horizon reference with
  | case1 => simp
  | case2 reference x hx hle hdec ih =>
    obtain ⟨hocc, hxlt⟩ := occurs_of_next? hs hz hr hcal hx
    have hnanos := hocc.nanos_eq hs hleap
    have hceil := Instant.ceilSecond_of_nanos hnanos
    have ih := ih hocc.inCalendar (by rw [hceil]; exact hocc.shown_inCalendar)
    rw [hceil] at ih
    rw [Instant.lt_iff, Instant.ceilSecond_nanos, hnanos] at hxlt
    rw [Instant.le_iff] at hle
    rw [List.length_cons, Nat.cast_succ]
    omega
  | case3 => simp

end CompiledSchedule

/-! ### The planned launches -/

theorem Instant.addNanos_second {i : Instant} (h : i.nanos < nanosPerSecond) (n : Int) :
    (i.addNanos n).second = i.second + (i.nanos + n) / 1000000000 := by
  have hnanos : i.nanos < 1000000000 := h
  have hparts := Int.mul_tdiv_add_tmod n 1000000000
  simp only [addNanos, if_pos hnanos, carried]
  omega

namespace Lookahead

theorem ext {l m : Lookahead} (h : l.entries = m.entries) : l = m := by
  cases l
  cases m
  cases h
  rfl

variable {reference : Instant} {scheduleId : Int} {fs : List PlannedLaunch} {is : List Instant}

/-- Launches that are merged in after a reference leave what is not after it as it was. -/
theorem filter_merge (h : ∀ i ∈ is, reference < i) :
    (merge scheduleId fs is).filter (·.instant ≤ reference) = fs.filter (·.instant ≤ reference) := by
  fun_induction merge scheduleId fs is with
  | case1 => rfl
  | case2 is =>
    have hnone : ∀ e ∈ is.map (PlannedLaunch.mk · scheduleId), ¬(e.instant ≤ reference) := by
      intro e he
      obtain ⟨i, hi, rfl⟩ := List.mem_map.1 he
      exact Instant.not_le.2 (h i hi)
    simpa using hnone
  | case3 fs i is ih =>
    have ih := ih fun j hj => h j (List.mem_cons_of_mem _ hj)
    rw [List.filter_cons, List.filter_cons, ih]
  | case4 f fs i is _ _ ih => rw [List.filter_cons, List.filter_cons, ih h]
  | case5 f fs i is _ _ ih =>
    have hi : ¬(i ≤ reference) := Instant.not_le.2 (h i List.mem_cons_self)
    rw [List.filter_cons_of_neg (by simpa using hi), ih fun j hj => h j (List.mem_cons_of_mem _ hj)]

end Lookahead

namespace Planner

variable {p : Planner} {reference horizon : Instant} {e : PlannedLaunch}

/-- The lookahead with the launches of schedules up to a horizon, visited one after the other. -/
def fill (horizon reference : Instant) (schedules : List CompiledSchedule) (l : Lookahead) : Lookahead :=
  schedules.foldl (fun l s => l.addAll s.id _ (s.launchesUntil_pairwise horizon reference)) l

theorem recompute_launches : (p.recompute reference).launches =
    fill (reference.addNanos p.lookaheadNanos) reference p.cache.schedules.values
      (p.launches.dropAfter reference) := rfl

theorem mem_fill {schedules : List CompiledSchedule} {l : Lookahead} :
    e ∈ fill horizon reference schedules l ↔
      (∃ s ∈ schedules, e.scheduleId = s.id ∧ e.instant ∈ s.launchesUntil horizon reference) ∨
        e ∈ l := mem_foldl_addAll

theorem filter_fill {schedules : List CompiledSchedule} {l : Lookahead} :
    (fill horizon reference schedules l).entries.filter (·.instant ≤ reference) =
      l.entries.filter (·.instant ≤ reference) := by
  induction schedules generalizing l with
  | nil => rfl
  | cons s schedules ih =>
    have hlater : ∀ i ∈ s.launchesUntil horizon reference, reference < i :=
      fun _ => CompiledSchedule.lt_of_mem_launchesUntil
    rw [fill, List.foldl_cons, ← fill, ih, Lookahead.addAll, Lookahead.filter_merge hlater]

/-- Out of leap seconds, what is dropped is what comes after the reference. -/
theorem dropAfter_entries {l : Lookahead} (h : ∀ e ∈ l, e.instant.nanos < nanosPerSecond) :
    (l.dropAfter reference).entries = l.entries.filter (·.instant ≤ reference) := by
  refine List.filter_congr fun e he => ?_
  rw [Bool.eq_iff_iff, Lookahead.isDue_iff (h e he), decide_eq_true_eq]

/-- What planning anew from a reference is taken to work on: steady schedules, a lookahead of at most
365 days, and instants of the calendar out of leap seconds. -/
structure PlansSteadily (p : Planner) (reference : Instant) : Prop where
  steady : ∀ s ∈ p.cache.schedules.values, s.IsSteady
  lookahead : p.lookaheadNanos ≤ 365 * 86400 * 1000000000
  launches : ∀ e ∈ p.launches, e.instant.nanos < nanosPerSecond
  nanos_lt : reference.nanos < nanosPerSecond
  inCalendar : reference.inCalendar
  shown_inCalendar : ∀ s ∈ p.cache.schedules.values,
    (reference.ceilSecond.shownAt s.zone.initial).date.inCalendar

variable (h : p.PlansSteadily reference)
include h

theorem PlansSteadily.mem_recompute_iff (he : reference < e.instant) :
    e ∈ (p.recompute reference).launches ↔
      ∃ s ∈ p.cache.schedules.values, e.scheduleId = s.id ∧ s.Occurs s.zone.initial e.instant ∧
        reference.ceilSecond < e.instant ∧ e.instant ≤ reference.addNanos p.lookaheadNanos := by
  have hyear : (reference.addNanos p.lookaheadNanos).second ≤ reference.second + 365 * 86400 := by
    have hnanos : reference.nanos < 1000000000 := h.nanos_lt
    have hlookahead := h.lookahead
    rw [Instant.addNanos_second h.nanos_lt]
    omega
  have hkept : ¬(e ∈ p.launches ∧ Lookahead.isDue reference e) := by
    rintro ⟨hmem, hdue⟩
    rw [Lookahead.isDue_iff (h.launches e hmem)] at hdue
    exact Instant.not_le.2 he hdue
  rw [mem_recompute, or_iff_left hkept, Plans]
  refine exists_congr fun s => and_congr_right fun hs => and_congr_right fun _ => ?_
  obtain ⟨hrules, hleap, hz⟩ := h.steady s hs
  exact CompiledSchedule.mem_launchesUntil_iff_occurs hrules hleap hz h.inCalendar
    (h.shown_inCalendar s hs) hyear

theorem PlansSteadily.filter_recompute :
    (p.recompute reference).launches.entries.filter (·.instant ≤ reference) =
      p.launches.entries.filter (·.instant ≤ reference) := by
  rw [recompute_launches, filter_fill, dropAfter_entries h.launches, List.filter_filter]
  simp only [Bool.and_self]

/-- No launch in a leap second is planned. -/
theorem PlansSteadily.nanos_lt_of_mem (he : e ∈ (p.recompute reference).launches) :
    e.instant.nanos < nanosPerSecond := by
  rcases mem_recompute.1 he with ⟨s, hs, -, hmem⟩ | ⟨hmem, -⟩
  · exact (h.steady s hs).leapFree.nanos_lt hmem
  · exact h.launches e hmem

/-- Planning anew twice from one reference is planning anew once. -/
theorem PlansSteadily.recompute_recompute :
    (p.recompute reference).recompute reference = p.recompute reference := by
  have hentries : ((p.recompute reference).launches.dropAfter reference).entries =
      (p.launches.dropAfter reference).entries := by
    rw [dropAfter_entries fun e => h.nanos_lt_of_mem, dropAfter_entries h.launches, h.filter_recompute]
  have hdrop : (p.recompute reference).launches.dropAfter reference =
      p.launches.dropAfter reference := Lookahead.ext hentries
  have hlaunches : ((p.recompute reference).recompute reference).launches =
      (p.recompute reference).launches := by
    rw [recompute_launches]
    exact congrArg (fill (reference.addNanos p.lookaheadNanos) reference p.cache.schedules.values) hdrop
  exact congrArg (fun l => { p.recompute reference with launches := l }) hlaunches

/-- Each schedule takes at most one step for each second of the lookahead. -/
theorem PlansSteadily.length_launchesUntil_le {s : CompiledSchedule}
    (hs : s ∈ p.cache.schedules.values) :
    ((s.launchesUntil (reference.addNanos p.lookaheadNanos) reference).length : Int) ≤
      max 0 (p.lookaheadNanos / 1000000000) := by
  obtain ⟨hrules, hleap, hz⟩ := h.steady s hs
  have hlength := CompiledSchedule.length_launchesUntil_le hrules hleap hz h.inCalendar
    (h.shown_inCalendar s hs) (reference.addNanos p.lookaheadNanos)
  have hnanos : reference.nanos < 1000000000 := h.nanos_lt
  rw [Instant.addNanos_second h.nanos_lt, Instant.ceilSecond_second] at hlength
  split at hlength <;> omega

omit h

/-- Planning anew leaves what is not after the reference as it was and holds, after it, exactly the
occurrences of each schedule after the reference, rounded up, and not after the horizon, each once. The
order in which the schedules are visited does not matter, doing it again changes nothing, and each
schedule takes at most one step for each second of the lookahead. -/
theorem recompute_fills_window {p : Planner} {reference : Instant} (h : p.PlansSteadily reference) :
    let q := p.recompute reference
    let horizon := reference.addNanos p.lookaheadNanos
    q.launches.entries.filter (·.instant ≤ reference) =
        p.launches.entries.filter (·.instant ≤ reference) ∧
      (∀ e : PlannedLaunch, reference < e.instant → (e ∈ q.launches ↔
        ∃ s ∈ p.cache.schedules.values, e.scheduleId = s.id ∧ s.Occurs s.zone.initial e.instant ∧
          reference.ceilSecond < e.instant ∧ e.instant ≤ horizon)) ∧
      q.launches.entries.Nodup ∧
      (∀ order : List CompiledSchedule, order.Perm p.cache.schedules.values → ∀ e,
        e ∈ fill horizon reference order (p.launches.dropAfter reference) ↔ e ∈ q.launches) ∧
      q.recompute reference = q ∧
      ∀ s ∈ p.cache.schedules.values,
        ((s.launchesUntil horizon reference).length : Int) ≤ max 0 (p.lookaheadNanos / 1000000000) := by
  intro q horizon
  refine ⟨h.filter_recompute, fun e he => h.mem_recompute_iff he, q.launches.nodup,
    fun order horder e => ?_, h.recompute_recompute, fun s hs => h.length_launchesUntil_le hs⟩
  rw [recompute_launches, mem_fill, mem_fill]
  simp only [horizon, horder.mem_iff]

/-! ### Two clocks -/

private def quarterPastNine : TimeOfDay := ((Instant.ofSecond 33301).shownAt 0).time

private def quarterPastTen : TimeOfDay := ((Instant.ofSecond 36901).shownAt 0).time

private def scheduleAt (id : Int) (offset : Int) (t : TimeOfDay) : CompiledSchedule where
  id := id
  name := "daily"
  zone := .fixed "" offset
  rules := [⟨.listed, #[t], .full 12, .full 7, .any⟩]

private def twoClocks : Cache where
  schedules := ((∅ : ById CompiledSchedule).insert 1 (scheduleAt 1 0 quarterPastNine)).insert 2
    (scheduleAt 2 3600 quarterPastTen)

/-- The first of January 2024, so many milliseconds after nine o'clock. -/
private def millisPastNine (millis : Nat) : Instant :=
  { second := 1704099600 + millis / 1000, nanos := millis % 1000 * 1000000 }

/-- A planner with a launch that is due and one that no cached schedule has. -/
private def twoClocksPlanner : Planner where
  lookaheadNanos := 30 * 60 * 1000000000
  viewLimit := 30
  cache := twoClocks
  launches := ((∅ : Lookahead).add ⟨millisPastNine 0, 1⟩).add ⟨millisPastNine 600000, 7⟩
  reference := millisPastNine 0
  refreshAt := millisPastNine 0
  upcoming := []

private theorem isSteady_scheduleAt {id offset : Int} {t : TimeOfDay} (text : String)
    (hsorted : TimeOfDay.ascending [t] = [t])
    (hread : TimeOfDay.listOfText text = .ok (TimeOfDay.ascending [t]))
    (hblank : Text.isAllBlank text = false) (hleap : ¬t.isLeapSecond) :
    (scheduleAt id offset t).IsSteady where
  rules r hr := by
    refine ⟨{ hours := text }, ?_⟩
    cases List.mem_singleton.1 hr
    simp only [Rule.ofDefinition, Rule.timesOf, hread, hsorted, hblank]
    rfl
  leapFree r hr u hu := by
    cases List.mem_singleton.1 hr
    rw [List.mem_singleton.1 (List.mem_toArray.1 hu)]
    exact hleap
  constant := ⟨rfl, rfl⟩

private theorem twoClocksPlanner_plansSteadily :
    twoClocksPlanner.PlansSteadily (millisPastNine 500) where
  steady s hs := by
    rcases List.mem_pair.1 hs with rfl | rfl
    · exact isSteady_scheduleAt "09:15:01" (by cbv) rfl (by decide) (by decide)
    · exact isSteady_scheduleAt "10:15:01" (by cbv) rfl (by decide) (by decide)
  lookahead := by decide
  launches := by decide
  nanos_lt := by decide
  inCalendar := by decide
  shown_inCalendar := by decide

/-- Both clocks show their time at one instant: it is planned for both, the launch without a schedule is
dropped, and the due one stays. -/
theorem recompute_fills_window_on_two_clocks :
    let q := twoClocksPlanner.recompute (millisPastNine 500)
    twoClocksPlanner.PlansSteadily (millisPastNine 500) ∧
      q.launches.entries.filter (·.instant ≤ millisPastNine 500) = [⟨millisPastNine 0, 1⟩] ∧
      ⟨millisPastNine 901000, 1⟩ ∈ q.launches ∧ ⟨millisPastNine 901000, 2⟩ ∈ q.launches ∧
      ⟨millisPastNine 600000, 7⟩ ∉ q.launches ∧ q.recompute (millisPastNine 500) = q := by
  intro q
  obtain ⟨hkept, hfilled, -, -, hagain, -⟩ :=
    recompute_fills_window twoClocksPlanner_plansSteadily
  have hnine : (scheduleAt 1 0 quarterPastNine).Occurs 0 (millisPastNine 901000) :=
    ⟨_, List.mem_singleton.2 rfl, by decide, by decide, by decide, List.mem_toArray.2 (by decide)⟩
  have hten : (scheduleAt 2 3600 quarterPastTen).Occurs 3600 (millisPastNine 901000) :=
    ⟨_, List.mem_singleton.2 rfl, by decide, by decide, by decide, List.mem_toArray.2 (by decide)⟩
  refine ⟨twoClocksPlanner_plansSteadily, hkept, ?_, ?_, ?_, hagain⟩
  · exact (hfilled _ (by decide)).2
      ⟨_, List.mem_pair.2 (.inl rfl), rfl, hnine, by decide, by decide⟩
  · exact (hfilled _ (by decide)).2
      ⟨_, List.mem_pair.2 (.inr rfl), rfl, hten, by decide, by decide⟩
  · intro hmem
    obtain ⟨s, hs, hid, -⟩ := (hfilled _ (by decide)).1 hmem
    rcases List.mem_pair.1 hs with rfl | rfl <;> cases hid

end Planner

end FlowScheduler
