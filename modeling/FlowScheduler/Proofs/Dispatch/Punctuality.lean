import Mathlib
import FlowScheduler.Proofs.Dispatch.Launches

/-!
When a launch becomes due.

Between two replannings the planner holds what was planned at the last one and has not been due since
(`Planner.Fresh`), and looks that are at most half of the lookahead apart never reach the horizon. So a
launch becomes due at the first look that is not before it, exactly if it was planned: a replanning within
the second before it loses it, and so does a launch in the leap second right before it
(`Planner.mem_pops_iff_spares`).
-/

namespace FlowScheduler

namespace Planner

variable {p : Planner} {planned start now : Instant} {nows : List Instant} {minutes : Nat}
  {s : CompiledSchedule} {o : Instant} {e : PlannedLaunch}

/-! ### Runs of looks at the clock -/

/-- The launches that looks at the clock find due, each with the instant of the look. -/
def pops (p : Planner) : List Instant → List (Instant × PlannedLaunch)
  | [] => []
  | now :: nows => (p.launches.due now).map (now, ·) ++ (p.tick now).1.pops nows

/-- The instants of the looks at which launches are planned anew. -/
def replans (p : Planner) : List Instant → List Instant
  | [] => []
  | now :: nows => (if p.refreshAt ≤ now then [now] else []) ++ (p.tick now).1.replans nows

/-- Whether a look follows another after at most so many nanoseconds, and not in a leap second. -/
structure Follows (nanos : Int) (before now : Instant) : Prop where
  le : before ≤ now
  near : now ≤ before.addNanos nanos
  nanos_lt : now.nanos < nanosPerSecond

instance {nanos : Int} {before now : Instant} : Decidable (Follows nanos before now) :=
  decidable_of_iff (before ≤ now ∧ now ≤ before.addNanos nanos ∧ now.nanos < nanosPerSecond)
    ⟨fun ⟨le, near, lt⟩ => ⟨le, near, lt⟩, fun h => ⟨h.le, h.near, h.nanos_lt⟩⟩

/-- What a launch at `o` needs in order not to be lost: no replanning in the second before it, and no
launch of its schedule in the leap second right before it. -/
structure Spares (s : CompiledSchedule) (replans : List Instant) (o : Instant) : Prop where
  replans : ∀ r ∈ replans, r < o → r.addNanos nanosPerSecond ≤ o
  leap : ¬s.Occurs 0 o.leapBefore

/-- The planner holds what was planned from an instant on and is later than the last look. -/
structure Fresh (p : Planner) (planned : Instant) : Prop where
  mem_launches : ∀ e : PlannedLaunch, e.instant.nanos < nanosPerSecond →
    (e ∈ p.launches ↔ p.Plans planned e ∧ p.reference < e.instant)
  refreshAt : p.refreshAt = planned.addNanos (p.lookaheadNanos / 2)
  le : planned ≤ p.reference
  early : p.reference < p.refreshAt

/-- A whole second comes a second or more after an instant if the instant, rounded up, is before it. -/
theorem addNanos_le_iff (h : planned.nanos < nanosPerSecond) (ho : o.nanos = 0) :
    planned.addNanos nanosPerSecond ≤ o ↔ planned.ceilSecond < o := by
  have hadd := Instant.addNanos_seconds h 1
  rw [show (1 * 1000000000 : Int) = nanosPerSecond from rfl] at hadd
  rw [hadd, Instant.le_iff, Instant.lt_iff]
  simp only [Instant.ceilSecond_second, Instant.ceilSecond_nanos]
  split <;> omega

private theorem half_eq {nanos : Int} (hL : nanos = minutes * 60000000000) :
    nanos / 2 = (minutes * 30 : Int) * 1000000000 := by
  omega

theorem lt_addNanos_half {nanos : Int} (hL : nanos = minutes * 60000000000) (hpos : 0 < minutes)
    (h : planned.nanos < nanosPerSecond) : planned < planned.addNanos (nanos / 2) := by
  rw [half_eq hL, Instant.addNanos_seconds h, Instant.lt_iff]
  exact .inl (by simp only; omega)

theorem Fresh.tick_of_lt (h : p.Fresh planned) (hle : p.reference ≤ now)
    (hhalf : now < now.addNanos (p.lookaheadNanos / 2)) :
    (p.tick now).1.Fresh (if p.refreshAt ≤ now then now else planned) := by
  by_cases hdue : p.refreshAt ≤ now
  · rw [if_pos hdue]
    refine ⟨fun e he => ?_, ?_, ?_, ?_⟩
    · rw [mem_tick, if_pos hdue, tick_plans, tick_reference]
      exact ⟨fun hplans => ⟨hplans, hplans.lt⟩, And.left⟩
    · rw [tick_refreshAt, if_pos hdue, tick_lookaheadNanos]
    · rw [tick_reference]
      exact Instant.le_refl now
    · rw [tick_refreshAt, if_pos hdue, tick_reference]
      exact hhalf
  · rw [if_neg hdue]
    refine ⟨fun e he => ?_, ?_, ?_, ?_⟩
    · rw [mem_tick, if_neg hdue, tick_plans, tick_reference, h.mem_launches e he,
        Lookahead.isDue_iff he, Instant.not_le]
      constructor
      · rintro ⟨⟨hplans, -⟩, hlt⟩
        exact ⟨hplans, hlt⟩
      · rintro ⟨hplans, hlt⟩
        exact ⟨⟨hplans, Instant.lt_of_le_of_lt hle hlt⟩, hlt⟩
    · rw [tick_refreshAt, if_neg hdue, tick_lookaheadNanos]
      exact h.refreshAt
    · rw [tick_reference]
      exact Instant.le_trans h.le hle
    · rw [tick_refreshAt, if_neg hdue, tick_reference]
      exact Instant.not_le.1 hdue

theorem Fresh.tick (h : p.Fresh planned) (hL : p.lookaheadNanos = minutes * 60000000000)
    (hpos : 0 < minutes) (hle : p.reference ≤ now) (hnow : now.nanos < nanosPerSecond) :
    (p.tick now).1.Fresh (if p.refreshAt ≤ now then now else planned) :=
  h.tick_of_lt hle (lt_addNanos_half hL hpos hnow)

/-! ### One launch -/

/-- The planner looks ahead by at most 365 days and works with a schedule in universal time that occurs
at a whole second. -/
structure Awaits (p : Planner) (minutes : Nat) (s : CompiledSchedule) (o : Instant) : Prop where
  lookahead : p.lookaheadNanos = minutes * 60000000000
  minutes_pos : 0 < minutes
  minutes_le : minutes ≤ 365 * 1440
  keyed : p.cache.IsKeyed
  cached : p.cache.schedules.get? s.id = some s
  rules : s.HasValidRules
  universal : s.zone.IsConstant 0
  occurs : s.Occurs 0 o
  whole : o.nanos = 0

theorem Awaits.tick (h : p.Awaits minutes s o) : (p.tick now).1.Awaits minutes s o where
  lookahead := by rw [tick_lookaheadNanos]; exact h.lookahead
  minutes_pos := h.minutes_pos
  minutes_le := h.minutes_le
  keyed := by rw [tick_cache]; exact h.keyed
  cached := by rw [tick_cache]; exact h.cached
  rules := h.rules
  universal := h.universal
  occurs := h.occurs
  whole := h.whole

/-- Up to the horizon, a launch is planned unless that is done too late or a leap second hides it. -/
theorem Awaits.plans_iff (h : p.Awaits minutes s o) (hcal : planned.inCalendar)
    (hnanos : planned.nanos < nanosPerSecond) (hle : o ≤ planned.addNanos p.lookaheadNanos) :
    p.Plans planned ⟨o, s.id⟩ ↔
      planned.addNanos nanosPerSecond ≤ o ∧ ¬s.Occurs 0 o.leapBefore := by
  have hshown : (planned.shownAt 0).date.inCalendar := by
    simpa [Instant.inCalendar, Instant.date, LocalTime.date, Instant.shownAt] using hcal
  have hyear : o.second ≤ planned.second + 365 * 86400 := by
    have hmax := h.minutes_le
    have hspan : p.lookaheadNanos = (minutes * 60 : Int) * 1000000000 := by
      rw [h.lookahead]
      omega
    rw [hspan, Instant.addNanos_seconds hnanos, Instant.le_iff] at hle
    simp only at hle
    omega
  rw [Planner.plans_iff h.keyed h.cached, addNanos_le_iff hnanos h.whole]
  exact CompiledSchedule.mem_launchesUntil_iff h.rules h.universal hcal hshown h.occurs h.whole hle hyear

theorem mem_pops_cons {nows : List Instant} {now n : Instant} : (now, e) ∈ p.pops (n :: nows) ↔
    (now = n ∧ e ∈ p.launches ∧ Lookahead.isDue n e) ∨ (now, e) ∈ (p.tick n).1.pops nows := by
  rw [pops, List.mem_append, List.mem_map]
  simp only [Lookahead.mem_due, Prod.mk.injEq]
  constructor
  · rintro (⟨e', hdue, rfl, rfl⟩ | hrest)
    · exact .inl ⟨rfl, hdue⟩
    · exact .inr hrest
  · rintro (⟨rfl, hdue⟩ | hrest)
    · exact .inl ⟨e, hdue, rfl, rfl⟩
    · exact .inr hrest

theorem mem_of_mem_replans {r : Instant} (h : r ∈ p.replans nows) : r ∈ nows := by
  induction nows generalizing p with
  | nil => cases h
  | cons n nows ih =>
    rw [replans, List.mem_append] at h
    rcases h with h | h
    · split at h
      · exact List.mem_cons.2 (.inl (List.mem_singleton.1 h))
      · cases h
    · exact List.mem_cons_of_mem _ (ih h)

theorem le_of_chain {nanos : Int} {r : Instant} (h : (start :: nows).IsChain (Follows nanos))
    (hr : r ∈ nows) : start ≤ r := by
  induction nows generalizing start with
  | nil => cases hr
  | cons n nows ih =>
    obtain ⟨hn, hrest⟩ := List.isChain_cons_cons.1 h
    rcases List.mem_cons.1 hr with rfl | hr
    · exact hn.le
    · exact Instant.le_trans hn.le (ih hrest hr)

/-- Nothing is due twice: what is due is later than the look before. -/
theorem Fresh.lt_of_mem_pops (h : p.Fresh planned) (hL : p.lookaheadNanos = minutes * 60000000000)
    (hpos : 0 < minutes) (he : e.instant.nanos < nanosPerSecond) {nanos : Int}
    (hchain : (p.reference :: nows).IsChain (Follows nanos)) (hmem : (now, e) ∈ p.pops nows) :
    p.reference < e.instant := by
  induction nows generalizing p planned with
  | nil => cases hmem
  | cons n nows ih =>
    obtain ⟨hn, hrest⟩ := List.isChain_cons_cons.1 hchain
    rcases mem_pops_cons.1 hmem with ⟨-, hmem, -⟩ | hmem
    · exact ((h.mem_launches e he).1 hmem).2
    · have hlt := ih (h.tick hL hpos hn.le hn.nanos_lt) (by rwa [tick_lookaheadNanos])
        (by rwa [tick_reference]) hmem
      rw [tick_reference] at hlt
      exact Instant.lt_of_le_of_lt hn.le hlt

/-- A look that is near enough to the last one comes before the horizon. -/
private theorem Fresh.le_horizon (h : p.Fresh planned) (hL : p.lookaheadNanos = minutes * 60000000000)
    (hnanos : planned.nanos < nanosPerSecond) (hrnanos : p.reference.nanos < nanosPerSecond)
    (hn : Follows (p.lookaheadNanos / 2) p.reference now) :
    now ≤ planned.addNanos p.lookaheadNanos := by
  have hspan : p.lookaheadNanos = (minutes * 60 : Int) * 1000000000 := by
    rw [hL]
    omega
  have hearly := h.early
  have hnear := hn.near
  rw [h.refreshAt, half_eq hL, Instant.addNanos_seconds hnanos, Instant.lt_iff] at hearly
  rw [half_eq hL, Instant.addNanos_seconds hrnanos, Instant.le_iff] at hnear
  rw [hspan, Instant.addNanos_seconds hnanos, Instant.le_iff]
  simp only at hearly hnear ⊢
  omega

/-- Replannings that are not before a launch do it no harm. -/
private theorem spares_cons_iff_of_le {rs : List Instant} (hlt : planned < o) (hrs : ∀ r ∈ rs, o ≤ r) :
    Spares s (planned :: rs) o ↔
      planned.addNanos nanosPerSecond ≤ o ∧ ¬s.Occurs 0 o.leapBefore := by
  constructor
  · intro hs
    exact ⟨hs.replans planned List.mem_cons_self hlt, hs.leap⟩
  · rintro ⟨hle, hleap⟩
    refine ⟨fun r hr hro => ?_, hleap⟩
    rcases List.mem_cons.1 hr with rfl | hr
    · exact hle
    · exact absurd hro (Instant.not_lt.2 (hrs r hr))

/-- Of two replannings in a row the second decides. -/
private theorem spares_cons_cons_iff {rs : List Instant} {n : Instant} (hle : planned ≤ n)
    (hnanos : planned.nanos < nanosPerSecond) (hnn : n.nanos < nanosPerSecond) (hno : n < o)
    (ho : o.nanos = 0) : Spares s (planned :: n :: rs) o ↔ Spares s (n :: rs) o := by
  constructor
  · intro hs
    exact ⟨fun r hr => hs.replans r (List.mem_cons_of_mem _ hr), hs.leap⟩
  · intro hs
    refine ⟨fun r hr hro => ?_, hs.leap⟩
    rcases List.mem_cons.1 hr with rfl | hr
    · have hn := hs.replans n List.mem_cons_self hno
      rw [addNanos_le_iff hnn ho] at hn
      rw [addNanos_le_iff hnanos ho]
      exact Instant.lt_of_le_of_lt (Instant.ceilSecond_mono hle) hn
    · exact hs.replans r hr hro

/-- A launch that is still to come becomes due at the first look that is not before it, if it is
spared. -/
theorem Fresh.mem_pops_iff (h : p.Fresh planned) (ha : p.Awaits minutes s o)
    (hcal : planned.inCalendar) (hnanos : planned.nanos < nanosPerSecond)
    (hrnanos : p.reference.nanos < nanosPerSecond) (hcome : p.reference < o)
    (hchain : (p.reference :: nows).IsChain (Follows (p.lookaheadNanos / 2))) :
    (now, ⟨o, s.id⟩) ∈ p.pops nows ↔
      nows.find? (o ≤ ·) = some now ∧ Spares s (planned :: p.replans nows) o := by
  have ho : o.nanos < nanosPerSecond := by
    rw [ha.whole]
    decide
  induction nows generalizing p planned with
  | nil => simp [pops]
  | cons n nows ih =>
    obtain ⟨hn, hrest⟩ := List.isChain_cons_cons.1 hchain
    have hfresh := h.tick ha.lookahead ha.minutes_pos hn.le hn.nanos_lt
    rw [mem_pops_cons, h.mem_launches _ ho, Lookahead.isDue_iff ho]
    by_cases hdue : o ≤ n
    · -- The look finds what was planned, and no later look finds it again.
      have hlater : (now, ⟨o, s.id⟩) ∉ (p.tick n).1.pops nows := by
        intro hmem
        have hlt := hfresh.lt_of_mem_pops ha.tick.lookahead ha.minutes_pos ho
          (by rwa [tick_reference]) hmem
        rw [tick_reference] at hlt
        exact Instant.lt_irrefl _ (Instant.lt_of_lt_of_le hlt hdue)
      have hreplans : ∀ r ∈ p.replans (n :: nows), o ≤ r := by
        intro r hr
        refine Instant.le_trans hdue ?_
        rcases List.mem_cons.1 (mem_of_mem_replans hr) with rfl | hr
        · exact Instant.le_refl r
        · exact le_of_chain hrest hr
      have hhor := Instant.le_trans hdue (h.le_horizon ha.lookahead hnanos hrnanos hn)
      rw [ha.plans_iff hcal hnanos hhor, List.find?_cons_of_pos (by simpa using hdue),
        spares_cons_iff_of_le (Instant.lt_of_le_of_lt h.le hcome) hreplans]
      constructor
      · rintro (⟨rfl, ⟨hplans, -⟩, -⟩ | hmem)
        · exact ⟨rfl, hplans⟩
        · exact absurd hmem hlater
      · rintro ⟨heq, hplans⟩
        cases heq
        exact .inl ⟨rfl, ⟨hplans, hcome⟩, hdue⟩
    · -- The launch is still to come after the look.
      have hno := Instant.not_le.1 hdue
      have hspares : Spares s (planned :: p.replans (n :: nows)) o ↔
          Spares s ((if p.refreshAt ≤ n then n else planned) :: (p.tick n).1.replans nows) o := by
        rw [replans]
        split
        · exact spares_cons_cons_iff (Instant.le_trans h.le hn.le) hnanos hn.nanos_lt hno ha.whole
        · rfl
      have hcal' : (if p.refreshAt ≤ n then n else planned).inCalendar := by
        split
        · have hle := Instant.le_trans h.le hn.le
          rw [Instant.le_iff] at hle
          rw [Instant.lt_iff] at hno
          exact Instant.inCalendar_of_le_of_le hcal ha.occurs.inCalendar (by omega) (by omega)
        · exact hcal
      have hnanos' : (if p.refreshAt ≤ n then n else planned).nanos < nanosPerSecond := by
        split
        · exact hn.nanos_lt
        · exact hnanos
      rw [List.find?_cons_of_neg (by simpa using hdue), hspares]
      refine Iff.trans ?_ (ih hfresh ha.tick hcal' hnanos' ?_ ?_ ?_)
      · constructor
        · rintro (⟨-, -, hle⟩ | hmem)
          · exact absurd hle hdue
          · exact hmem
        · exact .inr
      · rw [tick_reference]
        exact hn.nanos_lt
      · rw [tick_reference]
        exact hno
      · rwa [tick_reference, tick_lookaheadNanos]

/-! ### From the start -/

variable {settings : SchedulerSettings} {cache : Cache}

private theorem lookaheadNanos_eq (h : settings.lookaheadMinutes ≤ 365 * 1440) :
    settings.lookaheadNanos = settings.lookaheadMinutes * 60000000000 := by
  have hsigned : signed64 settings.lookaheadMinutes = settings.lookaheadMinutes := by
    refine Int.bmod_eq_of_le ?_ ?_
    · simp only [Word.nat64End]
      omega
    · simp only [Word.nat64End]
      omega
  rw [SchedulerSettings.lookaheadNanos, hsigned]

theorem fresh_ofCache_of_lt (hhalf : start < start.addNanos (settings.lookaheadNanos / 2)) :
    (ofCache settings cache start).Fresh start where
  mem_launches e _ := by
    rw [ofCache, publish_launches, mem_recompute]
    constructor
    · rintro (hplans | ⟨hmem, -⟩)
      · exact ⟨hplans, hplans.lt⟩
      · exact absurd hmem Lookahead.not_mem_empty
    · rintro ⟨hplans, -⟩
      exact .inl hplans
  refreshAt := rfl
  le := Instant.le_refl start
  early := hhalf

theorem fresh_ofCache (hmin : 2 ≤ settings.lookaheadMinutes)
    (hmax : settings.lookaheadMinutes ≤ 365 * 1440) (hnanos : start.nanos < nanosPerSecond) :
    (ofCache settings cache start).Fresh start :=
  fresh_ofCache_of_lt (lt_addNanos_half (lookaheadNanos_eq hmax) (by omega) hnanos)

/-- With a lookahead of 2 minutes to 365 days and looks that are at most half of it apart, a launch a
second or more after the start becomes due at the first look that is not before it, exactly if no
replanning in the second before it and no leap second right before it lose it. -/
theorem mem_pops_iff_spares (hmin : 2 ≤ settings.lookaheadMinutes)
    (hmax : settings.lookaheadMinutes ≤ 365 * 1440) (hkeyed : cache.IsKeyed)
    (hcached : cache.schedules.get? s.id = some s) (hrules : s.HasValidRules)
    (huniversal : s.zone.IsConstant 0) (hcal : start.inCalendar)
    (hnanos : start.nanos < nanosPerSecond)
    (hchain : (start :: nows).IsChain (Follows (settings.lookaheadNanos / 2)))
    (hocc : s.Occurs 0 o) (hleap : o.nanos < nanosPerSecond)
    (hafter : start.addNanos nanosPerSecond ≤ o) :
    (now, ⟨o, s.id⟩) ∈ (ofCache settings cache start).pops nows ↔
      nows.find? (o ≤ ·) = some now ∧ Spares s ((ofCache settings cache start).replans nows) o := by
  have hwhole : o.nanos = 0 := by
    rcases hocc.isWhole hrules with hzero | hsecond
    · exact hzero
    · omega
  have ha : (ofCache settings cache start).Awaits settings.lookaheadMinutes s o :=
    ⟨lookaheadNanos_eq hmax, by omega, hmax, hkeyed, hcached, hrules, huniversal, hocc, hwhole⟩
  have hcome : start < o := by
    rw [addNanos_le_iff hnanos hwhole] at hafter
    exact Instant.lt_of_le_of_lt start.le_ceilSecond hafter
  have hfresh : (ofCache settings cache start).Fresh start := fresh_ofCache hmin hmax hnanos
  rw [hfresh.mem_pops_iff ha hcal hnanos hnanos hcome hchain]
  refine and_congr_right fun _ => ⟨fun hs => ?_, fun hs => ⟨fun r hr hro => ?_, hs.leap⟩⟩
  · exact ⟨fun r hr => hs.replans r (List.mem_cons_of_mem _ hr), hs.leap⟩
  · rcases List.mem_cons.1 hr with rfl | hr
    · exact hafter
    · exact hs.replans r hr hro

/-! ### A launch at a quarter past nine and a second -/

private def quarterPast : TimeOfDay := ((Instant.ofSecond 33301).shownAt 0).time

private def daily : CompiledSchedule where
  id := 1
  name := "daily"
  zone := .fixed "UTC" 0
  rules := [⟨.listed, #[quarterPast], .full 12, .full 7, .any⟩]

private def dailyOnly : Cache := { schedules := (∅ : ById CompiledSchedule).insert 1 daily }

private theorem daily_hasValidRules : daily.HasValidRules := by
  intro r hr
  have hsorted : TimeOfDay.ascending [quarterPast] = [quarterPast] := by cbv
  have hread : TimeOfDay.listOfText "09:15:01" = .ok (TimeOfDay.ascending [quarterPast]) := rfl
  refine ⟨{ hours := "09:15:01" }, ?_⟩
  cases List.mem_singleton.1 hr
  simp only [Rule.ofDefinition, Rule.timesOf, hread, hsorted]
  rfl

private theorem dailyOnly_isKeyed : dailyOnly.IsKeyed := by
  intro id s h
  rw [dailyOnly, ById.get?_insert] at h
  split at h
  · next heq =>
    cases h
    exact heq.symm
  · cases h

/-- The first of January 2024, so many nanoseconds after nine o'clock. -/
private def afterNine (seconds : Int) (nanos : Nat) : Instant :=
  { second := 1704099600 + seconds, nanos := nanos % 1000000000 }

private theorem daily_occurs : daily.Occurs 0 (afterNine 901 0) := by
  refine ⟨_, List.mem_singleton.2 rfl, ?_, ?_, ?_, ?_⟩
  · decide
  · decide
  · decide
  · exact List.mem_toArray.2 (List.mem_singleton.2 rfl)

private theorem not_daily_occurs : ¬daily.Occurs 0 (afterNine 901 0).leapBefore := by
  rintro ⟨r, hr, hocc⟩
  cases List.mem_singleton.1 hr
  have htime := List.mem_singleton.1 (List.mem_toArray.1 hocc.mem_times)
  exact absurd htime (by decide)

/-- Planning anew a whole second before the launch spares it. -/
theorem mem_pops_iff_spares_on_whole_second :
    let start := afterNine 0 0
    let nows := [afterNine 600 0, afterNine 900 0, afterNine 901 500000000]
    let p := ofCache {} dailyOnly start
    (afterNine 901 500000000, ⟨afterNine 901 0, daily.id⟩) ∈ p.pops nows := by
  intro start nows p
  have hrefresh : p.refreshAt = afterNine 900 0 := by decide
  have hlookahead : p.lookaheadNanos = 1800000000000 := by decide
  have hreplans : p.replans nows = [afterNine 900 0] := by
    simp +decide [nows, replans, tick_refreshAt, hrefresh, hlookahead]
  refine (mem_pops_iff_spares (by decide) (by decide) dailyOnly_isKeyed rfl daily_hasValidRules
    ⟨rfl, rfl⟩ (by decide) (by decide) (by decide) daily_occurs (by decide) (by decide)).2 ⟨rfl, ?_⟩
  refine ⟨fun r hr _ => ?_, not_daily_occurs⟩
  rw [hreplans] at hr
  cases List.mem_singleton.1 hr
  decide

/-- Planning anew half a second before the launch loses it, though a look falls on its instant. -/
theorem launch_lost_by_replanning :
    let settings : SchedulerSettings := {}
    let start := afterNine 0 0
    let nows := [afterNine 600 0, afterNine 900 500000000, afterNine 901 0]
    let o := afterNine 901 0
    dailyOnly.schedules.values = [daily] ∧ daily.HasValidRules ∧ daily.zone.IsConstant 0 ∧
      settings.lookaheadMinutes = 30 ∧
      (start :: nows).IsChain (Follows (settings.lookaheadNanos / 2)) ∧
      daily.Occurs 0 o ∧ start.addNanos nanosPerSecond ≤ o ∧ nows.find? (o ≤ ·) = some o ∧
      ∀ now, (now, ⟨o, daily.id⟩) ∉ (ofCache settings dailyOnly start).pops nows := by
  intro settings start nows o
  have hchain : (start :: nows).IsChain (Follows (settings.lookaheadNanos / 2)) := by decide
  refine ⟨rfl, daily_hasValidRules, ⟨rfl, rfl⟩, rfl, hchain, daily_occurs, by decide, rfl,
    fun now hmem => ?_⟩
  let p := ofCache settings dailyOnly start
  have hrefresh : p.refreshAt = afterNine 900 0 := by decide
  have hlookahead : p.lookaheadNanos = 1800000000000 := by decide
  have hreplans : p.replans nows = [afterNine 900 500000000] := by
    simp +decide [nows, replans, tick_refreshAt, hrefresh, hlookahead]
  have hfresh : p.Fresh start := fresh_ofCache (by decide) (by decide) (by decide)
  have ha : p.Awaits settings.lookaheadMinutes daily o :=
    ⟨by decide, by decide, by decide, dailyOnly_isKeyed, rfl, daily_hasValidRules, ⟨rfl, rfl⟩,
      daily_occurs, rfl⟩
  obtain ⟨-, hspares⟩ :=
    (hfresh.mem_pops_iff ha (by decide) (by decide) (by decide) (by decide) hchain).1 hmem
  rw [hreplans] at hspares
  have hle := hspares.replans (afterNine 900 500000000) (by simp) (by decide)
  exact absurd hle (by decide)

end Planner

end FlowScheduler
