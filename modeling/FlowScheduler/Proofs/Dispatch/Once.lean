import Mathlib
import FlowScheduler.Proofs.Dispatch.Refresh

/-!
No launch becomes due twice or too early.

A planner looks at the clock, which never goes back, and takes in changes of entities in any order
(`Planner.Run`). If no schedule launches in a leap second, then what is planned is always later than the
last look and what has been due is not (`Planner.Settled`), whatever the changes plan anew in between. So
nothing becomes due a second time, before its instant, or if it is not after the start.
-/

namespace FlowScheduler

/-! ### Launches out of leap seconds -/

theorem Zone.nanos_lt_of_ofLocal? {zone : Zone} {l : LocalTime} {x : Instant}
    (h : zone.ofLocal? l = some x) (hl : l.nanos < nanosPerSecond) : x.nanos < nanosPerSecond := by
  have hfirst {l : LocalTime} (hl : l.nanos < nanosPerSecond) (h : zone.firstShown? l = some x) :
      x.nanos < nanosPerSecond := by
    simp only [firstShown?] at h
    split at h
    · split at h
      · cases h
        exact hl
      · cases h
    · cases h
  rcases Option.or_eq_some_iff.1 h with h | ⟨-, h⟩
  · exact hfirst hl h
  · exact hfirst (Nat.mod_lt _ (by decide)) h

namespace Rule

variable {r : Rule} {zone : Zone} {reference x : Instant}

theorem exists_time_of_search {start : LocalTime} {n : Nat} {d : Date}
    (h : r.search reference zone start n d = some x) :
    ∃ e, ∃ t ∈ r.times, zone.ofLocal? (.ofDateTime e t) = some x := by
  induction n generalizing d with
  | zero => cases h
  | succ n ih =>
    obtain ⟨e, -, h⟩ := Option.bind_eq_some_iff.1 h
    cases found : r.launchOn? reference zone start e with
    | none =>
      rw [found] at h
      obtain ⟨f, -, h⟩ := Option.bind_eq_some_iff.1 h
      exact ih h
    | some y =>
      rw [found] at h
      cases h
      simp only [launchOn?] at found
      split at found
      · obtain ⟨i, hi, -, hx, -⟩ := firstOn?_eq_some found
        exact ⟨e, r.times[i], Array.getElem_mem hi, (instantOn?_eq_some_iff.1 hx).1⟩
      · cases found

theorem nanos_lt_of_next? (hr : ∀ t ∈ r.times, ¬t.isLeapSecond)
    (h : r.next? zone reference = some x) : x.nanos < nanosPerSecond := by
  simp only [next?] at h
  split at h
  · cases h
  · obtain ⟨e, t, ht, hx⟩ := exists_time_of_search h
    have hleap := hr t ht
    simp only [TimeOfDay.isLeapSecond, decide_eq_true_eq, Nat.not_le] at hleap
    exact Zone.nanos_lt_of_ofLocal? hx hleap

end Rule

theorem CompiledSchedule.IsLeapFree.nanos_lt {s : CompiledSchedule} {horizon reference x : Instant}
    (hs : s.IsLeapFree) (h : x ∈ s.launchesUntil horizon reference) : x.nanos < nanosPerSecond := by
  fun_induction launchesUntil s horizon reference with
  | case1 => cases h
  | case2 reference y hy hle hdec ih =>
    rcases List.mem_cons.1 h with rfl | h
    · obtain ⟨r, hr, hx⟩ := exists_rule_of_next? hy
      exact Rule.nanos_lt_of_next? (hs r hr) hx
    · exact ih h
  | case3 => cases h

namespace Planner

/-! ### Runs -/

/-- Runs of a planner, from its start on, with a record of the launches that its looks at the clock found
due. The clock does not go back, and no source lists a schedule that launches in a leap second. -/
inductive Run (settings : SchedulerSettings) (start : Instant) :
    Planner → List (Instant × PlannedLaunch) → Prop where
  | start {source : EntitySource} {p : Planner} : source.IsLeapFree →
      Planner.start settings source start = .ok p → Run settings start p []
  | tick {p : Planner} {popped : List (Instant × PlannedLaunch)} (now : Instant) :
      Run settings start p popped → p.reference ≤ now →
      Run settings start (p.tick now).1 (popped ++ (p.launches.due now).map (now, ·))
  | change {p : Planner} {popped : List (Instant × PlannedLaunch)} {source : EntitySource}
      (change : Option EntityChange) : Run settings start p popped → source.IsLeapFree →
      Run settings start (p.applyChange source change).1 popped

variable {p q : Planner} {settings : SchedulerSettings} {start now reference : Instant}
  {source : EntitySource} {popped : List (Instant × PlannedLaunch)} {e : PlannedLaunch}

/-- What is planned is later than the last look and belongs to a cached schedule. -/
structure Pending (p : Planner) (e : PlannedLaunch) : Prop where
  nanos_lt : e.instant.nanos < nanosPerSecond
  later : p.reference < e.instant
  cached : p.cache.schedules.contains e.scheduleId

/-- What is planned is pending, and what has been due is over. -/
structure Settled (start : Instant) (p : Planner) (popped : List (Instant × PlannedLaunch)) : Prop where
  cache : p.cache.IsLeapFree
  pending : ∀ e ∈ p.launches, p.Pending e
  start_le : start ≤ p.reference
  past : ∀ look ∈ popped, look.2.instant ≤ p.reference
  nodup : (popped.map (·.2)).Nodup
  timely : ∀ look ∈ popped, look.2.instant ≤ look.1 ∧ start < look.2.instant

/-- What is planned from the last look on is pending. -/
theorem Plans.pending (h : p.Plans p.reference e) (hc : p.cache.IsLeapFree) : p.Pending e := by
  obtain ⟨s, hs, hid, hmem⟩ := h
  obtain ⟨id, hget⟩ := ById.mem_values_iff.1 hs
  refine ⟨(hc.leapFree id s hget).nanos_lt hmem, CompiledSchedule.lt_of_mem_launchesUntil hmem, ?_⟩
  rw [hid, hc.keyed id s hget, ById.contains, hget]
  rfl

/-- Planning anew from the last look leaves only what is pending. -/
theorem pending_of_recompute (hc : p.cache.IsLeapFree)
    (hp : ∀ e ∈ p.launches, e.instant.nanos < nanosPerSecond ∧ p.reference < e.instant)
    (h : e ∈ (p.recompute p.reference).launches) : p.Pending e := by
  rcases mem_recompute.1 h with hplans | ⟨hmem, hdue⟩
  · exact hplans.pending hc
  · obtain ⟨hnanos, hlater⟩ := hp e hmem
    rw [Lookahead.isDue_iff hnanos] at hdue
    exact absurd (Instant.lt_of_lt_of_le hlater hdue) (Instant.lt_irrefl _)

theorem settled_start (hsource : source.IsLeapFree)
    (h : Planner.start settings source start = .ok p) : p.Settled start [] := by
  have hc := start_keeps (fun hc h => hc.refresh hsource h) Cache.isLeapFree_empty h
  rw [Planner.start] at h
  split at h
  · cases h
  · next c reports hrefresh =>
    obtain rfl := Except.ok.inj h
    refine ⟨hc, fun e he => ?_, Instant.le_refl start, by simp, .nil, by simp⟩
    rcases mem_recompute.1 he with hplans | ⟨hmem, -⟩
    · exact Plans.pending hplans hc
    · exact absurd hmem Lookahead.not_mem_empty

/-- What a look finds due is no longer later than the look. -/
private theorem Pending.le_of_due (h : p.Pending e) (hdue : Lookahead.isDue now e) : e.instant ≤ now :=
  (Lookahead.isDue_iff h.nanos_lt).1 hdue

theorem Settled.tick (h : p.Settled start popped) (hle : p.reference ≤ now) :
    (p.tick now).1.Settled start (popped ++ (p.launches.due now).map (now, ·)) := by
  have hdue : ∀ e ∈ p.launches.due now, p.Pending e ∧ e.instant ≤ now := by
    intro e he
    obtain ⟨hmem, hdue⟩ := Lookahead.mem_due.1 he
    exact ⟨h.pending e hmem, (h.pending e hmem).le_of_due hdue⟩
  refine ⟨?_, fun e he => ?_, ?_, fun look hl => ?_, ?_, fun look hl => ?_⟩
  · rw [tick_cache]
    exact h.cache
  · rw [mem_tick] at he
    split at he
    · refine Plans.pending ?_ ?_
      · rwa [tick_reference, tick_plans]
      · rw [tick_cache]
        exact h.cache
    · obtain ⟨hmem, hnot⟩ := he
      have hpending := h.pending e hmem
      rw [Lookahead.isDue_iff hpending.nanos_lt, Instant.not_le] at hnot
      refine ⟨hpending.nanos_lt, ?_, ?_⟩
      · rwa [tick_reference]
      · rw [tick_cache]
        exact hpending.cached
  · rw [tick_reference]
    exact Instant.le_trans h.start_le hle
  · rw [tick_reference]
    rcases List.mem_append.1 hl with hl | hl
    · exact Instant.le_trans (h.past look hl) hle
    · obtain ⟨e, he, rfl⟩ := List.mem_map.1 hl
      exact (hdue e he).2
  · -- What is due is later than the look before, and all that was due before is not.
    rw [List.map_append, List.map_map, List.nodup_append]
    refine ⟨h.nodup, ?_, ?_⟩
    · have hnodup : (p.launches.due now).Nodup :=
        (List.mergeSort_perm _ _).nodup_iff.2 (p.launches.nodup.filter _)
      simpa [Function.comp_def] using hnodup
    · intro e he e' he' heq
      obtain ⟨look, hl, rfl⟩ := List.mem_map.1 he
      have he' : e' ∈ p.launches.due now := by simpa [Function.comp_def] using he'
      have hlater := (hdue e' he').1.later
      rw [← heq] at hlater
      exact Instant.lt_irrefl _ (Instant.lt_of_lt_of_le hlater (h.past look hl))
  · rcases List.mem_append.1 hl with hl | hl
    · exact h.timely look hl
    · obtain ⟨e, he, rfl⟩ := List.mem_map.1 hl
      obtain ⟨hpending, hle⟩ := hdue e he
      exact ⟨hle, Instant.lt_of_le_of_lt h.start_le hpending.later⟩

theorem Settled.change (h : p.Settled start popped) (hsource : source.IsLeapFree)
    (change : Option EntityChange) : (p.applyChange source change).1.Settled start popped := by
  have hc : (refreshCache p.cache source change).1.IsLeapFree :=
    refreshCache_isLeapFree h.cache hsource
  rcases applyChange_cases p source change with heq | ⟨heq, hsame⟩
  · rw [heq]
    refine ⟨hc, fun e he => ?_, h.start_le, h.past, h.nodup, h.timely⟩
    let q := { p with cache := (refreshCache p.cache source change).1 }
    have hpending : q.Pending e := by
      refine pending_of_recompute hc (fun e' he' => ?_) he
      exact ⟨(h.pending e' he').nanos_lt, (h.pending e' he').later⟩
    exact ⟨hpending.nanos_lt, hpending.later, hpending.cached⟩
  · rw [heq]
    refine ⟨hc, fun e he => ?_, h.start_le, h.past, h.nodup, h.timely⟩
    have hpending := h.pending e he
    refine ⟨hpending.nanos_lt, hpending.later, ?_⟩
    show ((refreshCache p.cache source change).1.schedules.contains e.scheduleId : Prop)
    rw [hsame]
    exact hpending.cached

theorem Run.settled (h : Run settings start p popped) : p.Settled start popped := by
  induction h with
  | start hsource hstart => exact settled_start hsource hstart
  | tick now _ hle ih => exact ih.tick hle
  | change change _ hsource ih => exact ih.change hsource change

/-- At any time what is planned is later than the last look and belongs to a cached schedule, and over
the run each launch has been due at most once, not before its instant and only if that is after the
start. -/
theorem Run.launches_once (h : Run settings start p popped) :
    (∀ e ∈ p.launches, p.reference < e.instant ∧ p.cache.schedules.contains e.scheduleId) ∧
      (popped.map (·.2)).Nodup ∧
      ∀ look ∈ popped, look.2.instant ≤ look.1 ∧ start < look.2.instant := by
  have hsettled := h.settled
  refine ⟨fun e he => ?_, hsettled.nodup, hsettled.timely⟩
  have hpending := hsettled.pending e he
  exact ⟨hpending.later, hpending.cached⟩

/-! ### A change between two looks -/

private def tenPastNine : TimeOfDay := ((Instant.ofSecond 33000).shownAt 0).time

private def morning : Schedule where
  id := 1
  name := "morning"
  timeZone := "UTC"
  rules := [{ hours := "09:10:00" }]

private def morningOnly : EntitySource where
  agents _ := .ok []
  tasks _ := .ok []
  queues _ := .ok []
  flows _ := .ok []
  schedules _ := .ok [morning]

private theorem morning_compile : morning.compile = .ok ⟨1, "morning", .resolve "UTC",
    [⟨.listed, #[tenPastNine], .full 12, .full 7, .any⟩]⟩ := by
  have hsorted : TimeOfDay.ascending [tenPastNine] = [tenPastNine] := by cbv
  have hread : TimeOfDay.listOfText "09:10:00" = .ok (TimeOfDay.ascending [tenPastNine]) := rfl
  have hrule : Rule.ofDefinition { hours := "09:10:00" } =
      .ok ⟨.listed, #[tenPastNine], .full 12, .full 7, .any⟩ := by
    simp only [Rule.ofDefinition, Rule.timesOf, hread, hsorted]
    rfl
  simp only [Schedule.compile, morning, Rule.listOf, hrule]
  rfl

private theorem morningOnly_isLeapFree : morningOnly.IsLeapFree := by
  intro id schedules hread s hs
  cases hread
  obtain ⟨d, hd, hs⟩ := List.mem_filterMap.1 hs
  rw [List.mem_singleton.1 hd, morning_compile] at hs
  cases hs
  intro r hr t ht
  rw [List.mem_singleton.1 hr] at ht
  rw [List.mem_singleton.1 (List.mem_toArray.1 ht)]
  decide

/-- A launch has been due when all entities are loaded again. -/
theorem launches_once_over_change :
    let start := Instant.ofSecond 1704099600
    let now := (Instant.ofSecond 1704103200).addNanos 500000000
    ∃ p, Planner.start {} morningOnly start = .ok p ∧
      let q := ((p.tick now).1.applyChange morningOnly none).1
      let popped := (p.launches.due now).map (now, ·)
      (∀ e ∈ q.launches, q.reference < e.instant ∧ q.cache.schedules.contains e.scheduleId) ∧
        (popped.map (·.2)).Nodup ∧
        ∀ look ∈ popped, look.2.instant ≤ look.1 ∧ start < look.2.instant := by
  intro start now
  have hstart : Planner.start {} morningOnly start =
      .ok (ofCache {} (Cache.refreshAll {} morningOnly).1 start) := rfl
  have hrun := Run.tick now (.start morningOnly_isLeapFree hstart) (by decide)
  exact ⟨_, hstart, (hrun.change none morningOnly_isLeapFree).launches_once⟩

end Planner

end FlowScheduler
