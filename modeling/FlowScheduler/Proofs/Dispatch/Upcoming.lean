import Mathlib
import FlowScheduler.Proofs.Dispatch.Image
import FlowScheduler.Proofs.Dispatch.Launches

/-!
The published view of coming launches.

The view is gathered flow by flow and ends at the first flow that finds it full. What comes out are the first
entries of the list in which every planned launch is replaced by the flows that its schedule launches
(`Cache.toList_collect`). In every state of a planner these are the launches that a look at the clock would submit if
it came next, at or after their instants, and none of them is later than a launch that is left out
(`Planner.IsState.publish_showsNext`). A change that comes before that look makes the planner plan anew, and it may
drop a launch that was shown.
-/

namespace FlowScheduler

namespace Cache

variable {c : Cache} {limit : Nat} {e : PlannedLaunch} {s : CompiledSchedule} {u : UpcomingLaunch}

/-! ### Gathering -/

/-- What has been gathered of entries: all of them, or as many of the first as a view holds. -/
structure Gathers (limit : Nat) (entries : List UpcomingLaunch) (view : Array UpcomingLaunch) (full : Bool) :
    Prop where
  size_le : view.size ≤ limit
  of_room : full = false → view.toList = entries
  of_full : full = true → view.toList <+: entries ∧ view.size = limit

theorem Gathers.take_append {entries more : List UpcomingLaunch} {view : Array UpcomingLaunch}
    (h : Gathers limit entries view true) : view.toList = (entries ++ more).take limit := by
  obtain ⟨hfirst, hsize⟩ := h.of_full rfl
  rw [← hsize, ← Array.length_toList]
  exact List.prefix_iff_eq_take.1 (hfirst.trans (List.prefix_append entries more))

theorem gathers_collectFlows (ids : List Int) (view : Array UpcomingLaunch) (hsize : view.size ≤ limit) :
    Gathers limit (view.toList ++ (ids.filterMap c.flows.get?).map (viewOf e s))
      (c.collectFlows limit e s ids view).1 (c.collectFlows limit e s ids view).2 := by
  induction ids generalizing view with
  | nil =>
    rw [collectFlows, List.filterMap_nil, List.map_nil, List.append_nil]
    refine ⟨hsize, fun _ => rfl, ?_⟩
    intro hfull
    cases hfull
  | cons id ids ih =>
    rw [collectFlows]
    by_cases hfull : limit ≤ view.size
    · rw [if_pos hfull]
      refine ⟨hsize, ?_, fun _ => ⟨List.prefix_append _ _, Nat.le_antisymm hsize hfull⟩⟩
      intro hroom
      cases hroom
    · rw [if_neg hfull]
      cases hflow : c.flows.get? id with
      | none =>
        rw [List.filterMap_cons_none hflow]
        exact ih view hsize
      | some f =>
        have hroom : (view.push (viewOf e s f)).size ≤ limit := by
          rw [Array.size_push]
          omega
        have hpushed := ih (view.push (viewOf e s f)) hroom
        rw [Array.toList_push, List.append_assoc] at hpushed
        rw [List.filterMap_cons_some hflow]
        exact hpushed

/-- The entries of a launch: the flows that its schedule launches, by the links. -/
def linked (c : Cache) (e : PlannedLaunch) : List UpcomingLaunch :=
  match c.schedules.get? e.scheduleId with
  | none => []
  | some s => (c.flowsOf e.scheduleId).map (viewOf e s)

/-- A view is filled up to its limit with the entries of the launches in a row. -/
theorem toList_collect (es : List PlannedLaunch) (view : Array UpcomingLaunch) (hsize : view.size ≤ limit) :
    (c.collect limit es view).toList = (view.toList ++ es.flatMap c.linked).take limit := by
  induction es generalizing view with
  | nil =>
    rw [collect, List.flatMap_nil, List.append_nil]
    exact (List.take_of_length_le hsize).symm
  | cons e es ih =>
    rw [collect, List.flatMap_cons, linked]
    cases c.schedules.get? e.scheduleId with
    | none => exact ih view hsize
    | some s =>
      have hgathers : Gathers limit (view.toList ++ (c.flowsOf e.scheduleId).map (viewOf e s)) _ _ :=
        gathers_collectFlows (c.flowIdsOf e.scheduleId) view hsize
      simp only
      rcases hflows : c.collectFlows limit e s (c.flowIdsOf e.scheduleId) view with ⟨view', full⟩
      rw [hflows] at hgathers
      rw [← List.append_assoc]
      cases full with
      | true => exact hgathers.take_append
      | false =>
        rw [← hgathers.of_room rfl]
        exact ih view' hgathers.size_le

/-! ### What the entries say -/

theorem IsLinked.flowsOf_eq (hc : c.IsLinked) (scheduleId : Int) :
    c.flowsOf scheduleId = c.boundTo scheduleId := by
  rw [flowsOf, hc.flowIdsOf_eq, List.filterMap_map]
  have hself : ∀ f ∈ c.boundTo scheduleId, (c.flows.get? ∘ TaskFlow.id) f = some f := by
    intro f hf
    obtain ⟨⟨id, hget⟩, -⟩ := mem_boundTo.1 hf
    rw [Function.comp_apply, hc.flowsKeyed id f hget]
    exact hget
  rw [List.filterMap_congr hself, List.filterMap_some]

/-- The entries of a launch of a cached schedule: one for each cached flow that is active and bound to it, by
id, with the names in the cache. -/
def announced (c : Cache) (e : PlannedLaunch) : List UpcomingLaunch :=
  match c.schedules.get? e.scheduleId with
  | none => []
  | some s => (c.boundTo e.scheduleId).map (viewOf e s)

theorem IsLinked.linked_eq (hc : c.IsLinked) : c.linked = c.announced := by
  funext e
  rw [linked, announced, hc.flowsOf_eq]

theorem mem_announced : u ∈ c.announced e ↔ ∃ s f, c.schedules.get? e.scheduleId = some s ∧
    f ∈ c.boundTo e.scheduleId ∧ u = viewOf e s f := by
  rw [announced]
  cases hs : c.schedules.get? e.scheduleId with
  | none => simp
  | some s => simp [eq_comm]

end Cache

namespace Planner

variable {p : Planner} {settings : SchedulerSettings} {now : Instant} {e : PlannedLaunch} {u : UpcomingLaunch}

/-- The states of a planner. Schedules are planned in no certain order, so launches of one instant may stand
in any. -/
inductive IsState (settings : SchedulerSettings) : Planner → Prop where
  | start {source : EntitySource} {now : Instant} {p : Planner} :
      Planner.start settings source now = .ok p → IsState settings p
  | tick {p : Planner} (now : Instant) : IsState settings p → IsState settings (p.tick now).1
  | change {p : Planner} (source : EntitySource) (change : Option EntityChange) :
      IsState settings p → IsState settings (p.applyChange source change).1
  | reorder {p : Planner} {launches : Lookahead} : IsState settings p →
      launches.entries.Perm p.launches.entries → IsState settings { p with launches }

theorem IsState.isLinked (h : p.IsState settings) : p.cache.IsLinked := by
  induction h with
  | start hstart => exact start_keeps Cache.IsLinked.refresh Cache.isLinked_empty hstart
  | tick now _ ih =>
    rw [tick_cache]
    exact ih
  | @change p source change _ ih =>
    rw [show (p.applyChange source change).1.cache = _ from take_cache p ⟨source, change⟩]
    exact refreshCache_keeps Cache.IsLinked.refresh ih
  | reorder _ _ ih => exact ih

theorem IsState.viewLimit_eq (h : p.IsState settings) : p.viewLimit = settings.upcomingViewLimit := by
  induction h with
  | @start source now p hstart =>
    rw [Planner.start] at hstart
    split at hstart
    · cases hstart
    · obtain rfl := Except.ok.inj hstart
      rfl
  | @tick p now _ ih =>
    rw [← ih]
    simp only [Planner.tick]
    split
    · rfl
    · rfl
  | @change p source change _ ih =>
    rw [← ih]
    rcases applyChange_cases p source change with h | ⟨h, -⟩
    · rw [h]
      rfl
    · rw [h]
  | reorder _ _ ih => exact ih

/-- A launch that is due submits the runs of its flows. -/
theorem submit_mem_tick {s : CompiledSchedule} {f : TaskFlow} (he : e ∈ p.launches)
    (hs : p.cache.schedules.get? e.scheduleId = some s) (hf : f ∈ p.cache.flowsOf e.scheduleId)
    (hle : e.instant ≤ now) : .submit (p.cache.prepare f
      (.scheduled e.scheduleId (s.zone.toOffset e.instant))) ∈ (p.tick now).2 := by
  have hdue : e ∈ p.launches.due now := by
    rw [Lookahead.mem_due, Lookahead.isDue, decide_eq_true_iff]
    exact ⟨he, Instant.lt_addNanos_one_iff_or.2 (.inl hle)⟩
  simp only [tick, List.mem_flatMap]
  refine ⟨e, hdue, List.mem_map_of_mem ?_⟩
  rw [Cache.runsOf, hs]
  exact List.mem_map_of_mem hf

/-- A view that shows the next launches of a planner. -/
structure ShowsNext (p : Planner) (limit : Nat) (view : List UpcomingLaunch) : Prop where
  eq_take : view = (p.launches.entries.flatMap p.cache.announced).take limit
  length_le : view.length ≤ limit
  /-- By instant; the flows of one launch by id. -/
  ascending : view.Pairwise fun u v => u.instant ≤ v.instant ∧
    (u.instant = v.instant → u.scheduleId = v.scheduleId → u.flowId < v.flowId)
  /-- What is shown has its names from the cache and is submitted by a look at the clock from this state, at or after
  its instant. -/
  submitted : ∀ u ∈ view, ∃ s f, p.cache.schedules.get? u.scheduleId = some s ∧
    p.cache.flows.get? u.flowId = some f ∧ u.scheduleName = s.name ∧ u.flowName = f.name ∧
    ∀ now, u.instant ≤ now → .submit (p.cache.prepare f
      (.scheduled u.scheduleId (s.zone.toOffset u.instant))) ∈ (p.tick now).2
  /-- What is left out is not earlier than what is shown. -/
  complete : ∀ u ∈ p.launches.entries.flatMap p.cache.announced, u ∉ view →
    ∀ v ∈ view, v.instant ≤ u.instant

/-- All entries stand by instant, and those of one launch by flow. -/
theorem pairwise_announced (hc : p.cache.IsLinked) :
    (p.launches.entries.flatMap p.cache.announced).Pairwise fun u v => u.instant ≤ v.instant ∧
      (u.instant = v.instant → u.scheduleId = v.scheduleId → u.flowId < v.flowId) := by
  rw [List.pairwise_flatMap]
  constructor
  · intro e _
    rw [Cache.announced]
    cases p.cache.schedules.get? e.scheduleId with
    | none => exact .nil
    | some s =>
      rw [List.pairwise_map]
      have hids := hc.pairwise_boundTo e.scheduleId
      rw [List.pairwise_map] at hids
      refine hids.imp fun hlt => ?_
      exact ⟨Instant.le_refl _, fun _ _ => hlt⟩
  · refine (p.launches.ascending.and p.launches.nodup).imp fun {e e'} ⟨hle, hne⟩ u hu v hv => ?_
    obtain ⟨s, f, -, -, rfl⟩ := Cache.mem_announced.1 hu
    obtain ⟨s', f', -, -, rfl⟩ := Cache.mem_announced.1 hv
    refine ⟨hle, fun hinstant hschedule => absurd ?_ hne⟩
    cases e
    cases e'
    cases hinstant
    cases hschedule
    rfl

/-- In every state the published view shows the next launches, as many as the settings allow. -/
theorem IsState.publish_showsNext (h : p.IsState settings) :
    p.ShowsNext settings.upcomingViewLimit p.publish.upcoming := by
  have hc := h.isLinked
  have heq : p.publish.upcoming =
      (p.launches.entries.flatMap p.cache.announced).take settings.upcomingViewLimit := by
    have hcollect := Cache.toList_collect (c := p.cache) p.launches.entries #[] (Nat.zero_le p.viewLimit)
    rw [hc.linked_eq, h.viewLimit_eq] at hcollect
    rw [publish, h.viewLimit_eq]
    exact hcollect
  have hpairwise := pairwise_announced hc
  rw [heq]
  refine ⟨rfl, List.length_take_le _ _, hpairwise.sublist (List.take_sublist _ _), ?_, ?_⟩
  · intro u hu
    obtain ⟨e, he, hu⟩ := List.mem_flatMap.1 (List.mem_of_mem_take hu)
    obtain ⟨s, f, hs, hf, rfl⟩ := Cache.mem_announced.1 hu
    obtain ⟨⟨id, hget⟩, -⟩ := Cache.mem_boundTo.1 hf
    have hid := hc.flowsKeyed id f hget
    refine ⟨s, f, hs, ?_, rfl, rfl, fun now hle => ?_⟩
    · rw [← hid] at hget
      exact hget
    · rw [← hc.flowsOf_eq] at hf
      exact submit_mem_tick he hs hf hle
  · intro u hu hnot v hv
    have hdrop : u ∈ (p.launches.entries.flatMap p.cache.announced).drop settings.upcomingViewLimit := by
      rw [← List.take_append_drop settings.upcomingViewLimit
        (p.launches.entries.flatMap p.cache.announced), List.mem_append] at hu
      exact hu.resolve_left hnot
    rw [← List.take_append_drop settings.upcomingViewLimit
      (p.launches.entries.flatMap p.cache.announced), List.pairwise_append] at hpairwise
    exact (hpairwise.2.2 v hv u hdrop).1

/-! ### A view with room for one flow -/

private def eightSharp : TimeOfDay := ((Instant.ofSecond 28800).shownAt 0).time

private def daily8 : Schedule where
  id := 4
  name := "morning"
  rules := [{ hours := "08:00:00" }]

private def daily8Compiled : CompiledSchedule where
  id := 4
  name := "morning"
  zone := .host
  rules := [⟨.listed, #[eightSharp], .full 12, .full 7, .any⟩]

private def atEight (id : Int) (name : String) (active : Bool) : TaskFlow where
  id := id
  name := name
  active := active
  scheduleId := 4
  steps := [{ index := 1, taskId := 1 }]

private def threeFlows : EntitySource where
  agents _ := .ok []
  tasks _ := .ok []
  queues _ := .ok []
  flows _ := .ok [atEight 8 "report" true, atEight 7 "backup" true, atEight 6 "cleanup" false]
  schedules _ := .ok [daily8]

private theorem daily8_compile : daily8.compile = .ok daily8Compiled := by
  have hsorted : TimeOfDay.ascending [eightSharp] = [eightSharp] := by cbv
  have hread : TimeOfDay.listOfText "08:00:00" = .ok (TimeOfDay.ascending [eightSharp]) := rfl
  have hrule : Rule.ofDefinition { hours := "08:00:00" } =
      .ok ⟨.listed, #[eightSharp], .full 12, .full 7, .any⟩ := by
    simp only [Rule.ofDefinition, Rule.timesOf, hread, hsorted]
    rfl
  have hzone : Zone.resolve "" = .host := by decide +kernel
  simp only [Schedule.compile, daily8, Rule.listOf, hrule, hzone]
  rfl

/-- Half past seven on the first of January 2024. -/
private def halfPastSeven : Instant := .ofSecond 1704094200

/-- Eight o'clock, so many days later. -/
private def eightAfter (days : Int) : Instant := .ofSecond (1704096000 + days * 86400)

private theorem daily8_launches :
    daily8Compiled.launchesUntil (halfPastSeven.addNanos 1800000000000) halfPastSeven = [eightAfter 0] := by
  have hfirst : daily8Compiled.next? halfPastSeven = some (eightAfter 0) := by cbv
  have hsecond : daily8Compiled.next? (eightAfter 0) = some (eightAfter 1) := by cbv
  rw [CompiledSchedule.launchesUntil_of_eq_some hfirst, if_pos (by decide),
    CompiledSchedule.launchesUntil_of_eq_some hsecond, if_neg (by decide)]

private theorem threeFlows_schedules :
    (Cache.refreshAll {} threeFlows).1.schedules.values = [daily8Compiled] := by
  have hread : (Cache.refreshAll {} threeFlows).1.schedules =
      ById.refresh (·.id) none (Cache.compiled [daily8]) ∅ := rfl
  rw [hread, Cache.compiled, List.filterMap_cons, daily8_compile]
  rfl

/-- Two flows are launched at eight; the view has room for the first of them. -/
theorem publish_showsNext_first_of_two :
    let settings : SchedulerSettings := { upcomingViewLimit := 1 }
    ∃ p, Planner.start settings threeFlows halfPastSeven = .ok p ∧ p.ShowsNext 1 p.publish.upcoming ∧
      p.publish.upcoming = [⟨eightAfter 0, 4, "morning", 7, "backup"⟩] := by
  intro settings
  let cache := (Cache.refreshAll {} threeFlows).1
  have hstart : Planner.start settings threeFlows halfPastSeven = .ok (ofCache settings cache halfPastSeven) :=
    rfl
  have hshows := (IsState.start hstart).publish_showsNext
  refine ⟨_, hstart, hshows, ?_⟩
  have hvalues : cache.schedules.values = [daily8Compiled] := threeFlows_schedules
  have hentries : (ofCache settings cache halfPastSeven).launches.entries = [⟨eightAfter 0, 4⟩] := by
    have hlookahead : settings.lookaheadNanos = 1800000000000 := by decide
    simp only [ofCache, publish_launches, recompute, hvalues, hlookahead]
    change Lookahead.merge 4 [] (daily8Compiled.launchesUntil _ halfPastSeven) = _
    rw [daily8_launches]
    simp [Lookahead.merge]
  rw [hshows.eq_take, hentries]
  rfl

end Planner

end FlowScheduler
