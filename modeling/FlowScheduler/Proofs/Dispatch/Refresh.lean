import Mathlib
import FlowScheduler.Dispatch.Planner
import FlowScheduler.Proofs.Dispatch.Launches

/-!
What refreshes do to the cached schedules.

Only a refresh of the schedules touches them, and it puts what the source lists under its own ids
(`Cache.refresh_schedules`). As the schedules are loaded last, a refresh of everything either reports them
or leaves them as they were (`Cache.refreshAll_schedules`).
-/

namespace FlowScheduler

namespace ById

variable {α : Type} {key : α → Int} {m : ById α} {as : List α} {id : Int} {a : α}

theorem of_get?_insertAll (h : (m.insertAll key as).get? id = some a) :
    (a ∈ as ∧ key a = id) ∨ m.get? id = some a := by
  induction as generalizing m with
  | nil => exact .inr h
  | cons b as ih =>
    rcases ih (m := m.insert (key b) b) h with ⟨ha, hid⟩ | h
    · exact .inl ⟨List.mem_cons_of_mem _ ha, hid⟩
    · rw [get?_insert] at h
      split at h
      · next heq =>
        cases h
        exact .inl ⟨List.mem_cons_self, heq.symm⟩
      · exact .inr h

theorem of_get?_refresh {only : Option Int} (h : (m.refresh key only as).get? id = some a) :
    (a ∈ as ∧ key a = id) ∨ m.get? id = some a := by
  cases only with
  | none =>
    rcases of_get?_insertAll h with h | h
    · exact .inl h
    · rw [get?_empty] at h
      cases h
  | some i =>
    rcases of_get?_insertAll h with h | h
    · exact .inl h
    · rw [get?_erase] at h
      split at h
      · cases h
      · exact .inr h

end ById

/-- Whether the launches of a schedule stay out of leap seconds. -/
def CompiledSchedule.IsLeapFree (s : CompiledSchedule) : Prop :=
  ∀ r ∈ s.rules, ∀ t ∈ r.times, ¬t.isLeapSecond

/-- Whether a source lists only schedules whose launches stay out of leap seconds. -/
def EntitySource.IsLeapFree (source : EntitySource) : Prop :=
  ∀ id schedules, source.schedules id = .ok schedules →
    ∀ s ∈ Cache.compiled schedules, s.IsLeapFree

namespace Cache

variable {c c' : Cache} {source : EntitySource} {change : EntityChange} {report : RefreshReport}
  {reports : List RefreshReport} {kinds : List EntityKind}

/-- Whether each cached schedule stands under its own id and stays out of leap seconds. -/
structure IsLeapFree (c : Cache) : Prop where
  keyed : c.IsKeyed
  leapFree : ∀ id s, c.schedules.get? id = some s → s.IsLeapFree

theorem isLeapFree_empty : IsLeapFree {} := by
  constructor
  · intro id s hs
    rw [ById.get?_empty] at hs
    cases hs
  · intro id s hs
    rw [ById.get?_empty] at hs
    cases hs

/-- What a refresh that succeeds has read, and what it makes of the cache. -/
inductive Refreshed (c : Cache) (source : EntitySource) (id : Option Int) :
    EntityKind → Cache → RefreshReport → Prop
  | agent {agents} (h : source.agents id = .ok agents) : Refreshed c source id .agent
      { c with agents := c.agents.refresh (·.id) id agents } { kind := .agent }
  | task {tasks} (h : source.tasks id = .ok tasks) : Refreshed c source id .task
      { c with tasks := c.tasks.refresh (·.id) id tasks } { kind := .task }
  | taskFlow {flows} (h : source.flows id = .ok flows) : Refreshed c source id .taskFlow
      (relink { c with flows := c.flows.refresh (·.id) id flows }) { kind := .taskFlow }
  | queue {queues} (h : source.queues id = .ok queues) {now : ById Queue}
      (hnow : now = c.queues.refresh (·.id) id (queues.map Queue.normalize)) :
      Refreshed c source id .queue { c with queues := now }
        { kind := .queue, removedQueues := c.queues.ids.filter fun id => !now.contains id }
  | schedule {schedules} (h : source.schedules id = .ok schedules) : Refreshed c source id .schedule
      (relink { c with schedules := c.schedules.refresh (·.id) id (compiled schedules) })
      { kind := .schedule }

theorem refreshed_of_refresh (h : c.refresh source change = .ok (c', report)) :
    c.Refreshed source change.id change.kind c' report := by
  obtain ⟨kind, id⟩ := change
  cases kind with
  | agent | task | taskFlow | schedule =>
    simp only [refresh, bind, Except.bind, pure, Except.pure] at h
    split at h
    · cases h
    · next hread =>
      cases h
      constructor
      exact hread
  | queue =>
    simp only [refresh, bind, Except.bind, pure, Except.pure] at h
    split at h
    · cases h
    · next hread =>
      cases h
      exact .queue hread rfl

theorem refresh_schedules (h : c.refresh source change = .ok (c', report)) :
    report.kind = change.kind ∧ (change.kind ≠ .schedule ∧ c'.schedules = c.schedules ∨
      change.kind = .schedule ∧ ∃ schedules, source.schedules change.id = .ok schedules ∧
        c'.schedules = c.schedules.refresh (·.id) change.id (compiled schedules)) := by
  obtain ⟨kind, id⟩ := change
  cases refreshed_of_refresh h with
  | agent | task | taskFlow | queue => exact ⟨rfl, .inl ⟨by simp, rfl⟩⟩
  | schedule hread => exact ⟨rfl, .inr ⟨rfl, _, hread, rfl⟩⟩

theorem IsLeapFree.refresh (hc : c.IsLeapFree) (hsource : source.IsLeapFree)
    (h : c.refresh source change = .ok (c', report)) : c'.IsLeapFree := by
  rcases (refresh_schedules h).2 with ⟨-, heq⟩ | ⟨-, schedules, hread, heq⟩
  · refine ⟨fun id s hs => hc.keyed id s ?_, fun id s hs => hc.leapFree id s ?_⟩
    · rwa [← heq]
    · rwa [← heq]
  · refine ⟨fun id s hs => ?_, fun id s hs => ?_⟩
    · rw [heq] at hs
      rcases ById.of_get?_refresh hs with ⟨-, hid⟩ | hs
      · exact hid
      · exact hc.keyed id s hs
    · rw [heq] at hs
      rcases ById.of_get?_refresh hs with ⟨hmem, -⟩ | hs
      · exact hsource change.id schedules hread s hmem
      · exact hc.leapFree id s hs

/-- What each refresh of a kind keeps is kept by a refresh of several, also if that fails. -/
theorem refreshKinds_keeps {P : Cache → Prop}
    (hP : ∀ {c c' change report}, P c → c.refresh source change = .ok (c', report) → P c')
    (hc : P c) : P (refreshKinds source kinds c).1 := by
  induction kinds generalizing c with
  | nil => exact hc
  | cons kind kinds ih =>
    rw [refreshKinds]
    split
    · exact hc
    · next c' report hrefresh => exact ih (hP hc hrefresh)

/-- A refresh of kinds that succeeds has refreshed the first, and then the others. -/
theorem refreshKinds_cons_eq_ok {kind : EntityKind}
    (h : refreshKinds source (kind :: kinds) c = (c', .ok reports)) :
    ∃ d report rest, c.refresh source { kind } = .ok (d, report) ∧
      refreshKinds source kinds d = (c', .ok rest) ∧ reports = report :: rest := by
  rw [Cache.refreshKinds] at h
  split at h
  · cases h
  · next d report hrefresh =>
    cases hrest : refreshKinds source kinds d with
    | mk d' result =>
      rw [hrest] at h
      cases result with
      | error e => cases h
      | ok rest =>
        cases h
        exact ⟨d, report, rest, hrefresh, hrest, rfl⟩

/-- A refresh that succeeds reports each kind. -/
theorem kinds_of_refreshKinds (h : refreshKinds source kinds c = (c', .ok reports)) :
    reports.map (·.kind) = kinds := by
  induction kinds generalizing c reports with
  | nil =>
    cases h
    rfl
  | cons kind kinds ih =>
    obtain ⟨d, report, rest, hrefresh, hrest, rfl⟩ := refreshKinds_cons_eq_ok h
    rw [List.map_cons, (refresh_schedules hrefresh).1, ih hrest]

/-- A refresh that fails has not touched the schedules if they come last. -/
theorem schedules_of_refreshKinds {last : EntityKind} {e : SchedulerError}
    (hkinds : ∀ kind ∈ kinds, kind ≠ .schedule)
    (h : refreshKinds source (kinds ++ [last]) c = (c', .error e)) : c'.schedules = c.schedules := by
  induction kinds generalizing c with
  | nil =>
    rw [List.nil_append, Cache.refreshKinds] at h
    split at h
    · cases h
      rfl
    · cases h
  | cons kind kinds ih =>
    rw [List.cons_append, Cache.refreshKinds] at h
    split at h
    · cases h
      rfl
    · next d report hrefresh =>
      have hd : d.schedules = c.schedules := by
        rcases (refresh_schedules hrefresh).2 with ⟨-, hd⟩ | ⟨hkind, -⟩
        · exact hd
        · exact absurd hkind (hkinds kind List.mem_cons_self)
      cases hrest : refreshKinds source (kinds ++ [last]) d with
      | mk d' result =>
        rw [hrest] at h
        cases result with
        | error e' =>
          cases h
          rw [← hd]
          exact ih (fun kind hmem => hkinds kind (List.mem_cons_of_mem _ hmem)) hrest
        | ok rest => cases h

end Cache

/-! ### Changes taken in by the planner -/

namespace Planner

variable {p : Planner} {source : EntitySource} {change : Option EntityChange}

theorem refreshCache_keeps {P : Cache → Prop} {c : Cache}
    (hP : ∀ {c c' change report}, P c → c.refresh source change = .ok (c', report) → P c')
    (hc : P c) : P (refreshCache c source change).1 := by
  cases change with
  | none => exact Cache.refreshKinds_keeps hP hc
  | some change =>
    rw [refreshCache]
    split
    · exact hc
    · next c' report hrefresh => exact hP hc hrefresh

theorem start_keeps {P : Cache → Prop} {settings : SchedulerSettings} {now : Instant}
    (hP : ∀ {c c' change report}, P c → c.refresh source change = .ok (c', report) → P c')
    (hempty : P {}) (h : Planner.start settings source now = .ok p) : P p.cache := by
  rw [Planner.start] at h
  split at h
  · cases h
  · next c reports hrefresh =>
    obtain rfl := Except.ok.inj h
    have hc : P (Cache.refreshAll {} source).1 := Cache.refreshKinds_keeps hP hempty
    rwa [hrefresh] at hc

theorem refreshCache_isLeapFree {c : Cache} (hc : c.IsLeapFree) (hsource : source.IsLeapFree) :
    (refreshCache c source change).1.IsLeapFree :=
  refreshCache_keeps (fun hc h => hc.refresh hsource h) hc

/-- A refresh that fails, or reports no schedules, has left the schedules as they were. -/
theorem refreshCache_schedules {c c' : Cache} {result : Except SchedulerError (List RefreshReport)}
    (h : refreshCache c source change = (c', result))
    (hreports : ∀ reports, result = .ok reports → ∀ r ∈ reports, r.kind ≠ .schedule) :
    c'.schedules = c.schedules := by
  cases change with
  | none =>
    cases result with
    | error e =>
      have hkinds : ∀ kind ∈ [EntityKind.agent, .task, .queue, .taskFlow], kind ≠ .schedule := by simp
      exact Cache.schedules_of_refreshKinds hkinds h
    | ok reports =>
      have hkinds : EntityKind.schedule ∈ reports.map (·.kind) := by
        rw [Cache.kinds_of_refreshKinds h]
        decide
      obtain ⟨r, hr, hkind⟩ := List.mem_map.1 hkinds
      exact absurd hkind (hreports reports rfl r hr)
  | some change =>
    rw [refreshCache] at h
    split at h
    · cases h
      rfl
    · next d report hrefresh =>
      cases h
      obtain ⟨hkind, ⟨-, hsame⟩ | ⟨hschedule, -⟩⟩ := Cache.refresh_schedules hrefresh
      · exact hsame
      · exact absurd (hkind.trans hschedule) (hreports _ rfl report List.mem_cons_self)

/-- A change is followed by planning anew, or it has left the schedules as they were. -/
theorem applyChange_cases (p : Planner) (source : EntitySource) (change : Option EntityChange) :
    let q := { p with cache := (refreshCache p.cache source change).1 }
    (p.applyChange source change).1 = (q.recompute p.reference).publish ∨
      (p.applyChange source change).1 = q ∧ q.cache.schedules = p.cache.schedules := by
  intro q
  simp only [applyChange]
  split
  · next e hresult =>
    have hpair : refreshCache p.cache source change = (q.cache, .error e) := Prod.ext rfl hresult
    refine .inr ⟨rfl, refreshCache_schedules hpair ?_⟩
    intro reports hok
    cases hok
  · next reports hresult =>
    have hpair : refreshCache p.cache source change = (q.cache, .ok reports) := Prod.ext rfl hresult
    split
    · exact .inl rfl
    · next hno =>
      refine .inr ⟨rfl, refreshCache_schedules hpair ?_⟩
      intro reports' hok r hr hkind
      cases hok
      exact hno (List.any_eq_true.2 ⟨r, hr, by simp [hkind]⟩)

end Planner

end FlowScheduler
