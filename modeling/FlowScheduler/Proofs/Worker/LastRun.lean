import Mathlib
import FlowScheduler.Proofs.Repository.Served
import FlowScheduler.Proofs.Worker.Correspondence

/-!
Which outcome is on record for a flow once all outcomes have been saved.

The worker hands each outcome to a task of its own that saves it, and nothing orders these tasks
(`SavingSite.Step`). What stays on record for a flow is the outcome whose save came last
(`SavingSite.Keeps`). That is the outcome of the run that ended last, unless the save of an earlier run has
overtaken its own (`SavingSite.Reachable.lastOutcome_iff_not_overtaken`).
-/

namespace FlowScheduler

namespace WorkerSite

variable {s s' : WorkerSite} {m : WorkerMove} {flowId : Int} {k : Nat} {r : PreparedRun}

/-- A run of a flow ended as the `k`-th of all runs, and no run of the flow has ended after it. -/
structure EndedLast (s : WorkerSite) (flowId : Int) (k : Nat) (r : PreparedRun) : Prop where
  ended_at : s.ended[k]? = some r
  flowId_eq : r.flowId = flowId
  le_of_ended : ∀ i o, s.ended[i]? = some o → o.flowId = flowId → i ≤ k

/-- Outcomes that are to be saved stay so. -/
theorem Step.saves_grow (h : s.Step m s') : s.saves <+: s'.saves := by
  cases h with
  | submit | updateQueue | housekeeping | deliver | check => exact List.prefix_append ..
  | finish => exact List.prefix_rfl

end WorkerSite

/-- A worker and the repository in which tasks of their own save the outcomes of its runs. -/
structure SavingSite where
  site : WorkerSite
  store : RepositorySite
  /-- The saves that have been performed, by their places among those of the worker. -/
  performed : List Nat := []

namespace SavingSite

/-- What can happen next: the worker moves, a save that waits is performed, or the repository is put to
another use. -/
inductive Step (s : SavingSite) : SavingSite → Prop where
  | work {m : WorkerMove} {site : WorkerSite} : s.site.Step m site → Step s { s with site }
  | save {i : Nat} {flowId : Int} {outcome : RunOutcome} : s.site.saves[i]? = some (flowId, outcome) →
      i ∉ s.performed →
      Step s { s with
        store := s.store.perform (.save flowId outcome), performed := s.performed ++ [i] }
  | use {e : RepositoryEvent} : (∀ flowId, e.saved? flowId = none) →
      Step s { s with store := s.store.perform e }

/-- What a worker and a repository come to from the worker's start. -/
inductive Reachable (settings : WorkerSettings) (queues : List Queue) (start : Instant)
    (store : RepositorySite) : SavingSite → Prop where
  | init : Reachable settings queues start store { site := { worker := .init settings queues start }, store }
  | step {s s' : SavingSite} : Reachable settings queues start store s → s.Step s' →
      Reachable settings queues start store s'

/-- Whether no save waits any more. -/
def IsSettled (s : SavingSite) : Prop := ∀ i < s.site.saves.length, i ∈ s.performed

/-- The saves for a flow that have been performed, in the order of their performance. -/
def performedFor (s : SavingSite) (flowId : Int) : List Nat :=
  s.performed.filter fun i => s.site.saves[i]?.any (·.1 = flowId)

/-- The save for the run of a flow that ended last came before that of an earlier run with another
outcome. -/
structure Overtaken (s : SavingSite) (flowId : Int) (k : Nat) (r : PreparedRun) : Prop where
  endedLast : s.site.EndedLast flowId k r
  earlier : ∃ i o, (s.performedFor flowId).getLast? = some i ∧ s.site.ended[i]? = some o ∧ i < k ∧
    o.outcome ≠ r.outcome

variable {settings : WorkerSettings} {queues : List Queue} {start : Instant} {store : RepositorySite}
  {s s' : SavingSite} {flowId : Int} {i k : Nat} {r : PreparedRun}

theorem mem_performedFor : i ∈ s.performedFor flowId ↔
    i ∈ s.performed ∧ ∃ outcome, s.site.saves[i]? = some (flowId, outcome) := by
  simp [performedFor, Option.any_eq_true]

/-! ### What is on record -/

/-- The outcome on record for a flow is the one whose save came last, if there was any. -/
structure Keeps (store : RepositorySite) (s : SavingSite) : Prop where
  nodup : s.performed.Nodup
  lt_length : ∀ i ∈ s.performed, i < s.site.saves.length
  record : ∀ flowId, s.store.repository.lastOutcome? flowId =
    (((s.performedFor flowId).getLast?.bind fun i => s.site.saves[i]?.map (·.2))).or
      (store.repository.lastOutcome? flowId)

/-- More outcomes that are to be saved do not touch what has been saved. -/
theorem Keeps.work (h : s.Keeps store) {site : WorkerSite} (hgrows : s.site.saves <+: site.saves) :
    Keeps store { s with site } := by
  have hsame : ∀ i ∈ s.performed, site.saves[i]? = s.site.saves[i]? := by
    intro i hi
    obtain ⟨more, hmore⟩ := hgrows
    rw [← hmore, List.getElem?_append_left (h.lt_length i hi)]
  refine ⟨h.nodup, fun i hi => Nat.lt_of_lt_of_le (h.lt_length i hi) hgrows.length_le, fun flowId => ?_⟩
  have hfor : performedFor { s with site } flowId = s.performedFor flowId :=
    List.filter_congr fun i hi => by rw [hsame i hi]
  rw [h.record, hfor]
  cases hlast : (s.performedFor flowId).getLast? with
  | none => rfl
  | some i =>
    have hi : i ∈ s.performed := (mem_performedFor.1 (List.mem_of_getLast? hlast)).1
    simp only [Option.bind_some, hsame i hi]

/-- A save becomes the one that came last for its flow, and counts for no other. -/
theorem performedFor_save {outcome : RunOutcome} (hsave : s.site.saves[i]? = some (flowId, outcome))
    (store : RepositorySite) (other : Int) :
    performedFor { s with store, performed := s.performed ++ [i] } other =
      if flowId = other then s.performedFor other ++ [i] else s.performedFor other := by
  rw [performedFor, List.filter_append]
  by_cases hflow : flowId = other
  · simp [performedFor, hsave, hflow]
  · simp [performedFor, hsave, hflow]

theorem Keeps.save (h : s.Keeps store) {outcome : RunOutcome}
    (hsave : s.site.saves[i]? = some (flowId, outcome)) (hnew : i ∉ s.performed) :
    Keeps store { s with
      store := s.store.perform (.save flowId outcome), performed := s.performed ++ [i] } := by
  obtain ⟨hlt, -⟩ := List.getElem?_eq_some_iff.1 hsave
  refine ⟨?_, fun j hj => ?_, fun other => ?_⟩
  · rw [← List.concat_eq_append]
    exact .concat hnew h.nodup
  · rcases List.mem_append.1 hj with hj | hj
    · exact h.lt_length j hj
    · rw [List.mem_singleton.1 hj]
      exact hlt
  · rw [RepositorySite.lastOutcome?_perform, h.record, performedFor_save hsave, RepositoryEvent.saved?]
    by_cases hflow : flowId = other
    · simp [hflow, hsave]
    · simp [hflow]

theorem Keeps.step (h : s.Keeps store) (hs : s.Step s') : s'.Keeps store := by
  cases hs with
  | work hm => exact h.work hm.saves_grow
  | save hsave hnew => exact h.save hsave hnew
  | @use e hnone =>
    refine ⟨h.nodup, h.lt_length, fun flowId => ?_⟩
    rw [RepositorySite.lastOutcome?_perform, hnone flowId, Option.none_or]
    exact h.record flowId

theorem Reachable.keeps (h : Reachable settings queues start store s) : s.Keeps store := by
  induction h with
  | init =>
    refine ⟨.nil, fun i hi => ?_, fun flowId => rfl⟩
    cases hi
  | step _ hs ih => exact ih.step hs

theorem Reachable.site (h : Reachable settings queues start store s) :
    s.site.Reachable settings queues start := by
  induction h with
  | init => exact .init
  | step _ hs ih =>
    cases hs with
    | work hm => exact .step ih hm
    | save | use => exact ih

/-- The save at a place is that of the run that ended there. -/
theorem Reachable.saves_getElem? (h : Reachable settings queues start store s) (i : Nat) :
    s.site.saves[i]? = (s.site.ended[i]?).map fun r => (r.flowId, r.outcome) := by
  rw [h.site.sound.saves_eq, List.getElem?_map]

theorem Reachable.mem_performedFor_iff (h : Reachable settings queues start store s)
    (hsettled : s.IsSettled) :
    i ∈ s.performedFor flowId ↔ ∃ r, s.site.ended[i]? = some r ∧ r.flowId = flowId := by
  rw [mem_performedFor, h.saves_getElem?]
  constructor
  · rintro ⟨-, outcome, hi⟩
    obtain ⟨r, hr, heq⟩ := Option.map_eq_some_iff.1 hi
    exact ⟨r, hr, congrArg Prod.fst heq⟩
  · rintro ⟨r, hr, rfl⟩
    refine ⟨hsettled i ?_, r.outcome, by rw [hr]; rfl⟩
    rw [h.site.sound.saves_eq, List.length_map]
    exact (List.getElem?_eq_some_iff.1 hr).1

/-- The save for a flow that came last is that of one of its runs, whose outcome is on record. -/
theorem Reachable.exists_last (h : Reachable settings queues start store s) (hsettled : s.IsSettled)
    (hlast : s.site.EndedLast flowId k r) :
    ∃ i o, (s.performedFor flowId).getLast? = some i ∧ s.site.ended[i]? = some o ∧ i ≤ k ∧
      s.store.repository.lastOutcome? flowId = some o.outcome := by
  have hk : k ∈ s.performedFor flowId :=
    (h.mem_performedFor_iff hsettled).2 ⟨r, hlast.ended_at, hlast.flowId_eq⟩
  obtain ⟨i, hi⟩ := Option.ne_none_iff_exists'.1 fun hnone =>
    List.ne_nil_of_mem hk (List.getLast?_eq_none_iff.1 hnone)
  obtain ⟨o, ho, hflow⟩ := (h.mem_performedFor_iff hsettled).1 (List.mem_of_getLast? hi)
  refine ⟨i, o, hi, ho, hlast.le_of_ended i o ho hflow, ?_⟩
  rw [h.keeps.record, hi]
  simp only [Option.bind_some, h.saves_getElem?, ho]
  rfl

/-- Once all outcomes have been saved, the outcome of the run of a flow that ended last is on record, unless its
save has been overtaken; so it is if the saves for the flow came in the order in which its runs ended. For a
flow of which no run has ended nothing changes. -/
theorem Reachable.lastOutcome_iff_not_overtaken (h : Reachable settings queues start store s)
    (hsettled : s.IsSettled) (flowId : Int) :
    (∀ k r, s.site.EndedLast flowId k r →
      (s.store.repository.lastOutcome? flowId = some r.outcome ↔ ¬s.Overtaken flowId k r) ∧
      ((s.performedFor flowId).Pairwise (· < ·) →
        s.store.repository.lastOutcome? flowId = some r.outcome)) ∧
    ((∀ r ∈ s.site.ended, r.flowId ≠ flowId) →
      s.store.repository.lastOutcome? flowId = store.repository.lastOutcome? flowId) := by
  refine ⟨fun k r hlast => ?_, fun hnone => ?_⟩
  · obtain ⟨i, o, hi, ho, hle, hrecord⟩ := h.exists_last hsettled hlast
    have hself (heq : i = k) : o = r := by
      rw [heq, hlast.ended_at] at ho
      exact (Option.some.inj ho).symm
    have hiff : s.store.repository.lastOutcome? flowId = some r.outcome ↔ ¬s.Overtaken flowId k r := by
      rw [hrecord, Option.some.injEq]
      constructor
      · rintro heq ⟨-, i', o', hi', ho', -, hne⟩
        rw [hi, Option.some.injEq] at hi'
        rw [← hi', ho, Option.some.injEq] at ho'
        exact hne (ho' ▸ heq)
      · intro hnot
        rcases Nat.eq_or_lt_of_le hle with heq | hlt
        · rw [hself heq]
        · by_contra hne
          exact hnot ⟨hlast, i, o, hi, ho, hlt, hne⟩
    refine ⟨hiff, fun hpairwise => ?_⟩
    -- In an ascending list of places the last is the greatest, and the run's own is among them.
    have hk : k ∈ s.performedFor flowId :=
      (h.mem_performedFor_iff hsettled).2 ⟨r, hlast.ended_at, hlast.flowId_eq⟩
    obtain ⟨front, hfront⟩ := List.getLast?_eq_some_iff.1 hi
    rw [hfront] at hpairwise hk
    rcases List.mem_append.1 hk with hk | hk
    · have hlt := (List.pairwise_append.1 hpairwise).2.2 k hk i List.mem_cons_self
      omega
    · rw [hrecord, hself (List.mem_singleton.1 hk).symm]
  · have hempty : s.performedFor flowId = [] := by
      refine List.eq_nil_iff_forall_not_mem.2 fun i hi => ?_
      obtain ⟨r, hr, hflow⟩ := (h.mem_performedFor_iff hsettled).1 hi
      exact hnone r (List.mem_of_getElem? hr) hflow
    rw [h.keeps.record, hempty]
    rfl

/-! ### A launch that is rejected right after a run -/

/-- Nothing need have been saved yet. -/
theorem Reachable.of_site {site : WorkerSite} (h : site.Reachable settings queues start) :
    Reachable settings queues start store { site, store } := by
  induction h with
  | init => exact .init
  | step _ hm ih => exact .step ih (.work hm)

private def noon : Instant := .ofSecond 1704110400

private def later : Instant := .ofSecond 1704110460

private def exporting : PreparedRun := .ofTrigger 1 "export" (.manual "operator" (.utc noon))

private def rejected : PreparedRun := exporting.reject "Task ID 1 : agent not found"

private def submitted (s : WorkerSite) (run : PreparedRun) (now : Instant) : WorkerSite :=
  (s.enlist run (s.worker.submit run now)).absorb (s.worker.react now (.submit run))

private def checked (s : WorkerSite) (now : Instant) : WorkerSite := s.absorb (s.worker.checkRuns now)

private def exported : WorkerSite :=
  checked (submitted { worker := .init {} [] noon } exporting noon) noon

private def reported : WorkerSite :=
  { exported with
    executing := exported.executing.erase 1
    feedback := exported.feedback ++ [(1, ⟨.ok, "done"⟩)] }

private def finished : WorkerSite :=
  WorkerSite.absorb { reported with feedback := [], processed := reported.processed ++ [1] }
    (reported.worker.react later (.complete 1 ⟨.ok, "done"⟩))

/-- The flow has run, and at the same time its next launch has been rejected. -/
private def bothEnded : WorkerSite := submitted (checked finished later) rejected later

private theorem bothEnded_reachable : bothEnded.Reachable {} [] noon := by
  have hexported : exported.Reachable {} [] noon :=
    .step (.step .init (.submit exporting noon rfl)) (.check noon rfl)
  have hreported : reported.Reachable {} [] noon :=
    .step hexported (.finish ⟨.ok, "done"⟩ (by decide))
  have hfinished : finished.Reachable {} [] noon := .step hreported (.deliver later rfl rfl)
  exact .step (.step hfinished (.check later rfl)) (.submit rejected later rfl)

private def lastOfBoth : PreparedRun := { rejected with seq := 2, state := .terminated, stoppedAt := some later }

private theorem bothEnded_endedLast : bothEnded.EndedLast 1 1 lastOfBoth where
  ended_at := by decide +kernel
  flowId_eq := rfl
  le_of_ended i o hi _ := by
    have hlength : bothEnded.ended.length = 2 := by decide +kernel
    obtain ⟨hlt, -⟩ := List.getElem?_eq_some_iff.1 hi
    omega

private def ranOutcome : RunOutcome := ⟨some noon, some later, .ok, "done"⟩

private theorem bothEnded_saves : bothEnded.saves = [(1, ranOutcome), (1, lastOfBoth.outcome)] := by
  decide +kernel

private def blank : RepositorySite := ⟨{}, { definitions := {} }⟩

private def savedInOrder : SavingSite where
  site := bothEnded
  store := (blank.perform (.save 1 ranOutcome)).perform (.save 1 lastOfBoth.outcome)
  performed := [0, 1]

private def savedInReverse : SavingSite where
  site := bothEnded
  store := (blank.perform (.save 1 lastOfBoth.outcome)).perform (.save 1 ranOutcome)
  performed := [1, 0]

private theorem bothEnded_first : bothEnded.saves[0]? = some (1, ranOutcome) := by
  rw [bothEnded_saves]
  rfl

private theorem bothEnded_second : bothEnded.saves[1]? = some (1, lastOfBoth.outcome) := by
  rw [bothEnded_saves]
  rfl

private theorem savedInOrder_reachable : Reachable {} [] noon blank savedInOrder :=
  .step (.step (.of_site bothEnded_reachable) (.save bothEnded_first (by simp)))
    (.save bothEnded_second (by simp))

private theorem savedInReverse_reachable : Reachable {} [] noon blank savedInReverse :=
  .step (.step (.of_site bothEnded_reachable) (.save bothEnded_second (by simp)))
    (.save bothEnded_first (by simp))

private theorem isSettled_of_both {s : SavingSite} (hsite : s.site = bothEnded) (hzero : 0 ∈ s.performed)
    (hone : 1 ∈ s.performed) : s.IsSettled := by
  intro i hi
  rw [hsite, bothEnded_saves] at hi
  match i, hi with
  | 0, _ => exact hzero
  | 1, _ => exact hone

/-- With the saves in order the rejection is on record; the other way round it has been overtaken. -/
theorem lastOutcome_iff_not_overtaken_either_way :
    savedInOrder.store.repository.lastOutcome? 1 = some lastOfBoth.outcome ∧
      savedInReverse.Overtaken 1 1 lastOfBoth := by
  have hinOrder := (savedInOrder_reachable.lastOutcome_iff_not_overtaken
    (isSettled_of_both rfl (by decide) (by decide)) 1).1 1 lastOfBoth bothEnded_endedLast
  have hinReverse := (savedInReverse_reachable.lastOutcome_iff_not_overtaken
    (isSettled_of_both rfl (by decide) (by decide)) 1).1 1 lastOfBoth bothEnded_endedLast
  refine ⟨hinOrder.2 ?_, ?_⟩
  · have hfor : savedInOrder.performedFor 1 = [0, 1] := by decide +kernel
    simp [hfor]
  · by_contra hnot
    exact absurd (hinReverse.1.2 hnot) (by decide +kernel)

/-- All outcomes have been saved, and on record is not that of the run that ended last. -/
theorem overtaken_outcome_stays :
    Reachable {} [] noon blank savedInReverse ∧ savedInReverse.IsSettled ∧
      savedInReverse.site.EndedLast 1 1 lastOfBoth ∧
      savedInReverse.store.repository.lastOutcome? 1 ≠ some lastOfBoth.outcome := by
  refine ⟨savedInReverse_reachable, isSettled_of_both rfl (by decide) (by decide), bothEnded_endedLast, ?_⟩
  decide +kernel

end SavingSite

end FlowScheduler
