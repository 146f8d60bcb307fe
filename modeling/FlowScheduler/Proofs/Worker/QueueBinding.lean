import Mathlib
import FlowScheduler.Proofs.Dispatch.Preparation
import FlowScheduler.Proofs.Dispatch.QueueSync
import FlowScheduler.Proofs.Worker.Duplicates

/-!
The queues that prepared runs are bound to, as the worker finds them.

Preparation takes every id that is not positive for the direct queue, while the worker looks the id up. Where a
worker has the direct queue and the cached ones (`Worker.HasQueuesOf`), it therefore knows the queue of a run that
can be launched if and only if the id is not negative, and a negative one makes it drop the run without a trace
(`Worker.submit_prepare`).
-/

namespace FlowScheduler

theorem identityKey_ne_empty (flowId : Int) (args : NamedArgs) : identityKey flowId args ≠ "" := by
  intro h
  have hkey := IdentityKey.toList_identityKey flowId args
  rw [h] at hkey
  cases hkey

namespace Worker

variable {w : Worker} {c : Cache} {run : PreparedRun}

/-- Whether a worker has the direct queue and the cached ones with positive ids, and no other. -/
def HasQueuesOf (w : Worker) (c : Cache) : Prop :=
  ∀ id, w.queues.contains id ↔ id = Queue.directId ∨ Queue.directId < id ∧ c.queues.contains id

/-- A worker that begins with the cached queues has them. -/
theorem hasQueuesOf_init (hc : c.HasQueues) (settings : WorkerSettings) (now : Instant) :
    (init settings c.queues.values now).HasQueuesOf c := by
  intro id
  rw [contains_iff_definition?, definition?_init]
  by_cases hid : Queue.directId < id
  · have hne : id ≠ Queue.directId := Int.ne_of_gt hid
    rw [hc.foldl_update hid, if_neg hne, Option.or_none, ById.contains]
    simp [hne, hid]
  · rw [Queue.foldl_update_eq_self fun _ _ _ => hid]
    by_cases hdirect : id = Queue.directId
    · simp [hdirect]
    · simp [hdirect, hid]

/-- Any operation but an update of queues leaves a worker with the queues that it has. -/
theorem HasQueuesOf.performAll (hw : w.HasQueuesOf c) {ops : List WorkerOperation}
    (hops : WorkerOperation.updates ops = []) : (w.performAll ops).HasQueuesOf c := by
  intro id
  rw [contains_iff_definition?, definition?_performAll, hops, List.foldl_nil,
    ← contains_iff_definition?]
  exact hw id

/-- A run with a key that can be launched is admitted if its key is not active, its queue is there and its queue
has room. -/
theorem submit_changed_iff (hkey : run.identity ≠ "") (hcannot : run.cannotLaunch = none)
    (now : Instant) : (w.submit run now).changed ↔ ¬w.isActive run.identity ∧
      w.queues.contains run.queueId ∧ ¬(w.recount.queues.get? run.queueId).any QueueState.isFull := by
  have hnot : ¬run.cannotLaunch.isSome := by simp [hcannot]
  rw [submit, if_neg hkey, if_neg hnot]
  split
  · next hactive => simp [hactive]
  split
  · next hmissing =>
    have hno : w.queues.contains run.queueId = false := by simpa using hmissing
    simp [hno]
  · next hactive hthere =>
    have hyes : w.queues.contains run.queueId := by simpa using hthere
    dsimp only
    split
    · next hfull => simp [hfull]
    · next hroom => simp [hactive, hyes, hroom]

theorem submit_of_not_contains (hcannot : run.cannotLaunch = none)
    (h : ¬w.queues.contains run.queueId) (now : Instant) : w.submit run now = { worker := w } := by
  have hnot : ¬run.cannotLaunch.isSome := by simp [hcannot]
  have hmissing : (!w.queues.contains run.queueId) = true := by simpa using h
  rw [submit, if_neg hnot, if_pos hmissing]
  split
  · rfl
  · split <;> rfl

/-- A worker with the cached queues knows the queue of a run that can be launched if and only if the flow names
no negative id. Then only an active key or a full queue keeps the run out; otherwise nothing is left of it. -/
theorem submit_prepare {c : Cache} {flow : TaskFlow} {trigger : Trigger}
    (hrun : (c.prepare flow trigger).cannotLaunch = none) {w : Worker} (hw : w.HasQueuesOf c)
    (now : Instant) :
    let run := c.prepare flow trigger
    (w.queues.contains run.queueId ↔ Queue.directId ≤ flow.queueId) ∧
      (Queue.directId ≤ flow.queueId → ((w.submit run now).changed ↔ ¬w.isActive run.identity ∧
        ¬(w.recount.queues.get? run.queueId).any QueueState.isFull)) ∧
      (flow.queueId < Queue.directId → w.submit run now = { worker := w }) := by
  intro run
  have hpasses := Cache.passes_prepare hrun
  have hknown : w.queues.contains run.queueId ↔ Queue.directId ≤ flow.queueId := by
    rw [c.queueId_prepare flow trigger, hw flow.queueId]
    constructor
    · rintro (hdirect | ⟨hpositive, -⟩)
      · exact Int.le_of_eq hdirect.symm
      · exact Int.le_of_lt hpositive
    · intro hle
      by_cases hdirect : flow.queueId = Queue.directId
      · exact .inl hdirect
      · have hpositive : Queue.directId < flow.queueId := by omega
        exact .inr ⟨hpositive, Cache.contains_of_queueName hpasses.queueName hpositive⟩
  refine ⟨hknown, fun hle => ?_, fun hlt => ?_⟩
  · have hkey : run.identity ≠ "" := by
      rw [c.identity_prepare flow trigger]
      exact identityKey_ne_empty _ _
    rw [submit_changed_iff hkey hrun, and_iff_right (hknown.2 hle)]
  · refine submit_of_not_contains hrun (fun hcontains => ?_) now
    have hle := hknown.1 hcontains
    omega

/-! ### Flows with a queue and with a negative id -/

private def eight : Instant := .ofSecond 1704096000

private def reports : Queue := { id := 5, name := "reports", slot := 1, maxSize := 2 }

private def reportCache : Cache where
  agents := (∅ : ById Agent).insert 1 { id := 1, host := "http://agent-1", apiKey := "" }
  tasks := (∅ : ById Task).insert 1
    { id := 1, name := "print", kind := .command "/bin/print" [] "", execOn := [1] }
  queues := (∅ : ById Queue).insert 5 reports

private def reportFlow (id queueId : Int) : TaskFlow where
  id := id
  name := "report"
  queueId := queueId
  manualLaunch := true
  steps := [{ index := 1, taskId := 1 }]

private def printed (id queueId : Int) : PreparedRun :=
  reportCache.prepare (reportFlow id queueId) (.manual "operator" (.utc eight))

private theorem reportCache_hasQueues : reportCache.HasQueues := by
  intro id q hq
  rw [reportCache, ById.get?_insert] at hq
  split at hq
  · next hid =>
    cases hq
    exact ⟨hid.symm, rfl⟩
  · cases hq

private def idle : Worker := init {} reportCache.queues.values eight

private theorem idle_hasQueuesOf : idle.HasQueuesOf reportCache :=
  hasQueuesOf_init reportCache_hasQueues {} eight

/-- The run of another flow is in the queue already. -/
theorem submit_prepare_second :
    let run := printed 1 5
    let w := idle.performAll [.react (.submit (printed 2 5)) eight, .check eight]
    run.cannotLaunch = none ∧ w.HasQueuesOf reportCache ∧ w.queues.contains run.queueId ∧
      (w.submit run eight).changed := by
  intro run w
  have hrun : run.cannotLaunch = none := by decide +kernel
  have hw : w.HasQueuesOf reportCache := idle_hasQueuesOf.performAll rfl
  obtain ⟨hknown, hchanged, -⟩ := submit_prepare hrun hw eight
  have hdirect : Queue.directId ≤ (reportFlow 1 5).queueId := by decide
  exact ⟨hrun, hw, hknown.2 hdirect, (hchanged hdirect).2 (by decide +kernel)⟩

/-- The run of a flow without a fault is prepared for the direct queue, and then the worker does not know its
queue and drops it. -/
theorem drops_prepared_run :
    let run := printed 1 (-1)
    (reportFlow 1 (-1)).fault? = none ∧ run.cannotLaunch = none ∧
      run.queueName = Queue.directName ∧ idle.HasQueuesOf reportCache ∧
      idle.queues.contains run.queueId = false ∧ idle.submit run eight = { worker := idle } := by
  intro run
  have hrun : run.cannotLaunch = none := by decide +kernel
  have hunknown : idle.queues.contains run.queueId = false := by decide +kernel
  refine ⟨by decide, hrun, by decide +kernel, idle_hasQueuesOf, hunknown, ?_⟩
  exact submit_of_not_contains hrun (Bool.eq_false_iff.1 hunknown) eight

end Worker

end FlowScheduler
