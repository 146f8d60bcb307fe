import Mathlib
import FlowScheduler.Proofs.Worker.Counters

/-!
Which runs a check starts.

A check removes the runs that have expired and settles the others: new ones become queued, and those whose queue is
gone move to the direct queue (`Worker.Settles`). Then each queue starts the first of its pending runs, as many as it
has room for (`Queue.room`, `Worker.launchFrom_started_eq`). So no queue that has room is left with a pending run, and
a second check at the same time finds nothing to do. All this is so if and only if the check does not break off over
the time until which a run is to be kept (`Worker.startsInOrder_iff_canClean`).
-/

namespace FlowScheduler

/-- How many more runs a queue may start beside those in progress. -/
def Queue.room (d : Queue) (processing : Int) : Nat :=
  if d.paused then 0 else (d.slot - processing).toNat

namespace QueueState

variable {q : QueueState}

theorem canLaunch_iff_room : q.canLaunch ↔ 0 < q.definition.room q.processing := by
  rw [canLaunch, Queue.room]
  cases q.definition.paused with
  | true => simp
  | false => simp

theorem room_launchOne (h : q.canLaunch) :
    q.definition.room q.processing =
      q.launchOne.definition.room q.launchOne.processing + 1 := by
  obtain ⟨hpaused, hfree⟩ := Bool.and_eq_true_iff.1 h
  have hnot : q.definition.paused = false := by simpa using hpaused
  have hlt : q.processing < q.definition.slot := of_decide_eq_true hfree
  simp only [Queue.room, launchOne, hnot, Bool.false_eq_true, if_false]
  omega

end QueueState

namespace Worker

variable {w : Worker} {runs after started : List PreparedRun} {r : PreparedRun} {now : Instant}
  {queues : ById QueueState} {q : QueueState} {id : Int}

/-- The runs of a queue that wait, in the order of the list. -/
def pendingIn (id : Int) (runs : List PreparedRun) : List PreparedRun :=
  runs.filter fun r => r.queueId == id && r.state.isPending

/-- Whether a run has ended and the time for which it is kept is over. -/
def IsExpired (w : Worker) (now : Instant) (r : PreparedRun) : Prop :=
  r.state = .terminated ∧ ∃ stopped ∈ r.stoppedAt, stopped.addNanos w.retentionNanos < now

/-- What a check makes of a run before it starts any. -/
inductive Settles (w : Worker) (r : PreparedRun) : PreparedRun → Prop where
  /-- A run that does not wait, or waits for the direct queue, stays as it is. -/
  | stays : (r.state.isPending → r.queueId = Queue.directId) → Settles w r r
  /-- A run that waits for another queue becomes queued, if it is not. -/
  | queued : r.state.isPending → r.queueId ≠ Queue.directId → w.queues.contains r.queueId →
      Settles w r { r with state := .queued }
  /-- If that queue is gone, the run waits for the direct queue instead. -/
  | detached : r.state.isPending → r.queueId ≠ Queue.directId → ¬w.queues.contains r.queueId →
      Settles w r { r with queueId := Queue.directId, queueName := Queue.directName, state := .new }

/-- A check starts runs in the order of their submission, as far as the queues have room. -/
structure StartsInOrder (w : Worker) (now : Instant) (step : WorkerStep)
    (settled : List PreparedRun) : Prop where
  completed : step.brokeOff = false
  /-- The expired runs leave the list, and the others are settled. -/
  settles : ∃ kept, kept.Sublist w.runs ∧ (∀ r ∈ w.runs, r ∈ kept ↔ ¬w.IsExpired now r) ∧
    List.Forall₂ w.Settles kept settled
  /-- Each queue starts the first of its pending runs. -/
  started_eq : ∀ id d, w.definition? id = some d →
    step.started.filter (·.queueId == id) =
      ((pendingIn id settled).take (d.room (inProgress id settled))).map (start now)
  /-- All that is started is in a queue. -/
  bound : ∀ r ∈ step.started, (w.definition? r.queueId).isSome
  /-- The other runs stay as they were settled. -/
  runs_eq : step.worker.runs =
    settled.map fun r => if r.seq ∈ step.started.map (·.seq) then start now r else r
  /-- No queue that is not paused is left with a free slot and a pending run. -/
  busy : ∀ id d, step.worker.definition? id = some d → d.paused = false →
    inProgress id step.worker.runs < d.slot → pendingIn id step.worker.runs = []
  /-- A second check starts, removes and changes nothing. -/
  again : step.worker.checkRuns now = { worker := step.worker }

/-! ### Cleaning up and settling -/

theorem isRetained_iff : isRetained w.retentionNanos now r ↔ ¬w.IsExpired now r := by
  rw [isRetained, IsExpired]
  split
  · next stopped hstate hstopped => simp [hstate, hstopped, Instant.not_lt]
  · next hnot =>
    refine iff_of_true rfl ?_
    rintro ⟨hstate, stopped, hstopped, -⟩
    exact hnot stopped hstate hstopped

theorem settles_settle (w : Worker) (r : PreparedRun) : w.Settles r (settle w.queues r) := by
  rw [settle]
  split
  · next hwaits =>
    obtain ⟨hpending, hne⟩ := Bool.and_eq_true_iff.1 hwaits
    have hapart : r.queueId ≠ Queue.directId := by simpa using hne
    split
    · next hcontains => exact .queued hpending hapart hcontains
    · next hgone => exact .detached hpending hapart hgone
  · next hnot => exact .stays fun hpending => by simpa [hpending] using hnot

/-! ### Starting -/

/-- Each queue starts the first of its pending runs, as many as it has room for. -/
theorem launchFrom_started_eq (now : Instant) (runs : List PreparedRun)
    (h : queues.get? id = some q) :
    (launchFrom now queues runs).2.2.filter (·.queueId == id) =
      ((pendingIn id runs).take (q.definition.room q.processing)).map (start now) := by
  induction runs generalizing queues q with
  | nil => simp [launchFrom, pendingIn]
  | cons r runs ih =>
    rw [launchFrom]
    by_cases hid : r.queueId = id
    · subst hid
      cases hpending : r.state.isPending with
      | false =>
        have hskip : pendingIn r.queueId (r :: runs) = pendingIn r.queueId runs := by
          simp [pendingIn, hpending]
        rw [hskip, Bool.false_and, if_neg Bool.false_ne_true]
        exact ih h
      | true =>
        have hfirst : pendingIn r.queueId (r :: runs) = r :: pendingIn r.queueId runs := by
          simp [pendingIn, hpending]
        rw [hfirst, h, Option.any_some, Bool.true_and]
        split
        · next hcan =>
          have hnext : (queues.modify r.queueId .launchOne).get? r.queueId = some q.launchOne := by
            simp [h]
          rw [List.filter_cons_of_pos (by simp [start]), ih hnext, QueueState.room_launchOne hcan]
          rfl
        · next hcannot =>
          have hroom : q.definition.room q.processing = 0 :=
            Nat.eq_zero_of_not_pos fun hpos => hcannot (QueueState.canLaunch_iff_room.2 hpos)
          have hrest := ih h
          rw [hroom] at hrest ⊢
          exact hrest
    · have hskip : pendingIn id (r :: runs) = pendingIn id runs := by
        simp [pendingIn, hid]
      rw [hskip]
      split
      · have hnext : (queues.modify r.queueId .launchOne).get? id = some q := by
          simp [h, Ne.symm hid]
        rw [List.filter_cons_of_neg (by simpa [start] using hid)]
        exact ih hnext
      · exact ih h

theorem launchFrom_bound (now : Instant) (queues : ById QueueState) (runs : List PreparedRun) :
    ∀ r ∈ (launchFrom now queues runs).2.2, queues.contains r.queueId := by
  intro r hr
  by_contra hmissing
  have hnone := ById.get?_eq_none_of_not_contains hmissing
  have hzero : (launchFrom now queues runs).2.2.countP (·.queueId == r.queueId) = 0 :=
    launchFrom_started_eq_zero hnone
  exact List.countP_eq_zero.1 hzero r hr (beq_self_eq_true _)

/-- Where no two runs share a number, the started ones are told by their numbers. -/
theorem Launches.after_eq (h : Launches now runs after started) (hnodup : (runs.map (·.seq)).Nodup) :
    after = runs.map fun r => if r.seq ∈ started.map (·.seq) then Worker.start now r else r := by
  induction h with
  | nil => rfl
  | @keep r runs after started hl ih =>
    rw [List.map_cons, List.nodup_cons] at hnodup
    have hnot : r.seq ∉ started.map (·.seq) := fun hmem =>
      hnodup.1 (hl.seqs_eq ▸ (hl.sublist.map _).subset hmem)
    rw [List.map_cons, if_neg hnot]
    exact congrArg (r :: ·) (ih hnodup.2)
  | @start r runs after started hpending hl ih =>
    rw [List.map_cons, List.nodup_cons] at hnodup
    have hhead : r.seq ∈ (Worker.start now r :: started).map (·.seq) := List.mem_cons_self
    rw [List.map_cons, if_pos hhead, ih hnodup.2]
    refine congrArg (Worker.start now r :: ·) (List.map_congr_left fun o ho => ?_)
    have hne : o.seq ≠ (Worker.start now r).seq := fun heq =>
      hnodup.1 (List.mem_map.2 ⟨o, ho, heq⟩)
    simp only [List.map_cons, List.mem_cons, hne, false_or]

/-- Where no pending run has a free slot, nothing is started. -/
theorem launchFrom_eq_self
    (h : ∀ r ∈ runs, r.state.isPending → ¬(queues.get? r.queueId).any QueueState.canLaunch) :
    launchFrom now queues runs = (queues, runs, []) := by
  induction runs with
  | nil => rfl
  | cons r runs ih =>
    obtain ⟨hr, hrest⟩ := List.forall_mem_cons.1 h
    have hnot : ¬(r.state.isPending && (queues.get? r.queueId).any QueueState.canLaunch) := by
      rw [Bool.and_eq_true]
      exact fun hboth => hr hboth.1 hboth.2
    rw [launchFrom, if_neg hnot, ih hrest]

/-! ### After a check -/

/-- A check starts the first of the pending runs of a queue, as many as it has room for. -/
theorem sweep_started_eq {d : Queue} (hd : w.definition? id = some d) (now : Instant) :
    (w.sweep now).started.filter (·.queueId == id) =
      ((pendingIn id (w.clean now).recount.runs).take
        (d.room (inProgress id (w.clean now).recount.runs))).map (start now) := by
  have hdefinition : (w.clean now).recount.definition? id = some d :=
    (definition?_recount (w.clean now) id).trans hd
  obtain ⟨q, hq, rfl⟩ := Option.map_eq_some_iff.1 hdefinition
  rw [← (recount_counters hq).1]
  exact launchFrom_started_eq now (w.clean now).recount.runs hq

/-- After a check a queue that is not paused has no free slot or no pending run. -/
theorem pendingIn_sweep {d : Queue} (hd : w.definition? id = some d) (hpaused : d.paused = false)
    (hfree : inProgress id (w.sweep now).worker.runs < d.slot) :
    pendingIn id (w.sweep now).worker.runs = [] := by
  have hl := w.launches_sweep now
  have hrunning : inProgress id (w.sweep now).worker.runs = _ := hl.inProgress_eq
  have hunended : unended id (w.sweep now).worker.runs = _ := hl.unended_eq
  have hbefore := unended_eq id (w.clean now).recount.runs
  have hafter := unended_eq id (w.sweep now).worker.runs
  have hstarted := congrArg List.length (sweep_started_eq hd now)
  rw [← List.countP_eq_length_filter, List.length_map, List.length_take, pendingIn,
    ← List.countP_eq_length_filter, Queue.room, hpaused, if_neg Bool.false_ne_true] at hstarted
  rw [pendingIn, ← List.length_eq_zero_iff, ← List.countP_eq_length_filter]
  omega

theorem Counted.settle_eq (h : w.Counted) (hr : r ∈ w.runs) : settle w.queues r = r := by
  rw [settle]
  split
  · next hwaits =>
    obtain ⟨hpending, hne⟩ := Bool.and_eq_true_iff.1 hwaits
    have hapart : r.queueId ≠ Queue.directId := by simpa using hne
    obtain ⟨hcontains, hstate⟩ := h.bound r hr hpending
    rw [if_neg hapart] at hstate
    rw [if_pos hcontains, ← hstate]
  · rfl

/-- A worker that has counted its runs finds nothing new when it counts again. -/
theorem Counted.recount_eq (h : w.Counted) : w.recount = w := by
  have hruns : w.runs.map (settle w.queues) = w.runs :=
    (List.map_congr_left fun r hr => h.settle_eq hr).trans (List.map_id' w.runs)
  have hqueues : (w.queues.mapWithId fun id q => q.recount id w.runs) = w.queues := by
    refine ById.ext_get? fun id => ?_
    rw [ById.get?_mapWithId]
    cases hq : w.queues.get? id with
    | none => rfl
    | some q =>
      have hprocessing := h.processing_eq id q hq
      have hwaiting := h.waiting_eq id q hq
      rw [Option.map_some, QueueState.recount]
      exact congrArg some (by rw [← inProgress, ← waiting, ← hprocessing, ← hwaiting])
  simp only [recount, hruns, hqueues]

theorem clean_sweep (w : Worker) (now : Instant) :
    (w.sweep now).worker.clean now = (w.sweep now).worker := by
  have hl := w.launches_sweep now
  have hretained : ∀ r ∈ (w.sweep now).worker.runs, isRetained w.retentionNanos now r := by
    intro r hr
    rcases hl.mem_or_mem hr with hmem | hmem
    · obtain ⟨o, ho, rfl⟩ := List.mem_map.1 hmem
      rcases settle_eq_or (w.clean now).queues o with heq | ⟨-, -, hpending⟩
      · rw [heq]
        exact (List.mem_filter.1 ho).2
      · exact isRetained_of_active (RunState.isTerminal_eq_false hpending)
    · obtain ⟨o, -, -, rfl⟩ := hl.exists_pending hmem
      exact isRetained_of_active rfl
  have hruns : (w.sweep now).worker.runs.filter (isRetained w.retentionNanos now) =
      (w.sweep now).worker.runs := List.filter_eq_self.2 hretained
  exact congrArg (fun runs => ({ (w.sweep now).worker with runs } : Worker)) hruns

/-- After a check no pending run has a free slot. -/
theorem not_canLaunch_sweep (hr : r ∈ (w.sweep now).worker.runs) (hpending : r.state.isPending) :
    ¬((w.sweep now).worker.queues.get? r.queueId).any QueueState.canLaunch := by
  intro hany
  obtain ⟨q, hq, hcan⟩ := (Option.any_eq_true _ _).1 hany
  have hdefinition : w.definition? r.queueId = some q.definition := by
    rw [← definition?_sweep w now, definition?, hq, Option.map_some]
  obtain ⟨hpaused, hfree⟩ := Bool.and_eq_true_iff.1 hcan
  have hprocessing := (counters_sweep hq).1
  have hlt : inProgress r.queueId (w.sweep now).worker.runs < q.definition.slot :=
    hprocessing ▸ of_decide_eq_true hfree
  have hnone := pendingIn_sweep hdefinition (by simpa using hpaused) hlt
  have hmem : r ∈ pendingIn r.queueId (w.sweep now).worker.runs :=
    List.mem_filter.2 ⟨hr, by rw [beq_self_eq_true, hpending]; rfl⟩
  rw [hnone] at hmem
  cases hmem

theorem sweep_sweep (hdirect : w.queues.contains Queue.directId)
    (hqueued : ∀ r ∈ w.runs, QueuedApart r) (now : Instant) :
    (w.sweep now).worker.sweep now = { worker := (w.sweep now).worker } := by
  have hcounted := counted_sweep hdirect hqueued now
  have hquiet : launchFrom now (w.sweep now).worker.queues (w.sweep now).worker.runs =
      ((w.sweep now).worker.queues, (w.sweep now).worker.runs, []) :=
    launchFrom_eq_self fun r hr hpending => not_canLaunch_sweep hr hpending
  rw [sweep, clean_sweep, hcounted.recount_eq, launchPending, hquiet]
  rfl

/-- A check that does not break off starts runs in the order of their submission. -/
theorem startsInOrder_sweep (hcan : w.canClean) (hdistinct : w.Distinct)
    (hdirect : w.queues.contains Queue.directId) (hqueued : ∀ r ∈ w.runs, QueuedApart r) (now : Instant) :
    w.StartsInOrder now (w.sweep now) (w.clean now).recount.runs := by
  have hl := launchFrom_launches now (w.clean now).recount.queues (w.clean now).recount.runs
  have hsettled : ((w.clean now).recount.runs.map (·.seq)).Nodup :=
    hdistinct.seqs_nodup.sublist ((tidies_clean w now).trans (tidies_recount (w.clean now))).sublist
  refine ⟨rfl, ⟨(w.clean now).runs, List.filter_sublist, fun r hr => ?_, ?_⟩,
    fun id d hd => sweep_started_eq hd now, fun r hr => ?_, hl.after_eq hsettled,
    fun id d hd hpaused hfree => ?_, ?_⟩
  · rw [← isRetained_iff]
    exact List.mem_filter.trans (and_iff_right hr)
  · exact List.forall₂_map_right_iff.2 (List.forall₂_same.2 fun r _ => w.settles_settle r)
  · have hcontains := launchFrom_bound now (w.clean now).recount.queues (w.clean now).recount.runs r hr
    have hsome := contains_iff_definition?.1 hcontains
    rwa [definition?_recount] at hsome
  · rw [definition?_sweep] at hd
    exact pendingIn_sweep hd hpaused hfree
  · rw [checkRuns_of_canClean (canClean_sweep hcan now)]
    exact sweep_sweep hdirect hqueued now

/-- Whatever has been done to a worker, a check starts runs in the order of their submission as far as the queues
have room, and changes no others but by settling them, and then it has left nothing to do, if and only if it can be
told which runs are to be kept. Otherwise it breaks off, and starts and changes nothing. -/
theorem startsInOrder_iff_canClean (settings : WorkerSettings) (initial : List Queue) (start : Instant)
    (ops : List WorkerOperation) (now : Instant) :
    let w := (init settings initial start).performAll ops
    ((∃ settled, w.StartsInOrder now (w.checkRuns now) settled) ↔ w.canClean) ∧
      (¬w.canClean → w.checkRuns now = { worker := w, brokeOff := true }) := by
  intro w
  have hdirect : w.queues.contains Queue.directId :=
    contains_directId_performAll settings initial start ops
  have hqueued := queuedApart_performAll settings initial start ops
  have hdistinct : w.Distinct := distinct_performAll settings initial start ops
  refine ⟨⟨fun ⟨_, h⟩ => canClean_of_completed h.completed, fun hcan => ?_⟩, fun hcannot => if_neg hcannot⟩
  rw [checkRuns_of_canClean hcan]
  exact ⟨_, startsInOrder_sweep hcan hdistinct hdirect hqueued now⟩

/-! ### Two queues, one of them paused, and a queue that is gone -/

private def kiln : Queue := { id := 3, name := "kiln", slot := 2 }

private def press : Queue := { id := 4, name := "press", slot := 1, paused := true }

private def batch (flowId queueId : Int) : WorkerOperation :=
  .react (.submit { PreparedRun.ofTrigger flowId "batch" (.manual "operator" (.utc .epoch)) with
    queueId := queueId }) .epoch

/-- Three runs wait for the kiln, one for the paused press, and one for a queue that is deleted. -/
private def batches : List WorkerOperation :=
  [batch 1 3, batch 2 4, batch 3 3, batch 4 5, batch 5 3, .react (.updateQueue (.tombstone 5)) .epoch]

/-- The kiln starts the first two of its three runs, and the run without a queue starts as a direct one. -/
theorem startsInOrder_of_three :
    let w := (init {} [kiln, press, { kiln with id := 5 }] .epoch).performAll batches
    w.canClean ∧ (∃ settled, w.StartsInOrder .epoch (w.checkRuns .epoch) settled) ∧
      (w.checkRuns .epoch).started.map (fun r => (r.flowId, r.queueId)) = [(1, 3), (3, 3), (4, 0)] ∧
      (pendingIn 3 (w.checkRuns .epoch).worker.runs).map (·.flowId) = [5] ∧
      (pendingIn 4 (w.checkRuns .epoch).worker.runs).map (·.flowId) = [2] := by
  intro w
  obtain ⟨hiff, -⟩ := startsInOrder_iff_canClean {} [kiln, press, { kiln with id := 5 }] .epoch batches .epoch
  have hcan : w.canClean := by decide
  exact ⟨hcan, hiff.2 hcan, by decide, by decide, by decide⟩

/-! ### A run that is to be kept beyond the calendar -/

/-- A retention that a configuration may have: with it, no terminated run has an expiry in the calendar. -/
private def lastingRetention : WorkerSettings := { terminatedRetentionSeconds := 10000000000000 }

/-- Two runs for a lane with one slot; the first has been started and ends. -/
private def oneAfterAnother : List WorkerOperation :=
  [batch 1 4, .check .epoch, batch 2 4, .check .epoch, .react (.complete 1 ⟨.ok, "done"⟩) .epoch]

/-- The slot is free and the second run waits for it, but the check breaks off before it starts the run. -/
theorem not_startsInOrder_beyond_calendar :
    let w := (init lastingRetention [{ press with paused := false }] .epoch).performAll oneAfterAnother
    ({ worker := lastingRetention } : Settings).fault? = none ∧
      inProgress 4 w.runs = 0 ∧ (pendingIn 4 w.runs).map (·.flowId) = [2] ∧
      (w.definition? 4).map (fun d => (d.slot, d.paused)) = some (1, false) ∧
      (w.checkRuns .epoch).started = [] ∧ ¬∃ settled, w.StartsInOrder .epoch (w.checkRuns .epoch) settled := by
  intro w
  have hcan : ¬w.canClean := by decide
  exact ⟨by decide, by decide, by decide, by decide, by decide, fun ⟨_, h⟩ => hcan (canClean_of_completed h.completed)⟩

end Worker

end FlowScheduler
