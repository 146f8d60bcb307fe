import Mathlib
import FlowScheduler.Proofs.Worker.Admission

/-!
What becomes of the runs of a queue that is deleted.

The deletion takes the queue out of the worker and leaves the runs alone; the next check binds those that wait for it
to the direct queue, where they start if there is room (`Worker.survives_sweep`). Afterwards they stay there
(`Worker.isDirect_lasting`), whatever is done to the worker, and those in progress stay as they are until their
executions end (`Worker.mem_performAll_of_inProgress`). If the queue is defined again, they take up its slots.
The check must not break off, which it does not when the worker takes in the deletion between two turns and has any
runs (`WorkerSite.Checked.canClean`).
-/

namespace FlowScheduler

namespace Worker

variable {w : Worker} {runs after started : List PreparedRun} {r r' : PreparedRun} {now : Instant} {id : Int}
  {op : WorkerOperation} {ops : List WorkerOperation}

/-! ### The check after a deletion -/

/-- A waiting run when its queue is gone: it is a new one of the direct queue. -/
def detach (r : PreparedRun) : PreparedRun :=
  { r with queueId := Queue.directId, queueName := Queue.directName, state := .new }

/-- What the deletion of a queue and the check after it make of a run that stays in the list. -/
structure Survives (w : Worker) (id : Int) (now : Instant) (r r' : PreparedRun) : Prop where
  seq_eq : r'.seq = r.seq
  identity_eq : r'.identity = r.identity
  /-- A run that waited for the queue is detached, and it may have started. -/
  detached : r.state.isPending → r.queueId = id → r' = detach r ∨ r' = start now (detach r)
  /-- A run that was in progress or had ended is as before. -/
  stays : r.state.isPending = false → r' = r
  /-- A run of another queue that is there keeps it. -/
  bound : r.queueId ≠ id → w.queues.contains r.queueId → r'.queueId = r.queueId ∧ r'.queueName = r.queueName

theorem updateQueue_tombstone (w : Worker) (hid : Queue.directId < id) :
    (w.updateQueue (.tombstone id)).worker = { w with queues := w.queues.erase id } := by
  have hnot : ¬(Queue.tombstone id).id ≤ Queue.directId := Int.not_le.2 hid
  rw [updateQueue, if_neg hnot]
  rfl

/-- The deleted queue is gone, and no other. -/
theorem contains_erase {queues : ById QueueState} {i : Int} :
    (queues.erase id).contains i ↔ i ≠ id ∧ queues.contains i := by
  rw [ById.contains, ById.get?_erase, ById.contains]
  by_cases h : i = id
  · simp [h]
  · simp [h]

theorem survives_settle (w : Worker) (hid : Queue.directId < id) (now : Instant) (r : PreparedRun) :
    w.Survives id now r (settle (w.queues.erase id) r) := by
  have hsettles := settles_settle { w with queues := w.queues.erase id } r
  generalize settle (w.queues.erase id) r = settled at hsettles
  cases hsettles with
  | stays hdirect =>
    refine ⟨rfl, rfl, fun hpending heq => ?_, fun _ => rfl, fun _ _ => ⟨rfl, rfl⟩⟩
    rw [← heq, hdirect hpending] at hid
    exact absurd hid (Int.lt_irrefl _)
  | queued hpending _ hcontains =>
    refine ⟨rfl, rfl, fun _ heq => ?_, fun hnot => ?_, fun _ _ => ⟨rfl, rfl⟩⟩
    · exact absurd heq (contains_erase.1 hcontains).1
    · rw [hpending] at hnot
      cases hnot
  | detached hpending _ hgone =>
    refine ⟨rfl, rfl, fun _ _ => .inl rfl, fun hnot => ?_, fun hne hcontains => ?_⟩
    · rw [hpending] at hnot
      cases hnot
    · exact absurd (contains_erase.2 ⟨hne, hcontains⟩) hgone

/-- A waiting run that has come through may start. -/
theorem Survives.start (h : w.Survives id now r r') (hpending : r'.state.isPending) :
    w.Survives id now r (Worker.start now r') where
  seq_eq := h.seq_eq
  identity_eq := h.identity_eq
  detached hwaited hid := by
    rcases h.detached hwaited hid with rfl | rfl
    · exact .inr rfl
    · cases hpending
  stays hnot := by
    rw [h.stays hnot, hnot] at hpending
    cases hpending
  bound := h.bound

theorem Launches.forall₂ (h : Launches now runs after started) :
    List.Forall₂ (fun r r' => r' = r ∨ r.state.isPending ∧ r' = Worker.start now r) runs after := by
  induction h with
  | nil => exact .nil
  | keep r _ ih => exact .cons (.inl rfl) ih
  | start hpending _ ih => exact .cons (.inr ⟨hpending, rfl⟩) ih

theorem survives_sweep (w : Worker) (hid : Queue.directId < id) (now : Instant) :
    List.Forall₂ (w.Survives id now) (w.clean now).runs
      ((w.updateQueue (.tombstone id)).worker.sweep now).worker.runs := by
  rw [updateQueue_tombstone w hid]
  have hl := launches_sweep { w with queues := w.queues.erase id } now
  refine (List.forall₂_map_left_iff.1 hl.forall₂).imp fun r r' h => ?_
  have hsettled := w.survives_settle hid now r
  rcases h with rfl | ⟨hpending, rfl⟩
  · exact hsettled
  · exact hsettled.start hpending

/-- The worker after the deletion of a queue and the check that follows. -/
def afterDeletion (w : Worker) (id : Int) (now : Instant) : Worker :=
  ((w.updateQueue (.tombstone id)).worker.checkRuns now).worker

/-- Whether the check after the deletion of a queue has any runs to go over, and if so does not break off. -/
def DeletionCompletes (w : Worker) (id : Int) (now : Instant) : Prop :=
  w.runs = [] ∨ ((w.updateQueue (.tombstone id)).worker.checkRuns now).brokeOff = false

theorem canClean_tombstone (w : Worker) (hid : Queue.directId < id) :
    (w.updateQueue (.tombstone id)).worker.canClean = w.canClean := by
  rw [updateQueue_tombstone w hid]
  rfl

theorem DeletionCompletes.of_canClean (hid : Queue.directId < id) (h : w.runs = [] ∨ w.canClean) (now : Instant) :
    w.DeletionCompletes id now := by
  refine h.imp_right fun hcan => ?_
  rw [checkRuns_of_canClean (by rwa [canClean_tombstone w hid])]
  rfl

/-- The runs of a queue that is deleted come through, if the check does. -/
theorem survives_afterDeletion (h : w.DeletionCompletes id now) (hid : Queue.directId < id) :
    List.Forall₂ (w.Survives id now) (w.clean now).runs (w.afterDeletion id now).runs := by
  rcases h with hnil | hcompleted
  · have hafter : (w.afterDeletion id now).runs ⊆ [] := by
      have hruns : (w.updateQueue (.tombstone id)).worker.runs = [] := (updateQueue_runs w _).trans hnil
      have hsubset := checkRuns_subset_of_ended (hruns ▸ List.forall_mem_nil _) now
      rwa [hruns] at hsubset
    rw [List.subset_nil.1 hafter, Worker.clean, hnil]
    exact .nil
  · rw [afterDeletion, checkRuns_of_canClean (canClean_of_completed hcompleted)]
    exact w.survives_sweep hid now

/-! ### Detached runs stay detached -/

/-- Whether a run is one of the direct queue, where none is queued. -/
def IsDirect (r : PreparedRun) : Prop :=
  r.queueId = Queue.directId ∧ r.queueName = Queue.directName ∧ r.state ≠ .queued

theorem settle_of_direct (queues : ById QueueState) (h : r.queueId = Queue.directId) : settle queues r = r := by
  rw [settle, h, bne_self_eq_false, Bool.and_false, if_neg Bool.false_ne_true]

theorem isDirect_lasting (seq : Nat) : Lasting fun r => r.seq = seq → IsDirect r where
  settle queues r h hseq := by
    have hr := h ((settle_seq queues r).symm.trans hseq)
    rwa [settle_of_direct queues hr.1]
  start _ _ h hseq := ⟨(h hseq).1, (h hseq).2.1, nofun⟩
  ended _ _ _ h hseq := ⟨(h hseq).1, (h hseq).2.1, nofun⟩

/-! ### Runs in progress -/

theorem settle_eq_self (queues : ById QueueState) (h : r.state.isPending = false) : settle queues r = r := by
  rw [settle, h, Bool.false_and, if_neg Bool.false_ne_true]

theorem Launches.mem_of_not_pending (h : Launches now runs after started) (hr : r ∈ runs)
    (hpending : r.state.isPending = false) : r ∈ after := by
  induction h with
  | nil => cases hr
  | keep o _ ih =>
    rcases List.mem_cons.1 hr with rfl | hr
    · exact List.mem_cons_self
    · exact List.mem_cons_of_mem _ (ih hr)
  | start hstarts _ ih =>
    rcases List.mem_cons.1 hr with rfl | hr
    · rw [hpending] at hstarts
      cases hstarts
    · exact List.mem_cons_of_mem _ (ih hr)

theorem mem_recount_of_inProgress (hr : r ∈ w.runs) (hstate : r.state = .inProgress) : r ∈ w.recount.runs := by
  have hmem := w.mem_recount hr
  rwa [settle_eq_self w.queues (by rw [hstate]; rfl)] at hmem

theorem mem_clean_of_inProgress (hr : r ∈ w.runs) (hstate : r.state = .inProgress) (now : Instant) :
    r ∈ (w.clean now).runs :=
  List.mem_filter.2 ⟨hr, isRetained_of_active (by rw [hstate]; rfl)⟩

theorem mem_submit_of_inProgress (hr : r ∈ w.runs) (hstate : r.state = .inProgress) (run : PreparedRun)
    (now : Instant) : r ∈ (w.submit run now).worker.runs := by
  have hactive : r.state.isTerminal = false := by rw [hstate]; rfl
  rw [submit]
  split
  · exact hr
  split
  · exact hr
  split
  · exact mem_append_of_active w hr hactive
  split
  · exact hr
  dsimp only
  split
  · exact mem_recount_of_inProgress hr hstate
  · exact mem_append_of_active w.recount (mem_recount_of_inProgress hr hstate) hactive

theorem mem_complete_of_ne (hr : r ∈ w.runs) {seq : Nat} (hne : r.seq ≠ seq) (outcome : FlowOutcome)
    (now : Instant) : r ∈ (w.complete seq outcome now).worker.runs := by
  rw [complete]
  split
  · exact hr
  · split
    · exact hr
    · exact List.mem_map.2 ⟨r, hr, if_neg hne⟩

/-- A run in progress stays as it is, unless the worker takes in the end of its execution. -/
theorem mem_perform_of_inProgress (hr : r ∈ w.runs) (hstate : r.state = .inProgress)
    (hop : op.feedback? ≠ some r.seq) : r ∈ (w.perform op).runs := by
  cases op with
  | check now =>
    have hl := w.launches_sweep now
    have hclean := mem_clean_of_inProgress hr hstate now
    refine perform_check_cases w now hr (hl.mem_of_not_pending ?_ (by rw [hstate]; rfl))
    exact mem_recount_of_inProgress hclean hstate
  | react event now =>
    cases event with
    | submit run => exact mem_submit_of_inProgress hr hstate run now
    | updateQueue q =>
      show r ∈ (w.updateQueue q).worker.runs
      rwa [updateQueue_runs]
    | complete seq outcome =>
      exact mem_complete_of_ne hr (fun heq => hop (congrArg some heq.symm)) outcome now
    | housekeeping => exact perform_housekeeping_cases w now hr (mem_clean_of_inProgress hr hstate now)

theorem mem_performAll_of_inProgress (hr : r ∈ w.runs) (hstate : r.state = .inProgress)
    (hops : ∀ op ∈ ops, op.feedback? ≠ some r.seq) : r ∈ (w.performAll ops).runs := by
  induction ops generalizing w with
  | nil => exact hr
  | cons op ops ih =>
    obtain ⟨hop, hops⟩ := List.forall_mem_cons.1 hops
    exact ih (mem_perform_of_inProgress hr hstate hop) hops

theorem sweep_started_le {d : Queue} (hd : w.definition? id = some d) (now : Instant) :
    (w.sweep now).started.countP (·.queueId == id) ≤ d.room (inProgress id w.runs) := by
  have hrunning : inProgress id (w.clean now).recount.runs = inProgress id w.runs := by
    rw [recount, inProgress_settle, Worker.clean, inProgress_filter fun _ => isRetained_of_active]
  have hstarted := congrArg List.length (sweep_started_eq hd now)
  rw [← List.countP_eq_length_filter, List.length_map, List.length_take, hrunning] at hstarted
  exact hstarted.trans_le (Nat.min_le_left _ _)

/-- A check starts no more runs of a queue than it has room for beside those in progress. -/
theorem checkRuns_started_le {d : Queue} (hd : w.definition? id = some d) (now : Instant) :
    (w.checkRuns now).started.countP (·.queueId == id) ≤ d.room (inProgress id w.runs) :=
  checkRuns_cases w now (fun _ => Nat.zero_le _) fun _ => sweep_started_le hd now

/-! ### After a deletion -/

/-- What holds of a worker `u` that has gone through more operations since a queue was deleted in `w`. -/
structure Outlasts (w : Worker) (id : Int) (more : List WorkerOperation) (u : Worker) : Prop where
  /-- The runs that waited for the queue are runs of the direct queue, and none of them is queued. -/
  direct : ∀ r ∈ w.runs, r.state.isPending → r.queueId = id → ∀ r' ∈ u.runs, r'.seq = r.seq → IsDirect r'
  /-- The runs in progress are as before, and the ends of their executions will be taken in. -/
  completes : ∀ r ∈ w.runs, r.state = .inProgress → (∀ op ∈ more, op.feedback? ≠ some r.seq) → r ∈ u.runs ∧
    ∀ outcome now, ∃ before after, Replaces u (u.complete r.seq outcome now) before after (ended outcome now r)
  /-- They count in the queue if it is defined again, which starts only as many runs as it has room for. -/
  counts : (w.runs.filter fun r => r.queueId = id ∧ r.state = .inProgress ∧
    ∀ op ∈ more, op.feedback? ≠ some r.seq).length ≤ inProgress id u.runs
  room : ∀ d, u.definition? id = some d → ∀ now,
    (u.checkRuns now).started.countP (·.queueId == id) ≤ d.room (inProgress id u.runs)

theorem exists_replaces (hw : w.Distinct) (hr : r ∈ w.runs) (hstate : r.state = .inProgress)
    (outcome : FlowOutcome) (now : Instant) :
    ∃ before after, Replaces w (w.complete r.seq outcome now) before after (ended outcome now r) := by
  obtain ⟨before, after, hruns⟩ := List.append_of_mem hr
  have hfind := (find?_seq_eq_some_iff hw.seqs_nodup).2 ⟨hr, rfl⟩
  exact ⟨before, after, complete_replaces outcome now hw.seqs_nodup hruns (by rw [hstate]; rfl) hfind⟩

/-- What the deletion of a queue and the check after it come to. -/
structure Detaches (w : Worker) (id : Int) (now : Instant) : Prop where
  /-- The runs come through in their order, apart from those that have expired. -/
  survives : ∃ kept, kept.Sublist w.runs ∧ (∀ r ∈ w.runs, r ∈ kept ↔ ¬w.IsExpired now r) ∧
    List.Forall₂ (w.Survives id now) kept (w.afterDeletion id now).runs
  outlasts : ∀ more, w.Outlasts id more ((w.afterDeletion id now).performAll more)

theorem exists_survives (h : w.DeletionCompletes id now) (hid : Queue.directId < id)
    (hr' : r' ∈ (w.afterDeletion id now).runs) : ∃ r ∈ w.runs, w.Survives id now r r' := by
  obtain ⟨n, hn, rfl⟩ := List.mem_iff_getElem.1 hr'
  have hsurvives := survives_afterDeletion h hid
  have hkept : n < (w.clean now).runs.length := hsurvives.length_eq ▸ hn
  exact ⟨_, (List.mem_filter.1 (List.getElem_mem hkept)).1, hsurvives.get hkept hn⟩

/-- A run that waited for the queue is one of the direct queue after the check. -/
theorem isDirect_of_mem_afterDeletion (h : w.DeletionCompletes id now) (hid : Queue.directId < id)
    (hw : w.Distinct) (hr : r ∈ w.runs) (hpending : r.state.isPending) (hqueue : r.queueId = id)
    (hr' : r' ∈ (w.afterDeletion id now).runs) (hseq : r'.seq = r.seq) : IsDirect r' := by
  obtain ⟨o, ho, hsurvives⟩ := exists_survives h hid hr'
  obtain rfl := List.inj_on_of_nodup_map hw.seqs_nodup ho hr (hsurvives.seq_eq.symm.trans hseq)
  rcases hsurvives.detached hpending hqueue with rfl | rfl
  · exact ⟨rfl, rfl, nofun⟩
  · exact ⟨rfl, rfl, nofun⟩

theorem outlasts_performAll (h : w.DeletionCompletes id now) (hid : Queue.directId < id) (hw : w.Distinct)
    (more : List WorkerOperation) : w.Outlasts id more ((w.afterDeletion id now).performAll more) := by
  let deletion : List WorkerOperation := [.react (.updateQueue (.tombstone id)) now, .check now]
  have hquiet (r : PreparedRun) : ∀ op ∈ deletion, op.feedback? ≠ some r.seq := by
    simp [deletion, WorkerOperation.feedback?]
  have hstays (r : PreparedRun) (hr : r ∈ w.runs) (hstate : r.state = .inProgress)
      (hmore : ∀ op ∈ more, op.feedback? ≠ some r.seq) : r ∈ ((w.performAll deletion).performAll more).runs :=
    mem_performAll_of_inProgress (mem_performAll_of_inProgress hr hstate (hquiet r)) hstate hmore
  refine ⟨fun r hr hpending hqueue => ?_, fun r hr hstate hmore => ⟨hstays r hr hstate hmore, ?_⟩, ?_,
    fun d hd t => checkRuns_started_le hd t⟩
  · have hdeleted := lastSeq_le_perform w (.react (.updateQueue (.tombstone id)) now)
    have hgiven : r.seq ≤ (w.performAll deletion).lastSeq :=
      (hw.seq_le r hr).trans (hdeleted.trans (lastSeq_le_perform _ (.check now)))
    exact (isDirect_lasting r.seq).performAll_of_seq hgiven
      (fun r' hr' hseq => isDirect_of_mem_afterDeletion h hid hw hr hpending hqueue hr' hseq) more
  · exact exists_replaces ((hw.performAll deletion).performAll more) (hstays r hr hstate hmore) hstate
  · -- no run stands in the list twice, so those that are still in progress are as many there
    have hnodup : w.runs.Nodup := List.Nodup.of_map _ hw.seqs_nodup
    rw [inProgress, List.countP_eq_length_filter]
    refine ((hnodup.filter _).subperm fun r hr => ?_).length_le
    obtain ⟨hr, hwhich⟩ := List.mem_filter.1 hr
    obtain ⟨hqueue, hstate, hmore⟩ := of_decide_eq_true hwhich
    exact List.mem_filter.2 ⟨hstays r hr hstate hmore, by simp [hqueue, hstate]⟩

theorem detaches_of_completes (h : w.DeletionCompletes id now) (hid : Queue.directId < id) (hw : w.Distinct) :
    w.Detaches id now := by
  refine ⟨⟨(w.clean now).runs, List.filter_sublist, fun r hr => ?_, survives_afterDeletion h hid⟩,
    outlasts_performAll h hid hw⟩
  rw [← isRetained_iff]
  exact List.mem_filter.trans (and_iff_right hr)

/-- Whatever has been done to a worker, the deletion of a queue and the check after it leave the runs in their order,
apart from those that have expired, if the check does not break off. A run that waited for the queue is one of the
direct queue from then on, even if the queue is defined again. A run in progress stays as it is until its execution
ends, and counts in the queue. A run of another queue keeps it if that queue is there. Between two turns, when a worker
takes in a deletion, the check does not break off over any run, and every run of another queue keeps it. -/
theorem deletion_detaches (settings : WorkerSettings) (initial : List Queue) (start : Instant)
    (hid : Queue.directId < id) (now : Instant) :
    (∀ ops, let w := (init settings initial start).performAll ops
      w.DeletionCompletes id now → w.Detaches id now) ∧
    ∀ site, WorkerSite.Reachable settings initial start site → site.checkDue = false →
      site.worker.DeletionCompletes id now ∧ site.worker.Detaches id now ∧
        ∀ r ∈ site.worker.runs, ∀ r', site.worker.Survives id now r r' → r.queueId ≠ id →
          r'.queueId = r.queueId ∧ r'.queueName = r.queueName := by
  have hall (ops : List WorkerOperation) (hcompletes :
      ((init settings initial start).performAll ops).DeletionCompletes id now) :
      ((init settings initial start).performAll ops).Detaches id now :=
    detaches_of_completes hcompletes hid (distinct_performAll settings initial start ops)
  refine ⟨hall, fun site hsite hidle => ?_⟩
  have hchecked := hsite.checked hidle
  have hcompletes : site.worker.DeletionCompletes id now := .of_canClean hid hchecked.canClean now
  refine ⟨hcompletes, ?_, fun r hr r' hsurvives hne => ?_⟩
  · obtain ⟨ops, hworker, -⟩ := hsite.exists_operations
    rw [hworker] at hcompletes ⊢
    exact hall ops hcompletes
  · cases hpending : r.state.isPending with
    | true => exact hsurvives.bound hne (hchecked.counted.bound r hr hpending).1
    | false =>
      rw [hsurvives.stays hpending]
      exact ⟨rfl, rfl⟩

/-! ### A yard that is closed and opened again -/

private def yard : Queue := { id := 5, name := "yard", slot := 1 }

private def haul (flowId : Int) : WorkerOperation :=
  .react (.submit { PreparedRun.ofTrigger flowId "haul" (.manual "operator" (.utc .epoch)) with queueId := 5 }) .epoch

/-- Of two runs the first is in progress when the yard is closed. -/
private def beforeClosing : List WorkerOperation := [haul 1, .check .epoch, haul 2, .check .epoch]

/-- The yard is opened again, and another run is submitted to it. -/
private def afterClosing : List WorkerOperation := [.react (.updateQueue yard) .epoch, haul 3, .check .epoch]

/-- The second run starts as a direct one and stays so, and the third waits for the first to end. -/
theorem deletion_detaches_at_yard :
    let w := (init {} [yard] .epoch).performAll beforeClosing
    let w' := w.afterDeletion 5 .epoch
    let u := w'.performAll afterClosing
    w.DeletionCompletes 5 .epoch ∧
      w.runs.map (fun r => (r.seq, r.queueId, r.state)) = [(1, 5, .inProgress), (2, 5, .queued)] ∧
      w'.runs.map (fun r => (r.seq, r.queueId, r.state)) = [(1, 5, .inProgress), (2, 0, .inProgress)] ∧
      List.Forall₂ (w.Survives 5 .epoch) w.runs w'.runs ∧
      (∀ r ∈ u.runs, r.seq = 2 → IsDirect r) ∧
      u.runs.map (fun r => (r.seq, r.queueId, r.state)) =
        [(1, 5, .inProgress), (2, 0, .inProgress), (3, 5, .queued)] := by
  intro w w' u
  obtain ⟨hall, -⟩ := deletion_detaches {} [yard] .epoch (show Queue.directId < 5 by decide) .epoch
  have hcompletes : w.DeletionCompletes 5 .epoch := .inr (by decide)
  obtain ⟨⟨kept, hsublist, -, hsurvive⟩, houtlasts⟩ := hall beforeClosing hcompletes
  -- none of the runs has expired
  have hsame : kept = w.runs := hsublist.eq_of_length (hsurvive.length_eq.trans (by decide))
  obtain ⟨r, hr, hpending, hqueue, hseq⟩ :
      ∃ r ∈ w.runs, r.state.isPending ∧ r.queueId = 5 ∧ r.seq = 2 := by decide
  have hdirect := (houtlasts afterClosing).direct r hr hpending hqueue
  rw [hseq] at hdirect
  rw [hsame] at hsurvive
  exact ⟨hcompletes, by decide, by decide, hsurvive, hdirect, by decide⟩

end Worker

end FlowScheduler
