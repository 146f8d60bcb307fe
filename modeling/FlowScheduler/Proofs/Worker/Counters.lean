import Mathlib
import FlowScheduler.Proofs.Worker.Capacity
import FlowScheduler.Proofs.Worker.Correspondence
import FlowScheduler.Proofs.Worker.Identity

/-!
The counters that a worker publishes.

Only a check publishes, after it has counted and started runs. So in every snapshot the counters of a queue are
the numbers of its runs in the same snapshot, and each run that waits is bound to a queue of the snapshot
(`WorkerSnapshot.IsTrue`). What a queue has launched is what it has seen end and what is in progress, as long as
it is not deleted and no execution ends that has not begun (`Worker.Balanced`). Both hold after all operations
in any order (`Worker.snapshot_counters`).
-/

namespace FlowScheduler

/-- The number of the run whose execution has ended, where an operation is about that. -/
def WorkerOperation.feedback? : WorkerOperation → Option Nat
  | .react (.complete seq _) _ => some seq
  | _ => none

namespace WorkerSnapshot

/-- The number of runs of a queue that are shown in progress. -/
def inProgress (s : WorkerSnapshot) (id : Int) : Nat :=
  s.runs.countP fun r => r.queueId == id && r.state == .inProgress

/-- The number of runs of a queue that are shown waiting. -/
def waiting (s : WorkerSnapshot) (id : Int) : Nat :=
  s.runs.countP fun r => r.queueId == id && r.state.isPending

/-- Whether the counters are the numbers of the runs that are shown, and each waiting run is in a queue that is
shown: as a new one in the direct queue, and queued in any other. -/
structure IsTrue (s : WorkerSnapshot) : Prop where
  processing_eq : ∀ v ∈ s.queues, v.processing = s.inProgress v.id
  waiting_eq : ∀ v ∈ s.queues, v.waiting = s.waiting v.id
  bound : ∀ r ∈ s.runs, r.state.isPending → (∃ v ∈ s.queues, v.id = r.queueId) ∧
    r.state = if r.queueId = Queue.directId then .new else .queued

end WorkerSnapshot

namespace QueueState

/-- The queue after several waiting runs have started. -/
def launchMany (n : Nat) (q : QueueState) : QueueState :=
  { q with processing := q.processing + n, waiting := q.waiting - n, launched := q.launched + n }

theorem launchMany_zero (q : QueueState) : q.launchMany 0 = q := by
  simp [launchMany]

theorem launchMany_launchOne (n : Nat) (q : QueueState) :
    q.launchOne.launchMany n = q.launchMany (n + 1) := by
  simp only [launchMany, launchOne, mk.injEq, true_and, and_true]
  omega

end QueueState

namespace Worker

variable {w : Worker} {runs : List PreparedRun} {queues : ById QueueState} {q : QueueState}
  {id : Int} {now : Instant}

/-- The number of runs of a queue that wait. -/
def waiting (id : Int) (runs : List PreparedRun) : Nat :=
  runs.countP fun r => r.queueId == id && r.state.isPending

/-! ### After a check -/

/-- Each run that is started counts in its queue. -/
theorem get?_launchFrom (now : Instant) (queues : ById QueueState) (runs : List PreparedRun) (id : Int) :
    (launchFrom now queues runs).1.get? id = (queues.get? id).map
      (QueueState.launchMany ((launchFrom now queues runs).2.2.countP (·.queueId == id))) := by
  induction runs generalizing queues with
  | nil =>
    cases h : queues.get? id with
    | none => simp [launchFrom, h]
    | some q => simp [launchFrom, h, QueueState.launchMany_zero]
  | cons r runs ih =>
    rw [launchFrom]
    split
    · dsimp only
      rw [ih, ById.get?_modify]
      by_cases hid : id = r.queueId
      · subst hid
        rw [if_pos rfl, Option.map_map, List.countP_cons_of_pos (by simp [start])]
        exact congrArg (fun f => (queues.get? r.queueId).map f)
          (funext fun q => QueueState.launchMany_launchOne _ q)
      · rw [if_neg hid, List.countP_cons_of_neg (by simpa [start] using Ne.symm hid)]
    · exact ih queues

theorem get?_sweep (w : Worker) (now : Instant) (id : Int) :
    (w.sweep now).worker.queues.get? id = ((w.clean now).recount.queues.get? id).map
      (QueueState.launchMany ((w.sweep now).started.countP (·.queueId == id))) :=
  get?_launchFrom now (w.clean now).recount.queues (w.clean now).recount.runs id

/-- The counters of the queues are the numbers of their runs, and each waiting run is bound to a queue. -/
structure Counted (w : Worker) : Prop where
  processing_eq : ∀ id q, w.queues.get? id = some q → q.processing = inProgress id w.runs
  waiting_eq : ∀ id q, w.queues.get? id = some q → q.waiting = waiting id w.runs
  bound : ∀ r ∈ w.runs, r.state.isPending → w.queues.contains r.queueId ∧
    r.state = if r.queueId = Queue.directId then .new else .queued

/-- Whether the run is in another queue than the direct one if it is queued. -/
def QueuedApart (r : PreparedRun) : Prop := r.state = .queued → r.queueId ≠ Queue.directId

theorem queuedApart_lasting : Lasting QueuedApart where
  settle queues r h := by
    rw [settle]
    split
    · next hwaits =>
      have hne : r.queueId ≠ Queue.directId := by simpa using (Bool.and_eq_true_iff.1 hwaits).2
      split
      · exact fun _ => hne
      · intro hstate
        cases hstate
    · exact h
  start _ _ _ hstate := by cases hstate
  ended _ _ _ _ hstate := by cases hstate

theorem queuedApart_performAll (settings : WorkerSettings) (initial : List Queue) (start : Instant)
    (ops : List WorkerOperation) :
    ∀ r ∈ ((init settings initial start).performAll ops).runs, QueuedApart r := by
  refine queuedApart_lasting.performAll (fun r hr => ?_) fun run _ r hr hstate => ?_
  · rw [(init_runs settings initial start).1] at hr
    cases hr
  · cases hr with
    | waits | ends => cases hstate

theorem settle_bound (hdirect : queues.contains Queue.directId) {r : PreparedRun} (hr : QueuedApart r)
    (hpending : (settle queues r).state.isPending) :
    queues.contains (settle queues r).queueId ∧ (settle queues r).state =
      if (settle queues r).queueId = Queue.directId then .new else .queued := by
  rw [settle] at hpending ⊢
  split
  · next hwaits =>
    have hne : r.queueId ≠ Queue.directId := by simpa using (Bool.and_eq_true_iff.1 hwaits).2
    split
    · next hcontains => exact ⟨hcontains, rfl⟩
    · exact ⟨hdirect, rfl⟩
  · next hnot =>
    rw [if_neg hnot] at hpending
    have hid : r.queueId = Queue.directId := by simpa [hpending] using hnot
    rw [hid, if_pos rfl]
    refine ⟨hdirect, ?_⟩
    cases hstate : r.state with
    | new => rfl
    | queued => exact absurd hid (hr hstate)
    | inProgress | terminated =>
      rw [hstate] at hpending
      cases hpending

theorem contains_sweep (w : Worker) (now : Instant) (id : Int) :
    (w.sweep now).worker.queues.contains id ↔ w.queues.contains id := by
  rw [contains_iff_definition?, contains_iff_definition?, definition?_sweep]

theorem counters_sweep (hq : (w.sweep now).worker.queues.get? id = some q) :
    q.processing = inProgress id (w.sweep now).worker.runs ∧
      q.waiting = waiting id (w.sweep now).worker.runs := by
  have hl := w.launches_sweep now
  have hrunning : inProgress id (w.sweep now).worker.runs = _ := hl.inProgress_eq
  have hunended : unended id (w.sweep now).worker.runs = _ := hl.unended_eq
  have hsplit : unended id (w.sweep now).worker.runs =
      inProgress id (w.sweep now).worker.runs + waiting id (w.sweep now).worker.runs :=
    unended_eq id _
  rw [get?_sweep] at hq
  obtain ⟨counted, hcounted, rfl⟩ := Option.map_eq_some_iff.1 hq
  obtain ⟨hprocessing, htotal⟩ := recount_counters hcounted
  simp only [QueueState.launchMany]
  omega

theorem counted_sweep (hdirect : w.queues.contains Queue.directId)
    (hqueued : ∀ r ∈ w.runs, QueuedApart r) (now : Instant) : (w.sweep now).worker.Counted where
  processing_eq _ _ hq := (counters_sweep hq).1
  waiting_eq _ _ hq := (counters_sweep hq).2
  bound r hr hpending := by
    have hl := w.launches_sweep now
    rw [contains_sweep]
    rcases hl.mem_or_mem hr with hmem | hmem
    · obtain ⟨o, ho, rfl⟩ := List.mem_map.1 hmem
      exact settle_bound hdirect (hqueued o (List.mem_filter.1 ho).1) hpending
    · obtain ⟨o, -, -, rfl⟩ := hl.exists_pending hmem
      cases hpending

/-! ### What is published -/

/-- Whether each queue is defined under its own id. -/
def IsKeyed (w : Worker) : Prop := ∀ id d, w.definition? id = some d → d.id = id

theorem IsKeyed.sweep (h : w.IsKeyed) (now : Instant) : (w.sweep now).worker.IsKeyed :=
  fun id d hd => h id d (definition?_sweep w now id ▸ hd)

theorem get?_of_mem_observe (hw : w.IsKeyed) {v : QueueView} (hv : v ∈ (w.observe now).queues) :
    ∃ q, w.queues.get? v.id = some q ∧ v = q.view := by
  obtain ⟨q, hq, rfl⟩ := List.mem_map.1 hv
  obtain ⟨id, hget⟩ := ById.mem_values_iff.1 hq
  have hid : q.definition.id = id := hw id q.definition (by rw [definition?, hget, Option.map_some])
  refine ⟨q, ?_, rfl⟩
  show w.queues.get? q.definition.id = some q
  rw [hid, hget]

/-- Views are counted as their runs are. -/
theorem countP_observe (w : Worker) (now : Instant) (p : Int → RunState → Bool) :
    (w.observe now).runs.countP (fun v => p v.queueId v.state) =
      w.runs.countP fun r => p r.queueId r.state := by
  rw [observe, (List.mergeSort_perm _ _).countP_eq, List.countP_map]
  rfl

theorem Counted.isTrue_observe (h : w.Counted) (hw : w.IsKeyed) (now : Instant) :
    (w.observe now).IsTrue where
  processing_eq v hv := by
    obtain ⟨q, hq, hview⟩ := get?_of_mem_observe hw hv
    have hcount : (w.observe now).inProgress v.id = inProgress v.id w.runs :=
      countP_observe w now fun id state => id == v.id && state == .inProgress
    rw [hcount, ← h.processing_eq v.id q hq, hview]
    rfl
  waiting_eq v hv := by
    obtain ⟨q, hq, hview⟩ := get?_of_mem_observe hw hv
    have hcount : (w.observe now).waiting v.id = waiting v.id w.runs :=
      countP_observe w now fun id state => id == v.id && state.isPending
    rw [hcount, ← h.waiting_eq v.id q hq, hview]
    rfl
  bound v hv hpending := by
    obtain ⟨r, hr, rfl⟩ := List.mem_map.1 ((List.mergeSort_perm _ _).mem_iff.1 hv)
    obtain ⟨hcontains, hstate⟩ := h.bound r hr hpending
    obtain ⟨q, hq⟩ := Option.isSome_iff_exists.1 hcontains
    have hid : q.definition.id = r.queueId :=
      hw r.queueId q.definition (by rw [definition?, hq, Option.map_some])
    exact ⟨⟨q.view, List.mem_map_of_mem (ById.mem_values_iff.2 ⟨_, hq⟩), hid⟩, hstate⟩

/-- An event by itself neither starts runs nor publishes anything. -/
theorem react_quiet (w : Worker) (event : WorkerEvent) (now : Instant) :
    (w.react now event).started = [] ∧ (w.react now event).worker.snapshot = w.snapshot := by
  cases event with
  | submit run =>
    rw [react, submit]
    split
    · exact ⟨rfl, rfl⟩
    split
    · exact ⟨rfl, rfl⟩
    split
    · exact ⟨rfl, rfl⟩
    split
    · exact ⟨rfl, rfl⟩
    dsimp only
    split <;> exact ⟨rfl, rfl⟩
  | updateQueue q =>
    rw [react, updateQueue]
    split
    · exact ⟨rfl, rfl⟩
    · split <;> exact ⟨rfl, rfl⟩
  | complete seq outcome =>
    rw [react, complete]
    split
    · exact ⟨rfl, rfl⟩
    · split <;> exact ⟨rfl, rfl⟩
  | housekeeping => exact housekeeping_cases w now (fun _ => ⟨rfl, rfl⟩) fun _ => ⟨rfl, rfl⟩

theorem isKeyed_performAll (settings : WorkerSettings) (initial : List Queue) (start : Instant)
    (ops : List WorkerOperation) : ((init settings initial start).performAll ops).IsKeyed := by
  intro id d hd
  have hmem := (List.mem_filter.1 (mem_definitions hd)).2
  simpa using hmem

theorem contains_directId_performAll (settings : WorkerSettings) (initial : List Queue) (start : Instant)
    (ops : List WorkerOperation) :
    ((init settings initial start).performAll ops).queues.contains Queue.directId := by
  rw [contains_iff_definition?, definition?_performAll_init, if_pos rfl,
    Queue.foldl_update_eq_self fun _ _ _ => Int.lt_irrefl _]
  rfl

/-- Whether no queue has counted anything yet. -/
def Unused (w : Worker) : Prop := ∀ id q, w.queues.get? id = some q → q = { definition := q.definition }

theorem Unused.updateQueue (h : w.Unused) (d : Queue) : (w.updateQueue d).worker.Unused := by
  intro id q hq
  rw [Worker.updateQueue] at hq
  split at hq
  · exact h id q hq
  split at hq
  · rw [ById.get?_erase] at hq
    split at hq
    · cases hq
    · exact h id q hq
  · rw [ById.get?_insert] at hq
    split at hq
    · cases hq
      split
      · next old hold =>
        rw [h d.id old hold]
        rfl
      · rfl
    · exact h id q hq

theorem unused_init (settings : WorkerSettings) (initial : List Queue) (start : Instant) :
    (init settings initial start).Unused := by
  have hfold (w : Worker) (hw : w.Unused) :
      (initial.foldl (fun w q => (w.updateQueue q).worker) w).Unused := by
    induction initial generalizing w with
    | nil => exact hw
    | cons d initial ih => exact ih (w.updateQueue d).worker (hw.updateQueue d)
  refine hfold _ fun id q hq => ?_
  rw [ById.get?_insert] at hq
  split at hq
  · cases hq
    rfl
  · cases hq

theorem counted_init (settings : WorkerSettings) (initial : List Queue) (start : Instant) :
    (init settings initial start).Counted := by
  have hruns := (init_runs settings initial start).1
  refine ⟨fun id q hq => ?_, fun id q hq => ?_, fun r hr => ?_⟩
  · rw [unused_init settings initial start id q hq, hruns]
    rfl
  · rw [unused_init settings initial start id q hq, hruns]
    rfl
  · rw [hruns] at hr
    cases hr

theorem isTrue_performAll (settings : WorkerSettings) (initial : List Queue) (start : Instant)
    (ops : List WorkerOperation) : ((init settings initial start).performAll ops).snapshot.IsTrue := by
  induction ops using List.reverseRecOn with
  | nil =>
    have hcounted := counted_init settings initial start
    exact hcounted.isTrue_observe (isKeyed_performAll settings initial start []) start
  | append_singleton ops op ih =>
    cases op with
    | react event now =>
      rw [performAll_snoc]
      exact (react_quiet _ event now).2.symm ▸ ih
    | check now =>
      have hcounted := counted_sweep (contains_directId_performAll settings initial start ops)
        (queuedApart_performAll settings initial start ops) now
      have hkeyed := isKeyed_performAll settings initial start ops
      rw [performAll_snoc]
      exact perform_check_cases _ now ih (hcounted.isTrue_observe (hkeyed.sweep now) now)

/-! ### What queues have launched and seen end -/

/-- A counter of the queue with an id; 0, if there is no such queue. -/
def total (count : QueueState → Nat) (w : Worker) (id : Int) : Nat := (w.queues.get? id).elim 0 count

/-- Whether a queue has launched what it has seen end and what is in progress. If it is not there, then nothing
is in progress in it. -/
def Balanced (w : Worker) (id : Int) : Prop :=
  w.total QueueState.launched id = w.total QueueState.terminated id + inProgress id w.runs

theorem Balanced.launched_eq (h : w.Balanced id) (hq : w.queues.get? id = some q) :
    q.launched = q.terminated + inProgress id w.runs := by
  rw [Balanced, total, total, hq] at h
  exact h

theorem inProgress_filter {p : PreparedRun → Bool} (hp : ∀ r, r.state.isTerminal = false → p r) :
    inProgress id (runs.filter p) = inProgress id runs := by
  rw [inProgress, List.countP_filter]
  refine List.countP_congr fun r _ => ?_
  rw [Bool.and_eq_true, and_iff_left_iff_imp, Bool.and_eq_true, beq_iff_eq, beq_iff_eq]
  rintro ⟨-, hstate⟩
  exact hp r (by rw [hstate]; rfl)

theorem inProgress_settle (queues : ById QueueState) :
    inProgress id (runs.map (settle queues)) = inProgress id runs := by
  rw [inProgress, List.countP_map]
  refine List.countP_congr fun r _ => ?_
  rcases settle_eq_or queues r with heq | ⟨-, hpending, hpending'⟩
  · rw [Function.comp_apply, heq]
  · have hbefore : (r.state == .inProgress) = false := by simpa using RunState.ne_inProgress hpending
    have hafter : ((settle queues r).state == .inProgress) = false := by
      simpa using RunState.ne_inProgress hpending'
    rw [Function.comp_apply, hbefore, hafter, Bool.and_false, Bool.and_false]

theorem Balanced.clean (h : w.Balanced id) (now : Instant) : (w.clean now).Balanced id := by
  rw [Balanced, Worker.clean, inProgress_filter fun _ => isRetained_of_active]
  exact h

theorem Balanced.recount (h : w.Balanced id) : w.recount.Balanced id := by
  have hsame (count : QueueState → Nat) (hcount : ∀ q, count (q.recount id w.recount.runs) = count q) :
      w.recount.total count id = w.total count id := by
    rw [total, Worker.recount, ById.get?_mapWithId]
    cases hq : w.queues.get? id with
    | none => rw [total, hq]; rfl
    | some q => rw [total, hq]; exact hcount q
  rw [Balanced, hsame _ fun _ => rfl, hsame _ fun _ => rfl, Worker.recount, inProgress_settle]
  exact h

theorem Balanced.sweep (h : w.Balanced id) (now : Instant) :
    (w.sweep now).worker.Balanced id := by
  have hcounted := (h.clean now).recount
  have hrunning : inProgress id (w.sweep now).worker.runs = _ := (w.launches_sweep now).inProgress_eq
  rw [Balanced, total, total] at hcounted ⊢
  rw [get?_sweep, hrunning]
  cases hq : (w.clean now).recount.queues.get? id with
  | none =>
    have hnone : (w.sweep now).started.countP (·.queueId == id) = 0 := launchFrom_started_eq_zero hq
    rw [hnone]
    rw [hq] at hcounted
    exact hcounted
  | some q =>
    rw [hq] at hcounted
    simp only [Option.map_some, Option.elim_some, QueueState.launchMany] at hcounted ⊢
    omega

theorem Balanced.append (h : w.Balanced id) {r : PreparedRun} (hr : r.state ≠ .inProgress) :
    (w.append r).Balanced id := by
  have hnone : inProgress id [{ r with seq := w.lastSeq + 1 }] = 0 := by
    simp [inProgress, hr]
  rw [Balanced, Worker.append, inProgress_append, hnone, inProgress_filter fun o ho => by rw [ho]; rfl]
  exact h

theorem Balanced.submit (h : w.Balanced id) (run : PreparedRun) (now : Instant) :
    (w.submit run now).worker.Balanced id := by
  rw [Worker.submit]
  split
  · exact h
  split
  · exact h
  split
  · exact h.append (by simp)
  split
  · exact h
  dsimp only
  split
  · exact h.recount
  · exact h.recount.append (by simp)

/-- An update keeps the counters of a queue that it does not delete. -/
theorem total_updateQueue {count : QueueState → Nat} (hnew : ∀ d, count { definition := d } = 0)
    (hkept : ∀ q d, count (q.redefine d) = count q) (d : Queue)
    (hkeeps : w.queues.contains id → (w.updateQueue d).worker.queues.contains id) :
    (w.updateQueue d).worker.total count id = w.total count id := by
  rw [updateQueue] at hkeeps ⊢
  split
  · rfl
  next hdirect =>
    rw [if_neg hdirect] at hkeeps
    split
    · next hdeleted =>
      rw [if_pos hdeleted] at hkeeps
      rw [total, total, ById.get?_erase]
      by_cases hid : id = d.id
      · have hgone : ¬w.queues.contains id := fun hthere => by
          have hstill := hkeeps hthere
          simp [ById.contains, hid] at hstill
        rw [if_pos hid, ById.get?_eq_none_of_not_contains hgone]
      · rw [if_neg hid]
    · rw [total, total, ById.get?_insert]
      by_cases hid : id = d.id
      · subst hid
        rw [if_pos rfl]
        cases w.queues.get? d.id with
        | none => exact hnew d
        | some old => exact hkept old d
      · rw [if_neg hid]

theorem Balanced.updateQueue (h : w.Balanced id) (d : Queue)
    (hkeeps : w.queues.contains id → (w.updateQueue d).worker.queues.contains id) :
    (w.updateQueue d).worker.Balanced id := by
  rw [Balanced, total_updateQueue (fun _ => rfl) (fun _ _ => rfl) d hkeeps,
    total_updateQueue (fun _ => rfl) (fun _ _ => rfl) d hkeeps, updateQueue_runs]
  exact h

/-- When an execution ends, one run less is in progress in its queue. -/
theorem inProgress_end (hnodup : (runs.map (·.seq)).Nodup) {r : PreparedRun} (hr : r ∈ runs)
    (hstate : r.state = .inProgress) (outcome : FlowOutcome) (now : Instant) :
    inProgress id runs =
      inProgress id (runs.map fun o => if o.seq = r.seq then ended outcome now r else o) +
        if r.queueId = id then 1 else 0 := by
  obtain ⟨before, after, rfl⟩ := List.append_of_mem hr
  rw [map_replace_eq _ hnodup]
  simp only [inProgress, List.countP_append, List.countP_cons, hstate, ended]
  by_cases hid : r.queueId = id
  · simp [hid, Nat.add_assoc]
  · simp [hid]

/-- The end of an execution moves its run from those in progress to those that have ended. -/
theorem Balanced.complete (h : w.Balanced id) (hw : w.Distinct) {seq : Nat}
    (hbegun : ∀ r ∈ w.runs, r.seq = seq → r.state.isPending = false) (outcome : FlowOutcome)
    (now : Instant) : (w.complete seq outcome now).worker.Balanced id := by
  rw [Worker.complete]
  split
  · exact h
  next r hfind =>
    split
    · exact h
    next hactive =>
      obtain ⟨hr, rfl⟩ := (find?_seq_eq_some_iff hw.seqs_nodup).1 hfind
      have hstate : r.state = .inProgress := by
        have hpending := hbegun r hr rfl
        cases hstate : r.state with
        | inProgress => rfl
        | new | queued => rw [hstate] at hpending; cases hpending
        | terminated => rw [hstate] at hactive; exact absurd rfl hactive
      have hcount : inProgress id w.runs = _ := inProgress_end hw.seqs_nodup hr hstate outcome now
      rw [Balanced, total, total] at h
      show (((w.queues.modify r.queueId QueueState.endOne).get? id).elim 0 QueueState.launched) =
        ((w.queues.modify r.queueId QueueState.endOne).get? id).elim 0 QueueState.terminated +
          inProgress id (w.runs.map fun o => if o.seq = r.seq then ended outcome now r else o)
      rw [ById.get?_modify]
      by_cases hid : id = r.queueId
      · subst hid
        rw [if_pos rfl] at hcount ⊢
        cases hq : w.queues.get? r.queueId with
        | none =>
          rw [hq] at h
          simp only [Option.elim_none] at h
          omega
        | some q =>
          rw [hq] at h
          simp only [Option.map_some, Option.elim_some, QueueState.endOne] at h ⊢
          omega
      · rw [if_neg (Ne.symm hid)] at hcount
        rw [if_neg hid]
        omega

theorem Balanced.perform (h : w.Balanced id) (hw : w.Distinct) {op : WorkerOperation}
    (hbegun : ∀ seq ∈ op.feedback?, ∀ r ∈ w.runs, r.seq = seq → r.state.isPending = false)
    (hkeeps : w.queues.contains id → (w.perform op).queues.contains id) :
    (w.perform op).Balanced id := by
  cases op with
  | check now => exact perform_check_cases w now h (h.sweep now)
  | react event now =>
    cases event with
    | submit run => exact h.submit run now
    | updateQueue q => exact h.updateQueue q hkeeps
    | complete seq outcome => exact h.complete hw (hbegun seq rfl) outcome now
    | housekeeping => exact perform_housekeeping_cases w now h (h.clean now)

/-! ### Executions that have begun -/

/-- The runs whose execution an operation begins. -/
def startedBy (w : Worker) : WorkerOperation → List PreparedRun
  | .react event now => (w.react now event).started
  | .check now => (w.checkRuns now).started

/-- The numbers of the runs whose executions begin in several operations in a row. -/
def begunBy (w : Worker) : List WorkerOperation → List Nat
  | [] => []
  | op :: ops => (w.startedBy op).map (·.seq) ++ (w.perform op).begunBy ops

/-- Whether something holds of each operation in a row, with the worker before it and the numbers of the runs
whose executions have begun by then. -/
def Throughout (P : Worker → List Nat → WorkerOperation → Prop) :
    Worker → List Nat → List WorkerOperation → Prop
  | _, _, [] => True
  | w, begun, op :: ops =>
    P w begun op ∧ Throughout P (w.perform op) (begun ++ (w.startedBy op).map (·.seq)) ops

/-- Whether each execution whose end the worker takes in has begun before. -/
def EndsWhatBegan (w : Worker) (ops : List WorkerOperation) : Prop :=
  Throughout (fun _ begun op => ∀ seq ∈ op.feedback?, seq ∈ begun) w [] ops

/-- Whether no operation deletes the queue with an id. -/
def Keeps (w : Worker) (id : Int) (ops : List WorkerOperation) : Prop :=
  Throughout (fun w _ op => w.queues.contains id → (w.perform op).queues.contains id) w [] ops

instance Throughout.decidable {P : Worker → List Nat → WorkerOperation → Prop}
    [∀ w begun op, Decidable (P w begun op)] (w : Worker) (begun : List Nat) :
    (ops : List WorkerOperation) → Decidable (Throughout P w begun ops)
  | [] => .isTrue trivial
  | op :: ops =>
    have := Throughout.decidable (P := P) (w.perform op) (begun ++ (w.startedBy op).map (·.seq)) ops
    inferInstanceAs (Decidable (_ ∧ _))

instance (w : Worker) (ops : List WorkerOperation) : Decidable (w.EndsWhatBegan ops) :=
  Throughout.decidable w [] ops

instance (w : Worker) (id : Int) (ops : List WorkerOperation) : Decidable (w.Keeps id ops) :=
  Throughout.decidable w [] ops

theorem begunBy_snoc (w : Worker) (ops : List WorkerOperation) (op : WorkerOperation) :
    w.begunBy (ops ++ [op]) = w.begunBy ops ++ ((w.performAll ops).startedBy op).map (·.seq) := by
  induction ops generalizing w with
  | nil => simp [begunBy, performAll]
  | cons first ops ih =>
    rw [List.cons_append, begunBy, begunBy, ih, List.append_assoc]
    rfl

theorem throughout_snoc {P : Worker → List Nat → WorkerOperation → Prop} (w : Worker) (begun : List Nat)
    (ops : List WorkerOperation) (op : WorkerOperation) : Throughout P w begun (ops ++ [op]) ↔
      Throughout P w begun ops ∧ P (w.performAll ops) (begun ++ w.begunBy ops) op := by
  induction ops generalizing w begun with
  | nil => simp [Throughout, begunBy, performAll]
  | cons first ops ih =>
    rw [List.cons_append, Throughout, Throughout, ih, begunBy, List.append_assoc, and_assoc]
    rfl

theorem throughout_of_forall {P : Worker → List Nat → WorkerOperation → Prop}
    (h : ∀ w begun op, P w begun op) (w : Worker) (begun : List Nat) (ops : List WorkerOperation) :
    Throughout P w begun ops := by
  induction ops generalizing w begun with
  | nil => trivial
  | cons op ops ih => exact ⟨h w begun op, ih _ _⟩

/-- The direct queue is never deleted. -/
theorem keeps_directId (w : Worker) (ops : List WorkerOperation) : w.Keeps Queue.directId ops := by
  refine throughout_of_forall (fun w _ op => ?_) w [] ops
  rw [contains_iff_definition?, contains_iff_definition?, definition?_perform]
  cases op.update? with
  | none => exact fun h => h
  | some q =>
    have hsame : q.update Queue.directId (w.definition? Queue.directId) = w.definition? Queue.directId :=
      if_neg fun h => Int.lt_irrefl _ h.2
    rw [Option.elim_some, hsame]
    exact fun h => h

/-- The executions that have begun are not those of runs that wait. -/
structure Unbegun (w : Worker) (begun : List Nat) : Prop where
  le : ∀ n ∈ begun, n ≤ w.lastSeq
  not_mem : ∀ r ∈ w.runs, r.state.isPending → r.seq ∉ begun

variable {begun : List Nat} {w' : Worker}

theorem Unbegun.tidy (h : w.Unbegun begun) (ht : Tidies w.runs w'.runs) (hseq : w'.lastSeq = w.lastSeq) :
    w'.Unbegun begun where
  le n hn := hseq ▸ h.le n hn
  not_mem r hr hpending := by
    rcases ht.origin r hr with hmem | ⟨o, ho, heq, hpending', -⟩
    · exact h.not_mem r hmem hpending
    · rw [← heq]
      exact h.not_mem o ho hpending'

theorem Unbegun.submit (h : w.Unbegun begun) (run : PreparedRun) (now : Instant) :
    (w.submit run now).worker.Unbegun begun := by
  obtain ⟨-, ⟨-, hseq, ht, -⟩ | ⟨kept, r, hadds⟩⟩ := w.submit_cases run now
  · exact h.tidy ht hseq
  · constructor
    · intro n hn
      rw [hadds.lastSeq_eq]
      exact Nat.le_succ_of_le (h.le n hn)
    · intro o ho hpending
      rw [hadds.runs_eq] at ho
      rcases List.mem_append.1 ho with ho | ho
      · have hkept : ({ w with runs := kept } : Worker).Unbegun begun := h.tidy hadds.tidies rfl
        exact hkept.not_mem o ho hpending
      · rw [List.mem_singleton.1 ho, hadds.seq_eq]
        intro hmem
        have hle := h.le _ hmem
        omega

theorem Unbegun.complete (h : w.Unbegun begun) (seq : Nat) (outcome : FlowOutcome) (now : Instant) :
    (w.complete seq outcome now).worker.Unbegun begun where
  le n hn := by
    rw [complete_lastSeq]
    exact h.le n hn
  not_mem r hr hpending := by
    rw [Worker.complete] at hr
    split at hr
    · exact h.not_mem r hr hpending
    split at hr
    · exact h.not_mem r hr hpending
    obtain ⟨o, ho, rfl⟩ := List.mem_map.1 hr
    split at hpending
    · cases hpending
    · next hne =>
      rw [if_neg hne]
      exact h.not_mem o ho hpending

theorem Unbegun.sweep (h : w.Unbegun begun) (hw : w.Distinct) (now : Instant) :
    (w.sweep now).worker.Unbegun (begun ++ (w.sweep now).started.map (·.seq)) := by
  have ht := (tidies_clean w now).trans (tidies_recount (w.clean now))
  have hl := w.launches_sweep now
  have hcounted : (w.clean now).recount.Unbegun begun := h.tidy ht rfl
  have hdistinct := hw.sweep now
  constructor
  · intro n hn
    rcases List.mem_append.1 hn with hn | hn
    · exact h.le n hn
    · obtain ⟨r, hr, rfl⟩ := List.mem_map.1 hn
      exact hdistinct.seq_le r (hl.sublist.subset hr)
  · intro r hr hpending hmem
    obtain ⟨hr, hnot⟩ := hl.mem_of_pending hdistinct.seqs_nodup hr hpending
    exact (List.mem_append.1 hmem).elim (hcounted.not_mem r hr hpending) hnot

theorem Unbegun.perform (h : w.Unbegun begun) (hw : w.Distinct) (op : WorkerOperation) :
    (w.perform op).Unbegun (begun ++ (w.startedBy op).map (·.seq)) := by
  cases op with
  | check now =>
    rw [startedBy, Worker.perform]
    exact checkRuns_cases w now (fun _ => by simpa using h) fun _ => h.sweep hw now
  | react event now =>
    rw [startedBy, (w.react_quiet event now).1, List.map_nil, List.append_nil]
    cases event with
    | submit run => exact h.submit run now
    | updateQueue q =>
      refine h.tidy ?_ (updateQueue_lastSeq w q)
      show Tidies w.runs (w.updateQueue q).worker.runs
      rw [updateQueue_runs]
      exact .refl _
    | complete seq outcome => exact h.complete seq outcome now
    | housekeeping => exact perform_housekeeping_cases w now h (h.tidy (tidies_clean w now) rfl)

end Worker

namespace WorkerSite

variable {s s' : WorkerSite} {m : WorkerMove} {settings : WorkerSettings} {queues : List Queue}
  {start : Instant}

/-- A move of a site is an operation of its worker, which takes in the end of an execution only after its
beginning, or the end of an execution that the worker does not see yet. -/
theorem Step.operation (hm : s.Step m s') (hs : s.Sound) :
    s'.worker = s.worker ∧ s'.spawned = s.spawned ∨
      ∃ op, s'.worker = s.worker.perform op ∧ s'.spawned = s.spawned ++ s.worker.startedBy op ∧
        ∀ seq ∈ op.feedback?, seq ∈ s.spawned.map (·.seq) := by
  cases hm with
  | submit run now _ => exact .inr ⟨.react (.submit run) now, rfl, rfl, nofun⟩
  | updateQueue queue now _ => exact .inr ⟨.react (.updateQueue queue) now, rfl, rfl, nofun⟩
  | housekeeping now _ => exact .inr ⟨.react .housekeeping now, rfl, rfl, nofun⟩
  | check now _ => exact .inr ⟨.check now, rfl, rfl, nofun⟩
  | finish _ _ => exact .inl ⟨rfl, rfl⟩
  | @deliver seq outcome rest now _ hfeedback =>
    refine .inr ⟨.react (.complete seq outcome) now, rfl, rfl, fun n hn => ?_⟩
    obtain rfl := Option.some.inj hn
    refine hs.spawned_perm.mem_iff.2 (List.mem_append_left _ (List.mem_append_right _ ?_))
    rw [hfeedback]
    exact List.mem_cons_self

/-- What a worker with its executions does is a sequence of operations in which executions end after their
beginning. -/
theorem Reachable.exists_operations (h : Reachable settings queues start s) :
    ∃ ops, s.worker = (Worker.init settings queues start).performAll ops ∧
      (Worker.init settings queues start).EndsWhatBegan ops ∧
      (Worker.init settings queues start).begunBy ops = s.spawned.map (·.seq) := by
  induction h with
  | init => exact ⟨[], rfl, trivial, rfl⟩
  | step hreach hm ih =>
    obtain ⟨ops, hworker, hbegan, hspawned⟩ := ih
    rcases hm.operation hreach.sound with ⟨hsame, hspawned'⟩ | ⟨op, hop, hspawned', hfeedback⟩
    · exact ⟨ops, hsame.trans hworker, hbegan, hspawned' ▸ hspawned⟩
    · refine ⟨ops ++ [op], ?_, ?_, ?_⟩
      · rw [Worker.performAll_snoc, hop, hworker]
      · refine (Worker.throughout_snoc _ [] ops op).2 ⟨hbegan, fun seq hseq => ?_⟩
        rw [List.nil_append, hspawned]
        exact hfeedback seq hseq
      · rw [Worker.begunBy_snoc, hspawned, ← hworker, hspawned', List.map_append]

end WorkerSite

namespace Worker

variable {w : Worker} {q : QueueState} {id : Int} {begun : List Nat} {ops : List WorkerOperation}

/-! ### All operations -/

/-- What holds of a worker and a queue that is not deleted, while executions end that have begun. -/
structure Ledger (w : Worker) (begun : List Nat) (id : Int) : Prop where
  distinct : w.Distinct
  keyed : w.IsKeyed
  unbegun : w.Unbegun begun
  balanced : w.Balanced id
  published : ∀ v ∈ w.snapshot.queues, v.id = id → (v.launched : Int) = v.terminated + v.processing

theorem IsKeyed.perform (h : w.IsKeyed) (op : WorkerOperation) : (w.perform op).IsKeyed := by
  intro id d hd
  rw [definition?_perform] at hd
  cases hop : op.update? with
  | none =>
    rw [hop] at hd
    exact h id d hd
  | some q =>
    rw [hop, Option.elim_some, Queue.update] at hd
    split at hd
    · next hthis =>
      split at hd
      · cases hd
      · cases hd
        exact hthis.1.symm
    · exact h id d hd

theorem Ledger.perform (h : w.Ledger begun id) {op : WorkerOperation}
    (hbegun : ∀ seq ∈ op.feedback?, seq ∈ begun)
    (hkeeps : w.queues.contains id → (w.perform op).queues.contains id) :
    (w.perform op).Ledger (begun ++ (w.startedBy op).map (·.seq)) id := by
  have hbalanced : (w.perform op).Balanced id := by
    refine h.balanced.perform h.distinct (fun seq hseq r hr heq => ?_) hkeeps
    refine Bool.eq_false_iff.2 fun hpending => h.unbegun.not_mem r hr hpending ?_
    exact heq ▸ hbegun seq hseq
  refine ⟨h.distinct.perform op, h.keyed.perform op, h.unbegun.perform h.distinct op, hbalanced, ?_⟩
  cases op with
  | react event now => exact (w.react_quiet event now).2.symm ▸ h.published
  | check now =>
    refine perform_check_cases w now h.published fun v hv hid => ?_
    obtain ⟨q, hq, hview⟩ := get?_of_mem_observe (h.keyed.sweep now) hv
    rw [hid] at hq
    have hprocessing := (counters_sweep hq).1
    have hlaunched := (h.balanced.sweep now).launched_eq hq
    rw [hview]
    simp only [QueueState.view]
    omega

theorem Ledger.performAll (h : w.Ledger begun id)
    (hbegun : Throughout (fun _ begun op => ∀ seq ∈ op.feedback?, seq ∈ begun) w begun ops)
    (hkeeps : Throughout (fun w _ op => w.queues.contains id → (w.perform op).queues.contains id)
      w begun ops) :
    ∃ begun', (w.performAll ops).Ledger begun' id := by
  induction ops generalizing w begun with
  | nil => exact ⟨begun, h⟩
  | cons op ops ih => exact ih (h.perform hbegun.1 hkeeps.1) hbegun.2 hkeeps.2

theorem ledger_init (settings : WorkerSettings) (initial : List Queue) (start : Instant) (id : Int) :
    (init settings initial start).Ledger [] id := by
  obtain ⟨hruns, -⟩ := init_runs settings initial start
  have hunused := unused_init settings initial start
  have hkeyed := isKeyed_performAll settings initial start []
  refine ⟨distinct_performAll settings initial start [], hkeyed,
    ⟨fun _ hn => absurd hn List.not_mem_nil, fun _ _ _ => List.not_mem_nil⟩, ?_, fun v hv _ => ?_⟩
  · rw [Balanced, total, total, hruns]
    cases hq : (init settings initial start).queues.get? id with
    | none => rfl
    | some q =>
      rw [hunused id q hq]
      rfl
  · obtain ⟨q, hq, hview⟩ := get?_of_mem_observe hkeyed hv
    rw [hview, hunused v.id q hq]
    rfl

/-- Whatever is done to a worker, and in whatever order, its snapshot shows true counters; and if executions
report their ends after they have begun, then a queue that is not deleted, as the direct one never is, has
launched what it has seen end and what is in progress. All that a worker with its executions can do is of
this kind. -/
theorem snapshot_counters (settings : WorkerSettings) (initial : List Queue) (start : Instant) :
    let w := init settings initial start
    (∀ ops, let s := (w.performAll ops).snapshot
      s.IsTrue ∧ (w.EndsWhatBegan ops → ∀ v ∈ s.queues, v.id = Queue.directId ∨ w.Keeps v.id ops →
        (v.launched : Int) = v.terminated + v.processing)) ∧
      ∀ site, WorkerSite.Reachable settings initial start site →
        ∃ ops, site.worker = w.performAll ops ∧ w.EndsWhatBegan ops := by
  intro w
  refine ⟨fun ops => ⟨isTrue_performAll settings initial start ops, fun hbegan v hv hkeeps => ?_⟩,
    fun site hsite => ?_⟩
  · have hkept : w.Keeps v.id ops := by
      rcases hkeeps with hdirect | hkeeps
      · rw [hdirect]
        exact keeps_directId w ops
      · exact hkeeps
    obtain ⟨_, hledger⟩ := (ledger_init settings initial start v.id).performAll hbegan hkept
    exact hledger.published v hv rfl
  · obtain ⟨ops, hworker, hbegan, -⟩ := hsite.exists_operations
    exact ⟨ops, hworker, hbegan⟩

/-! ### A queue whose definition changes -/

private def track : Queue := { id := 5, name := "track", slot := 1 }

private def trackRun (flowId : Int) : PreparedRun :=
  { PreparedRun.ofTrigger flowId "transfer" (.manual "operator" (.utc .epoch)) with queueId := 5 }

/-- Of two runs the first ends, and the second begins once the queue has got more slots. -/
private def trackOps : List WorkerOperation :=
  [.react (.submit (trackRun 1)) .epoch, .react (.submit (trackRun 2)) .epoch, .check .epoch,
    .react (.complete 1 ⟨.ok, "done"⟩) .epoch, .react (.updateQueue { track with slot := 3 }) .epoch,
    .check .epoch]

theorem snapshot_counters_over_redefinition :
    let w := init {} [track] .epoch
    let s := (w.performAll trackOps).snapshot
    w.EndsWhatBegan trackOps ∧ w.Keeps 5 trackOps ∧ s.IsTrue ∧
      s.queues.map (fun v => (v.id, v.launched, v.terminated)) = [(0, 0, 0), (5, 2, 1)] ∧
      ∀ v ∈ s.queues, (v.launched : Int) = v.terminated + v.processing := by
  obtain ⟨htrue, hbalanced⟩ := (snapshot_counters {} [track] .epoch).1 trackOps
  have hbegan : (init {} [track] .epoch).EndsWhatBegan trackOps := by decide
  have hkeeps : (init {} [track] .epoch).Keeps 5 trackOps := by decide
  have hids : ∀ v ∈ ((init {} [track] .epoch).performAll trackOps).snapshot.queues,
      v.id = Queue.directId ∨ v.id = 5 := by decide
  refine ⟨hbegan, hkeeps, htrue, by decide, fun v hv => hbalanced hbegan v hv ?_⟩
  rcases hids v hv with hid | hid
  · exact .inl hid
  · exact .inr (by rwa [hid])

end Worker

end FlowScheduler
