import Mathlib
import FlowScheduler.Proofs.Worker.RunList

/-!
Sequences of operations on a worker.

A worker reacts to events and checks its runs, in any order (`Worker.performAll`). What its runs keep as they
are settled, started and ended lasts over all operations (`Worker.Lasting.performAll`). The definitions of its
queues depend on the updates among the operations only (`Worker.definition?_performAll`): an update defines
its queue or, without slots, deletes it, and leaves the direct queue alone (`Queue.update`).
-/

namespace FlowScheduler

/-- What can be done to a worker. -/
inductive WorkerOperation where
  /-- The worker reacts to an event. -/
  | react (event : WorkerEvent) (now : Instant)
  /-- The worker checks its runs. -/
  | check (now : Instant)

/-- The definition of a queue that an operation hands to the worker. -/
def WorkerOperation.update? : WorkerOperation → Option Queue
  | .react (.updateQueue q) _ => some q
  | _ => none

/-- The run that an operation hands to the worker. -/
def WorkerOperation.submission? : WorkerOperation → Option PreparedRun
  | .react (.submit run) _ => some run
  | _ => none

/-- The updates of queues among operations, in their order. -/
def WorkerOperation.updates (ops : List WorkerOperation) : List Queue := ops.filterMap update?

/-- The runs that are submitted among operations. -/
def WorkerOperation.submissions (ops : List WorkerOperation) : List PreparedRun :=
  ops.filterMap submission?

/-- What the update of a queue makes of the definition that stands under an id. -/
def Queue.update (q : Queue) (id : Int) (old : Option Queue) : Option Queue :=
  if id = q.id ∧ directId < id then if q.isDeleted then none else some q else old

theorem Queue.foldl_update_eq_self {qs : List Queue} {id : Int}
    (h : ∀ q ∈ qs, q.id = id → ¬directId < id) (old : Option Queue) :
    qs.foldl (fun old q => q.update id old) old = old := by
  induction qs with
  | nil => rfl
  | cons q qs ih =>
    obtain ⟨hq, hqs⟩ := List.forall_mem_cons.1 h
    have hsame : q.update id old = old := if_neg fun ⟨hid, hpos⟩ => hq hid.symm hpos
    rw [List.foldl_cons, hsame]
    exact ih hqs

namespace Worker

/-- The worker after an operation. -/
def perform (w : Worker) : WorkerOperation → Worker
  | .react event now => (w.react now event).worker
  | .check now => (w.checkRuns now).worker

/-- The worker after several operations in a row. -/
def performAll (w : Worker) (ops : List WorkerOperation) : Worker := ops.foldl perform w

theorem performAll_snoc (w : Worker) (ops : List WorkerOperation) (op : WorkerOperation) :
    w.performAll (ops ++ [op]) = (w.performAll ops).perform op := by
  rw [performAll, List.foldl_append]
  rfl

/-- A check that breaks off leaves the worker as it was. -/
@[elab_as_elim]
theorem perform_check_cases {motive : Worker → Prop} (w : Worker) (now : Instant) (same : motive w)
    (sweep : motive (w.sweep now).worker) : motive (w.perform (.check now)) := by
  rw [perform]
  exact checkRuns_cases w now (fun _ => same) fun _ => sweep

/-- Housekeeping that breaks off leaves the worker as it was. -/
@[elab_as_elim]
theorem perform_housekeeping_cases {motive : Worker → Prop} (w : Worker) (now : Instant) (same : motive w)
    (clean : motive (w.clean now)) : motive (w.perform (.react .housekeeping now)) := by
  rw [perform]
  exact housekeeping_cases w now (fun _ => same) fun _ => clean

theorem lastSeq_le_perform (w : Worker) (op : WorkerOperation) : w.lastSeq ≤ (w.perform op).lastSeq := by
  cases op with
  | check now => exact perform_check_cases w now (Nat.le_refl _) (Nat.le_refl _)
  | react event now =>
    cases event with
    | submit run =>
      show w.lastSeq ≤ (w.submit run now).worker.lastSeq
      obtain ⟨-, ⟨-, hsame, -⟩ | ⟨kept, r, hadds⟩⟩ := w.submit_cases run now
      · exact hsame.ge
      · rw [hadds.lastSeq_eq]
        exact Nat.le_succ _
    | updateQueue q => exact (updateQueue_lastSeq w q).ge
    | complete seq outcome => exact (complete_lastSeq w seq outcome now).ge
    | housekeeping => exact perform_housekeeping_cases w now (Nat.le_refl _) (Nat.le_refl _)

/-! ### What stays with the runs -/

/-- A run as the worker takes it in: it waits, or it has ended at once. -/
inductive Enters (run : PreparedRun) : PreparedRun → Prop
  | waits (seq : Nat) : Enters run { run with seq, state := .new }
  | ends (seq : Nat) (now : Instant) :
      Enters run { run with seq, state := .terminated, stoppedAt := some now }

/-- A property that runs keep whatever the worker does with them. -/
structure Lasting (P : PreparedRun → Prop) : Prop where
  settle : ∀ queues r, P r → P (settle queues r)
  start : ∀ now r, P r → P (start now r)
  ended : ∀ outcome now r, P r → P (ended outcome now r)

namespace Lasting

variable {P : PreparedRun → Prop} {w : Worker} {runs after started : List PreparedRun}
  {run r : PreparedRun} {now : Instant}

theorem recount (hP : Lasting P) (h : ∀ r ∈ w.runs, P r) : ∀ r ∈ w.recount.runs, P r :=
  List.forall_mem_map.2 fun r hr => hP.settle w.queues r (h r hr)

theorem launch (hP : Lasting P) (h : ∀ r ∈ runs, P r) (hl : Launches now runs after started) :
    ∀ r ∈ after, P r := by
  induction hl with
  | nil => exact h
  | keep r _ ih =>
    obtain ⟨hr, hrest⟩ := List.forall_mem_cons.1 h
    exact List.forall_mem_cons.2 ⟨hr, ih hrest⟩
  | start _ _ ih =>
    obtain ⟨hr, hrest⟩ := List.forall_mem_cons.1 h
    exact List.forall_mem_cons.2 ⟨hP.start now _ hr, ih hrest⟩

theorem sweep (hP : Lasting P) (h : ∀ r ∈ w.runs, P r) (now : Instant) :
    ∀ r ∈ (w.sweep now).worker.runs, P r := by
  have hclean : ∀ r ∈ (w.clean now).runs, P r := fun r hr => h r (List.mem_filter.1 hr).1
  exact hP.launch (hP.recount hclean) (w.launches_sweep now)

theorem append (h : ∀ r ∈ w.runs, P r) (hr : P { r with seq := w.lastSeq + 1 }) :
    ∀ o ∈ (w.append r).runs, P o := by
  intro o ho
  rcases List.mem_append.1 ho with ho | ho
  · exact h o (List.mem_filter.1 ho).1
  · rwa [List.mem_singleton.1 ho]

theorem submit (hP : Lasting P) (h : ∀ r ∈ w.runs, P r)
    (hrun : ∀ r, Enters run r → r.seq = w.lastSeq + 1 → P r) (now : Instant) :
    ∀ r ∈ (w.submit run now).worker.runs, P r := by
  rw [Worker.submit]
  split
  · exact h
  split
  · exact h
  split
  · exact append h (hrun _ (.ends _ now) rfl)
  split
  · exact h
  dsimp only
  split
  · exact hP.recount h
  · exact append (hP.recount h) (hrun _ (.waits _) rfl)

theorem complete (hP : Lasting P) (h : ∀ r ∈ w.runs, P r) (seq : Nat) (outcome : FlowOutcome)
    (now : Instant) : ∀ r ∈ (w.complete seq outcome now).worker.runs, P r := by
  rw [Worker.complete]
  split
  · exact h
  next r hfind =>
    split
    · exact h
    have hr := h r (List.mem_of_find?_eq_some hfind)
    refine List.forall_mem_map.2 fun o ho => ?_
    split
    · exact hP.ended outcome now r hr
    · exact h o ho

/-- An operation leaves the property with all runs if it lets in only those that have it. -/
theorem perform (hP : Lasting P) (h : ∀ r ∈ w.runs, P r) {op : WorkerOperation}
    (hop : ∀ run, op.submission? = some run → ∀ r, Enters run r → r.seq = w.lastSeq + 1 → P r) :
    ∀ r ∈ (w.perform op).runs, P r := by
  cases op with
  | check now => exact perform_check_cases w now h (hP.sweep h now)
  | react event now =>
    cases event with
    | submit run => exact hP.submit h (hop run rfl) now
    | updateQueue q =>
      show ∀ r ∈ (w.updateQueue q).worker.runs, P r
      rwa [updateQueue_runs]
    | complete seq outcome => exact hP.complete h seq outcome now
    | housekeeping => exact perform_housekeeping_cases w now h fun r hr => h r (List.mem_filter.1 hr).1

theorem performAll (hP : Lasting P) (h : ∀ r ∈ w.runs, P r) {ops : List WorkerOperation}
    (hops : ∀ run ∈ WorkerOperation.submissions ops, ∀ r, Enters run r → P r) :
    ∀ r ∈ (w.performAll ops).runs, P r := by
  induction ops using List.reverseRecOn with
  | nil => exact h
  | append_singleton ops op ih =>
    rw [WorkerOperation.submissions, List.filterMap_append] at hops
    rw [performAll_snoc]
    refine hP.perform (ih fun run hrun => hops run (List.mem_append_left _ hrun)) fun run hrun r hr _ => ?_
    refine hops run (List.mem_append_right _ ?_) r hr
    rw [List.filterMap_cons_some hrun]
    exact List.mem_cons_self

/-- What the runs of a number that was given keep, they keep over all operations: a number is given once. -/
theorem performAll_of_seq {seq : Nat} (hP : Lasting fun r => r.seq = seq → P r) (hseq : seq ≤ w.lastSeq)
    (h : ∀ r ∈ w.runs, r.seq = seq → P r) (ops : List WorkerOperation) :
    ∀ r ∈ (w.performAll ops).runs, r.seq = seq → P r := by
  have hboth : seq ≤ (w.performAll ops).lastSeq ∧ ∀ r ∈ (w.performAll ops).runs, r.seq = seq → P r := by
    induction ops using List.reverseRecOn with
    | nil => exact ⟨hseq, h⟩
    | append_singleton ops op ih =>
      rw [performAll_snoc]
      refine ⟨ih.1.trans (lastSeq_le_perform _ op), hP.perform ih.2 fun _ _ r _ hnext heq => ?_⟩
      have hle := ih.1
      omega
  exact hboth.2

end Lasting

/-! ### Definitions of queues -/

/-- The definition of the queue with an id. -/
def definition? (w : Worker) (id : Int) : Option Queue := (w.queues.get? id).map (·.definition)

variable {w : Worker} {id : Int}

theorem contains_iff_definition? : w.queues.contains id ↔ (w.definition? id).isSome := by
  rw [definition?, Option.isSome_map, ById.contains]

theorem definition?_updateQueue (w : Worker) (q : Queue) (id : Int) :
    (w.updateQueue q).worker.definition? id = q.update id (w.definition? id) := by
  rw [updateQueue]
  split
  · next hdirect =>
    have hnot : ¬(id = q.id ∧ Queue.directId < id) := by omega
    rw [Queue.update, if_neg hnot]
  · next hdirect =>
    by_cases h : id = q.id
    · have hthis : id = q.id ∧ Queue.directId < id := ⟨h, by omega⟩
      rw [Queue.update, if_pos hthis]
      split
      · rw [definition?, ById.get?_erase, if_pos h, Option.map_none]
      · rw [definition?, ById.get?_insert, if_pos h]
        cases w.queues.get? q.id with
        | none | some old => rfl
    · have hnot : ¬(id = q.id ∧ Queue.directId < id) := fun h' => h h'.1
      rw [Queue.update, if_neg hnot]
      split
      · rw [definition?, ById.get?_erase, if_neg h, definition?]
      · rw [definition?, ById.get?_insert, if_neg h, definition?]

theorem definition?_recount (w : Worker) (id : Int) : w.recount.definition? id = w.definition? id := by
  rw [definition?, recount, ById.get?_mapWithId, Option.map_map]
  rfl

/-- A change of counters leaves the definitions as they are. -/
private theorem map_definition_modify {queues : ById QueueState} {f : QueueState → QueueState}
    (hf : ∀ q, (f q).definition = q.definition) (i id : Int) :
    ((queues.modify i f).get? id).map (·.definition) = (queues.get? id).map (·.definition) := by
  rw [ById.get?_modify]
  split
  · rw [Option.map_map]
    exact congrArg (fun g => (queues.get? id).map g) (funext hf)
  · rfl

theorem definition?_launchFrom (now : Instant) (queues : ById QueueState) (runs : List PreparedRun)
    (id : Int) : ((launchFrom now queues runs).1.get? id).map (·.definition) =
      (queues.get? id).map (·.definition) := by
  induction runs generalizing queues with
  | nil => rfl
  | cons r runs ih =>
    rw [launchFrom]
    split
    · exact (ih _).trans (map_definition_modify (f := .launchOne) (fun _ => rfl) r.queueId id)
    · exact ih queues

theorem definition?_sweep (w : Worker) (now : Instant) (id : Int) :
    (w.sweep now).worker.definition? id = w.definition? id :=
  (definition?_launchFrom now (w.clean now).recount.queues (w.clean now).recount.runs id).trans
    (definition?_recount (w.clean now) id)

theorem definition?_submit (w : Worker) (run : PreparedRun) (now : Instant) (id : Int) :
    (w.submit run now).worker.definition? id = w.definition? id := by
  rw [submit]
  split
  · rfl
  split
  · rfl
  split
  · rfl
  split
  · rfl
  dsimp only
  split
  · exact definition?_recount w id
  · exact definition?_recount w id

theorem definition?_complete (w : Worker) (seq : Nat) (outcome : FlowOutcome) (now : Instant)
    (id : Int) : (w.complete seq outcome now).worker.definition? id = w.definition? id := by
  rw [complete]
  split
  · rfl
  · next r _ =>
    split
    · rfl
    · exact map_definition_modify (f := .endOne) (fun _ => rfl) r.queueId id

/-- An operation changes definitions only by the update that it hands over. -/
theorem definition?_perform (w : Worker) (op : WorkerOperation) (id : Int) :
    (w.perform op).definition? id =
      op.update?.elim (w.definition? id) fun q => q.update id (w.definition? id) := by
  cases op with
  | check now => exact perform_check_cases w now rfl (definition?_sweep w now id)
  | react event now =>
    cases event with
    | submit run => exact definition?_submit w run now id
    | updateQueue q => exact definition?_updateQueue w q id
    | complete seq outcome => exact definition?_complete w seq outcome now id
    | housekeeping => exact perform_housekeeping_cases w now rfl rfl

/-- The definitions after several operations are what their updates make of them one by one. -/
theorem definition?_performAll (w : Worker) (ops : List WorkerOperation) (id : Int) :
    (w.performAll ops).definition? id =
      (WorkerOperation.updates ops).foldl (fun old q => q.update id old) (w.definition? id) := by
  induction ops generalizing w with
  | nil => rfl
  | cons op ops ih =>
    show ((w.perform op).performAll ops).definition? id = _
    rw [ih, definition?_perform]
    cases h : op.update? with
    | none => simp [WorkerOperation.updates, h]
    | some q => simp [WorkerOperation.updates, h]

/-- A worker has the direct queue and what the given definitions make of the others. -/
theorem definition?_init (settings : WorkerSettings) (queues : List Queue) (start : Instant)
    (id : Int) : (init settings queues start).definition? id =
      queues.foldl (fun old q => q.update id old)
        (if id = Queue.directId then some (.direct settings.directQueueSlot) else none) := by
  have hfold (w : Worker) : (queues.foldl (fun w q => (w.updateQueue q).worker) w).definition? id =
      queues.foldl (fun old q => q.update id old) (w.definition? id) := by
    induction queues generalizing w with
    | nil => rfl
    | cons q queues ih =>
      rw [List.foldl_cons, ih, definition?_updateQueue]
      rfl
  refine (hfold _).trans ?_
  congr 1
  rw [definition?, ById.get?_insert]
  split
  · rfl
  · rfl

/-- A worker has what its first definitions and all updates since make of the queue with an id. -/
theorem definition?_performAll_init (settings : WorkerSettings) (queues : List Queue) (start : Instant)
    (ops : List WorkerOperation) (id : Int) :
    ((init settings queues start).performAll ops).definition? id =
      (queues ++ WorkerOperation.updates ops).foldl (fun old q => q.update id old)
        (if id = Queue.directId then some (.direct settings.directQueueSlot) else none) := by
  rw [definition?_performAll, definition?_init, List.foldl_append]

end Worker

end FlowScheduler
