import Mathlib
import FlowScheduler.Proofs.Worker.Fate
import FlowScheduler.Proofs.Worker.LaunchOrder

/-!
What a submission leaves behind.

Between two turns the counters of a worker are the numbers of its runs (`WorkerSite.Reachable.counted`): an event
that changes nothing leaves a counted worker as it is (`Worker.Counted.react_eq`), and after every other event the
runs are checked, or there is no other turn (`WorkerSite.Reachable.checked`). So to count once more before a queue is
found full leaves no trace either. A submission is refused for one of four reasons and then nothing has happened, or
it puts one run at the end of the list (`WorkerSite.Reachable.submit_decides`).
-/

namespace FlowScheduler

namespace Worker

variable {w : Worker} {run r : PreparedRun} {now : Instant} {id : Int} {q : QueueState}

/-- Whether a run has ended under a key. -/
def HasEndedAs (identity : String) (r : PreparedRun) : Prop :=
  r.state = .terminated ∧ r.identity = identity

instance (identity : String) (r : PreparedRun) : Decidable (HasEndedAs identity r) :=
  inferInstanceAs (Decidable (_ ∧ _))

/-- A submitted run as it comes into the list: it waits, or it has ended at once if it cannot be launched. -/
def admitted (w : Worker) (run : PreparedRun) (now : Instant) : PreparedRun :=
  if run.cannotLaunch.isSome then
    { run with seq := w.lastSeq + 1, state := .terminated, stoppedAt := some now }
  else { run with seq := w.lastSeq + 1, state := .new }

/-- The admission of a run: it stands at the end of the list under the next number, and runs that have ended under
its key have left. The outcome of a run that has ended at once is to be saved. -/
def admission (w : Worker) (run : PreparedRun) (now : Instant) : WorkerStep where
  worker := { w with
    lastSeq := w.lastSeq + 1
    runs := w.runs.filter (¬HasEndedAs run.identity ·) ++ [w.admitted run now] }
  changed := true
  saves := if run.cannotLaunch.isSome then [(run.flowId, (w.admitted run now).outcome)] else []

/-! ### Reasons for a refusal -/

theorem isActive_iff {identity : String} :
    w.isActive identity ↔ ∃ o ∈ w.runs, o.identity = identity ∧ o.state ≠ .terminated := by
  rw [isActive, List.any_eq_true]
  refine exists_congr fun o => and_congr_right fun _ => ?_
  cases hstate : o.state with
  | new | queued | inProgress | terminated => simp [RunState.isTerminal]

/-- The queue of a counted worker is full if its runs that have not ended are as many as it may hold. -/
theorem Counted.isFull_iff (h : w.Counted) (hq : w.queues.get? id = some q) :
    q.isFull ↔ 0 < q.definition.maxSize ∧ q.definition.maxSize ≤ unended id w.runs := by
  have htotal : q.processing + q.waiting = unended id w.runs := by
    rw [h.processing_eq id q hq, h.waiting_eq id q hq, unended_eq]
    rfl
  rw [QueueState.isFull, htotal, Bool.and_eq_true, decide_eq_true_iff, decide_eq_true_iff]

theorem definition?_eq_none_iff : w.definition? id = none ↔ w.queues.contains id = false := by
  rw [definition?, Option.map_eq_none_iff, ById.contains, Option.isSome_eq_false_iff,
    Option.isNone_iff_eq_none]

/-- The reasons for which a counted worker refuses a submission, told by its runs and definitions. -/
theorem Counted.refuses_iff (h : w.Counted) : w.Refuses run ↔
    run.identity = "" ∨ (∃ o ∈ w.runs, o.identity = run.identity ∧ o.state ≠ .terminated) ∨
      run.cannotLaunch = none ∧ (w.definition? run.queueId = none ∨
        ∃ d, w.definition? run.queueId = some d ∧ 0 < d.maxSize ∧
          d.maxSize ≤ unended run.queueId w.runs) := by
  constructor
  · rintro (hkey | hactive | ⟨hcannot, hmissing⟩ | ⟨hcannot, hfull⟩)
    · exact .inl hkey
    · exact .inr (.inl (isActive_iff.1 hactive))
    · exact .inr (.inr ⟨hcannot, .inl (definition?_eq_none_iff.2 hmissing)⟩)
    · rw [h.recount_eq] at hfull
      obtain ⟨q, hq, hq'⟩ := (Option.any_eq_true _ _).1 hfull
      refine .inr (.inr ⟨hcannot, .inr ⟨q.definition, ?_, (h.isFull_iff hq).1 hq'⟩⟩)
      rw [definition?, hq, Option.map_some]
  · rintro (hkey | hactive | ⟨hcannot, hmissing | ⟨d, hd, hlimit⟩⟩)
    · exact .noKey hkey
    · exact .active (isActive_iff.2 hactive)
    · exact .noQueue hcannot (definition?_eq_none_iff.1 hmissing)
    · obtain ⟨q, hq, rfl⟩ := Option.map_eq_some_iff.1 hd
      refine .full hcannot ?_
      rw [h.recount_eq, hq, Option.any_some]
      exact (h.isFull_iff hq).2 hlimit

/-! ### What a submission comes to -/

theorem append_eq (w : Worker) (r : PreparedRun) : w.append r =
    { w with
      lastSeq := w.lastSeq + 1
      runs := w.runs.filter (¬HasEndedAs r.identity ·) ++ [{ r with seq := w.lastSeq + 1 }] } := by
  have hkept : w.runs.filter (fun o => !(o.state.isTerminal && o.identity == r.identity)) =
      w.runs.filter (¬HasEndedAs r.identity ·) := by
    refine List.filter_congr fun o _ => Bool.eq_iff_iff.2 ?_
    cases hstate : o.state with
    | new | queued | inProgress | terminated => simp [HasEndedAs, RunState.isTerminal, hstate]
  rw [append, hkept]

/-- A counted worker refuses a submission and is as before, or it adds the run. -/
theorem Counted.submit_eq (h : w.Counted) (run : PreparedRun) (now : Instant) :
    w.Refuses run ∧ w.submit run now = { worker := w } ∨
      ¬w.Refuses run ∧ w.submit run now = w.admission run now := by
  by_cases hrefuses : w.Refuses run
  · refine .inl ⟨hrefuses, ?_⟩
    rcases submit_of_refuses hrefuses now with heq | heq
    · exact heq
    · rw [heq, h.recount_eq]
  · refine .inr ⟨hrefuses, ?_⟩
    rw [submit_of_not_refuses hrefuses now, h.recount_eq, admission, admitted]
    split
    · exact congrArg (fun w => ({ worker := w, changed := true, saves := _ } : WorkerStep)) (append_eq w _)
    · exact congrArg (fun w => ({ worker := w, changed := true } : WorkerStep)) (append_eq w _)

/-! ### Between two turns -/

/-- An event that changes nothing leaves a counted worker as it is, also if the worker breaks off over it. -/
theorem Counted.react_eq (h : w.Counted) {e : WorkerEvent} (he : (w.react now e).changed = false) :
    (w.react now e).worker = w := by
  cases e with
  | submit run =>
    rw [react] at he ⊢
    rcases h.submit_eq run now with ⟨-, heq⟩ | ⟨-, heq⟩
    · rw [heq]
    · rw [heq] at he
      cases he
  | updateQueue q =>
    rw [react, updateQueue] at he ⊢
    split
    · rfl
    · next hdirect =>
      rw [if_neg hdirect] at he
      split at he
      · cases he
      · cases he
  | complete seq outcome =>
    rw [react, complete] at he ⊢
    split at he
    · rfl
    · next hfind =>
      split at he
      · next hended => rw [if_pos hended]
      · cases he
  | housekeeping =>
    revert he
    refine housekeeping_cases w now (fun _ _ => rfl) fun _ he => ?_
    cases he

end Worker

namespace WorkerSite

variable {s : WorkerSite} {settings : WorkerSettings} {queues : List Queue} {start : Instant}

theorem Reachable.counted_sweep (h : Reachable settings queues start s) (now : Instant) :
    (s.worker.sweep now).worker.Counted := by
  obtain ⟨ops, hworker, -, -⟩ := h.exists_operations
  have hdirect := Worker.contains_directId_performAll settings queues start ops
  have hqueued := Worker.queuedApart_performAll settings queues start ops
  rw [← hworker] at hdirect hqueued
  exact Worker.counted_sweep hdirect hqueued now

/-- Whether a worker is as at the start of a site, or as after a check that has not broken off. -/
def Checked (settings : WorkerSettings) (queues : List Queue) (start : Instant) (w : Worker) : Prop :=
  w = .init settings queues start ∨
    ∃ before now, Reachable settings queues start before ∧ before.worker.canClean ∧
      w = (before.worker.sweep now).worker

theorem Checked.counted {w : Worker} (h : Checked settings queues start w) : w.Counted := by
  rcases h with rfl | ⟨before, now, hbefore, -, rfl⟩
  · exact Worker.counted_init settings queues start
  · exact hbefore.counted_sweep now

/-- If it has runs at all, it can be told which of them are to be kept. -/
theorem Checked.canClean {w : Worker} (h : Checked settings queues start w) : w.runs = [] ∨ w.canClean := by
  rcases h with rfl | ⟨before, now, -, hcan, rfl⟩
  · exact .inl (Worker.init_runs settings queues start).1
  · exact .inr (Worker.canClean_sweep hcan now)

theorem Reachable.checked (h : Reachable settings queues start s) (hidle : s.checkDue = false) :
    Checked settings queues start s.worker := by
  induction h with
  | init => exact .inl rfl
  | @step s s' m hreach hm ih =>
    -- an event after which no check is due has changed nothing
    have hquiet (e : WorkerEvent) (now : Instant) (hdue : s.checkDue = false)
        (he : ((s.worker.react now e).changed || (s.worker.react now e).brokeOff) = false) :
        Checked settings queues start (s.worker.react now e).worker := by
      rw [(ih hdue).counted.react_eq (Bool.or_eq_false_iff.1 he).1]
      exact ih hdue
    cases hm with
    | submit run now hdue => exact hquiet (.submit run) now hdue hidle
    | updateQueue queue now hdue => exact hquiet (.updateQueue queue) now hdue hidle
    | @deliver seq outcome rest now hdue _ => exact hquiet (.complete seq outcome) now hdue hidle
    | housekeeping now hdue => exact hquiet .housekeeping now hdue hidle
    | check now hdue =>
      have hcan := Worker.canClean_of_completed (Bool.or_eq_false_iff.1 hidle).2
      exact .inr ⟨s, now, hreach, hcan, congrArg WorkerStep.worker (Worker.checkRuns_of_canClean hcan now)⟩
    | finish outcome hmem => exact ih hidle

/-- Between two turns the counters of the worker are the numbers of its runs. -/
theorem Reachable.counted (h : Reachable settings queues start s) (hidle : s.checkDue = false) :
    s.worker.Counted :=
  (h.checked hidle).counted

/-- Between two turns a submission is refused if and only if it has no key, its key is active, or it could be launched
but its queue is missing or full. Then nothing has happened; otherwise the run stands at the end of the list, in the
place of ended runs of its key. -/
theorem Reachable.submit_decides (h : Reachable settings queues start s) (hidle : s.checkDue = false)
    (run : PreparedRun) (now : Instant) :
    let w := s.worker
    ((w.submit run now).changed = false ↔
      run.identity = "" ∨ (∃ o ∈ w.runs, o.identity = run.identity ∧ o.state ≠ .terminated) ∨
        run.cannotLaunch = none ∧ (w.definition? run.queueId = none ∨
          ∃ d, w.definition? run.queueId = some d ∧ 0 < d.maxSize ∧
            d.maxSize ≤ Worker.unended run.queueId w.runs)) ∧
      ((w.submit run now).changed = false → w.submit run now = { worker := w }) ∧
      ((w.submit run now).changed → w.submit run now = w.admission run now) := by
  intro w
  have hcounted : w.Counted := h.counted hidle
  rw [← hcounted.refuses_iff]
  rcases hcounted.submit_eq run now with ⟨hrefuses, heq⟩ | ⟨hadmits, heq⟩
  · rw [heq]
    exact ⟨iff_of_true rfl hrefuses, fun _ => rfl, nofun⟩
  · rw [heq]
    exact ⟨iff_of_false nofun hadmits, nofun, fun _ => rfl⟩

/-! ### A full queue and a run that has ended -/

private def bay : Queue := { id := 5, name := "bay", slot := 1, maxSize := 1 }

private def delivery (flowId queueId : Int) : PreparedRun :=
  { PreparedRun.ofTrigger flowId "delivery" (.manual "operator" (.utc .epoch)) with queueId := queueId }

private def handed (s : WorkerSite) (run : PreparedRun) : WorkerSite :=
  (s.enlist run (s.worker.submit run .epoch)).absorb (s.worker.react .epoch (.submit run))

private def turned (s : WorkerSite) (run : PreparedRun) : WorkerSite :=
  (handed s run).absorb ((handed s run).worker.checkRuns .epoch)

private theorem Reachable.turned {run : PreparedRun} (h : Reachable settings queues start s)
    (hidle : s.checkDue = false) (hdue : (handed s run).checkDue = true) :
    Reachable settings queues start (turned s run) :=
  (h.step (.submit run .epoch hidle)).step (.check .epoch hdue)

/-- A run of flow 1 has been rejected, and one of flow 2 has taken the only place of the bay. -/
private def busyBay : WorkerSite :=
  turned (turned { worker := .init {} [bay] .epoch } ((delivery 1 5).reject "closed")) (delivery 2 5)

private theorem busyBay_reachable : Reachable {} [bay] .epoch busyBay :=
  (Reachable.init.turned rfl (by decide)).turned (by decide) (by decide)

/-- Another run for the bay is refused. A run of flow 1 for the direct queue is admitted, and the rejected one of its
key leaves the list. -/
theorem submit_decides_at_full_queue :
    let w := busyBay.worker
    Reachable {} [bay] .epoch busyBay ∧ busyBay.checkDue = false ∧
      w.submit (delivery 3 5) .epoch = { worker := w } ∧
      w.submit (delivery 1 0) .epoch = w.admission (delivery 1 0) .epoch ∧
      w.runs.map (fun r => (r.seq, r.flowId, r.state)) = [(1, 1, .terminated), (2, 2, .inProgress)] ∧
      (w.submit (delivery 1 0) .epoch).worker.runs.map (fun r => (r.seq, r.flowId, r.state)) =
        [(2, 2, .inProgress), (3, 1, .new)] := by
  intro w
  have hidle : busyBay.checkDue = false := by decide
  obtain ⟨hrefused, hsame, -⟩ := busyBay_reachable.submit_decides hidle (delivery 3 5) .epoch
  obtain ⟨-, -, hadmitted⟩ := busyBay_reachable.submit_decides hidle (delivery 1 0) .epoch
  have hfull : w.definition? 5 = some bay ∧ bay.maxSize ≤ Worker.unended 5 w.runs := by decide
  refine ⟨busyBay_reachable, hidle, hsame (hrefused.2 ?_), hadmitted (by decide), by decide, by decide⟩
  exact .inr (.inr ⟨rfl, .inr ⟨bay, hfull.1, by decide, hfull.2⟩⟩)

end WorkerSite

end FlowScheduler
