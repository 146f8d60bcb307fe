import Mathlib
import FlowScheduler.Proofs.Worker.Operations

/-!
Queues keep to their limits.

Whatever is done to a worker, and in whatever order, a queue never has more runs in progress than the most
slots that a definition has given it, and never more runs that have not ended than the largest size, if
all its definitions bound it (`Worker.runs_le_limits`). Most operations only ease the queues
(`Worker.Eases`); a check starts runs up to the slots (`Worker.sweep_inProgress_le`), and a submission
adds one run below the size (`Worker.submit_eases_or_adds`).
-/

namespace FlowScheduler

/-- Whether an update defines its queue: without slots it deletes it, and the direct queue cannot be
updated. -/
def Queue.isDefinition (q : Queue) : Bool := directId < q.id && !q.isDeleted

/-- The largest limit that definitions set, at least 0. -/
def Queue.largest (limit : Queue → Int) (definitions : List Queue) : Int :=
  (definitions.map limit).foldr max 0

namespace Queue

variable {limit : Queue → Int} {definitions more : List Queue} {d : Queue}

theorem largest_nonneg (limit : Queue → Int) (definitions : List Queue) :
    0 ≤ largest limit definitions := by
  induction definitions with
  | nil => exact Int.le_refl 0
  | cons d definitions ih => exact Int.le_trans ih (Int.le_max_right _ _)

theorem le_largest (limit : Queue → Int) (h : d ∈ definitions) :
    limit d ≤ largest limit definitions := by
  induction definitions with
  | nil => cases h
  | cons e definitions ih =>
    rcases List.mem_cons.1 h with rfl | h
    · exact Int.le_max_left _ _
    · exact Int.le_trans (ih h) (Int.le_max_right _ _)

theorem largest_le {n : Int} (h : ∀ d ∈ definitions, limit d ≤ max 0 n) :
    largest limit definitions ≤ max 0 n := by
  induction definitions with
  | nil => exact Int.le_max_left _ _
  | cons d definitions ih =>
    exact Int.max_le.2 ⟨h d List.mem_cons_self, ih fun e he => h e (List.mem_cons_of_mem _ he)⟩

theorem largest_mono (limit : Queue → Int) (h : definitions ⊆ more) :
    largest limit definitions ≤ largest limit more := by
  induction definitions with
  | nil => exact largest_nonneg limit more
  | cons d definitions ih =>
    obtain ⟨hd, hrest⟩ := List.cons_subset.1 h
    exact Int.max_le.2 ⟨le_largest limit hd, ih hrest⟩

end Queue

namespace Worker

/-- The definitions that the queue with an id has had: those it began with and its updates since. -/
def definitions (settings : WorkerSettings) (queues : List Queue) (ops : List WorkerOperation)
    (id : Int) : List Queue :=
  (.direct settings.directQueueSlot ::
    (queues ++ WorkerOperation.updates ops).filter Queue.isDefinition).filter (·.id == id)

/-- The number of runs of a queue that are in progress. -/
def inProgress (id : Int) (runs : List PreparedRun) : Nat :=
  runs.countP fun r => r.queueId == id && r.state == .inProgress

/-- The number of runs of a queue that have not ended. -/
def unended (id : Int) (runs : List PreparedRun) : Nat :=
  runs.countP fun r => r.queueId == id && !r.state.isTerminal

variable {w : Worker} {runs before after kept started : List PreparedRun} {r : PreparedRun} {id : Int}
  {now : Instant} {queues : ById QueueState} {q : QueueState}

/-! ### Operations that ease the queues -/

/-- No queue has more runs in progress than before, and none but the direct one more that have not
ended. -/
structure Eases (before after : List PreparedRun) : Prop where
  inProgress_le : ∀ id, inProgress id after ≤ inProgress id before
  unended_le : ∀ id, id ≠ Queue.directId → unended id after ≤ unended id before

theorem Eases.refl (runs : List PreparedRun) : Eases runs runs :=
  ⟨fun _ => Nat.le_refl _, fun _ _ => Nat.le_refl _⟩

theorem Eases.trans (h : Eases runs before) (h' : Eases before after) : Eases runs after where
  inProgress_le id := Nat.le_trans (h'.inProgress_le id) (h.inProgress_le id)
  unended_le id hid := Nat.le_trans (h'.unended_le id hid) (h.unended_le id hid)

theorem eases_of_sublist (h : after.Sublist before) : Eases before after :=
  ⟨fun _ => h.countP_le, fun _ _ => h.countP_le⟩

/-- A change of runs eases the queues if it starts none, brings none back and moves them to the direct
queue only. -/
theorem eases_map {f : PreparedRun → PreparedRun}
    (hstate : ∀ r, (f r).state = .inProgress → r.state = .inProgress ∧ (f r).queueId = r.queueId)
    (hactive : ∀ r, (f r).state.isTerminal = false →
      r.state.isTerminal = false ∧ ((f r).queueId = r.queueId ∨ (f r).queueId = Queue.directId)) :
    Eases runs (runs.map f) := by
  constructor
  · intro id
    rw [inProgress, List.countP_map]
    refine List.countP_mono_left fun r _ h => ?_
    simp only [Function.comp_apply, Bool.and_eq_true, beq_iff_eq] at h ⊢
    obtain ⟨hrunning, hqueue⟩ := hstate r h.2
    exact ⟨hqueue.symm.trans h.1, hrunning⟩
  · intro id hid
    rw [unended, List.countP_map]
    refine List.countP_mono_left fun r _ h => ?_
    simp only [Function.comp_apply, Bool.and_eq_true, beq_iff_eq, Bool.not_eq_true'] at h ⊢
    obtain ⟨hrunning, hqueue | hqueue⟩ := hactive r h.2
    · exact ⟨hqueue.symm.trans h.1, hrunning⟩
    · exact absurd (h.1.symm.trans hqueue) hid

theorem eases_recount (w : Worker) : Eases w.runs w.recount.runs := by
  refine eases_map (fun r hr => ?_) (fun r hr => ?_)
  · rcases settle_eq_or w.queues r with heq | ⟨-, -, hpending⟩
    · rw [heq] at hr ⊢
      exact ⟨hr, rfl⟩
    · exact absurd hr (RunState.ne_inProgress hpending)
  · rw [settle] at hr ⊢
    split
    · next h =>
      have hpending : r.state.isPending := (Bool.and_eq_true_iff.1 h).1
      refine ⟨RunState.isTerminal_eq_false hpending, ?_⟩
      split
      · exact .inl rfl
      · exact .inr rfl
    · next h =>
      rw [if_neg h] at hr
      exact ⟨hr, .inl rfl⟩

theorem eases_complete (w : Worker) (seq : Nat) (outcome : FlowOutcome) (now : Instant) :
    Eases w.runs (w.complete seq outcome now).worker.runs := by
  rw [complete]
  split
  · exact .refl _
  split
  · exact .refl _
  refine eases_map (fun r hr => ?_) (fun r hr => ?_)
  · split at hr
    · cases hr
    · next hne =>
      rw [if_neg hne]
      exact ⟨hr, rfl⟩
  · split at hr
    · cases hr
    · next hne =>
      rw [if_neg hne]
      exact ⟨hr, .inl rfl⟩

/-! ### Counting -/

theorem inProgress_append (before after : List PreparedRun) :
    inProgress id (before ++ after) = inProgress id before + inProgress id after :=
  List.countP_append

theorem unended_append (before after : List PreparedRun) :
    unended id (before ++ after) = unended id before + unended id after :=
  List.countP_append

theorem eases_append_ended (hr : r.state = .terminated) : Eases runs (runs ++ [r]) := by
  constructor
  · intro id
    rw [inProgress_append]
    simp [inProgress, hr]
  · intro id _
    rw [unended_append]
    simp [unended, hr, RunState.isTerminal]

/-- The runs of a queue that have not ended are in progress or pending. -/
theorem unended_eq (id : Int) (runs : List PreparedRun) : unended id runs =
    inProgress id runs + runs.countP fun r => r.queueId == id && r.state.isPending := by
  induction runs with
  | nil => rfl
  | cons r runs ih =>
    have hstate : (if (!r.state.isTerminal) = true then 1 else 0) =
        (if (r.state == .inProgress) = true then 1 else 0) + if r.state.isPending = true then 1 else 0 := by
      cases r.state <;> rfl
    simp only [unended, inProgress, List.countP_cons] at ih ⊢
    by_cases hid : r.queueId = id
    · simp only [hid, beq_self_eq_true, Bool.true_and]
      omega
    · simp only [beq_false_of_ne hid, Bool.false_and]
      simpa using ih

/-- After a count the counters of a queue are the numbers of its runs. -/
theorem recount_counters (h : w.recount.queues.get? id = some q) :
    q.processing = inProgress id w.recount.runs ∧
      q.processing + q.waiting = unended id w.recount.runs := by
  rw [recount, ById.get?_mapWithId] at h
  obtain ⟨old, -, rfl⟩ := Option.map_eq_some_iff.1 h
  refine ⟨rfl, ?_⟩
  rw [unended_eq]
  rfl

/-! ### Starting -/

theorem Launches.inProgress_eq (h : Launches now runs after started) :
    inProgress id after = inProgress id runs + started.countP (·.queueId == id) := by
  induction h with
  | nil => rfl
  | keep r _ ih =>
    simp only [inProgress, List.countP_cons] at ih ⊢
    omega
  | @start r runs after started hpending _ ih =>
    have hne : (r.state == .inProgress) = false := by
      simpa using RunState.ne_inProgress hpending
    simp only [inProgress, List.countP_cons] at ih ⊢
    simp only [Worker.start, hne, Bool.and_false, beq_self_eq_true, Bool.and_true]
    by_cases hid : r.queueId = id
    · simp only [hid, beq_self_eq_true, if_true, Bool.false_eq_true, if_false]
      omega
    · simp only [beq_false_of_ne hid, Bool.false_eq_true, if_false]
      omega

theorem Launches.unended_eq (h : Launches now runs after started) :
    unended id after = unended id runs := by
  induction h with
  | nil => rfl
  | keep r _ ih =>
    simp only [unended, List.countP_cons] at ih ⊢
    rw [ih]
  | start hpending _ ih =>
    simp only [unended, List.countP_cons] at ih ⊢
    rw [ih, RunState.isTerminal_eq_false hpending]
    rfl

/-- Whether a run is pending and its queue has a slot for it. -/
private abbrev hasSlot (queues : ById QueueState) (r : PreparedRun) : Bool :=
  r.state.isPending && (queues.get? r.queueId).any QueueState.canLaunch

private theorem started_cons_of_pos (h : hasSlot queues r) :
    (launchFrom now queues (r :: runs)).2.2 =
      start now r :: (launchFrom now (queues.modify r.queueId QueueState.launchOne) runs).2.2 := by
  rw [launchFrom, if_pos h]

private theorem started_cons_of_neg (h : ¬hasSlot queues r) :
    (launchFrom now queues (r :: runs)).2.2 = (launchFrom now queues runs).2.2 := by
  rw [launchFrom, if_neg h]

theorem launchFrom_started_eq_zero (h : queues.get? id = none) :
    (launchFrom now queues runs).2.2.countP (·.queueId == id) = 0 := by
  induction runs generalizing queues with
  | nil => rfl
  | cons r runs ih =>
    by_cases hslot : hasSlot queues r
    · have hne : r.queueId ≠ id := by
        rintro rfl
        simp [hasSlot, h] at hslot
      rw [started_cons_of_pos hslot, List.countP_cons_of_neg (by simpa [start] using hne)]
      exact ih (by simp [h])
    · rw [started_cons_of_neg hslot]
      exact ih h

/-- Runs are started up to the slots of their queue. -/
theorem launchFrom_started_le (now : Instant) (runs : List PreparedRun)
    (h : queues.get? id = some q) :
    q.processing + (launchFrom now queues runs).2.2.countP (·.queueId == id) ≤
      max q.processing q.definition.slot := by
  induction runs generalizing queues q with
  | nil =>
    rw [launchFrom]
    simp
  | cons r runs ih =>
    by_cases hslot : hasSlot queues r
    · rw [started_cons_of_pos hslot]
      by_cases hid : r.queueId = id
      · subst hid
        have hcan : q.canLaunch := by
          rw [hasSlot, h] at hslot
          exact (Bool.and_eq_true_iff.1 hslot).2
        have hfree : q.processing < q.definition.slot := by
          simpa using (Bool.and_eq_true_iff.1 hcan).2
        have hnext : (queues.modify r.queueId QueueState.launchOne).get? r.queueId = some q.launchOne := by
          simp [h]
        have hrest := ih hnext
        change q.processing + 1 + _ ≤ max (q.processing + 1) q.definition.slot at hrest
        rw [List.countP_cons_of_pos (by simp [start])]
        omega
      · rw [List.countP_cons_of_neg (by simpa [start] using hid)]
        exact ih (by simp [h, Ne.symm hid])
    · rw [started_cons_of_neg hslot]
      exact ih h

theorem eases_clean (w : Worker) (now : Instant) : Eases w.runs (w.clean now).runs :=
  eases_of_sublist List.filter_sublist

/-- A check brings a queue to its slots at most. -/
theorem sweep_inProgress_le (w : Worker) (now : Instant) (id : Int) :
    inProgress id (w.sweep now).worker.runs ≤ inProgress id w.runs ∨
      ∃ d, w.definition? id = some d ∧ inProgress id (w.sweep now).worker.runs ≤ d.slot := by
  have hl := launchFrom_launches now (w.clean now).recount.queues (w.clean now).recount.runs
  have hcount : inProgress id (w.sweep now).worker.runs = _ := hl.inProgress_eq
  have heases := (eases_clean w now).trans (eases_recount (w.clean now))
  have hle := heases.inProgress_le id
  cases hq : (w.clean now).recount.queues.get? id with
  | none =>
    rw [launchFrom_started_eq_zero hq] at hcount
    exact .inl (by omega)
  | some q =>
    have hstarted := launchFrom_started_le now (w.clean now).recount.runs hq
    obtain ⟨hprocessing, -⟩ := recount_counters hq
    have hdefinition : w.definition? id = some q.definition := by
      have hrecount : (w.clean now).recount.definition? id = w.definition? id :=
        definition?_recount (w.clean now) id
      rw [← hrecount, definition?, hq, Option.map_some]
    by_cases hslot : q.processing ≤ q.definition.slot
    · refine .inr ⟨q.definition, hdefinition, ?_⟩
      omega
    · exact .inl (by omega)

theorem sweep_unended_le (w : Worker) (now : Instant) (hid : id ≠ Queue.directId) :
    unended id (w.sweep now).worker.runs ≤ unended id w.runs := by
  have hl := w.launches_sweep now
  have hcount : unended id (w.sweep now).worker.runs = _ := hl.unended_eq
  have heases := (eases_clean w now).trans (eases_recount (w.clean now))
  rw [hcount]
  exact heases.unended_le id hid

/-! ### Submission -/

/-- A submission eases the queues, or adds a run to a queue below its size. -/
theorem submit_eases_or_adds (w : Worker) (run : PreparedRun) (now : Instant) :
    Eases w.runs (w.submit run now).worker.runs ∨
      ∃ kept r d, (w.submit run now).worker.runs = kept ++ [r] ∧ Eases w.runs kept ∧
        r.state.isPending ∧ w.definition? r.queueId = some d ∧
        (0 < d.maxSize → unended r.queueId kept < d.maxSize) := by
  rw [submit]
  split
  · exact .inl (.refl _)
  split
  · exact .inl (.refl _)
  split
  · exact .inl ((eases_of_sublist List.filter_sublist).trans (eases_append_ended rfl))
  split
  · exact .inl (.refl _)
  dsimp only
  split
  · exact .inl (eases_recount w)
  · next hmissing hfull =>
    have hkept : (w.recount.runs.filter
        fun o => !(o.state.isTerminal && o.identity == run.identity)).Sublist w.recount.runs :=
      List.filter_sublist
    cases hq : w.recount.queues.get? run.queueId with
    | none =>
      have hnone : w.queues.get? run.queueId = none := by
        simpa [recount] using hq
      simp [ById.contains, hnone] at hmissing
    | some q =>
      have hdefinition : w.definition? run.queueId = some q.definition := by
        rw [← definition?_recount, definition?, hq, Option.map_some]
      obtain ⟨-, hcounters⟩ := recount_counters hq
      refine .inr ⟨_, _, q.definition, rfl, (eases_recount w).trans (eases_of_sublist hkept), rfl,
        hdefinition, fun hbounded => ?_⟩
      have hroom : q.processing + q.waiting < q.definition.maxSize := by
        simpa [hq, QueueState.isFull, hbounded] using hfull
      have hle : unended run.queueId _ ≤ unended run.queueId w.recount.runs := hkept.countP_le
      exact Int.lt_of_le_of_lt (Int.ofNat_le.2 hle) (hcounters ▸ hroom)

/-! ### Every sequence of operations -/

/-- The runs of a worker keep to the limits that definitions set. -/
structure Within (w : Worker) (definitions : Int → List Queue) : Prop where
  slots : ∀ id, inProgress id w.runs ≤ Queue.largest (·.slot) (definitions id)
  sizes : ∀ id, (∀ d ∈ definitions id, 0 < d.maxSize) →
    unended id w.runs ≤ Queue.largest (·.maxSize) (definitions id)

variable {defs more : Int → List Queue} {w' : Worker}

/-- The direct queue has no size. -/
theorem ne_directId_of_sizes (hdirect : ∃ d ∈ defs Queue.directId, d.maxSize = 0)
    (h : ∀ d ∈ defs id, 0 < d.maxSize) : id ≠ Queue.directId := by
  rintro rfl
  obtain ⟨d, hd, hzero⟩ := hdirect
  have hpos := h d hd
  omega

/-- Runs that only ease the queues keep to the limits, and to larger ones. -/
theorem Within.ease (h : w.Within defs) (hmore : ∀ id, defs id ⊆ more id)
    (hdirect : ∃ d ∈ more Queue.directId, d.maxSize = 0) (heases : Eases w.runs w'.runs) :
    w'.Within more where
  slots id := by
    have hle := heases.inProgress_le id
    have hbefore := h.slots id
    have hlargest := Queue.largest_mono (·.slot) (hmore id)
    omega
  sizes id hbounded := by
    have hle := heases.unended_le id (ne_directId_of_sizes hdirect hbounded)
    have hbefore := h.sizes id fun d hd => hbounded d (hmore id hd)
    have hlargest := Queue.largest_mono (·.maxSize) (hmore id)
    omega

theorem Within.submit (h : w.Within defs) (hdefs : ∀ id d, w.definition? id = some d → d ∈ defs id)
    (hdirect : ∃ d ∈ defs Queue.directId, d.maxSize = 0) (run : PreparedRun) (now : Instant) :
    (w.submit run now).worker.Within defs := by
  rcases w.submit_eases_or_adds run now with heases | ⟨kept, r, d, hruns, heases, hpending, hd, hroom⟩
  · exact h.ease (fun id => List.Subset.refl _) hdirect heases
  have hkept : ({ w with runs := kept } : Worker).Within defs :=
    h.ease (fun id => List.Subset.refl _) hdirect heases
  constructor
  · intro id
    have hnone : inProgress id [r] = 0 := by
      simp [inProgress, RunState.ne_inProgress hpending]
    rw [hruns, inProgress_append, hnone]
    exact hkept.slots id
  · intro id hbounded
    rw [hruns, unended_append]
    have hbefore : (unended id kept : Int) ≤ _ := hkept.sizes id hbounded
    by_cases hid : r.queueId = id
    · subst hid
      have hmem := hdefs r.queueId d hd
      have hone : unended r.queueId [r] ≤ 1 := List.countP_le_length
      have hlt := hroom (hbounded d hmem)
      have hlargest := Queue.le_largest (·.maxSize) hmem
      omega
    · have hnone : unended id [r] = 0 := by
        simp [unended, hid]
      rw [hnone]
      exact hbefore

theorem Within.sweep (h : w.Within defs) (hdefs : ∀ id d, w.definition? id = some d → d ∈ defs id)
    (hdirect : ∃ d ∈ defs Queue.directId, d.maxSize = 0) (now : Instant) :
    (w.sweep now).worker.Within defs := by
  constructor
  · intro id
    rcases w.sweep_inProgress_le now id with hle | ⟨d, hd, hle⟩
    · have hbefore := h.slots id
      omega
    · exact Int.le_trans hle (Queue.le_largest (·.slot) (hdefs id d hd))
  · intro id hbounded
    have hle := w.sweep_unended_le now (ne_directId_of_sizes hdirect hbounded)
    have hbefore := h.sizes id hbounded
    omega

/-- What updates leave as the definition of a queue is one of them, or the definition before. -/
theorem mem_of_foldl_update {qs : List Queue} {old : Option Queue} {d : Queue}
    (h : qs.foldl (fun old q => q.update id old) old = some d) :
    old = some d ∨ d ∈ qs.filter Queue.isDefinition ∧ d.id = id := by
  induction qs generalizing old with
  | nil => exact .inl h
  | cons q qs ih =>
    rcases ih h with hq | ⟨hmem, hid⟩
    · change q.update id old = some d at hq
      rw [Queue.update] at hq
      split at hq
      · next hthis =>
        split at hq
        · cases hq
        · next hdeleted =>
          cases hq
          have hdefines : d.isDefinition := by
            simp [Queue.isDefinition, ← hthis.1, hthis.2, hdeleted]
          exact .inr ⟨List.mem_filter.2 ⟨List.mem_cons_self, hdefines⟩, hthis.1.symm⟩
      · exact .inl hq
    · obtain ⟨hmem, hdefines⟩ := List.mem_filter.1 hmem
      exact .inr ⟨List.mem_filter.2 ⟨List.mem_cons_of_mem _ hmem, hdefines⟩, hid⟩

variable {settings : WorkerSettings} {initial : List Queue} {start : Instant}
  {ops : List WorkerOperation}

/-- A queue has its definition from those it has had. -/
theorem mem_definitions {d : Queue}
    (h : ((init settings initial start).performAll ops).definition? id = some d) :
    d ∈ definitions settings initial ops id := by
  rw [definition?_performAll_init] at h
  rw [definitions, List.mem_filter, List.mem_cons, beq_iff_eq]
  rcases mem_of_foldl_update h with hdirect | ⟨hmem, hid⟩
  · split at hdirect
    · next hid =>
      cases hdirect
      exact ⟨.inl rfl, hid.symm⟩
    · cases hdirect
  · exact ⟨.inr hmem, hid⟩

theorem definitions_subset (settings : WorkerSettings) (initial : List Queue)
    (ops more : List WorkerOperation) (id : Int) :
    definitions settings initial ops id ⊆ definitions settings initial (ops ++ more) id := by
  refine List.filter_subset _ (List.cons_subset_cons _ (List.filter_subset _ ?_))
  rw [WorkerOperation.updates, WorkerOperation.updates, List.filterMap_append, ← List.append_assoc]
  exact List.subset_append_left _ _

theorem exists_unbounded (settings : WorkerSettings) (initial : List Queue)
    (ops : List WorkerOperation) :
    ∃ d ∈ definitions settings initial ops Queue.directId, d.maxSize = 0 :=
  ⟨.direct settings.directQueueSlot, List.mem_filter.2 ⟨List.mem_cons_self, rfl⟩, rfl⟩

theorem within_performAll (settings : WorkerSettings) (initial : List Queue) (start : Instant)
    (ops : List WorkerOperation) : ((init settings initial start).performAll ops).Within
      (definitions settings initial ops) := by
  induction ops using List.reverseRecOn with
  | nil =>
    obtain ⟨hruns, -⟩ := init_runs settings initial start
    constructor
    · intro id
      show (inProgress id (init settings initial start).runs : Int) ≤ _
      rw [hruns]
      exact Queue.largest_nonneg _ _
    · intro id _
      show (unended id (init settings initial start).runs : Int) ≤ _
      rw [hruns]
      exact Queue.largest_nonneg _ _
  | append_singleton ops op ih =>
    have hdirect := exists_unbounded settings initial ops
    have hdirect' := exists_unbounded settings initial (ops ++ [op])
    have hmore := definitions_subset settings initial ops [op]
    rw [performAll_snoc]
    cases op with
    | check now =>
      refine perform_check_cases _ now (ih.ease hmore hdirect' (.refl _)) ?_
      exact (ih.sweep (fun id d => mem_definitions) hdirect now).ease hmore hdirect' (.refl _)
    | react event now =>
      cases event with
      | submit run =>
        exact (ih.submit (fun id d => mem_definitions) hdirect run now).ease hmore hdirect' (.refl _)
      | updateQueue q =>
        refine ih.ease hmore hdirect' ?_
        show Eases _ (updateQueue _ q).worker.runs
        rw [updateQueue_runs]
        exact .refl _
      | complete seq outcome => exact ih.ease hmore hdirect' (eases_complete _ seq outcome now)
      | housekeeping =>
        exact perform_housekeeping_cases _ now (ih.ease hmore hdirect' (.refl _))
          (ih.ease hmore hdirect' (eases_clean _ now))

/-- Whatever is done to a worker, a queue has no more runs in progress than the most slots that a
definition has given it, and no more runs that have not ended than its largest size so far, if all its
definitions give it one. With one definition all along, these are its slots and its size. -/
theorem runs_le_limits (settings : WorkerSettings) (initial : List Queue) (start : Instant)
    (ops : List WorkerOperation) (id : Int) :
    let w := (init settings initial start).performAll ops
    let defs := definitions settings initial ops id
    inProgress id w.runs ≤ Queue.largest (·.slot) defs ∧
      ((∀ d ∈ defs, 0 < d.maxSize) → unended id w.runs ≤ Queue.largest (·.maxSize) defs) ∧
      ∀ d, (∀ e ∈ defs, e = d) → inProgress id w.runs ≤ max 0 d.slot ∧
        (0 < d.maxSize → unended id w.runs ≤ d.maxSize) := by
  intro w defs
  have h := within_performAll settings initial start ops
  refine ⟨h.slots id, h.sizes id, fun d hd => ?_⟩
  have hslots : (inProgress id w.runs : Int) ≤ Queue.largest (·.slot) defs := h.slots id
  refine ⟨Int.le_trans hslots (Queue.largest_le fun e he => ?_), fun hsize => ?_⟩
  · rw [hd e he]
    exact Int.le_max_right _ _
  · have hsizes : (unended id w.runs : Int) ≤ Queue.largest (·.maxSize) defs := by
      refine h.sizes id fun e he => ?_
      rw [hd e he]
      exact hsize
    have hlargest : Queue.largest (·.maxSize) defs ≤ max 0 d.maxSize := by
      refine Queue.largest_le fun e he => ?_
      rw [hd e he]
      exact Int.le_max_right _ _
    omega

private def lane : Queue := { id := 5, name := "lane", slot := 1, maxSize := 2 }

private def laneRun (flowId : Int) : PreparedRun :=
  { PreparedRun.ofTrigger flowId "report" (.manual "operator" (.utc .epoch)) with queueId := 5 }

/-- A queue with a run in progress and one that waits is deleted and comes back with more slots. -/
theorem runs_le_limits_over_deletion :
    let ops : List WorkerOperation := [.react (.submit (laneRun 1)) .epoch,
      .react (.submit (laneRun 2)) .epoch, .check .epoch, .react (.updateQueue (.tombstone 5)) .epoch,
      .react (.updateQueue { lane with slot := 3, maxSize := 3 }) .epoch, .check .epoch]
    let w := (init {} [lane] .epoch).performAll ops
    let defs := definitions {} [lane] ops 5
    inProgress 5 w.runs = 2 ∧ (∀ d ∈ defs, 0 < d.maxSize) ∧
      inProgress 5 w.runs ≤ Queue.largest (·.slot) defs ∧
      unended 5 w.runs ≤ Queue.largest (·.maxSize) defs := by
  intro ops w defs
  obtain ⟨hslots, hsizes, -⟩ := runs_le_limits {} [lane] .epoch ops 5
  have hbounded : ∀ d ∈ defs, 0 < d.maxSize := by decide
  exact ⟨by decide, hbounded, hslots, hsizes hbounded⟩

end Worker

end FlowScheduler
