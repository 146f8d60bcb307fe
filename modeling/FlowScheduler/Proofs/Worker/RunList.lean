import Mathlib
import FlowScheduler.Worker.Service

/-!
What the operations of a worker do to its list of runs.

Cleaning up, counting and making room for a submission only tidy the list: terminated runs leave it and
pending runs change queues (`Worker.Tidies`). A check then starts some of the pending runs
(`Worker.Launches`), unless it breaks off (`Worker.checkRuns_cases`). The end of an execution replaces one run
(`Worker.map_replace_eq`).
-/

namespace FlowScheduler

namespace RunState

theorem ne_inProgress {s : RunState} (h : s.isPending) : s ≠ .inProgress := by
  rintro rfl
  cases h

theorem isTerminal_eq_false {s : RunState} (h : s.isPending) : s.isTerminal = false := by
  cases s with
  | new | queued => rfl
  | inProgress | terminated => cases h

theorem eq_terminated {s : RunState} (h : s.isTerminal) : s = .terminated := by
  cases s with
  | terminated => rfl
  | new | queued | inProgress => cases h

end RunState

namespace Worker

variable {runs before after rest started : List PreparedRun} {r : PreparedRun} {now : Instant}
  {queues : ById QueueState}

/-- The numbers of the runs in progress. -/
def running (runs : List PreparedRun) : List Nat :=
  (runs.filter fun r => r.state = .inProgress).map (·.seq)

@[simp] theorem running_nil : running [] = [] := rfl

theorem running_cons (r : PreparedRun) (runs : List PreparedRun) :
    running (r :: runs) = if r.state = .inProgress then r.seq :: running runs else running runs := by
  by_cases h : r.state = .inProgress
  · simp [running, h]
  · simp [running, h]

theorem running_append (runs rest : List PreparedRun) :
    running (runs ++ rest) = running runs ++ running rest := by
  simp [running]

theorem mem_running {n : Nat} : n ∈ running runs ↔ ∃ r ∈ runs, r.state = .inProgress ∧ r.seq = n := by
  simp [running, and_assoc]

/-- Where no two runs share a number, the run of a number is found by it. -/
theorem find?_seq_eq_some_iff {seq : Nat} (h : (runs.map (·.seq)).Nodup) :
    runs.find? (·.seq == seq) = some r ↔ r ∈ runs ∧ r.seq = seq := by
  constructor
  · intro hfind
    exact ⟨List.mem_of_find?_eq_some hfind, by simpa using List.find?_some hfind⟩
  · rintro ⟨hr, rfl⟩
    cases hfind : runs.find? (·.seq == r.seq) with
    | none => exact absurd (beq_self_eq_true _) (List.find?_eq_none.1 hfind r hr)
    | some o =>
      have ho := List.mem_of_find?_eq_some hfind
      have hseq : o.seq = r.seq := by simpa using List.find?_some hfind
      rw [List.inj_on_of_nodup_map h ho hr hseq]

/-! ### Tidying -/

/-- A list of runs comes from another by leaving out terminated runs and by moving pending ones to
other queues. -/
structure Tidies (before after : List PreparedRun) : Prop where
  sublist : (after.map (·.seq)).Sublist (before.map (·.seq))
  running_eq : running after = running before
  origin : ∀ r ∈ after, r ∈ before ∨
    ∃ o ∈ before, o.seq = r.seq ∧ o.state.isPending ∧ r.state.isPending

theorem Tidies.refl (runs : List PreparedRun) : Tidies runs runs where
  sublist := .refl _
  running_eq := rfl
  origin _ hr := .inl hr

theorem Tidies.trans (h : Tidies runs before) (h' : Tidies before after) : Tidies runs after where
  sublist := h'.sublist.trans h.sublist
  running_eq := h'.running_eq.trans h.running_eq
  origin r hr := by
    rcases h'.origin r hr with hmem | ⟨o, ho, hseq, hpending, hpending'⟩
    · exact h.origin r hmem
    · rcases h.origin o ho with hmem | ⟨o', ho', hseq', hpending'', -⟩
      · exact .inr ⟨o, hmem, hseq, hpending, hpending'⟩
      · exact .inr ⟨o', ho', hseq'.trans hseq, hpending'', hpending'⟩

theorem tidies_filter {p : PreparedRun → Bool} (hp : ∀ r, r.state.isTerminal = false → p r) :
    Tidies runs (runs.filter p) where
  sublist := List.filter_sublist.map _
  running_eq := by
    induction runs with
    | nil => rfl
    | cons r runs ih =>
      by_cases hr : p r
      · rw [List.filter_cons_of_pos hr, running_cons, running_cons, ih]
      · have hne : r.state ≠ .inProgress := by
          intro hstate
          exact hr (hp r (by rw [hstate]; rfl))
        rw [List.filter_cons_of_neg hr, running_cons, if_neg hne, ih]
  origin r hr := .inl (List.mem_filter.1 hr).1

/-- Settling concerns pending runs, and keeps them pending. -/
theorem settle_eq_or (queues : ById QueueState) (r : PreparedRun) : settle queues r = r ∨
    (settle queues r).seq = r.seq ∧ r.state.isPending ∧ (settle queues r).state.isPending := by
  rw [settle]
  split
  · next h =>
    have hpending : r.state.isPending := (Bool.and_eq_true_iff.1 h).1
    split
    · exact .inr ⟨rfl, hpending, rfl⟩
    · exact .inr ⟨rfl, hpending, rfl⟩
  · exact .inl rfl

theorem settle_seq (queues : ById QueueState) (r : PreparedRun) : (settle queues r).seq = r.seq := by
  rcases settle_eq_or queues r with h | h
  · rw [h]
  · exact h.1

theorem tidies_settle (queues : ById QueueState) (runs : List PreparedRun) :
    Tidies runs (runs.map (settle queues)) where
  sublist := by
    have hseqs : (runs.map (settle queues)).map (·.seq) = runs.map (·.seq) := by
      rw [List.map_map]
      exact List.map_congr_left fun r _ => settle_seq queues r
    exact hseqs ▸ .refl _
  running_eq := by
    induction runs with
    | nil => rfl
    | cons r runs ih =>
      rw [List.map_cons, running_cons, running_cons, ih]
      rcases settle_eq_or queues r with h | ⟨hseq, hpending, hpending'⟩
      · rw [h]
      · rw [if_neg (RunState.ne_inProgress hpending), if_neg (RunState.ne_inProgress hpending')]
  origin r hr := by
    obtain ⟨o, ho, rfl⟩ := List.mem_map.1 hr
    rcases settle_eq_or queues o with h | ⟨hseq, hpending, hpending'⟩
    · rw [h]
      exact .inl ho
    · exact .inr ⟨o, ho, hseq.symm, hpending, hpending'⟩

theorem isRetained_of_active {retentionNanos : Int} (h : r.state.isTerminal = false) :
    isRetained retentionNanos now r := by
  cases hstate : r.state with
  | terminated =>
    rw [hstate] at h
    cases h
  | new | queued | inProgress => simp [isRetained, hstate]

theorem hasExpiry_of_active {retentionNanos : Int} (h : r.state.isTerminal = false) :
    hasExpiry retentionNanos r := by
  cases hstate : r.state with
  | terminated =>
    rw [hstate] at h
    cases h
  | new | queued | inProgress => simp [hasExpiry, hstate]

theorem tidies_clean (w : Worker) (now : Instant) : Tidies w.runs (w.clean now).runs :=
  tidies_filter fun _ => isRetained_of_active

theorem tidies_recount (w : Worker) : Tidies w.runs w.recount.runs := tidies_settle w.queues w.runs

/-! ### Starting -/

/-- Some of the pending runs of a list start, in their order. -/
inductive Launches (now : Instant) :
    List PreparedRun → List PreparedRun → List PreparedRun → Prop where
  | nil : Launches now [] [] []
  | keep (r : PreparedRun) {runs after started : List PreparedRun} : Launches now runs after started →
      Launches now (r :: runs) (r :: after) started
  | start {r : PreparedRun} {runs after started : List PreparedRun} : r.state.isPending →
      Launches now runs after started →
      Launches now (r :: runs) (start now r :: after) (start now r :: started)

theorem launchFrom_launches (now : Instant) (queues : ById QueueState) (runs : List PreparedRun) :
    Launches now runs (launchFrom now queues runs).2.1 (launchFrom now queues runs).2.2 := by
  induction runs generalizing queues with
  | nil => exact .nil
  | cons r runs ih =>
    rw [launchFrom]
    split
    · next h => exact .start (Bool.and_eq_true_iff.1 h).1 (ih _)
    · exact .keep r (ih _)

/-- A check starts some of the runs that are left when the worker has cleaned up and counted. -/
theorem launches_sweep (w : Worker) (now : Instant) :
    Launches now (w.clean now).recount.runs (w.sweep now).worker.runs (w.sweep now).started :=
  launchFrom_launches now (w.clean now).recount.queues (w.clean now).recount.runs

theorem Launches.seqs_eq (h : Launches now runs after started) :
    after.map (·.seq) = runs.map (·.seq) := by
  induction h with
  | nil => rfl
  | keep r _ ih => rw [List.map_cons, List.map_cons, ih]
  | start _ _ ih =>
    rw [List.map_cons, List.map_cons, ih]
    rfl

theorem Launches.sublist (h : Launches now runs after started) : started.Sublist after := by
  induction h with
  | nil => exact .refl _
  | keep r _ ih => exact .cons r ih
  | start _ _ ih => exact .cons_cons _ ih

theorem Launches.running_perm (h : Launches now runs after started) :
    (running after).Perm (running runs ++ started.map (·.seq)) := by
  induction h with
  | nil => exact .refl _
  | keep r _ ih =>
    rw [running_cons, running_cons]
    split
    · exact ih.cons _
    · exact ih
  | @start r runs after started hpending _ ih =>
    have heq : (Worker.start now r).state = .inProgress := rfl
    rw [running_cons, running_cons, if_neg (RunState.ne_inProgress hpending), if_pos heq, List.map_cons]
    exact (ih.cons _).trans List.perm_middle.symm

theorem Launches.mem_or_mem (h : Launches now runs after started) (hr : r ∈ after) :
    r ∈ runs ∨ r ∈ started := by
  induction h with
  | nil => cases hr
  | keep o _ ih =>
    rcases List.mem_cons.1 hr with rfl | hr
    · exact .inl List.mem_cons_self
    · exact (ih hr).imp_left (List.mem_cons_of_mem _)
  | start _ _ ih =>
    rcases List.mem_cons.1 hr with rfl | hr
    · exact .inr List.mem_cons_self
    · exact (ih hr).imp (List.mem_cons_of_mem _) (List.mem_cons_of_mem _)

theorem Launches.exists_pending (h : Launches now runs after started) (hr : r ∈ started) :
    ∃ o ∈ runs, o.state.isPending ∧ r = Worker.start now o := by
  induction h with
  | nil => cases hr
  | keep o _ ih =>
    obtain ⟨o', ho', hpending, heq⟩ := ih hr
    exact ⟨o', List.mem_cons_of_mem _ ho', hpending, heq⟩
  | start hpending _ ih =>
    rcases List.mem_cons.1 hr with rfl | hr
    · exact ⟨_, List.mem_cons_self, hpending, rfl⟩
    · obtain ⟨o', ho', hpending', heq⟩ := ih hr
      exact ⟨o', List.mem_cons_of_mem _ ho', hpending', heq⟩

/-- A run that is still pending was not started: the started one of its number is in progress. -/
theorem Launches.mem_of_pending (h : Launches now runs after started)
    (hnodup : (after.map (·.seq)).Nodup) (hr : r ∈ after) (hpending : r.state.isPending) :
    r ∈ runs ∧ r.seq ∉ started.map (·.seq) := by
  have hnot : r.seq ∉ started.map (·.seq) := by
    intro hmem
    obtain ⟨x, hx, hseq⟩ := List.mem_map.1 hmem
    obtain rfl := List.inj_on_of_nodup_map hnodup (h.sublist.subset hx) hr hseq
    obtain ⟨o, -, -, rfl⟩ := h.exists_pending hx
    cases hpending
  exact ⟨(h.mem_or_mem hr).resolve_right fun hx => hnot (List.mem_map_of_mem hx), hnot⟩

/-! ### Ending -/

private theorem map_replace_of_ne {ended : PreparedRun} {n : Nat} (h : ∀ r ∈ runs, r.seq ≠ n) :
    runs.map (fun o => if o.seq = n then ended else o) = runs :=
  (List.map_congr_left fun r hr => if_neg (h r hr)).trans (List.map_id' runs)

/-- Where no two runs share a number, the run of a number is replaced at its place. -/
theorem map_replace_eq (ended : PreparedRun) (h : ((before ++ r :: after).map (·.seq)).Nodup) :
    (before ++ r :: after).map (fun o => if o.seq = r.seq then ended else o) =
      before ++ ended :: after := by
  rw [List.map_append, List.map_cons, List.nodup_append, List.nodup_cons] at h
  obtain ⟨-, ⟨hafter, -⟩, hbefore⟩ := h
  have hleft : ∀ o ∈ before, o.seq ≠ r.seq := fun o ho =>
    hbefore o.seq (List.mem_map_of_mem ho) r.seq List.mem_cons_self
  have hright : ∀ o ∈ after, o.seq ≠ r.seq := by
    intro o ho heq
    exact hafter (heq ▸ List.mem_map_of_mem ho)
  rw [List.map_append, List.map_cons, map_replace_of_ne hleft, map_replace_of_ne hright, if_pos rfl]

/-- A run at the end of its execution. -/
def ended (outcome : FlowOutcome) (now : Instant) (r : PreparedRun) : PreparedRun :=
  { r with
    state := .terminated, stoppedAt := some now, result := outcome.result,
    resultMessage := outcome.transcript }

/-- The end of an execution replaces its run, if that has not ended, and saves its outcome. -/
structure Replaces (w : Worker) (step : WorkerStep) (before after : List PreparedRun)
    (r : PreparedRun) : Prop where
  runs_eq : step.worker.runs = before ++ r :: after
  lastSeq_eq : step.worker.lastSeq = w.lastSeq
  started_eq : step.started = []
  saves_eq : step.saves = [(r.flowId, r.outcome)]

theorem complete_replaces {w : Worker} (outcome : FlowOutcome) (now : Instant)
    (hnodup : (w.runs.map (·.seq)).Nodup) (hruns : w.runs = before ++ r :: after)
    (hactive : r.state.isTerminal = false) (hfind : w.runs.find? (·.seq == r.seq) = some r) :
    Replaces w (w.complete r.seq outcome now) before after (ended outcome now r) := by
  rw [hruns] at hnodup
  have hreplace := map_replace_eq (ended outcome now r) hnodup
  rw [← hruns] at hreplace
  simp only [complete, hfind, hactive]
  exact ⟨hreplace, rfl, rfl, rfl⟩

/-- The runs that are terminated in a list and were not in the list before. -/
def newlyEnded (before after : List PreparedRun) : List PreparedRun :=
  after.filter fun r => r.state.isTerminal && !before.any fun o => o.seq == r.seq && o.state.isTerminal

theorem newlyEnded_append (runs before after : List PreparedRun) :
    newlyEnded runs (before ++ after) = newlyEnded runs before ++ newlyEnded runs after := by
  simp [newlyEnded]

theorem newlyEnded_eq_nil (h : ∀ r ∈ after, r.state.isTerminal → r ∈ before) :
    newlyEnded before after = [] := by
  refine List.filter_eq_nil_iff.2 fun r hr => ?_
  rw [Bool.and_eq_true]
  rintro ⟨hterminal, hnot⟩
  have hany : before.any (fun o => o.seq == r.seq && o.state.isTerminal) :=
    List.any_eq_true.2 ⟨r, h r hr hterminal, by simp [hterminal]⟩
  rw [hany] at hnot
  cases hnot

theorem newlyEnded_singleton (hr : r.state.isTerminal)
    (h : ∀ o ∈ before, o.seq = r.seq → o.state.isTerminal = false) : newlyEnded before [r] = [r] := by
  have hany : before.any (fun o => o.seq == r.seq && o.state.isTerminal) = false := by
    refine List.any_eq_false.2 fun o ho => ?_
    rw [Bool.and_eq_true, beq_iff_eq]
    rintro ⟨hseq, hterminal⟩
    rw [h o ho hseq] at hterminal
    cases hterminal
  simp [newlyEnded, hr, hany]

theorem Tidies.mem_of_terminal (h : Tidies before after) (hr : r ∈ after)
    (hterminal : r.state.isTerminal) : r ∈ before := by
  rcases h.origin r hr with hmem | ⟨o, -, -, -, hpending⟩
  · exact hmem
  · rw [RunState.isTerminal_eq_false hpending] at hterminal
    cases hterminal

theorem Launches.mem_of_terminal (h : Launches now runs after started) (hr : r ∈ after)
    (hterminal : r.state.isTerminal) : r ∈ runs := by
  rcases h.mem_or_mem hr with hmem | hmem
  · exact hmem
  · obtain ⟨o, -, -, rfl⟩ := h.exists_pending hmem
    cases hterminal

/-! ### Submission -/

/-- A submission has put a run at the end of the list, in the place of terminated runs of its key. A run
that cannot be launched has ended, and its outcome is saved. -/
structure Adds (w : Worker) (run : PreparedRun) (step : WorkerStep) (kept : List PreparedRun)
    (r : PreparedRun) : Prop where
  tidies : Tidies w.runs kept
  replaced : ∀ o ∈ w.runs, o.seq ∉ kept.map (·.seq) → o.state.isTerminal ∧ o.identity = run.identity
  runs_eq : step.worker.runs = kept ++ [r]
  lastSeq_eq : step.worker.lastSeq = w.lastSeq + 1
  seq_eq : r.seq = w.lastSeq + 1
  identity_eq : r.identity = run.identity
  fate : run.cannotLaunch = none ∧ r.state.isPending ∧ step.saves = [] ∨
    run.cannotLaunch.isSome ∧ r.state = .terminated ∧ step.saves = [(r.flowId, r.outcome)]

/-- The numbers in a list of runs that were not in the list before. -/
def newNumbers (before after : List PreparedRun) : List Nat :=
  (after.map (·.seq)).filter fun n => n ∉ before.map (·.seq)

theorem newNumbers_eq_nil (h : after.map (·.seq) ⊆ before.map (·.seq)) :
    newNumbers before after = [] := by
  refine List.filter_eq_nil_iff.2 fun n hn => ?_
  simpa using h hn

theorem newNumbers_append_singleton (h : rest.map (·.seq) ⊆ before.map (·.seq))
    (hr : r.seq ∉ before.map (·.seq)) : newNumbers before (rest ++ [r]) = [r.seq] := by
  have hrest : (rest.map (·.seq)).filter (fun n => n ∉ before.map (·.seq)) = [] := newNumbers_eq_nil h
  have hnew : [r.seq].filter (fun n => n ∉ before.map (·.seq)) = [r.seq] :=
    List.filter_cons_of_pos (decide_eq_true hr)
  rw [newNumbers, List.map_append, List.filter_append, hrest, List.map_singleton, hnew,
    List.nil_append]

/-- What is left out by a filter does not pass it. -/
theorem eq_false_of_not_mem_filter {p : PreparedRun → Bool} (hr : r ∈ runs)
    (h : r.seq ∉ (runs.filter p).map (·.seq)) : p r = false := by
  cases hp : p r with
  | false => rfl
  | true => exact absurd (List.mem_map_of_mem (List.mem_filter.2 ⟨hr, hp⟩)) h

/-- Terminated runs of the key of a new run make room for it. -/
private theorem tidies_replace (runs : List PreparedRun) (identity : String) :
    Tidies runs (runs.filter fun o => !(o.state.isTerminal && o.identity == identity)) :=
  tidies_filter fun r hr => by rw [hr]; rfl

private theorem replaced_of_not_mem {identity : String} (hr : r ∈ runs)
    (h : r.seq ∉ (runs.filter fun o => !(o.state.isTerminal && o.identity == identity)).map (·.seq)) :
    r.state.isTerminal ∧ r.identity = identity := by
  simpa using eq_false_of_not_mem_filter hr h

/-- A submission leaves the worker with the same runs, at most tidied, or adds a run. -/
theorem submit_cases (w : Worker) (run : PreparedRun) (now : Instant) :
    (w.submit run now).started = [] ∧
      ((w.submit run now).saves = [] ∧ (w.submit run now).worker.lastSeq = w.lastSeq ∧
        Tidies w.runs (w.submit run now).worker.runs ∧
        (w.submit run now).worker.runs.map (·.seq) = w.runs.map (·.seq) ∨
      ∃ kept r, w.Adds run (w.submit run now) kept r) := by
  rw [submit]
  split
  · exact ⟨rfl, .inl ⟨rfl, rfl, .refl _, rfl⟩⟩
  split
  · exact ⟨rfl, .inl ⟨rfl, rfl, .refl _, rfl⟩⟩
  split
  · next hcannot =>
    refine ⟨rfl, .inr ⟨_, _, tidies_replace w.runs run.identity, ?_, rfl, rfl, rfl, rfl, ?_⟩⟩
    · exact fun o ho => replaced_of_not_mem ho
    · exact .inr ⟨hcannot, rfl, rfl⟩
  split
  · exact ⟨rfl, .inl ⟨rfl, rfl, .refl _, rfl⟩⟩
  dsimp only
  have hseqs : w.recount.runs.map (·.seq) = w.runs.map (·.seq) := by
    simp [recount, Function.comp_def, settle_seq]
  split
  · exact ⟨rfl, .inl ⟨rfl, rfl, tidies_recount w, hseqs⟩⟩
  · next hcannot _ _ =>
    have hnone : run.cannotLaunch = none := by simpa using hcannot
    refine ⟨rfl, .inr ⟨_, _, (tidies_recount w).trans (tidies_replace _ run.identity), ?_, rfl, rfl, rfl,
      rfl, .inl ⟨hnone, rfl, rfl⟩⟩⟩
    intro o ho hnot
    have hmem : settle w.queues o ∈ w.recount.runs := List.mem_map_of_mem ho
    rw [← settle_seq w.queues o] at hnot
    obtain ⟨hterminal, hidentity⟩ := replaced_of_not_mem hmem hnot
    rcases settle_eq_or w.queues o with heq | ⟨-, -, hpending⟩
    · rw [heq] at hterminal hidentity
      exact ⟨hterminal, hidentity⟩
    · rw [RunState.isTerminal_eq_false hpending] at hterminal
      cases hterminal

/-! ### Who leaves the list -/

theorem complete_seqs (w : Worker) (seq : Nat) (outcome : FlowOutcome) (now : Instant) :
    (w.complete seq outcome now).worker.runs.map (·.seq) = w.runs.map (·.seq) := by
  rw [complete]
  split
  · rfl
  · next r hfind =>
    split
    · rfl
    · have hseq : r.seq = seq := by simpa using List.find?_some hfind
      simp only [List.map_map]
      refine List.map_congr_left fun o _ => ?_
      simp only [Function.comp_apply]
      split
      · next heq => exact hseq.trans heq.symm
      · rfl

theorem complete_lastSeq (w : Worker) (seq : Nat) (outcome : FlowOutcome) (now : Instant) :
    (w.complete seq outcome now).worker.lastSeq = w.lastSeq := by
  rw [complete]
  split
  · rfl
  · split
    · rfl
    · rfl

/-- As long as no run ends, a worker that can clean up can go on doing so. -/
theorem canClean_of_terminal {w w' : Worker} (h : w.canClean) (hretention : w'.retentionNanos = w.retentionNanos)
    (hruns : ∀ r ∈ w'.runs, r.state.isTerminal → r ∈ w.runs) : w'.canClean := by
  obtain ⟨hspan, hall⟩ := Bool.and_eq_true_iff.1 h
  rw [canClean, hretention, Bool.and_eq_true]
  refine ⟨hspan, List.all_eq_true.2 fun r hr => ?_⟩
  cases hterminal : r.state.isTerminal with
  | true => exact List.all_eq_true.1 hall r (hruns r hr hterminal)
  | false => exact hasExpiry_of_active hterminal

theorem canClean_sweep {w : Worker} (h : w.canClean) (now : Instant) : (w.sweep now).worker.canClean := by
  have ht := (tidies_clean w now).trans (tidies_recount (w.clean now))
  refine canClean_of_terminal h rfl fun r hr hterminal => ?_
  exact ht.mem_of_terminal ((w.launches_sweep now).mem_of_terminal hr hterminal) hterminal

theorem checkRuns_of_canClean {w : Worker} (h : w.canClean) (now : Instant) :
    w.checkRuns now = w.sweep now :=
  if_pos h

/-- A check goes over the runs, or it breaks off and leaves everything as it is. -/
@[elab_as_elim]
theorem checkRuns_cases {motive : WorkerStep → Prop} (w : Worker) (now : Instant)
    (broken : w.canClean = false → motive { worker := w, brokeOff := true })
    (sweep : w.canClean → motive (w.sweep now)) : motive (w.checkRuns now) := by
  rw [checkRuns]
  cases h : w.canClean with
  | true => exact sweep h
  | false => exact broken h

theorem canClean_of_completed {w : Worker} (h : (w.checkRuns now).brokeOff = false) : w.canClean := by
  revert h
  exact checkRuns_cases w now (fun _ hbroken => nomatch hbroken) fun hcan _ => hcan

/-- Housekeeping cleans up, or it breaks off and leaves everything as it is. -/
@[elab_as_elim]
theorem housekeeping_cases {motive : WorkerStep → Prop} (w : Worker) (now : Instant)
    (broken : w.canClean = false → motive { worker := w, brokeOff := true })
    (clean : w.canClean → motive { worker := w.clean now, changed := true }) :
    motive (w.react now .housekeeping) := by
  rw [react]
  cases h : w.canClean with
  | true => exact clean h
  | false => exact broken h

theorem not_canClean_of_brokeOff {w : Worker} (h : (w.checkRuns now).brokeOff) :
    w.canClean = false ∧ (w.checkRuns now).worker = w := by
  revert h
  refine checkRuns_cases w now (fun hcannot _ => ⟨hcannot, rfl⟩) fun _ h => ?_
  cases h

theorem not_canClean_of_housekeeping {w : Worker} (h : (w.react now .housekeeping).brokeOff) :
    w.canClean = false ∧ (w.react now .housekeeping).worker = w := by
  revert h
  refine housekeeping_cases w now (fun hcannot _ => ⟨hcannot, rfl⟩) fun _ h => ?_
  cases h

theorem sweep_seqs (w : Worker) (now : Instant) :
    (w.sweep now).worker.runs.map (·.seq) = (w.clean now).runs.map (·.seq) := by
  rw [(w.launches_sweep now).seqs_eq]
  simp [recount, Function.comp_def, settle_seq]

theorem updateQueue_runs (w : Worker) (q : Queue) : (w.updateQueue q).worker.runs = w.runs := by
  rw [updateQueue]
  split
  · rfl
  · split <;> rfl

theorem updateQueue_lastSeq (w : Worker) (q : Queue) :
    (w.updateQueue q).worker.lastSeq = w.lastSeq := by
  rw [updateQueue]
  split
  · rfl
  · split <;> rfl

theorem init_runs (settings : WorkerSettings) (queues : List Queue) (now : Instant) :
    (init settings queues now).runs = [] ∧ (init settings queues now).lastSeq = 0 := by
  have hfold (w : Worker) : (queues.foldl (fun w q => (w.updateQueue q).worker) w).runs = w.runs ∧
      (queues.foldl (fun w q => (w.updateQueue q).worker) w).lastSeq = w.lastSeq := by
    induction queues generalizing w with
    | nil => exact ⟨rfl, rfl⟩
    | cons q queues ih =>
      obtain ⟨hruns, hseq⟩ := ih (w.updateQueue q).worker
      exact ⟨hruns.trans (updateQueue_runs w q), hseq.trans (updateQueue_lastSeq w q)⟩
  exact hfold _

/-- A run that cleaning up leaves out has been terminated for longer than the retention. -/
theorem expired_of_not_mem_clean {w : Worker} (hr : r ∈ w.runs)
    (h : r.seq ∉ (w.clean now).runs.map (·.seq)) : r.state = .terminated ∧
      ∃ stopped, r.stoppedAt = some stopped ∧ stopped.addNanos w.retentionNanos < now := by
  have hnot := eq_false_of_not_mem_filter hr h
  rw [isRetained] at hnot
  split at hnot
  · next stopped hstate hstopped =>
    exact ⟨hstate, stopped, hstopped, Instant.not_le.1 (of_decide_eq_false hnot)⟩
  · cases hnot

end Worker

end FlowScheduler
