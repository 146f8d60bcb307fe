import Mathlib
import FlowScheduler.Proofs.Worker.RunList

/-!
Executions, runs and saved outcomes correspond to each other.

A worker is seen together with the executions that it has begun and the feedback that is in flight
(`WorkerSite`). It handles one event at a time and then, if that changed something, checks its runs;
executions end at any time. The record of what has happened is kept beside the worker, and the invariant
ties the two together (`WorkerSite.Tallies`). So feedback never comes in for a run that is unknown or has
ended, and each outcome is saved once.
-/

namespace FlowScheduler

/-! ### A worker and its executions -/

/-- A worker with its executions, the feedback in flight and a record of what has happened. -/
structure WorkerSite where
  worker : Worker
  /-- Whether the worker is to check its runs before the next event. For a worker that has broken off there is
  no next event: its check stays due, and would break off again. -/
  checkDue : Bool := false
  /-- The numbers of the runs that are being executed. -/
  executing : List Nat := []
  /-- What ended executions have sent and the worker has not taken in, in the order of sending. -/
  feedback : List (Nat × FlowOutcome) := []
  /-- The numbers of the runs whose feedback the worker has taken in. -/
  processed : List Nat := []
  /-- All submissions that were admitted, under the numbers of their runs. -/
  admitted : List (Nat × PreparedRun) := []
  /-- All runs whose execution has begun. -/
  spawned : List PreparedRun := []
  /-- All runs that have become terminated, as they were then. -/
  ended : List PreparedRun := []
  /-- All outcomes that were to be saved, under the ids of their flows. -/
  saves : List (Int × RunOutcome) := []

/-- What can happen next, with the time that the worker reads off the clock. -/
inductive WorkerMove where
  | submit (run : PreparedRun) (now : Instant)
  | updateQueue (queue : Queue) (now : Instant)
  | housekeeping (now : Instant)
  /-- The worker takes in the first feedback in flight. -/
  | deliver (now : Instant)
  /-- The worker checks its runs. -/
  | check (now : Instant)
  /-- The execution of the run with this number ends and sends its feedback. -/
  | finish (seq : Nat) (outcome : FlowOutcome)

namespace WorkerSite

/-- What an operation of the worker comes to, with the record brought up to date. -/
def absorb (s : WorkerSite) (step : WorkerStep) : WorkerSite :=
  { s with
    worker := step.worker
    checkDue := step.changed || step.brokeOff
    executing := s.executing ++ step.started.map (·.seq)
    spawned := s.spawned ++ step.started
    ended := s.ended ++ Worker.newlyEnded s.worker.runs step.worker.runs
    saves := s.saves ++ step.saves }

/-- The record of a submission, if the worker has admitted it. -/
def enlist (s : WorkerSite) (run : PreparedRun) (step : WorkerStep) : WorkerSite :=
  { s with
    admitted := s.admitted ++ (Worker.newNumbers s.worker.runs step.worker.runs).map (·, run) }

/-- The moves that are possible and what they lead to. -/
inductive Step (s : WorkerSite) : WorkerMove → WorkerSite → Prop where
  | submit (run : PreparedRun) (now : Instant) : s.checkDue = false →
      Step s (.submit run now)
        ((s.enlist run (s.worker.submit run now)).absorb (s.worker.react now (.submit run)))
  | updateQueue (queue : Queue) (now : Instant) : s.checkDue = false →
      Step s (.updateQueue queue now) (s.absorb (s.worker.react now (.updateQueue queue)))
  | housekeeping (now : Instant) : s.checkDue = false →
      Step s (.housekeeping now) (s.absorb (s.worker.react now .housekeeping))
  | deliver {seq : Nat} {outcome : FlowOutcome} {rest : List (Nat × FlowOutcome)} (now : Instant) :
      s.checkDue = false → s.feedback = (seq, outcome) :: rest →
      Step s (.deliver now) (absorb { s with feedback := rest, processed := s.processed ++ [seq] }
        (s.worker.react now (.complete seq outcome)))
  | check (now : Instant) : s.checkDue = true →
      Step s (.check now) (s.absorb (s.worker.checkRuns now))
  | finish {seq : Nat} (outcome : FlowOutcome) : seq ∈ s.executing →
      Step s (.finish seq outcome)
        { s with executing := s.executing.erase seq, feedback := s.feedback ++ [(seq, outcome)] }

/-- The sites that a worker reaches from its start. -/
inductive Reachable (settings : WorkerSettings) (queues : List Queue) (start : Instant) :
    WorkerSite → Prop where
  | init : Reachable settings queues start { worker := .init settings queues start }
  | step {s s' : WorkerSite} {m : WorkerMove} : Reachable settings queues start s → s.Step m s' →
      Reachable settings queues start s'

/-- An event that changes something and the check after it are a turn of the worker. -/
theorem absorb_absorb_eq_handle (s : WorkerSite) (now checkedAt : Instant) (e : WorkerEvent)
    (h : (s.worker.react now e).changed) :
    let s' := s.absorb (s.worker.react now e)
    let s'' := s'.absorb (s'.worker.checkRuns checkedAt)
    let step := s.worker.handle now e checkedAt
    s''.worker = step.worker ∧ s''.saves = s.saves ++ step.saves ∧
      s''.spawned = s.spawned ++ step.started := by
  simp [absorb, Worker.handle, Worker.followUp, h]

/-- The numbers of the runs whose feedback the worker has not taken in. -/
def unprocessed (s : WorkerSite) : List Nat := s.executing ++ s.feedback.map (·.1)

/-- Whether the run of a number was submitted as one that can be launched. -/
def MayLaunch (s : WorkerSite) (seq : Nat) : Prop :=
  ∃ run, (seq, run) ∈ s.admitted ∧ run.cannotLaunch = none

/-- A list of runs, the last number given and the record of a site fit together. -/
structure Tallies (s : WorkerSite) (runs : List PreparedRun) (lastSeq : Nat) : Prop where
  seqs_nodup : (runs.map (·.seq)).Nodup
  seq_le : ∀ r ∈ runs, r.seq ≤ lastSeq
  admitted_nodup : (s.admitted.map (·.1)).Nodup
  admitted_le : ∀ a ∈ s.admitted, a.1 ≤ lastSeq
  running_perm : (Worker.running runs).Perm s.unprocessed
  spawned_perm : (s.spawned.map (·.seq)).Perm (s.unprocessed ++ s.processed)
  spawned_nodup : (s.spawned.map (·.seq)).Nodup
  spawned_le : ∀ r ∈ s.spawned, r.seq ≤ lastSeq
  spawned_mayLaunch : ∀ r ∈ s.spawned, s.MayLaunch r.seq
  pending_fresh : ∀ r ∈ runs, r.state.isPending →
    s.MayLaunch r.seq ∧ r.seq ∉ s.spawned.map (·.seq)
  saves_eq : s.saves = s.ended.map fun r => (r.flowId, r.outcome)
  ended_nodup : (s.ended.map (·.seq)).Nodup
  ended_le : ∀ r ∈ s.ended, r.seq ≤ lastSeq
  ended_of_terminal : ∀ r ∈ runs, r.state.isTerminal → r ∈ s.ended
  not_ended : ∀ r ∈ runs, r.state.isTerminal = false → r.seq ∉ s.ended.map (·.seq)

variable {s s' : WorkerSite} {runs after started : List PreparedRun} {lastSeq : Nat}
  {now : Instant} {r : PreparedRun}

theorem Tallies.tidy (h : s.Tallies runs lastSeq) (ht : Worker.Tidies runs after) :
    s.Tallies after lastSeq :=
  { h with
    seqs_nodup := h.seqs_nodup.sublist ht.sublist
    seq_le := by
      intro r hr
      rcases ht.origin r hr with hmem | ⟨o, ho, hseq, -⟩
      · exact h.seq_le r hmem
      · rw [← hseq]
        exact h.seq_le o ho
    running_perm := by
      rw [ht.running_eq]
      exact h.running_perm
    pending_fresh := by
      intro r hr hpending
      rcases ht.origin r hr with hmem | ⟨o, ho, hseq, hpending', -⟩
      · exact h.pending_fresh r hmem hpending
      · rw [← hseq]
        exact h.pending_fresh o ho hpending'
    ended_of_terminal := by
      intro r hr hterminal
      exact h.ended_of_terminal r (ht.mem_of_terminal hr hterminal) hterminal
    not_ended := by
      intro r hr hactive
      rcases ht.origin r hr with hmem | ⟨o, ho, hseq, hpending, -⟩
      · exact h.not_ended r hmem hactive
      · rw [← hseq]
        exact h.not_ended o ho (RunState.isTerminal_eq_false hpending) }

theorem Tallies.launch (h : s.Tallies runs lastSeq) (hl : Worker.Launches now runs after started) :
    Tallies { s with
      executing := s.executing ++ started.map (·.seq)
      spawned := s.spawned ++ started } after lastSeq := by
  have hnodup : (after.map (·.seq)).Nodup := by
    rw [hl.seqs_eq]
    exact h.seqs_nodup
  refine { h with
    seqs_nodup := hnodup, seq_le := ?_, running_perm := ?_, spawned_perm := ?_, spawned_nodup := ?_,
    spawned_le := ?_, spawned_mayLaunch := ?_, pending_fresh := ?_, ended_of_terminal := ?_,
    not_ended := ?_ }
  · intro r hr
    rcases hl.mem_or_mem hr with hmem | hmem
    · exact h.seq_le r hmem
    · obtain ⟨o, ho, -, rfl⟩ := hl.exists_pending hmem
      exact h.seq_le o ho
  · refine hl.running_perm.trans ((h.running_perm.append_right _).trans ?_)
    refine List.perm_iff_count.2 fun n => ?_
    simp only [unprocessed, List.count_append]
    omega
  · rw [List.map_append]
    refine (h.spawned_perm.append_right _).trans (List.perm_iff_count.2 fun n => ?_)
    simp only [unprocessed, List.count_append]
    omega
  · rw [List.map_append, List.nodup_append]
    refine ⟨h.spawned_nodup, hnodup.sublist (hl.sublist.map _), ?_⟩
    rintro n hn m hm rfl
    obtain ⟨r, hr, rfl⟩ := List.mem_map.1 hm
    obtain ⟨o, ho, hpending, rfl⟩ := hl.exists_pending hr
    exact (h.pending_fresh o ho hpending).2 hn
  · intro r hr
    rcases List.mem_append.1 hr with hr | hr
    · exact h.spawned_le r hr
    · obtain ⟨o, ho, -, rfl⟩ := hl.exists_pending hr
      exact h.seq_le o ho
  · intro r hr
    rcases List.mem_append.1 hr with hr | hr
    · exact h.spawned_mayLaunch r hr
    · obtain ⟨o, ho, hpending, rfl⟩ := hl.exists_pending hr
      exact (h.pending_fresh o ho hpending).1
  · intro r hr hpending
    obtain ⟨hmem, hnot⟩ := hl.mem_of_pending hnodup hr hpending
    obtain ⟨hmay, hfresh⟩ := h.pending_fresh r hmem hpending
    refine ⟨hmay, fun hspawned => ?_⟩
    rw [List.map_append] at hspawned
    exact (List.mem_append.1 hspawned).elim hfresh hnot
  · intro r hr hterminal
    exact h.ended_of_terminal r (hl.mem_of_terminal hr hterminal) hterminal
  · intro r hr hactive
    rcases hl.mem_or_mem hr with hmem | hmem
    · exact h.not_ended r hmem hactive
    · obtain ⟨o, ho, hpending, rfl⟩ := hl.exists_pending hmem
      exact h.not_ended o ho (RunState.isTerminal_eq_false hpending)

private theorem nodup_map_append {α : Type} {f : α → Nat} {as : List α} {a : α}
    (h : (as.map f).Nodup) (ha : f a ∉ as.map f) : ((as ++ [a]).map f).Nodup := by
  rw [List.map_append, List.map_singleton, ← List.concat_eq_append]
  exact .concat ha h

private theorem not_mem_map_of_le {α : Type} {f : α → Nat} {as : List α} {n : Nat}
    (h : ∀ a ∈ as, f a ≤ n) : n + 1 ∉ as.map f := by
  intro hmem
  obtain ⟨a, ha, heq⟩ := List.mem_map.1 hmem
  have hle := h a ha
  omega

private theorem Tallies.nodup_append (h : s.Tallies runs lastSeq) (hseq : r.seq = lastSeq + 1) :
    ((runs ++ [r]).map (·.seq)).Nodup :=
  nodup_map_append h.seqs_nodup (hseq ▸ not_mem_map_of_le h.seq_le)

private theorem Tallies.le_append (h : s.Tallies runs lastSeq) (hseq : r.seq = lastSeq + 1) :
    ∀ o ∈ runs ++ [r], o.seq ≤ lastSeq + 1 := by
  intro o ho
  rcases List.mem_append.1 ho with ho | ho
  · exact Nat.le_succ_of_le (h.seq_le o ho)
  · obtain rfl := List.mem_singleton.1 ho
    exact Nat.le_of_eq hseq

theorem MayLaunch.append {n : Nat} (h : s.MayLaunch n) (more : List (Nat × PreparedRun)) :
    MayLaunch { s with admitted := s.admitted ++ more } n := by
  obtain ⟨run, hmem, hcannot⟩ := h
  exact ⟨run, List.mem_append_left _ hmem, hcannot⟩

/-- The next number is given to a submission. -/
theorem Tallies.give (h : s.Tallies runs lastSeq) (run : PreparedRun) :
    Tallies { s with admitted := s.admitted ++ [(lastSeq + 1, run)] } runs (lastSeq + 1) := by
  refine { h with
    seq_le := ?_, admitted_nodup := ?_, admitted_le := ?_, spawned_le := ?_,
    spawned_mayLaunch := ?_, pending_fresh := ?_, ended_le := ?_ }
  · exact fun o ho => Nat.le_succ_of_le (h.seq_le o ho)
  · exact nodup_map_append h.admitted_nodup (not_mem_map_of_le h.admitted_le)
  · intro a ha
    rcases List.mem_append.1 ha with ha | ha
    · exact Nat.le_succ_of_le (h.admitted_le a ha)
    · obtain rfl := List.mem_singleton.1 ha
      exact Nat.le_refl _
  · exact fun o ho => Nat.le_succ_of_le (h.spawned_le o ho)
  · exact fun o ho => (h.spawned_mayLaunch o ho).append _
  · intro o ho hpending
    obtain ⟨hmay, hfresh⟩ := h.pending_fresh o ho hpending
    exact ⟨hmay.append _, hfresh⟩
  · exact fun o ho => Nat.le_succ_of_le (h.ended_le o ho)

/-- A run that can be launched comes in under the next number. -/
theorem Tallies.append_pending {run : PreparedRun} (h : s.Tallies runs lastSeq)
    (hseq : r.seq = lastSeq + 1) (hpending : r.state.isPending) (hcannot : run.cannotLaunch = none) :
    Tallies { s with admitted := s.admitted ++ [(lastSeq + 1, run)] } (runs ++ [r]) (lastSeq + 1) := by
  have hgiven := h.give run
  refine { hgiven with
    seqs_nodup := h.nodup_append hseq, seq_le := h.le_append hseq, running_perm := ?_,
    pending_fresh := ?_, ended_of_terminal := ?_, not_ended := ?_ }
  · rw [Worker.running_append, Worker.running_cons, if_neg (RunState.ne_inProgress hpending),
      Worker.running_nil, List.append_nil]
    exact h.running_perm
  · intro o ho hopending
    rcases List.mem_append.1 ho with ho | ho
    · exact hgiven.pending_fresh o ho hopending
    · rw [List.mem_singleton.1 ho]
      rw [hseq]
      exact ⟨⟨run, List.mem_append_right _ List.mem_cons_self, hcannot⟩, not_mem_map_of_le h.spawned_le⟩
  · intro o ho hterminal
    rcases List.mem_append.1 ho with ho | ho
    · exact h.ended_of_terminal o ho hterminal
    · rw [List.mem_singleton.1 ho, RunState.isTerminal_eq_false hpending] at hterminal
      cases hterminal
  · intro o ho hactive
    rcases List.mem_append.1 ho with ho | ho
    · exact h.not_ended o ho hactive
    · rw [List.mem_singleton.1 ho, hseq]
      exact not_mem_map_of_le h.ended_le

/-- A run that cannot be launched comes in under the next number and has ended. -/
theorem Tallies.append_ended (h : s.Tallies runs lastSeq) (run : PreparedRun)
    (hseq : r.seq = lastSeq + 1) (hterminal : r.state = .terminated) :
    Tallies { s with
      admitted := s.admitted ++ [(lastSeq + 1, run)]
      ended := s.ended ++ [r]
      saves := s.saves ++ [(r.flowId, r.outcome)] } (runs ++ [r]) (lastSeq + 1) := by
  have hgiven := h.give run
  refine { hgiven with
    seqs_nodup := h.nodup_append hseq, seq_le := h.le_append hseq, running_perm := ?_,
    pending_fresh := ?_, saves_eq := ?_, ended_nodup := ?_, ended_le := ?_,
    ended_of_terminal := ?_, not_ended := ?_ }
  · have hne : r.state ≠ .inProgress := by
      rw [hterminal]
      nofun
    rw [Worker.running_append, Worker.running_cons, if_neg hne, Worker.running_nil, List.append_nil]
    exact h.running_perm
  · intro o ho hopending
    rcases List.mem_append.1 ho with ho | ho
    · exact hgiven.pending_fresh o ho hopending
    · rw [List.mem_singleton.1 ho, hterminal] at hopending
      cases hopending
  · rw [List.map_append, ← h.saves_eq]
    rfl
  · exact nodup_map_append h.ended_nodup (hseq ▸ not_mem_map_of_le h.ended_le)
  · intro o ho
    rcases List.mem_append.1 ho with ho | ho
    · exact Nat.le_succ_of_le (h.ended_le o ho)
    · obtain rfl := List.mem_singleton.1 ho
      exact Nat.le_of_eq hseq
  · intro o ho hoterminal
    rcases List.mem_append.1 ho with ho | ho
    · exact List.mem_append_left _ (h.ended_of_terminal o ho hoterminal)
    · exact List.mem_append_right _ ho
  · intro o ho hactive hmem
    rw [List.map_append] at hmem
    rcases List.mem_append.1 ho with ho | ho
    · rcases List.mem_append.1 hmem with hmem | hmem
      · exact h.not_ended o ho hactive hmem
      · have hle := h.seq_le o ho
        have heq : o.seq = r.seq := by simpa using hmem
        omega
    · rw [List.mem_singleton.1 ho, hterminal] at hactive
      cases hactive

/-- The first feedback in flight is taken in, and its run ends. -/
theorem Tallies.finish {before after : List PreparedRun} {ended : PreparedRun}
    {outcome : FlowOutcome} {rest : List (Nat × FlowOutcome)}
    (h : s.Tallies (before ++ r :: after) lastSeq) (hfeedback : s.feedback = (r.seq, outcome) :: rest)
    (hrunning : r.state = .inProgress) (hseq : ended.seq = r.seq) (hterminal : ended.state = .terminated) :
    Tallies { s with
      feedback := rest
      processed := s.processed ++ [r.seq]
      ended := s.ended ++ [ended]
      saves := s.saves ++ [(ended.flowId, ended.outcome)] } (before ++ ended :: after) lastSeq := by
  have hr : r ∈ before ++ r :: after := List.mem_append_right _ List.mem_cons_self
  have hactive : r.state.isTerminal = false := by
    rw [hrunning]
    rfl
  have hother : ∀ o ∈ before ++ ended :: after,
      o = ended ∨ o ∈ before ++ r :: after ∧ o.seq ≠ r.seq := by
    have hnodup := h.seqs_nodup
    rw [List.map_append, List.map_cons, List.nodup_append, List.nodup_cons] at hnodup
    obtain ⟨-, ⟨hafter, -⟩, hbefore⟩ := hnodup
    intro o ho
    rcases List.mem_append.1 ho with ho | ho
    · exact .inr ⟨List.mem_append_left _ ho,
        hbefore o.seq (List.mem_map_of_mem ho) r.seq List.mem_cons_self⟩
    · rcases List.mem_cons.1 ho with rfl | ho
      · exact .inl rfl
      · refine .inr ⟨List.mem_append_right _ (List.mem_cons_of_mem _ ho), fun heq => ?_⟩
        exact hafter (heq ▸ List.mem_map_of_mem ho)
  have hne : ended.state ≠ .inProgress := by
    rw [hterminal]
    nofun
  refine { h with
    seqs_nodup := ?_, seq_le := ?_, running_perm := ?_, spawned_perm := ?_, pending_fresh := ?_,
    saves_eq := ?_, ended_nodup := ?_, ended_le := ?_, ended_of_terminal := ?_, not_ended := ?_ }
  · have hseqs : (before ++ ended :: after).map (·.seq) = (before ++ r :: after).map (·.seq) := by
      rw [List.map_append, List.map_append, List.map_cons, List.map_cons, hseq]
    rw [hseqs]
    exact h.seqs_nodup
  · intro o ho
    rcases hother o ho with rfl | ⟨ho, -⟩
    · rw [hseq]
      exact h.seq_le r hr
    · exact h.seq_le o ho
  · have hperm := h.running_perm
    rw [unprocessed, hfeedback, Worker.running_append, Worker.running_cons, if_pos hrunning] at hperm
    rw [unprocessed, Worker.running_append, Worker.running_cons, if_neg hne]
    refine List.perm_iff_count.2 fun n => ?_
    have hcount := List.perm_iff_count.1 hperm n
    simp only [List.map_cons, List.count_append, List.count_cons] at hcount ⊢
    omega
  · refine h.spawned_perm.trans (List.perm_iff_count.2 fun n => ?_)
    simp only [unprocessed, hfeedback, List.map_cons, List.count_append, List.count_cons,
      List.count_nil]
    omega
  · intro o ho hpending
    rcases hother o ho with rfl | ⟨ho, -⟩
    · rw [hterminal] at hpending
      cases hpending
    · exact h.pending_fresh o ho hpending
  · rw [List.map_append, ← h.saves_eq]
    rfl
  · refine nodup_map_append h.ended_nodup ?_
    rw [hseq]
    exact h.not_ended r hr hactive
  · intro o ho
    rcases List.mem_append.1 ho with ho | ho
    · exact h.ended_le o ho
    · rw [List.mem_singleton.1 ho, hseq]
      exact h.seq_le r hr
  · intro o ho hoterminal
    rcases hother o ho with rfl | ⟨ho, -⟩
    · exact List.mem_append_right _ (List.mem_singleton.2 rfl)
    · exact List.mem_append_left _ (h.ended_of_terminal o ho hoterminal)
  · intro o ho hoactive hmem
    rcases hother o ho with rfl | ⟨ho, hone⟩
    · rw [hterminal] at hoactive
      cases hoactive
    · rw [List.map_append] at hmem
      rcases List.mem_append.1 hmem with hmem | hmem
      · exact h.not_ended o ho hoactive hmem
      · have heq : o.seq = r.seq := by simpa [hseq] using hmem
        exact hone heq

/-- An execution ends and sends its feedback. -/
theorem Tallies.send {seq : Nat} (h : s.Tallies runs lastSeq) (hseq : seq ∈ s.executing)
    (outcome : FlowOutcome) :
    Tallies { s with
      executing := s.executing.erase seq
      feedback := s.feedback ++ [(seq, outcome)] } runs lastSeq := by
  have hperm : s.unprocessed.Perm
      (s.executing.erase seq ++ (s.feedback ++ [(seq, outcome)]).map (·.1)) := by
    refine ((List.perm_cons_erase hseq).append_right _).trans (List.perm_iff_count.2 fun n => ?_)
    simp only [List.map_append, List.map_cons, List.map_nil, List.count_append, List.count_cons,
      List.count_nil]
    omega
  exact { h with
    running_perm := h.running_perm.trans hperm
    spawned_perm := h.spawned_perm.trans (hperm.append_right _) }

/-- The run of a feedback in flight is in the list and in progress. -/
theorem Tallies.find?_eq {seq : Nat} (h : s.Tallies runs lastSeq) (hseq : seq ∈ s.unprocessed) :
    ∃ r, runs.find? (·.seq == seq) = some r ∧ r.state = .inProgress ∧ r.seq = seq := by
  obtain ⟨r, hr, hstate, rfl⟩ := Worker.mem_running.1 (h.running_perm.mem_iff.2 hseq)
  exact ⟨r, (Worker.find?_seq_eq_some_iff h.seqs_nodup).2 ⟨hr, rfl⟩, hstate, rfl⟩

/-! ### One move -/

/-- The record fits the worker. -/
abbrev Sound (s : WorkerSite) : Prop := s.Tallies s.worker.runs s.worker.lastSeq

/-- An operation that only tidies the list of runs adds nothing to the record. -/
private theorem absorb_of_quiet {step : WorkerStep} (hstarted : step.started = [])
    (hsaves : step.saves = []) (ht : Worker.Tidies s.worker.runs step.worker.runs) :
    s.absorb step = { s with worker := step.worker, checkDue := step.changed || step.brokeOff } := by
  have hended := Worker.newlyEnded_eq_nil fun r hr => ht.mem_of_terminal hr
  rw [absorb, hstarted, hsaves, hended]
  simp

theorem Sound.absorb_of_tidies {step : WorkerStep} (h : s.Sound) (hstarted : step.started = [])
    (hsaves : step.saves = []) (ht : Worker.Tidies s.worker.runs step.worker.runs)
    (hseq : step.worker.lastSeq = s.worker.lastSeq) : (s.absorb step).Sound := by
  rw [absorb_of_quiet hstarted hsaves ht]
  show Tallies _ step.worker.runs step.worker.lastSeq
  rw [hseq]
  exact { h.tidy ht with }

theorem Sound.updateQueue (h : s.Sound) (q : Queue) : (s.absorb (s.worker.updateQueue q)).Sound := by
  rw [Worker.updateQueue]
  split
  · exact h.absorb_of_tidies rfl rfl (.refl _) rfl
  · split
    · exact h.absorb_of_tidies rfl rfl (.refl _) rfl
    · exact h.absorb_of_tidies rfl rfl (.refl _) rfl

theorem Sound.housekeeping (h : s.Sound) (now : Instant) :
    (s.absorb (s.worker.react now .housekeeping)).Sound :=
  Worker.housekeeping_cases s.worker now (fun _ => h.absorb_of_tidies rfl rfl (.refl _) rfl)
    fun _ => h.absorb_of_tidies rfl rfl (Worker.tidies_clean s.worker now) rfl

theorem Sound.sweep (h : s.Sound) (now : Instant) : (s.absorb (s.worker.sweep now)).Sound := by
  have ht := (Worker.tidies_clean s.worker now).trans (Worker.tidies_recount (s.worker.clean now))
  have hl := s.worker.launches_sweep now
  have hended : Worker.newlyEnded s.worker.runs (s.worker.sweep now).worker.runs = [] :=
    Worker.newlyEnded_eq_nil fun r hr hterminal =>
      ht.mem_of_terminal (hl.mem_of_terminal hr hterminal) hterminal
  have hsaves : (s.worker.sweep now).saves = [] := rfl
  rw [absorb, hended, hsaves, List.append_nil, List.append_nil]
  exact { (h.tidy ht).launch hl with }

theorem Sound.check (h : s.Sound) (now : Instant) : (s.absorb (s.worker.checkRuns now)).Sound :=
  Worker.checkRuns_cases s.worker now (fun _ => h.absorb_of_tidies rfl rfl (.refl _) rfl)
    fun _ => h.sweep now

theorem Sound.submit (h : s.Sound) (run : PreparedRun) (now : Instant) :
    ((s.enlist run (s.worker.submit run now)).absorb (s.worker.submit run now)).Sound := by
  obtain ⟨hstarted, ⟨hsaves, hseq, ht, -⟩ | ⟨kept, r, hadds⟩⟩ := s.worker.submit_cases run now
  · rw [enlist, Worker.newNumbers_eq_nil ht.sublist.subset, List.map_nil, List.append_nil]
    exact h.absorb_of_tidies hstarted hsaves ht hseq
  have hkept := h.tidy hadds.tidies
  have hnew : Worker.newlyEnded s.worker.runs kept = [] :=
    Worker.newlyEnded_eq_nil fun o ho => hadds.tidies.mem_of_terminal ho
  have hfresh : r.seq ∉ s.worker.runs.map (·.seq) := by
    rw [hadds.seq_eq]
    exact not_mem_map_of_le h.seq_le
  have henlisted : s.enlist run (s.worker.submit run now) =
      { s with admitted := s.admitted ++ [(s.worker.lastSeq + 1, run)] } := by
    rw [enlist, hadds.runs_eq,
      Worker.newNumbers_append_singleton hadds.tidies.sublist.subset hfresh, hadds.seq_eq]
    rfl
  show Tallies _ (s.worker.submit run now).worker.runs (s.worker.submit run now).worker.lastSeq
  rw [henlisted, absorb, hadds.runs_eq, hadds.lastSeq_eq, hstarted, Worker.newlyEnded_append, hnew,
    List.map_nil, List.append_nil, List.append_nil, List.nil_append]
  rcases hadds.fate with ⟨hcannot, hpending, hsaves⟩ | ⟨-, hterminal, hsaves⟩
  · have hended : Worker.newlyEnded s.worker.runs [r] = [] := by
      refine Worker.newlyEnded_eq_nil fun o ho hoterminal => ?_
      rw [List.mem_singleton.1 ho, RunState.isTerminal_eq_false hpending] at hoterminal
      cases hoterminal
    rw [hsaves, hended, List.append_nil, List.append_nil]
    exact { hkept.append_pending hadds.seq_eq hpending hcannot with }
  · have hended : Worker.newlyEnded s.worker.runs [r] = [r] := by
      refine Worker.newlyEnded_singleton (by rw [hterminal]; rfl) fun o ho heq => ?_
      exact absurd (heq ▸ List.mem_map_of_mem ho) hfresh
    rw [hsaves, hended]
    exact { hkept.append_ended run hadds.seq_eq hterminal with }

theorem Sound.deliver {seq : Nat} {outcome : FlowOutcome} {rest : List (Nat × FlowOutcome)}
    (h : s.Sound) (hfeedback : s.feedback = (seq, outcome) :: rest) (now : Instant) :
    (absorb { s with feedback := rest, processed := s.processed ++ [seq] }
      (s.worker.complete seq outcome now)).Sound := by
  have hmem : seq ∈ s.unprocessed := by
    rw [unprocessed, hfeedback]
    simp
  obtain ⟨r, hfind, hrunning, rfl⟩ := h.find?_eq hmem
  have hr := List.mem_of_find?_eq_some hfind
  obtain ⟨before, after, hruns⟩ := List.append_of_mem hr
  have hactive : r.state.isTerminal = false := by
    rw [hrunning]
    rfl
  have hreplaces := Worker.complete_replaces outcome now h.seqs_nodup hruns hactive hfind
  have hsound : s.Tallies (before ++ r :: after) s.worker.lastSeq := hruns ▸ h
  have hseq : (Worker.ended outcome now r).seq = r.seq := rfl
  have hfinish := hsound.finish hfeedback hrunning hseq rfl
  have hended : Worker.newlyEnded s.worker.runs (before ++ Worker.ended outcome now r :: after) =
      [Worker.ended outcome now r] := by
    have hbefore : Worker.newlyEnded s.worker.runs before = [] :=
      Worker.newlyEnded_eq_nil fun o ho _ => hruns ▸ List.mem_append_left _ ho
    have hafter : Worker.newlyEnded s.worker.runs after = [] :=
      Worker.newlyEnded_eq_nil fun o ho _ =>
        hruns ▸ List.mem_append_right _ (List.mem_cons_of_mem _ ho)
    have hnew : Worker.newlyEnded s.worker.runs [Worker.ended outcome now r] =
        [Worker.ended outcome now r] := by
      refine Worker.newlyEnded_singleton rfl fun o ho heq => ?_
      rw [List.inj_on_of_nodup_map h.seqs_nodup ho hr heq, hactive]
    rw [Worker.newlyEnded_append, hbefore, ← List.singleton_append, Worker.newlyEnded_append, hnew,
      hafter]
    rfl
  show Tallies _ (s.worker.complete r.seq outcome now).worker.runs
    (s.worker.complete r.seq outcome now).worker.lastSeq
  rw [absorb, hreplaces.runs_eq, hreplaces.lastSeq_eq, hreplaces.started_eq, hreplaces.saves_eq, hended,
    List.map_nil, List.append_nil, List.append_nil]
  exact { hfinish with }

theorem Sound.step {m : WorkerMove} (h : s.Sound) (hm : s.Step m s') : s'.Sound := by
  cases hm with
  | submit run now _ => exact h.submit run now
  | updateQueue queue now _ => exact h.updateQueue queue
  | housekeeping now _ => exact h.housekeeping now
  | deliver now _ hfeedback => exact h.deliver hfeedback now
  | check now _ => exact h.check now
  | finish outcome hseq => exact Tallies.send h hseq outcome

/-! ### Every reachable site -/

theorem Reachable.sound {settings : WorkerSettings} {queues : List Queue} {start : Instant}
    (h : Reachable settings queues start s) : s.Sound := by
  induction h with
  | init =>
    obtain ⟨hruns, hseq⟩ := Worker.init_runs settings queues start
    show Tallies _ (Worker.init settings queues start).runs (Worker.init settings queues start).lastSeq
    rw [hruns, hseq]
    constructor
    all_goals simp [unprocessed]
  | step _ hm ih => exact ih.step hm

/-- Why a run has left the list in a move: it had ended, and it was older than the retention or a run of
its key has been admitted. -/
inductive Leaves (s : WorkerSite) (r : PreparedRun) : WorkerMove → WorkerSite → Prop where
  | atHousekeeping {s' : WorkerSite} {now stopped : Instant} : r.state = .terminated →
      r.stoppedAt = some stopped → stopped.addNanos s.worker.retentionNanos < now →
      Leaves s r (.housekeeping now) s'
  | atCheck {s' : WorkerSite} {now stopped : Instant} : r.state = .terminated →
      r.stoppedAt = some stopped → stopped.addNanos s.worker.retentionNanos < now →
      Leaves s r (.check now) s'
  | replaced {s' : WorkerSite} {now : Instant} {run added : PreparedRun} : r.state = .terminated →
      run.identity = r.identity → added ∈ s'.worker.runs → added.identity = r.identity →
      s.worker.lastSeq < added.seq → Leaves s r (.submit run now) s'

theorem Step.leaves {m : WorkerMove} (hm : s.Step m s') (hr : r ∈ s.worker.runs)
    (hnot : r.seq ∉ s'.worker.runs.map (·.seq)) : s.Leaves r m s' := by
  have hstays : s'.worker.runs.map (·.seq) ≠ s.worker.runs.map (·.seq) := by
    intro heq
    exact hnot (heq ▸ List.mem_map_of_mem hr)
  cases hm with
  | submit run now _ =>
    obtain ⟨-, ⟨-, -, -, hseqs⟩ | ⟨kept, added, hadds⟩⟩ := s.worker.submit_cases run now
    · exact absurd hseqs hstays
    · change r.seq ∉ (s.worker.submit run now).worker.runs.map (·.seq) at hnot
      rw [hadds.runs_eq, List.map_append] at hnot
      obtain ⟨hterminal, hidentity⟩ :=
        hadds.replaced r hr fun hmem => hnot (List.mem_append_left _ hmem)
      refine .replaced (RunState.eq_terminated hterminal) hidentity.symm ?_
        (hadds.identity_eq.trans hidentity.symm) (hadds.seq_eq ▸ Nat.lt_succ_self _)
      show added ∈ (s.worker.submit run now).worker.runs
      rw [hadds.runs_eq]
      exact List.mem_append_right _ List.mem_cons_self
  | updateQueue queue now _ =>
    exact absurd (congrArg (List.map (·.seq)) (s.worker.updateQueue_runs queue)) hstays
  | housekeeping now _ =>
    revert hnot hstays
    refine Worker.housekeeping_cases s.worker now (fun _ _ hstays => absurd rfl hstays) fun _ hnot _ => ?_
    obtain ⟨hstate, stopped, hstopped, hlt⟩ := Worker.expired_of_not_mem_clean hr hnot
    exact .atHousekeeping hstate hstopped hlt
  | @deliver seq outcome _ now _ _ => exact absurd (s.worker.complete_seqs seq outcome now) hstays
  | check now _ =>
    revert hnot hstays
    refine Worker.checkRuns_cases s.worker now (fun _ _ hstays => absurd rfl hstays) fun _ hnot _ => ?_
    have hclean : r.seq ∉ (s.worker.clean now).runs.map (·.seq) := by
      rw [← Worker.sweep_seqs]
      exact hnot
    obtain ⟨hstate, stopped, hstopped, hlt⟩ := Worker.expired_of_not_mem_clean hr hclean
    exact .atCheck hstate hstopped hlt
  | finish _ _ => exact absurd rfl hstays

/-- What a site shows of the correspondence. -/
structure Corresponds (s : WorkerSite) : Prop where
  /-- The runs in progress are those whose feedback is still to be taken in, each once. -/
  running_perm : (Worker.running s.worker.runs).Perm s.unprocessed
  unprocessed_nodup : s.unprocessed.Nodup
  /-- Each admitted submission has a number of its own. -/
  admitted_nodup : (s.admitted.map (·.1)).Nodup
  /-- Each execution that has begun is still to be taken in or has been, and none has begun twice. -/
  spawned_perm : (s.spawned.map (·.seq)).Perm (s.unprocessed ++ s.processed)
  spawned_nodup : (s.spawned.map (·.seq)).Nodup
  spawned_admitted : ∀ r ∈ s.spawned, ∃ run, (r.seq, run) ∈ s.admitted
  refused_not_spawned : ∀ seq run, (seq, run) ∈ s.admitted → run.cannotLaunch.isSome →
    seq ∉ s.spawned.map (·.seq)
  /-- Each run that has ended has had its outcome saved once, and no other run has. -/
  saves_eq : s.saves = s.ended.map fun r => (r.flowId, r.outcome)
  ended_nodup : (s.ended.map (·.seq)).Nodup
  ended_of_terminated : ∀ r ∈ s.worker.runs, r.state = .terminated → r ∈ s.ended
  not_ended : ∀ r ∈ s.worker.runs, r.state ≠ .terminated → r.seq ∉ s.ended.map (·.seq)
  /-- Feedback in flight finds its run in progress. -/
  feedback_known : ∀ seq outcome, (seq, outcome) ∈ s.feedback →
    ∃ r, s.worker.runs.find? (·.seq == seq) = some r ∧ r.state = .inProgress

/-- In every reachable site executions, runs and saved outcomes correspond, and a run leaves the list only
once it has ended and is too old or replaced. -/
theorem Reachable.corresponds {settings : WorkerSettings} {queues : List Queue} {start : Instant}
    (h : Reachable settings queues start s) : s.Corresponds ∧
      ∀ m s', s.Step m s' → ∀ r ∈ s.worker.runs, r.seq ∉ s'.worker.runs.map (·.seq) →
        s.Leaves r m s' := by
  have hs := h.sound
  refine ⟨?_, fun m s' hm r hr hnot => hm.leaves hr hnot⟩
  have hnodup : (s.unprocessed ++ s.processed).Nodup := hs.spawned_perm.nodup_iff.1 hs.spawned_nodup
  refine { hs with
    unprocessed_nodup := (List.nodup_append.1 hnodup).1, spawned_admitted := ?_,
    refused_not_spawned := ?_, ended_of_terminated := ?_, not_ended := ?_, feedback_known := ?_ }
  · intro r hr
    obtain ⟨run, hmem, -⟩ := hs.spawned_mayLaunch r hr
    exact ⟨run, hmem⟩
  · intro seq run hmem hcannot hspawned
    obtain ⟨r, hr, rfl⟩ := List.mem_map.1 hspawned
    obtain ⟨run', hmem', hnone⟩ := hs.spawned_mayLaunch r hr
    cases List.inj_on_of_nodup_map hs.admitted_nodup hmem hmem' rfl
    rw [hnone] at hcannot
    cases hcannot
  · intro r hr hstate
    refine hs.ended_of_terminal r hr ?_
    rw [hstate]
    rfl
  · intro r hr hstate
    refine hs.not_ended r hr ?_
    cases hterminal : r.state.isTerminal with
    | false => rfl
    | true => exact absurd (RunState.eq_terminated hterminal) hstate
  · intro seq outcome hmem
    have hseq : seq ∈ s.unprocessed := List.mem_append_right _ (List.mem_map_of_mem hmem)
    obtain ⟨r, hfind, hstate, -⟩ := hs.find?_eq hseq
    exact ⟨r, hfind, hstate⟩

private def noon : Instant := .ofSecond 1704110400

private def report : PreparedRun := .ofTrigger 1 "report" (.manual "operator" (.utc noon))

private def idle : WorkerSite := { worker := .init {} [] noon }

private def submitted : WorkerSite :=
  (idle.enlist report (idle.worker.submit report noon)).absorb (idle.worker.react noon (.submit report))

private def begun : WorkerSite := submitted.absorb (submitted.worker.checkRuns noon)

private def sent : WorkerSite :=
  { begun with
    executing := begun.executing.erase 1
    feedback := begun.feedback ++ [(1, ⟨.ok, "done"⟩)] }

/-- A run has been submitted and executed, and its feedback is in flight. -/
theorem corresponds_with_feedback_in_flight :
    sent.feedback = [(1, ⟨.ok, "done"⟩)] ∧ sent.Corresponds ∧
      ∀ m s', sent.Step m s' → ∀ r ∈ sent.worker.runs, r.seq ∉ s'.worker.runs.map (·.seq) →
        sent.Leaves r m s' := by
  have hsubmitted : Reachable {} [] noon submitted := .step .init (.submit report noon rfl)
  have hbegun : Reachable {} [] noon begun := .step hsubmitted (.check noon rfl)
  have hsent : Reachable {} [] noon sent := .step hbegun (.finish ⟨.ok, "done"⟩ (by decide))
  exact ⟨rfl, hsent.corresponds⟩

end WorkerSite

end FlowScheduler
