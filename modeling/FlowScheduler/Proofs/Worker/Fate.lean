import Mathlib
import FlowScheduler.Proofs.Worker.Correspondence
import FlowScheduler.Proofs.Worker.Identity

/-!
What becomes of the runs that are submitted to a worker.

A submission is refused for one of a few reasons (`Worker.Refuses`) or gets the next number. Under its number the
run stays in the list until it has ended (`WorkerSite.Reachable.accounted`). So where no run is active, all that
were admitted have ended, nothing is being executed, and it stays so until a run is submitted
(`WorkerSite.Step.isIdle`).
-/

namespace FlowScheduler

namespace Worker

variable {w : Worker} {run r r' r'' : PreparedRun} {runs before after started : List PreparedRun} {now : Instant}

/-! ### Admission -/

/-- Why a worker leaves a submission aside. -/
inductive Refuses (w : Worker) (run : PreparedRun) : Prop where
  | noKey : run.identity = "" → Refuses w run
  | active : w.isActive run.identity → Refuses w run
  | noQueue : run.cannotLaunch = none → w.queues.contains run.queueId = false → Refuses w run
  | full : run.cannotLaunch = none → (w.recount.queues.get? run.queueId).any QueueState.isFull →
      Refuses w run

/-- A submission that is refused leaves nothing behind, except that the runs may have been counted. -/
theorem submit_of_refuses (h : w.Refuses run) (now : Instant) :
    w.submit run now = { worker := w } ∨ w.submit run now = { worker := w.recount } := by
  rw [submit]
  split
  · exact .inl rfl
  next hkey =>
  split
  · exact .inl rfl
  next hactive =>
  split
  · next hcannot =>
    rcases h with hno | hyes | ⟨hnone, -⟩ | ⟨hnone, -⟩
    · exact absurd hno hkey
    · exact absurd hyes hactive
    all_goals simp [hnone] at hcannot
  split
  · exact .inl rfl
  next hqueue =>
  dsimp only
  split
  · exact .inr rfl
  · next hroom =>
    rcases h with hno | hyes | ⟨-, hmissing⟩ | ⟨-, hfull⟩
    · exact absurd hno hkey
    · exact absurd hyes hactive
    · simp [hmissing] at hqueue
    · exact absurd hfull hroom

/-- A submission that is not refused is added: a run that cannot be launched has ended at once, any other waits
once the runs have been counted. -/
theorem submit_of_not_refuses (h : ¬w.Refuses run) (now : Instant) : w.submit run now =
    if run.cannotLaunch.isSome then
      let ended := { run with state := .terminated, stoppedAt := some now }
      { worker := w.append ended, changed := true, saves := [(run.flowId, ended.outcome)] }
    else { worker := w.recount.append { run with state := .new }, changed := true } := by
  have hkey : run.identity ≠ "" := fun hno => h (.noKey hno)
  have hactive : ¬w.isActive run.identity := fun hyes => h (.active hyes)
  rw [submit, if_neg hkey, if_neg hactive]
  split
  · rfl
  · next hcannot =>
    have hnone : run.cannotLaunch = none := by simpa using hcannot
    have hqueue : ¬(!w.queues.contains run.queueId) = true := fun hno =>
      h (.noQueue hnone (by simpa using hno))
    have hroom : ¬(w.recount.queues.get? run.queueId).any QueueState.isFull := fun hfull =>
      h (.full hnone hfull)
    rw [if_neg hqueue]
    exact if_neg hroom

/-- A submission gets a number if and only if none of these reasons holds. -/
theorem lastSeq_submit_iff (w : Worker) (run : PreparedRun) (now : Instant) :
    (w.submit run now).worker.lastSeq = w.lastSeq + 1 ↔ ¬w.Refuses run := by
  by_cases h : w.Refuses run
  · refine iff_of_false (fun hnext => ?_) (not_not.2 h)
    have hsame : (w.submit run now).worker.lastSeq = w.lastSeq := by
      rcases submit_of_refuses h now with heq | heq
      · rw [heq]
      · rw [heq]
        rfl
    omega
  · refine iff_of_true ?_ h
    rw [submit_of_not_refuses h now]
    split
    · rfl
    · rfl

/-- What is not refused is added. -/
theorem adds_of_not_refuses (h : ¬w.Refuses run) (now : Instant) :
    ∃ kept r, w.Adds run (w.submit run now) kept r := by
  obtain ⟨-, ⟨-, hseq, -⟩ | hadds⟩ := w.submit_cases run now
  · have hnext := (w.lastSeq_submit_iff run now).2 h
    omega
  · exact hadds

/-! ### Going on -/

/-- A run is another one at a later time. -/
structure GoesOnAs (r r' : PreparedRun) : Prop where
  seq_eq : r'.seq = r.seq
  flowId_eq : r'.flowId = r.flowId
  identity_eq : r'.identity = r.identity

theorem GoesOnAs.refl (r : PreparedRun) : GoesOnAs r r := ⟨rfl, rfl, rfl⟩

theorem GoesOnAs.trans (h : GoesOnAs r r') (h' : GoesOnAs r' r'') : GoesOnAs r r'' :=
  ⟨h'.seq_eq.trans h.seq_eq, h'.flowId_eq.trans h.flowId_eq, h'.identity_eq.trans h.identity_eq⟩

theorem goesOnAs_settle (queues : ById QueueState) (r : PreparedRun) : GoesOnAs r (settle queues r) := by
  rw [settle]
  split
  · split
    · exact ⟨rfl, rfl, rfl⟩
    · exact ⟨rfl, rfl, rfl⟩
  · exact ⟨rfl, rfl, rfl⟩

/-- Each run of a list that has not ended goes on in another. -/
def Continues (before after : List PreparedRun) : Prop :=
  ∀ r ∈ before, r.state.isTerminal = false → ∃ r' ∈ after, GoesOnAs r r'

theorem continues_of_mem (h : ∀ r ∈ before, r.state.isTerminal = false → r ∈ after) :
    Continues before after :=
  fun r hr hactive => ⟨r, h r hr hactive, .refl r⟩

theorem continues_clean (w : Worker) (now : Instant) : Continues w.runs (w.clean now).runs :=
  continues_of_mem fun _ hr hactive => List.mem_filter.2 ⟨hr, isRetained_of_active hactive⟩

theorem mem_recount (w : Worker) (hr : r ∈ w.runs) : settle w.queues r ∈ w.recount.runs :=
  List.mem_map_of_mem hr

theorem Launches.exists_goesOnAs (h : Launches now runs after started) (hr : r ∈ runs) :
    ∃ r' ∈ after, GoesOnAs r r' := by
  induction h with
  | nil => cases hr
  | keep o _ ih =>
    rcases List.mem_cons.1 hr with rfl | hr
    · exact ⟨r, List.mem_cons_self, .refl r⟩
    · obtain ⟨r', hr', hgoes⟩ := ih hr
      exact ⟨r', List.mem_cons_of_mem _ hr', hgoes⟩
  | start _ _ ih =>
    rcases List.mem_cons.1 hr with rfl | hr
    · exact ⟨_, List.mem_cons_self, rfl, rfl, rfl⟩
    · obtain ⟨r', hr', hgoes⟩ := ih hr
      exact ⟨r', List.mem_cons_of_mem _ hr', hgoes⟩

theorem continues_sweep (w : Worker) (now : Instant) : Continues w.runs (w.sweep now).worker.runs := by
  intro r hr hactive
  have hclean : r ∈ (w.clean now).runs := List.mem_filter.2 ⟨hr, isRetained_of_active hactive⟩
  have hsettled := goesOnAs_settle (w.clean now).queues r
  have hl := w.launches_sweep now
  obtain ⟨r', hr', hgoes⟩ := hl.exists_goesOnAs (mem_recount (w.clean now) hclean)
  exact ⟨r', hr', hsettled.trans hgoes⟩

theorem continues_checkRuns (w : Worker) (now : Instant) : Continues w.runs (w.checkRuns now).worker.runs :=
  checkRuns_cases w now (fun _ => continues_of_mem fun _ hr _ => hr) fun _ => continues_sweep w now

theorem continues_housekeeping (w : Worker) (now : Instant) :
    Continues w.runs (w.react now .housekeeping).worker.runs :=
  housekeeping_cases w now (fun _ => continues_of_mem fun _ hr _ => hr) fun _ => continues_clean w now

theorem mem_append_of_active (w : Worker) {o : PreparedRun} (hr : r ∈ w.runs)
    (hactive : r.state.isTerminal = false) : r ∈ (w.append o).runs :=
  List.mem_append_left _ (List.mem_filter.2 ⟨hr, by simp [hactive]⟩)

theorem continues_submit (w : Worker) (run : PreparedRun) (now : Instant) :
    Continues w.runs (w.submit run now).worker.runs := by
  rw [submit]
  split
  · exact continues_of_mem fun _ hr _ => hr
  split
  · exact continues_of_mem fun _ hr _ => hr
  split
  · exact continues_of_mem fun _ hr hactive => mem_append_of_active w hr hactive
  split
  · exact continues_of_mem fun _ hr _ => hr
  dsimp only
  split
  · exact fun r hr _ => ⟨_, mem_recount w hr, goesOnAs_settle w.queues r⟩
  · intro r hr hactive
    refine ⟨_, mem_append_of_active w.recount (mem_recount w hr) ?_, goesOnAs_settle w.queues r⟩
    rw [settle_isTerminal]
    exact hactive

theorem continues_complete (hnodup : (w.runs.map (·.seq)).Nodup) (seq : Nat) (outcome : FlowOutcome)
    (now : Instant) : Continues w.runs (w.complete seq outcome now).worker.runs := by
  rw [complete]
  split
  · exact continues_of_mem fun _ hr _ => hr
  next o hfind =>
    split
    · exact continues_of_mem fun _ hr _ => hr
    intro r hr _
    by_cases hseq : r.seq = seq
    · obtain ⟨ho, hoseq⟩ := (find?_seq_eq_some_iff hnodup).1 hfind
      obtain rfl := List.inj_on_of_nodup_map hnodup ho hr (hoseq.trans hseq.symm)
      exact ⟨_, List.mem_map_of_mem hr, by rw [if_pos hseq]; exact ⟨rfl, rfl, rfl⟩⟩
    · exact ⟨_, List.mem_map_of_mem hr, by rw [if_neg hseq]; exact ⟨rfl, rfl, rfl⟩⟩

/-- The run that a submission adds is one of its flow. -/
theorem Adds.goesOnAs {kept : List PreparedRun} (h : w.Adds run (w.submit run now) kept r)
    (hle : ∀ o ∈ w.runs, o.seq ≤ w.lastSeq) : GoesOnAs { run with seq := w.lastSeq + 1 } r := by
  have hlasting : Lasting fun o => o.seq = w.lastSeq + 1 → o.flowId = run.flowId := by
    refine ⟨fun queues o ho hseq => ?_, fun _ _ ho => ho, fun _ _ _ ho => ho⟩
    have hsettled := goesOnAs_settle queues o
    exact hsettled.flowId_eq.trans (ho (hsettled.seq_eq.symm.trans hseq))
  have hold : ∀ o ∈ w.runs, o.seq = w.lastSeq + 1 → o.flowId = run.flowId := by
    intro o ho hseq
    have hseqLe := hle o ho
    omega
  have hnew : ∀ o, Enters run o → o.flowId = run.flowId := by
    intro o ho
    cases ho with
    | waits | ends => rfl
  have hr : r ∈ (w.submit run now).worker.runs := by
    rw [h.runs_eq]
    exact List.mem_append_right _ List.mem_cons_self
  exact ⟨h.seq_eq, hlasting.submit hold (fun o ho _ _ => hnew o ho) now r hr h.seq_eq, h.identity_eq⟩

theorem activeRuns_eq_zero_iff : w.activeRuns = 0 ↔ ∀ r ∈ w.runs, r.state.isTerminal := by
  simp [activeRuns, List.countP_eq_zero]

theorem isTerminal_of_mem_newlyEnded (h : r ∈ newlyEnded before after) : r.state.isTerminal :=
  (Bool.and_eq_true_iff.1 (List.mem_filter.1 h).2).1

theorem not_isPending (h : ∀ o ∈ runs, o.state.isTerminal) (hr : r ∈ runs) : ¬r.state.isPending := by
  intro hpending
  have hterminal := h r hr
  rw [RunState.isTerminal_eq_false hpending] at hterminal
  cases hterminal

theorem Tidies.subset_of_ended (ht : Tidies before after) (h : ∀ o ∈ before, o.state.isTerminal) :
    after ⊆ before := by
  intro r hr
  rcases ht.origin r hr with hmem | ⟨o, ho, -, hpending, -⟩
  · exact hmem
  · exact absurd hpending (not_isPending h ho)

theorem Launches.subset_of_ended (hl : Launches now before after started)
    (h : ∀ o ∈ before, o.state.isTerminal) : after ⊆ before := by
  intro r hr
  rcases hl.mem_or_mem hr with hmem | hmem
  · exact hmem
  · obtain ⟨o, ho, hpending, -⟩ := hl.exists_pending hmem
    exact absurd hpending (not_isPending h ho)

/-- Where all runs have ended, a check starts none. -/
theorem sweep_subset_of_ended (h : ∀ o ∈ w.runs, o.state.isTerminal) (now : Instant) :
    (w.sweep now).worker.runs ⊆ w.runs := by
  have ht := (tidies_clean w now).trans (tidies_recount (w.clean now))
  have hsubset := ht.subset_of_ended h
  have hl := w.launches_sweep now
  exact List.Subset.trans (hl.subset_of_ended fun o ho => h o (hsubset ho)) hsubset

theorem checkRuns_subset_of_ended (h : ∀ o ∈ w.runs, o.state.isTerminal) (now : Instant) :
    (w.checkRuns now).worker.runs ⊆ w.runs :=
  checkRuns_cases w now (fun _ => List.Subset.refl _) fun _ => sweep_subset_of_ended h now

theorem housekeeping_subset (w : Worker) (now : Instant) : (w.react now .housekeeping).worker.runs ⊆ w.runs :=
  housekeeping_cases w now (fun _ => List.Subset.refl _) fun _ => List.filter_sublist.subset

end Worker

namespace WorkerSite

variable {s s' : WorkerSite} {m : WorkerMove} {seq : Nat} {run r : PreparedRun} {settings : WorkerSettings}
  {queues : List Queue} {start : Instant}

/-! ### Every admitted run -/

/-- The run that was submitted under a number is in the list, or it has ended. -/
def Accounts (s : WorkerSite) (seq : Nat) (run : PreparedRun) : Prop :=
  ∃ r, (r ∈ s.worker.runs ∨ r ∈ s.ended) ∧ Worker.GoesOnAs { run with seq } r

theorem Accounts.absorb {step : WorkerStep} (h : s.Accounts seq run)
    (hended : ∀ r ∈ s.worker.runs, r.state.isTerminal → r ∈ s.ended)
    (hcontinues : Worker.Continues s.worker.runs step.worker.runs) : (s.absorb step).Accounts seq run := by
  obtain ⟨r, hr, hgoes⟩ := h
  have hgone (hr : r ∈ s.ended) : (s.absorb step).Accounts seq run :=
    ⟨r, .inr (List.mem_append_left _ hr), hgoes⟩
  rcases hr with hr | hr
  · cases hterminal : r.state.isTerminal with
    | true => exact hgone (hended r hr hterminal)
    | false =>
      obtain ⟨r', hr', hgoes'⟩ := hcontinues r hr hterminal
      exact ⟨r', .inl hr', hgoes.trans hgoes'⟩
  · exact hgone hr

theorem Step.accounts (hm : s.Step m s') (hs : s.Sound) (h : s.Accounts seq run) : s'.Accounts seq run := by
  have hended := hs.ended_of_terminal
  cases hm with
  | submit run' now _ =>
    exact Accounts.absorb (s := s.enlist run' _) h hended (Worker.continues_submit s.worker run' now)
  | updateQueue queue now _ =>
    refine h.absorb hended (Worker.continues_of_mem fun r hr _ => ?_)
    show r ∈ (s.worker.updateQueue queue).worker.runs
    rwa [Worker.updateQueue_runs]
  | housekeeping now _ => exact h.absorb hended (Worker.continues_housekeeping s.worker now)
  | deliver now _ _ => exact Accounts.absorb h hended (Worker.continues_complete hs.seqs_nodup _ _ now)
  | check now _ => exact h.absorb hended (Worker.continues_checkRuns s.worker now)
  | finish _ _ => exact h

theorem Step.mem_admitted (hm : s.Step m s') {a : Nat × PreparedRun} (ha : a ∈ s.admitted) :
    a ∈ s'.admitted := by
  cases hm with
  | submit => exact List.mem_append_left _ ha
  | updateQueue | housekeeping | deliver | check | finish => exact ha

/-- What the record of a submission comes to. -/
theorem enlist_admitted {kept : List PreparedRun} (hs : s.Sound) {now : Instant}
    (h : s.worker.Adds run (s.worker.submit run now) kept r) :
    (s.enlist run (s.worker.submit run now)).admitted = s.admitted ++ [(s.worker.lastSeq + 1, run)] := by
  have hfresh : r.seq ∉ s.worker.runs.map (·.seq) := by
    intro hmem
    obtain ⟨o, ho, hseq⟩ := List.mem_map.1 hmem
    have hle := hs.seq_le o ho
    have hnext := h.seq_eq
    omega
  rw [enlist, h.runs_eq, Worker.newNumbers_append_singleton h.tidies.sublist.subset hfresh, h.seq_eq]
  rfl

/-- A submission that is not refused is admitted under the next number. -/
theorem Step.admits (hs : s.Sound) {now : Instant} (hm : s.Step (.submit run now) s')
    (h : ¬s.worker.Refuses run) : (s.worker.lastSeq + 1, run) ∈ s'.admitted := by
  cases hm with
  | submit run now _ =>
    obtain ⟨kept, r, hadds⟩ := Worker.adds_of_not_refuses h now
    show _ ∈ (s.enlist run (s.worker.submit run now)).admitted
    rw [enlist_admitted hs hadds]
    exact List.mem_append_right _ List.mem_cons_self

theorem Step.accounts_of_admitted (hs : s.Sound) (hm : s.Step m s') {a : Nat × PreparedRun}
    (ha : a ∈ s'.admitted) : a ∈ s.admitted ∨ s'.Accounts a.1 a.2 := by
  cases hm with
  | submit run now _ =>
    obtain ⟨-, ⟨-, -, ht, -⟩ | ⟨kept, r, hadds⟩⟩ := s.worker.submit_cases run now
    · change a ∈ (s.enlist run (s.worker.submit run now)).admitted at ha
      rw [enlist, Worker.newNumbers_eq_nil ht.sublist.subset, List.map_nil, List.append_nil] at ha
      exact .inl ha
    · change a ∈ (s.enlist run (s.worker.submit run now)).admitted at ha
      rw [enlist_admitted hs hadds] at ha
      rcases List.mem_append.1 ha with ha | ha
      · exact .inl ha
      · obtain rfl := List.mem_singleton.1 ha
        refine .inr ⟨r, .inl ?_, hadds.goesOnAs hs.seq_le⟩
        show r ∈ (s.worker.submit run now).worker.runs
        rw [hadds.runs_eq]
        exact List.mem_append_right _ List.mem_cons_self
  | updateQueue | housekeeping | deliver | check | finish => exact .inl ha

/-- Each admitted run is in the list or has ended. -/
theorem Reachable.accounted (h : Reachable settings queues start s) :
    ∀ a ∈ s.admitted, s.Accounts a.1 a.2 := by
  induction h with
  | init => exact List.forall_mem_nil _
  | step hreachable hm ih =>
    intro a ha
    rcases hm.accounts_of_admitted hreachable.sound ha with ha | ha
    · exact hm.accounts hreachable.sound (ih a ha)
    · exact ha

theorem Reachable.terminated_of_ended (h : Reachable settings queues start s) :
    ∀ r ∈ s.ended, r.state = .terminated := by
  induction h with
  | init => exact List.forall_mem_nil _
  | step _ hm ih =>
    cases hm with
    | submit | updateQueue | housekeeping | deliver | check =>
      intro r hr
      rcases List.mem_append.1 hr with hr | hr
      · exact ih r hr
      · exact RunState.eq_terminated (Worker.isTerminal_of_mem_newlyEnded hr)
    | finish => exact ih

/-! ### No active run -/

/-- Whether all runs of the worker have ended. -/
def IsIdle (s : WorkerSite) : Prop := s.worker.activeRuns = 0

/-- Where all runs have ended, nothing is being executed and no feedback is in flight. -/
theorem Sound.nothing_begun (hs : s.Sound) (h : s.IsIdle) : s.executing = [] ∧ s.feedback = [] := by
  have hrunning : Worker.running s.worker.runs = [] := by
    refine List.eq_nil_iff_forall_not_mem.2 fun n hn => ?_
    obtain ⟨r, hr, hstate, -⟩ := Worker.mem_running.1 hn
    have hterminal := Worker.activeRuns_eq_zero_iff.1 h r hr
    rw [hstate] at hterminal
    cases hterminal
  have hnil : s.unprocessed = [] := by
    have hperm := hs.running_perm
    rw [hrunning] at hperm
    exact hperm.nil_eq.symm
  simpa [unprocessed] using hnil

/-- Nothing but a submission makes a run active. -/
theorem Step.isIdle (hs : s.Sound) (h : s.IsIdle) (hm : s.Step m s')
    (hnot : ∀ run now, m ≠ .submit run now) : s'.IsIdle := by
  have hended := Worker.activeRuns_eq_zero_iff.1 h
  obtain ⟨hexecuting, hfeedback⟩ := hs.nothing_begun h
  refine Worker.activeRuns_eq_zero_iff.2 ?_
  cases hm with
  | submit run now _ => exact absurd rfl (hnot run now)
  | updateQueue queue now _ =>
    show ∀ r ∈ (s.worker.updateQueue queue).worker.runs, r.state.isTerminal
    rwa [Worker.updateQueue_runs]
  | housekeeping now _ => exact fun r hr => hended r (Worker.housekeeping_subset s.worker now hr)
  | deliver now _ hsome =>
    rw [hfeedback] at hsome
    cases hsome
  | check now _ => exact fun r hr => hended r (Worker.checkRuns_subset_of_ended hended now hr)
  | finish _ hseq =>
    rw [hexecuting] at hseq
    cases hseq

/-- Where no run is active, each admitted run has ended and its outcome has been saved. -/
theorem Reachable.exists_ended (h : Reachable settings queues start s) (hidle : s.IsIdle)
    {a : Nat × PreparedRun} (ha : a ∈ s.admitted) :
    ∃ r ∈ s.ended, Worker.GoesOnAs { a.2 with seq := a.1 } r ∧ r.state = .terminated ∧
      (r.flowId, r.outcome) ∈ s.saves := by
  obtain ⟨r, hr, hgoes⟩ := h.accounted a ha
  have hended : r ∈ s.ended := by
    rcases hr with hr | hr
    · exact h.sound.ended_of_terminal r hr (Worker.activeRuns_eq_zero_iff.1 hidle r hr)
    · exact hr
  refine ⟨r, hended, hgoes, h.terminated_of_ended r hended, ?_⟩
  rw [h.sound.saves_eq]
  exact List.mem_map.2 ⟨r, hended, rfl⟩

end WorkerSite

end FlowScheduler
