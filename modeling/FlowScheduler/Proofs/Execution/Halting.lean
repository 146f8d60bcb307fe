import Mathlib
import FlowScheduler.Proofs.Execution.Visits

/-!
Executions that come to an end.

Agents settle if they do not report for ever that a task goes on (`AgentBehaviour.Settles`). If no pointer of a run
leads back, its execution does not skip steps for ever either, so it makes as many requests as one likes, unless it
ends (`AgentBehaviour.exists_requests`). But its steps are visited in their order and each at most once
(`Leads.sublist`), which bounds the requests (`AgentBehaviour.requests_le`). So the execution of such a run ends if and
only if the agents settle (`AgentBehaviour.exists_ended_iff`).
-/

namespace FlowScheduler

/-! ### Reports that end the waiting -/

/-- Whether an execution waits for the status of a task. -/
def ExecutionPhase.IsPolling (p : ExecutionPhase) : Prop :=
  ∃ index step attempt remoteId, p = .polling index step attempt remoteId

/-- Whether an execution is to make an attempt or has ended. -/
def ExecutionPhase.IsReady (p : ExecutionPhase) : Prop :=
  (∃ index step attempt, p = .submitting index step attempt) ∨ ∃ result, p = .ended result

theorem ExecutionPhase.IsReady.not_isPolling {p : ExecutionPhase} (h : p.IsReady) : ¬p.IsPolling := by
  rintro ⟨index, step, attempt, remoteId, rfl⟩
  rcases h with ⟨_, _, _, h⟩ | ⟨_, h⟩
  · cases h
  · cases h

/-- An execution that has come to a destination is to make an attempt or has ended, unless the number of attempts at
the step has overflowed. -/
theorem Destination.isReady_reached_or (d : Destination) (r : PreparedRun) (transcript : List TranscriptLine) :
    (d.reached r transcript).phase.IsReady ∨
      ∃ index step, d = .step index ∧ r.stepAt? index = some step ∧
        (d.reached r transcript).phase = .overflowed index step := by
  cases d with
  | finish result => exact .inl (.inr ⟨result, rfl⟩)
  | step target =>
    rw [Destination.reached, Execution.enter]
    dsimp only
    split
    · exact .inl (.inr ⟨.fail, rfl⟩)
    · next step hstep =>
      rcases Execution.firstPhase_cases target step with hphase | ⟨hphase, -⟩
      · exact .inl (.inl ⟨target, step, 1, hphase⟩)
      · exact .inr ⟨target, step, rfl, hstep, hphase⟩

theorem Destination.not_isPolling_reached (d : Destination) (r : PreparedRun) (transcript : List TranscriptLine) :
    ¬(d.reached r transcript).phase.IsPolling := by
  rcases d.isReady_reached_or r transcript with hready | ⟨index, step, -, -, hphase⟩
  · exact hready.not_isPolling
  · rintro ⟨_, _, _, _, h⟩
    cases hphase.symm.trans h

namespace Execution

variable {e : Execution} {report : Except SchedulerError TaskStatus}

theorem not_isPolling_leave (e : Execution) (index : Nat) (step : PreparedStep) (succeeded : Bool) :
    ¬(e.leave index step succeeded).phase.IsPolling := by
  rw [leave, follow_eq]
  exact Destination.not_isPolling_reached _ _ _

theorem not_isPolling_attempted (e : Execution) (index : Nat) (step : PreparedStep) (attempt : Nat)
    (status : TaskStatus) : ¬(e.attempted index step attempt status).phase.IsPolling := by
  rw [attempted]
  split
  · exact not_isPolling_leave _ index step true
  · dsimp only
    split
    · rintro ⟨_, _, _, _, hphase⟩
      cases hphase
    · exact not_isPolling_leave _ index step false

theorem polled_of_isPending (h : IsPending report) : e.polled report = e := by
  obtain ⟨status, rfl, hknown, hgoes⟩ := h
  rw [polled]
  split
  · simp [hknown, hgoes]
  · rfl

theorem not_isPolling_polled (h : e.phase.IsPolling) (hreport : ¬IsPending report) :
    ¬(e.polled report).phase.IsPolling := by
  obtain ⟨index, step, attempt, remoteId, hphase⟩ := h
  obtain ⟨last, hreported⟩ := (isPending_or_isReported remoteId report).resolve_left hreport
  rw [polled, hphase]
  cases hreported with
  | succeeded hknown hended _ | failed hknown hended _ =>
    simpa [hknown, hended] using e.not_isPolling_attempted index step attempt _
  | unknown hunknown =>
    dsimp only
    rw [hunknown, Bool.not_false, if_pos rfl]
    exact not_isPolling_leave _ index step false
  | lost => exact not_isPolling_leave _ index step false

end Execution

namespace AgentBehaviour

variable {σ : Type} {b : AgentBehaviour σ} {r : PreparedRun} {s : σ} {c : Conversation σ} {n m k : Nat}
  {index attempt : Nat} {step : PreparedStep} {remoteId : Int} {result : RunResult}

/-- Whether the agents, sooner or later, report something else about every task than that it goes on. -/
def Settles (b : AgentBehaviour σ) (r : PreparedRun) (s : σ) : Prop :=
  ∀ n index step attempt remoteId,
    (b.converse r s n).execution.phase = .polling index step attempt remoteId →
    ∃ m, n ≤ m ∧ ¬IsPending (b.poll (b.converse r s m).agents step.agent remoteId).1

theorem execution_answer_of_polling (h : c.execution.phase = .polling index step attempt remoteId) :
    (b.answer c).execution = c.execution.polled (b.poll c.agents step.agent remoteId).1 := by
  simp [answer, answer?, h, Execution.take]

theorem converse_of_ended (h : (b.converse r s n).execution.phase = .ended result) (hm : n ≤ m) :
    b.converse r s m = b.converse r s n := by
  induction m, hm using Nat.le_induction with
  | base => rfl
  | succ m hm ih =>
    rw [converse, ih]
    simp [answer, answer?, Execution.skip, h]

/-- As long as a task is reported to go on, nothing happens. -/
theorem execution_eq_of_isPending
    (h : (b.converse r s n).execution.phase = .polling index step attempt remoteId) (hm : n ≤ m)
    (hpending : ∀ k, n ≤ k → k < m → IsPending (b.poll (b.converse r s k).agents step.agent remoteId).1) :
    (b.converse r s m).execution = (b.converse r s n).execution := by
  induction m, hm using Nat.le_induction with
  | base => rfl
  | succ m hm ih =>
    have hsame := ih fun k hk hlt => hpending k hk (Nat.lt_succ_of_lt hlt)
    rw [converse, execution_answer_of_polling (by rw [hsame, h]),
      Execution.polled_of_isPending (hpending m hm (Nat.lt_succ_self m)), hsame]

theorem exists_not_isPolling (h : b.Settles r s) (n : Nat) :
    ∃ m, n ≤ m ∧ ¬(b.converse r s m).execution.phase.IsPolling := by
  classical
  by_cases hpolling : (b.converse r s n).execution.phase.IsPolling
  · obtain ⟨index, step, attempt, remoteId, hphase⟩ := hpolling
    have hexists := h n index step attempt remoteId hphase
    -- until the first such report the same task is asked for
    obtain ⟨hle, hreport⟩ := Nat.find_spec hexists
    have hsame := execution_eq_of_isPending hphase hle fun k hk hlt =>
      not_not.1 fun hno => Nat.find_min hexists hlt ⟨hk, hno⟩
    rw [← hsame] at hphase
    refine ⟨Nat.find hexists + 1, Nat.le_succ_of_le hle, ?_⟩
    rw [converse, execution_answer_of_polling hphase]
    exact Execution.not_isPolling_polled ⟨index, step, attempt, remoteId, hphase⟩ hreport
  · exact ⟨n, Nat.le_refl n, hpolling⟩

theorem settles_of_ended (h : (b.converse r s n).execution.phase = .ended result) : b.Settles r s := by
  intro m index step attempt remoteId hphase
  by_contra hnever
  have hsame := execution_eq_of_isPending hphase (Nat.le_max_left m n) fun k hk _ =>
    not_not.1 fun hno => hnever ⟨k, hk, hno⟩
  rw [converse_of_ended h (Nat.le_max_right m n)] at hsame
  rw [← hsame, h] at hphase
  cases hphase

end AgentBehaviour

/-! ### Requests -/

/-- Whether an answer is the reply to a request. -/
def AgentAnswer.isReply : AgentAnswer → Bool
  | .submitted _ => true
  | .polled _ => false

/-- How many requests have been answered in a conversation. -/
def Conversation.requests {σ : Type} (c : Conversation σ) : Nat := c.answers.countP AgentAnswer.isReply

namespace AgentBehaviour

variable {σ : Type} {b : AgentBehaviour σ} {r : PreparedRun} {s : σ} {c : Conversation σ} {n m k : Nat}
  {index attempt : Nat} {step : PreparedStep}

theorem requests_le_answer (b : AgentBehaviour σ) (c : Conversation σ) : c.requests ≤ (b.answer c).requests := by
  rcases b.answer_cases c with ⟨-, hsame⟩ | ⟨-, hnext⟩ | ⟨a, s, -, hnext⟩
  · rw [hsame]
  · rw [hnext]
    exact Nat.le_refl _
  · rw [hnext, Conversation.requests, Conversation.requests, List.countP_append]
    exact Nat.le_add_right _ _

theorem requests_answer_of_submitting (h : c.execution.phase = .submitting index step attempt) :
    (b.answer c).requests = c.requests + 1 := by
  simp [answer, answer?, h, Conversation.requests, AgentAnswer.isReply]

theorem requests_mono (b : AgentBehaviour σ) (r : PreparedRun) (s : σ) :
    Monotone fun n => (b.converse r s n).requests :=
  monotone_nat_of_le_succ fun n => b.requests_le_answer (b.converse r s n)

end AgentBehaviour

theorem Visit.countP_answers (v : Visit) : v.answers.countP AgentAnswer.isReply = v.attempts.length := by
  have hone (t : Attempt) : t.answers.countP AgentAnswer.isReply = 1 := by
    rw [Attempt.answers, List.countP_cons_of_pos rfl, List.countP_map]
    exact Nat.succ_inj.2 (List.countP_eq_zero.2 fun _ _ => Bool.false_ne_true)
  simp [Visit.answers, List.countP_flatMap, Function.comp_def, hone]

/-! ### Runs that do not go back -/

/-- Whether no pointer of a run leads to its own step or an earlier one. -/
def PreparedRun.IsForward (r : PreparedRun) : Prop :=
  ∀ index step, r.stepAt? index = some step →
    ∀ succeeded target, step.pointer succeeded = .goto target → index < target

/-- How many steps of a run with so many lie before a destination. -/
def Destination.position (count : Nat) : Destination → Nat
  | .step index => index - 1
  | .finish _ => count

variable {r : PreparedRun} {past : List Visit} {current : Option Visit} {v : Visit} {e : Execution}
  {d : Destination} {index : Nat} {step : PreparedStep}

theorem PreparedRun.IsForward.le_position (hr : r.IsForward) (h : r.stepAt? index = some step)
    (succeeded : Bool) :
    index ≤ ((step.pointer succeeded).destination index r.steps.length).position r.steps.length := by
  obtain ⟨-, hle, -⟩ := PreparedRun.stepAt?_eq_some_iff.1 h
  cases hpointer : step.pointer succeeded with
  | fail => exact hle
  | sequential =>
    rw [NextStep.destination]
    split
    · exact hle
    · exact Nat.le_refl index
  | goto target =>
    have hlt := hr index step h succeeded target hpointer
    exact Nat.le_sub_one_of_lt hlt

theorem sublist_concat (h : (past.map Visit.step).Sublist (r.steps.take (v.index - 1)))
    (hstep : r.stepAt? v.index = some v.step) :
    ((past ++ [v]).map Visit.step).Sublist (r.steps.take v.index) := by
  obtain ⟨hpos, -, hget⟩ := PreparedRun.stepAt?_eq_some_iff.1 hstep
  have htake : r.steps.take v.index = r.steps.take (v.index - 1) ++ [v.step] := by
    conv_lhs => rw [← Nat.sub_add_cancel hpos]
    rw [List.take_add_one, hget, Option.toList_some]
  rw [htake, List.map_append]
  exact h.append (List.Sublist.refl _)

/-- The visited steps are some of those before the destination, in their order. -/
theorem Leads.sublist (h : Leads r past d) (hr : r.IsForward) :
    (past.map Visit.step).Sublist (r.steps.take (d.position r.steps.length)) := by
  induction h with
  | start => exact List.nil_sublist _
  | visit _ hstep _ ih =>
    exact (sublist_concat ih hstep).trans (List.take_sublist_take_left (hr.le_position hstep _))

theorem Retraces.sublist (h : Retraces r past current e) (hr : r.IsForward) :
    ((past ++ current.toList).map Visit.step).Sublist r.steps := by
  cases h with
  | visiting hleads hstep _ => exact (sublist_concat (hleads.sublist hr) hstep).trans (List.take_sublist _ _)
  | ended hleads | astray hleads _ =>
    rw [Option.toList_none, List.append_nil]
    exact (hleads.sublist hr).trans (List.take_sublist _ _)

theorem Retraces.stepAt?_of_overflowed (h : Retraces r past current e) (hphase : e.phase = .overflowed index step) :
    e.run = r ∧ r.stepAt? index = some step := by
  cases h with
  | visiting _ hstep hgoes =>
    cases hgoes with
    | submitting | polling => cases hphase
    | overflowed =>
      cases hphase
      exact ⟨rfl, hstep⟩
  | ended | astray => cases hphase

namespace AgentBehaviour

variable {σ : Type} {b : AgentBehaviour σ} {s : σ} {n : Nat}

/-- A step that is skipped is followed by a later one, if by any, so steps are not skipped for ever. -/
theorem exists_ready_of_overflowed (hr : r.IsForward)
    (h : (b.converse r s n).execution.phase = .overflowed index step) :
    ∃ m, n ≤ m ∧ (b.converse r s m).execution.phase.IsReady := by
  induction hk : r.steps.length - index using Nat.strong_induction_on generalizing n index step with
  | _ k ih =>
    obtain ⟨past, current, hretraces, -⟩ := b.retraces_converse r s n
    obtain ⟨hrun, hstep⟩ := hretraces.stepAt?_of_overflowed h
    have hnext : (b.converse r s (n + 1)).execution =
        ((step.pointer false).destination index r.steps.length).reached r
          (b.converse r s n).execution.transcript := by
      rw [converse, b.answer_of_overflowed h, Execution.skip_of_overflowed h, Execution.leave_eq, hrun]
    rcases Destination.isReady_reached_or _ r (b.converse r s n).execution.transcript with
      hready | ⟨target, step', hdestination, hstep', hphase⟩
    · rw [← hnext] at hready
      exact ⟨n + 1, Nat.le_succ n, hready⟩
    · rw [← hnext] at hphase
      have hposition := hr.le_position hstep false
      rw [hdestination, Destination.position] at hposition
      obtain ⟨hpos, hle, -⟩ := PreparedRun.stepAt?_eq_some_iff.1 hstep'
      obtain ⟨m, hm, hready⟩ := ih (r.steps.length - target) (by omega) hphase rfl
      exact ⟨m, Nat.le_of_succ_le hm, hready⟩

theorem exists_ready (hr : r.IsForward) (h : b.Settles r s) (n : Nat) :
    ∃ m, n ≤ m ∧ (b.converse r s m).execution.phase.IsReady := by
  obtain ⟨m, hm, hpolling⟩ := exists_not_isPolling h n
  cases hphase : (b.converse r s m).execution.phase with
  | submitting index step attempt =>
    exact ⟨m, hm, .inl ⟨index, step, attempt, hphase⟩⟩
  | polling index step attempt remoteId => exact absurd ⟨index, step, attempt, remoteId, hphase⟩ hpolling
  | overflowed index step =>
    obtain ⟨m', hm', hready⟩ := exists_ready_of_overflowed hr hphase
    exact ⟨m', hm.trans hm', hready⟩
  | ended result => exact ⟨m, hm, .inr ⟨result, hphase⟩⟩

/-- An execution with agents that settle ends, or makes as many requests as one likes. -/
theorem exists_requests (hr : r.IsForward) (h : b.Settles r s) (k : Nat) :
    ∃ n, (∃ result, (b.converse r s n).execution.phase = .ended result) ∨
      k ≤ (b.converse r s n).requests := by
  induction k with
  | zero => exact ⟨0, .inr (Nat.zero_le _)⟩
  | succ k ih =>
    obtain ⟨n, hended | hk⟩ := ih
    · exact ⟨n, .inl hended⟩
    obtain ⟨m, hm, ⟨index, step, attempt, hphase⟩ | hended⟩ := exists_ready hr h n
    · have hle : k ≤ (b.converse r s m).requests := hk.trans (b.requests_mono r s hm)
      refine ⟨m + 1, .inr ?_⟩
      rw [converse, requests_answer_of_submitting hphase]
      exact Nat.succ_le_succ hle
    · exact ⟨m, .inl hended⟩

theorem requests_le (hr : r.IsForward) (n : Nat) :
    (b.converse r s n).requests ≤ (r.steps.map PreparedStep.attempts).sum := by
  obtain ⟨past, current, hretraces, hanswers⟩ := b.retraces_converse r s n
  let visits := past ++ current.toList
  calc (b.converse r s n).requests
    _ = (visits.map fun v => v.attempts.length).sum := by
      rw [Conversation.requests, hanswers, List.countP_flatMap]
      exact congrArg List.sum (List.map_congr_left fun v _ => v.countP_answers)
    _ ≤ (visits.map fun v => v.step.attempts).sum := List.sum_le_sum fun v hv => (hretraces.bounds v hv).2.1
    _ = ((visits.map Visit.step).map PreparedStep.attempts).sum := by
      rw [List.map_map]
      rfl
    _ ≤ (r.steps.map PreparedStep.attempts).sum :=
      ((hretraces.sublist hr).map _).sum_le_sum fun _ _ => Nat.zero_le _

/-- The execution of a run that does not go back ends if and only if the agents settle. -/
theorem exists_ended_iff (hr : r.IsForward) :
    (∃ n result, (b.converse r s n).execution.phase = .ended result) ↔ b.Settles r s := by
  constructor
  · rintro ⟨n, result, hended⟩
    exact settles_of_ended hended
  · intro hsettles
    obtain ⟨n, hended | hlt⟩ := exists_requests hr hsettles ((r.steps.map PreparedStep.attempts).sum + 1)
    · exact ⟨n, hended⟩
    · exact absurd (requests_le hr n) (Nat.not_le.2 hlt)

end AgentBehaviour

end FlowScheduler
