import Mathlib
import FlowScheduler.Proofs.Execution.Linear

/-!
Runs that do not go back.

A line of the transcript tells that a step begins, so the positions that an execution has visited can be read off
the transcript (`Execution.visited`), and they are those of its visits (`Retraces.visited_eq`). If no pointer of a run
leads back, each position lies before the next one (`Leads.ascending`), so the run halts once its agents settle
(`AgentBehaviour.forward_halts`).
-/

namespace FlowScheduler

/-! ### Positions in the transcript -/

/-- The position of the step that begins with a line. -/
def TranscriptLine.startedAt? : TranscriptLine → Option Nat
  | .started index _ => some index
  | _ => none

/-- The positions that an execution has visited, one after the other. -/
def Execution.visited (e : Execution) : List Nat := e.transcript.filterMap TranscriptLine.startedAt?

namespace Visit

variable {v : Visit} {failures : List Failure} {latest : List Attempt} {closing : List TranscriptLine}
  {phase : ExecutionPhase}

theorem Consists.filterMap_startedAt? (h : v.Consists failures latest closing)
    (hclosing : closing.filterMap TranscriptLine.startedAt? = []) :
    v.lines.filterMap TranscriptLine.startedAt? = [v.index] := by
  have hfailures : (failures.mapIdx fun k f => TranscriptLine.failed v.index (k + 1) v.step.attempts
      f.status.durationMs f.status.resultInfo).filterMap TranscriptLine.startedAt? = [] := by
    rw [List.filterMap_eq_nil_iff]
    intro line hline
    obtain ⟨k, hk, rfl⟩ := List.mem_mapIdx.1 hline
    rfl
  rw [h.lines, List.filterMap_append, hclosing, List.append_nil, opening]
  exact congrArg (v.index :: ·) hfailures

theorem Goes.filterMap_startedAt? (h : v.Goes phase) :
    v.lines.filterMap TranscriptLine.startedAt? = [v.index] := by
  cases h with
  | submitting h _ | polling h _ _ | overflowed h _ => exact h.filterMap_startedAt? rfl

theorem Ends.filterMap_startedAt? (h : v.Ends) :
    v.lines.filterMap TranscriptLine.startedAt? = [v.index] := by
  cases h with
  | succeeded h _ _ | errored h _ _ | exhausted h _ _ | skipped h _ => exact h.filterMap_startedAt? rfl

end Visit

variable {r : PreparedRun} {past : List Visit} {current : Option Visit} {e : Execution} {d : Destination}

theorem Leads.filterMap_startedAt? (h : Leads r past d) :
    (past.flatMap Visit.lines).filterMap TranscriptLine.startedAt? = past.map Visit.index := by
  induction h with
  | start => rfl
  | visit _ _ hends ih =>
    rw [List.flatMap_append, List.filterMap_append, ih, List.flatMap_singleton, hends.filterMap_startedAt?,
      List.map_append, List.map_singleton]

theorem Retraces.visited_eq (h : Retraces r past current e) :
    e.visited = (past ++ current.toList).map Visit.index := by
  rw [Execution.visited, List.map_append]
  cases h with
  | visiting hleads _ hgoes =>
    rw [List.filterMap_append, hleads.filterMap_startedAt?, hgoes.filterMap_startedAt?]
    rfl
  | ended hleads => rw [hleads.filterMap_startedAt?, Option.toList_none, List.map_nil, List.append_nil]
  | astray hleads _ =>
    rw [List.filterMap_append, hleads.filterMap_startedAt?]
    rfl

/-! ### Runs that do not go back -/

/-- One more visit, at a position that no earlier visit has reached. -/
theorem ascending_concat {v : Visit} (h : (past.map Visit.index).Pairwise (· < ·))
    (hbefore : ∀ u ∈ past, u.index ≤ v.index - 1) (hstep : r.stepAt? v.index = some v.step) :
    ((past ++ [v]).map Visit.index).Pairwise (· < ·) ∧ ∀ u ∈ past ++ [v], u.index ≤ v.index := by
  have hpos := (PreparedRun.stepAt?_eq_some_iff.1 hstep).1
  have hlt : ∀ u ∈ past, u.index < v.index := fun u hu => by
    have hle := hbefore u hu
    omega
  refine ⟨?_, fun u hu => ?_⟩
  · rw [List.map_append, List.pairwise_append]
    refine ⟨h, List.pairwise_singleton _ _, fun index hindex next hnext => ?_⟩
    obtain ⟨u, hu, rfl⟩ := List.mem_map.1 hindex
    rw [List.mem_singleton.1 hnext]
    exact hlt u hu
  · rcases List.mem_append.1 hu with hu | hu
    · exact (hlt u hu).le
    · rw [List.mem_singleton.1 hu]

/-- Each visit is at a later position than the one before, and the destination lies behind them. -/
theorem Leads.ascending (h : Leads r past d) (hr : r.IsForward) :
    (past.map Visit.index).Pairwise (· < ·) ∧ ∀ v ∈ past, v.index ≤ d.position r.steps.length := by
  induction h with
  | start => exact ⟨.nil, List.forall_mem_nil _⟩
  | visit _ hstep _ ih =>
    obtain ⟨hascending, hbefore⟩ := ascending_concat ih.1 ih.2 hstep
    exact ⟨hascending, fun u hu => (hbefore u hu).trans (hr.le_position hstep _)⟩

theorem Retraces.ascending (h : Retraces r past current e) (hr : r.IsForward) :
    ((past ++ current.toList).map Visit.index).Pairwise (· < ·) := by
  cases h with
  | visiting hleads hstep _ =>
    obtain ⟨hascending, hbefore⟩ := hleads.ascending hr
    exact (ascending_concat hascending hbefore hstep).1
  | ended hleads | astray hleads _ =>
    rw [Option.toList_none, List.append_nil]
    exact (hleads.ascending hr).1

namespace AgentBehaviour

variable {σ : Type} {b : AgentBehaviour σ} {s : σ}

/-- The execution of a run that does not go back halts if its agents settle. At any time it has visited steps of the
run, each at a later position than the one before, and has made at most as many requests as all steps together may be
attempted. -/
theorem forward_halts (hr : r.IsForward) :
    (b.Settles r s → ∃ n outcome, (b.converse r s n).execution.outcome? = some outcome ∧
      ∀ m, n ≤ m → b.converse r s m = b.converse r s n) ∧
    ∀ n, (b.converse r s n).execution.visited.Pairwise (· < ·) ∧
      (∀ index ∈ (b.converse r s n).execution.visited, ∃ step, r.stepAt? index = some step) ∧
      (b.converse r s n).requests ≤ (r.steps.map fun step => step.retry + 1).sum := by
  refine ⟨fun hsettles => ?_, fun n => ?_⟩
  · obtain ⟨n, result, hended⟩ := (exists_ended_iff hr).2 hsettles
    obtain ⟨outcome, houtcome, -⟩ := Execution.exists_outcome hended
    exact ⟨n, outcome, houtcome, fun m hm => converse_of_ended hended hm⟩
  · obtain ⟨past, current, hretraces, -⟩ := b.retraces_converse r s n
    rw [hretraces.visited_eq]
    have hsum : (r.steps.map PreparedStep.attempts).sum ≤ (r.steps.map fun step => step.retry + 1).sum :=
      List.sum_le_sum fun step _ => step.attempts_le
    refine ⟨hretraces.ascending hr, fun index hindex => ?_, (requests_le hr n).trans hsum⟩
    obtain ⟨v, hv, rfl⟩ := List.mem_map.1 hindex
    exact ⟨v.step, (hretraces.bounds v hv).1⟩

end AgentBehaviour

/-! ### A run with branches -/

private def branchingStep (command : String) (nextOnOk nextOnFail : NextStep) (retry : Nat) : PreparedStep where
  index := 0
  task := { id := 10, name := command, kind := .command command [] "" }
  agent := { id := 2, host := "http://agent-2", apiKey := "" }
  nextOnOk
  nextOnFail
  retry

/-- A failed build is followed by the cleanup, which leads past the last step. -/
private def branching : PreparedRun :=
  { PreparedRun.ofTrigger 1 "build" (.manual "operator" (.utc .epoch)) with
    steps := [branchingStep "build" .sequential (.goto 3) 1, branchingStep "publish" .sequential .fail 0,
      branchingStep "cleanup" (.goto 9) .fail 0] }

/-- The build fails twice. -/
private def broken : ScriptedAgent where
  script := [("build", [.accept [.ok { onRegister := true }, .ok { onRegister := true, terminated := true }],
    .accept [.ok { onRegister := true, terminated := true }]])]

theorem forward_halts_of_branching :
    branching.IsForward ∧ ScriptedAgent.behaviour.Settles branching broken ∧
      (∃ n outcome, (ScriptedAgent.behaviour.converse branching broken n).execution.outcome? = some outcome) ∧
      (ScriptedAgent.behaviour.converse branching broken 8).execution.visited = [1, 3] ∧
      [1, 3].Pairwise (· < ·) ∧ (ScriptedAgent.behaviour.converse branching broken 8).requests = 3 ∧ 3 ≤ 4 := by
  have hforward : branching.IsForward := by
    intro index step hstep succeeded target htarget
    obtain ⟨hpos, hle, hget⟩ := PreparedRun.stepAt?_eq_some_iff.1 hstep
    obtain rfl | rfl | rfl : index = 1 ∨ index = 2 ∨ index = 3 := by
      have hle : index ≤ 3 := hle
      omega
    · cases hget
      cases succeeded <;> cases htarget
      decide
    · cases hget
      cases succeeded <;> cases htarget
    · cases hget
      cases succeeded <;> cases htarget
      decide
  have hended : (ScriptedAgent.behaviour.converse branching broken 8).execution.phase = .ended .fail := by decide
  have hsettles := AgentBehaviour.settles_of_ended hended
  obtain ⟨hhalts, hbounds⟩ := AgentBehaviour.forward_halts hforward
  obtain ⟨n, outcome, houtcome, -⟩ := hhalts hsettles
  obtain ⟨hascending, -, hrequests⟩ := hbounds 8
  have hvisited : (ScriptedAgent.behaviour.converse branching broken 8).execution.visited = [1, 3] := by decide
  have hcount : (ScriptedAgent.behaviour.converse branching broken 8).requests = 3 := by decide
  rw [hvisited] at hascending
  rw [hcount] at hrequests
  exact ⟨hforward, hsettles, ⟨n, outcome, houtcome⟩, hvisited, hascending, hcount, hrequests⟩

end FlowScheduler
