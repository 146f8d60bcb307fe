import Mathlib
import FlowScheduler.Proofs.Execution.Halting
import FlowScheduler.Simulation.ScriptedAgent

/-!
Runs that go from step to step.

In a linear run a step that has succeeded is followed by the next one, and one that has not ends the run
(`Leads.walks`). So its execution visits the steps from the first one on until one does not succeed, and it ends well
if and only if each step recovers from its failures (`AgentBehaviour.linear_succeeds_iff`).
-/

namespace FlowScheduler

/-- Whether a run has steps, each of which is followed by the next one if it succeeds and ends the run otherwise. -/
structure PreparedRun.IsLinear (r : PreparedRun) : Prop where
  ne_nil : r.steps ≠ []
  nextOnOk : ∀ step ∈ r.steps, step.nextOnOk = .sequential
  nextOnFail : ∀ step ∈ r.steps, step.nextOnFail = .fail

/-- Whether a visit recovers from its failures: one of the attempts that may be made has succeeded, and no error has
ended one before. -/
def Visit.Recovers (v : Visit) : Prop :=
  ∃ before t after status, v.attempts = before ++ t :: after ∧ before.length < v.step.attempts ∧
    t.EndsAs (.succeeded status) ∧ ∀ u ∈ before, ∀ error, ¬u.EndsAs (.errored error)

theorem Visit.Ends.recovers_iff {v : Visit} (h : v.Ends) : v.Recovers ↔ v.endsWell := by
  constructor
  · rintro ⟨before, t, after, status, hattempts, -, hended, -⟩
    have hmem : t ∈ v.attempts := by simp [hattempts]
    exact h.endsWell_iff.2 ⟨t, hmem, status, hended⟩
  · intro hwell
    cases h with
    | @succeeded failures last status h hlt hended =>
      refine ⟨failures.map Failure.attempt, last, [], status, h.attempts, by simpa using hlt, hended, ?_⟩
      intro u hu error herror
      obtain ⟨f, -, rfl⟩ := List.mem_map.1 hu
      cases f.ended.unique herror
    | errored h _ _ | exhausted h _ _ => exact absurd hwell (ne_true_of_eq_false h.endsWell_eq)
    | skipped h _ => exact absurd hwell (ne_true_of_eq_false h.endsWell_of_skipped)

theorem Visit.Ends.attempts_ne_nil {v : Visit} (h : v.Ends) (hcounted : v.step.retry + 1 < Word.nat32End) :
    v.attempts ≠ [] := by
  cases h with
  | succeeded h _ _ | errored h _ _ =>
    rw [h.attempts]
    exact List.append_ne_nil_of_right_ne_nil _ (List.cons_ne_nil _ _)
  | @exhausted failures last h _ hlast =>
    intro hnil
    rw [h.attempts, List.append_nil, List.map_eq_nil_iff] at hnil
    rw [hnil] at hlast
    cases hlast
  | skipped _ hnone =>
    rw [PreparedStep.attempts_of_lt hcounted] at hnone
    cases hnone

theorem Execution.exists_outcome {e : Execution} {result : RunResult} (h : e.phase = .ended result) :
    ∃ outcome, e.outcome? = some outcome ∧ outcome.result = result := by
  rw [outcome?, h]
  exact ⟨_, rfl, rfl⟩

/-! ### One step after the other -/

variable {r : PreparedRun} {past : List Visit} {current : Option Visit} {v : Visit} {e : Execution}
  {d : Destination} {result : RunResult}

theorem PreparedRun.IsLinear.isForward (hr : r.IsLinear) : r.IsForward := by
  intro index step hstep succeeded target hpointer
  have hmem := PreparedRun.mem_steps_of_stepAt? hstep
  cases succeeded with
  | true => cases (hr.nextOnOk step hmem).symm.trans hpointer
  | false => cases (hr.nextOnFail step hmem).symm.trans hpointer

/-- Where a linear run goes after these visits: on as long as all have ended well, and then to the end. -/
inductive Walks (r : PreparedRun) (past : List Visit) (d : Destination) : Prop where
  | on : (∀ v ∈ past, v.endsWell) → past.length < r.steps.length → d = .step (past.length + 1) →
      Walks r past d
  | done : (∀ v ∈ past, v.endsWell) → past.length = r.steps.length → d = .finish .ok → Walks r past d
  | failed {before : List Visit} {last : Visit} : past = before ++ [last] → (∀ v ∈ before, v.endsWell) →
      last.endsWell = false → d = .finish .fail → Walks r past d

theorem Leads.walks (h : Leads r past d) (hr : r.IsLinear) :
    past.map Visit.index = List.range' 1 past.length ∧ past.length ≤ r.steps.length ∧ Walks r past d := by
  induction h with
  | start => exact ⟨rfl, Nat.zero_le _, .on (List.forall_mem_nil _) (List.length_pos_iff.2 hr.ne_nil) rfl⟩
  | @visit past v _ hstep hends ih =>
    obtain ⟨hindices, -, hwalks⟩ := ih
    cases hwalks with
    -- a run that is at its end visits no step any more
    | done _ _ heq | failed _ _ _ heq => cases heq
    | on hwell hlt heq =>
      injection heq with hindex
      have hmem := PreparedRun.mem_steps_of_stepAt? hstep
      refine ⟨?_, by simpa using hlt, ?_⟩
      · rw [List.map_append, hindices, List.length_append, List.length_singleton, List.range'_1_concat]
        simp [hindex, Nat.add_comm]
      · cases hv : v.endsWell with
        | false =>
          refine .failed rfl hwell hv ?_
          rw [PreparedStep.pointer, if_neg Bool.false_ne_true, hr.nextOnFail _ hmem, NextStep.destination]
        | true =>
          have hall : ∀ u ∈ past ++ [v], u.endsWell := by
            intro u hu
            rcases List.mem_append.1 hu with hu | hu
            · exact hwell u hu
            · rw [List.mem_singleton.1 hu, hv]
          rw [PreparedStep.pointer, if_pos rfl, hr.nextOnOk _ hmem, NextStep.destination, hindex]
          split
          · next hle => exact .done hall (by simp; omega) rfl
          · next hnot => exact .on hall (by simp; omega) (by simp)

/-- A linear run that has ended has gone from step to step until all or one that has not succeeded. -/
theorem Retraces.walks (h : Retraces r past current e) (hr : r.IsLinear) (hended : e.phase = .ended result) :
    current = none ∧ past.map Visit.index = List.range' 1 past.length ∧ past.length ≤ r.steps.length ∧
      Walks r past (.finish result) := by
  cases h with
  | visiting _ _ hgoes =>
    cases hended
    cases hgoes
  | ended hleads =>
    cases hended
    exact ⟨rfl, hleads.walks hr⟩
  | astray hleads hnone =>
    -- as long as a linear run goes on, there is a next step
    obtain ⟨-, -, hwalks⟩ := hleads.walks hr
    cases hwalks with
    | on _ hlt heq =>
      cases heq
      obtain ⟨step, hstep⟩ := PreparedRun.exists_stepAt? (Nat.succ_pos past.length) hlt
      cases hnone.symm.trans hstep
    | done _ _ heq | failed _ _ _ heq => cases heq

/-- A linear run that has ended has ended well if and only if every step was visited and has recovered. -/
theorem Walks.result_iff (h : Walks r past (.finish result))
    (hends : ∀ v ∈ past, r.stepAt? v.index = some v.step ∧ v.Ends)
    (hindices : past.map Visit.index = List.range' 1 past.length) :
    (result = .ok ↔
        ∀ index step, r.stepAt? index = some step → ∃ v ∈ past, v.index = index ∧ v.Recovers) ∧
      (result ≠ .ok → result = .fail ∧
        ∃ before last, past = before ++ [last] ∧ ¬last.Recovers ∧ ∀ v ∈ before, v.Recovers) := by
  have hrecovers (v : Visit) (hv : v ∈ past) : v.Recovers ↔ v.endsWell := (hends v hv).2.recovers_iff
  cases h with
  | on _ _ heq => cases heq
  | done hwell hall heq =>
    cases heq
    refine ⟨iff_of_true rfl fun index step hstep => ?_, fun hne => absurd rfl hne⟩
    obtain ⟨hpos, hle, -⟩ := PreparedRun.stepAt?_eq_some_iff.1 hstep
    have hmem : index ∈ past.map Visit.index := by
      rw [hindices, List.mem_range'_1]
      omega
    obtain ⟨v, hv, hindex⟩ := List.mem_map.1 hmem
    exact ⟨v, hv, hindex, (hrecovers v hv).2 (hwell v hv)⟩
  | @failed before last heq hwell hlast hfail =>
    cases hfail
    have hmem : last ∈ past := by simp [heq]
    have hno : ¬last.Recovers := by simp [hrecovers last hmem, hlast]
    refine ⟨iff_of_false nofun fun hall => ?_, fun _ => ⟨rfl, before, last, heq, hno, fun v hv => ?_⟩⟩
    · -- the step of the last visit is visited only once
      obtain ⟨v, hv, hindex, hv'⟩ := hall last.index last.step (hends last hmem).1
      have hdistinct : (past.map Visit.index).Nodup := by
        rw [hindices]
        exact List.nodup_range'
      cases List.inj_on_of_nodup_map hdistinct hv hmem hindex
      exact hno hv'
    · exact (hrecovers v (by simp [heq, hv])).2 (hwell v hv)

namespace AgentBehaviour

variable {σ : Type} {b : AgentBehaviour σ} {s : σ}

/-- With agents that settle, the execution of a linear run ends, and nothing is asked for afterwards. Its visits are
those of the first steps in their order, with at least one request each unless the number of attempts overflows. It
ends well if and only if every step is visited and recovers from its failures; otherwise it fails, and the last visit
is the only one that does not. -/
theorem linear_succeeds_iff (hr : r.IsLinear) (hsettles : b.Settles r s) :
    ∃ n outcome visits, (b.converse r s n).execution.outcome? = some outcome ∧
      (∀ m, n ≤ m → b.converse r s m = b.converse r s n) ∧
      Retraces r visits none (b.converse r s n).execution ∧
      (b.converse r s n).answers = visits.flatMap Visit.answers ∧
      visits.map Visit.index = List.range' 1 visits.length ∧ visits.length ≤ r.steps.length ∧
      (∀ v ∈ visits, r.stepAt? v.index = some v.step ∧
        (v.step.retry + 1 < Word.nat32End → v.attempts ≠ [])) ∧
      (outcome.result = .ok ↔
        ∀ index step, r.stepAt? index = some step → ∃ v ∈ visits, v.index = index ∧ v.Recovers) ∧
      (outcome.result ≠ .ok → outcome.result = .fail ∧
        ∃ before last, visits = before ++ [last] ∧ ¬last.Recovers ∧ ∀ v ∈ before, v.Recovers) := by
  obtain ⟨n, result, hended⟩ := (exists_ended_iff hr.isForward).2 hsettles
  obtain ⟨visits, current, hretraces, hanswers⟩ := b.retraces_converse r s n
  obtain ⟨rfl, hindices, hlength, hwalks⟩ := hretraces.walks hr hended
  obtain ⟨d, hleads⟩ := hretraces.leads
  obtain ⟨outcome, houtcome, rfl⟩ := Execution.exists_outcome hended
  rw [Option.toList_none, List.append_nil] at hanswers
  refine ⟨n, outcome, visits, houtcome, fun m hm => converse_of_ended hended hm, hretraces, hanswers, hindices,
    hlength, fun v hv => ?_, hwalks.result_iff hleads.ends hindices⟩
  obtain ⟨hstep, hends⟩ := hleads.ends v hv
  exact ⟨hstep, hends.attempts_ne_nil⟩

end AgentBehaviour

/-! ### Scripted agents, and a run that fails at its second step -/

/-- How a scripted agent behaves. -/
def ScriptedAgent.behaviour : AgentBehaviour ScriptedAgent where
  submit a agent request := (a.submit agent.id request).swap
  poll a _ remoteId := (a.poll remoteId).swap

/-- A scripted agent serves an execution as its behaviour goes on with the conversation, until the run has ended. -/
theorem Execution.serve_eq (c : Conversation ScriptedAgent) :
    c.execution.serve c.agents =
      if c.execution.outcome?.isSome then none
      else some ((ScriptedAgent.behaviour.answer c).execution, (ScriptedAgent.behaviour.answer c).agents) := by
  obtain ⟨⟨run, transcript, phase⟩, a, answers⟩ := c
  cases phase with
  | submitting | polling | overflowed | ended => rfl

private def stepOf (command : String) : PreparedStep where
  index := 0
  task := { id := 10, name := command, kind := .command command [] "" }
  agent := { id := 2, host := "http://agent-2", apiKey := "" }
  nextOnOk := .sequential
  nextOnFail := .fail
  retry := 1

private def nightly : PreparedRun :=
  { PreparedRun.ofTrigger 1 "nightly" (.manual "operator" (.utc .epoch)) with
    steps := [stepOf "fetch", stepOf "load", stepOf "report"] }

private def told (terminated : Bool) : Except SchedulerError TaskStatus :=
  .ok { onRegister := true, terminated }

/-- Fetching fails once; loading fails once and is then forgotten. -/
private def forgetful : ScriptedAgent where
  script := [("fetch", [.accept [told false, told true], .accept []]),
    ("load", [.accept [told true], .accept [.ok {}]])]

/-- The first step recovers, the second does not, and the third is not visited. -/
theorem linear_succeeds_iff_at_forgotten_task :
    nightly.IsLinear ∧ ScriptedAgent.behaviour.Settles nightly forgetful ∧
      (ScriptedAgent.behaviour.converse nightly forgetful 9).execution.phase = .ended .fail ∧
      ∃ before last, (ScriptedAgent.behaviour.converse nightly forgetful 9).answers =
          (before ++ [last]).flatMap Visit.answers ∧
        ¬last.Recovers ∧ ∀ v ∈ before, v.Recovers := by
  have hlinear : nightly.IsLinear := ⟨by decide, by decide, by decide⟩
  have hended : (ScriptedAgent.behaviour.converse nightly forgetful 9).execution.phase = .ended .fail := by decide
  have hsettles : ScriptedAgent.behaviour.Settles nightly forgetful := AgentBehaviour.settles_of_ended hended
  obtain ⟨n, outcome, visits, houtcome, hstays, -, hanswers, -, -, -, -, hfails⟩ :=
    AgentBehaviour.linear_succeeds_iff hlinear hsettles
  have hsame : ScriptedAgent.behaviour.converse nightly forgetful n =
      ScriptedAgent.behaviour.converse nightly forgetful 9 :=
    (hstays _ (Nat.le_max_left n 9)).symm.trans
      (AgentBehaviour.converse_of_ended hended (Nat.le_max_right n 9))
  rw [hsame] at houtcome hanswers
  rw [Execution.outcome?, hended] at houtcome
  cases houtcome
  obtain ⟨-, before, last, rfl, hlast, hbefore⟩ := hfails nofun
  exact ⟨hlinear, hsettles, hended, before, last, hanswers, hlast, hbefore⟩

end FlowScheduler
