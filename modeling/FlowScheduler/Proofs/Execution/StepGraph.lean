import Mathlib
import FlowScheduler.Execution.Flow
import FlowScheduler.Proofs.Dispatch.Preparation

/-!
Executions stay on the steps of their run.

An answer of an agent leaves an execution at its step or decides whether the step has succeeded
(`Execution.verdict?`), and then the pointer for that case is followed (`Execution.move_cases`). A step whose
number of attempts has overflowed is left as a failed one by a move of its own, which is never made where the
arithmetic is checked. If the pointers of a run lead to its steps, then the execution is always at one of them,
whatever the agents answer, until a step is left by the pointer to failure, or the last step by the pointer to
the following one (`Execution.prepare_stays_on_steps`).
-/

namespace FlowScheduler

/-- An answer of an agent: to the request to execute a task, or to the question for its status. -/
inductive AgentAnswer where
  | submitted (answer : Except SchedulerError Int)
  | polled (answer : Except SchedulerError TaskStatus)

/-- What an execution does next. -/
inductive ExecutionMove where
  /-- It takes in an answer. -/
  | take (answer : AgentAnswer)
  /-- It leaves a step whose number of attempts has overflowed. -/
  | skip

namespace NextStep

/-- Whether a pointer is one that a number stands for. -/
def IsCoded (p : NextStep) : Prop := ∃ n, ofCode? n = some p

theorem IsCoded.one_le {target : Nat} (h : IsCoded (.goto target)) : 1 ≤ target := by
  obtain ⟨n, hn⟩ := h
  simp only [ofCode?] at hn
  split at hn
  · cases hn
  · split at hn
    · cases hn
    · split at hn
      · cases hn
        omega
      · cases hn

end NextStep

/-- The pointer by which a step is left. -/
def PreparedStep.pointer (s : PreparedStep) (succeeded : Bool) : NextStep :=
  if succeeded then s.nextOnOk else s.nextOnFail

namespace PreparedRun

variable {r : PreparedRun} {index : Nat} {step : PreparedStep}

theorem stepAt?_eq_some_iff : r.stepAt? index = some step ↔
    1 ≤ index ∧ index ≤ r.steps.length ∧ r.steps[index - 1]? = some step := by
  rw [stepAt?]
  split
  · next h => simp [h]
  · next h =>
    constructor
    · intro hstep
      obtain ⟨hlt, -⟩ := List.getElem?_eq_some_iff.1 hstep
      exact ⟨by omega, by omega, hstep⟩
    · rintro ⟨-, -, hstep⟩
      exact hstep

theorem mem_steps_of_stepAt? (h : r.stepAt? index = some step) : step ∈ r.steps :=
  List.mem_of_getElem? (stepAt?_eq_some_iff.1 h).2.2

/-- Whether a run has steps and their pointers lead to them. -/
structure IsClosed (r : PreparedRun) : Prop where
  ne_nil : r.steps ≠ []
  target : ∀ s ∈ r.steps, ∀ succeeded target, s.pointer succeeded = .goto target →
    1 ≤ target ∧ target ≤ r.steps.length

theorem exists_stepAt? (h : 1 ≤ index) (h' : index ≤ r.steps.length) :
    ∃ step, r.stepAt? index = some step := by
  have hlt : index - 1 < r.steps.length := by omega
  exact ⟨_, stepAt?_eq_some_iff.2 ⟨h, h', List.getElem?_eq_getElem hlt⟩⟩

end PreparedRun

namespace Execution

/-- The step that an execution is at, with its index, until the run has ended. -/
def at? (e : Execution) : Option (Nat × PreparedStep) :=
  match e.phase with
  | .submitting index step _ | .polling index step _ _ | .overflowed index step => some (index, step)
  | .ended _ => none

/-- Whether a move ends the step that an execution is at, and if so whether the step has succeeded. -/
def verdict? (e : Execution) (m : ExecutionMove) : Option Bool :=
  match e.phase, m with
  | .submitting .., .take (.submitted (.error _)) => some false
  | .polling .., .take (.polled (.error _)) => some false
  | .polling _ step attempt _, .take (.polled (.ok status)) =>
    if !status.onRegister then some false
    else if !status.terminated then none
    else if status.result then some true
    else if attempt < step.attempts then none
    else some false
  | .overflowed .., .skip => some false
  | _, _ => none

/-- The execution with one more answer. -/
def take (e : Execution) : AgentAnswer → Execution
  | .submitted answer => e.submitted answer
  | .polled answer => e.polled answer

/-- The execution after a move. -/
def move (e : Execution) : ExecutionMove → Execution
  | .take a => e.take a
  | .skip => e.skip

/-- The execution of a run after these moves. -/
def after (r : PreparedRun) (moves : List ExecutionMove) : Execution := moves.foldl move (start r)

theorem after_append_singleton {r : PreparedRun} {moves : List ExecutionMove} {m : ExecutionMove} :
    after r (moves ++ [m]) = (after r moves).move m := by
  simp [after]

variable {e e' : Execution} {a : AgentAnswer} {m : ExecutionMove} {index : Nat} {step : PreparedStep}
  {r : PreparedRun} {succeeded : Bool} {result : RunResult}

/-! ### One move -/

/-- Whether an execution is another with more lines in its transcript, none of which says that a step
does not exist. -/
structure Notes (e e' : Execution) : Prop where
  run : e'.run = e.run
  noStep : ∀ i, .noStep i ∈ e'.transcript → .noStep i ∈ e.transcript

theorem Notes.refl (e : Execution) : Notes e e := ⟨rfl, fun _ => id⟩

theorem Notes.note {line : TranscriptLine} (h : Notes e e') (hline : ∀ i, line ≠ .noStep i) :
    Notes e (e'.note line) := by
  refine ⟨h.run, fun i hi => ?_⟩
  rcases List.mem_append.1 hi with hi | hi
  · exact h.noStep i hi
  · exact absurd (List.mem_singleton.1 hi).symm (hline i)

/-- A final status asks for another attempt or decides the step. -/
theorem attempted_cases (e : Execution) (index : Nat) (step : PreparedStep) (attempt : Nat)
    (status : TaskStatus) :
    (status.result = false ∧ attempt < step.attempts ∧
      ∃ e', Notes e e' ∧ e.attempted index step attempt status =
        { e' with phase := .submitting index step (attempt + 1) }) ∨
    (status.result = false → ¬attempt < step.attempts) ∧
      ∃ e', Notes e e' ∧ e.attempted index step attempt status = e'.leave index step status.result := by
  let failed := TranscriptLine.failed index attempt step.attempts status.durationMs status.resultInfo
  have hfailed : Notes e (e.note failed) := (Notes.refl e).note fun i => by simp [failed]
  rw [attempted]
  cases hresult : status.result with
  | true =>
    exact .inr ⟨by simp, e.note (.succeeded index status.durationMs), (Notes.refl e).note (by simp), rfl⟩
  | false =>
    by_cases hlt : attempt < step.attempts
    · exact .inl ⟨rfl, hlt, e.note failed, hfailed, if_pos hlt⟩
    · exact .inr ⟨fun _ => hlt, (e.note failed).note (.gaveUp status.resultInfo),
        hfailed.note (by simp), if_neg hlt⟩

/-- A move leaves the execution at its step, or the step is left by the pointer that the verdict selects. -/
theorem move_cases (e : Execution) (m : ExecutionMove) :
    (e.verdict? m = none ∧ Notes e (e.move m) ∧ (e.move m).at? = e.at? ∧
      (∀ index step, (e.move m).phase = .overflowed index step ↔ e.phase = .overflowed index step) ∧
      ∀ result, (e.move m).phase = .ended result ↔ e.phase = .ended result) ∨
    ∃ index step succeeded e', e.at? = some (index, step) ∧ e.verdict? m = some succeeded ∧
      Notes e e' ∧ e.move m = e'.follow index (step.pointer succeeded) := by
  have hnothing (e : Execution) (m : ExecutionMove) (hverdict : e.verdict? m = none) (hmove : e.move m = e) :
      e.verdict? m = none ∧ Notes e (e.move m) ∧ (e.move m).at? = e.at? ∧
        (∀ index step, (e.move m).phase = .overflowed index step ↔ e.phase = .overflowed index step) ∧
        ∀ result, (e.move m).phase = .ended result ↔ e.phase = .ended result := by
    rw [hmove]
    exact ⟨hverdict, Notes.refl e, rfl, fun _ _ => Iff.rfl, fun _ => Iff.rfl⟩
  obtain ⟨run, transcript, phase⟩ := e
  cases phase with
  | submitting index step attempt =>
    rcases m with (answer | answer) | _
    · cases answer with
      | error error =>
        exact .inr ⟨index, step, false, _, rfl, rfl, (Notes.refl _).note (by simp), rfl⟩
      | ok remoteId =>
        exact .inl ⟨rfl, ⟨rfl, fun _ => id⟩, rfl, by simp [move, take, Execution.submitted]⟩
    · exact .inl (hnothing _ _ rfl rfl)
    · exact .inl (hnothing _ _ rfl rfl)
  | polling index step attempt remoteId =>
    rcases m with (answer | answer) | _
    · exact .inl (hnothing _ _ rfl rfl)
    · cases answer with
      | error error =>
        exact .inr ⟨index, step, false, _, rfl, rfl, (Notes.refl _).note (by simp), rfl⟩
      | ok status =>
        let e : Execution := ⟨run, transcript, .polling index step attempt remoteId⟩
        cases hknown : status.onRegister with
        | false =>
          let error := SchedulerError.agentProtocol ("unknown id " ++ toString remoteId)
          have hnotes : Notes e (e.note (.errored index error)) := (Notes.refl e).note (by simp)
          refine .inr ⟨index, step, false, _, rfl, by simp [verdict?, hknown], hnotes, ?_⟩
          simp only [move, take, Execution.polled, hknown, Bool.not_false, if_true]
          rfl
        | true =>
          cases hended : status.terminated with
          | false =>
            refine .inl (hnothing _ _ (by simp [verdict?, hknown, hended]) ?_)
            simp [move, take, Execution.polled, hknown, hended]
          | true =>
            have hmove : e.move (.take (.polled (.ok status))) = e.attempted index step attempt status := by
              simp [e, move, take, Execution.polled, hknown, hended]
            rcases attempted_cases e index step attempt status with
              ⟨hresult, hlt, e', hnotes, heq⟩ | ⟨hlast, e', hnotes, heq⟩
            · refine .inl ⟨by simp [verdict?, hknown, hended, hresult, hlt], ?_⟩
              rw [hmove, heq]
              exact ⟨⟨hnotes.run, hnotes.noStep⟩, rfl, by simp⟩
            · refine .inr ⟨index, step, status.result, e', rfl, ?_, hnotes, hmove.trans heq⟩
              cases hresult : status.result with
              | true => simp [verdict?, hknown, hended, hresult]
              | false => simp [verdict?, hknown, hended, hresult, hlast hresult]
    · exact .inl (hnothing _ _ rfl rfl)
  | overflowed index step =>
    rcases m with (answer | answer) | _
    · exact .inl (hnothing _ _ rfl rfl)
    · exact .inl (hnothing _ _ rfl rfl)
    · exact .inr ⟨index, step, false, _, rfl, rfl, Notes.refl _, rfl⟩
  | ended result =>
    rcases m with (answer | answer) | _
    · exact .inl (hnothing _ _ rfl rfl)
    · exact .inl (hnothing _ _ rfl rfl)
    · exact .inl (hnothing _ _ rfl rfl)

/-! ### Runs whose pointers lead to steps -/

/-- Whether an execution is one of a run, is at a step of it until it has ended, has never gone to a step that
does not exist, and has overflowed at most where the number of attempts does not fit. -/
structure OnSteps (r : PreparedRun) (e : Execution) : Prop where
  run : e.run = r
  stepAt? : ∀ index step, e.at? = some (index, step) → r.stepAt? index = some step
  noStep : ∀ i, .noStep i ∉ e.transcript
  overflowed : ∀ index step, e.phase = .overflowed index step → Word.nat32End ≤ step.retry + 1

/-- Whether a move ends the run with a result: the step is left by the pointer to failure, or it is the
last one and is left by the pointer to the following step. -/
def EndsBy (e : Execution) (m : ExecutionMove) (result : RunResult) : Prop :=
  ∃ index step succeeded, e.at? = some (index, step) ∧ e.verdict? m = some succeeded ∧
    (step.pointer succeeded = .fail ∧ result = .fail ∨
      step.pointer succeeded = .sequential ∧ index = e.run.steps.length ∧ result = .ok)

/-- A step begins with the request of its first attempt, unless the number of attempts has overflowed. -/
theorem firstPhase_cases (index : Nat) (step : PreparedStep) :
    firstPhase index step = .submitting index step 1 ∨
      firstPhase index step = .overflowed index step ∧ Word.nat32End ≤ step.retry + 1 := by
  rw [firstPhase]
  split
  · next hnone =>
    refine .inr ⟨rfl, Nat.le_of_not_lt fun hlt => ?_⟩
    rw [PreparedStep.attempts_of_lt hlt] at hnone
    cases hnone
  · exact .inl rfl

theorem onSteps_enter (hrun : e.run = r) (hnoStep : ∀ i, .noStep i ∉ e.transcript) (h : 1 ≤ index)
    (h' : index ≤ r.steps.length) :
    OnSteps r (e.enter index) ∧ ∀ result, (e.enter index).phase ≠ .ended result := by
  obtain ⟨step, hstep⟩ := PreparedRun.exists_stepAt? h h'
  rw [enter, hrun, hstep]
  have hlines : ∀ i, .noStep i ∉ (e.note (.started index step.task.name)).transcript := by
    intro i hi
    rcases List.mem_append.1 hi with hi | hi
    · exact hnoStep i hi
    · simp at hi
  rcases firstPhase_cases index step with hphase | ⟨hphase, hoverflow⟩
  · simp only [hphase]
    refine ⟨⟨hrun, fun _ _ hat => ?_, hlines, nofun⟩, nofun⟩
    cases hat
    exact hstep
  · simp only [hphase]
    refine ⟨⟨hrun, fun _ _ hat => ?_, hlines, fun _ _ heq => ?_⟩, nofun⟩
    · cases hat
      exact hstep
    · cases heq
      exact hoverflow

/-- Following a pointer that leads to a step, or to the end. -/
theorem onSteps_follow {pointer : NextStep} (hrun : e.run = r)
    (hnoStep : ∀ i, .noStep i ∉ e.transcript) (h : index ≤ r.steps.length)
    (htarget : ∀ target, pointer = .goto target → 1 ≤ target ∧ target ≤ r.steps.length) :
    OnSteps r (e.follow index pointer) ∧ ∀ result,
      (e.follow index pointer).phase = .ended result ↔
        pointer = .fail ∧ result = .fail ∨
          pointer = .sequential ∧ index = r.steps.length ∧ result = .ok := by
  have hfinish (result : RunResult) : OnSteps r (e.finish result) :=
    ⟨hrun, fun _ _ hat => (by cases hat), hnoStep, nofun⟩
  cases pointer with
  | fail => exact ⟨hfinish .fail, by simp [follow, finish, eq_comm]⟩
  | sequential =>
    rw [follow, hrun]
    split
    · have heq : index = r.steps.length := by omega
      exact ⟨hfinish .ok, by simp [finish, heq, eq_comm]⟩
    · have hnext : index + 1 ≤ r.steps.length := by omega
      obtain ⟨hon, hne⟩ := onSteps_enter hrun hnoStep (Nat.le_add_left 1 index) hnext
      refine ⟨hon, ?_⟩
      have hlast : index ≠ r.steps.length := by omega
      simp [hne, hlast]
  | goto target =>
    obtain ⟨hle, hle'⟩ := htarget target rfl
    obtain ⟨hon, hne⟩ := onSteps_enter hrun hnoStep hle hle'
    refine ⟨hon, ?_⟩
    simp [follow, hne]

/-- A move keeps an execution on the steps, and ends it only by the two pointers to an end. -/
theorem OnSteps.move (h : OnSteps r e) (hr : r.IsClosed) (m : ExecutionMove) :
    OnSteps r (e.move m) ∧
      ∀ result, (e.move m).phase = .ended result ↔ e.phase = .ended result ∨ e.EndsBy m result := by
  rcases move_cases e m with ⟨hverdict, hnotes, hat, hoverflowed, hended⟩ |
    ⟨index, step, succeeded, e', hat, hverdict, hnotes, heq⟩
  · refine ⟨⟨hnotes.run.trans h.run, fun index step => ?_, fun i hi => ?_, fun index step hphase => ?_⟩,
      fun result => ?_⟩
    · rw [hat]
      exact h.stepAt? index step
    · exact h.noStep i (hnotes.noStep i hi)
    · exact h.overflowed index step ((hoverflowed index step).1 hphase)
    · simp [hended, EndsBy, hverdict]
  · have hstep := h.stepAt? index step hat
    obtain ⟨-, hle, -⟩ := PreparedRun.stepAt?_eq_some_iff.1 hstep
    obtain ⟨hon, hended⟩ := onSteps_follow (hnotes.run.trans h.run)
      (fun i hi => h.noStep i (hnotes.noStep i hi)) hle
      (hr.target step (PreparedRun.mem_steps_of_stepAt? hstep) succeeded)
    rw [heq]
    refine ⟨hon, fun result => (hended result).trans ?_⟩
    have hne : e.phase ≠ .ended result := by
      intro hphase
      rw [Execution.at?, hphase] at hat
      cases hat
    simp [EndsBy, hat, hverdict, hne, h.run]

theorem onSteps_start (hr : r.IsClosed) :
    OnSteps r (start r) ∧ ∀ result, (start r).phase ≠ .ended result :=
  onSteps_enter rfl (by simp) (Nat.le_refl 1) (List.length_pos_iff.2 hr.ne_nil)

theorem onSteps_after (hr : r.IsClosed) (moves : List ExecutionMove) : OnSteps r (after r moves) := by
  induction moves using List.reverseRecOn with
  | nil => exact (onSteps_start hr).1
  | append_singleton moves m ih =>
    rw [after_append_singleton]
    exact (ih.move hr m).1

/-- A run has ended exactly if one of the moves has ended it. -/
theorem ended_after_iff (hr : r.IsClosed) (moves : List ExecutionMove) :
    (after r moves).phase = .ended result ↔
      ∃ before m rest, moves = before ++ m :: rest ∧ (after r before).EndsBy m result := by
  induction moves using List.reverseRecOn with
  | nil => simpa [after] using (onSteps_start hr).2 result
  | append_singleton moves m ih =>
    rw [after_append_singleton, ((onSteps_after hr moves).move hr m).2, ih]
    constructor
    · rintro (⟨before, b, rest, rfl, hends⟩ | hends)
      · exact ⟨before, b, rest ++ [m], by simp, hends⟩
      · exact ⟨moves, m, [], rfl, hends⟩
    · rintro ⟨before, b, rest, heq, hends⟩
      rcases List.eq_nil_or_concat rest with rfl | ⟨rest, c, rfl⟩
      · obtain ⟨rfl, hb⟩ := List.append_inj' heq rfl
        cases hb
        exact .inr hends
      · have hsplit : before ++ b :: rest.concat c = (before ++ b :: rest) ++ [c] := by simp
        obtain ⟨rfl, -⟩ := List.append_inj' (heq.trans hsplit) rfl
        exact .inl ⟨before, b, rest, rfl, hends⟩

/-! ### Runs of flows without a fault -/

variable {c : Cache} {flow : TaskFlow} {trigger : Trigger}

theorem isClosed_prepare (hfault : flow.fault? = none)
    (hcoded : ∀ s ∈ flow.steps, s.nextOnOk.IsCoded ∧ s.nextOnFail.IsCoded)
    (hlaunch : (c.prepare flow trigger).cannotLaunch = none) :
    (c.prepare flow trigger).IsClosed := by
  have hkeeps := Cache.keeps_prepare hlaunch
  obtain ⟨hne, -⟩ := TaskFlow.stepFault?_of_fault? hfault
  refine ⟨fun hnil => ?_, fun p hp succeeded target hpointer => ?_⟩
  · rw [hnil] at hkeeps
    exact hne (List.forall₂_nil_right_iff.1 hkeeps)
  · obtain ⟨s, hs, hkeep⟩ := Cache.exists_keeps_of_mem hkeeps hp
    obtain ⟨hok, hfail⟩ := hcoded s hs
    have hstep : s.nextOnOk = .goto target ∨ s.nextOnFail = .goto target := by
      cases succeeded with
      | true => exact .inl (hkeep.nextOnOk.symm.trans hpointer)
      | false => exact .inr (hkeep.nextOnFail.symm.trans hpointer)
    refine ⟨?_, ?_⟩
    · rcases hstep with hstep | hstep
      · rw [hstep] at hok
        exact hok.one_le
      · rw [hstep] at hfail
        exact hfail.one_le
    · rw [← hkeeps.length_eq]
      exact TaskFlow.target_le_of_fault? hfault hs hstep

/-- The run of a flow without a fault that can be launched has the steps of the flow one for one. Whatever
the agents answer, its execution is at one of them until it ends, and it ends only when a step is left by
the pointer to failure, or the last one by the pointer to the following step. Where the number of attempts at a
step does not fit in 32 bits, the execution stays at the step, with no result, if the arithmetic is checked; if it
wraps, the step is left like any other that has failed. -/
theorem prepare_stays_on_steps (hfault : flow.fault? = none)
    (hcoded : ∀ s ∈ flow.steps, s.nextOnOk.IsCoded ∧ s.nextOnFail.IsCoded)
    (hlaunch : (c.prepare flow trigger).cannotLaunch = none) :
    let run := c.prepare flow trigger
    List.Forall₂ c.Keeps flow.steps run.steps ∧
      ∀ moves, let e := after run moves
        (∀ index step, e.at? = some (index, step) →
          1 ≤ index ∧ index ≤ run.steps.length ∧ run.steps[index - 1]? = some step) ∧
        (∀ index, .noStep index ∉ e.transcript) ∧
        (∀ index step, e.phase = .overflowed index step → Word.nat32End ≤ step.retry + 1) ∧
        ∀ result, e.phase = .ended result ↔
          ∃ before m rest, moves = before ++ m :: rest ∧ (after run before).EndsBy m result := by
  intro run
  have hclosed : run.IsClosed := isClosed_prepare hfault hcoded hlaunch
  refine ⟨Cache.keeps_prepare hlaunch, fun moves => ?_⟩
  have hon := onSteps_after hclosed moves
  refine ⟨fun index step hat => ?_, hon.noStep, hon.overflowed, fun result => ended_after_iff hclosed moves⟩
  exact PreparedRun.stepAt?_eq_some_iff.1 (hon.stepAt? index step hat)

/-! ### A flow that goes back -/

private def copyFlow : TaskFlow where
  id := 1
  name := "copy"
  manualLaunch := true
  steps := [
    { index := 1, taskId := 10, nextOnOk := .goto 3, nextOnFail := .sequential },
    { index := 2, taskId := 10, nextOnOk := .goto 1, nextOnFail := .goto 1, retry := 4294967295 },
    { index := 3, taskId := 10, nextOnFail := .goto 2 }]

private def copyCache : Cache where
  agents := (∅ : ById Agent).insert 2 { id := 2, host := "http://agent-2", apiKey := "" }
  tasks := (∅ : ById Task).insert 10
    { id := 10, name := "copy", kind := .command "/bin/cp" [] "", execOn := [2] }

private def byHand : Trigger := .manual "alice" (.utc Instant.epoch)

private def accepted : ExecutionMove := .take (.submitted (.ok 7))

private def finished (result : Bool) : ExecutionMove :=
  .take (.polled (.ok { onRegister := true, terminated := true, result := result }))

/-- The first step fails, the second is skipped and leads back to it, and the third ends the flow. -/
theorem prepare_stays_on_steps_going_back :
    let run := copyCache.prepare copyFlow byHand
    let moves := [accepted, finished false, .skip, accepted, finished true, accepted, finished true]
    copyFlow.fault? = none ∧ run.cannotLaunch = none ∧ run.steps.map (·.index) = [1, 2, 3] ∧
      (∃ step, (after run (moves.take 2)).phase = .overflowed 2 step ∧ Word.nat32End ≤ step.retry + 1) ∧
      (after run (moves.take 3)).at?.map (·.1) = some 1 ∧
      (after run moves).phase = .ended .ok ∧
      ∃ before m rest, moves = before ++ m :: rest ∧ (after run before).EndsBy m .ok := by
  intro run moves
  have hfault : copyFlow.fault? = none := by decide
  have hlaunch : run.cannotLaunch = none := by decide
  have hended : (after run moves).phase = .ended .ok := by decide
  have hcoded : ∀ s ∈ copyFlow.steps, s.nextOnOk.IsCoded ∧ s.nextOnFail.IsCoded := by
    intro s hs
    simp only [copyFlow, List.mem_cons, List.not_mem_nil, or_false] at hs
    rcases hs with rfl | rfl | rfl
    · exact ⟨⟨3, rfl⟩, ⟨0, rfl⟩⟩
    · exact ⟨⟨1, rfl⟩, ⟨1, rfl⟩⟩
    · exact ⟨⟨0, rfl⟩, ⟨2, rfl⟩⟩
  obtain ⟨-, hsteps⟩ := prepare_stays_on_steps hfault hcoded hlaunch
  obtain ⟨-, -, hoverflowed, -⟩ := hsteps (moves.take 2)
  obtain ⟨-, -, -, hends⟩ := hsteps moves
  exact ⟨hfault, hlaunch, by decide, ⟨_, rfl, hoverflowed 2 _ rfl⟩, by decide, hended, (hends .ok).1 hended⟩

end Execution

end FlowScheduler
