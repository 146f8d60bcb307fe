import Mathlib
import FlowScheduler.Dispatch.Preparation

/-!
Prepared runs and their steps.

A flow without a fault has steps, and none of its pointers leads past the last one
(`TaskFlow.target_le_of_fault?`). What the checks look for is said without them: either everything that a launch
needs is there (`Cache.IsLaunchable`), or something is the first that is not (`Cache.RefusedFor`). Preparation finds
out which of the two it is (`Cache.prepares_prepare`). So exactly the launchable flows get a run that can be launched,
with the steps of the flow one for one (`Cache.keeps_prepare`), each with its task and the first agent that may
execute it; any other flow gets a run without steps that tells what is missing first (`Cache.prepare_decides`).
-/

namespace FlowScheduler

/-! ### Steps of a flow without a fault -/

namespace TaskFlow

variable {flow : TaskFlow} {count place : Nat} {s : TaskFlowStep} {steps : List TaskFlowStep}

theorem le_of_badTarget?_eq_none (h : badTarget? count s = none) {target : Nat}
    (hs : s.nextOnOk = .goto target ∨ s.nextOnFail = .goto target) : target ≤ count := by
  simp only [badTarget?, List.findSome?_eq_none_iff, List.mem_cons, List.not_mem_nil, or_false,
    forall_eq_or_imp, forall_eq] at h
  obtain ⟨hok, hfail⟩ := h
  rcases hs with hs | hs
  · simpa [hs] using hok
  · simpa [hs] using hfail

theorem badTarget?_of_stepFault? (h : stepFault? count place steps = none) (hs : s ∈ steps) :
    badTarget? count s = none := by
  induction steps generalizing place with
  | nil => cases hs
  | cons t steps ih =>
    rw [stepFault?] at h
    split at h
    · cases h
    · split at h
      · cases h
      · next hnone =>
        rcases List.mem_cons.1 hs with rfl | hs
        · exact hnone
        · exact ih h hs

theorem stepFault?_of_fault? (h : flow.fault? = none) :
    flow.steps ≠ [] ∧ stepFault? flow.steps.length 1 flow.steps = none := by
  rw [fault?] at h
  split at h
  · cases h
  · split at h
    · cases h
    · next hne => exact ⟨hne, h⟩

theorem target_le_of_fault? (h : flow.fault? = none) (hs : s ∈ flow.steps) {target : Nat}
    (htarget : s.nextOnOk = .goto target ∨ s.nextOnFail = .goto target) :
    target ≤ flow.steps.length :=
  le_of_badTarget?_eq_none (badTarget?_of_stepFault? (stepFault?_of_fault? h).2 hs) htarget

end TaskFlow

/-! ### Prepared steps -/

namespace Cache

variable {c : Cache} {flow : TaskFlow} {trigger : Trigger} {s : TaskFlowStep} {p : PreparedStep}
  {steps : List TaskFlowStep} {prepared : List PreparedStep}

/-- Whether a prepared step is a step of a flow with the task that it names. -/
structure Keeps (c : Cache) (s : TaskFlowStep) (p : PreparedStep) : Prop where
  index : p.index = s.index
  nextOnOk : p.nextOnOk = s.nextOnOk
  nextOnFail : p.nextOnFail = s.nextOnFail
  retry : p.retry = s.retry
  task : c.tasks.get? s.taskId = some p.task

theorem keeps_resolveStep (h : c.resolveStep s = .ok p) : c.Keeps s p := by
  rw [resolveStep] at h
  split at h
  · cases h
  · next task htask =>
    split at h
    · cases h
    · cases h
      exact ⟨rfl, rfl, rfl, rfl, htask⟩

theorem exists_keeps_of_mem (h : List.Forall₂ c.Keeps steps prepared) (hp : p ∈ prepared) :
    ∃ s ∈ steps, c.Keeps s p := by
  induction h with
  | nil => cases hp
  | cons hkeeps _ ih =>
    rcases List.mem_cons.1 hp with rfl | hp
    · exact ⟨_, List.mem_cons_self, hkeeps⟩
    · obtain ⟨s, hs, hkeeps⟩ := ih hp
      exact ⟨s, List.mem_cons_of_mem _ hs, hkeeps⟩

/-- What a run that can be launched has passed and got in its preparation. -/
structure Passes (c : Cache) (flow : TaskFlow) (trigger : Trigger) (run : PreparedRun) : Prop where
  permitted : trigger.isManual → flow.manualLaunch
  queueName : c.queueName flow.queueId = .ok run.queueName
  steps_ne_nil : flow.steps ≠ []
  resolveSteps : c.resolveSteps flow.steps = .ok run.steps

/-! ### Agents and tasks -/

/-- Whether a task may be executed on an agent that is cached and not deleted. -/
def HasAgent (c : Cache) (t : Task) : Prop :=
  ∃ id ∈ t.execOn, ∃ a, c.agents.get? id = some a ∧ a.deleted = false

/-- Whether an agent is the first that a task may be executed on: it is cached and not deleted, and those named before
it are deleted or not cached. -/
def IsFirstAgent (c : Cache) (t : Task) (a : Agent) : Prop :=
  ∃ before id after, t.execOn = before ++ id :: after ∧ c.agents.get? id = some a ∧
    a.deleted = false ∧ ∀ i ∈ before, ∀ b, c.agents.get? i = some b → b.deleted

variable {task : Task} {agent : Agent} {reason other : LaunchRefusal} {run : PreparedRun}

theorem isFirstAgent_of_agentFor? (h : c.agentFor? task = some agent) : c.IsFirstAgent task agent := by
  obtain ⟨hlive, first, rest, hlist, hfirst⟩ := List.find?_eq_some_iff_append.1 h
  obtain ⟨ids, ids', hids, rfl, hrest⟩ := List.filterMap_eq_append_iff.1 hlist
  obtain ⟨missing, id, after, rfl, hmissing, hid, -⟩ := List.filterMap_eq_cons_iff.1 hrest
  refine ⟨ids ++ missing, id, after, by rw [hids, List.append_assoc], hid, by simpa using hlive,
    fun i hi b hb => ?_⟩
  rcases List.mem_append.1 hi with hi | hi
  · simpa using hfirst b (List.mem_filterMap.2 ⟨i, hi, hb⟩)
  · rw [hmissing i hi] at hb
    cases hb

theorem IsFirstAgent.hasAgent (h : c.IsFirstAgent task agent) : c.HasAgent task := by
  obtain ⟨before, id, after, hlist, hid, hlive, -⟩ := h
  refine ⟨id, ?_, agent, hid, hlive⟩
  rw [hlist]
  exact List.mem_append_right _ List.mem_cons_self

theorem not_hasAgent_of_agentFor? (h : c.agentFor? task = none) : ¬c.HasAgent task := by
  rintro ⟨id, hid, a, ha, hlive⟩
  have hdeleted := List.find?_eq_none.1 h a (List.mem_filterMap.2 ⟨id, hid, ha⟩)
  simp [hlive] at hdeleted

/-- Whether a step can be executed: its task is cached and has an agent. -/
def IsReady (c : Cache) (s : TaskFlowStep) : Prop :=
  ∃ task, c.tasks.get? s.taskId = some task ∧ c.HasAgent task

/-- Why a step cannot be executed. -/
inductive Lacks (c : Cache) (s : TaskFlowStep) : LaunchRefusal → Prop where
  | task : c.tasks.get? s.taskId = none → Lacks c s (.taskNotFound s.taskId)
  | agent {task : Task} : c.tasks.get? s.taskId = some task → ¬c.HasAgent task →
      Lacks c s (.agentNotFound s.taskId)

theorem Lacks.not_isReady (h : c.Lacks s reason) : ¬c.IsReady s := by
  rintro ⟨task, htask, hagent⟩
  cases h with
  | task hnone =>
    rw [hnone] at htask
    cases htask
  | agent htask' hno =>
    rw [htask'] at htask
    cases htask
    exact hno hagent

theorem Lacks.unique (h : c.Lacks s reason) (h' : c.Lacks s other) : other = reason := by
  cases h with
  | task hnone =>
    cases h' with
    | task _ => rfl
    | agent htask _ =>
      rw [hnone] at htask
      cases htask
  | agent htask _ =>
    cases h' with
    | task hnone =>
      rw [hnone] at htask
      cases htask
    | agent _ _ => rfl

/-- Whether a prepared step is a step of a flow with the task that it names and the first agent for it. -/
structure Resolves (c : Cache) (s : TaskFlowStep) (p : PreparedStep) : Prop extends c.Keeps s p where
  agent : c.IsFirstAgent p.task p.agent

theorem Resolves.isReady (h : c.Resolves s p) : c.IsReady s := ⟨p.task, h.task, h.agent.hasAgent⟩

theorem isReady_of_resolves (h : List.Forall₂ c.Resolves steps prepared) : ∀ s ∈ steps, c.IsReady s := by
  induction h with
  | nil => nofun
  | cons hp _ ih => exact List.forall_mem_cons.2 ⟨hp.isReady, ih⟩

theorem resolves_resolveStep (h : c.resolveStep s = .ok p) : c.Resolves s p := by
  refine ⟨keeps_resolveStep h, ?_⟩
  rw [resolveStep] at h
  split at h
  · cases h
  · split at h
    · cases h
    · next agent hagent =>
      cases h
      exact isFirstAgent_of_agentFor? hagent

theorem lacks_of_resolveStep (h : c.resolveStep s = .error reason) : c.Lacks s reason := by
  rw [resolveStep] at h
  split at h
  · next htask =>
    cases h
    exact .task htask
  · next task htask =>
    split at h
    · next hagent =>
      cases h
      exact .agent htask (not_hasAgent_of_agentFor? hagent)
    · cases h

/-- Steps are resolved one for one, or the first one that cannot be executed is found. -/
theorem resolveSteps_cases (c : Cache) (steps : List TaskFlowStep) :
    (∃ prepared, c.resolveSteps steps = .ok prepared ∧ List.Forall₂ c.Resolves steps prepared) ∨
      ∃ before s after reason, c.resolveSteps steps = .error reason ∧ steps = before ++ s :: after ∧
        (∀ t ∈ before, c.IsReady t) ∧ c.Lacks s reason := by
  induction steps with
  | nil => exact .inl ⟨[], rfl, .nil⟩
  | cons t steps ih =>
    rw [resolveSteps]
    cases ht : c.resolveStep t with
    | error reason => exact .inr ⟨[], t, steps, reason, rfl, rfl, nofun, lacks_of_resolveStep ht⟩
    | ok p =>
      have hp := resolves_resolveStep ht
      rcases ih with ⟨prepared, hprepared, hall⟩ | ⟨before, s, after, reason, herror, rfl, hready, hlacks⟩
      · refine .inl ⟨p :: prepared, ?_, .cons hp hall⟩
        rw [hprepared]
        rfl
      · refine .inr ⟨t :: before, s, after, reason, ?_, rfl, ?_, hlacks⟩
        · rw [herror]
          rfl
        · exact List.forall_mem_cons.2 ⟨hp.isReady, hready⟩

/-! ### What a launch needs -/

/-- Whether everything that a launch needs is there. -/
structure IsLaunchable (c : Cache) (flow : TaskFlow) (trigger : Trigger) : Prop where
  permitted : trigger.isManual → flow.manualLaunch
  queue : Queue.directId < flow.queueId → c.queues.contains flow.queueId
  steps_ne_nil : flow.steps ≠ []
  ready : ∀ s ∈ flow.steps, c.IsReady s

/-- What is the first thing missing for a launch. -/
inductive RefusedFor (c : Cache) (flow : TaskFlow) (trigger : Trigger) : LaunchRefusal → Prop where
  | permission : trigger.isManual → flow.manualLaunch = false →
      RefusedFor c flow trigger .manualNotAllowed
  | queue : (trigger.isManual → flow.manualLaunch) → Queue.directId < flow.queueId →
      c.queues.contains flow.queueId = false → RefusedFor c flow trigger (.queueNotFound flow.queueId)
  | empty : (trigger.isManual → flow.manualLaunch) →
      (Queue.directId < flow.queueId → c.queues.contains flow.queueId) → flow.steps = [] →
      RefusedFor c flow trigger .emptyFlow
  | step {before after : List TaskFlowStep} {s : TaskFlowStep} {reason : LaunchRefusal} :
      (trigger.isManual → flow.manualLaunch) →
      (Queue.directId < flow.queueId → c.queues.contains flow.queueId) →
      flow.steps = before ++ s :: after → (∀ t ∈ before, c.IsReady t) → c.Lacks s reason →
      RefusedFor c flow trigger reason

theorem RefusedFor.not_isLaunchable (h : c.RefusedFor flow trigger reason) :
    ¬c.IsLaunchable flow trigger := by
  intro hlaunch
  cases h with
  | permission hmanual hnot =>
    rw [hlaunch.permitted hmanual] at hnot
    cases hnot
  | queue _ hpositive hmissing =>
    rw [hlaunch.queue hpositive] at hmissing
    cases hmissing
  | empty _ _ hnil => exact hlaunch.steps_ne_nil hnil
  | step _ _ hsteps _ hlacks =>
    refine hlacks.not_isReady (hlaunch.ready _ ?_)
    rw [hsteps]
    exact List.mem_append_right _ List.mem_cons_self

/-- The first step that cannot be executed is found by looking for it. -/
theorem find?_not_isReady [DecidablePred c.IsReady] {before after : List TaskFlowStep}
    (hsteps : steps = before ++ s :: after) (hready : ∀ t ∈ before, c.IsReady t) (hlacks : c.Lacks s reason) :
    steps.find? (¬c.IsReady ·) = some s :=
  List.find?_eq_some_iff_append.2 ⟨by simpa using hlacks.not_isReady, before, after, hsteps,
    fun t ht => by simpa using hready t ht⟩

/-- Only one thing is the first that is missing. -/
theorem RefusedFor.unique (h : c.RefusedFor flow trigger reason) (h' : c.RefusedFor flow trigger other) :
    other = reason := by
  classical
  cases h with
  | permission hmanual hnot =>
    cases h' with
    | permission => rfl
    | queue hpermitted | empty hpermitted | step hpermitted => simp [hpermitted hmanual] at hnot
  | queue hpermitted hpositive hmissing =>
    cases h' with
    | permission hmanual hnot => simp [hpermitted hmanual] at hnot
    | queue => rfl
    | empty _ hqueue | step _ hqueue => simp [hqueue hpositive] at hmissing
  | empty hpermitted hqueue hnil =>
    cases h' with
    | permission hmanual hnot => simp [hpermitted hmanual] at hnot
    | queue _ hpositive hmissing => simp [hqueue hpositive] at hmissing
    | empty => rfl
    | step _ _ hsteps => simp [hnil] at hsteps
  | step hpermitted hqueue hsteps hready hlacks =>
    cases h' with
    | permission hmanual hnot => simp [hpermitted hmanual] at hnot
    | queue _ hpositive hmissing => simp [hqueue hpositive] at hmissing
    | empty _ _ hnil => simp [hnil] at hsteps
    | step _ _ hsteps' hready' hlacks' =>
      have hfirst := find?_not_isReady hsteps hready hlacks
      rw [find?_not_isReady hsteps' hready' hlacks'] at hfirst
      cases hfirst
      exact hlacks.unique hlacks'

/-! ### Preparation -/

/-- The run of a launched flow before anything is looked up for it. -/
def draft (flow : TaskFlow) (trigger : Trigger) : PreparedRun :=
  { (PreparedRun.ofTrigger flow.id flow.name trigger).withArgs
      (flow.namedArgs.mapValues (substituteDateTags trigger.reference)) with
    errorManagement := flow.errorManagement, queueId := flow.queueId }

/-- What becomes of a launched flow. -/
inductive Prepares (c : Cache) (flow : TaskFlow) (trigger : Trigger) : PreparedRun → Prop where
  | ready {queueName : String} {steps : List PreparedStep} : c.IsLaunchable flow trigger →
      c.queueName flow.queueId = .ok queueName → c.resolveSteps flow.steps = .ok steps →
      List.Forall₂ c.Resolves flow.steps steps →
      Prepares c flow trigger { draft flow trigger with queueName, steps }
  | refused (queueName : String) {reason : LaunchRefusal} : c.RefusedFor flow trigger reason →
      Prepares c flow trigger (({ draft flow trigger with queueName }).reject reason.message)

theorem contains_of_queueName {id : Int} {name : String} (h : c.queueName id = .ok name)
    (hid : Queue.directId < id) : c.queues.contains id := by
  rw [queueName, if_pos hid] at h
  split at h
  · next q hq => rw [ById.contains, hq, Option.isSome_some]
  · cases h

theorem queueName_eq_error {id : Int} (h : c.queueName id = .error reason) :
    reason = .queueNotFound id ∧ Queue.directId < id ∧ c.queues.contains id = false := by
  rw [queueName] at h
  split at h
  · next hpositive =>
    split at h
    · cases h
    · next hnone =>
      cases h
      exact ⟨rfl, hpositive, by rw [ById.contains, hnone, Option.isSome_none]⟩
  · cases h

/-- Preparation finds out whether a flow can be launched, and if not, what is missing first. -/
theorem prepares_prepare (c : Cache) (flow : TaskFlow) (trigger : Trigger) :
    c.Prepares flow trigger (c.prepare flow trigger) := by
  rw [prepare]
  dsimp only
  split
  · next hdenied =>
    obtain ⟨hmanual, hnot⟩ := Bool.and_eq_true_iff.1 hdenied
    exact .refused "" (.permission hmanual (by simpa using hnot))
  next hallowed =>
  have hpermitted : trigger.isManual → flow.manualLaunch := by simpa using hallowed
  split
  · next reason hmissing =>
    obtain ⟨rfl, hpositive, hnone⟩ := queueName_eq_error hmissing
    exact .refused "" (.queue hpermitted hpositive hnone)
  next name hname =>
  have hqueue := contains_of_queueName hname
  split
  · next hnil => exact .refused name (.empty hpermitted hqueue hnil)
  next hne =>
  rcases c.resolveSteps_cases flow.steps with
    ⟨prepared, hok, hall⟩ | ⟨before, s, after, reason, herror, hsteps, hready, hlacks⟩
  · rw [hok]
    exact .ready ⟨hpermitted, hqueue, hne, isReady_of_resolves hall⟩ hname hok hall
  · rw [herror]
    exact .refused name (.step hpermitted hqueue hsteps hready hlacks)

theorem Prepares.queueId_eq (h : c.Prepares flow trigger run) : run.queueId = flow.queueId := by
  cases h with
  | ready | refused => rfl

theorem Prepares.identity_eq (h : c.Prepares flow trigger run) :
    run.identity = identityKey run.flowId run.namedArgs := by
  cases h with
  | ready | refused => rfl

theorem Prepares.passes (h : c.Prepares flow trigger run) (hlaunch : run.cannotLaunch = none) :
    c.Passes flow trigger run := by
  cases h with
  | ready hready hname hok _ => exact ⟨hready.permitted, hname, hready.steps_ne_nil, hok⟩
  | refused => cases hlaunch

theorem Prepares.resolves (h : c.Prepares flow trigger run) (hlaunch : run.cannotLaunch = none) :
    List.Forall₂ c.Resolves flow.steps run.steps := by
  cases h with
  | ready _ _ _ hall => exact hall
  | refused => cases hlaunch

theorem queueId_prepare (c : Cache) (flow : TaskFlow) (trigger : Trigger) :
    (c.prepare flow trigger).queueId = flow.queueId :=
  (c.prepares_prepare flow trigger).queueId_eq

theorem passes_prepare (h : (c.prepare flow trigger).cannotLaunch = none) :
    c.Passes flow trigger (c.prepare flow trigger) :=
  (c.prepares_prepare flow trigger).passes h

/-- A run that can be launched has the steps of its flow one for one. -/
theorem keeps_prepare (h : (c.prepare flow trigger).cannotLaunch = none) :
    List.Forall₂ c.Keeps flow.steps (c.prepare flow trigger).steps :=
  ((c.prepares_prepare flow trigger).resolves h).imp fun _ _ hp => hp.toKeeps

/-- A flow gets a run that can be launched if and only if everything that a launch needs is there; then each of its
steps has the first agent that may execute its task. Otherwise the run has no steps, it has failed, and it tells the
one thing that is the first missing. In any case the arguments are those of the flow with their date tags replaced at
the trigger's reference, and they make the key. -/
theorem prepare_decides (c : Cache) (flow : TaskFlow) (trigger : Trigger) :
    let run := c.prepare flow trigger
    (run.cannotLaunch = none ↔ c.IsLaunchable flow trigger) ∧
      (run.cannotLaunch = none → List.Forall₂ c.Resolves flow.steps run.steps) ∧
      (run.cannotLaunch ≠ none → run.steps = [] ∧ run.result = .fail ∧
        ∃ reason, c.RefusedFor flow trigger reason ∧
          (∀ other, c.RefusedFor flow trigger other → other = reason) ∧
          run.cannotLaunch = some reason.message ∧ run.resultMessage = reason.message) ∧
      run.namedArgs = flow.namedArgs.mapValues (substituteDateTags trigger.reference) ∧
      run.identity = identityKey flow.id run.namedArgs := by
  intro run
  have hprepares : c.Prepares flow trigger run := c.prepares_prepare flow trigger
  clear_value run
  cases hprepares with
  | ready hlaunch _ _ hall =>
    exact ⟨iff_of_true rfl hlaunch, fun _ => hall, fun hne => absurd rfl hne, rfl, rfl⟩
  | @refused queueName reason hrefused =>
    refine ⟨iff_of_false nofun hrefused.not_isLaunchable, nofun, fun _ => ?_, rfl, rfl⟩
    exact ⟨rfl, rfl, reason, hrefused, fun _ hother => hrefused.unique hother, rfl, rfl⟩

end Cache

end FlowScheduler
