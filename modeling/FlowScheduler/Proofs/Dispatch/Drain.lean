import Mathlib
import FlowScheduler.Proofs.Worker.Fate
import FlowScheduler.Simulation.System

/-!
Stopping the service.

The planner hands its commands to the worker through a channel that keeps their order and has limited room. To
stop, it asks the worker through the same channel how many runs are active, and goes on asking until there are
none or its grace period is over (`Service.Step`). The answer counts all that was submitted before the question, so a
planner that stops at the answer zero leaves nothing undone (`Service.LeavesNothing`); otherwise its time is over, or
the worker's loop has broken off (`Service.Reachable.drained`). On a virtual clock the wait comes to one of these
ends as well (`SimulatedSystem.exists_wait_of_stop`).
-/

namespace FlowScheduler

/-! ### Planner, channel and worker -/

/-- What the planner sends to the worker. -/
inductive WorkerMessage where
  | command (c : WorkerCommand)
  /-- The question how many runs have not ended. -/
  | activeRuns

/-- The run that a command submits. -/
def WorkerCommand.run? : WorkerCommand → Option PreparedRun
  | submit run => some run
  | updateQueue _ => none

/-- What a command makes the worker do. -/
def WorkerCommand.move (now : Instant) : WorkerCommand → WorkerMove
  | submit run => .submit run now
  | updateQueue queue => .updateQueue queue now

/-- The run that a message submits. -/
def WorkerMessage.run? : WorkerMessage → Option PreparedRun
  | command c => c.run?
  | activeRuns => none

/-- What makes the planner send commands. -/
inductive PlannerInput where
  /-- A look at the clock. -/
  | tick (now : Instant)
  | change (source : EntitySource) (change : Option EntityChange)
  | launch (flowId : Int) (actor : String) (now : Instant)

/-- The planner after an input, with the commands that follow from it. -/
def Planner.respond (p : Planner) : PlannerInput → Planner × List WorkerCommand
  | .tick now => p.tick now
  | .change source change => p.applyChange source change
  | .launch flowId actor now => (p, p.launchManually flowId actor now)

/-- How a planner's wait for the worker comes to an end. -/
inductive DrainEnd where
  /-- No run was active. -/
  | idle
  /-- There were active runs after the grace period. -/
  | overdue
  /-- The worker could not be asked any more. -/
  | unanswered

/-- What a planner does that waits for the worker. -/
inductive DrainPhase where
  /-- It is about to ask. -/
  | asking
  /-- It has asked. -/
  | waiting
  /-- It has been told how many runs are active. -/
  | answered (active : Nat)
  | resting (wakeAt : Nat)

/-- What the loop of the planner is at. Times are in milliseconds. -/
inductive PlannerPhase where
  /-- It hands on commands; with none left it waits for an input. -/
  | serving (outbox : List WorkerCommand)
  /-- It has been told to stop and waits for the worker. -/
  | draining (since : Nat) (phase : DrainPhase)
  | drained (since : Nat) (how : DrainEnd)
  | broken

/-- A submission as the worker took it in, with the worker as it was before. -/
structure Intake where
  run : PreparedRun
  worker : Worker

/-- The planner, the channel to the worker, and the worker with its executions. -/
structure Service where
  planner : Planner
  phase : PlannerPhase
  /-- The milliseconds since the start of the machine. -/
  clock : Nat
  channel : List WorkerMessage := []
  site : WorkerSite
  /-- Whether the worker's loop goes on. -/
  workerRuns : Bool
  /-- All runs that the planner has submitted, whether or not the worker could be reached. -/
  submitted : List PreparedRun := []
  /-- All submissions that the worker has taken in. -/
  taken : List Intake := []

namespace Service

/-- The grace period in milliseconds. -/
def graceMs (settings : Settings) : Nat := settings.scheduler.shutdownGraceSeconds * 1000

/-- Whether a move that no message asks for is possible. Executions end whether or not the worker's loop goes on. -/
def MayMove (s : Service) : WorkerMove → Prop
  | .submit .. | .updateQueue .. => False
  | .deliver _ | .housekeeping _ | .check _ => s.workerRuns
  | .finish .. => True

/-- Whether a move that no message asks for ends the worker's loop: the operation has broken off. -/
def breaksOff (s : Service) : WorkerMove → Bool
  | .housekeeping now => (s.site.worker.react now .housekeeping).brokeOff
  | .check now => (s.site.worker.checkRuns now).brokeOff
  | .submit .. | .updateQueue .. | .deliver _ | .finish .. => false

/-- What can happen next. -/
inductive Step (settings : Settings) (s : Service) : Service → Prop where
  | input (i : PlannerInput) : s.phase = .serving [] →
      Step settings s { s with
        planner := (s.planner.respond i).1, phase := .serving (s.planner.respond i).2 }
  | send {c : WorkerCommand} {rest : List WorkerCommand} : s.phase = .serving (c :: rest) →
      s.workerRuns → s.channel.length < settings.worker.commandBuffer →
      Step settings s { s with
        phase := .serving rest, channel := s.channel ++ [.command c]
        submitted := s.submitted ++ c.run?.toList }
  | lose {c : WorkerCommand} {rest : List WorkerCommand} : s.phase = .serving (c :: rest) →
      s.workerRuns = false →
      Step settings s { s with phase := .serving rest, submitted := s.submitted ++ c.run?.toList }
  | stop : s.phase = .serving [] → settings.scheduler.graceIsPossible s.clock →
      Step settings s { s with phase := .draining s.clock .asking }
  /-- The end of the grace period cannot be told. -/
  | fail : s.phase = .serving [] → settings.scheduler.graceIsPossible s.clock = false →
      Step settings s { s with phase := .broken }
  | ask {since : Nat} : s.phase = .draining since .asking → s.workerRuns →
      s.channel.length < settings.worker.commandBuffer →
      Step settings s { s with
        phase := .draining since .waiting, channel := s.channel ++ [.activeRuns] }
  | giveUp {since : Nat} {phase : DrainPhase} : s.phase = .draining since phase →
      phase = .asking ∨ phase = .waiting → s.workerRuns = false →
      Step settings s { s with phase := .drained since .unanswered }
  | answer {since : Nat} {rest : List WorkerMessage} : s.phase = .draining since .waiting →
      s.workerRuns → s.site.checkDue = false → s.channel = .activeRuns :: rest →
      Step settings s { s with
        phase := .draining since (.answered s.site.worker.activeRuns), channel := rest }
  | endIdle {since : Nat} : s.phase = .draining since (.answered 0) →
      Step settings s { s with phase := .drained since .idle }
  | endOverdue {since active : Nat} : s.phase = .draining since (.answered active) → active ≠ 0 →
      since + graceMs settings ≤ s.clock →
      Step settings s { s with phase := .drained since .overdue }
  | rest {since active : Nat} : s.phase = .draining since (.answered active) → active ≠ 0 →
      s.clock < since + graceMs settings →
      Step settings s { s with
        phase := .draining since (.resting (s.clock + settings.scheduler.shutdownPollIntervalMs)) }
  | wake {since wakeAt : Nat} : s.phase = .draining since (.resting wakeAt) → wakeAt ≤ s.clock →
      Step settings s { s with phase := .draining since .asking }
  | pass (ms : Nat) : Step settings s { s with clock := s.clock + ms }
  | take {c : WorkerCommand} {rest : List WorkerMessage} {site : WorkerSite} (now : Instant) :
      s.channel = .command c :: rest → s.workerRuns → s.site.Step (c.move now) site →
      Step settings s { s with
        channel := rest, site, taken := s.taken ++ c.run?.toList.map fun run => ⟨run, s.site.worker⟩ }
  | work {m : WorkerMove} {site : WorkerSite} : s.MayMove m → s.site.Step m site →
      s.breaksOff m = false → Step settings s { s with site }
  /-- The worker's loop ends with an operation that breaks off. -/
  | breakOff {m : WorkerMove} {site : WorkerSite} : s.MayMove m → s.site.Step m site → s.breaksOff m →
      Step settings s { s with site, workerRuns := false, channel := [] }
  /-- The worker's loop has been told to end by a planner that is done. -/
  | shutDown {since : Nat} {how : DrainEnd} : s.phase = .drained since how →
      Step settings s { s with workerRuns := false, channel := [] }

/-- The service at its start. Without time between its ticks or cleanings a loop does not begin. -/
def start (settings : Settings) (planner : Planner) (queues : List Queue) (now : Instant) (clock : Nat) :
    Service where
  planner
  phase := if 0 < settings.scheduler.tickIntervalMs then .serving [] else .broken
  clock
  site := { worker := .init settings.worker queues now }
  workerRuns := 0 < settings.worker.housekeepingIntervalMs

/-- What the service comes to from its start. -/
inductive Reachable (settings : Settings) (planner : Planner) (queues : List Queue) (now : Instant) :
    Service → Prop where
  | start (clock : Nat) : Reachable settings planner queues now (start settings planner queues now clock)
  | step {s s' : Service} : Reachable settings planner queues now s → s.Step settings s' →
      Reachable settings planner queues now s'

/-- Nothing of what the planner has submitted is left to do: the worker has taken all of it in, and what it did not
refuse has ended and has its outcome saved. -/
structure LeavesNothing (s : Service) : Prop where
  channel_eq : s.channel = []
  taken_eq : s.taken.map (·.run) = s.submitted
  fate : ∀ t ∈ s.taken, t.worker.Refuses t.run ∨
    ∃ r ∈ s.site.ended, Worker.GoesOnAs { t.run with seq := t.worker.lastSeq + 1 } r ∧
      r.state = .terminated ∧ (r.flowId, r.outcome) ∈ s.site.saves
  isIdle : s.site.IsIdle
  executing_eq : s.site.executing = []
  feedback_eq : s.site.feedback = []

variable {settings : Settings} {planner : Planner} {queues : List Queue} {now : Instant} {s s' : Service}
  {since : Nat} {how : DrainEnd}

/-! ### What the worker has been sent -/

theorem Step.site (hs : s.Step settings s') : s'.site = s.site ∨ ∃ m, s.site.Step m s'.site := by
  cases hs with
  | take now _ _ hm => exact .inr ⟨_, hm⟩
  | work _ hm _ | breakOff _ hm _ => exact .inr ⟨_, hm⟩
  | input | send | lose | stop | fail | ask | giveUp | answer | endIdle | endOverdue | rest | wake | pass
  | shutDown => exact .inl rfl

theorem Reachable.site (h : Reachable settings planner queues now s) :
    s.site.Reachable settings.worker queues now := by
  induction h with
  | start => exact .init
  | step _ hs ih =>
    rcases hs.site with heq | ⟨m, hm⟩
    · rwa [heq]
    · exact .step ih hm

/-- The runs that the messages of a channel submit. -/
def waitingRuns (channel : List WorkerMessage) : List PreparedRun := channel.filterMap (·.run?)

theorem waitingRuns_append_command (channel : List WorkerMessage) (c : WorkerCommand) :
    waitingRuns (channel ++ [.command c]) = waitingRuns channel ++ c.run?.toList := by
  rw [waitingRuns, List.filterMap_append]
  cases c with
  | submit | updateQueue => rfl

theorem waitingRuns_cons_command (c : WorkerCommand) (channel : List WorkerMessage) :
    waitingRuns (.command c :: channel) = c.run?.toList ++ waitingRuns channel := by
  cases c with
  | submit | updateQueue => rfl

/-- While the worker's loop goes on, what has been submitted has been taken in or is in the channel, in order. -/
theorem Reachable.submitted_eq (h : Reachable settings planner queues now s) (hruns : s.workerRuns) :
    s.submitted = s.taken.map (·.run) ++ waitingRuns s.channel := by
  induction h with
  | start => rfl
  | step _ hs ih =>
    cases hs with
    | send => rw [waitingRuns_append_command, ← List.append_assoc, ← ih hruns]
    | ask =>
      rw [ih hruns]
      simp [waitingRuns, WorkerMessage.run?]
    | answer _ _ _ hchannel =>
      rw [ih hruns, hchannel]
      rfl
    | take now hchannel _ _ =>
      rw [ih hruns, hchannel, waitingRuns_cons_command, List.map_append, List.append_assoc]
      simp [Function.comp_def]
    | lose _ hnot =>
      rw [hruns] at hnot
      cases hnot
    | breakOff | shutDown => cases hruns
    | input | stop | fail | giveUp | endIdle | endOverdue | rest | wake | pass | work => exact ih hruns

/-- Each submission that the worker took in was refused, or it has been admitted under the next number. -/
theorem Reachable.taken_admitted (h : Reachable settings planner queues now s) :
    ∀ t ∈ s.taken, t.worker.Refuses t.run ∨ (t.worker.lastSeq + 1, t.run) ∈ s.site.admitted := by
  induction h with
  | start => exact List.forall_mem_nil _
  | @step s s' hreachable hs ih =>
    have hold : ∀ t ∈ s.taken, t.worker.Refuses t.run ∨ (t.worker.lastSeq + 1, t.run) ∈ s'.site.admitted := by
      intro t ht
      refine (ih t ht).imp_right fun ha => ?_
      rcases hs.site with heq | ⟨m, hm⟩
      · rwa [heq]
      · exact hm.mem_admitted ha
    cases hs with
    | @take c _ _ now _ _ hm =>
      intro t ht
      rcases List.mem_append.1 ht with ht | ht
      · exact hold t ht
      cases c with
      | updateQueue queue => cases ht
      | submit run =>
        obtain rfl := List.mem_singleton.1 ht
        by_cases hrefuses : s.site.worker.Refuses run
        · exact .inl hrefuses
        · exact .inr (WorkerSite.Step.admits hreachable.site.sound hm hrefuses)
    | input | send | lose | stop | fail | ask | giveUp | answer | endIdle | endOverdue | rest | wake | pass
    | work | breakOff | shutDown => exact hold

/-! ### The question in the channel -/

theorem Reachable.channel_eq_nil (h : Reachable settings planner queues now s) (hruns : s.workerRuns = false) :
    s.channel = [] := by
  induction h with
  | start => rfl
  | step _ hs ih =>
    cases hs with
    | send _ hyes _ | ask _ hyes _ | answer _ hyes _ _ | take _ _ hyes _ =>
      rw [hruns] at hyes
      cases hyes
    | breakOff | shutDown => rfl
    | input | lose | stop | fail | giveUp | endIdle | endOverdue | rest | wake | pass | work => exact ih hruns

theorem exists_commands {channel : List WorkerMessage} (h : .activeRuns ∉ channel) :
    ∃ commands : List WorkerCommand, channel = commands.map .command := by
  induction channel with
  | nil => exact ⟨[], rfl⟩
  | cons message channel ih =>
    rw [List.mem_cons, not_or] at h
    obtain ⟨commands, rfl⟩ := ih h.2
    cases message with
    | command c => exact ⟨c :: commands, rfl⟩
    | activeRuns => exact absurd rfl h.1

/-- The planner waits for an answer as long as the question is in the channel, and nothing comes after it. -/
theorem Reachable.question (h : Reachable settings planner queues now s) (hmem : .activeRuns ∈ s.channel) :
    (∃ since, s.phase = .draining since .waiting) ∧
      ∃ commands : List WorkerCommand, s.channel = commands.map .command ++ [.activeRuns] := by
  induction h with
  | start => cases hmem
  | @step s s' hreachable hs ih =>
    have hnot {phase : PlannerPhase} (hphase : s.phase = phase)
        (hne : ∀ since, phase ≠ .draining since .waiting) : .activeRuns ∉ s.channel := by
      intro hmem
      obtain ⟨⟨since, hwaiting⟩, -⟩ := ih hmem
      exact hne since (hphase.symm.trans hwaiting)
    cases hs with
    | input _ hphase | lose hphase _ | stop hphase _ | fail hphase _ | endIdle hphase
    | endOverdue hphase _ _ | rest hphase _ _ | wake hphase _ => exact absurd hmem (hnot hphase nofun)
    | send hphase _ _ =>
      rcases List.mem_append.1 hmem with hmem | hmem
      · exact absurd hmem (hnot hphase nofun)
      · cases List.mem_singleton.1 hmem
    | ask hphase _ _ =>
      obtain ⟨commands, hcommands⟩ := exists_commands (hnot hphase nofun)
      exact ⟨⟨_, rfl⟩, commands, congrArg (· ++ [.activeRuns]) hcommands⟩
    | giveUp _ _ hruns =>
      rw [hreachable.channel_eq_nil hruns] at hmem
      cases hmem
    | answer _ _ _ hchannel =>
      obtain ⟨-, commands, hcommands⟩ := ih (hchannel ▸ List.mem_cons_self)
      rw [hchannel] at hcommands
      cases commands with
      | nil =>
        cases hcommands
        cases hmem
      | cons c commands => cases hcommands
    | take now hchannel _ _ =>
      obtain ⟨hwaiting, commands, hcommands⟩ := ih (hchannel ▸ List.mem_cons_of_mem _ hmem)
      refine ⟨hwaiting, ?_⟩
      rw [hchannel] at hcommands
      cases commands with
      | nil => cases hcommands
      | cons c commands =>
        cases hcommands
        exact ⟨commands, rfl⟩
    | pass | work => exact ih hmem
    | breakOff | shutDown => cases hmem

/-! ### How the wait ends -/

theorem phase_start (settings : Settings) (planner : Planner) (queues : List Queue) (now : Instant)
    (clock : Nat) :
    (start settings planner queues now clock).phase = .serving [] ∨
      (start settings planner queues now clock).phase = .broken := by
  rw [start]
  split
  · exact .inl rfl
  · exact .inr rfl

/-- Whether the planner has been told that no run is active. -/
def ToldIdle (s : Service) : Prop :=
  ∃ since, s.phase = .draining since (.answered 0) ∨ s.phase = .drained since .idle

/-- All that the planner has submitted has been taken in, and no run is active. -/
structure IsDone (s : Service) : Prop where
  channel_eq : s.channel = []
  isIdle : s.site.IsIdle
  taken_eq : s.taken.map (·.run) = s.submitted

theorem IsDone.work (h : s.IsDone) (hreachable : Reachable settings planner queues now s) {m : WorkerMove}
    {site : WorkerSite} (hmay : s.MayMove m) (hm : s.site.Step m site) : IsDone { s with site } := by
  refine { h with isIdle := hm.isIdle hreachable.site.sound h.isIdle ?_ }
  rintro run at' rfl
  exact hmay

/-- The answer is given when everything that was sent before the question has been taken in. -/
theorem Reachable.isDone_of_answer (h : Reachable settings planner queues now s) (hruns : s.workerRuns)
    {rest : List WorkerMessage} (hchannel : s.channel = .activeRuns :: rest) :
    rest = [] ∧ s.taken.map (·.run) = s.submitted := by
  obtain ⟨-, commands, hcommands⟩ := h.question (hchannel ▸ List.mem_cons_self)
  have hsubmitted := h.submitted_eq hruns
  rw [hchannel] at hcommands hsubmitted
  cases commands with
  | nil =>
    cases hcommands
    refine ⟨rfl, ?_⟩
    rw [hsubmitted]
    simp [waitingRuns, WorkerMessage.run?]
  | cons c commands => cases hcommands

/-- Once the planner has been told that no run is active, none becomes so any more. -/
theorem Reachable.isDone (h : Reachable settings planner queues now s) (htold : s.ToldIdle) : s.IsDone := by
  induction h with
  | start clock =>
    obtain ⟨since, htold⟩ := htold
    rcases phase_start settings planner queues now clock with hphase | hphase <;> simp [hphase] at htold
  | @step s s' hreachable hs ih =>
    cases hs with
    | input | send | lose | stop | fail | ask | giveUp | endOverdue | rest | wake =>
      obtain ⟨since, htold | htold⟩ := htold
      · cases htold
      · cases htold
    | answer _ hruns _ hchannel =>
      obtain ⟨since, htold | htold⟩ := htold
      · have hidle : s.site.IsIdle := DrainPhase.answered.inj (PlannerPhase.draining.inj htold).2
        obtain ⟨rfl, htaken⟩ := hreachable.isDone_of_answer hruns hchannel
        exact ⟨rfl, hidle, htaken⟩
      · cases htold
    | endIdle hphase => exact { ih ⟨_, .inl hphase⟩ with }
    | take now hchannel _ _ =>
      have hempty := (ih htold).channel_eq
      rw [hchannel] at hempty
      cases hempty
    | work hmay hm _ => exact (ih htold).work hreachable hmay hm
    | breakOff hmay hm _ => exact { (ih htold).work hreachable hmay hm with channel_eq := rfl }
    | pass => exact { ih htold with }
    | shutDown => exact { ih htold with channel_eq := rfl }

theorem Reachable.grace_le (h : Reachable settings planner queues now s)
    (hphase : s.phase = .drained since .overdue) : since + graceMs settings ≤ s.clock := by
  induction h with
  | start clock =>
    rcases phase_start settings planner queues now clock with heq | heq <;> simp [heq] at hphase
  | @step s s' hreachable hs ih =>
    cases hs with
    | input | send | lose | stop | fail | ask | giveUp | answer | endIdle | rest | wake => cases hphase
    | endOverdue _ _ hle =>
      cases hphase
      exact hle
    | pass ms => exact Nat.le_add_right_of_le (ih hphase)
    | take | work | breakOff | shutDown => exact ih hphase

/-- Without its loop the worker stays as it is. -/
theorem MayMove.worker_eq {m : WorkerMove} {site : WorkerSite} (hmay : s.MayMove m) (hm : s.site.Step m site)
    (hruns : s.workerRuns = false) : site.worker = s.site.worker := by
  have hnot : ¬s.workerRuns := by simp [hruns]
  cases hm with
  | submit | updateQueue => exact hmay.elim
  | deliver | housekeeping | check => exact absurd hmay hnot
  | finish => rfl

/-- An operation breaks off because the worker cannot clean up, and the worker stays as it is. -/
theorem not_canClean_of_breaksOff {m : WorkerMove} {site : WorkerSite} (hm : s.site.Step m site)
    (hbroke : s.breaksOff m) : site.worker.canClean = false := by
  cases hm with
  | submit | updateQueue | deliver | finish => cases hbroke
  | housekeeping now =>
    obtain ⟨hcannot, hsame⟩ := Worker.not_canClean_of_housekeeping hbroke
    exact (congrArg Worker.canClean hsame).trans hcannot
  | check now =>
    obtain ⟨hcannot, hsame⟩ := Worker.not_canClean_of_brokeOff hbroke
    exact (congrArg Worker.canClean hsame).trans hcannot

theorem Reachable.workerRuns_eq_false (h : Reachable settings planner queues now s)
    (hphase : s.phase = .drained since .unanswered) : s.workerRuns = false := by
  induction h with
  | start clock =>
    rcases phase_start settings planner queues now clock with heq | heq <;> simp [heq] at hphase
  | step _ hs ih =>
    cases hs with
    | input | send | lose | stop | fail | ask | answer | endIdle | endOverdue | rest | wake => cases hphase
    | giveUp _ _ hruns => exact hruns
    | pass | take | work => exact ih hphase
    | breakOff | shutDown => rfl

/-- A loop of the worker that has ended before the planner was done has broken off. -/
theorem Reachable.broke_off (h : Reachable settings planner queues now s) (hruns : s.workerRuns = false) :
    (∃ since how, s.phase = .drained since how ∧ how ≠ .unanswered) ∨
      s.site.worker.canClean = false ∨ s.site.IsIdle := by
  induction h with
  | start =>
    refine .inr (.inr (Worker.activeRuns_eq_zero_iff.2 fun r hr => ?_))
    rw [Service.start, (Worker.init_runs settings.worker queues now).1] at hr
    cases hr
  | @step s s' hreachable hs ih =>
    have hlater {phase : PlannerPhase} (hphase : s.phase = phase) (hruns : s.workerRuns = false)
        (hne : ∀ since how, phase ≠ .drained since how) :
        s.site.worker.canClean = false ∨ s.site.IsIdle := by
      refine (ih hruns).resolve_left ?_
      rintro ⟨since, how, hdrained, -⟩
      exact hne since how (hphase.symm.trans hdrained)
    cases hs with
    | input _ hphase | lose hphase _ | stop hphase _ | fail hphase _ | giveUp hphase _ _
    | rest hphase _ _ | wake hphase _ => exact .inr (hlater hphase hruns nofun)
    | send _ hyes _ | ask _ hyes _ | answer _ hyes _ _ | take _ _ hyes _ =>
      rw [hruns] at hyes
      cases hyes
    | endIdle => exact .inl ⟨_, _, rfl, nofun⟩
    | endOverdue => exact .inl ⟨_, _, rfl, nofun⟩
    | pass => exact ih hruns
    | work hmay hm _ =>
      have hworker := hmay.worker_eq hm hruns
      refine (ih hruns).imp_right fun hbroke => ?_
      rwa [WorkerSite.IsIdle, hworker]
    | breakOff _ hm hbroke => exact .inr (.inl (not_canClean_of_breaksOff hm hbroke))
    | @shutDown since how hphase =>
      cases how with
      | idle | overdue => exact .inl ⟨_, _, hphase, nofun⟩
      | unanswered => exact ih (hreachable.workerRuns_eq_false hphase)

/-- A planner that is told that no run is active leaves nothing undone. It is done with active runs only when its
grace period is over, or when it cannot ask any more because the worker was to clean up and could not. -/
theorem Reachable.drained (h : Reachable settings planner queues now s) (hphase : s.phase = .drained since how) :
    (how = .idle → s.LeavesNothing) ∧
      (0 < s.site.worker.activeRuns → since + graceMs settings ≤ s.clock ∨
        how = .unanswered ∧ s.workerRuns = false ∧ s.site.worker.canClean = false) := by
  refine ⟨?_, fun hactive => ?_⟩
  · rintro rfl
    have hdone := h.isDone ⟨since, .inr hphase⟩
    obtain ⟨hexecuting, hfeedback⟩ := h.site.sound.nothing_begun hdone.isIdle
    refine ⟨hdone.channel_eq, hdone.taken_eq, fun t ht => ?_, hdone.isIdle, hexecuting, hfeedback⟩
    exact (h.taken_admitted t ht).imp_right fun ha => h.site.exists_ended hdone.isIdle ha
  · have hnot : ¬s.site.IsIdle := Nat.ne_of_gt hactive
    cases how with
    | idle => exact absurd (h.isDone ⟨since, .inr hphase⟩).isIdle hnot
    | overdue => exact .inl (h.grace_le hphase)
    | unanswered =>
      have hruns := h.workerRuns_eq_false hphase
      rcases h.broke_off hruns with ⟨_, how, hother, hne⟩ | hclean | hidle
      · exact absurd (PlannerPhase.drained.inj (hother.symm.trans hphase)).2 hne
      · exact .inr ⟨rfl, hruns, hclean⟩
      · exact absurd hidle hnot

/-! ### A stop after a run and a stop without a worker -/

/-- Where nothing waits, a launch by hand can reach the worker at once. -/
private theorem Reachable.launch (h : Reachable settings planner queues now s) {flowId : Int} {actor : String}
    {run : PreparedRun} {time : Instant} (hphase : s.phase = .serving []) (hchannel : s.channel = [])
    (hruns : s.workerRuns) (hroom : 0 < settings.worker.commandBuffer) (hdue : s.site.checkDue = false)
    (hlaunch : s.planner.launchManually flowId actor time = [.submit run]) :
    Reachable settings planner queues now { s with
      phase := .serving [], channel := []
      site := (s.site.enlist run (s.site.worker.submit run time)).absorb
        (s.site.worker.react time (.submit run))
      submitted := s.submitted ++ [run], taken := s.taken ++ [⟨run, s.site.worker⟩] } := by
  have hinput := h.step (.input (.launch flowId actor time) hphase)
  have houtbox : PlannerPhase.serving (s.planner.respond (.launch flowId actor time)).2 =
      .serving [.submit run] := congrArg PlannerPhase.serving hlaunch
  have hsend := hinput.step (.send houtbox hruns (by rw [hchannel]; exact hroom))
  have hmessages : s.channel ++ [.command (.submit run)] = [.command (.submit run)] := by
    rw [hchannel]
    rfl
  exact hsend.step (.take (c := .submit run) time hmessages hruns (.submit run time hdue))

private def midday : Instant := .ofSecond 1704110400

private def reporting : TaskFlow where
  id := 1
  name := "report"
  manualLaunch := true
  steps := [{ index := 1, taskId := 1 }]

/-- The task of this flow is missing. -/
private def archiving : TaskFlow where
  id := 2
  name := "archive"
  manualLaunch := true
  steps := [{ index := 1, taskId := 9 }]

private def launchCache : Cache where
  agents := (∅ : ById Agent).insert 1 { id := 1, host := "http://agent-1", apiKey := "" }
  tasks := (∅ : ById Task).insert 1
    { id := 1, name := "report", kind := .command "/bin/report" [] "", execOn := [1] }
  flows := ((∅ : ById TaskFlow).insert 1 reporting).insert 2 archiving

private def launcher : Planner := .ofCache {} launchCache midday

private def launchOf (f : TaskFlow) : PreparedRun := launchCache.prepare f (.manual "operator" (.utc midday))

private theorem launcher_reporting :
    launcher.launchManually 1 "operator" midday = [.submit (launchOf reporting)] := by
  decide +kernel

private theorem launcher_archiving :
    launcher.launchManually 2 "operator" midday = [.submit (launchOf archiving)] := by
  decide +kernel

/-- The planner asks while the report is being executed, and is answered after it has ended. -/
theorem drained_after_report : ∃ s, Reachable {} launcher [] midday s ∧ s.phase = .drained 0 .idle ∧
    s.submitted = [launchOf reporting] ∧ s.site.spawned.map (·.seq) = [1] ∧ s.LeavesNothing := by
  have hstart : Reachable {} launcher [] midday (start {} launcher [] midday 0) := .start 0
  have htaken := hstart.launch rfl rfl rfl (by decide) rfl launcher_reporting
  have hbegun := htaken.step (.work (m := .check midday) rfl (.check midday rfl) (by decide +kernel))
  have hstopped := hbegun.step (.stop rfl (by decide))
  have hasked := hstopped.step (.ask rfl rfl (by decide))
  have hfinished := hasked.step
    (.work (m := .finish 1 ⟨.ok, "done"⟩) trivial (.finish ⟨.ok, "done"⟩ (by decide +kernel)) rfl)
  have hdelivered := hfinished.step (.work (m := .deliver midday) rfl (.deliver midday rfl rfl) rfl)
  have hchecked := hdelivered.step
    (.work (m := .check midday) rfl (.check midday rfl) (by decide +kernel))
  have hanswered := hchecked.step (.answer rfl rfl rfl rfl)
  have hdrained := hanswered.step (.endIdle rfl)
  exact ⟨_, hdrained, rfl, rfl, rfl, (hdrained.drained rfl).1 rfl⟩

/-- The time for which ended runs are kept leads out of the calendar. -/
private def lasting : Settings := { worker := { terminatedRetentionSeconds := 10000000000000 } }

/-- A launch that is rejected makes the worker break off, and the planner ends its wait at once, while the report is
being executed. -/
theorem drained_before_grace : lasting.fault? = none ∧ ∃ s, Reachable lasting launcher [] midday s ∧
    s.phase = .drained 0 .unanswered ∧ 0 < s.site.worker.activeRuns ∧ s.clock < 0 + graceMs lasting := by
  have hstart : Reachable lasting launcher [] midday (start lasting launcher [] midday 0) := .start 0
  have htaken := hstart.launch rfl rfl rfl (by decide) rfl launcher_reporting
  have hbegun := htaken.step (.work (m := .check midday) rfl (.check midday rfl) (by decide +kernel))
  have hrejected := hbegun.launch rfl rfl rfl (by decide) rfl launcher_archiving
  have hbroken := hrejected.step
    (.breakOff (m := .check midday) rfl (.check midday rfl) (by decide +kernel))
  have hstopped := hbroken.step (.stop rfl (by decide))
  have hdrained := hstopped.step (.giveUp rfl (.inl rfl) rfl)
  exact ⟨by decide, _, hdrained, rfl, by decide +kernel, by decide⟩

end Service

/-! ### The wait on a virtual clock -/

namespace SimulatedSystem

/-- A sleep lasts until its end and leaves the settings. -/
theorem advance_spec (fuel target : Nat) (s : SimulatedSystem) :
    target ≤ (advance fuel target s).elapsed ∧ (advance fuel target s).settings = s.settings := by
  induction fuel generalizing s with
  | zero => exact ⟨Nat.le_max_right .., rfl⟩
  | succ fuel ih =>
    rw [advance]
    dsimp only
    split
    · split
      · exact ih _
      · exact ⟨Nat.le_max_right .., rfl⟩
    · split
      · split
        · exact ih _
        · exact ⟨Nat.le_max_right .., rfl⟩
      · exact ⟨Nat.le_max_right .., rfl⟩

/-- Whether a wait for the worker is over. -/
def IsWaitOver (deadline : Nat) (s : SimulatedSystem) : Prop :=
  s.site.running = false ∨ s.site.worker.activeRuns = 0 ∨ deadline ≤ s.elapsed

/-- The number of questions that are allowed does not cut a wait short. -/
theorem isWaitOver_drain {fuel deadline : Nat} {s : SimulatedSystem}
    (hpoll : 0 < s.settings.shutdownPollIntervalMs)
    (hfuel : deadline ≤ s.elapsed + fuel * s.settings.shutdownPollIntervalMs) :
    IsWaitOver deadline (drain fuel deadline s) := by
  induction fuel generalizing s with
  | zero =>
    rw [Nat.zero_mul] at hfuel
    exact .inr (.inr hfuel)
  | succ fuel ih =>
    rw [drain]
    split
    · next h => simpa [IsWaitOver] using h
    · obtain ⟨hle, hsettings⟩ := advance_spec (2 * SimulatedWorker.timerBound s.settings.shutdownPollIntervalMs)
        (s.elapsed + s.settings.shutdownPollIntervalMs) s
      refine ih (by rw [sleep, hsettings]; exact hpoll) ?_
      rw [sleep, hsettings]
      rw [Nat.succ_mul] at hfuel
      omega

/-- A stop of a running service waits until no run is active, the grace period is over or the worker has ended, and
then shuts the worker down. -/
theorem exists_wait_of_stop {s : SimulatedSystem} (hrunning : s.running)
    (hgrace : s.settings.graceIsPossible (s.uptimeMs + s.elapsed)) (hpoll : 0 < s.settings.shutdownPollIntervalMs) :
    ∃ d : SimulatedSystem, s.stop = ({ d with site := d.site.shutdown }, .ok ()) ∧
      IsWaitOver (s.elapsed + s.settings.shutdownGraceSeconds * 1000) d := by
  rw [stop, if_pos hrunning]
  dsimp only
  rw [if_pos hgrace]
  have hquestions : s.settings.shutdownGraceSeconds * 1000 ≤
      (s.settings.shutdownGraceSeconds * 1000 / s.settings.shutdownPollIntervalMs + 2) *
        s.settings.shutdownPollIntervalMs := by
    rw [Nat.add_mul]
    refine Nat.le_trans (Nat.le_of_lt (Nat.lt_div_mul_add hpoll)) (Nat.add_le_add_left ?_ _)
    exact Nat.le_mul_of_pos_left _ Nat.two_pos
  exact ⟨_, rfl, isWaitOver_drain hpoll (Nat.add_le_add_left hquestions s.elapsed)⟩

end SimulatedSystem

end FlowScheduler
