import Mathlib
import FlowScheduler.Proofs.Argument.IdentityKey
import FlowScheduler.Proofs.Dispatch.Preparation
import FlowScheduler.Proofs.Worker.Identity

/-!
Which runs a worker takes for duplicates.

A prepared run has the key of its flow and its arguments (`Cache.identity_prepare`), and no operation of the
worker changes either (`Worker.hasOwnKey_lasting`). So among runs with plain arguments the worker takes a
submission for a duplicate if and only if a run of the same flow with the same arguments is active
(`Worker.isActive_iff_repeats`). Other arguments may print as the same key, and then a run is dropped for one
that it does not repeat (`Worker.dropped_for_another`).
-/

namespace FlowScheduler

/-! ### Keys of runs -/

/-- Whether a run comes from the preparation of a flow. -/
def PreparedRun.IsPrepared (r : PreparedRun) : Prop :=
  ∃ (c : Cache) (flow : TaskFlow) (trigger : Trigger), r = c.prepare flow trigger

/-- Whether the key of a run is that of its flow and its arguments, and tells them. -/
structure PreparedRun.HasOwnKey (r : PreparedRun) : Prop where
  identity_eq : r.identity = identityKey r.flowId r.namedArgs
  plain : r.namedArgs.IsPlain

theorem Cache.identity_prepare (c : Cache) (flow : TaskFlow) (trigger : Trigger) :
    (c.prepare flow trigger).identity =
      identityKey (c.prepare flow trigger).flowId (c.prepare flow trigger).namedArgs :=
  (c.prepares_prepare flow trigger).identity_eq

theorem PreparedRun.IsPrepared.hasOwnKey {r : PreparedRun} (h : r.IsPrepared)
    (hplain : r.namedArgs.IsPlain) : r.HasOwnKey := by
  obtain ⟨c, flow, trigger, rfl⟩ := h
  exact ⟨c.identity_prepare flow trigger, hplain⟩

namespace Worker

variable {w : Worker} {r : PreparedRun}

/-- Whether every run of a list has a key of its own. -/
def OwnKeys (runs : List PreparedRun) : Prop := ∀ r ∈ runs, r.HasOwnKey

/-- Runs keep their keys. -/
theorem hasOwnKey_lasting : Lasting PreparedRun.HasOwnKey where
  settle queues r h := by
    rw [settle]
    split
    · split
      · exact ⟨h.identity_eq, h.plain⟩
      · exact ⟨h.identity_eq, h.plain⟩
    · exact h
  start _ _ h := ⟨h.identity_eq, h.plain⟩
  ended _ _ _ h := ⟨h.identity_eq, h.plain⟩

theorem Enters.hasOwnKey {run : PreparedRun} (h : Enters run r) (hrun : run.HasOwnKey) :
    r.HasOwnKey := by
  cases h with
  | waits | ends => exact ⟨hrun.identity_eq, hrun.plain⟩

theorem OwnKeys.performAll (h : OwnKeys w.runs) {ops : List WorkerOperation}
    (hops : ∀ run ∈ WorkerOperation.submissions ops, run.HasOwnKey) :
    OwnKeys (w.performAll ops).runs :=
  hasOwnKey_lasting.performAll h fun run hrun _ hr => hr.hasOwnKey (hops run hrun)

/-! ### Duplicates -/

theorem isActive_iff_of_ownKeys (h : OwnKeys w.runs) (hr : r.HasOwnKey) :
    w.isActive r.identity ↔ ∃ o ∈ w.runs, o.state.isTerminal = false ∧
      o.flowId = r.flowId ∧ o.namedArgs = r.namedArgs := by
  rw [isActive, List.any_eq_true]
  refine exists_congr fun o => and_congr_right fun ho => ?_
  have hkey : o.identity = r.identity ↔ o.flowId = r.flowId ∧ o.namedArgs = r.namedArgs := by
    rw [(h o ho).identity_eq, hr.identity_eq, identityKey_inj (h o ho).plain hr.plain]
  rw [Bool.and_eq_true, beq_iff_eq, hkey, Bool.not_eq_true', and_comm]

/-- A key always tells the flow, and among plain arguments it tells them too. So a worker to which prepared
runs with plain arguments are submitted takes one for a duplicate if and only if a run of the same flow with
the same arguments is active. -/
theorem isActive_iff_repeats (settings : WorkerSettings) (queues : List Queue) (start : Instant)
    {ops : List WorkerOperation} {r : PreparedRun}
    (hops : ∀ run ∈ WorkerOperation.submissions ops, run.IsPrepared ∧ run.namedArgs.IsPlain)
    (hr : r.IsPrepared ∧ r.namedArgs.IsPlain) :
    (∀ i j a b, identityKey i a = identityKey j b → i = j ∧ (a.IsPlain → b.IsPlain → a = b)) ∧
      let w := (init settings queues start).performAll ops
      (w.isActive r.identity ↔ ∃ o ∈ w.runs, o.state.isTerminal = false ∧
        o.flowId = r.flowId ∧ o.namedArgs = r.namedArgs) := by
  refine ⟨fun i j a b h => ⟨flowId_eq_of_identityKey_eq h, fun ha hb => ?_⟩, ?_⟩
  · exact ((identityKey_inj ha hb).1 h).2
  · have hnone : OwnKeys (init settings queues start).runs := by
      rw [(init_runs settings queues start).1]
      exact fun r hr => nomatch hr
    refine isActive_iff_of_ownKeys (hnone.performAll fun run hrun => ?_) (hr.1.hasOwnKey hr.2)
    exact (hops run hrun).1.hasOwnKey (hops run hrun).2

/-! ### Keys that collide -/

private def dawn : Instant := .ofSecond 1714986000

private def exportFlow (args : NamedArgs) : TaskFlow where
  id := 1
  name := "export"
  manualLaunch := true
  namedArgs := args
  steps := [{ index := 1, taskId := 10 }]

private def exportCache : Cache where
  agents := (∅ : ById Agent).insert 2 { id := 2, host := "http://agent-2", apiKey := "" }
  tasks := (∅ : ById Task).insert 10
    { id := 10, name := "copy", kind := .command "/bin/cp" [] "", execOn := [2] }

private def exported (args : NamedArgs) : PreparedRun :=
  exportCache.prepare (exportFlow args) (.manual "operator" (.utc dawn))

private def submitting (args : NamedArgs) : List WorkerOperation :=
  [.react (.submit (exported args)) dawn, .check dawn]

private def twoArgs : NamedArgs := .ofList [("a", "1"), ("b", "2")]

private def otherArgs : NamedArgs := .ofList [("a", "1"), ("b", "3")]

private def oneArg : NamedArgs := .ofList [("a", "1] [b=2")]

private theorem mem_submissions {args : NamedArgs} {run : PreparedRun}
    (h : run ∈ WorkerOperation.submissions (submitting args)) : run = exported args :=
  List.mem_singleton.1 h

private theorem exported_isPrepared (args : NamedArgs) : (exported args).IsPrepared :=
  ⟨exportCache, exportFlow args, _, rfl⟩

private theorem exported_namedArgs : ∀ args ∈ [twoArgs, otherArgs, oneArg],
    (exported args).namedArgs = args := by
  decide +kernel

theorem isActive_iff_repeats_other_value :
    let w := (init {} [] dawn).performAll (submitting twoArgs)
    (∀ run ∈ WorkerOperation.submissions (submitting twoArgs),
      run.IsPrepared ∧ run.namedArgs.IsPlain) ∧
      (exported otherArgs).IsPrepared ∧ (exported otherArgs).namedArgs.IsPlain ∧
      (∃ o ∈ w.runs, o.state.isTerminal = false ∧ o.namedArgs = twoArgs) ∧
      w.isActive (exported otherArgs).identity = false := by
  intro w
  have htwo : (exported twoArgs).namedArgs.IsPlain := by
    rw [exported_namedArgs _ (by decide)]
    exact ⟨by decide, by decide⟩
  have hother : (exported otherArgs).namedArgs.IsPlain := by
    rw [exported_namedArgs _ (by decide)]
    exact ⟨by decide, by decide⟩
  have hops : ∀ run ∈ WorkerOperation.submissions (submitting twoArgs),
      run.IsPrepared ∧ run.namedArgs.IsPlain := by
    intro run hrun
    rw [mem_submissions hrun]
    exact ⟨exported_isPrepared twoArgs, htwo⟩
  have hargs : ∀ o ∈ w.runs, o.namedArgs = twoArgs := by decide +kernel
  have hiff := (isActive_iff_repeats {} [] dawn hops ⟨exported_isPrepared otherArgs, hother⟩).2
  refine ⟨hops, exported_isPrepared otherArgs, hother, by decide +kernel,
    Bool.eq_false_iff.2 fun hduplicate => ?_⟩
  obtain ⟨o, ho, -, -, hsame⟩ := hiff.1 hduplicate
  rw [exported_namedArgs _ (by decide), hargs o ho] at hsame
  exact absurd hsame (by decide)

/-- The arguments `a` and `b` print as the one argument `a` does, whose value holds the mark that ends
a value. The run with the one is dropped while the run with the two is active. -/
theorem dropped_for_another :
    let w := (init {} [] dawn).performAll (submitting twoArgs)
    identityKey 1 oneArg = identityKey 1 twoArgs ∧ oneArg ≠ twoArgs ∧
      (exported oneArg).namedArgs = oneArg ∧ (∀ o ∈ w.runs, o.namedArgs ≠ oneArg) ∧
      w.submit (exported oneArg) dawn = { worker := w } := by
  intro w
  have hne : (exported oneArg).identity ≠ "" := by decide +kernel
  have hactive : w.isActive (exported oneArg).identity := by decide +kernel
  refine ⟨by decide +kernel, by decide, exported_namedArgs _ (by decide), by decide +kernel, ?_⟩
  rw [submit, if_neg hne, if_pos hactive]

end Worker

end FlowScheduler
