import Mathlib
import FlowScheduler.Proofs.Worker.Operations

/-!
The runs of a worker are told apart by their keys and by their numbers.

Whatever is done to a worker, no two runs of its list share a key, ended or not, and their numbers ascend
(`Worker.runs_distinct`). Apart from a submission every operation keeps the numbers and keys of the runs, or
leaves some out (`Worker.numberedKeys`); a submission adds a key that no other run has
(`Worker.Distinct.append`).
-/

namespace FlowScheduler

namespace Worker

/-- The numbers and keys of runs. -/
def numberedKeys (runs : List PreparedRun) : List (Nat × String) :=
  runs.map fun r => (r.seq, r.identity)

variable {w w' : Worker} {runs before after started : List PreparedRun} {r : PreparedRun}
  {now : Instant}

/-! ### Operations on runs that are there -/

theorem numberedKeys_clean (w : Worker) (now : Instant) :
    (numberedKeys (w.clean now).runs).Sublist (numberedKeys w.runs) :=
  List.filter_sublist.map _

theorem settle_identity (queues : ById QueueState) (r : PreparedRun) :
    (settle queues r).identity = r.identity := by
  rw [settle]
  split
  · split
    · rfl
    · rfl
  · rfl

theorem settle_isTerminal (queues : ById QueueState) (r : PreparedRun) :
    (settle queues r).state.isTerminal = r.state.isTerminal := by
  rcases settle_eq_or queues r with heq | ⟨-, hpending, hpending'⟩
  · rw [heq]
  · rw [RunState.isTerminal_eq_false hpending, RunState.isTerminal_eq_false hpending']

theorem numberedKeys_recount (w : Worker) : numberedKeys w.recount.runs = numberedKeys w.runs := by
  rw [numberedKeys, recount, List.map_map]
  refine List.map_congr_left fun r _ => ?_
  rw [Function.comp_apply, settle_seq, settle_identity]

theorem isActive_recount (w : Worker) (identity : String) :
    w.recount.isActive identity = w.isActive identity := by
  rw [isActive, recount, List.any_map]
  refine congrArg w.runs.any (funext fun r => ?_)
  rw [Function.comp_apply, settle_identity, settle_isTerminal]

theorem Launches.numberedKeys_eq (h : Launches now runs after started) :
    numberedKeys after = numberedKeys runs := by
  induction h with
  | nil => rfl
  | keep r _ ih => exact congrArg ((r.seq, r.identity) :: ·) ih
  | @start r _ _ _ _ _ ih => exact congrArg ((r.seq, r.identity) :: ·) ih

theorem numberedKeys_sweep (w : Worker) (now : Instant) :
    (numberedKeys (w.sweep now).worker.runs).Sublist (numberedKeys w.runs) := by
  have hl := w.launches_sweep now
  have heq : numberedKeys (w.sweep now).worker.runs = numberedKeys (w.clean now).runs :=
    hl.numberedKeys_eq.trans (numberedKeys_recount (w.clean now))
  rw [heq]
  exact numberedKeys_clean w now

/-- Where no two runs share a number, the end of an execution changes neither numbers nor keys. -/
theorem numberedKeys_complete (hnodup : (w.runs.map (·.seq)).Nodup) (seq : Nat)
    (outcome : FlowOutcome) (now : Instant) :
    numberedKeys (w.complete seq outcome now).worker.runs = numberedKeys w.runs := by
  rw [complete]
  split
  · rfl
  next r hfind =>
    split
    · rfl
    have hr := List.mem_of_find?_eq_some hfind
    have hseq : r.seq = seq := by simpa using List.find?_some hfind
    rw [numberedKeys, List.map_map]
    refine List.map_congr_left fun o ho => ?_
    rw [Function.comp_apply]
    split
    · next heq =>
      obtain rfl := List.inj_on_of_nodup_map hnodup ho hr (heq.trans hseq.symm)
      rfl
    · rfl

/-! ### Keys and numbers of their own -/

/-- Each run has a key and a number of its own, and later runs have larger numbers. -/
structure Distinct (w : Worker) : Prop where
  identities_nodup : (w.runs.map (·.identity)).Nodup
  identity_ne : ∀ r ∈ w.runs, r.identity ≠ ""
  seqs_ascending : (w.runs.map (·.seq)).Pairwise (· < ·)
  seq_le : ∀ r ∈ w.runs, r.seq ≤ w.lastSeq

theorem Distinct.seqs_nodup (h : w.Distinct) : (w.runs.map (·.seq)).Nodup :=
  h.seqs_ascending.imp Nat.ne_of_lt

theorem Distinct.of_sublist (h : w.Distinct)
    (hs : (numberedKeys w'.runs).Sublist (numberedKeys w.runs)) (hseq : w'.lastSeq = w.lastSeq) :
    w'.Distinct := by
  have hmem : ∀ r ∈ w'.runs, ∃ o ∈ w.runs, o.seq = r.seq ∧ o.identity = r.identity := by
    intro r hr
    obtain ⟨o, ho, heq⟩ := List.mem_map.1 (hs.subset (List.mem_map_of_mem hr))
    exact ⟨o, ho, congrArg Prod.fst heq, congrArg Prod.snd heq⟩
  have hidentities : (w'.runs.map (·.identity)).Sublist (w.runs.map (·.identity)) := by
    simpa [numberedKeys, Function.comp_def] using hs.map Prod.snd
  have hseqs : (w'.runs.map (·.seq)).Sublist (w.runs.map (·.seq)) := by
    simpa [numberedKeys, Function.comp_def] using hs.map Prod.fst
  refine ⟨h.identities_nodup.sublist hidentities, fun r hr => ?_, h.seqs_ascending.sublist hseqs,
    fun r hr => ?_⟩
  · obtain ⟨o, ho, -, heq⟩ := hmem r hr
    exact heq ▸ h.identity_ne o ho
  · obtain ⟨o, ho, heq, -⟩ := hmem r hr
    rw [hseq, ← heq]
    exact h.seq_le o ho

/-- A run whose key is not active gets a place of its own: ended runs of its key make room for it. -/
theorem Distinct.append (h : w.Distinct) (hne : r.identity ≠ "")
    (hactive : w.isActive r.identity = false) : (w.append r).Distinct := by
  have hkept : (w.runs.filter fun o => !(o.state.isTerminal && o.identity == r.identity)).Sublist
      w.runs := List.filter_sublist
  have hother : ∀ o ∈ w.runs.filter fun o => !(o.state.isTerminal && o.identity == r.identity),
      o.identity ≠ r.identity := by
    intro o ho heq
    obtain ⟨ho, hfilter⟩ := List.mem_filter.1 ho
    have hinactive := List.any_eq_false.1 hactive o ho
    rw [heq, beq_self_eq_true] at hinactive hfilter
    cases hterminal : o.state.isTerminal with
    | false => simp [hterminal] at hinactive
    | true => simp [hterminal] at hfilter
  refine ⟨?_, fun o ho => ?_, ?_, fun o ho => ?_⟩
  · rw [Worker.append, List.map_append, List.nodup_append]
    refine ⟨h.identities_nodup.sublist (hkept.map _), List.nodup_singleton _, ?_⟩
    rintro k hk k' hk' rfl
    obtain ⟨o, ho, rfl⟩ := List.mem_map.1 hk
    exact hother o ho (List.mem_singleton.1 hk')
  · rcases List.mem_append.1 ho with ho | ho
    · exact h.identity_ne o (hkept.subset ho)
    · rw [List.mem_singleton.1 ho]
      exact hne
  · rw [Worker.append, List.map_append, List.pairwise_append]
    refine ⟨h.seqs_ascending.sublist (hkept.map _), List.pairwise_singleton _ _, ?_⟩
    intro n hn m hm
    obtain ⟨o, ho, rfl⟩ := List.mem_map.1 hn
    have hle := h.seq_le o (hkept.subset ho)
    have hm : m = w.lastSeq + 1 := List.mem_singleton.1 hm
    omega
  · rcases List.mem_append.1 ho with ho | ho
    · exact Nat.le_succ_of_le (h.seq_le o (hkept.subset ho))
    · rw [List.mem_singleton.1 ho]
      exact Nat.le_refl _

theorem Distinct.recount (h : w.Distinct) : w.recount.Distinct :=
  h.of_sublist (numberedKeys_recount w ▸ List.Sublist.refl _) rfl

theorem Distinct.submit (h : w.Distinct) (run : PreparedRun) (now : Instant) :
    (w.submit run now).worker.Distinct := by
  rw [Worker.submit]
  split
  · exact h
  next hne =>
    split
    · exact h
    next hinactive =>
      have hactive : w.isActive run.identity = false := by simpa using hinactive
      split
      · exact h.append hne hactive
      split
      · exact h
      dsimp only
      split
      · exact h.recount
      · exact h.recount.append hne ((isActive_recount w run.identity).trans hactive)

theorem Distinct.sweep (h : w.Distinct) (now : Instant) : (w.sweep now).worker.Distinct :=
  h.of_sublist (numberedKeys_sweep w now) rfl

theorem Distinct.perform (h : w.Distinct) (op : WorkerOperation) : (w.perform op).Distinct := by
  cases op with
  | check now => exact perform_check_cases w now h (h.sweep now)
  | react event now =>
    cases event with
    | submit run => exact h.submit run now
    | updateQueue q =>
      refine h.of_sublist ?_ (updateQueue_lastSeq w q)
      show (numberedKeys (w.updateQueue q).worker.runs).Sublist _
      rw [updateQueue_runs]
    | complete seq outcome =>
      refine h.of_sublist ?_ (complete_lastSeq w seq outcome now)
      show (numberedKeys (w.complete seq outcome now).worker.runs).Sublist _
      rw [numberedKeys_complete h.seqs_nodup]
    | housekeeping => exact perform_housekeeping_cases w now h (h.of_sublist (numberedKeys_clean w now) rfl)

theorem Distinct.performAll (h : w.Distinct) (ops : List WorkerOperation) : (w.performAll ops).Distinct := by
  induction ops using List.reverseRecOn with
  | nil => exact h
  | append_singleton ops op ih =>
    rw [performAll_snoc]
    exact ih.perform op

theorem distinct_performAll (settings : WorkerSettings) (queues : List Queue) (start : Instant)
    (ops : List WorkerOperation) : ((init settings queues start).performAll ops).Distinct := by
  obtain ⟨hruns, -⟩ := init_runs settings queues start
  have hinit : (init settings queues start).Distinct := by
    constructor
    all_goals simp [hruns]
  exact hinit.performAll ops

/-- Whatever is done to a worker, its runs have keys and ascending numbers of their own. So a key is active
at most once, and the run that the end of an execution is looked up for is the only one of its number. -/
theorem runs_distinct (settings : WorkerSettings) (queues : List Queue) (start : Instant)
    (ops : List WorkerOperation) :
    let w := (init settings queues start).performAll ops
    w.Distinct ∧
      (∀ identity, w.runs.countP (fun r => r.identity == identity && !r.state.isTerminal) ≤ 1) ∧
      ∀ seq r, w.runs.find? (·.seq == seq) = some r ↔ r ∈ w.runs ∧ r.seq = seq := by
  intro w
  have h : w.Distinct := distinct_performAll settings queues start ops
  refine ⟨h, fun identity => ?_, fun seq r => find?_seq_eq_some_iff h.seqs_nodup⟩
  calc w.runs.countP (fun r => r.identity == identity && !r.state.isTerminal)
      ≤ w.runs.countP (fun r => r.identity == identity) :=
        List.countP_mono_left fun r _ hr => (Bool.and_eq_true_iff.1 hr).1
    _ = (w.runs.map (·.identity)).count identity := by
        rw [List.count, List.countP_map]
        rfl
    _ ≤ 1 := List.nodup_iff_count_le_one.1 h.identities_nodup identity

end Worker

end FlowScheduler
