import Mathlib
import FlowScheduler.Proofs.Dispatch.Launches

/-!
The lookahead as a set of launches.

Whatever is added, taken out and dropped, the lookahead holds the launches that a plain set would hold, and it
hands out those that are due in ascending order, each once (`actsAsSet_iff`). Due at an instant is what comes before
the first instant after it. That is every instant up to it and, at the last nanosecond of a second, the leap second
that may follow. With a launch there the lookahead does not act like a set that is cut at the instant itself, and
otherwise it does.
-/

namespace FlowScheduler

/-! ### Order -/

namespace PlannedLaunch

variable {a b : PlannedLaunch}

/-- Whether a launch comes before another one: by instant, then by schedule. -/
def Precedes (a b : PlannedLaunch) : Prop :=
  a.instant < b.instant ∨ a.instant = b.instant ∧ a.scheduleId < b.scheduleId

theorem isBefore_iff : a.isBefore b ↔ a.instant < b.instant ∨ a.instant = b.instant ∧ a.scheduleId ≤ b.scheduleId := by
  simp [isBefore]

theorem isBefore_trans (a b c : PlannedLaunch) (hab : a.isBefore b) (hbc : b.isBefore c) : a.isBefore c := by
  rw [isBefore_iff] at *
  rcases hab with hlt | ⟨heq, hle⟩
  · rcases hbc with hlt' | ⟨heq', -⟩
    · exact .inl (Instant.lt_trans hlt hlt')
    · exact .inl (heq' ▸ hlt)
  · rcases hbc with hlt' | ⟨heq', hle'⟩
    · exact .inl (heq ▸ hlt')
    · exact .inr ⟨heq.trans heq', Int.le_trans hle hle'⟩

theorem isBefore_total (a b : PlannedLaunch) : (a.isBefore b || b.isBefore a) = true := by
  rw [Bool.or_eq_true, isBefore_iff, isBefore_iff, Instant.lt_iff, Instant.lt_iff, Instant.ext_iff, Instant.ext_iff]
  omega

theorem precedes_of_isBefore (h : a.isBefore b) (hne : a ≠ b) : a.Precedes b := by
  rcases isBefore_iff.1 h with hlt | ⟨heq, hle⟩
  · exact .inl hlt
  · refine .inr ⟨heq, Int.lt_iff_le_and_ne.2 ⟨hle, fun hid => hne ?_⟩⟩
    cases a
    cases b
    simp_all

end PlannedLaunch

/-! ### Operations -/

/-- What is done to a lookahead. -/
inductive LookaheadOperation where
  | add (e : PlannedLaunch)
  /-- The launches due at an instant are taken out. -/
  | pop (now : Instant)
  /-- The launches after an instant are dropped. -/
  | drop (reference : Instant)
  deriving DecidableEq, Repr

namespace Lookahead

variable {l : Lookahead} {e : PlannedLaunch} {due : Instant → Instant → Bool} {now : Instant}
  {ops done : List LookaheadOperation} {op : LookaheadOperation}

/-- The lookahead after an operation. -/
def perform (l : Lookahead) : LookaheadOperation → Lookahead
  | .add e => l.add e
  | .pop now => l.dropDue now
  | .drop reference => l.dropAfter reference

/-- The launches that an operation hands out. -/
def taken (l : Lookahead) : LookaheadOperation → List PlannedLaunch
  | .pop now => l.due now
  | .add _ | .drop _ => []

/-- The lookahead after operations on the empty one. -/
def after (ops : List LookaheadOperation) : Lookahead := ops.foldl perform ∅

/-- The launches of a lookahead, in no order. -/
def contents (l : Lookahead) : Finset PlannedLaunch := l.entries.toFinset

@[simp] theorem mem_contents : e ∈ l.contents ↔ e ∈ l := List.mem_toFinset

theorem size_eq_card (l : Lookahead) : l.size = l.contents.card :=
  (List.toFinset_card_of_nodup l.nodup).symm

theorem isEmpty_iff (l : Lookahead) : l.isEmpty ↔ l.contents = ∅ := by
  rw [isEmpty, List.isEmpty_iff, contents, List.toFinset_eq_empty_iff]

/-- The due launches come in ascending order, each once. -/
theorem pairwise_due (l : Lookahead) (now : Instant) : (l.due now).Pairwise PlannedLaunch.Precedes := by
  have hsorted := List.pairwise_mergeSort PlannedLaunch.isBefore_trans PlannedLaunch.isBefore_total
    (l.entries.filter (isDue now))
  have hnodup : (l.due now).Nodup := (List.mergeSort_perm _ _).nodup_iff.2 (l.nodup.filter _)
  exact (hsorted.and hnodup).imp fun h => PlannedLaunch.precedes_of_isBefore h.1 h.2

/-! ### Plain sets -/

/-- What an operation leaves of a set, given which instants are due at which. -/
def onSet (due : Instant → Instant → Bool) (s : Finset PlannedLaunch) :
    LookaheadOperation → Finset PlannedLaunch
  | .add e => insert e s
  | .pop now => s.filter fun e => !due now e.instant
  | .drop reference => s.filter fun e => due reference e.instant

/-- What operations on the empty set leave. -/
def setAfter (due : Instant → Instant → Bool) (ops : List LookaheadOperation) : Finset PlannedLaunch :=
  ops.foldl (onSet due) ∅

/-- Whether an operation on a set hands out these launches: those that are due, each once, in ascending order. -/
def HandsOut (due : Instant → Instant → Bool) (s : Finset PlannedLaunch) :
    LookaheadOperation → List PlannedLaunch → Prop
  | .pop now, es => (∀ e, e ∈ es ↔ e ∈ s ∧ due now e.instant) ∧ es.Pairwise PlannedLaunch.Precedes
  | .add _, es | .drop _, es => es = []

/-- Whether the lookahead is a plain set to everyone who performs these operations on it. -/
structure ActsAsSet (due : Instant → Instant → Bool) (ops : List LookaheadOperation) : Prop where
  contents : ∀ done, done <+: ops → (after done).contents = setAfter due done
  size : ∀ done, done <+: ops → (after done).size = (setAfter due done).card
  isEmpty : ∀ done, done <+: ops → ((after done).isEmpty ↔ setAfter due done = ∅)
  handsOut : ∀ done op, done ++ [op] <+: ops → HandsOut due (setAfter due done) op ((after done).taken op)

theorem after_concat : after (done ++ [op]) = (after done).perform op := List.foldl_concat ..

theorem setAfter_concat : setAfter due (done ++ [op]) = onSet due (setAfter due done) op := List.foldl_concat ..

/-- Whether an operation finds the same launches of a lookahead due as the lookahead does. -/
def CutsAlike (due : Instant → Instant → Bool) (l : Lookahead) : LookaheadOperation → Prop
  | .add _ => True
  | .pop now | .drop now => ∀ e ∈ l, (isDue now e ↔ due now e.instant)

theorem contents_perform (h : CutsAlike due l op) : (l.perform op).contents = onSet due l.contents op := by
  ext e
  cases op with
  | add f => simp [perform, onSet]
  | pop now =>
    have hcut : e ∈ l → (isDue now e ↔ due now e.instant) := h e
    simp only [perform, onSet, dropDue, mem_contents, mem_filter, Finset.mem_filter, Bool.not_eq_true',
      ← Bool.not_eq_true]
    exact and_congr_right fun he => not_congr (hcut he)
  | drop reference =>
    have hcut : e ∈ l → (isDue reference e ↔ due reference e.instant) := h e
    simp only [perform, onSet, dropAfter, mem_contents, mem_filter, Finset.mem_filter]
    exact and_congr_right hcut

theorem handsOut_taken (h : CutsAlike due l op) : HandsOut due l.contents op (l.taken op) := by
  cases op with
  | add | drop => rfl
  | pop now =>
    refine ⟨fun e => ?_, l.pairwise_due now⟩
    rw [taken, mem_due, mem_contents]
    exact and_congr_right (h e)

/-- Step by step, the lookahead acts like a set that finds the same launches due. -/
theorem actsAsSet_of_cutsAlike (h : ∀ done op, done ++ [op] <+: ops → CutsAlike due (after done) op) :
    ActsAsSet due ops := by
  have hcontents : ∀ done, done <+: ops → (after done).contents = setAfter due done := by
    intro done hdone
    induction done using List.reverseRecOn with
    | nil => rfl
    | append_singleton done op ih =>
      rw [after_concat, setAfter_concat, contents_perform (h done op hdone),
        ih ((List.prefix_append done [op]).trans hdone)]
  refine ⟨hcontents, fun done hdone => ?_, fun done hdone => ?_, fun done op hdone => ?_⟩
  · rw [size_eq_card, hcontents done hdone]
  · rw [isEmpty_iff, hcontents done hdone]
  · rw [← hcontents done ((List.prefix_append done [op]).trans hdone)]
    exact handsOut_taken (h done op hdone)

/-! ### The leap second -/

/-- Whether an instant comes before the first one after `now`. -/
def comesBeforeNext (now i : Instant) : Bool := i < now.addNanos 1

/-- Whether an instant does not come after `now`. -/
def comesUpTo (now i : Instant) : Bool := i ≤ now

theorem isDue_iff_or : isDue now e ↔ e.instant ≤ now ∨ now.FollowsInLeapSecond e.instant := by
  rw [isDue, decide_eq_true_iff, Instant.lt_addNanos_one_iff_or]

/-- Whether an operation comes to a launch in the leap second right behind its instant. -/
def Confuses (e : PlannedLaunch) : LookaheadOperation → Prop
  | .add _ => False
  | .pop now | .drop now => now.FollowsInLeapSecond e.instant

theorem cutsAlike_comesUpTo (h : ∀ e ∈ l, ¬Confuses e op) : CutsAlike comesUpTo l op := by
  cases op with
  | add => trivial
  | pop now | drop now =>
    intro e he
    have hclear : ¬now.FollowsInLeapSecond e.instant := h e he
    rw [isDue_iff_or, or_iff_left hclear, comesUpTo, decide_eq_true_iff]

/-- Only one of the two keeps the launch. -/
theorem contents_perform_ne (he : e ∈ l) (h : Confuses e op) :
    (l.perform op).contents ≠ onSet comesUpTo l.contents op := by
  intro hsame
  have hmem : e ∈ (l.perform op).contents ↔ e ∈ onSet comesUpTo l.contents op := by rw [hsame]
  cases op with
  | add => exact h
  | pop now =>
    have hdue : isDue now e := isDue_iff_or.2 (.inr h)
    have hlater : ¬e.instant ≤ now := Instant.not_le.2 (Instant.FollowsInLeapSecond.lt h)
    simp [perform, dropDue, onSet, comesUpTo, he, hdue, hlater] at hmem
  | drop reference =>
    have hdue : isDue reference e := isDue_iff_or.2 (.inr h)
    have hlater : ¬e.instant ≤ reference := Instant.not_le.2 (Instant.FollowsInLeapSecond.lt h)
    simp [perform, dropAfter, onSet, comesUpTo, he, hdue, hlater] at hmem

/-- Whatever is done to it, the lookahead acts like a set from which all launches before the first instant after `now`
are taken out in ascending order, or all others dropped. It acts like one that is cut at `now` itself if and only if no
operation at the last nanosecond of a second comes to a launch in the leap second behind it. -/
theorem actsAsSet_iff (ops : List LookaheadOperation) :
    ActsAsSet comesBeforeNext ops ∧
      (ActsAsSet comesUpTo ops ↔ ∀ done op, done ++ [op] <+: ops → ∀ e ∈ after done, ¬Confuses e op) := by
  refine ⟨actsAsSet_of_cutsAlike fun done op _ => ?_, fun hset done op hdone e he hconfused => ?_, fun hnone => ?_⟩
  · cases op with
    | add => trivial
    | pop | drop => exact fun e _ => Iff.rfl
  · have hbefore := hset.contents done ((List.prefix_append done [op]).trans hdone)
    have hafter := hset.contents (done ++ [op]) hdone
    rw [after_concat, setAfter_concat, ← hbefore] at hafter
    exact contents_perform_ne he hconfused hafter
  · exact actsAsSet_of_cutsAlike fun done op hdone => cutsAlike_comesUpTo (hnone done op hdone)

/-- The last nanosecond of 2016. -/
private def yearEnd : Instant := { second := 1483228799, nanos := 999999999 }

private def inLeapSecond : PlannedLaunch := ⟨.leapBefore (.ofSecond 1483228800), 1⟩

/-- A launch in the leap second is handed out a nanosecond before it. -/
theorem leapSecond_taken_early : yearEnd < inLeapSecond.instant ∧
    ¬ActsAsSet comesUpTo [.add inLeapSecond, .pop yearEnd] := by
  refine ⟨by decide, fun hset => ?_⟩
  have hsize := hset.size _ (List.prefix_refl _)
  exact absurd hsize (by decide)

end Lookahead

end FlowScheduler
