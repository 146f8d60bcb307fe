import Mathlib
import FlowScheduler.Proofs.Recurrence.ConstantOffset
import FlowScheduler.Zone.Database

/-!
Readings of a zone's clock.

A clock that is set forward skips readings (`Zone.skips`). It shows every other reading, and before the instant
of that reading it has shown earlier ones only (`Zone.shown_of_not_skips`). The instant of a skipped reading
shows a later one, so no instant shows less than the reading that it is the instant of
(`Zone.not_toLocal_lt`).
-/

namespace FlowScheduler

namespace Zone

/-- Whether the clock gets as far as the local second `l` before the end of the span. -/
def Span.reaches (s : Span) (l : Int) : Bool := s.stop.all fun stop => l < stop + s.offset

/-- Whether the clock passes over a reading: the first span that gets as far begins after it. A reading that
is shown outside the calendar only counts as skipped, too. -/
def skips (z : Zone) (l : LocalTime) : Bool :=
  !(z.spans.find? (·.reaches l.second)).any fun s =>
    s.showed l.second && (l.instantAt s.offset).inCalendar

theorem isAscending_fixed (name : String) (offset : Int) : (fixed name offset).IsAscending := .nil

/-- The transitions of every zone that can be resolved ascend. -/
theorem isAscending_resolve (name : String) : (resolve name).IsAscending := by
  rw [resolve]
  cases h : named? (Text.trim name) with
  | none => exact isAscending_fixed "Local" 0
  | some zone =>
    obtain ⟨history, -, h⟩ := Option.bind_eq_some_iff.1 h
    rw [ofHistory?] at h
    split at h
    · cases h
    · simp only [bind, Option.bind_eq_some_iff] at h
      obtain ⟨initial, -, past, -, tail, -, h⟩ := h
      split at h
      · next hascending =>
        cases h
        exact hascending
      · cases h

/-! ### Spans -/

section Spans

variable {ts : List Transition} {start : Option Int} {offset l m : Int} {s : Span}

theorem Span.reaches_of_showed (h : s.showed l) : s.reaches l := (Bool.and_eq_true_iff.1 h).2

theorem Span.start_le_of_showed {a : Int} (h : s.showed l) (ha : s.start = some a) :
    a + s.offset ≤ l := by
  have hstart := (Bool.and_eq_true_iff.1 h).1
  rw [ha] at hstart
  simpa using hstart

theorem start_le_of_mem_spansFrom {a : Int} (hts : ts.Pairwise (·.second < ·.second))
    (ha : ∀ t ∈ ts, a < t.second) (h : s ∈ spansFrom (some a) offset ts) :
    ∃ b, s.start = some b ∧ a ≤ b := by
  induction ts generalizing a offset with
  | nil =>
    cases List.mem_singleton.1 h
    exact ⟨a, rfl, Int.le_refl a⟩
  | cons t ts ih =>
    obtain ⟨hfirst, hts⟩ := List.pairwise_cons.1 hts
    rcases List.mem_cons.1 h with rfl | h
    · exact ⟨a, rfl, Int.le_refl a⟩
    · obtain ⟨b, hb, hle⟩ := ih hts hfirst h
      have hat := ha t List.mem_cons_self
      exact ⟨b, hb, by omega⟩

/-- A span has the offset of the instants at which it shows its readings. -/
theorem offsetFrom_of_showed (hts : ts.Pairwise (·.second < ·.second))
    (hs : s ∈ spansFrom start offset ts) (h : s.showed l) :
    offsetFrom (l - s.offset) offset ts = s.offset := by
  induction ts generalizing start offset with
  | nil =>
    cases List.mem_singleton.1 hs
    rfl
  | cons t ts ih =>
    obtain ⟨hfirst, hts⟩ := List.pairwise_cons.1 hts
    rw [offsetFrom]
    rcases List.mem_cons.1 hs with rfl | hs
    · have hbefore : l < t.second + offset := by simpa [Span.reaches] using Span.reaches_of_showed h
      exact if_neg (by simp only; omega)
    · obtain ⟨b, hb, hle⟩ := start_le_of_mem_spansFrom hts hfirst hs
      have hafter := Span.start_le_of_showed h hb
      rw [if_pos (by omega)]
      exact ih hts hs

/-- Before the first span that gets as far as a reading, the clock shows earlier ones only. -/
theorem shown_lt_of_find?_reaches (hs : (spansFrom start offset ts).find? (·.reaches l) = some s)
    (hm : m < l - s.offset) : m + offsetFrom m offset ts < l := by
  induction ts generalizing start offset with
  | nil =>
    cases List.mem_singleton.1 (List.mem_of_find?_eq_some hs)
    rw [offsetFrom]
    simp only at hm
    omega
  | cons t ts ih =>
    rw [spansFrom, List.find?_cons] at hs
    rw [offsetFrom]
    split at hs
    · next hreaches =>
      cases hs
      have hbefore : l < t.second + offset := by simpa [Span.reaches] using hreaches
      simp only at hm
      rw [if_neg (by omega)]
      omega
    · next hreaches =>
      have hafter : t.second + offset ≤ l := by simpa [Span.reaches] using hreaches
      split
      · exact ih hs
      · omega

end Spans

/-! ### Readings -/

variable {z : Zone} {l : LocalTime} {i : Instant} {s : Span}

theorem toLocal_of_showed (hz : z.IsAscending) (hs : s ∈ z.spans) (h : s.showed l.second) :
    z.toLocal (l.instantAt s.offset) = l := by
  have hoffset : z.offsetAt (l.instantAt s.offset) = s.offset := offsetFrom_of_showed hz hs h
  rw [toLocal, hoffset, LocalTime.shownAt_instantAt]

theorem toLocal_of_firstShown? (hz : z.IsAscending) (h : z.firstShown? l = some i) :
    z.toLocal i = l := by
  rw [firstShown?] at h
  split at h
  · next s hs =>
    simp only at h
    split at h
    · cases h
      have hshowed : s.showed l.second = true := by simpa using List.find?_some hs
      exact toLocal_of_showed hz (List.mem_of_find?_eq_some hs) hshowed
    · cases h
  · cases h

/-- At a reading's instant the clock shows the reading, or the one of an hour later if it never shows it. -/
theorem toLocal_of_ofLocal? (hz : z.IsAscending) (h : z.ofLocal? l = some i) :
    z.toLocal i = if (z.firstShown? l).isSome then l else l.hourLater := by
  rcases Option.or_eq_some_iff.1 h with h | ⟨hnone, h⟩
  · rw [toLocal_of_firstShown? hz h, h]
    rfl
  · rw [toLocal_of_firstShown? hz h, hnone]
    rfl

/-- The clock does not show less than a reading at the reading's instant. -/
theorem not_toLocal_lt (hz : z.IsAscending) (h : z.ofLocal? l = some i) : ¬z.toLocal i < l := by
  rw [toLocal_of_ofLocal? hz h, LocalTime.lt_iff]
  split
  · omega
  · simp only [LocalTime.hourLater]
    omega

/-- The first span that gets as far as a reading is the first to show it, if it shows it. -/
private theorem find?_showed {spans : List Span} {n : Int}
    (hs : spans.find? (·.reaches n) = some s) (h : s.showed n) :
    spans.find? (·.showed n) = some s := by
  induction spans with
  | nil => cases hs
  | cons s' spans ih =>
    rw [List.find?_cons] at hs ⊢
    cases hreaches : s'.reaches n with
    | true =>
      rw [hreaches] at hs
      cases hs
      rw [h]
    | false =>
      rw [hreaches] at hs
      have hnot : s'.showed n = false := by
        rw [← Bool.not_eq_true]
        intro hshowed
        rw [Span.reaches_of_showed hshowed] at hreaches
        cases hreaches
      rw [hnot]
      exact ih hs

/-- A reading that is not skipped is shown at its instant, and only earlier ones are shown before. -/
theorem shown_of_not_skips (hz : z.IsAscending) (h : ¬z.skips l) (hi : z.ofLocal? l = some i) :
    z.toLocal i = l ∧ ∀ j < i, z.toLocal j < l := by
  obtain ⟨s, hs, hshowed, hcal⟩ : ∃ s, z.spans.find? (·.reaches l.second) = some s ∧
      s.showed l.second ∧ (l.instantAt s.offset).inCalendar := by
    cases hs : z.spans.find? (·.reaches l.second) with
    | none => simp [skips, hs] at h
    | some s => exact ⟨s, rfl, by simpa [skips, hs] using h⟩
  have hfirst : z.firstShown? l = some (l.instantAt s.offset) := by
    rw [firstShown?, find?_showed hs hshowed]
    exact if_pos hcal
  rw [ofLocal?, hfirst, Option.some_or] at hi
  cases hi
  have hmem := List.mem_of_find?_eq_some hs
  have hoffset : z.offsetAt (l.instantAt s.offset) = s.offset := offsetFrom_of_showed hz hmem hshowed
  refine ⟨toLocal_of_showed hz hmem hshowed, fun j hj => ?_⟩
  rw [Instant.lt_iff] at hj
  rw [LocalTime.lt_iff]
  rcases hj with hlt | ⟨heq, hlt⟩
  · exact .inl (shown_lt_of_find?_reaches hs hlt)
  · -- Within a second the offset is the same, and the fractions decide.
    have hj : z.offsetAt j = s.offset := by rw [← hoffset, offsetAt, offsetAt, heq]
    refine .inr ⟨?_, hlt⟩
    simp only [toLocal, hj, Instant.shownAt, heq, LocalTime.instantAt]
    omega

end Zone

end FlowScheduler
