import Mathlib
import FlowScheduler.Proofs.Zone

/-!
The earliest launch in zones that set their clocks.

The search for the next launch goes through a rule's readings in their order and compares their instants with
the reference. Where the clock skips no reading of the rule the two orders agree, and the result is the
earliest launch. A skipped reading has its instant one hour later, behind the instants of the readings of that
hour. So a launch before the result is missed only if its own reading is skipped and the clock has already
passed it, or if the result belongs to a skipped reading that comes before the one of the launch
(`Rule.Misses`); and a launch that one search misses is not found by the searches from its result on.
-/

namespace FlowScheduler

namespace Rule

variable {r : Rule} {zone : Zone} {reference x y : Instant} {k l : LocalTime}

/-- Whether a rule launches at a reading of a zone's clock, and the instant of that launch. -/
structure LaunchesAt (r : Rule) (zone : Zone) (l : LocalTime) (i : Instant) : Prop where
  inCalendar : l.date.inCalendar
  admits : r.admits l.date
  mem_times : l.time ∈ r.times
  ofLocal? : zone.ofLocal? l = some i

/-- Whether the search from a reference in the calendar ends with an instant. -/
structure Finds (r : Rule) (zone : Zone) (reference x : Instant) : Prop where
  inCalendar : (scanStart zone reference).date.inCalendar
  next? : r.next? zone reference = some x

/-- The ways in which the search from a reference to `x` misses the launch at a reading. -/
inductive Misses (r : Rule) (zone : Zone) (reference x : Instant) (l : LocalTime) : Prop where
  /-- The reading is skipped, and the clock has already passed it. -/
  | passed (skipped : zone.skips l) (passed : ¬zone.toLocal reference < l)
  /-- The launch at `x` is that of a skipped reading, which comes before this one. -/
  | postponed (k : LocalTime) (launch : r.LaunchesAt zone k x) (skipped : zone.skips k) (before : k < l)
  /-- The reading lies between the reference and the second that it is rounded up to. -/
  | rounded (after : zone.toLocal reference < l) (start : ¬scanStart zone reference < l)

/-- A whole second is not rounded, so only skipped readings make its search miss anything. -/
theorem Misses.skips (h : r.Misses zone reference x l) (hr : reference.nanos = 0) :
    ∃ k, zone.skips k ∧ (k = l ∨ r.LaunchesAt zone k x) := by
  cases h with
  | passed hskips _ => exact ⟨l, hskips, .inl rfl⟩
  | postponed k hk hskips _ => exact ⟨k, hskips, .inr hk⟩
  | rounded hafter hstart =>
    have hwhole : (zone.toLocal reference).nanos = 0 := hr
    rw [LocalTime.lt_iff] at hafter hstart
    simp only [LocalTime.ceilSecond, hwhole, if_true] at hstart
    omega

private theorem LaunchesAt.tries (h : r.LaunchesAt zone l y)
    (hl : scanStart zone reference < l) : r.Tries (scanStart zone reference) l.date l.time :=
  ⟨h.inCalendar, h.admits, h.mem_times, (LocalTime.precedes_iff _ _).2 hl⟩

/-- The result is the launch at the first reading after the start whose instant is after the reference. -/
theorem Finds.launchesAt (h : r.Finds zone reference x)
    (hs : r.times.toList.Pairwise (· < ·)) :
    ∃ k, r.LaunchesAt zone k x ∧ ∀ l y, r.LaunchesAt zone l y → scanStart zone reference < l →
      reference < y → ¬l < k := by
  obtain ⟨d, t, -, ht, hx, hfirst⟩ := next?_eq_some hs h.inCalendar h.next?
  obtain ⟨hx, -⟩ := instantOn?_eq_some_iff.1 hx
  refine ⟨.ofDateTime d t, ⟨?_, ?_, ?_, hx⟩, fun l y hl hstart hy hlt => ?_⟩
  · simpa using ht.inCalendar
  · simpa using ht.admits
  · simpa using ht.mem_times
  · have htries := hl.tries hstart
    have hprec : Precedes l.date l.time d t := by
      simpa using (LocalTime.precedes_iff l (.ofDateTime d t)).2 hlt
    have hnone := hfirst _ _ htries htries.date_le hprec
    have hsome : instantOn? zone reference l.date l.time = some y :=
      instantOn?_eq_some_iff.2 ⟨by simpa using hl.ofLocal?, hy⟩
    rw [hsome] at hnone
    cases hnone

/-- No launch after the reference comes before the result of a search that does not miss it. -/
private theorem le_or_misses (hs : r.times.toList.Pairwise (· < ·)) (hz : zone.IsAscending)
    (hl : r.LaunchesAt zone l y) (h : r.Finds zone reference x) (hy : reference < y) :
    x ≤ y ∨ r.Misses zone reference x l := by
  obtain ⟨k, hk, hfirst⟩ := h.launchesAt hs
  by_cases hstart : scanStart zone reference < l
  · by_cases hkl : k < l
    · by_cases hskips : zone.skips k
      · exact .inr (.postponed k hk hskips hkl)
      · -- Before `x` the clock shows less than `k`, and at `y` at least `l`.
        refine .inl (Instant.not_lt.1 fun hyx => ?_)
        have hyk := (Zone.shown_of_not_skips hz hskips hk.ofLocal?).2 y hyx
        have hyl := Zone.not_toLocal_lt hz hl.ofLocal?
        rw [LocalTime.lt_iff] at hkl hyk hyl
        omega
    · have heq : k = l := by
        have hlk := hfirst l y hl hstart hy
        rw [LocalTime.lt_iff] at hkl hlk
        rw [LocalTime.ext_iff]
        omega
      have hxy : some x = some y := hk.ofLocal?.symm.trans (heq ▸ hl.ofLocal?)
      cases hxy
      exact .inl (Instant.le_refl x)
  · by_cases hafter : zone.toLocal reference < l
    · exact .inr (.rounded hafter hstart)
    · by_cases hskips : zone.skips l
      · exact .inr (.passed hskips hafter)
      · exact absurd ((Zone.shown_of_not_skips hz hskips hl.ofLocal?).2 reference hy) hafter

/-- A launch up to the last result of several searches in a row is one of the results, or the search
between the two around it misses it. -/
private theorem mem_or_misses (hs : r.times.toList.Pairwise (· < ·)) (hz : zone.IsAscending)
    (hl : r.LaunchesAt zone l y) {xs : List Instant}
    (hxs : (reference :: xs).IsChain (r.Finds zone)) (hy : reference < y) (hlast : ∃ x ∈ xs, y ≤ x) :
    y ∈ xs ∨ ∃ a b, [a, b] <:+: reference :: xs ∧ a < y ∧ y < b ∧ r.Misses zone a b l := by
  induction xs generalizing reference with
  | nil =>
    obtain ⟨x, hx, -⟩ := hlast
    cases hx
  | cons x xs ih =>
    obtain ⟨hfinds, hxs⟩ := List.isChain_cons_cons.1 hxs
    by_cases hyx : y < x
    · rcases le_or_misses hs hz hl hfinds hy with hle | hmisses
      · exact absurd hyx (Instant.not_lt.2 hle)
      · exact .inr ⟨reference, x, ⟨[], xs, rfl⟩, hy, hyx, hmisses⟩
    · by_cases heq : y = x
      · exact .inl (heq ▸ List.mem_cons_self)
      · have hlt : x < y := by
          rw [Instant.ext_iff] at heq
          rw [Instant.lt_iff] at hyx ⊢
          omega
        have hlast : ∃ x' ∈ xs, y ≤ x' := by
          obtain ⟨x', hx', hle⟩ := hlast
          rcases List.mem_cons.1 hx' with rfl | hx'
          · exact absurd hle (Instant.not_le.2 hlt)
          · exact ⟨x', hx', hle⟩
        rcases ih hxs hlt hlast with hmem | ⟨a, b, hab, hay, hyb, hmisses⟩
        · exact .inl (List.mem_cons_of_mem _ hmem)
        · exact .inr ⟨a, b, List.infix_cons hab, hay, hyb, hmisses⟩

/-- The search for the next launch of a valid rule ends with a launch after the reference, the earliest one, and
searches in a row leave none out, except for the launches that a search misses. -/
theorem next?_earliest_or_misses {definition : RuleDefinition} {r : Rule}
    (hr : ofDefinition definition = .ok r) {zone : Zone} (hz : zone.IsAscending) {l : LocalTime}
    {y : Instant} (hl : r.LaunchesAt zone l y) {reference : Instant} (hy : reference < y) :
    (∀ x, r.Finds zone reference x → reference < x ∧ (∃ k, r.LaunchesAt zone k x) ∧
      (x ≤ y ∨ r.Misses zone reference x l)) ∧
      ∀ xs, (reference :: xs).IsChain (r.Finds zone) → (∃ x ∈ xs, y ≤ x) →
        y ∈ xs ∨ ∃ a b, [a, b] <:+: reference :: xs ∧ a < y ∧ y < b ∧ r.Misses zone a b l := by
  have hs := times_ascending hr
  constructor
  · intro x hx
    obtain ⟨k, hk, -⟩ := hx.launchesAt hs
    exact ⟨next?_gt hx.next?, ⟨k, hk⟩, le_or_misses hs hz hl hx hy⟩
  · intro xs hxs hlast
    exact mem_or_misses hs hz hl hxs hy hlast

/-- Where the clock skips no reading of the rule, the search from a whole second finds the earliest launch. -/
theorem next?_le_of_not_skips {definition : RuleDefinition} {r : Rule}
    (hr : ofDefinition definition = .ok r) (hz : zone.IsAscending) (hwhole : reference.nanos = 0)
    (h : r.Finds zone reference x)
    (hno : ∀ l y, r.LaunchesAt zone l y → reference < y → y ≤ x → ¬zone.skips l)
    (hl : r.LaunchesAt zone l y) (hy : reference < y) : x ≤ y := by
  refine Instant.not_lt.1 fun hlt => ?_
  rcases le_or_misses (times_ascending hr) hz hl h hy with hle | hmisses
  · exact Instant.not_lt.2 hle hlt
  · obtain ⟨k, hskips, rfl | hk⟩ := hmisses.skips hwhole
    · exact hno k y hl hy (Instant.le_of_lt hlt) hskips
    · exact hno k x hk (next?_gt h.next?) (Instant.le_refl x) hskips

/-! ### A reading that is skipped -/

/-- A clock that is set forward by one hour at the end of March 2024, at 02:00. -/
private def paris : Zone := ⟨"Europe/Paris", 3600, [⟨1711846800, 7200⟩]⟩

private def halfPastTwo : TimeOfDay := ((Instant.ofSecond 9000).shownAt 0).time

private def quarterPastThree : TimeOfDay := ((Instant.ofSecond 11700).shownAt 0).time

private def twice : Rule :=
  ⟨.listed, #[halfPastTwo, quarterPastThree], .full 12, .full 7, .any⟩

private theorem twice_ofDefinition : ofDefinition { hours := "02:30:00,03:15:00" } = .ok twice := by
  have hsorted : TimeOfDay.ascending [halfPastTwo, quarterPastThree] =
      [halfPastTwo, quarterPastThree] := by cbv
  have hread : TimeOfDay.listOfText "02:30:00,03:15:00" =
      .ok (TimeOfDay.ascending [halfPastTwo, quarterPastThree]) := rfl
  simp only [ofDefinition, timesOf, hread, hsorted]
  rfl

/-- The search from midnight ends at half past two, which the clock shows as half past three. -/
private theorem twice_finds_skipped :
    twice.Finds paris (.ofSecond 1711843200) (.ofSecond 1711848600) where
  inCalendar := by decide
  next? := by decide +kernel

private theorem twice_launchesAt_quarterPastThree :
    twice.LaunchesAt paris (.ofDateTime ⟨19813⟩ quarterPastThree) (.ofSecond 1711847700) where
  inCalendar := by decide
  admits := by decide
  mem_times := by simp [twice]
  ofLocal? := by decide

/-- A quarter past three is missed, as the clock shows it before half past two is made up for. -/
theorem next?_earliest_or_misses_over_gap :
    let midnight := Instant.ofSecond 1711843200
    let found := Instant.ofSecond 1711848600
    let l := LocalTime.ofDateTime ⟨19813⟩ quarterPastThree
    let missed := Instant.ofSecond 1711847700
    ofDefinition { hours := "02:30:00,03:15:00" } = .ok twice ∧ paris.IsAscending ∧
      twice.LaunchesAt paris l missed ∧ midnight < missed ∧
      [midnight, found].IsChain (twice.Finds paris) ∧ missed ≤ found ∧
      (midnight < found ∧ (∃ k, twice.LaunchesAt paris k found) ∧
        (found ≤ missed ∨ twice.Misses paris midnight found l)) ∧
      (missed ∈ [found] ∨ ∃ a b, [a, b] <:+: [midnight, found] ∧ a < missed ∧ missed < b ∧
        twice.Misses paris a b l) := by
  intro midnight found l missed
  have hz : paris.IsAscending := by decide
  have hl : twice.LaunchesAt paris l missed := twice_launchesAt_quarterPastThree
  have hlt : midnight < missed := by decide
  have hle : missed ≤ found := by decide
  have hchain : [midnight, found].IsChain (twice.Finds paris) :=
    .cons_cons twice_finds_skipped (.singleton _)
  obtain ⟨hfirst, hall⟩ := next?_earliest_or_misses twice_ofDefinition hz hl hlt
  exact ⟨twice_ofDefinition, hz, hl, hlt, hchain, hle, hfirst found twice_finds_skipped,
    hall [found] hchain ⟨found, List.mem_cons_self, hle⟩⟩

/-- The earliest launch after a whole second is not the result of the search from there. -/
theorem next?_not_earliest_over_gap :
    ∃ r, ofDefinition { hours := "02:30:00,03:15:00" } = .ok r ∧
      ∃ (reference x y : Instant) (l : LocalTime), reference.nanos = 0 ∧ r.Finds paris reference x ∧
        r.LaunchesAt paris l y ∧ reference < y ∧ y < x :=
  ⟨twice, twice_ofDefinition, .ofSecond 1711843200, .ofSecond 1711848600, .ofSecond 1711847700,
    .ofDateTime ⟨19813⟩ quarterPastThree, rfl, twice_finds_skipped, twice_launchesAt_quarterPastThree,
    by decide, by decide⟩

end Rule

end FlowScheduler
