import Mathlib
import FlowScheduler.Proofs.Recurrence.Scan
import FlowScheduler.Recurrence.Schedule

/-!
Launches in a zone of constant offset.

There each local reading has its instant and later readings have later instants, so a rule or a schedule
*occurs* at the instants that show one of its dates with one of its times (`Rule.Occurs`). The next launch
is an occurrence after the reference rounded up to a whole second (`CompiledSchedule.occurs_of_next?`), and
the earliest of them (`CompiledSchedule.next?_le_of_occurs`).
-/

namespace FlowScheduler

/-! ### Whole seconds -/

namespace Instant

/-- The instant rounded up to a whole second. -/
def ceilSecond (i : Instant) : Instant := ofSecond (if i.nanos = 0 then i.second else i.second + 1)

theorem ceilSecond_second (i : Instant) :
    i.ceilSecond.second = if i.nanos = 0 then i.second else i.second + 1 := rfl

@[simp] theorem ceilSecond_nanos (i : Instant) : i.ceilSecond.nanos = 0 := rfl

theorem ceilSecond_shownAt (i : Instant) (offset : Int) :
    (i.shownAt offset).ceilSecond = i.ceilSecond.shownAt offset := by
  refine LocalTime.ext_iff.2 ⟨?_, rfl⟩
  simp only [LocalTime.ceilSecond, ceilSecond_second, shownAt]
  split <;> omega

theorem le_ceilSecond (i : Instant) : i ≤ i.ceilSecond := by
  rw [le_iff]
  simp only [ceilSecond_second, ceilSecond_nanos]
  split <;> omega

/-- No whole second lies between an instant and what it is rounded up to. -/
theorem ceilSecond_le_of_lt {i j : Instant} (h : i < j) (hj : j.nanos = 0) : i.ceilSecond ≤ j := by
  rw [lt_iff] at h
  rw [le_iff]
  simp only [ceilSecond_second, ceilSecond_nanos]
  split <;> omega

theorem ceilSecond_of_nanos {i : Instant} (h : i.nanos = 0) : i.ceilSecond = i := by
  refine ext_iff.2 ⟨?_, h.symm⟩
  rw [ceilSecond_second, if_pos h]

theorem ceilSecond_mono {i j : Instant} (h : i ≤ j) : i.ceilSecond ≤ j.ceilSecond := by
  rw [le_iff] at h ⊢
  simp only [ceilSecond_second, ceilSecond_nanos]
  split <;> split <;> omega

/-- Whether the instant is a whole second or the beginning of a leap second. -/
def IsWhole (i : Instant) : Prop := i.nanos = 0 ∨ i.nanos = nanosPerSecond

theorem inCalendar_of_le_of_le {i j k : Instant} (hi : i.inCalendar) (hk : k.inCalendar)
    (hij : i.second ≤ j.second) (hjk : j.second ≤ k.second) : j.inCalendar := by
  simp only [inCalendar, Date.inCalendar_iff, date] at hi hk ⊢
  omega

end Instant

namespace LocalTime

@[simp] theorem instantAt_shownAt (i : Instant) (offset : Int) :
    (i.shownAt offset).instantAt offset = i :=
  Instant.ext_iff.2 ⟨by simp only [instantAt, Instant.shownAt]; omega, rfl⟩

@[simp] theorem shownAt_instantAt (l : LocalTime) (offset : Int) :
    (l.instantAt offset).shownAt offset = l :=
  ext_iff.2 ⟨by simp only [instantAt, Instant.shownAt]; omega, rfl⟩

@[simp] theorem ofDateTime_date_time (l : LocalTime) : ofDateTime l.date l.time = l :=
  ext_iff.2 ⟨by simp only [ofDateTime, date, time]; omega, rfl⟩

@[simp] theorem date_ofDateTime (d : Date) (t : TimeOfDay) : (ofDateTime d t).date = d := by
  have := t.second_lt
  refine Date.ext_dayNumber ?_
  simp only [ofDateTime, date]
  omega

@[simp] theorem time_ofDateTime (d : Date) (t : TimeOfDay) : (ofDateTime d t).time = t := by
  have := t.second_lt
  refine TimeOfDay.ext_iff.2 ⟨?_, rfl⟩
  simp only [ofDateTime, time]
  omega

@[simp] theorem shownAt_lt_iff {i j : Instant} {offset : Int} :
    i.shownAt offset < j.shownAt offset ↔ i < j := by
  rw [lt_iff, Instant.lt_iff]
  simp only [Instant.shownAt]
  omega

/-- A scan tries readings in their order. -/
theorem precedes_iff (k l : LocalTime) : Rule.Precedes k.date k.time l.date l.time ↔ k < l := by
  rw [Rule.Precedes, lt_iff, TimeOfDay.lt_iff]
  simp only [date, time, Date.mk.injEq]
  omega

end LocalTime

/-! ### Zones of constant offset -/

namespace Zone

variable {zone : Zone} {offset : Int} {l : LocalTime} {reference x : Instant}

/-- Whether the clock of a zone has never been set. -/
structure IsConstant (zone : Zone) (offset : Int) : Prop where
  initial : zone.initial = offset
  transitions : zone.transitions = []

theorem IsConstant.toLocal_eq (h : zone.IsConstant offset) (i : Instant) :
    zone.toLocal i = i.shownAt offset := by
  obtain ⟨name, initial, transitions⟩ := zone
  obtain ⟨rfl, rfl⟩ := h
  rfl

private theorem IsConstant.firstShown?_eq (h : zone.IsConstant offset) :
    zone.firstShown? l = if (l.instantAt offset).inCalendar then some (l.instantAt offset) else none := by
  obtain ⟨name, initial, transitions⟩ := zone
  obtain ⟨rfl, rfl⟩ := h
  rfl

/-- After an instant of the calendar, a reading has its instant unless that lies past the calendar. -/
theorem IsConstant.ofLocal?_eq_some_iff (h : zone.IsConstant offset) (hr : reference.inCalendar)
    (hl : reference < l.instantAt offset) :
    zone.ofLocal? l = some x ↔ x = l.instantAt offset ∧ x.inCalendar := by
  have hlater : (l.hourLater.instantAt offset).inCalendar → (l.instantAt offset).inCalendar := by
    intro hlater
    refine Instant.inCalendar_of_le_of_le hr hlater ?_ ?_
    · rw [Instant.lt_iff] at hl
      omega
    · simp only [LocalTime.instantAt, LocalTime.hourLater]
      omega
  rw [ofLocal?, h.firstShown?_eq, h.firstShown?_eq]
  by_cases hcal : (l.instantAt offset).inCalendar
  · rw [if_pos hcal, Option.some_or, Option.some.injEq]
    constructor
    · rintro rfl
      exact ⟨rfl, hcal⟩
    · rintro ⟨rfl, -⟩
      rfl
  · rw [if_neg hcal, if_neg (mt hlater hcal), Option.none_or]
    constructor
    · intro hx
      cases hx
    · rintro ⟨rfl, hx⟩
      exact absurd hx hcal

end Zone

/-! ### Rules -/

namespace Rule

variable {r : Rule} {zone : Zone} {offset : Int} {reference x y : Instant}

/-- Whether an instant, shown at an offset, has a date that a rule admits and one of its times. -/
structure Occurs (r : Rule) (offset : Int) (i : Instant) : Prop where
  inCalendar : i.inCalendar
  shown_inCalendar : (i.shownAt offset).date.inCalendar
  admits : r.admits (i.shownAt offset).date
  mem_times : (i.shownAt offset).time ∈ r.times

theorem scanStart_eq (hz : zone.IsConstant offset) :
    scanStart zone reference = reference.ceilSecond.shownAt offset := by
  rw [scanStart, hz.toLocal_eq, Instant.ceilSecond_shownAt]

theorem Occurs.tries (h : r.Occurs offset y) (hz : zone.IsConstant offset)
    (hy : reference.ceilSecond < y) :
    r.Tries (scanStart zone reference) (y.shownAt offset).date (y.shownAt offset).time := by
  refine ⟨h.shown_inCalendar, h.admits, h.mem_times, ?_⟩
  rw [scanStart_eq hz, LocalTime.precedes_iff, LocalTime.shownAt_lt_iff]
  exact hy

private theorem Tries.ceilSecond_lt {d : Date} {t : TimeOfDay}
    (h : r.Tries (scanStart zone reference) d t) (hz : zone.IsConstant offset) :
    reference.ceilSecond < (LocalTime.ofDateTime d t).instantAt offset := by
  have hafter := (LocalTime.precedes_iff _ (.ofDateTime d t)).1 (by simpa using h.after)
  rwa [scanStart_eq hz, ← LocalTime.shownAt_instantAt (.ofDateTime d t) offset,
    LocalTime.shownAt_lt_iff] at hafter

/-- What is tried has the instant that shows it, if the calendar reaches that far. -/
private theorem Tries.instantOn?_eq_some_iff {d : Date} {t : TimeOfDay}
    (h : r.Tries (scanStart zone reference) d t) (hz : zone.IsConstant offset)
    (hr : reference.inCalendar) : instantOn? zone reference d t = some x ↔
      x = (LocalTime.ofDateTime d t).instantAt offset ∧ x.inCalendar := by
  have hlt := Instant.lt_of_le_of_lt (Instant.le_ceilSecond reference) (h.ceilSecond_lt hz)
  rw [Rule.instantOn?_eq_some_iff, hz.ofLocal?_eq_some_iff hr hlt]
  constructor
  · rintro ⟨hx, -⟩
    exact hx
  · rintro ⟨rfl, hcal⟩
    exact ⟨⟨rfl, hcal⟩, hlt⟩

/-- The next launch of a rule is one of its occurrences, after the reference rounded up. -/
theorem occurs_of_next? (hs : r.times.toList.Pairwise (· < ·)) (hz : zone.IsConstant offset)
    (hr : reference.inCalendar) (hcal : (scanStart zone reference).date.inCalendar)
    (h : r.next? zone reference = some x) : r.Occurs offset x ∧ reference.ceilSecond < x := by
  obtain ⟨d, t, -, ht, hx, -⟩ := next?_eq_some hs hcal h
  obtain ⟨rfl, hxcal⟩ := (ht.instantOn?_eq_some_iff hz hr).1 hx
  refine ⟨⟨hxcal, ?_, ?_, ?_⟩, ht.ceilSecond_lt hz⟩
  · simpa using ht.inCalendar
  · simpa using ht.admits
  · simpa using ht.mem_times

/-- No occurrence of the 365 days after the reference comes before the next launch of a rule. -/
theorem next?_le_of_occurs (hs : r.times.toList.Pairwise (· < ·)) (hz : zone.IsConstant offset)
    (hr : reference.inCalendar) (hcal : (scanStart zone reference).date.inCalendar)
    (h : r.Occurs offset y) (hy : reference.ceilSecond < y)
    (hyear : y.second ≤ reference.second + 365 * 86400) :
    ∃ x ∈ r.next? zone reference, x ≤ y := by
  have ht := h.tries hz hy
  have hfound : instantOn? zone reference (y.shownAt offset).date (y.shownAt offset).time = some y := by
    rw [ht.instantOn?_eq_some_iff hz hr]
    exact ⟨by simp, h.inCalendar⟩
  cases hx : r.next? zone reference with
  | none =>
    have hd : (y.shownAt offset).date.dayNumber ≤
        (scanStart zone reference).date.dayNumber + 365 := by
      have := Instant.le_ceilSecond reference
      rw [Instant.le_iff] at this
      rw [scanStart_eq hz]
      simp only [LocalTime.date, Instant.shownAt]
      omega
    rw [next?_eq_none hs hcal hx ht hd] at hfound
    cases hfound
  | some x =>
    obtain ⟨d, t, -, htx, hx, hfirst⟩ := next?_eq_some hs hcal hx
    refine ⟨x, rfl, Instant.not_lt.1 fun hlt => ?_⟩
    obtain ⟨rfl, -⟩ := (htx.instantOn?_eq_some_iff hz hr).1 hx
    rw [← LocalTime.shownAt_lt_iff, LocalTime.shownAt_instantAt, ← LocalTime.precedes_iff,
      LocalTime.date_ofDateTime, LocalTime.time_ofDateTime] at hlt
    rw [hfirst _ _ ht ht.date_le hlt] at hfound
    cases hfound

theorem Occurs.isWhole {definition : RuleDefinition} (hr : ofDefinition definition = .ok r)
    (h : r.Occurs offset x) : x.IsWhole := isWhole_of_mem_times hr h.mem_times

end Rule

/-! ### Schedules -/

namespace CompiledSchedule

variable {s : CompiledSchedule} {offset : Int} {reference x y : Instant}

/-- Whether all rules of a schedule come from definitions. -/
def HasValidRules (s : CompiledSchedule) : Prop :=
  ∀ r ∈ s.rules, ∃ definition, Rule.ofDefinition definition = .ok r

private theorem valid_of_listOf {place : Nat} {ds : List RuleDefinition} {rules : List Rule}
    (h : Rule.listOf place ds = .ok rules) {r : Rule} (hr : r ∈ rules) :
    ∃ definition, Rule.ofDefinition definition = .ok r := by
  induction ds generalizing place rules with
  | nil =>
    cases h
    cases hr
  | cons d ds ih =>
    rw [Rule.listOf] at h
    split at h
    · cases h
    · next r' hd =>
      cases hds : Rule.listOf (place + 1) ds with
      | error e => rw [hds] at h; cases h
      | ok rest =>
        rw [hds] at h
        cases h
        rcases List.mem_cons.1 hr with rfl | hr
        · exact ⟨d, hd⟩
        · exact ih hds hr

theorem hasValidRules_of_compile {definition : Schedule} (h : definition.compile = .ok s) :
    s.HasValidRules := by
  rw [Schedule.compile] at h
  split at h
  · cases h
  · cases hrules : Rule.listOf 1 definition.rules with
    | error e => rw [hrules] at h; cases h
    | ok rules =>
      rw [hrules] at h
      cases h
      exact fun r hr => valid_of_listOf hrules hr

/-- Whether an instant is an occurrence of one of the rules. -/
def Occurs (s : CompiledSchedule) (offset : Int) (i : Instant) : Prop :=
  ∃ r ∈ s.rules, r.Occurs offset i

theorem Occurs.isWhole (h : s.Occurs offset x) (hs : s.HasValidRules) : x.IsWhole := by
  obtain ⟨r, hr, hx⟩ := h
  obtain ⟨definition, hdef⟩ := hs r hr
  exact hx.isWhole hdef

theorem Occurs.inCalendar (h : s.Occurs offset x) : x.inCalendar := by
  obtain ⟨r, -, hx⟩ := h
  exact hx.inCalendar

theorem Occurs.shown_inCalendar (h : s.Occurs offset x) : (x.shownAt offset).date.inCalendar := by
  obtain ⟨r, -, hx⟩ := h
  exact hx.shown_inCalendar

private theorem exists_earlier?_le {a b : Option Instant}
    (h : (∃ x ∈ a, x ≤ y) ∨ ∃ x ∈ b, x ≤ y) : ∃ x ∈ Instant.earlier? a b, x ≤ y := by
  cases a with
  | none => simpa [Instant.earlier?] using h
  | some i =>
    cases b with
    | none => simpa [Instant.earlier?] using h
    | some j =>
      simp only [Option.mem_some_iff, exists_eq_left'] at h
      rw [Instant.earlier?]
      split
      · next hlt =>
        refine ⟨j, rfl, ?_⟩
        rcases h with h | h
        · exact Instant.le_trans (Instant.le_of_lt hlt) h
        · exact h
      · next hge =>
        refine ⟨i, rfl, ?_⟩
        rcases h with h | h
        · exact h
        · exact Instant.le_trans (Instant.not_lt.1 hge) h

private theorem foldl_next?_le {zone : Zone} {rules : List Rule} {best : Option Instant}
    (h : (∃ x ∈ best, x ≤ y) ∨ ∃ r ∈ rules, ∃ x ∈ r.next? zone reference, x ≤ y) :
    ∃ x ∈ rules.foldl (fun best r => Instant.earlier? best (r.next? zone reference)) best, x ≤ y := by
  induction rules generalizing best with
  | nil =>
    rcases h with h | ⟨r, hr, -⟩
    · exact h
    · cases hr
  | cons r rules ih =>
    refine ih ?_
    rcases h with h | ⟨r', hr', h⟩
    · exact .inl (exists_earlier?_le (.inl h))
    · rcases List.mem_cons.1 hr' with rfl | hr'
      · exact .inl (exists_earlier?_le (.inr h))
      · exact .inr ⟨r', hr', h⟩

private theorem next?_of_foldl {zone : Zone} {rules : List Rule} {best : Option Instant}
    (h : rules.foldl (fun best r => Instant.earlier? best (r.next? zone reference)) best = some x) :
    best = some x ∨ ∃ r ∈ rules, r.next? zone reference = some x := by
  induction rules generalizing best with
  | nil => exact .inl h
  | cons r rules ih =>
    rcases ih h with h | ⟨r', hr', h⟩
    · rcases Instant.earlier?_eq_some h with h | h
      · exact .inl h
      · exact .inr ⟨r, List.mem_cons_self, h⟩
    · exact .inr ⟨r', List.mem_cons_of_mem _ hr', h⟩

theorem exists_rule_of_next? (h : s.next? reference = some x) :
    ∃ r ∈ s.rules, r.next? s.zone reference = some x := by
  rcases next?_of_foldl h with h | h
  · cases h
  · exact h

/-- The next launch of a schedule is one of its occurrences, after the reference rounded up. -/
theorem occurs_of_next? (hs : s.HasValidRules) (hz : s.zone.IsConstant offset)
    (hr : reference.inCalendar) (hcal : (reference.ceilSecond.shownAt offset).date.inCalendar)
    (h : s.next? reference = some x) : s.Occurs offset x ∧ reference.ceilSecond < x := by
  obtain ⟨r, hmem, h⟩ := exists_rule_of_next? h
  obtain ⟨definition, hdef⟩ := hs r hmem
  rw [← Rule.scanStart_eq hz] at hcal
  obtain ⟨hx, hlt⟩ := Rule.occurs_of_next? (Rule.times_ascending hdef) hz hr hcal h
  exact ⟨⟨r, hmem, hx⟩, hlt⟩

/-- No occurrence of the 365 days after the reference comes before the next launch of a schedule. -/
theorem next?_le_of_occurs (hs : s.HasValidRules) (hz : s.zone.IsConstant offset)
    (hr : reference.inCalendar) (hcal : (reference.ceilSecond.shownAt offset).date.inCalendar)
    (h : s.Occurs offset y) (hy : reference.ceilSecond < y)
    (hyear : y.second ≤ reference.second + 365 * 86400) : ∃ x ∈ s.next? reference, x ≤ y := by
  obtain ⟨r, hmem, hr'⟩ := h
  obtain ⟨definition, hdef⟩ := hs r hmem
  rw [← Rule.scanStart_eq hz] at hcal
  have hx := Rule.next?_le_of_occurs (Rule.times_ascending hdef) hz hr hcal hr' hy hyear
  exact foldl_next?_le (.inr ⟨r, hmem, hx⟩)

end CompiledSchedule

end FlowScheduler
