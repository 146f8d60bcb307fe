import Mathlib
import FlowScheduler.Proofs.Recurrence.Earliest

/-!
The dates on which a rule launches, as the zone's clock shows them.

The filters of a rule are applied to the date of a reading. If the clock shows the reading, it shows that date
at the launch. A reading that the clock never shows is made up for one hour later, and if it is one of the last
hour of its date, on a date to which the filters have not been applied (`Rule.StraysAt`). In no other way does a
launch fall on a date that the rule leaves out (`Rule.admits_date_iff_not_strays`).
-/

namespace FlowScheduler

namespace LocalTime

theorem hour_eq (l : LocalTime) : (l.time.hour : Int) = l.second % 86400 / 3600 := by
  have hnonneg : 0 ≤ l.second % 86400 := Int.emod_nonneg _ (by decide)
  rw [TimeOfDay.hour, time, Int.natCast_ediv, Int.toNat_of_nonneg hnonneg]
  rfl

/-- Only from the last hour of a date does one hour lead to the next date. -/
theorem hourLater_date (l : LocalTime) :
    l.hourLater.date = if 23 ≤ l.time.hour then ⟨l.date.dayNumber + 1⟩ else l.date := by
  have hhour := l.hour_eq
  split
  · refine congrArg Date.mk ?_
    simp only [hourLater, date]
    omega
  · refine congrArg Date.mk ?_
    simp only [hourLater]
    omega

end LocalTime

namespace Rule

variable {r : Rule} {zone : Zone} {x : Instant} {l : LocalTime}

/-- Whether an instant is the launch of a reading that the clock never shows, made up for on a date that the
rule leaves out. -/
structure StraysAt (r : Rule) (zone : Zone) (l : LocalTime) (i : Instant) : Prop where
  launch : r.LaunchesAt zone l i
  unshown : zone.firstShown? l = none
  leftOut : ¬r.admits l.hourLater.date

theorem StraysAt.toLocal_eq (hz : zone.IsAscending) (h : r.StraysAt zone l x) :
    zone.toLocal x = l.hourLater := by
  rw [Zone.toLocal_of_ofLocal? hz h.launch.ofLocal?, h.unshown]
  rfl

/-- A launch that strays is that of a reading in the last hour of its date, and shows the next date. -/
theorem StraysAt.hour_eq (hz : zone.IsAscending) (h : r.StraysAt zone l x) :
    l.time.hour = 23 ∧ (zone.toLocal x).date.dayNumber = l.date.dayNumber + 1 := by
  have hdate := l.hourLater_date
  have hlt := l.time.second_lt
  rw [h.toLocal_eq hz]
  split at hdate
  · next hlast =>
    rw [hdate]
    refine ⟨?_, rfl⟩
    simp only [TimeOfDay.hour] at hlast ⊢
    omega
  · exact absurd (hdate ▸ h.launch.admits) h.leftOut

/-- The launch that a search finds shows its reading, or the reading of an hour later if the clock never shows
its own. It falls on a date that the rule admits, unless it strays from the last hour of such a date to the
date after it. -/
theorem admits_date_iff_not_strays {definition : RuleDefinition} {r : Rule}
    (hr : ofDefinition definition = .ok r) {zone : Zone} (hz : zone.IsAscending)
    {reference x : Instant} (h : r.Finds zone reference x) :
    (∃ l, r.LaunchesAt zone l x ∧
      zone.toLocal x = if (zone.firstShown? l).isSome then l else l.hourLater) ∧
    (r.admits (zone.toLocal x).date ↔ ¬∃ l, r.StraysAt zone l x) ∧
    ∀ l, r.StraysAt zone l x →
      l.time.hour = 23 ∧ (zone.toLocal x).date.dayNumber = l.date.dayNumber + 1 := by
  obtain ⟨l, hl, -⟩ := h.launchesAt (times_ascending hr)
  have hshown := Zone.toLocal_of_ofLocal? hz hl.ofLocal?
  refine ⟨⟨l, hl, hshown⟩, ⟨?_, fun hno => ?_⟩, fun k hk => hk.hour_eq hz⟩
  · rintro hadmits ⟨k, hk⟩
    rw [hk.toLocal_eq hz] at hadmits
    exact hk.leftOut hadmits
  · cases hfirst : zone.firstShown? l with
    | some i =>
      rw [hshown, hfirst]
      exact hl.admits
    | none =>
      rw [hshown, hfirst]
      by_contra hleftOut
      exact hno ⟨l, hl, hfirst, hleftOut⟩

/-! ### A launch that strays -/

/-- A clock that is set forward by one hour at the end of 30 March 2024, at 23:00. -/
private def nuuk : Zone := ⟨"America/Nuuk", -7200, [⟨1711846800, -3600⟩]⟩

private def halfPastEleven : TimeOfDay := ((Instant.ofSecond 84600).shownAt 0).time

/-- At half past eleven in the evening on Saturdays. -/
private def saturdays : Rule :=
  ⟨.listed, #[halfPastEleven], .full 12, ⟨[false, false, false, false, false, true, false], rfl⟩, .any⟩

private theorem saturdays_ofDefinition :
    ofDefinition { hours := "23:30:00", weekDays := "0000010" } = .ok saturdays := by
  have hsorted : TimeOfDay.ascending [halfPastEleven] = [halfPastEleven] := by cbv
  have hread : TimeOfDay.listOfText "23:30:00" = .ok (TimeOfDay.ascending [halfPastEleven]) := rfl
  simp only [ofDefinition, timesOf, hread, hsorted]
  rfl

/-- The clock does not show the reading of 30 March; it is made up for on Sunday. -/
private theorem saturdays_finds_sunday :
    saturdays.Finds nuuk (.ofSecond 1711756800) (.ofSecond 1711848600) where
  inCalendar := by decide
  next? := by decide +kernel

theorem admits_date_iff_not_strays_over_gap :
    let found := Instant.ofSecond 1711848600
    ofDefinition { hours := "23:30:00", weekDays := "0000010" } = .ok saturdays ∧ nuuk.IsAscending ∧
      saturdays.Finds nuuk (.ofSecond 1711756800) found ∧
      (∃ l, saturdays.LaunchesAt nuuk l found ∧
        nuuk.toLocal found = if (nuuk.firstShown? l).isSome then l else l.hourLater) ∧
      (saturdays.admits (nuuk.toLocal found).date ↔ ¬∃ l, saturdays.StraysAt nuuk l found) ∧
      ∀ l, saturdays.StraysAt nuuk l found →
        l.time.hour = 23 ∧ (nuuk.toLocal found).date.dayNumber = l.date.dayNumber + 1 := by
  intro found
  have hz : nuuk.IsAscending := by decide
  exact ⟨saturdays_ofDefinition, hz, saturdays_finds_sunday,
    admits_date_iff_not_strays saturdays_ofDefinition hz saturdays_finds_sunday⟩

/-- A rule for Saturdays finds a launch that falls on a Sunday. -/
theorem next?_on_weekday_left_out :
    ∃ r, ofDefinition { hours := "23:30:00", weekDays := "0000010" } = .ok r ∧ nuuk.IsAscending ∧
      ∃ reference x : Instant, r.Finds nuuk reference x ∧
        (nuuk.toLocal x).date.weekday = .sun ∧ ¬r.weekDays.admits (nuuk.toLocal x).date.weekday :=
  ⟨saturdays, saturdays_ofDefinition, by decide, .ofSecond 1711756800, .ofSecond 1711848600,
    saturdays_finds_sunday, by decide, by decide⟩

end Rule

end FlowScheduler
