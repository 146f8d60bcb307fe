import Mathlib
import FlowScheduler.Proofs.Recurrence.MonthDays

/-!
The normal form of a rule's text.

A rule printed and read again is the same rule, and a definition that differs from one of a rule in blanks
and in the order and number of list entries denotes that rule too (`Rule.ofDefinition_normal_form`). Each
field goes by its own reader and printer; `Rule.ofDefinition_eq_ok_iff` takes them apart.
-/

namespace FlowScheduler

open Text

/-- Whether a definition differs from another one in blanks and, where a field is a list, in the order
and number of its entries only. -/
structure RuleDefinition.Respells (d d' : RuleDefinition) : Prop where
  interval : d'.interval = d.interval
  hours : Text.Respells d.hours d'.hours
  intervalHours : Text.Respells d.intervalHours d'.intervalHours
  monthDays : Text.Respells d.monthDays d'.monthDays
  weekDays : withoutBlanks d'.weekDays = withoutBlanks d.weekDays
  months : withoutBlanks d'.months = withoutBlanks d.months

namespace Rule

variable {d d' : RuleDefinition} {r : Rule} {timing : Timing} {times : List TimeOfDay}

/-- A definition denotes a rule if each field denotes the rule's part. -/
theorem ofDefinition_eq_ok_iff : ofDefinition d = .ok r ↔
    timesOf d = .ok (r.timing, r.times.toList) ∧ Mask.ofText 7 d.weekDays = .ok r.weekDays ∧
      MonthDays.ofText d.monthDays = .ok r.monthDays ∧ Mask.ofText 12 d.months = .ok r.months := by
  obtain ⟨timing, times, months, weekDays, monthDays⟩ := r
  simp only [ofDefinition, bind, Except.bind, pure, Except.pure]
  cases timesOf d with
  | error => simp
  | ok timed =>
    cases Mask.ofText 7 d.weekDays with
    | error => simp [Except.mapError]
    | ok =>
      cases MonthDays.ofText d.monthDays with
      | error => simp [Except.mapError]
      | ok =>
        cases Mask.ofText 12 d.months with
        | error => simp [Except.mapError]
        | ok =>
          simp only [Except.mapError, Except.ok.injEq, mk.injEq, Prod.ext_iff, ← Array.toList_inj]
          tauto

theorem timesOf_interval_iff (h : 0 < d.interval) : timesOf d = .ok (timing, times) ↔
    ∃ ws, TimeWindow.listOfText d.intervalHours = .ok ws ∧
      timing = .every (min d.interval.toNat maxInterval) ws ∧
      times = TimeOfDay.everySeconds (.ofNat (min d.interval.toNat maxInterval)) ws := by
  rw [timesOf, if_pos h]
  cases TimeWindow.listOfText d.intervalHours with
  | error => simp
  | ok ws => simp [eq_comm]

theorem timesOf_listed_iff (h : ¬0 < d.interval) : timesOf d = .ok (timing, times) ↔
    timing = .listed ∧ TimeOfDay.listOfText d.hours = .ok times := by
  rw [timesOf, if_neg h]
  cases hhours : TimeOfDay.listOfText d.hours with
  | error => split <;> simp [Except.mapError, Except.map]
  | ok ts =>
    rw [if_neg (by simp [TimeOfDay.isAllBlank_of_listOfText hhours])]
    simp [Except.mapError, Except.map, eq_comm]

theorem timesOf_respells (h : timesOf d = .ok (timing, times)) (hr : d.Respells d') :
    timesOf d' = .ok (timing, times) := by
  by_cases hpos : 0 < d.interval
  · obtain ⟨ws, hws, rfl, rfl⟩ := (timesOf_interval_iff hpos).1 h
    refine (timesOf_interval_iff (by rwa [hr.interval])).2 ⟨ws, ?_, ?_, ?_⟩
    · exact TimeWindow.listOfText_respells hws hr.intervalHours
    · rw [hr.interval]
    · rw [hr.interval]
  · obtain ⟨rfl, hts⟩ := (timesOf_listed_iff hpos).1 h
    refine (timesOf_listed_iff (by rwa [hr.interval])).2 ⟨rfl, ?_⟩
    exact TimeOfDay.listOfText_respells hts hr.hours

theorem timesOf_toDefinition (h : timesOf d = .ok (r.timing, r.times.toList)) :
    timesOf r.toDefinition = .ok (r.timing, r.times.toList) := by
  by_cases hpos : 0 < d.interval
  · obtain ⟨ws, hws, htiming, htimes⟩ := (timesOf_interval_iff hpos).1 h
    have hinterval : r.toDefinition.interval = ↑(min d.interval.toNat maxInterval) := by
      rw [toDefinition, htiming]
    have hwindows : r.toDefinition.intervalHours = joinWith "," (ws.map TimeWindow.toText) := by
      simp only [toDefinition, windows, htiming]
    have hclamped : min r.toDefinition.interval.toNat maxInterval =
        min d.interval.toNat maxInterval := by
      rw [hinterval, Int.toNat_natCast, min_assoc, min_self]
    refine (timesOf_interval_iff ?_).2 ⟨ws, ?_, ?_, ?_⟩
    · rw [hinterval, maxInterval]
      omega
    · rw [hwindows]
      exact TimeWindow.listOfText_joinWith (TimeWindow.isCanonical_of_listOfText hws)
        fun w hw => TimeWindow.isShown_of_listOfText hws hw
    · rw [hclamped, htiming]
    · rw [hclamped, htimes]
  · obtain ⟨htiming, hts⟩ := (timesOf_listed_iff hpos).1 h
    have hinterval : r.toDefinition.interval = 0 := by rw [toDefinition, htiming]
    have hhours : r.toDefinition.hours = joinWith "," (r.times.toList.map TimeOfDay.toText) := by
      rw [toDefinition, htiming]
    refine (timesOf_listed_iff (by rw [hinterval]; decide)).2 ⟨htiming, ?_⟩
    rw [hhours]
    exact TimeOfDay.listOfText_joinWith (TimeOfDay.pairwise_of_listOfText hts)
      (TimeOfDay.ne_nil_of_listOfText hts) fun t ht => TimeOfDay.isShown_of_listOfText hts ht

theorem ofDefinition_toDefinition (h : ofDefinition d = .ok r) :
    ofDefinition r.toDefinition = .ok r := by
  obtain ⟨htimes, -⟩ := ofDefinition_eq_ok_iff.1 h
  exact ofDefinition_eq_ok_iff.2 ⟨timesOf_toDefinition htimes, Mask.ofText_toText r.weekDays,
    MonthDays.ofText_toText r.monthDays, Mask.ofText_toText r.months⟩

theorem ofDefinition_respells (h : ofDefinition d = .ok r) (hr : d.Respells d') :
    ofDefinition d' = .ok r := by
  obtain ⟨htimes, hweekDays, hmonthDays, hmonths⟩ := ofDefinition_eq_ok_iff.1 h
  refine ofDefinition_eq_ok_iff.2 ⟨timesOf_respells htimes hr, ?_, ?_, ?_⟩
  · rwa [Mask.ofText_congr hr.weekDays]
  · exact MonthDays.ofText_respells hmonthDays hr.monthDays
  · rwa [Mask.ofText_congr hr.months]

/-- The normal form of a definition. -/
def normalize (d : RuleDefinition) : Except RuleError RuleDefinition :=
  (ofDefinition d).map toDefinition

/-- What a rule prints denotes the rule, so a normal form is its own; and every respelling of a definition
of the rule denotes it as well. -/
theorem ofDefinition_normal_form (h : ofDefinition d = .ok r) :
    ofDefinition r.toDefinition = .ok r ∧ (normalize d).bind normalize = normalize d ∧
      ∀ d', d.Respells d' → ofDefinition d' = .ok r := by
  have hself := ofDefinition_toDefinition h
  have hnormal : normalize d = .ok r.toDefinition := by rw [normalize, h]; rfl
  refine ⟨hself, ?_, fun d' => ofDefinition_respells h⟩
  rw [hnormal]
  change normalize r.toDefinition = _
  rw [normalize, hself]
  rfl

private theorem no_fraction : 0 < 2000000000 := by decide

private def early : TimeOfDay := { second := 28805, nanos := 0, nanos_lt := no_fraction }

private def leap : TimeOfDay := { second := 86399, nanos := 1000000000 }

private def written : RuleDefinition where
  hours := "23:59:60,8:0:5,08:00:05"
  weekDays := "1111100"
  monthDays := "2fri,+1,first"

private def rewritten : RuleDefinition where
  hours := "08:00:05, 8:0:5,23:59:60,8:0:5"
  weekDays := "11111 00"
  monthDays := "first,2fri,+1,2fri"

private def normal : RuleDefinition where
  hours := "08:00:05,23:59:60"
  months := "*"
  weekDays := "1111100"
  monthDays := "FIRST,2FRI,1"

private def denoted : Rule where
  timing := .listed
  times := #[early, leap]
  months := .full 12
  weekDays := ⟨[true, true, true, true, true, false, false], rfl⟩
  monthDays := [.nth 2 .fri, .day 1, .first].foldl MonthDays.insert .any

private theorem written_ofDefinition : ofDefinition written = .ok denoted := by
  have hsorted : TimeOfDay.ascending [leap, early, early] = [early, leap] := by cbv
  have hread : TimeOfDay.listOfText written.hours =
      .ok (TimeOfDay.ascending [leap, early, early]) := rfl
  rw [hsorted] at hread
  exact ofDefinition_eq_ok_iff.2 ⟨(timesOf_listed_iff (by decide)).2 ⟨rfl, hread⟩, rfl, rfl, rfl⟩

private theorem respells_of_mem {t t' : String} (alone : withoutBlanks t ≠ ['*'])
    (forth : ∀ e ∈ splitAll ',' t'.toList, e ∈ splitAll ',' t.toList)
    (back : ∀ e ∈ splitAll ',' t.toList, e ∈ splitAll ',' t'.toList) : Text.Respells t t' :=
  .entries alone fun e => ⟨forth e, back e⟩

private theorem written_respells : written.Respells rewritten where
  interval := rfl
  hours := by
    have hentries : Text.Respells written.hours "08:00:05,8:0:5,23:59:60,8:0:5" :=
      respells_of_mem (by decide) (by decide) (by decide)
    exact hentries.trans (.blanks (by decide))
  intervalHours := .blanks rfl
  monthDays := respells_of_mem (by decide) (by decide) (by decide)
  weekDays := by decide
  months := rfl

theorem ofDefinition_normal_form_leap_second : ∃ r, ofDefinition written = .ok r ∧
    r.toDefinition = normal ∧ ofDefinition r.toDefinition = .ok r ∧
    ofDefinition rewritten = .ok r := by
  obtain ⟨hself, -, hrespelled⟩ := ofDefinition_normal_form written_ofDefinition
  exact ⟨denoted, written_ofDefinition, by decide +kernel, hself, hrespelled _ written_respells⟩

end Rule

end FlowScheduler
