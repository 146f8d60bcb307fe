import Mathlib
import FlowScheduler.Proofs.Calendar
import FlowScheduler.Proofs.Recurrence.Times
import FlowScheduler.Recurrence.NextLaunch

/-!
The search for the next launch against a plain scan.

The plain scan walks every date from the start on, keeps those that pass the three filters, and tries the
rule's times on each in ascending order, after the start (`Rule.Tries`, `Rule.Precedes`). The search jumps
over months, counts the dates it looks at and bisects the times of the first date, and still ends with the
first try that succeeds; if it finds nothing, no try within 366 dates succeeds.
-/

namespace FlowScheduler

namespace Rule

/-! ### The plain scan -/

/-- Where a plain scan starts: at the local reading of the reference, rounded up to a whole second. -/
abbrev scanStart (zone : Zone) (reference : Instant) : LocalTime := (zone.toLocal reference).ceilSecond

/-- The order in which a plain scan tries dates and times of day. -/
def Precedes (d : Date) (t : TimeOfDay) (d' : Date) (t' : TimeOfDay) : Prop :=
  d.dayNumber < d'.dayNumber ∨ d = d' ∧ t < t'

/-- What a plain scan after `start` tries: the times of the rule on the dates of the calendar that pass
its filters. -/
structure Tries (r : Rule) (start : LocalTime) (d : Date) (t : TimeOfDay) : Prop where
  inCalendar : d.inCalendar
  admits : r.admits d
  mem_times : t ∈ r.times
  after : Precedes start.date start.time d t

/-- What the plain scan says of the result of a search: an instant is that of the first try whose instant
exists and is after the reference, and without one no try up to 365 days after the start has such an
instant. -/
def AgreesWithScan (r : Rule) (zone : Zone) (reference : Instant) : Option Instant → Prop
  | some x => reference < x ∧ ∃ d t, r.Tries (scanStart zone reference) d t ∧
      zone.ofLocal? (.ofDateTime d t) = some x ∧
      ∀ d' t', r.Tries (scanStart zone reference) d' t' → Precedes d' t' d t →
        ∀ y, zone.ofLocal? (.ofDateTime d' t') = some y → ¬reference < y
  | none => ∀ d t, r.Tries (scanStart zone reference) d t →
      d.dayNumber ≤ (scanStart zone reference).date.dayNumber + 365 →
        ∀ y, zone.ofLocal? (.ofDateTime d t) = some y → ¬reference < y

variable {r : Rule} {zone : Zone} {reference x : Instant} {start : LocalTime} {d e : Date}
  {t : TimeOfDay}

theorem Tries.date_le (h : r.Tries start d t) : start.date.dayNumber ≤ d.dayNumber := by
  rcases h.after with hlt | ⟨heq, -⟩
  · exact Int.le_of_lt hlt
  · exact Int.le_of_eq (congrArg Date.dayNumber heq)

theorem instantOn?_eq_some_iff : instantOn? zone reference d t = some x ↔
    zone.ofLocal? (.ofDateTime d t) = some x ∧ reference < x := by
  simp [instantOn?]

theorem instantOn?_eq_none_iff : instantOn? zone reference d t = none ↔
    ∀ x, zone.ofLocal? (.ofDateTime d t) = some x → ¬reference < x := by
  simp [instantOn?]

/-! ### One date -/

private theorem getElem_lt {times : Array TimeOfDay} (hs : times.toList.Pairwise (· < ·)) {i j : Nat}
    (hij : i < j) (hj : j < times.size) : times[i] < times[j] := by
  have hi : i < times.size := Nat.lt_trans hij hj
  have h := List.pairwise_iff_getElem.1 hs i j (by simpa using hi) (by simpa using hj) hij
  rwa [Array.getElem_toList, Array.getElem_toList] at h

/-- The bisection keeps: up to `low` the times are not after `t`, and from `high` on they are. -/
private theorem bisect_spec {times : Array TimeOfDay} (hs : times.toList.Pairwise (· < ·))
    {low high : Nat} {h : high ≤ times.size} (hle : low ≤ high)
    (hlow : ∀ i (_ : i < times.size), i < low → times[i] ≤ t)
    (hhigh : ∀ i (_ : i < times.size), high ≤ i → t < times[i]) {i : Nat} (hi : i < times.size) :
    i < bisect times t low high h ↔ times[i] ≤ t := by
  fun_induction bisect times t low high h with
  | case1 low high h hlt mid hmid hup ih =>
    refine ih (by omega) (fun j hj hjm => ?_) hhigh
    rcases Nat.lt_or_eq_of_le (Nat.le_of_lt_succ hjm) with hjm | rfl
    · have hjmid := getElem_lt hs hjm hmid
      rw [TimeOfDay.lt_iff] at hjmid
      rw [TimeOfDay.le_iff] at hup ⊢
      omega
    · exact hup
  | case2 low high h hlt mid hmid hup ih =>
    refine ih (by omega) hlow (fun j hj hjm => ?_)
    have hup := TimeOfDay.not_le.1 hup
    rcases Nat.lt_or_eq_of_le hjm with hjm | rfl
    · exact TimeOfDay.lt_trans hup (getElem_lt hs hjm hj)
    · exact hup
  | case3 low high h hnlt =>
    have heq : low = high := by omega
    subst heq
    refine ⟨hlow i hi, fun hit => ?_⟩
    rcases Nat.lt_or_ge i low with hlt | hge
    · exact hlt
    · exact absurd hit (TimeOfDay.not_le.2 (hhigh i hi hge))

/-- In ascending times, the times that are not after `t` are those below the count. -/
theorem lt_countUpTo_iff {times : Array TimeOfDay} (hs : times.toList.Pairwise (· < ·)) {i : Nat}
    (hi : i < times.size) : i < countUpTo times t ↔ times[i] ≤ t :=
  bisect_spec hs (Nat.zero_le _) (fun _ _ h => absurd h (Nat.not_lt_zero _))
    (fun _ hj hle => absurd hj (Nat.not_lt.2 hle)) hi

/-- The first of the times from an index on that succeeds. -/
theorem firstOn?_eq_some {index : Nat} (h : r.firstOn? reference zone d index = some x) :
    ∃ (i : Nat) (hi : i < r.times.size), index ≤ i ∧ instantOn? zone reference d r.times[i] = some x ∧
      ∀ j (_ : j < i), index ≤ j → instantOn? zone reference d r.times[j] = none := by
  fun_induction firstOn? r reference zone d index with
  | case1 index hlt y hy =>
    exact ⟨index, hlt, Nat.le_refl _, hy.trans h, fun j hj hle => absurd hj (Nat.not_lt.2 hle)⟩
  | case2 index hlt hnone ih =>
    obtain ⟨i, hi, hle, hx, hfirst⟩ := ih h
    refine ⟨i, hi, by omega, hx, fun j hj hjle => ?_⟩
    rcases Nat.lt_or_eq_of_le hjle with hjle | rfl
    · exact hfirst j hj hjle
    · exact hnone
  | case3 => cases h

theorem firstOn?_eq_none {index : Nat} (h : r.firstOn? reference zone d index = none) {i : Nat}
    (hi : i < r.times.size) (hle : index ≤ i) : instantOn? zone reference d r.times[i] = none := by
  fun_induction firstOn? r reference zone d index with
  | case1 index hlt y hy => cases h
  | case2 index hlt hnone ih =>
    rcases Nat.lt_or_eq_of_le hle with hle | rfl
    · exact ih h hle
    · exact hnone
  | case3 index hge => omega

/-- The index from which the times of a date are tried. -/
private theorem tries_iff_index (hs : r.times.toList.Pairwise (· < ·)) (hcal : d.inCalendar)
    (hadmits : r.admits d) (hd : start.date.dayNumber ≤ d.dayNumber) {i : Nat}
    (hi : i < r.times.size) :
    r.Tries start d r.times[i] ↔ (if d = start.date then countUpTo r.times start.time else 0) ≤ i := by
  have hafter : r.Tries start d r.times[i] ↔ Precedes start.date start.time d r.times[i] :=
    ⟨Tries.after, fun h => ⟨hcal, hadmits, Array.getElem_mem hi, h⟩⟩
  rw [hafter, Precedes]
  split
  · next heq =>
    have hcount := lt_countUpTo_iff (t := start.time) hs hi
    rw [← TimeOfDay.not_le, ← hcount, heq]
    simp
  · next hne =>
    have hlt : start.date.dayNumber < d.dayNumber := by
      rcases Int.lt_or_eq_of_le hd with hlt | heq
      · exact hlt
      · exact absurd (Date.ext_dayNumber heq).symm hne
    simp [hlt]

theorem launchOn?_eq_some (hs : r.times.toList.Pairwise (· < ·)) (hcal : d.inCalendar)
    (hmonth : r.months.admits d.month) (hd : start.date.dayNumber ≤ d.dayNumber)
    (h : r.launchOn? reference zone start d = some x) :
    ∃ t, r.Tries start d t ∧ instantOn? zone reference d t = some x ∧
      ∀ t', r.Tries start d t' → t' < t → instantOn? zone reference d t' = none := by
  simp only [launchOn?] at h
  split at h
  · next hfilters =>
    have hadmits : r.admits d := by simpa [admits, hmonth] using hfilters
    have hindex {i : Nat} := tries_iff_index hs hcal hadmits hd (i := i)
    obtain ⟨i, hi, hle, hx, hfirst⟩ := firstOn?_eq_some h
    refine ⟨r.times[i], (hindex hi).2 hle, hx, fun t' ht' hlt => ?_⟩
    obtain ⟨j, hj, rfl⟩ := Array.mem_iff_getElem.1 ht'.mem_times
    refine hfirst j ?_ ((hindex hj).1 ht')
    refine Nat.lt_of_not_le fun hij => ?_
    rcases Nat.lt_or_eq_of_le hij with hij | rfl
    · exact TimeOfDay.lt_irrefl _ (TimeOfDay.lt_trans (getElem_lt hs hij hj) hlt)
    · exact TimeOfDay.lt_irrefl _ hlt
  · cases h

theorem launchOn?_eq_none (hs : r.times.toList.Pairwise (· < ·))
    (hd : start.date.dayNumber ≤ d.dayNumber) (h : r.launchOn? reference zone start d = none)
    (ht : r.Tries start d t) : instantOn? zone reference d t = none := by
  have hadmits := ht.admits
  have hfilters : (r.weekDays.admits d.weekday && r.monthDays.admits d) = true := by
    simp only [admits, Bool.and_eq_true] at hadmits ⊢
    exact ⟨hadmits.1.2, hadmits.2⟩
  simp only [launchOn?, hfilters, if_true] at h
  obtain ⟨i, hi, rfl⟩ := Array.mem_iff_getElem.1 ht.mem_times
  exact firstOn?_eq_none h hi ((tries_iff_index hs ht.inCalendar hadmits hd hi).1 ht)

/-! ### Months that are jumped over -/

theorem exists_admits_of_not_isEmpty {months : MonthSet} (h : months.isEmpty = false) :
    ∃ m, 1 ≤ m ∧ m ≤ 12 ∧ months.admits m := by
  obtain ⟨b, hb, htrue⟩ := List.all_eq_false.1 h
  obtain ⟨i, hi, rfl⟩ := List.mem_iff_getElem.1 hb
  have hlen := months.length_bits
  refine ⟨i + 1, by omega, by omega, ?_⟩
  simp only [MonthSet.admits, Mask.contains, Nat.add_sub_cancel, List.getElem?_eq_getElem hi]
  simpa using htrue

theorem not_admits_of_isEmpty {months : MonthSet} (h : months.isEmpty) (m : Nat) :
    months.admits m = false := by
  have hall := List.all_eq_true.1 h
  cases hb : months.bits[m - 1]? with
  | none => simp [MonthSet.admits, Mask.contains, hb]
  | some b =>
    have := hall b (List.mem_of_getElem? hb)
    simp_all [MonthSet.admits, Mask.contains]

theorem skipMonths_eq_some {months : MonthSet} {jumps : Nat} (hd : d.inCalendar)
    (h : skipMonths months jumps d = some e) :
    d.dayNumber ≤ e.dayNumber ∧ e.inCalendar ∧
      ∀ c : Date, d.dayNumber ≤ c.dayNumber → c.dayNumber < e.dayNumber →
        months.admits c.month = false := by
  induction jumps generalizing d with
  | zero =>
    cases h
    exact ⟨Int.le_refl _, hd, fun c hc hlt => by omega⟩
  | succ jumps ih =>
    rw [skipMonths] at h
    split at h
    · cases h
      exact ⟨Int.le_refl _, hd, fun c hc hlt => by omega⟩
    · next hnot =>
      obtain ⟨n, hn, h⟩ := Option.bind_eq_some_iff.1 h
      rw [Date.firstOfNextMonth?_eq] at hn
      split at hn
      · next hcal =>
        cases hn
        obtain ⟨hle, he, hskip⟩ := ih hcal h
        have hlt := d.lt_nextMonth
        refine ⟨by omega, he, fun c hc hce => ?_⟩
        rcases Int.lt_or_le c.dayNumber d.nextMonth.dayNumber with hcn | hcn
        · rw [Date.month_eq_of_lt_nextMonth hc hcn]
          simpa using hnot
        · exact hskip c hcn hce
      · cases hn

theorem skipMonths_eq_none {months : MonthSet} {jumps : Nat} (hd : d.inCalendar)
    (h : skipMonths months jumps d = none) {c : Date} (hc : c.inCalendar)
    (hle : d.dayNumber ≤ c.dayNumber) : months.admits c.month = false := by
  induction jumps generalizing d with
  | zero => cases h
  | succ jumps ih =>
    rw [skipMonths] at h
    split at h
    · cases h
    · next hnot =>
      have hlt := d.lt_nextMonth
      rcases Int.lt_or_le c.dayNumber d.nextMonth.dayNumber with hcn | hcn
      · rw [Date.month_eq_of_lt_nextMonth hle hcn]
        simpa using hnot
      · rw [Date.inCalendar_iff] at hd hc
        have hcal : d.nextMonth.inCalendar := Date.inCalendar_iff.2 ⟨by omega, by omega⟩
        rw [Date.firstOfNextMonth?_eq, if_pos hcal] at h
        exact ih hcal h hcn

/-- Each jump brings the walk one month nearer to an admitted one, and there are twelve. -/
theorem admits_of_skipMonths {months : MonthSet} {jumps m : Nat} (hm : 1 ≤ m ∧ m ≤ 12)
    (hadmits : months.admits m) (hdist : (m + 12 - d.month) % 12 < jumps)
    (h : skipMonths months jumps d = some e) : months.admits e.month := by
  induction jumps generalizing d with
  | zero => omega
  | succ jumps ih =>
    rw [skipMonths] at h
    split at h
    · next hyes =>
      cases h
      exact hyes
    · next hnot =>
      obtain ⟨n, hn, h⟩ := Option.bind_eq_some_iff.1 h
      rw [Date.firstOfNextMonth?_eq] at hn
      split at hn
      · cases hn
        have hne : m ≠ d.month := by
          rintro rfl
          exact hnot hadmits
        have h1 := d.one_le_month
        have h12 := d.month_le
        have hnext := d.month_nextMonth
        exact ih (by omega) h
      · cases hn

/-! ### The search -/

/-- What the search ends with: the outcome of the first try that succeeds among those from `d` on. -/
def IsFirstFrom (r : Rule) (reference : Instant) (zone : Zone) (start : LocalTime) (d : Date)
    (x : Instant) : Prop :=
  ∃ e t, d.dayNumber ≤ e.dayNumber ∧ r.Tries start e t ∧ instantOn? zone reference e t = some x ∧
    ∀ e' t', r.Tries start e' t' → d.dayNumber ≤ e'.dayNumber → Precedes e' t' e t →
      instantOn? zone reference e' t' = none

/-- A result is the first from a date on if the earlier tries from that date on fail. -/
theorem IsFirstFrom.back (h : r.IsFirstFrom reference zone start e x)
    (hde : d.dayNumber ≤ e.dayNumber)
    (hfail : ∀ c t, r.Tries start c t → d.dayNumber ≤ c.dayNumber → c.dayNumber < e.dayNumber →
      instantOn? zone reference c t = none) : r.IsFirstFrom reference zone start d x := by
  obtain ⟨c, t, hec, ht, hx, hfirst⟩ := h
  refine ⟨c, t, by omega, ht, hx, fun c' t' ht' hdc' hprec => ?_⟩
  rcases Int.lt_or_le c'.dayNumber e.dayNumber with hlt | hle
  · exact hfail c' t' ht' hdc' hlt
  · exact hfirst c' t' ht' hle hprec

private theorem not_tries_of_month {months : MonthSet} (hr : r.months = months)
    (h : months.admits d.month = false) : ¬r.Tries start d t := fun ht => by
  have := ht.admits
  simp [admits, hr, h] at this

private theorem admittedFrom?_eq_some (start : LocalTime) (hm : r.months.isEmpty = false)
    (hd : d.inCalendar)
    (h : admittedFrom? r.months d = some e) :
    d.dayNumber ≤ e.dayNumber ∧ e.inCalendar ∧ r.months.admits e.month ∧
      ∀ (c : Date) (t : TimeOfDay), d.dayNumber ≤ c.dayNumber → c.dayNumber < e.dayNumber →
        ¬r.Tries start c t := by
  obtain ⟨m, h1, h12, hadmits⟩ := exists_admits_of_not_isEmpty hm
  obtain ⟨hle, he, hskip⟩ := skipMonths_eq_some hd h
  have hdist : (m + 12 - d.month) % 12 < 12 := Nat.mod_lt _ (by omega)
  exact ⟨hle, he, admits_of_skipMonths ⟨h1, h12⟩ hadmits hdist h,
    fun c t hdc hce => not_tries_of_month rfl (hskip c hdc hce)⟩

theorem search_eq_some (hs : r.times.toList.Pairwise (· < ·)) (hm : r.months.isEmpty = false)
    {n : Nat} (hd : d.inCalendar) (hstart : start.date.dayNumber ≤ d.dayNumber)
    (h : r.search reference zone start n d = some x) : r.IsFirstFrom reference zone start d x := by
  induction n generalizing d with
  | zero => cases h
  | succ n ih =>
    obtain ⟨e, he, h⟩ := Option.bind_eq_some_iff.1 h
    obtain ⟨hde, hecal, hmonth, hskip⟩ := admittedFrom?_eq_some start hm hd he
    refine IsFirstFrom.back (e := e) ?_ hde fun c t ht hdc hce => absurd ht (hskip c t hdc hce)
    cases found : r.launchOn? reference zone start e with
    | some y =>
      rw [found] at h
      cases h
      obtain ⟨t, ht, hx, hfirst⟩ := launchOn?_eq_some hs hecal hmonth (by omega) found
      refine ⟨e, t, Int.le_refl _, ht, hx, fun c t' ht' hec hprec => ?_⟩
      rcases hprec with hlt | ⟨rfl, hlt⟩
      · omega
      · exact hfirst t' ht' hlt
    | none =>
      rw [found] at h
      obtain ⟨f, hf, h⟩ := Option.bind_eq_some_iff.1 h
      obtain ⟨hfe, hfcal⟩ := Date.next?_eq_some hf hecal
      refine IsFirstFrom.back (ih hfcal (by omega) h) (by omega) fun c t ht hec hcf => ?_
      have hce : c = e := Date.ext_dayNumber (by omega)
      subst hce
      exact launchOn?_eq_none hs (by omega) found ht

theorem search_eq_none (hs : r.times.toList.Pairwise (· < ·)) (hm : r.months.isEmpty = false)
    {n : Nat} (hd : d.inCalendar) (hstart : start.date.dayNumber ≤ d.dayNumber)
    (h : r.search reference zone start n d = none) (ht : r.Tries start e t)
    (hde : d.dayNumber ≤ e.dayNumber) (hn : e.dayNumber < d.dayNumber + n) :
    instantOn? zone reference e t = none := by
  induction n generalizing d with
  | zero => omega
  | succ n ih =>
    rw [search] at h
    cases hadm : admittedFrom? r.months d with
    | none => exact absurd ht (not_tries_of_month rfl (skipMonths_eq_none hd hadm ht.inCalendar hde))
    | some c =>
      obtain ⟨hdc, hccal, -, hskip⟩ := admittedFrom?_eq_some start hm hd hadm
      rcases Int.lt_trichotomy e.dayNumber c.dayNumber with hlt | heq | hgt
      · exact absurd ht (hskip e t hde hlt)
      · rw [hadm, Option.bind_some] at h
        have hec : e = c := Date.ext_dayNumber heq
        subst hec
        cases found : r.launchOn? reference zone start e with
        | none => exact launchOn?_eq_none hs (by omega) found ht
        | some y => simp [found] at h
      · rw [hadm, Option.bind_some] at h
        cases hnext : c.next? with
        | none =>
          have := Date.le_of_next?_eq_none hnext ht.inCalendar
          omega
        | some f =>
          obtain ⟨hfc, hfcal⟩ := Date.next?_eq_some hnext hccal
          have hrest : r.search reference zone start n f = none := by
            cases found : r.launchOn? reference zone start c with
            | none => simpa [found, hnext] using h
            | some y => simp [found] at h
          exact ih hfcal (by omega) hrest (by omega) (by omega)

/-- A rule with months and times searches; without them there is nothing to find. -/
private theorem next?_eq (h : ¬(r.times.isEmpty || r.months.isEmpty)) :
    r.next? zone reference = r.search reference zone (scanStart zone reference) searchDays
      (scanStart zone reference).date := by
  simp only [next?, h, if_false, Bool.false_eq_true]

theorem next?_eq_some (hs : r.times.toList.Pairwise (· < ·))
    (hcal : (scanStart zone reference).date.inCalendar)
    (h : r.next? zone reference = some x) :
    r.IsFirstFrom reference zone (scanStart zone reference)
      (scanStart zone reference).date x := by
  by_cases hempty : r.times.isEmpty || r.months.isEmpty
  · simp [next?, hempty] at h
  · rw [next?_eq hempty] at h
    have hm : r.months.isEmpty = false := by simp_all
    exact search_eq_some hs hm hcal (Int.le_refl _) h

theorem next?_eq_none (hs : r.times.toList.Pairwise (· < ·))
    (hcal : (scanStart zone reference).date.inCalendar)
    (h : r.next? zone reference = none) (ht : r.Tries (scanStart zone reference) d t)
    (hd : d.dayNumber ≤ (scanStart zone reference).date.dayNumber + 365) :
    instantOn? zone reference d t = none := by
  by_cases hempty : r.times.isEmpty || r.months.isEmpty
  · rcases Bool.or_eq_true_iff.1 hempty with htimes | hmonths
    · have hmem := ht.mem_times
      rw [Array.isEmpty_iff.1 htimes] at hmem
      simp at hmem
    · exact absurd ht (not_tries_of_month rfl (not_admits_of_isEmpty hmonths _))
  · rw [next?_eq hempty] at h
    have hm : r.months.isEmpty = false := by simp_all
    exact search_eq_none hs hm hcal (Int.le_refl _) h ht ht.date_le (by simp only [searchDays]; omega)

/-! ### Agreement -/

/-- The search for the next launch of a valid rule agrees with the plain scan, in every zone and from
every reference whose start lies in the calendar. -/
theorem next?_agreesWithScan {definition : RuleDefinition} {r : Rule}
    (hr : ofDefinition definition = .ok r) (zone : Zone) (reference : Instant)
    (hcal : (scanStart zone reference).date.inCalendar) :
    r.AgreesWithScan zone reference (r.next? zone reference) := by
  have hs := times_ascending hr
  cases h : r.next? zone reference with
  | some x =>
    obtain ⟨d, t, -, ht, hx, hfirst⟩ := next?_eq_some hs hcal h
    obtain ⟨hx, hlt⟩ := instantOn?_eq_some_iff.1 hx
    refine ⟨hlt, d, t, ht, hx, fun d' t' ht' hprec => ?_⟩
    exact instantOn?_eq_none_iff.1 (hfirst d' t' ht' ht'.date_le hprec)
  | none =>
    intro d t ht hd
    exact instantOn?_eq_none_iff.1 (next?_eq_none hs hcal h ht hd)

/-- Two launches a day, of which the clock skips one when it is set forward at the end of March. -/
theorem next?_agreesWithScan_over_gap :
    let definition : RuleDefinition := { hours := "08:00:00,02:30:00" }
    let zone : Zone := ⟨"Europe/Paris", 3600, [⟨1711846800, 7200⟩]⟩
    let reference : Instant := { second := 1711846799, nanos := 500000000 }
    ∃ r, ofDefinition definition = .ok r ∧ (scanStart zone reference).date.inCalendar ∧
      r.AgreesWithScan zone reference (r.next? zone reference) := by
  intro definition zone reference
  let skipped : TimeOfDay := { second := 9000, nanos := 0 }
  let shown : TimeOfDay := { second := 28800, nanos := 0 }
  have hsorted : TimeOfDay.ascending [shown, skipped] = [skipped, shown] := by cbv
  have hread : TimeOfDay.listOfText "08:00:00,02:30:00" =
      .ok (TimeOfDay.ascending [shown, skipped]) := rfl
  have hr : ofDefinition definition = .ok ⟨.listed, #[skipped, shown], .full 12, .full 7, .any⟩ := by
    simp only [definition, ofDefinition, timesOf, hread, hsorted]
    rfl
  have hcal : (scanStart zone reference).date.inCalendar := by decide
  exact ⟨_, hr, hcal, next?_agreesWithScan hr zone reference hcal⟩

end Rule

end FlowScheduler
