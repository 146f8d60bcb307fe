import Mathlib
import FlowScheduler.Calendar.Date

/-!
Years and months of the calendar.

A date is a year that begins in March and a day of that year (`Date.dayNumber_eq`), in one way only
(`Date.marchYear_unique`). From this follow the two facts about months that a walk over dates needs: the
dates up to the first of the next month have the month of the date (`Date.month_eq_of_lt_nextMonth`), and
the first of the next month has the month after it (`Date.month_nextMonth`). The dates of one month are
an interval (`Date.sameMonth_iff`).
-/

namespace FlowScheduler

namespace Date

theorem ext_dayNumber {d e : Date} (h : d.dayNumber = e.dayNumber) : d = e := by
  cases d
  cases e
  exact congrArg Date.mk h

theorem inCalendar_iff {d : Date} : d.inCalendar ↔
    first.dayNumber ≤ d.dayNumber ∧ d.dayNumber ≤ last.dayNumber := by
  simp [inCalendar]

theorem next?_eq_some {d e : Date} (h : d.next? = some e) (hd : d.inCalendar) :
    e.dayNumber = d.dayNumber + 1 ∧ e.inCalendar := by
  simp only [next?] at h
  split at h
  · cases h
    rw [inCalendar_iff] at hd
    have hnext : (⟨d.dayNumber + 1⟩ : Date).dayNumber = d.dayNumber + 1 := rfl
    exact ⟨rfl, inCalendar_iff.2 ⟨by omega, by omega⟩⟩
  · cases h

theorem le_of_next?_eq_none {d e : Date} (h : d.next? = none) (he : e.inCalendar) :
    e.dayNumber ≤ d.dayNumber := by
  simp only [next?] at h
  split at h
  · cases h
  · rw [inCalendar_iff] at he
    omega

/-! ### The year of a day of the cycle -/

/-- A day of the cycle by centuries, spans of four years, years and days. Only the last year of a span
has 366 days, and the last span of a century has such a year only at the end of the cycle. -/
private theorem exists_parts {n : Int} (h0 : 0 ≤ n) (h1 : n < 146097) :
    ∃ c q k t : Int, n = 36524 * c + 1461 * q + 365 * k + t ∧ (0 ≤ c ∧ c ≤ 3) ∧ (0 ≤ q ∧ q ≤ 24) ∧
      (0 ≤ k ∧ k ≤ 3) ∧ 0 ≤ t ∧ (t ≤ 364 ∨ k = 3 ∧ t ≤ 365 ∧ (c = 3 ∨ q < 24)) := by
  let c := min (n / 36524) 3
  let q := (n - 36524 * c) / 1461
  let k := min ((n - 36524 * c - 1461 * q) / 365) 3
  exact ⟨c, q, k, n - 36524 * c - 1461 * q - 365 * k, by omega, by omega, by omega, by omega, by omega,
    by omega⟩

private theorem yearOfCycle_eq {d : Date} {c q k t : Int} (hc : 0 ≤ c ∧ c ≤ 3) (hq : 0 ≤ q ∧ q ≤ 24)
    (hk : 0 ≤ k ∧ k ≤ 3) (ht : 0 ≤ t) (h : t ≤ 364 ∨ k = 3 ∧ t ≤ 365 ∧ (c = 3 ∨ q < 24))
    (hn : d.dayOfCycle = 36524 * c + 1461 * q + 365 * k + t) :
    d.yearOfCycle = 100 * c + 4 * q + k := by
  simp only [yearOfCycle]
  generalize d.dayOfCycle = n at hn ⊢
  by_cases hlast : n = 146096
  · subst hlast
    omega
  have h1 : n / 146096 = 0 := by omega
  have h2 : n / 36524 = c := by omega
  -- a century counts 24 days more than 25 spans of 1460 days, which reach 1461 only after a year's day
  have h3 : n / 1460 = 25 * c + q ∧ t ≤ 364 ∨ n / 1460 = 25 * c + q + 1 ∧ 1 ≤ t := by omega
  rw [h1, h2]
  omega

/-- The year of the cycle is one of 400, and the day of the year lies in it. -/
private theorem yearOfCycle_bounds (d : Date) :
    0 ≤ d.yearOfCycle ∧ d.yearOfCycle ≤ 399 ∧ 0 ≤ d.dayOfYear ∧
      d.dayOfYear < 365 + (d.yearOfCycle + 1) / 4 - d.yearOfCycle / 4
        - ((d.yearOfCycle + 1) / 100 - d.yearOfCycle / 100)
        + ((d.yearOfCycle + 1) / 400 - d.yearOfCycle / 400) := by
  have h0 : 0 ≤ d.dayOfCycle := by unfold dayOfCycle; omega
  have h1 : d.dayOfCycle < 146097 := by unfold dayOfCycle; omega
  obtain ⟨c, q, k, t, hn, hc, hq, hk, ht, h⟩ := exists_parts h0 h1
  have hy := yearOfCycle_eq hc hq hk ht h hn
  have h4 : (100 * c + 4 * q + k) / 4 = 25 * c + q := by omega
  have h100 : (100 * c + 4 * q + k) / 100 = c := by omega
  have h400 : (100 * c + 4 * q + k) / 400 = 0 := by omega
  simp only [dayOfYear, hy, hn, h4, h100, h400]
  refine ⟨by omega, by omega, by omega, ?_⟩
  -- the last year of a span has 366 days, but not that of a century unless it ends the cycle
  obtain ⟨hk3, hq⟩ | ⟨rfl, rfl, hc3⟩ | ⟨rfl, rfl, rfl⟩ | hk2 :
      k = 3 ∧ q ≤ 23 ∨ k = 3 ∧ q = 24 ∧ c ≤ 2 ∨ k = 3 ∧ q = 24 ∧ c = 3 ∨ k ≤ 2 := by omega
  · have h4' : (100 * c + 4 * q + k + 1) / 4 = 25 * c + q + 1 := by omega
    have h100' : (100 * c + 4 * q + k + 1) / 100 = c := by omega
    have h400' : (100 * c + 4 * q + k + 1) / 400 = 0 := by omega
    omega
  · have h4' : (100 * c + 4 * 24 + 3 + 1) / 4 = 25 * c + 25 := by omega
    have h100' : (100 * c + 4 * 24 + 3 + 1) / 100 = c + 1 := by omega
    have h400' : (100 * c + 4 * 24 + 3 + 1) / 400 = 0 := by omega
    omega
  · omega
  · have h4' : (100 * c + 4 * q + k + 1) / 4 = 25 * c + q := by omega
    have h100' : (100 * c + 4 * q + k + 1) / 100 = c := by omega
    have h400' : (100 * c + 4 * q + k + 1) / 400 = 0 := by omega
    omega

/-! ### Years from March to February -/

/-- Days from the first of March of year 0 to the first of March of a year. -/
def marchFirst (y : Int) : Int := 365 * y + y / 4 - y / 100 + y / 400

/-- The year in which the last March up to the date began. -/
def marchYear (d : Date) : Int := d.yearOfCycle + 400 * ((d.dayNumber + 719468) / 146097)

theorem year_eq (d : Date) : d.year = d.marchYear + if d.month ≤ 2 then 1 else 0 := rfl

theorem marchFirst_succ_le {y y' : Int} (h : y < y') : marchFirst (y + 1) ≤ marchFirst y' := by
  unfold marchFirst; omega

theorem marchFirst_add_le (y : Int) : marchFirst y + 365 ≤ marchFirst (y + 1) := by
  unfold marchFirst; omega

theorem marchFirst_succ_le_add (y : Int) : marchFirst (y + 1) ≤ marchFirst y + 366 := by
  unfold marchFirst; omega

/-- A date is a day of its year. -/
theorem dayNumber_eq (d : Date) : d.dayNumber + 719468 = marchFirst d.marchYear + d.dayOfYear := by
  have := d.yearOfCycle_bounds
  have hn : d.dayOfCycle = (d.dayNumber + 719468) % 146097 := rfl
  simp only [marchFirst, marchYear, dayOfYear]
  omega

theorem dayOfYear_nonneg (d : Date) : 0 ≤ d.dayOfYear := d.yearOfCycle_bounds.2.2.1

theorem dayOfYear_lt (d : Date) :
    marchFirst d.marchYear + d.dayOfYear < marchFirst (d.marchYear + 1) := by
  have := d.yearOfCycle_bounds
  simp only [marchFirst, marchYear]
  omega

/-- A date is a day of one year only. -/
theorem marchYear_unique {d : Date} {y n : Int} (h : d.dayNumber + 719468 = marchFirst y + n)
    (h0 : 0 ≤ n) (h1 : marchFirst y + n < marchFirst (y + 1)) : d.marchYear = y ∧ d.dayOfYear = n := by
  have hd := d.dayNumber_eq
  have hd0 := d.dayOfYear_nonneg
  have hd1 := d.dayOfYear_lt
  have hy : d.marchYear = y := by
    rcases Int.lt_trichotomy d.marchYear y with hlt | heq | hgt
    · have := marchFirst_succ_le hlt
      omega
    · exact heq
    · have := marchFirst_succ_le hgt
      omega
  refine ⟨hy, ?_⟩
  rw [hy] at hd
  omega

/-! ### Months -/

/-- Days from the first of March to the first of the month that is so many months after March. -/
def monthFirst (m : Int) : Int := (153 * m + 2) / 5

theorem monthFromMarch_bounds (d : Date) :
    0 ≤ d.monthFromMarch ∧ d.monthFromMarch ≤ 11 ∧ monthFirst d.monthFromMarch ≤ d.dayOfYear ∧
      d.dayOfYear < monthFirst (d.monthFromMarch + 1) := by
  have h0 := d.dayOfYear_nonneg
  have h1 := d.dayOfYear_lt
  have h2 := marchFirst_succ_le_add d.marchYear
  simp only [monthFirst, monthFromMarch]
  omega

/-- A day of the year is a day of one month only. -/
theorem monthFromMarch_unique {d : Date} {m : Int} (h : monthFirst m ≤ d.dayOfYear)
    (h' : d.dayOfYear < monthFirst (m + 1)) : d.monthFromMarch = m := by
  simp only [monthFirst, monthFromMarch] at *
  omega

theorem month_eq (d : Date) :
    (d.month : Int) = if d.monthFromMarch < 10 then d.monthFromMarch + 3 else d.monthFromMarch - 9 := by
  have := d.monthFromMarch_bounds
  simp only [month]
  split <;> omega

theorem one_le_month (d : Date) : 1 ≤ d.month := by
  have := d.monthFromMarch_bounds
  have := d.month_eq
  split at this <;> omega

theorem month_le (d : Date) : d.month ≤ 12 := by
  have := d.monthFromMarch_bounds
  have := d.month_eq
  split at this <;> omega

theorem ofYearMonthDay_dayNumber (year : Int) (month day : Nat) :
    (ofYearMonthDay year month day).dayNumber + 719468 =
      marchFirst (if month ≤ 2 then year - 1 else year) +
        monthFirst (if month ≤ 2 then (month : Int) + 9 else month - 3) + day - 1 := by
  simp only [ofYearMonthDay, marchFirst, monthFirst]
  omega

/-- The first date of the month after a date's. -/
def nextMonth (d : Date) : Date :=
  ⟨(if d.monthFromMarch < 11 then marchFirst d.marchYear + monthFirst (d.monthFromMarch + 1)
    else marchFirst (d.marchYear + 1)) - 719468⟩

theorem lt_nextMonth (d : Date) : d.dayNumber < d.nextMonth.dayNumber := by
  have := d.dayNumber_eq
  have := d.dayOfYear_lt
  have := d.monthFromMarch_bounds
  simp only [nextMonth]
  split <;> omega

theorem day_eq (d : Date) : (d.day : Int) = d.dayOfYear - monthFirst d.monthFromMarch + 1 := by
  have := d.monthFromMarch_bounds
  simp only [day, monthFirst] at *
  omega

theorem one_le_day (d : Date) : 1 ≤ d.day := by
  have := d.monthFromMarch_bounds
  have := d.day_eq
  omega

theorem day_le (d : Date) : d.day ≤ 31 := by
  have := d.monthFromMarch_bounds
  have := d.day_eq
  simp only [monthFirst] at *
  omega

/-- A date is told by its year, month and day. -/
theorem ext_parts {d e : Date} (hyear : d.year = e.year) (hmonth : d.month = e.month) (hday : d.day = e.day) :
    d = e := by
  have hmarch : d.marchYear = e.marchYear := by
    rw [year_eq, year_eq, hmonth] at hyear
    omega
  have hfirst : d.monthFromMarch = e.monthFromMarch := by
    have := d.monthFromMarch_bounds
    have := e.monthFromMarch_bounds
    have := d.month_eq
    have := e.month_eq
    split at * <;> split at * <;> omega
  have hdays : d.dayOfYear = e.dayOfYear := by
    have hd := d.day_eq
    have he := e.day_eq
    rw [hfirst] at hd
    omega
  apply ext_dayNumber
  have hd := d.dayNumber_eq
  have he := e.dayNumber_eq
  rw [hmarch, hdays] at hd
  omega

/-- The dates after the end of the last month and before the next one lie in the date's month. -/
theorem march_eq_of_between {d e : Date} (h : d.dayNumber - d.day < e.dayNumber)
    (h' : e.dayNumber < d.nextMonth.dayNumber) :
    e.marchYear = d.marchYear ∧ e.monthFromMarch = d.monthFromMarch := by
  have hd := d.dayNumber_eq
  have hday := d.day_eq
  have hm := d.monthFromMarch_bounds
  have hlong := marchFirst_add_le d.marchYear
  have hlast : monthFirst 11 = 337 := rfl
  have hfirst : 0 ≤ monthFirst d.monthFromMarch := by
    simp only [monthFirst]
    omega
  have hnext : d.monthFromMarch < 11 → monthFirst (d.monthFromMarch + 1) ≤ 337 := by
    intro hlt
    simp only [monthFirst]
    omega
  have hin : marchFirst d.marchYear + (e.dayNumber + 719468 - marchFirst d.marchYear) <
      marchFirst (d.marchYear + 1) := by
    simp only [nextMonth] at h'
    split at h' <;> omega
  obtain ⟨hyear, he⟩ := marchYear_unique (d := e) (y := d.marchYear)
    (n := e.dayNumber + 719468 - marchFirst d.marchYear) (by omega) (by omega) hin
  refine ⟨hyear, monthFromMarch_unique (by omega) ?_⟩
  simp only [nextMonth] at h'
  split at h'
  · omega
  · have hmax : d.monthFromMarch = 11 := by omega
    have := marchFirst_succ_le_add d.marchYear
    have : monthFirst (11 + 1) = 367 := rfl
    rw [hmax]
    omega

/-- The dates from a date to the end of its month have its month. -/
theorem month_eq_of_lt_nextMonth {d e : Date} (h : d.dayNumber ≤ e.dayNumber)
    (h' : e.dayNumber < d.nextMonth.dayNumber) : e.month = d.month := by
  have hday := d.one_le_day
  have hmonth := (march_eq_of_between (by omega) h').2
  have h1 := d.month_eq
  have h2 := e.month_eq
  rw [hmonth] at h2
  omega

theorem month_nextMonth (d : Date) : d.nextMonth.month = d.month % 12 + 1 := by
  have hm := d.monthFromMarch_bounds
  have h1 := d.month_eq
  have h2 := d.nextMonth.month_eq
  have hlong := marchFirst_add_le d.marchYear
  by_cases hlt : d.monthFromMarch < 11
  · have hnum : d.nextMonth.dayNumber + 719468 =
        marchFirst d.marchYear + monthFirst (d.monthFromMarch + 1) := by
      simp only [nextMonth, if_pos hlt]
      omega
    have hbound : 0 ≤ monthFirst (d.monthFromMarch + 1) ∧ monthFirst (d.monthFromMarch + 1) ≤ 337 := by
      simp only [monthFirst]
      omega
    obtain ⟨-, hday⟩ := marchYear_unique hnum hbound.1 (by omega)
    have hmonth : d.nextMonth.monthFromMarch = d.monthFromMarch + 1 := by
      apply monthFromMarch_unique
      · omega
      · rw [hday]
        simp only [monthFirst]
        omega
    rw [hmonth] at h2
    split at h1 <;> split at h2 <;> omega
  · have hnum : d.nextMonth.dayNumber + 719468 = marchFirst (d.marchYear + 1) + 0 := by
      simp only [nextMonth, if_neg hlt]
      omega
    have := marchFirst_add_le (d.marchYear + 1)
    obtain ⟨-, hday⟩ := marchYear_unique hnum (by omega) (by omega)
    have hmonth : d.nextMonth.monthFromMarch = 0 := by
      apply monthFromMarch_unique
      · rw [hday]
        decide
      · rw [hday]
        decide
    rw [hmonth] at h2
    split at h1 <;> simp at h2 <;> omega

private theorem ofYearMonthDay?_first {d : Date} {year : Int} {month : Nat}
    (hmonth : 1 ≤ month ∧ month ≤ 12)
    (h : marchFirst (if month ≤ 2 then year - 1 else year) +
      monthFirst (if month ≤ 2 then (month : Int) + 9 else month - 3) = d.dayNumber + 719468) :
    ofYearMonthDay? year month 1 = if d.inCalendar then some d else none := by
  have hlen : 1 ≤ daysInMonth year month := by grind [daysInMonth]
  have heq : ofYearMonthDay year month 1 = d := by
    have hnum := ofYearMonthDay_dayNumber year month 1
    apply ext_dayNumber
    omega
  simp [ofYearMonthDay?, hmonth.1, hmonth.2, hlen, heq]

/-- The first of the next month is given unless it is past the calendar. -/
theorem firstOfNextMonth?_eq (d : Date) :
    d.firstOfNextMonth? = if d.nextMonth.inCalendar then some d.nextMonth else none := by
  have hm := d.monthFromMarch_bounds
  have hmonth := d.month_eq
  have hyear := d.year_eq
  have hle := d.month_le
  rw [firstOfNextMonth?]
  split
  · next hdec =>
    have hmax : d.monthFromMarch = 9 := by split at hmonth <;> omega
    apply ofYearMonthDay?_first (by omega)
    have hy : d.year + 1 - 1 = d.marchYear := by simpa [hdec] using hyear
    simp [nextMonth, hmax, hy]
  · next hdec =>
    apply ofYearMonthDay?_first (by omega)
    obtain hlt | h10 | h11 : d.monthFromMarch < 10 ∨ d.monthFromMarch = 10 ∨ d.monthFromMarch = 11 := by
      omega
    · -- from March to November
      rw [if_pos hlt] at hmonth
      have hy : d.year = d.marchYear := by rw [hyear, if_neg (by omega)]; omega
      have hnext : ((d.month + 1 : Nat) : Int) - 3 = d.monthFromMarch + 1 := by omega
      have hmore : ¬d.month + 1 ≤ 2 := by omega
      have hlt : d.monthFromMarch < 11 := by omega
      simp only [nextMonth, if_neg hmore, hnext, if_pos hlt, hy]
      omega
    · -- January
      have hjan : d.month = 1 := by split at hmonth <;> omega
      have hy : d.year - 1 = d.marchYear := by rw [hyear, hjan]; simp
      simp [nextMonth, hjan, h10, hy]
    · -- February
      have hfeb : d.month = 2 := by split at hmonth <;> omega
      have hy : d.year = d.marchYear + 1 := by rw [hyear, hfeb]; simp
      have hfirst : monthFirst 0 = 0 := rfl
      simp [nextMonth, hfeb, h11, hy, hfirst]

/-! ### The dates of a month -/

/-- Whether two dates lie in one month of one year. -/
def SameMonth (d e : Date) : Prop := e.year = d.year ∧ e.month = d.month

theorem sameMonth_iff_march {d e : Date} :
    d.SameMonth e ↔ e.marchYear = d.marchYear ∧ e.monthFromMarch = d.monthFromMarch := by
  have hd := d.month_eq
  have he := e.month_eq
  have hm := d.monthFromMarch_bounds
  have hm' := e.monthFromMarch_bounds
  have hmonth : e.month = d.month ↔ e.monthFromMarch = d.monthFromMarch := by
    split at hd <;> split at he <;> omega
  rw [SameMonth, year_eq, year_eq, ← hmonth]
  refine and_congr_left fun h => ?_
  rw [h]
  omega

/-- The dates of a month are those after the end of the last month and before the next one. -/
theorem sameMonth_iff {d e : Date} :
    d.SameMonth e ↔ d.dayNumber - d.day < e.dayNumber ∧ e.dayNumber < d.nextMonth.dayNumber := by
  rw [sameMonth_iff_march]
  refine ⟨fun ⟨hyear, hmonth⟩ => ?_, fun ⟨h, h'⟩ => march_eq_of_between h h'⟩
  have hd := d.dayNumber_eq
  have he := e.dayNumber_eq
  have hday := d.day_eq
  have hday' := e.day_eq
  have hpos := e.one_le_day
  have hnext : d.nextMonth = e.nextMonth := by rw [nextMonth, nextMonth, hyear, hmonth]
  rw [hyear] at he
  rw [hmonth] at hday'
  exact ⟨by omega, hnext ▸ e.lt_nextMonth⟩

/-- A date is the last of its month if the next month begins on the day after. -/
theorem isLastOfMonth_iff {d : Date} (hd : d.inCalendar) :
    d.isLastOfMonth ↔ d.nextMonth.dayNumber = d.dayNumber + 1 := by
  have hlt := d.lt_nextMonth
  rw [isLastOfMonth]
  split
  · next e he =>
    obtain ⟨hnum, -⟩ := next?_eq_some he hd
    rw [bne_iff_ne]
    constructor
    · intro hne
      by_contra hlonger
      exact hne (month_eq_of_lt_nextMonth (by omega) (by omega))
    · intro hnext
      have heq : e = d.nextMonth := ext_dayNumber (by omega)
      have hle := d.month_le
      rw [heq, month_nextMonth]
      omega
  · next he =>
    have hlast : d = last := by
      have hle := le_of_next?_eq_none he (e := last) (by decide)
      rw [inCalendar_iff] at hd
      exact ext_dayNumber (by omega)
    rw [hlast]
    exact iff_of_true rfl (by decide)

end Date

end FlowScheduler
