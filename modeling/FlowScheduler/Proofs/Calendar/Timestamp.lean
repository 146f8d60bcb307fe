import Mathlib
import FlowScheduler.Calendar.Timestamp
import FlowScheduler.Proofs.Argument.FullDate
import FlowScheduler.Proofs.Recurrence.ConstantOffset
import FlowScheduler.Proofs.Recurrence.Spelling

/-!
Timestamps are read back as they are written.

Every part of a printed timestamp is read by the field that stands in its place: years outside 0 to 9999 with
their sign, fractions in 3, 6 or 9 digits, and leap seconds as `:60`, which clocks show only after second 59.
So the instants that timestamps denote are exactly those that their own text denotes
(`Instant.ofText?_toText_iff`).
-/

namespace FlowScheduler

open Text

/-! ### Dates by their parts -/

namespace Date

/-- A year has a leap day if the year that begins with its March before has 366 days. -/
theorem marchFirst_succ (y : Int) :
    marchFirst (y + 1) = marchFirst y + if isLeapYear (y + 1) then 366 else 365 := by
  simp only [marchFirst, isLeapYear, Bool.and_eq_true, Bool.or_eq_true, decide_eq_true_eq]
  split
  · omega
  · omega

theorem day_le_daysInMonth (d : Date) : d.day ≤ daysInMonth d.year d.month := by
  have hmonths := d.monthFromMarch_bounds
  have hmonth := d.month_eq
  have hday := d.day_eq
  simp only [monthFirst] at hmonths hday
  rw [daysInMonth]
  split
  · next hfebruary =>
    -- February ends the year that began in March.
    have hyear : d.year = d.marchYear + 1 := by rw [year_eq, if_pos (Nat.le_of_eq hfebruary)]
    have hlast := d.dayOfYear_lt
    rw [marchFirst_succ, ← hyear] at hlast
    split at hmonth
    · omega
    · split at hlast
      · next hleap =>
        rw [if_pos hleap]
        omega
      · next hleap =>
        rw [if_neg hleap]
        omega
  · split at hmonth
    · split
      · omega
      · omega
    · split
      · omega
      · omega

theorem ofYearMonthDay_parts (d : Date) : ofYearMonthDay d.year d.month d.day = d := by
  have hmonths := d.monthFromMarch_bounds
  have hmonth := d.month_eq
  have hday := d.day_eq
  have hnumber := d.dayNumber_eq
  have hparts := ofYearMonthDay_dayNumber d.year d.month d.day
  have hmarch : (if d.month ≤ 2 then d.year - 1 else d.year) = d.marchYear := by
    rw [year_eq]
    split
    · omega
    · omega
  have hfirst : (if d.month ≤ 2 then (d.month : Int) + 9 else d.month - 3) = d.monthFromMarch := by
    split at hmonth
    · rw [if_neg (by omega)]
      omega
    · rw [if_pos (by omega)]
      omega
  rw [hmarch, hfirst] at hparts
  apply ext_dayNumber
  omega

theorem ofYearMonthDay?_parts {d : Date} (h : d.inCalendar) : ofYearMonthDay? d.year d.month d.day = some d := by
  rw [ofYearMonthDay?, if_pos ⟨d.one_le_month, d.month_le, d.one_le_day, d.day_le_daysInMonth⟩,
    ofYearMonthDay_parts]
  exact if_pos h

end Date

/-! ### Times of day by their parts -/

namespace TimeOfDay

/-- Whether a clock can show the time: a leap second comes after second 59. -/
def IsOnClock (t : TimeOfDay) : Prop := t.nanos < nanosPerSecond ∨ t.second % 60 = 59

theorem isOnClock_of_ofClock? {hour minute second nanos : Nat} {t : TimeOfDay}
    (h : ofClock? hour minute second nanos = some t) : t.IsOnClock := by
  rw [ofClock?] at h
  split at h
  · next hbounds =>
    split at h
    · cases h
      refine .inr ?_
      simp only
      omega
    · cases h
      exact .inl hbounds.2.2.2
  · cases h

theorem IsOnClock.ofClock?_parts {t : TimeOfDay} (h : t.IsOnClock) :
    ofClock? t.hour t.minute t.shownSecond t.shownNanos = some t := by
  have hsecond := t.second_lt
  have hnanos := t.nanos_lt
  simp only [IsOnClock, nanosPerSecond] at h
  have hbounds : t.hour < 24 ∧ t.minute < 60 ∧ t.shownSecond ≤ 60 ∧ t.shownNanos < 1000000000 := by
    simp only [hour, minute, shownSecond, secondOfMinute, shownNanos, nanosPerSecond]
    omega
  rw [ofClock?, dif_pos hbounds]
  by_cases hleap : t.shownSecond = 60
  · rw [if_pos hleap, Option.some.injEq, ext_iff]
    simp only [hour, minute, shownSecond, secondOfMinute, shownNanos, nanosPerSecond] at hleap ⊢
    omega
  · rw [if_neg hleap, Option.some.injEq, ext_iff]
    simp only [hour, minute, shownSecond, secondOfMinute, shownNanos, nanosPerSecond] at hleap ⊢
    omega

end TimeOfDay

/-! ### Fields -/

namespace Timestamp

variable {n width : Nat} {c : Char} {ds rest : List Char}

theorem isDigit_of_mem_padded (h : c ∈ (padded width n).toList) : c.isDigit := by
  rw [padded, String.toList_ofList, List.mem_append] at h
  rcases h with hzero | hdigit
  · rw [List.eq_of_mem_replicate hzero]
    rfl
  · exact Nat.isDigit_of_mem_toDigits (by decide) (by decide) hdigit

theorem padded_ne_nil (width n : Nat) : (padded width n).toList ≠ [] := by
  rw [padded, String.toList_ofList]
  simp [Nat.toDigits_ne_nil]

theorem dropBlanks_cons (h : isBlank c = false) : dropBlanks (c :: rest) = c :: rest := by
  rw [dropBlanks, List.dropWhile_cons_of_neg (by simp [h])]

theorem exists_digit_cons (width n : Nat) (rest : List Char) :
    ∃ c cs, c.isDigit ∧ (padded width n).toList ++ rest = c :: cs := by
  obtain ⟨c, cs, hcs⟩ := List.exists_cons_of_ne_nil (padded_ne_nil width n)
  have hmem : c ∈ (padded width n).toList := by
    rw [hcs]
    exact List.mem_cons_self
  exact ⟨c, cs ++ rest, isDigit_of_mem_padded hmem, by rw [hcs, List.cons_append]⟩

theorem dropBlanks_padded (width n : Nat) (rest : List Char) :
    dropBlanks ((padded width n).toList ++ rest) = (padded width n).toList ++ rest := by
  obtain ⟨c, cs, hdigit, hcs⟩ := exists_digit_cons width n rest
  rw [hcs, dropBlanks_cons (isBlank_of_isDigit hdigit)]

theorem takeDigits_append (h : ∀ c ∈ ds, c.isDigit) : takeDigits ds.length (ds ++ rest) = (ds, rest) := by
  induction ds with
  | nil => rfl
  | cons c ds ih =>
    obtain ⟨hc, hds⟩ := List.forall_mem_cons.1 h
    rw [List.length_cons, List.cons_append, takeDigits, if_pos hc, ih hds]

theorem takeWhile_padded (width n : Nat) (h : ¬c.isDigit) :
    ((padded width n).toList ++ c :: rest).takeWhile Char.isDigit = (padded width n).toList := by
  rw [List.takeWhile_append_of_pos fun c hc => isDigit_of_mem_padded hc, List.takeWhile_cons_of_neg h,
    List.append_nil]

theorem field?_padded (hwidth : 0 < width) (hn : n < 10 ^ width) (rest : List Char) :
    field? width ((padded width n).toList ++ rest) = some (n, rest) := by
  have hlength := length_padded hwidth hn
  have htake : takeDigits (padded width n).toList.length ((padded width n).toList ++ rest) =
      ((padded width n).toList, rest) := takeDigits_append fun _ hc => isDigit_of_mem_padded hc
  rw [hlength] at htake
  rw [field?, dropBlanks_padded, htake]
  simp only [number?_padded, Option.map_some]

theorem field?_padded_two (hn : n < 100) (rest : List Char) :
    field? 2 ((padded 2 n).toList ++ rest) = some (n, rest) :=
  field?_padded (by decide) hn rest

theorem mark?_self (h : isBlank c = false) : mark? c (c :: rest) = some rest := by
  rw [mark?, dropBlanks_cons h]
  exact if_pos rfl

theorem yearField?_signed {sign : Int} {mark : Char} (hmark : mark = '-' ∧ sign = -1 ∨ mark = '+' ∧ sign = 1)
    (width n : Nat) (hc : ¬c.isDigit) (rest : List Char) :
    yearField? (mark :: ((padded width n).toList ++ c :: rest)) = some (sign * n, c :: rest) := by
  rcases hmark with ⟨rfl, rfl⟩ | ⟨rfl, rfl⟩
  · rw [yearField?, dropBlanks_cons (by decide)]
    simp [takeWhile_padded width n hc, number?_padded]
  · rw [yearField?, dropBlanks_cons (by decide)]
    simp [takeWhile_padded width n hc, number?_padded]

/-- A year without a sign is read as it has no more than four digits. -/
theorem yearField?_yearText (year : Int) (rest : List Char) :
    yearField? ((yearText year).toList ++ '-' :: rest) = some (year, '-' :: rest) := by
  rw [yearText]
  split
  · next hplain =>
    obtain ⟨c, cs, hdigit, hcs⟩ := exists_digit_cons 4 year.toNat ('-' :: rest)
    have hfield := field?_padded (n := year.toNat) (Nat.succ_pos 3) (by omega) ('-' :: rest)
    rw [yearField?, dropBlanks_padded]
    rw [hcs] at hfield ⊢
    split
    · next heq =>
      cases heq
      exact absurd hdigit (by decide)
    · next heq =>
      cases heq
      exact absurd hdigit (by decide)
    · rw [hfield]
      simp only [Option.map_some, Int.toNat_of_nonneg hplain.1]
  · have hdash : ¬('-').isDigit := by decide
    have hchars (mark : String) : (mark ++ padded 4 year.natAbs).toList ++ '-' :: rest =
        mark.toList ++ ((padded 4 year.natAbs).toList ++ '-' :: rest) := by
      rw [String.toList_append, List.append_assoc]
    rw [hchars]
    split
    · next hneg =>
      have hsign : (-1 : Int) * year.natAbs = year := by omega
      have hsigned := yearField?_signed (.inl ⟨rfl, rfl⟩) 4 year.natAbs hdash rest
      rw [hsign] at hsigned
      exact hsigned
    · next hpos =>
      have hsign : (1 : Int) * year.natAbs = year := by omega
      have hsigned := yearField?_signed (.inr ⟨rfl, rfl⟩) 4 year.natAbs hdash rest
      rw [hsign] at hsigned
      exact hsigned

theorem fraction?_padded (hwidth : 0 < width) (hmax : width ≤ 9) (hn : n < 10 ^ width) (hc : ¬c.isDigit) :
    fraction? ('.' :: ((padded width n).toList ++ c :: rest)) =
      some (n * Nat.pow 10 (9 - width), c :: rest) := by
  have hlength := length_padded hwidth hn
  have htake : (padded width n).toList.take 9 = (padded width n).toList :=
    List.take_of_length_le (by omega)
  simp only [fraction?, takeWhile_padded width n hc, htake, number?_padded, Option.map_some, hlength,
    List.drop_left' hlength]

theorem fraction?_of_ne (h : c ≠ '.') : fraction? (c :: rest) = some (0, c :: rest) := by
  rw [fraction?]
  rintro cs ⟨⟩
  exact h rfl

/-- As many digits are written as the fraction needs, and as many zeros are put behind those that are read. -/
theorem fraction?_fractionText {nanos : Nat} (h : nanos < 1000000000) (hdot : c ≠ '.') (hc : ¬c.isDigit)
    (rest : List Char) :
    fraction? ((fractionText nanos).toList ++ c :: rest) = some (nanos, c :: rest) := by
  have hchars (width n : Nat) : ("." ++ padded width n).toList ++ c :: rest =
      '.' :: ((padded width n).toList ++ c :: rest) := by
    simp
  rw [fractionText]
  split
  · next hzero =>
    rw [hzero]
    exact fraction?_of_ne hdot
  · split
    · next hmillis =>
      have hvalue : nanos / 1000000 * Nat.pow 10 (9 - 3) = nanos :=
        Nat.div_mul_cancel (Nat.dvd_of_mod_eq_zero hmillis)
      rw [hchars, fraction?_padded (by decide) (by decide) (by omega) hc, hvalue]
    · split
      · next hmicros =>
        have hvalue : nanos / 1000 * Nat.pow 10 (9 - 6) = nanos :=
          Nat.div_mul_cancel (Nat.dvd_of_mod_eq_zero hmicros)
        rw [hchars, fraction?_padded (by decide) (by decide) (by omega) hc, hvalue]
      · have hvalue : nanos * Nat.pow 10 (9 - 9) = nanos := Nat.mul_one nanos
        rw [hchars, fraction?_padded (by decide) (by decide) (by omega) hc, hvalue]

/-! ### Dates and times of day -/

theorem date?_toText {d : Date} (h : d.inCalendar) (c : Char) (rest : List Char) :
    date? (d.toText.toList ++ c :: rest) = some (d, c :: rest) := by
  have hdash : isBlank '-' = false := by decide
  have hmonth := field?_padded_two (n := d.month) (by have := d.month_le; omega)
  have hday := field?_padded_two (n := d.day) (by have := d.day_le; omega)
  have hchars : d.toText.toList ++ c :: rest = (yearText d.year).toList ++
      '-' :: ((padded 2 d.month).toList ++ '-' :: ((padded 2 d.day).toList ++ c :: rest)) := by
    simp [Date.toText]
  rw [hchars, date?]
  simp [yearField?_yearText, mark?_self hdash, hmonth, hday, Date.ofYearMonthDay?_parts h]

theorem time?_toText {t : TimeOfDay} (h : t.IsOnClock) (hdot : c ≠ '.') (hc : ¬c.isDigit) (rest : List Char) :
    time? (t.toText.toList ++ ((fractionText t.shownNanos).toList ++ c :: rest)) = some (t, c :: rest) := by
  have hcolon : isBlank ':' = false := by decide
  have hhour := field?_padded_two (n := t.hour) (by have := t.hour_lt; omega)
  have hminute := field?_padded_two (n := t.minute) (by have := t.minute_lt; omega)
  have hsecond := field?_padded_two (n := t.shownSecond) (by have := t.shownSecond_lt; omega)
  have hfraction := fraction?_fractionText (Nat.mod_lt t.nanos (by decide)) hdot hc rest
  rw [← nanosPerSecond, ← TimeOfDay.shownNanos] at hfraction
  have hchars : t.toText.toList ++ ((fractionText t.shownNanos).toList ++ c :: rest) = (padded 2 t.hour).toList ++
      ':' :: ((padded 2 t.minute).toList ++
        ':' :: ((padded 2 t.shownSecond).toList ++ ((fractionText t.shownNanos).toList ++ c :: rest))) := by
    simp [TimeOfDay.toText]
  rw [hchars, time?]
  simp [mark?_self hcolon, hhour, hminute, hsecond, hfraction, h.ofClock?_parts]

theorem dateTime?_toText {l : LocalTime} (hdate : l.date.inCalendar) (htime : l.time.IsOnClock) (hdot : c ≠ '.')
    (hc : ¬c.isDigit) (rest : List Char) : dateTime? (l.toText.toList ++ c :: rest) = some (l, c :: rest) := by
  have hchars : l.toText.toList ++ c :: rest = l.date.toText.toList ++
      'T' :: (l.time.toText.toList ++ ((fractionText l.time.shownNanos).toList ++ c :: rest)) := by
    simp [LocalTime.toText]
  rw [hchars, dateTime?, date?_toText hdate]
  simp [time?_toText htime hdot hc]

/-! ### What timestamps denote -/

theorem isOnClock_of_time? {t : TimeOfDay} (h : time? ds = some (t, rest)) : t.IsOnClock := by
  simp only [time?, Option.bind_eq_bind, Option.bind_eq_some_iff, Prod.exists, Option.some.injEq,
    Prod.mk.injEq] at h
  obtain ⟨hour, _, -, _, -, minute, _, -, _, -, second, _, -, nanos, _, -, t', hclock, rfl, -⟩ := h
  exact TimeOfDay.isOnClock_of_ofClock? hclock

theorem isOnClock_of_dateTime? {l : LocalTime} (h : dateTime? ds = some (l, rest)) :
    l.nanos < nanosPerSecond ∨ l.second % 60 = 59 := by
  simp only [dateTime?, Option.bind_eq_bind, Option.bind_eq_some_iff, Prod.exists] at h
  obtain ⟨d, cs, -, h⟩ := h
  split at h
  · split at h
    · simp only [Option.bind_eq_some_iff, Prod.exists, Option.some.injEq, Prod.mk.injEq] at h
      obtain ⟨t, _, htime, rfl, -⟩ := h
      have hclock := isOnClock_of_time? htime
      simp only [TimeOfDay.IsOnClock, LocalTime.ofDateTime] at hclock ⊢
      omega
    · cases h
  · cases h

theorem offset?_measured_emod {sign offset : Int} (h : offset?.measured sign ds = some (offset, rest)) :
    offset % 60 = 0 := by
  simp only [offset?.measured, Option.bind_eq_bind, Option.bind_eq_some_iff, Prod.exists] at h
  obtain ⟨hours, _, -, minutes, _, -, h⟩ := h
  split at h
  · simp only [Option.some.injEq, Prod.mk.injEq] at h
    rw [← h.1]
    have hminutes : ((hours * 3600 + minutes * 60 : Nat) : Int) = 60 * (hours * 60 + minutes) := by omega
    rw [hminutes, Int.mul_left_comm]
    exact Int.mul_emod_right ..
  · cases h

theorem offset?_numeric_emod {offset : Int} (h : offset?.numeric ds = some (offset, rest)) : offset % 60 = 0 := by
  cases ds with
  | nil => cases h
  | cons mark ds =>
    rw [offset?.numeric] at h
    split at h
    · cases h
      rfl
    · split at h
      · exact offset?_measured_emod h
      · split at h
        · exact offset?_measured_emod h
        · cases h

/-- Offsets are whole minutes. -/
theorem offset?_emod {offset : Int} (h : offset? ds = some (offset, rest)) : offset % 60 = 0 := by
  rw [offset?.eq_def] at h
  split at h
  · split at h
    · cases h
      rfl
    · exact offset?_numeric_emod h
  · exact offset?_numeric_emod h

end Timestamp

namespace Instant

/-- Whether a calendar and a clock can show the instant. -/
def IsShown (i : Instant) : Prop := i.inCalendar ∧ (i.nanos < nanosPerSecond ∨ i.second % 60 = 59)

theorem isShown_of_ofText? {s : String} {i : Instant} (h : ofText? s = some i) : i.IsShown := by
  simp only [ofText?, Option.map_eq_some_iff, OffsetTime.ofText?, Option.bind_eq_bind, Option.bind_eq_some_iff,
    Prod.exists] at h
  obtain ⟨t, ⟨shown, cs, hshown, offset, _, hoffset, h⟩, rfl⟩ := h
  split at h
  · next hdenotes =>
    cases h
    have hclock := Timestamp.isOnClock_of_dateTime? hshown
    have hminutes := Timestamp.offset?_emod hoffset
    refine ⟨hdenotes.2, ?_⟩
    simp only [LocalTime.instantAt]
    omega
  · cases h

/-- The text of an instant denotes it if a calendar and a clock can show it. -/
theorem IsShown.ofText?_toText {i : Instant} (h : i.IsShown) : ofText? i.toText = some i := by
  have htime : (i.shownAt 0).time.IsOnClock := by
    have hclock := h.2
    simp only [TimeOfDay.IsOnClock, LocalTime.time, shownAt] at hclock ⊢
    omega
  have hdate : (i.shownAt 0).date.inCalendar := by
    have hshown : (i.shownAt 0).date = i.date := by
      rw [LocalTime.date, shownAt, Int.add_zero, date]
    rw [hshown]
    exact h.1
  have hchars : i.toText.toList = (i.shownAt 0).toText.toList ++ ['Z'] := by
    simp [toText, OffsetTime.toText, OffsetTime.utc, OffsetTime.shown, offsetText]
  have hread := Timestamp.dateTime?_toText hdate htime (c := 'Z') (by decide) (by decide) []
  have hoffset : Timestamp.offset? (Text.dropBlanks ['Z']) = some (0, []) := by decide
  have hback : (i.shownAt 0).instantAt 0 = i := by
    rw [ext_iff]
    simp [LocalTime.instantAt, shownAt]
  have hend : Text.dropBlanks [] = [] := rfl
  rw [ofText?, OffsetTime.ofText?, hchars, hread]
  simp only [Option.bind_eq_bind, Option.bind_some, hoffset, hback, hend, h.1, and_self, if_true, Option.map_some]

/-- The instants that timestamps denote are those that their own text denotes. -/
theorem ofText?_toText_iff {i : Instant} : ofText? i.toText = some i ↔ i.IsShown :=
  ⟨isShown_of_ofText?, IsShown.ofText?_toText⟩

end Instant

end FlowScheduler
