import Mathlib
import FlowScheduler.Proofs.Calendar
import FlowScheduler.Proofs.Recurrence.MonthDays
import FlowScheduler.Proofs.Text.Number
import FlowScheduler.Recurrence.Rule

/-!
What a filter on the day of the month means.

An entry denotes dates by their place in the month (`MonthDayEntry.Denotes`), and there are fixed ways to
write it (`MonthDayEntry.IsWritten`), which are those that are read (`MonthDayEntry.ofChars?_eq_some_iff`). A
filter lets a date pass if and only if it is unrestricted or one of its entries denotes the date
(`MonthDays.admits_iff`): the bit of an ordinal and a weekday is that of a date if and only if so many days
of the month up to the date fall on the weekday (`Date.ncard_weekday`). Both together say what an accepted
text means and which texts are refused (`MonthDays.ofText_meaning`).
-/

namespace FlowScheduler

open Text

/-! ### The weekdays of a month -/

namespace Date

theorem weekday_eq_iff {d e : Date} :
    e.weekday = d.weekday ↔ (d.dayNumber - e.dayNumber) % 7 = 0 := by
  have hindex (d : Date) : d.weekday.index = ((d.dayNumber + 3) % 7).toNat :=
    Weekday.index_ofIndex (by omega)
  rw [← Weekday.index_inj, hindex, hindex]
  omega

/-- As many days of the month up to a date fall on its weekday as weeks have begun in it, counted from its
first day. -/
theorem ncard_weekday (d : Date) :
    {e | d.SameMonth e ∧ e.dayNumber ≤ d.dayNumber ∧ e.weekday = d.weekday}.ncard = (d.day - 1) / 7 + 1 := by
  have hpos := d.one_le_day
  have hlt := d.lt_nextMonth
  have hset : {e | d.SameMonth e ∧ e.dayNumber ≤ d.dayNumber ∧ e.weekday = d.weekday} =
      (fun weeks : Nat => (⟨d.dayNumber - 7 * weeks⟩ : Date)) '' Set.Iio ((d.day - 1) / 7 + 1) := by
    ext e
    simp only [Set.mem_ofPred_eq, Set.mem_image, Set.mem_Iio, sameMonth_iff, weekday_eq_iff]
    constructor
    · rintro ⟨⟨hfrom, -⟩, hto, hweeks⟩
      exact ⟨((d.dayNumber - e.dayNumber) / 7).toNat, by omega, ext_dayNumber (by dsimp only; omega)⟩
    · rintro ⟨weeks, hweeks, rfl⟩
      dsimp only
      omega
  rw [hset, Set.ncard_image_of_injective, Set.ncard_eq_toFinset_card', Set.toFinset_Iio, Nat.card_Iio]
  intro a b h
  have := congrArg dayNumber h
  dsimp only at this
  omega

end Date

namespace MonthDayEntry

variable {e : MonthDayEntry} {d : Date} {cs : List Char}

/-! ### Dates of an entry -/

/-- Whether an entry denotes a date. -/
def Denotes : MonthDayEntry → Date → Prop
  | .first, d => ∀ e, d.SameMonth e → d.dayNumber ≤ e.dayNumber
  | .last, d => ∀ e, d.SameMonth e → e.dayNumber ≤ d.dayNumber
  | .day n, d => d.day = n
  | .nth k w, d =>
    d.weekday = w ∧ {e | d.SameMonth e ∧ e.dayNumber ≤ d.dayNumber ∧ e.weekday = w}.ncard = k

theorem denotes_first : first.Denotes d ↔ d.day = 1 := by
  have hpos := d.one_le_day
  have hlt := d.lt_nextMonth
  simp only [Denotes, Date.sameMonth_iff]
  constructor
  · intro h
    have hfirst := h ⟨d.dayNumber - d.day + 1⟩ ⟨by dsimp only; omega, by dsimp only; omega⟩
    dsimp only at hfirst
    omega
  · rintro hday e ⟨hfrom, -⟩
    omega

theorem denotes_last (hd : d.inCalendar) : last.Denotes d ↔ d.isLastOfMonth := by
  have hpos := d.one_le_day
  have hlt := d.lt_nextMonth
  simp only [Denotes, Date.sameMonth_iff, Date.isLastOfMonth_iff hd]
  constructor
  · intro h
    have hlast := h ⟨d.nextMonth.dayNumber - 1⟩ ⟨by dsimp only; omega, by dsimp only; omega⟩
    dsimp only at hlast
    omega
  · rintro hnext e ⟨-, hto⟩
    omega

theorem denotes_nth {k : Nat} {w : Weekday} :
    (nth k w).Denotes d ↔ w = d.weekday ∧ k = (d.day - 1) / 7 + 1 := by
  constructor
  · rintro ⟨rfl, rfl⟩
    exact ⟨rfl, d.ncard_weekday⟩
  · rintro ⟨rfl, rfl⟩
    exact ⟨rfl, d.ncard_weekday⟩

/-! ### Ways to write an entry -/

/-- The ways to write an entry, in capitals. -/
inductive IsWritten : MonthDayEntry → List Char → Prop
  | first : IsWritten .first "FIRST".toList
  | last : IsWritten .last "LAST".toList
  /-- A number may have a plus sign and zeros in front. -/
  | day {n : Nat} {sign : List Char} (hn : 1 ≤ n ∧ n ≤ 31) (hsign : sign ∈ [[], ['+']]) (zeros : Nat) :
    IsWritten (.day n) (sign ++ List.replicate zeros '0' ++ Nat.toDigits 10 n)
  | nth {k : Nat} {w : Weekday} (hk : 1 ≤ k ∧ k ≤ 5) : IsWritten (.nth k w) (Nat.digitChar k :: w.code.toList)

theorem find?_code_eq_some_iff {w : Weekday} :
    Weekday.all.find? (·.code.toList = cs) = some w ↔ cs = w.code.toList := by
  constructor
  · intro h
    have hcode := List.find?_some h
    rw [decide_eq_true_eq] at hcode
    exact hcode.symm
  · rintro rfl
    cases w <;> decide

theorem nth?_eq_some_iff :
    nth? cs = some e ↔ ∃ k w, e = .nth k w ∧ (1 ≤ k ∧ k ≤ 5) ∧ cs = Nat.digitChar k :: w.code.toList := by
  constructor
  · intro h
    unfold nth? at h
    split at h
    · split at h
      · next k w hk hw =>
        split at h
        · next hrange =>
          cases h
          rw [find?_code_eq_some_iff] at hw
          exact ⟨k, w, rfl, hrange, by rw [(digit?_eq_some_iff.1 hk).2, hw]⟩
        · cases h
      · cases h
    · cases h
  · rintro ⟨k, w, rfl, hk, rfl⟩
    have hdigit : digit? (Nat.digitChar k) = some k := digit?_eq_some_iff.2 ⟨by omega, rfl⟩
    simp only [nth?, hdigit, find?_code_eq_some_iff.2 rfl, if_pos hk]

/-- A day number is written without letters. -/
theorem any_isUpper_day {n : Nat} (h : IsWritten (.day n) cs) : cs.any (·.isUpper) = false := by
  cases h with
  | day _ hsign zeros =>
    have hplus : ∀ sign ∈ [[], ['+']], sign.any (·.isUpper) = false := by decide
    have hdigits : ∀ c ∈ Nat.toDigits 10 n, ¬c.isUpper := fun c hc => by
      have hdigit := Nat.isDigit_of_mem_toDigits (by decide) (by decide) hc
      simp [Char.isDigit, Char.isUpper, UInt32.le_iff_toNat_le] at *
      omega
    rw [List.any_append, List.any_append, hplus _ hsign, List.any_replicate, List.any_eq_false.2 hdigits]
    split <;> decide

theorem IsWritten.day_iff {n : Nat} :
    IsWritten (.day n) cs ↔ (natUpTo? 31 cs).filter (1 ≤ ·) = some n := by
  rw [Option.filter_eq_some_iff, decide_eq_true_eq, natUpTo?_eq_some_iff]
  constructor
  · intro h
    cases h with
    | day hn hsign zeros => exact ⟨⟨hn.2, _, hsign, zeros, rfl⟩, hn.1⟩
  · rintro ⟨⟨hle, sign, hsign, zeros, rfl⟩, hpos⟩
    exact .day ⟨hpos, hle⟩ hsign zeros

theorem ofChars?_eq_some_iff : ofChars? cs = some e ↔ e.IsWritten cs := by
  constructor
  · intro h
    rw [ofChars?] at h
    split at h
    · next hcs =>
      cases h
      exact hcs ▸ .first
    · split at h
      · next hcs =>
        cases h
        exact hcs ▸ .last
      · rcases Option.or_eq_some_iff.1 h with hnth | ⟨-, hday⟩
        · obtain ⟨k, w, rfl, hk, rfl⟩ := nth?_eq_some_iff.1 hnth
          exact .nth hk
        · obtain ⟨n, hn, rfl⟩ := Option.map_eq_some_iff.1 hday
          exact IsWritten.day_iff.2 hn
  · intro h
    cases e with
    | first =>
      cases h
      decide
    | last =>
      cases h
      decide
    | day n =>
      have hletters := any_isUpper_day h
      have hfirst : cs ≠ ['F', 'I', 'R', 'S', 'T'] := by
        rintro rfl
        exact absurd hletters (by decide)
      have hlast : cs ≠ ['L', 'A', 'S', 'T'] := by
        rintro rfl
        exact absurd hletters (by decide)
      have hnth : nth? cs = none := by
        rw [Option.eq_none_iff_forall_ne_some]
        intro e he
        obtain ⟨k, w, -, -, rfl⟩ := nth?_eq_some_iff.1 he
        have hcode : w.code.toList.any (·.isUpper) := by cases w <;> decide
        rw [List.any_cons, hcode, Bool.or_true] at hletters
        cases hletters
      rw [ofChars?, if_neg hfirst, if_neg hlast, hnth, Option.none_or, IsWritten.day_iff.1 h]
      rfl
    | nth k w =>
      cases h with
      | nth hk =>
        have hchars : (MonthDayEntry.nth k w).toText.toList = Nat.digitChar k :: w.code.toList := by
          simp [toText, Nat.toDigits_of_lt_base (show k < 10 by omega)]
        rw [← hchars]
        exact ofChars?_toText (mem_all_nth.2 hk)

instance : Decidable (∃ e : MonthDayEntry, e.IsWritten cs) :=
  decidable_of_iff (ofChars? cs).isSome (by simp only [Option.isSome_iff_exists, ofChars?_eq_some_iff])

end MonthDayEntry

namespace MonthDays

variable {f : MonthDays} {d : Date} {text : String}

theorem admits_iff (hd : d.inCalendar) :
    f.admits d ↔ f = any ∨ ∃ e ∈ MonthDayEntry.all, f.Has e ∧ e.Denotes d := by
  have hpos := d.one_le_day
  have hle := d.day_le
  have hbits : f.admits d ↔ f = any ∨ f.Has (.day d.day) ∨ f.Has .first ∧ d.day = 1 ∨
      f.Has .last ∧ d.isLastOfMonth ∨ f.Has (.nth ((d.day - 1) / 7 + 1) d.weekday) := by
    simp only [admits, Bool.or_eq_true, Bool.and_eq_true, beq_iff_eq, isUnrestricted_iff, Has,
      Date.nthWeekdayBit, Nat.add_sub_cancel, or_assoc]
  rw [hbits]
  refine or_congr_right ⟨?_, ?_⟩
  · rintro (hday | ⟨hfirst, hd1⟩ | ⟨hlast, hend⟩ | hnth)
    · exact ⟨.day d.day, MonthDayEntry.mem_all_day.2 ⟨hpos, hle⟩, hday, rfl⟩
    · exact ⟨.first, by decide, hfirst, MonthDayEntry.denotes_first.2 hd1⟩
    · exact ⟨.last, by decide, hlast, (MonthDayEntry.denotes_last hd).2 hend⟩
    · exact ⟨_, MonthDayEntry.mem_all_nth.2 (by omega), hnth, MonthDayEntry.denotes_nth.2 ⟨rfl, rfl⟩⟩
  · rintro ⟨e, -, hhas, hdenotes⟩
    cases e with
    | first => exact .inr (.inl ⟨hhas, MonthDayEntry.denotes_first.1 hdenotes⟩)
    | last => exact .inr (.inr (.inl ⟨hhas, (MonthDayEntry.denotes_last hd).1 hdenotes⟩))
    | day n =>
      cases (hdenotes : d.day = n)
      exact .inl hhas
    | nth k w =>
      obtain ⟨rfl, rfl⟩ := MonthDayEntry.denotes_nth.1 hdenotes
      exact .inr (.inr (.inr hhas))

/-! ### Texts -/

/-- Whether a text sets no condition: it is a star or has nothing but commas, blanks aside. -/
def IsUnconditional (text : String) : Prop := withoutBlanks text = ['*'] ∨ ∀ c ∈ withoutBlanks text, c = ','

theorem entriesOf_eq_nil_iff : entriesOf text = [] ↔ ∀ c ∈ withoutBlanks text, c = ',' := by
  rw [← splitAll_eq_nils_iff, entriesOf, entries, splitAll_upperChars]
  simp [List.filter_eq_nil_iff, upperChars_eq_nil_iff]

theorem upperChars_eq_star_iff : upperChars (withoutBlanks text) = ['*'] ↔ withoutBlanks text = ['*'] :=
  upperChars_eq_singleton_iff (by decide)

theorem ofText_of_star (hstar : withoutBlanks text = ['*']) : ofText text = .ok any := by
  simp only [ofText, if_pos (upperChars_eq_star_iff.2 hstar)]

/-- The conditions of an accepted text are those that its entries write. -/
theorem exists_has_iff (h : ofText text = .ok f) (hstar : withoutBlanks text ≠ ['*'])
    (p : MonthDayEntry → Prop) : (∃ e ∈ MonthDayEntry.all, f.Has e ∧ p e) ↔
      ∃ cs ∈ entriesOf text, ∃ e : MonthDayEntry, e.IsWritten cs ∧ p e := by
  obtain ⟨-, rfl⟩ := (ofText_eq_ok_iff hstar).1 h
  simp only [← MonthDayEntry.ofChars?_eq_some_iff]
  constructor
  · rintro ⟨e, he, hhas, hp⟩
    rw [has_foldl_insert mem_all_of_mem_filterMap he, or_iff_left (not_has_any e), List.mem_filterMap] at hhas
    obtain ⟨cs, hcs, hread⟩ := hhas
    exact ⟨cs, hcs, e, hread, hp⟩
  · rintro ⟨cs, hcs, e, hread, hp⟩
    have he := MonthDayEntry.mem_all_of_ofChars? hread
    refine ⟨e, he, ?_, hp⟩
    rw [has_foldl_insert mem_all_of_mem_filterMap he]
    exact .inl (List.mem_filterMap.2 ⟨cs, hcs, hread⟩)

theorem eq_any_iff (h : ofText text = .ok f) (hstar : withoutBlanks text ≠ ['*']) :
    f = any ↔ entriesOf text = [] := by
  obtain ⟨hread, hf⟩ := (ofText_eq_ok_iff hstar).1 h
  constructor
  · rintro rfl
    rw [List.eq_nil_iff_forall_not_mem]
    intro cs hcs
    obtain ⟨e, he⟩ := Option.isSome_iff_exists.1 (hread cs hcs)
    obtain ⟨e', -, hhas, -⟩ := (exists_has_iff h hstar fun _ => True).2
      ⟨cs, hcs, e, MonthDayEntry.ofChars?_eq_some_iff.1 he, trivial⟩
    exact not_has_any e' hhas
  · intro hnil
    rw [hf, hnil]
    rfl

theorem admits_of_ofText (h : ofText text = .ok f) (hd : d.inCalendar) : f.admits d ↔
    IsUnconditional text ∨ ∃ cs ∈ entriesOf text, ∃ e : MonthDayEntry, e.IsWritten cs ∧ e.Denotes d := by
  rw [admits_iff hd, IsUnconditional]
  by_cases hstar : withoutBlanks text = ['*']
  · rw [ofText_of_star hstar] at h
    cases h
    exact iff_of_true (.inl rfl) (.inl (.inl hstar))
  · rw [exists_has_iff h hstar, eq_any_iff h hstar, entriesOf_eq_nil_iff, or_iff_right hstar]

/-- The entries of a text that are written in none of the ways, in order. -/
def unknownEntries (text : String) : List (List Char) :=
  (entriesOf text).filter fun cs => ¬∃ e : MonthDayEntry, e.IsWritten cs

theorem ofText_eq_error_iff {unknown : List String} : ofText text = .error unknown ↔
    withoutBlanks text ≠ ['*'] ∧ unknownEntries text ≠ [] ∧
      unknown = (unknownEntries text).map String.ofList := by
  have hunknown : (entriesOf text).filter (fun e => (MonthDayEntry.ofChars? e).isNone) =
      unknownEntries text := by
    refine List.filter_congr fun cs _ => Bool.eq_iff_iff.2 ?_
    simp [Option.eq_none_iff_forall_ne_some, MonthDayEntry.ofChars?_eq_some_iff]
  rw [← hunknown, entriesOf]
  by_cases hstar : withoutBlanks text = ['*']
  · rw [ofText_of_star hstar]
    simp only [reduceCtorEq, false_iff]
    exact fun h => h.1 hstar
  · simp only [ofText, if_neg (mt upperChars_eq_star_iff.1 hstar)]
    split
    · next h =>
      simp only [reduceCtorEq, false_iff]
      exact fun hne => hne.2.1 h
    · next h =>
      rw [Except.error.injEq, and_iff_right hstar, and_iff_right h]
      exact eq_comm

/-- A text is accepted unless it has unknown entries, which the error names in order. The filter of an accepted
text lets the dates pass that one of its entries denotes, and every date if the text sets no condition. -/
theorem ofText_meaning (text : String) :
    (∀ f d, ofText text = .ok f → d.inCalendar →
      (f.admits d ↔ IsUnconditional text ∨
        ∃ cs ∈ entriesOf text, ∃ e : MonthDayEntry, e.IsWritten cs ∧ e.Denotes d)) ∧
    ∀ message, (ofText text).mapError monthDaysMessage = .error message ↔
      upperChars (withoutBlanks text) ≠ ['*'] ∧
        (∃ cs ∈ entriesOf text, ¬∃ e : MonthDayEntry, e.IsWritten cs) ∧
        message = joinWith "," ((unknownEntries text).map fun cs => String.ofList cs ++ " : unknown day") := by
  refine ⟨fun f d h hd => admits_of_ofText h hd, fun message => ?_⟩
  have hexists : (∃ cs ∈ entriesOf text, ¬∃ e : MonthDayEntry, e.IsWritten cs) ↔ unknownEntries text ≠ [] := by
    simp [unknownEntries, List.filter_eq_nil_iff]
  have herror : (ofText text).mapError monthDaysMessage = .error message ↔
      ∃ unknown, ofText text = .error unknown ∧ message = monthDaysMessage unknown := by
    cases ofText text <;> simp [Except.mapError, eq_comm]
  rw [herror, hexists, Ne, upperChars_eq_star_iff]
  simp only [ofText_eq_error_iff, monthDaysMessage]
  constructor
  · rintro ⟨unknown, ⟨hstar, hne, rfl⟩, rfl⟩
    exact ⟨hstar, hne, by rw [List.map_map]; rfl⟩
  · rintro ⟨hstar, hne, rfl⟩
    exact ⟨_, ⟨hstar, hne, rfl⟩, by rw [List.map_map]; rfl⟩

theorem ofText_meaning_at_third_tuesday :
    (∃ f d, ofText " +05, last,3tue" = .ok f ∧ d = Date.ofYearMonthDay 2024 1 16 ∧ d.inCalendar ∧ f.admits d) ∧
      (ofText "32,first ,6mon").mapError monthDaysMessage = .error "32 : unknown day,6MON : unknown day" := by
  constructor
  · have hok : (ofText " +05, last,3tue").isOk := by decide +kernel
    cases hf : ofText " +05, last,3tue" with
    | error unknown =>
      rw [hf] at hok
      cases hok
    | ok f =>
      have hd : (Date.ofYearMonthDay 2024 1 16).inCalendar := by decide
      have hadmits := (ofText_meaning _).1 f _ hf hd
      have hwritten : (MonthDayEntry.nth 3 .tue).IsWritten "3TUE".toList := .nth (by decide)
      refine ⟨f, _, rfl, rfl, hd, hadmits.2 (.inr ⟨"3TUE".toList, by decide +kernel, _, hwritten, ?_⟩)⟩
      exact MonthDayEntry.denotes_nth.2 (by decide)
  · exact ((ofText_meaning _).2 _).2 (by decide +kernel)

end MonthDays

end FlowScheduler
