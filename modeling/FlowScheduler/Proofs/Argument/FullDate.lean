import Mathlib
import FlowScheduler.Proofs.Argument.DateTags
import FlowScheduler.Proofs.Argument.IdentityKey
import FlowScheduler.Proofs.Argument.Tokens
import FlowScheduler.Proofs.Calendar
import FlowScheduler.Proofs.Dispatch.Preparation
import FlowScheduler.Proofs.Text.Number
import FlowScheduler.Worker.Service

/-!
Runs of different seconds.

In years of four digits every date token has a width of its own, so the pieces of an argument take the same places
at every time (`length_expand`), and so do the arguments in the key of a run. Two keys of one flow are then equal
only if every piece of every argument is, and a tag with the full date and time of day tells its second
(`identity_prepare_ne`).
-/

namespace FlowScheduler

/-! ### Widths of numbers -/

namespace Text

variable {width n m : Nat}

theorem length_padded (hwidth : 0 < width) (hn : n < 10 ^ width) : (padded width n).toList.length = width := by
  have hdigits : (Nat.toDigits 10 n).length ≤ width := (Nat.length_toDigits_le_iff (by decide) hwidth).2 hn
  rw [padded, String.toList_ofList, List.length_append, List.length_replicate]
  omega

theorem padded_inj (h : (padded width n).toList = (padded width m).toList) : n = m := by
  have hread := number?_padded (n := n) width
  rw [h, number?_padded, Option.some.injEq] at hread
  exact hread.symm

end Text

/-- Texts put together from parts of equal lengths are equal only if all parts are. -/
theorem flatMap_inj_of_length {α β : Type} {xs : List α} {f g : α → List β}
    (hlength : ∀ x ∈ xs, (f x).length = (g x).length) (h : xs.flatMap f = xs.flatMap g) :
    ∀ x ∈ xs, f x = g x := by
  induction xs with
  | nil => nofun
  | cons x xs ih =>
    rw [List.flatMap_cons, List.flatMap_cons] at h
    rw [List.forall_mem_cons] at hlength ⊢
    obtain ⟨hhead, htail⟩ := List.append_inj h hlength.1
    exact ⟨hhead, ih hlength.2 htail⟩

namespace LocalTime

variable {l l' : LocalTime}

/-- Whether the year is written with four digits. -/
def HasPlainYear (l : LocalTime) : Prop := 0 ≤ l.date.year ∧ l.date.year ≤ 9999

/-- Whether two readings agree in their date, hour, minute and second; a leap second counts as the second before. -/
structure SameSecond (l l' : LocalTime) : Prop where
  date : l.date = l'.date
  hour : l.time.hour = l'.time.hour
  minute : l.time.minute = l'.time.minute
  second : l.time.secondOfMinute = l'.time.secondOfMinute

end LocalTime

namespace DateTag

variable {reference reference' : OffsetTime} {l l' : LocalTime}

/-- The format of the full date and time of day. -/
def fullFormat : List Char := ['Y', 'Y', 'Y', 'Y', 'M', 'M', 'D', 'D', 'H', 'H', 'N', 'N', 'S', 'S']

theorem format_fullFormat (l : LocalTime) : format l fullFormat =
    (Text.paddedInt 4 l.date.year).toList ++ ((Text.padded 2 l.date.month).toList ++
      ((Text.padded 2 l.date.day).toList ++ ((Text.padded 2 l.time.hour).toList ++
        ((Text.padded 2 l.time.minute).toList ++ (Text.padded 2 l.time.secondOfMinute).toList)))) := by
  have hyear rest : token? (tokens l) ('Y' :: 'Y' :: 'Y' :: 'Y' :: rest) =
      some ((Text.paddedInt 4 l.date.year).toList, rest) := by simp [token?, tokens, Text.strip?]
  have hmonth rest : token? (tokens l) ('M' :: 'M' :: rest) =
      some ((Text.padded 2 l.date.month).toList, rest) := by simp [token?, tokens, Text.strip?]
  have hday rest : token? (tokens l) ('D' :: 'D' :: rest) =
      some ((Text.padded 2 l.date.day).toList, rest) := by simp [token?, tokens, Text.strip?]
  have hhour rest : token? (tokens l) ('H' :: 'H' :: rest) =
      some ((Text.padded 2 l.time.hour).toList, rest) := by simp [token?, tokens, Text.strip?]
  have hminute rest : token? (tokens l) ('N' :: 'N' :: rest) =
      some ((Text.padded 2 l.time.minute).toList, rest) := by simp [token?, tokens, Text.strip?]
  have hsecond rest : token? (tokens l) ('S' :: 'S' :: rest) =
      some ((Text.padded 2 l.time.secondOfMinute).toList, rest) := by simp [token?, tokens, Text.strip?]
  rw [format, fullFormat, fill_of_token? (hyear _), fill_of_token? (hmonth _), fill_of_token? (hday _),
    fill_of_token? (hhour _), fill_of_token? (hminute _), fill_of_token? (hsecond _), fill_nil, List.append_nil]

/-! ### Widths of tokens -/

theorem length_paddedYear (hl : l.HasPlainYear) : (Text.paddedInt 4 l.date.year).toList.length = 4 := by
  obtain ⟨hlow, hhigh⟩ := hl
  rw [Text.paddedInt, if_neg (by omega)]
  exact Text.length_padded (by decide) (by omega)

theorem paddedYear_inj (hl : l.HasPlainYear) (hl' : l'.HasPlainYear)
    (h : (Text.paddedInt 4 l.date.year).toList = (Text.paddedInt 4 l'.date.year).toList) :
    l.date.year = l'.date.year := by
  obtain ⟨hlow, -⟩ := hl
  obtain ⟨hlow', -⟩ := hl'
  rw [Text.paddedInt, Text.paddedInt, if_neg (by omega), if_neg (by omega)] at h
  have := Text.padded_inj h
  omega

theorem fields_lt (l : LocalTime) : l.date.month < 100 ∧ l.date.day < 100 ∧ l.time.hour < 100 ∧
    l.time.minute < 100 ∧ l.time.secondOfMinute < 100 := by
  have hmonth := l.date.month_le
  have hday := l.date.day_le
  have htime := l.time.second_lt
  simp only [TimeOfDay.hour, TimeOfDay.minute, TimeOfDay.secondOfMinute]
  omega

theorem length_two {n m : Nat} (hn : n < 100) (hm : m < 100) :
    (Text.padded 2 n).toList.length = (Text.padded 2 m).toList.length := by
  rw [Text.length_padded (by decide) hn, Text.length_padded (by decide) hm]

theorem sameWidths_tokens (hl : l.HasPlainYear) (hl' : l'.HasPlainYear) :
    SameWidths (tokens l) (tokens l') := by
  obtain ⟨hmonth, hday, hhour, hminute, hsecond⟩ := fields_lt l
  obtain ⟨hmonth', hday', hhour', hminute', hsecond'⟩ := fields_lt l'
  have hyear : (Text.paddedInt 4 l.date.year).toList.length = (Text.paddedInt 4 l'.date.year).toList.length := by
    rw [length_paddedYear hl, length_paddedYear hl']
  have hcentury : (Text.padded 2 (l.date.year % 100).toNat).toList.length =
      (Text.padded 2 (l'.date.year % 100).toNat).toList.length := length_two (by omega) (by omega)
  simp only [SameWidths, tokens, List.forall₂_cons, true_and]
  exact ⟨hyear, hcentury, length_two hmonth hmonth', length_two hday hday', length_two hhour hhour',
    length_two hminute hminute', length_two hsecond hsecond', .nil⟩

/-- The full date and time of day tells the second. -/
theorem sameSecond_of_format_eq (hl : l.HasPlainYear) (hl' : l'.HasPlainYear)
    (h : format l fullFormat = format l' fullFormat) : l.SameSecond l' := by
  obtain ⟨hmonth, hday, hhour, hminute, hsecond⟩ := fields_lt l
  obtain ⟨hmonth', hday', hhour', hminute', hsecond'⟩ := fields_lt l'
  rw [format_fullFormat, format_fullFormat] at h
  obtain ⟨hyears, h⟩ := List.append_inj h (by rw [length_paddedYear hl, length_paddedYear hl'])
  obtain ⟨hmonths, h⟩ := List.append_inj h (length_two hmonth hmonth')
  obtain ⟨hdays, h⟩ := List.append_inj h (length_two hday hday')
  obtain ⟨hhours, h⟩ := List.append_inj h (length_two hhour hhour')
  obtain ⟨hminutes, hseconds⟩ := List.append_inj h (length_two hminute hminute')
  exact {
    date := Date.ext_parts (paddedYear_inj hl hl' hyears) (Text.padded_inj hmonths) (Text.padded_inj hdays)
    hour := Text.padded_inj hhours
    minute := Text.padded_inj hminutes
    second := Text.padded_inj hseconds }

/-! ### Widths of pieces -/

theorem expand_eq_format {p : Piece} {f : List Char} (h : p.format? = some f) :
    p.expand reference = format reference.shown f := by
  simp only [Piece.expand, h, formatDate, String.toList_ofList]

theorem length_expand (hl : reference.shown.HasPlainYear) (hl' : reference'.shown.HasPlainYear) (p : Piece) :
    (p.expand reference).length = (p.expand reference').length := by
  cases hformat : p.format? with
  | none => rw [Piece.expand_of_format? hformat, Piece.expand_of_format? hformat]
  | some f =>
    rw [expand_eq_format hformat, expand_eq_format hformat]
    exact (sameWidths_tokens hl hl').length_fill f

theorem length_substituteDateTags (hl : reference.shown.HasPlainYear) (hl' : reference'.shown.HasPlainYear)
    (text : String) :
    (substituteDateTags reference text).toList.length = (substituteDateTags reference' text).toList.length := by
  obtain ⟨ps, hps⟩ := exists_splits text.toList
  rw [toList_substituteDateTags, toList_substituteDateTags, hps.substitute_eq, hps.substitute_eq,
    List.length_flatMap, List.length_flatMap]
  simp only [length_expand hl hl']

/-- Whether a text has a tag for the full date and time of day. -/
def HasFullDate (text : String) : Prop :=
  ∃ ps content, Splits text.toList ps ∧ .tag content ∈ ps ∧ Piece.label content = ['D', 'T', '_'] ++ fullFormat

theorem HasFullDate.sameSecond {text : String} (htext : HasFullDate text) (hl : reference.shown.HasPlainYear)
    (hl' : reference'.shown.HasPlainYear)
    (h : substituteDateTags reference text = substituteDateTags reference' text) :
    reference.shown.SameSecond reference'.shown := by
  obtain ⟨ps, content, hps, hmem, hlabel⟩ := htext
  rw [← String.toList_inj, toList_substituteDateTags, toList_substituteDateTags, hps.substitute_eq,
    hps.substitute_eq] at h
  have hpiece := flatMap_inj_of_length (fun p _ => length_expand hl hl' p) h _ hmem
  have hformat : (Piece.tag content).format? = some fullFormat := by
    rw [Piece.format?, hlabel]
    rfl
  rw [expand_eq_format hformat, expand_eq_format hformat] at hpiece
  exact sameSecond_of_format_eq hl hl' hpiece

end DateTag

/-! ### Keys -/

open DateTag

variable {reference reference' : OffsetTime} {args : NamedArgs}

/-- Arguments with their date tags replaced give equal keys only if all their values are equal. -/
theorem value_eq_of_identityKey_eq {i j : Int} (hl : reference.shown.HasPlainYear)
    (hl' : reference'.shown.HasPlainYear)
    (h : identityKey i (args.mapValues (substituteDateTags reference)) =
      identityKey j (args.mapValues (substituteDateTags reference'))) :
    ∀ e ∈ args.entries, substituteDateTags reference e.2 = substituteDateTags reference' e.2 := by
  have hparts := (identityKey_eq_iff_argsPart.1 h).2
  rw [NamedArgs.mapValues, NamedArgs.mapValues, IdentityKey.argsPart, IdentityKey.argsPart, List.flatMap_map,
    List.flatMap_map] at hparts
  intro e he
  have hentry := flatMap_inj_of_length (fun e _ => by
    simp [length_substituteDateTags hl hl' e.2]) hparts e he
  rw [← String.toList_inj]
  simpa using hentry

theorem Cache.Prepares.identity_eq_key {c : Cache} {flow : TaskFlow} {trigger : Trigger} {run : PreparedRun}
    (h : c.Prepares flow trigger run) :
    run.identity = identityKey flow.id (flow.namedArgs.mapValues (substituteDateTags trigger.reference)) := by
  cases h with
  | ready | refused => rfl

/-- The runs of a flow that has the full date and time of day in an argument have different keys if the clock shows
different seconds when they are launched. So no run is dropped because of one of another second. -/
theorem identity_prepare_ne (c c' : Cache) {flow : TaskFlow} {trigger trigger' : Trigger}
    (hflow : ∃ e ∈ flow.namedArgs.entries, HasFullDate e.2) (hl : trigger.reference.shown.HasPlainYear)
    (hl' : trigger'.reference.shown.HasPlainYear)
    (hne : ¬trigger.reference.shown.SameSecond trigger'.reference.shown) :
    (c.prepare flow trigger).identity ≠ (c'.prepare flow trigger').identity ∧
      ∀ w : Worker, (∀ o ∈ w.runs, o.state.isTerminal = false → o.identity = (c.prepare flow trigger).identity) →
        w.isActive (c'.prepare flow trigger').identity = false := by
  have hkeys : (c.prepare flow trigger).identity ≠ (c'.prepare flow trigger').identity := by
    rw [(c.prepares_prepare flow trigger).identity_eq_key, (c'.prepares_prepare flow trigger').identity_eq_key]
    intro hsame
    obtain ⟨e, he, htag⟩ := hflow
    exact hne (htag.sameSecond hl hl' (value_eq_of_identityKey_eq hl hl' hsame e he))
  refine ⟨hkeys, fun w hothers => ?_⟩
  rw [Worker.isActive, List.any_eq_false]
  intro o ho hduplicate
  obtain ⟨hidentity, hactive⟩ : o.identity = _ ∧ o.state.isTerminal = false := by simpa using hduplicate
  exact hkeys ((hothers o ho hactive).symm.trans hidentity)

private def dumpFlow : TaskFlow where
  id := 7
  name := "dump"
  namedArgs := .ofList [("day", "<%DT_YYYY%>-<%DT_MM"), ("file", "db_<% dt_yyyymmddhhnnss %>.sql")]

private def atSecond (n : Int) : Trigger := .scheduled 3 ⟨.ofSecond n, 3600⟩

private theorem dumpFlow_hasFullDate : HasFullDate "db_<% dt_yyyymmddhhnnss %>.sql" := by
  have hend : Splits ['.', 's', 'q', 'l'] [.plain ['.', 's', 'q', 'l']] := .plain (by decide)
  have hsplits : Splits _ (.plain ['d', 'b', '_'] :: .tag " dt_yyyymmddhhnnss ".toList :: _) :=
    .tag (by decide) (by decide) hend
  exact ⟨_, _, hsplits, List.mem_cons_of_mem _ List.mem_cons_self, by decide +kernel⟩

theorem identity_prepare_ne_one_second_later :
    (∃ e ∈ dumpFlow.namedArgs.entries, HasFullDate e.2) ∧ (atSecond 1709813399).reference.shown.HasPlainYear ∧
      (atSecond 1709813400).reference.shown.HasPlainYear ∧
      ¬(atSecond 1709813399).reference.shown.SameSecond (atSecond 1709813400).reference.shown ∧
      (({} : Cache).prepare dumpFlow (atSecond 1709813399)).identity ≠
        (({} : Cache).prepare dumpFlow (atSecond 1709813400)).identity := by
  have hflow : ∃ e ∈ dumpFlow.namedArgs.entries, HasFullDate e.2 :=
    ⟨_, List.mem_cons_of_mem _ List.mem_cons_self, dumpFlow_hasFullDate⟩
  have hyear : (atSecond 1709813399).reference.shown.HasPlainYear := ⟨by decide, by decide⟩
  have hyear' : (atSecond 1709813400).reference.shown.HasPlainYear := ⟨by decide, by decide⟩
  have hne : ¬(atSecond 1709813399).reference.shown.SameSecond (atSecond 1709813400).reference.shown :=
    fun hsame => absurd hsame.second (by decide)
  exact ⟨hflow, hyear, hyear', hne, (identity_prepare_ne {} {} hflow hyear hyear' hne).1⟩

end FlowScheduler
