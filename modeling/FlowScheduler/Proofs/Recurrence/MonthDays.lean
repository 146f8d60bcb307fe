import Mathlib
import FlowScheduler.Proofs.Recurrence.Spelling
import FlowScheduler.Recurrence.MonthDays

/-!
The texts of filters on the day of the month.

A filter is a set of entries: it is determined by the entries that it has (`MonthDays.ext_has`), and what
a text denotes has the entries that stand in it (`MonthDays.has_foldl_insert`). So a respelled text
denotes the same filter (`MonthDays.ofText_respells`), and so does the printed one
(`MonthDays.ofText_toText`).
-/

namespace FlowScheduler

open Text

/-! ### Sets of numbers -/

namespace Mask

variable {width n k : Nat} {m m' : Mask width}

theorem ext_contains (h : ∀ n < width, m.contains n = m'.contains n) : m = m' := by
  refine ext_bits (List.ext_getElem (m.length_bits.trans m'.length_bits.symm) fun n hn hn' => ?_)
  have hsame := h n (by rwa [m.length_bits] at hn)
  rwa [contains, contains, List.getElem?_eq_getElem hn, List.getElem?_eq_getElem hn'] at hsame

@[simp] theorem contains_empty : (empty width).contains n = false := by
  simp only [contains, empty, List.getElem?_replicate]
  split <;> rfl

theorem contains_insert (hk : k < width) : (m.insert k).contains n = (k = n || m.contains n) := by
  simp only [contains, insert, List.getElem?_set, m.length_bits, hk, if_true]
  split
  · next h => simp [h]
  · next h => simp [h]

theorem isEmpty_iff : m.isEmpty ↔ m = empty width := by
  constructor
  · intro h
    exact ext_bits (List.eq_replicate_iff.2 ⟨m.length_bits, by simpa [isEmpty] using h⟩)
  · rintro rfl
    simp [isEmpty, empty]

theorem mem_members : n ∈ m.members ↔ n < width ∧ m.contains n := by
  rw [members, List.mem_filter, List.mem_range]

end Mask

theorem Weekday.index_ofIndex {n : Nat} (hn : n < 7) : (Weekday.ofIndex n).index = n := by
  have hall : ∀ n < 7, (Weekday.ofIndex n).index = n := by decide
  exact hall n hn

theorem Weekday.index_inj {w w' : Weekday} : w.index = w'.index ↔ w = w' :=
  ⟨fun h => by rw [← ofIndex_index w, h, ofIndex_index], congrArg index⟩

/-! ### Entries -/

namespace MonthDayEntry

variable {e e' : MonthDayEntry}

/-- The entries that a text can denote. -/
def all : List MonthDayEntry :=
  [.first, .last] ++ ([1, 2, 3, 4, 5].flatMap fun k => Weekday.all.map (.nth k)) ++
    (List.range' 1 31).map .day

theorem mem_all_day {n : Nat} : .day n ∈ all ↔ 1 ≤ n ∧ n ≤ 31 := by
  simp [all]
  omega

theorem mem_all_nth {k : Nat} {w : Weekday} : .nth k w ∈ all ↔ 1 ≤ k ∧ k ≤ 5 := by
  have hw : w ∈ Weekday.all := by cases w <;> decide
  simp [all, hw]
  omega

theorem mem_all_of_nth? {cs : List Char} (h : nth? cs = some e) : e ∈ all := by
  unfold nth? at h
  split at h
  · split at h
    · split at h
      · next hk =>
        cases h
        exact mem_all_nth.2 hk
      · cases h
    · cases h
  · cases h

theorem mem_all_of_ofChars? {cs : List Char} (h : ofChars? cs = some e) : e ∈ all := by
  rw [ofChars?] at h
  split at h
  · cases h
    decide
  · split at h
    · cases h
      decide
    · rcases Option.or_eq_some_iff.1 h with hnth | ⟨-, hday⟩
      · exact mem_all_of_nth? hnth
      · obtain ⟨n, hn, rfl⟩ := Option.map_eq_some_iff.1 hday
        obtain ⟨hn, hpos⟩ := Option.filter_eq_some_iff.1 hn
        have hle := (Option.filter_eq_some_iff.1 hn).2
        simp only [decide_eq_true_eq] at hpos hle
        exact mem_all_day.2 ⟨hpos, hle⟩

/-- An entry as it is printed. -/
def toText : MonthDayEntry → String
  | .first => "FIRST"
  | .last => "LAST"
  | .day n => toString n
  | .nth k w => toString k ++ w.code

/-- The printed entry as characters. -/
private def chars : MonthDayEntry → List Char
  | .first => "FIRST".toList
  | .last => "LAST".toList
  | .day n => Nat.toDigits 10 n
  | .nth k w => Nat.toDigits 10 k ++ w.code.toList

private theorem toList_toText (e : MonthDayEntry) : e.toText.toList = e.chars := by
  cases e <;> simp [toText, chars]

theorem ofChars?_toText (he : e ∈ all) : ofChars? e.toText.toList = some e := by
  have hall : ∀ e ∈ all, ofChars? e.chars = some e := by decide
  rw [toList_toText, hall e he]

theorem upperChars_toText (he : e ∈ all) : upperChars e.toText.toList = e.toText.toList := by
  have hall : ∀ e ∈ all, upperChars e.chars = e.chars := by decide +kernel
  rw [toList_toText, hall e he]

theorem isEntry_toText (he : e ∈ all) : IsEntry e.toText := by
  have hall : ∀ e ∈ all, e.chars.all fun c => c.isDigit || c.isUpper := by decide
  have hrange {c : Char} (hc : c ∈ e.toText.toList) : 48 ≤ c.toNat ∧ c.toNat ≤ 90 := by
    have := List.all_eq_true.1 (hall e he) c (toList_toText e ▸ hc)
    simp [Char.isDigit, Char.isUpper, UInt32.le_iff_toNat_le] at this
    omega
  refine ⟨fun h => ?_, fun c hc => ?_⟩
  · exact absurd (hrange h) (by decide)
  · obtain ⟨hlow, hhigh⟩ := hrange hc
    exact isBlank_of_visible (by omega) (by omega)

end MonthDayEntry

/-! ### Filters as sets of entries -/

namespace MonthDays

variable {f g : MonthDays} {e e' : MonthDayEntry} {es es' : List MonthDayEntry}
  {text text' : String}

/-- Whether an entry is set in a filter. -/
def Has (f : MonthDays) : MonthDayEntry → Prop
  | .first => f.first
  | .last => f.last
  | .day n => f.days.contains (n - 1)
  | .nth k w => f.nth.contains ((k - 1) * 7 + w.index)

/-- The ordinal and the weekday of a bit. -/
theorem bit_nth (n : Nat) : (n / 7 + 1 - 1) * 7 + (Weekday.ofIndex (n % 7)).index = n := by
  rw [Weekday.index_ofIndex (by omega)]
  omega

theorem not_has_any (e : MonthDayEntry) : ¬any.Has e := by
  cases e <;> simp [Has, any]

theorem ext_has (h : ∀ e ∈ MonthDayEntry.all, f.Has e ↔ g.Has e) : f = g := by
  have hfirst : f.first = g.first := Bool.eq_iff_iff.2 (h .first (by decide))
  have hlast : f.last = g.last := Bool.eq_iff_iff.2 (h .last (by decide))
  have hnth : f.nth = g.nth := Mask.ext_contains fun n hn => by
    have hbit := h (.nth (n / 7 + 1) (.ofIndex (n % 7)))
      (MonthDayEntry.mem_all_nth.2 (by omega))
    rw [Has, Has, bit_nth n] at hbit
    exact Bool.eq_iff_iff.2 hbit
  have hdays : f.days = g.days := Mask.ext_contains fun n hn =>
    Bool.eq_iff_iff.2 (h (.day (n + 1)) (MonthDayEntry.mem_all_day.2 (by omega)))
  cases f
  cases g
  cases hfirst
  cases hlast
  cases hnth
  cases hdays
  rfl

theorem has_insert (he : e ∈ MonthDayEntry.all) (he' : e' ∈ MonthDayEntry.all) :
    (f.insert e).Has e' ↔ e' = e ∨ f.Has e' := by
  cases e with
  | first => cases e' <;> simp [insert, Has]
  | last => cases e' <;> simp [insert, Has]
  | day n =>
    have hn := MonthDayEntry.mem_all_day.1 he
    cases e' with
    | day n' =>
      have hn' := MonthDayEntry.mem_all_day.1 he'
      rw [insert, Has, Mask.contains_insert (by omega)]
      simp only [Has, Bool.or_eq_true, decide_eq_true_eq, MonthDayEntry.day.injEq]
      exact or_congr_left (by omega)
    | _ => simp [insert, Has]
  | nth k w =>
    have hk := MonthDayEntry.mem_all_nth.1 he
    have hw := w.index_lt
    cases e' with
    | nth k' w' =>
      have hk' := MonthDayEntry.mem_all_nth.1 he'
      have hw' := w'.index_lt
      rw [insert, Has, Mask.contains_insert (by omega)]
      simp only [Has, Bool.or_eq_true, decide_eq_true_eq, MonthDayEntry.nth.injEq]
      rw [← Weekday.index_inj]
      exact or_congr_left (by omega)
    | _ => simp [insert, Has]

theorem has_foldl_insert (hes : ∀ e ∈ es, e ∈ MonthDayEntry.all) (he' : e' ∈ MonthDayEntry.all) :
    (es.foldl insert f).Has e' ↔ e' ∈ es ∨ f.Has e' := by
  induction es generalizing f with
  | nil => simp
  | cons e es ih =>
    obtain ⟨he, hes⟩ := List.forall_mem_cons.1 hes
    rw [List.foldl_cons, ih hes, has_insert he he', List.mem_cons]
    exact ⟨by tauto, by tauto⟩

theorem foldl_insert_congr (hes : ∀ e ∈ es, e ∈ MonthDayEntry.all) (h : ∀ e, e ∈ es' ↔ e ∈ es) :
    es'.foldl insert any = es.foldl insert any := by
  have hes' : ∀ e ∈ es', e ∈ MonthDayEntry.all := fun e he => hes e ((h e).1 he)
  refine ext_has fun e he => ?_
  rw [has_foldl_insert hes' he, has_foldl_insert hes he, h]

theorem isUnrestricted_iff : f.isUnrestricted ↔ f = any := by
  constructor
  · intro h
    simp only [isUnrestricted, Bool.and_eq_true, Bool.not_eq_true', Mask.isEmpty_iff] at h
    obtain ⟨⟨⟨hfirst, hlast⟩, hnth⟩, hdays⟩ := h
    cases f
    cases hfirst
    cases hlast
    cases hnth
    cases hdays
    rfl
  · rintro rfl
    decide

/-! ### Reading -/

/-- The entries of a text, in capitals. -/
def entriesOf (text : String) : List (List Char) := entries (upperChars (withoutBlanks text))

theorem ofText_eq_ok_iff (hstar : withoutBlanks text ≠ ['*']) : ofText text = .ok f ↔
    (∀ e ∈ entriesOf text, (MonthDayEntry.ofChars? e).isSome) ∧
      f = ((entriesOf text).filterMap MonthDayEntry.ofChars?).foldl insert any := by
  have hupper : upperChars (withoutBlanks text) ≠ ['*'] :=
    mt (upperChars_eq_singleton_iff (by decide)).1 hstar
  rw [← filter_isNone_eq_nil_iff]
  simp only [ofText, if_neg hupper]
  split
  · next h =>
    rw [Except.ok.injEq, eq_comm]
    exact (and_iff_right h).symm
  · next h => exact iff_of_false nofun fun hnil => h hnil.1

theorem mem_all_of_mem_filterMap {cs : List (List Char)} :
    ∀ e ∈ cs.filterMap MonthDayEntry.ofChars?, e ∈ MonthDayEntry.all := by
  intro e he
  obtain ⟨c, -, hc⟩ := List.mem_filterMap.1 he
  exact MonthDayEntry.mem_all_of_ofChars? hc

/-- A star is no entry. -/
theorem star_not_mem (h : ∀ e ∈ entriesOf text, (MonthDayEntry.ofChars? e).isSome) :
    ['*'] ∉ entriesOf text := fun hmem => absurd (h _ hmem) (by decide)

theorem star_mem_entriesOf (hstar : withoutBlanks text = ['*']) : ['*'] ∈ entriesOf text := by
  rw [entriesOf, hstar]
  decide

theorem ofText_respells (h : ofText text = .ok f) (hr : Respells text text') :
    ofText text' = .ok f := by
  rcases hr.mem_entries_iff with heq | ⟨hstar, hmem⟩
  · rw [← h, ofText, ofText, heq]
  · obtain ⟨hall, rfl⟩ := (ofText_eq_ok_iff hstar).1 h
    have hentries : ∀ e, e ∈ entriesOf text' ↔ e ∈ entriesOf text := fun e => by
      simp only [entriesOf, entries, splitAll_upperChars, List.mem_filter, List.mem_map, hmem]
    have hstar' : withoutBlanks text' ≠ ['*'] := fun heq =>
      star_not_mem hall ((hentries _).1 (star_mem_entriesOf heq))
    refine (ofText_eq_ok_iff hstar').2 ⟨fun e he => hall e ((hentries e).1 he), ?_⟩
    refine (foldl_insert_congr mem_all_of_mem_filterMap fun e => ?_).symm
    simp only [List.mem_filterMap, hentries]

/-! ### Printing -/

/-- The entries of a filter as they are printed. -/
def printed (f : MonthDays) : List String :=
  (if f.first then ["FIRST"] else []) ++ (if f.last then ["LAST"] else []) ++
    (f.nth.members.map fun b => toString (b / 7 + 1) ++ (Weekday.ofIndex (b % 7)).code).mergeSort
      (fun a b => a ≤ b) ++ f.days.members.map fun n => toString (n + 1)

theorem toText_of_restricted (h : f ≠ any) : f.toText = joinWith "," f.printed := by
  rw [toText, if_neg (mt isUnrestricted_iff.1 h)]
  rfl

theorem mem_printed {p : String} :
    p ∈ f.printed ↔ ∃ e ∈ MonthDayEntry.all, f.Has e ∧ e.toText = p := by
  simp only [printed, List.mem_append, List.mem_mergeSort, List.mem_map, Mask.mem_members,
    or_assoc]
  constructor
  · rintro (h | h | ⟨b, ⟨hb, hhas⟩, rfl⟩ | ⟨n, ⟨hn, hhas⟩, rfl⟩)
    · split at h
      · next hfirst => exact ⟨.first, by decide, hfirst, (List.mem_singleton.1 h).symm⟩
      · cases h
    · split at h
      · next hlast => exact ⟨.last, by decide, hlast, (List.mem_singleton.1 h).symm⟩
      · cases h
    · refine ⟨_, MonthDayEntry.mem_all_nth.2 (by omega), ?_, rfl⟩
      rwa [Has, bit_nth]
    · exact ⟨.day (n + 1), MonthDayEntry.mem_all_day.2 (by omega), hhas, rfl⟩
  · rintro ⟨e, he, hhas, rfl⟩
    cases e with
    | first =>
      have hfirst : f.first := hhas
      rw [if_pos hfirst]
      exact .inl (List.mem_singleton_self _)
    | last =>
      have hlast : f.last := hhas
      rw [if_pos hlast]
      exact .inr (.inl (List.mem_singleton_self _))
    | nth k w =>
      have hk := MonthDayEntry.mem_all_nth.1 he
      have hw := w.index_lt
      have hordinal : ((k - 1) * 7 + w.index) / 7 + 1 = k := by omega
      have hweekday : ((k - 1) * 7 + w.index) % 7 = w.index := by omega
      refine .inr (.inr (.inl ⟨_, ⟨by omega, hhas⟩, ?_⟩))
      rw [hordinal, hweekday, Weekday.ofIndex_index]
      rfl
    | day n =>
      have hn := MonthDayEntry.mem_all_day.1 he
      refine .inr (.inr (.inr ⟨_, ⟨by omega, hhas⟩, ?_⟩))
      rw [Nat.sub_add_cancel hn.1]
      rfl

theorem printed_ne_nil (h : f ≠ any) : f.printed ≠ [] := by
  intro hnil
  refine h (ext_has fun e he => iff_of_false (fun hhas => ?_) (not_has_any e))
  have hmem := mem_printed.2 ⟨e, he, hhas, rfl⟩
  rw [hnil] at hmem
  cases hmem

/-- A printed entry reads back as an entry of the filter. -/
theorem ofChars?_of_mem_printed {cs : List Char} (h : cs ∈ f.printed.map String.toList) :
    ∃ e ∈ MonthDayEntry.all, f.Has e ∧ MonthDayEntry.ofChars? cs = some e := by
  obtain ⟨p, hp, rfl⟩ := List.mem_map.1 h
  obtain ⟨e, he, hhas, rfl⟩ := mem_printed.1 hp
  exact ⟨e, he, hhas, MonthDayEntry.ofChars?_toText he⟩

theorem entriesOf_printed (h : f ≠ any) :
    entriesOf (joinWith "," f.printed) = f.printed.map String.toList := by
  have hentry : ∀ p ∈ f.printed, IsEntry (id p) := fun p hp => by
    obtain ⟨e, he, -, rfl⟩ := mem_printed.1 hp
    exact MonthDayEntry.isEntry_toText he
  have hupper : (f.printed.map fun p => (id p).toList).map upperChars =
      f.printed.map String.toList := by
    rw [List.map_map]
    refine List.map_congr_left fun p hp => ?_
    obtain ⟨e, he, -, rfl⟩ := mem_printed.1 hp
    exact MonthDayEntry.upperChars_toText he
  have hsplit := splitAll_withoutBlanks_joinWith (printed_ne_nil h) hentry
  rw [List.map_id] at hsplit
  rw [entriesOf, entries, splitAll_upperChars, hsplit, hupper, List.filter_eq_self]
  intro cs hcs
  obtain ⟨e, -, -, hread⟩ := ofChars?_of_mem_printed hcs
  rw [decide_eq_true_eq]
  rintro rfl
  cases hread

theorem ofText_toText (f : MonthDays) : ofText f.toText = .ok f := by
  by_cases hany : f = any
  · subst hany
    rfl
  · have hentries := entriesOf_printed hany
    have hstar : withoutBlanks (joinWith "," f.printed) ≠ ['*'] := fun heq => by
      obtain ⟨e, -, -, hread⟩ := ofChars?_of_mem_printed (hentries ▸ star_mem_entriesOf heq)
      cases hread
    rw [toText_of_restricted hany]
    refine (ofText_eq_ok_iff hstar).2 ⟨fun cs hcs => ?_, ext_has fun e he => ?_⟩
    · obtain ⟨e, -, -, hread⟩ := ofChars?_of_mem_printed (hentries ▸ hcs)
      rw [hread]
      rfl
    · rw [has_foldl_insert mem_all_of_mem_filterMap he, or_iff_left (not_has_any e),
        List.mem_filterMap, hentries]
      constructor
      · intro hhas
        exact ⟨_, List.mem_map_of_mem (mem_printed.2 ⟨e, he, hhas, rfl⟩),
          MonthDayEntry.ofChars?_toText he⟩
      · rintro ⟨cs, hcs, hread⟩
        obtain ⟨e', -, hhas, hread'⟩ := ofChars?_of_mem_printed hcs
        cases hread.symm.trans hread'
        exact hhas

end MonthDays

end FlowScheduler
