import Mathlib
import FlowScheduler.Proofs.Recurrence.Windows
import FlowScheduler.Proofs.Text.Entries
import FlowScheduler.Proofs.Text.Number
import FlowScheduler.Recurrence.Mask

/-!
The texts of times of day, windows and masks.

Each reader gives back what the printer of its field wrote (`TimeOfDay.listOfText_joinWith`,
`TimeWindow.listOfText_joinWith`, `Mask.ofText_toText`), and reads a respelled text as the text itself
(`TimeOfDay.listOfText_respells`, `TimeWindow.listOfText_respells`, `Mask.ofText_congr`).
-/

namespace FlowScheduler

open Text

/-! ### Digits -/

namespace Text

variable {n : Nat}

theorem toList_padded (hn : n < 100) :
    (padded 2 n).toList = [Nat.digitChar (n / 10), Nat.digitChar (n % 10)] := by
  have hdigits : ∀ n < 100, List.replicate (2 - (Nat.toDigits 10 n).length) '0' ++
      Nat.toDigits 10 n = [Nat.digitChar (n / 10), Nat.digitChar (n % 10)] := by decide
  rw [padded, String.toList_ofList, hdigits n hn]

theorem isDigit_digitChar : ∀ n < 10, (Nat.digitChar n).isDigit := by decide

theorem isBlank_of_isDigit {c : Char} (h : c.isDigit) : isBlank c = false := by
  have hrange : 48 ≤ c.toNat ∧ c.toNat ≤ 57 := by
    simpa [Char.isDigit, UInt32.le_iff_toNat_le] using h
  exact isBlank_of_visible (by omega) (by omega)

theorem takeDigits_padded (hn : n < 100) (rest : List Char) :
    takeDigits 2 ((padded 2 n).toList ++ rest) = ((padded 2 n).toList, rest) := by
  have hhigh := isDigit_digitChar (n / 10) (by omega)
  have hlow := isDigit_digitChar (n % 10) (by omega)
  rw [toList_padded hn]
  simp [takeDigits, hhigh, hlow]

end Text

/-! ### Times of day -/

namespace TimeOfDay

variable {t : TimeOfDay} {ts : List TimeOfDay} {text text' : String}

/-- Whether a clock shows the time with no fraction of a second. -/
def IsShown (t : TimeOfDay) : Prop := ∃ hour minute second, ofClock? hour minute second 0 = some t

theorem IsShown.ofClock?_self (h : t.IsShown) :
    ofClock? t.hour t.minute t.shownSecond 0 = some t := by
  obtain ⟨hour, minute, second, h⟩ := h
  have hclock := h
  rw [ofClock?] at h
  split at h
  · next hbounds =>
    have hhour := hbounds.1
    have hminute := hbounds.2.1
    have hsecond := hbounds.2.2.1
    suffices t.hour = hour ∧ t.minute = minute ∧ t.shownSecond = second by
      rw [this.1, this.2.1, this.2.2, hclock]
    simp only [TimeOfDay.hour, TimeOfDay.minute, shownSecond, secondOfMinute, nanosPerSecond]
    split at h <;> cases h <;> dsimp only <;> omega
  · cases h

theorem isShown_of_ofChars? {cs : List Char} (h : ofChars? cs = some t) : t.IsShown := by
  simp only [ofChars?] at h
  split at h
  · split at h
    · split at h
      · exact ⟨_, _, _, h⟩
      · cases h
    · cases h
  · cases h

theorem clockField?_padded {n : Nat} (hn : n < 100) (rest : List Char) :
    clockField? ((padded 2 n).toList ++ rest) = some (n, rest) := by
  rw [clockField?, takeDigits_padded hn]
  simp only [number?_padded, Option.map_some]

theorem hour_lt (t : TimeOfDay) : t.hour < 24 := by
  have := t.second_lt
  rw [hour]
  omega

theorem minute_lt (t : TimeOfDay) : t.minute < 60 := by
  rw [minute]
  omega

theorem shownSecond_lt (t : TimeOfDay) : t.shownSecond < 61 := by
  have := t.nanos_lt
  rw [shownSecond, secondOfMinute, nanosPerSecond]
  omega

theorem toList_toText (t : TimeOfDay) :
    t.toText.toList = (padded 2 t.hour).toList ++ ':' :: ((padded 2 t.minute).toList ++
      ':' :: (padded 2 t.shownSecond).toList) := by
  simp [toText]

/-- The characters of a time. -/
theorem mem_toText {c : Char} (h : c ∈ t.toText.toList) : c.isDigit ∨ c = ':' := by
  have hdigit {n : Nat} (hn : n < 100) (hc : c ∈ (padded 2 n).toList) : c.isDigit := by
    rw [toList_padded hn] at hc
    rcases List.mem_pair.1 hc with rfl | rfl
    · exact isDigit_digitChar (n / 10) (by omega)
    · exact isDigit_digitChar (n % 10) (by omega)
  have hhour := t.hour_lt
  have hminute := t.minute_lt
  have hsecond := t.shownSecond_lt
  rw [toList_toText] at h
  simp only [List.mem_append, List.mem_cons] at h
  rcases h with h | h | h | h | h
  · exact .inl (hdigit (by omega) h)
  · exact .inr h
  · exact .inl (hdigit (by omega) h)
  · exact .inr h
  · exact .inl (hdigit (by omega) h)

theorem ofChars?_toText (h : t.IsShown) : ofChars? t.toText.toList = some t := by
  have hhour := t.hour_lt
  have hminute := t.minute_lt
  have hsecond := t.shownSecond_lt
  have hlast := clockField?_padded (n := t.shownSecond) (by omega) []
  rw [List.append_nil] at hlast
  rw [toList_toText, ofChars?, clockField?_padded (by omega)]
  simp only
  rw [clockField?_padded (by omega)]
  simp only [hlast]
  exact h.ofClock?_self

theorem isEntry_toText (t : TimeOfDay) : IsEntry t.toText := by
  refine ⟨fun h => ?_, fun c h => ?_⟩
  · rcases mem_toText h with h | h <;> revert h <;> decide
  · rcases mem_toText h with h | rfl
    · exact isBlank_of_isDigit h
    · decide

/-! ### Lists of times of day -/

theorem listOfText_eq_ok_iff : listOfText text = .ok ts ↔
    (∀ e ∈ splitAll ',' (withoutBlanks text), (ofChars? e).isSome) ∧
      ts = ascending ((splitAll ',' (withoutBlanks text)).filterMap ofChars?) := by
  rw [← filter_isNone_eq_nil_iff]
  simp only [listOfText]
  split
  · next h => simp only [h, true_and, Except.ok.injEq, eq_comm]
  · next h => exact iff_of_false (by simp) fun hnil => h hnil.1

/-- A list of times is not blank, and it is a list of at least one time. -/
theorem isAllBlank_of_listOfText (h : listOfText text = .ok ts) : isAllBlank text = false := by
  obtain ⟨hall, -⟩ := listOfText_eq_ok_iff.1 h
  by_contra hblank
  have hnil : withoutBlanks text = [] := by
    simpa [isAllBlank, withoutBlanks] using hblank
  rw [hnil] at hall
  exact absurd (hall [] (List.mem_singleton_self _)) (by decide)

theorem ne_nil_of_listOfText (h : listOfText text = .ok ts) : ts ≠ [] := by
  obtain ⟨hall, rfl⟩ := listOfText_eq_ok_iff.1 h
  obtain ⟨e, he⟩ := List.exists_mem_of_ne_nil _ (splitAll_ne_nil ',' (withoutBlanks text))
  obtain ⟨t, ht⟩ := Option.isSome_iff_exists.1 (hall e he)
  exact List.ne_nil_of_mem (mem_ascending.2 (List.mem_filterMap.2 ⟨e, he, ht⟩))

theorem pairwise_of_listOfText (h : listOfText text = .ok ts) : ts.Pairwise (· < ·) := by
  obtain ⟨-, rfl⟩ := listOfText_eq_ok_iff.1 h
  exact pairwise_ascending _

theorem isShown_of_listOfText (h : listOfText text = .ok ts) (ht : t ∈ ts) : t.IsShown := by
  obtain ⟨-, rfl⟩ := listOfText_eq_ok_iff.1 h
  obtain ⟨e, -, he⟩ := List.mem_filterMap.1 (mem_ascending.1 ht)
  exact isShown_of_ofChars? he

theorem listOfText_respells (h : listOfText text = .ok ts) (hr : Respells text text') :
    listOfText text' = .ok ts := by
  rcases hr.mem_entries_iff with heq | ⟨-, hmem⟩
  · rw [← h, listOfText, listOfText, heq]
  · obtain ⟨hall, rfl⟩ := listOfText_eq_ok_iff.1 h
    refine listOfText_eq_ok_iff.2 ⟨fun e he => hall e ((hmem e).1 he), ascending_congr fun t => ?_⟩
    simp only [List.mem_filterMap, hmem]

theorem listOfText_joinWith (hts : ts.Pairwise (· < ·)) (hne : ts ≠ []) (h : ∀ t ∈ ts, t.IsShown) :
    listOfText (joinWith "," (ts.map toText)) = .ok ts := by
  have hentries := splitAll_withoutBlanks_joinWith hne fun t (_ : t ∈ ts) => isEntry_toText t
  have hread := filterMap_map_print fun t ht => ofChars?_toText (h t ht)
  refine listOfText_eq_ok_iff.2 ⟨fun e he => ?_, ?_⟩
  · rw [hentries] at he
    obtain ⟨t, ht, rfl⟩ := List.mem_map.1 he
    rw [ofChars?_toText (h t ht)]
    rfl
  · rw [hentries, hread, ascending_of_pairwise hts]

end TimeOfDay

/-! ### Windows -/

namespace TimeWindow

variable {w : TimeWindow} {ws : List TimeWindow} {text text' : String}

/-- Whether a clock shows both ends, and the window ends after it starts. -/
structure IsShown (w : TimeWindow) : Prop where
  forward : w.start < w.stop
  start : w.start.IsShown
  stop : w.stop.IsShown

theorem isShown_of_ofChars {e : List Char} (h : ofChars e = .ok w) : w.IsShown := by
  rw [ofChars] at h
  split at h
  · cases h
  · split at h
    · next hstart hstop =>
      split at h
      · next hlt =>
        cases h
        exact ⟨hlt, TimeOfDay.isShown_of_ofChars? hstart, TimeOfDay.isShown_of_ofChars? hstop⟩
      · cases h
    · cases h

theorem cut?_dash {cs : List Char} (h : '-' ∉ cs) (rest : List Char) :
    cut? ['-'] (cs ++ '-' :: rest) = some (cs, rest) := by
  induction cs with
  | nil => rfl
  | cons c cs ih =>
    rw [List.mem_cons, not_or] at h
    rw [List.cons_append, cut?, strip?, if_neg h.1, ih h.2]
    rfl

theorem toList_toText (w : TimeWindow) :
    w.toText.toList = w.start.toText.toList ++ '-' :: w.stop.toText.toList := by
  simp [toText]

theorem ofChars_toText (h : w.IsShown) : ofChars w.toText.toList = .ok w := by
  have hdash : '-' ∉ w.start.toText.toList := fun hmem => by
    rcases TimeOfDay.mem_toText hmem with h | h <;> revert h <;> decide
  rw [toList_toText, ofChars, cut?_dash hdash]
  simp only [TimeOfDay.ofChars?_toText h.start, TimeOfDay.ofChars?_toText h.stop, if_pos h.forward]

theorem isEntry_toText (w : TimeWindow) : IsEntry w.toText := by
  refine ⟨fun h => ?_, fun c h => ?_⟩
  · rw [toList_toText, List.mem_append, List.mem_cons] at h
    rcases h with h | h | h
    · exact w.start.isEntry_toText.no_comma h
    · revert h
      decide
    · exact w.stop.isEntry_toText.no_comma h
  · rw [toList_toText, List.mem_append, List.mem_cons] at h
    rcases h with h | rfl | h
    · exact w.start.isEntry_toText.no_blank c h
    · decide
    · exact w.stop.isEntry_toText.no_blank c h

/-! ### Lists of windows -/

/-- The entries of a text that stand for windows. -/
def entriesOf (text : String) : List (List Char) :=
  (splitAll ',' (withoutBlanks text)).filter (· ≠ [])

theorem listOfText_eq_ok_iff (hstar : withoutBlanks text ≠ ['*']) : listOfText text = .ok ws ↔
    (∀ e ∈ entriesOf text, ∃ w, ofChars e = .ok w) ∧
      ws = merge ((entriesOf text).filterMap fun e => (ofChars e).toOption) := by
  simp only [listOfText, if_neg hstar]
  split
  · next h =>
    have hgood : ∀ e ∈ entriesOf text, ∃ w, ofChars e = .ok w := by
      intro e he
      have hnone := List.filterMap_eq_nil_iff.1 h e he
      cases hread : ofChars e with
      | ok w => exact ⟨w, rfl⟩
      | error fault =>
        rw [hread] at hnone
        cases hnone
    rw [Except.ok.injEq, eq_comm]
    exact (and_iff_right hgood).symm
  · next h =>
    refine iff_of_false (by simp) fun hnil => h (List.filterMap_eq_nil_iff.2 fun e he => ?_)
    obtain ⟨w, hw⟩ := hnil.1 e he
    rw [hw]

theorem mem_filterMap_ofChars {es : List (List Char)} :
    w ∈ es.filterMap (fun e => (ofChars e).toOption) ↔ ∃ e ∈ es, ofChars e = .ok w := by
  rw [List.mem_filterMap]
  refine exists_congr fun e => and_congr_right fun _ => ?_
  cases ofChars e <;> simp [Except.toOption]

theorem forward_of_mem_filterMap {es : List (List Char)} :
    ∀ w ∈ es.filterMap (fun e => (ofChars e).toOption), w.start < w.stop := by
  intro w hw
  obtain ⟨e, -, he⟩ := mem_filterMap_ofChars.1 hw
  exact (isShown_of_ofChars he).forward

theorem listOfText_star (hstar : withoutBlanks text = ['*']) : listOfText text = .ok [] := by
  rw [listOfText, if_pos hstar]

theorem isCanonical_of_listOfText (h : listOfText text = .ok ws) : IsCanonical ws := by
  by_cases hstar : withoutBlanks text = ['*']
  · rw [listOfText_star hstar] at h
    cases h
    exact ⟨by simp, .nil⟩
  · obtain ⟨-, rfl⟩ := (listOfText_eq_ok_iff hstar).1 h
    exact isCanonical_merge forward_of_mem_filterMap

theorem isShown_of_listOfText (h : listOfText text = .ok ws) (hw : w ∈ ws) : w.IsShown := by
  have hforward := (isCanonical_of_listOfText h).forward w hw
  by_cases hstar : withoutBlanks text = ['*']
  · rw [listOfText_star hstar] at h
    cases h
    cases hw
  · obtain ⟨-, rfl⟩ := (listOfText_eq_ok_iff hstar).1 h
    obtain ⟨⟨u, hu, hstart⟩, v, hv, hstop⟩ := ends_of_mem_merge forward_of_mem_filterMap hw
    obtain ⟨_, -, hu⟩ := mem_filterMap_ofChars.1 hu
    obtain ⟨_, -, hv⟩ := mem_filterMap_ofChars.1 hv
    refine ⟨hforward, ?_, ?_⟩
    · rw [hstart]
      exact (isShown_of_ofChars hu).start
    · rw [hstop]
      exact (isShown_of_ofChars hv).stop

/-- A star is no window. -/
theorem star_not_mem (h : ∀ e ∈ entriesOf text, ∃ w, ofChars e = .ok w) : ['*'] ∉ entriesOf text := by
  intro hmem
  obtain ⟨w, hw⟩ := h _ hmem
  have hbad : ofChars ['*'] = .error .noDash := rfl
  rw [hbad] at hw
  cases hw

theorem listOfText_respells (h : listOfText text = .ok ws) (hr : Respells text text') :
    listOfText text' = .ok ws := by
  rcases hr.mem_entries_iff with heq | ⟨hstar, hmem⟩
  · rw [← h, listOfText, listOfText, heq]
  · obtain ⟨hall, rfl⟩ := (listOfText_eq_ok_iff hstar).1 h
    have hentries : ∀ e, e ∈ entriesOf text' ↔ e ∈ entriesOf text := fun e => by
      rw [entriesOf, entriesOf, List.mem_filter, List.mem_filter, hmem]
    have hstar' : withoutBlanks text' ≠ ['*'] := fun heq => by
      refine star_not_mem hall ((hentries _).1 ?_)
      rw [entriesOf, heq]
      decide
    refine (listOfText_eq_ok_iff hstar').2 ⟨fun e he => hall e ((hentries e).1 he), ?_⟩
    refine merge_congr forward_of_mem_filterMap fun w => ?_
    simp only [mem_filterMap_ofChars, hentries]

theorem listOfText_joinWith (hws : IsCanonical ws) (h : ∀ w ∈ ws, w.IsShown) :
    listOfText (joinWith "," (ws.map toText)) = .ok ws := by
  by_cases hnil : ws = []
  · subst hnil
    simp [listOfText, joinWith, withoutBlanks, splitAll, merge]
  · have hread : (ws.map fun w => w.toText.toList).filterMap (fun e => (ofChars e).toOption) = ws :=
      filterMap_map_print fun w hw => by rw [ofChars_toText (h w hw)]; rfl
    have hentries : entriesOf (joinWith "," (ws.map toText)) = ws.map fun w => w.toText.toList := by
      rw [entriesOf, splitAll_withoutBlanks_joinWith hnil fun w _ => isEntry_toText w,
        List.filter_eq_self]
      intro e he
      obtain ⟨w, -, rfl⟩ := List.mem_map.1 he
      simp [toList_toText]
    have hall : ∀ e ∈ entriesOf (joinWith "," (ws.map toText)), ∃ w, ofChars e = .ok w := by
      rw [hentries]
      intro e he
      obtain ⟨w, hw, rfl⟩ := List.mem_map.1 he
      exact ⟨w, ofChars_toText (h w hw)⟩
    have hstar : withoutBlanks (joinWith "," (ws.map toText)) ≠ ['*'] := fun heq => by
      refine star_not_mem hall ?_
      rw [entriesOf, heq]
      decide
    refine (listOfText_eq_ok_iff hstar).2 ⟨hall, ?_⟩
    rw [hentries, hread, merge_of_isCanonical hws]

end TimeWindow

/-! ### Masks -/

namespace Mask

variable {width : Nat} {m : Mask width} {text text' : String}

theorem ext_bits {m' : Mask width} (h : m.bits = m'.bits) : m = m' := by
  cases m
  cases m'
  cases h
  rfl

theorem ofText_congr (h : withoutBlanks text' = withoutBlanks text) :
    ofText width text' = ofText width text := by
  simp only [ofText, h]

/-- The character of a member, or of a number that is none. -/
def bitChar (member : Bool) : Char := if member then '1' else '0'

theorem eq_full (h : m.bits.all id) : m = full width :=
  ext_bits (List.eq_replicate_iff.2 ⟨m.length_bits, by simpa using h⟩)

theorem map_bitChar_eq_one (bits : List Bool) : (bits.map bitChar).map (· == '1') = bits := by
  rw [List.map_map]
  calc
    bits.map ((· == '1') ∘ bitChar) = bits.map id :=
      List.map_congr_left fun b _ => by cases b <;> rfl
    _ = bits := List.map_id bits

theorem withoutBlanks_map_bitChar (bits : List Bool) :
    withoutBlanks (String.ofList (bits.map bitChar)) = bits.map bitChar := by
  rw [withoutBlanks, String.toList_ofList, List.filter_eq_self]
  intro c hc
  obtain ⟨b, -, rfl⟩ := List.mem_map.1 hc
  cases b <;> decide

theorem ofText_map_bitChar (hne : m.bits ≠ []) :
    ofText width (String.ofList (m.bits.map bitChar)) = .ok m := by
  have hother : ¬(m.bits.map bitChar = [] ∨ m.bits.map bitChar = ['*']) := by
    rintro (hnil | hstar)
    · exact hne (List.map_eq_nil_iff.1 hnil)
    · obtain ⟨b, -, hb⟩ := List.mem_map.1 (hstar ▸ List.mem_singleton_self '*')
      cases b <;> cases hb
  have hmask : (m.bits.map bitChar).length = width ∧
      (m.bits.map bitChar).all (fun c => c = '0' || c = '1') := by
    refine ⟨by rw [List.length_map, m.length_bits], ?_⟩
    rw [List.all_map, List.all_eq_true]
    rintro (_ | _) _ <;> rfl
  simp only [ofText, withoutBlanks_map_bitChar, if_neg hother, dif_pos hmask, map_bitChar_eq_one]

theorem ofText_toText (m : Mask width) : ofText width m.toText = .ok m := by
  rw [toText]
  split
  · next hall =>
    rw [ofText, if_pos (.inr rfl), eq_full hall]
  · next hsome => exact ofText_map_bitChar fun hnil => hsome (by rw [hnil]; rfl)

end Mask

end FlowScheduler
