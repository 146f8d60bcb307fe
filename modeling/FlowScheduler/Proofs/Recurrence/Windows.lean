import Mathlib
import FlowScheduler.Proofs.Recurrence.Times

/-!
Merged windows.

The merging of windows leaves out nothing that they span and adds nothing to it (`exists_spans_merge`),
and its result stands in order with a gap before each next window (`isCanonical_merge`). Only one list of
this form spans given times (`IsCanonical.ext`), so the merged windows depend on what the windows span
alone: not on their order or number (`merge_congr`), and merging them again changes nothing
(`merge_of_isCanonical`). Times count as spanned without the end of a window; with it, two windows with a
gap of a nanosecond would span what one window does.

The times that windows cover, ends included, are the same before and after all the same
(`exists_covers_merge`): a merged window ends where one of the windows does, and each window lies in a
merged one (`exists_isWithin_merge`).
-/

namespace FlowScheduler.TimeWindow

variable {w current : TimeWindow} {ws vs : List TimeWindow} {t : TimeOfDay}

/-- Whether a time lies in a window and is not its end. -/
def Spans (w : TimeWindow) (t : TimeOfDay) : Prop := w.start ≤ t ∧ t < w.stop

/-- Whether windows stand in order, with a gap between each two. -/
structure IsCanonical (ws : List TimeWindow) : Prop where
  forward : ∀ w ∈ ws, w.start < w.stop
  apart : ws.Pairwise fun a b => a.stop < b.start

theorem IsCanonical.of_cons (h : IsCanonical (w :: ws)) : IsCanonical ws where
  forward v hv := h.forward v (List.mem_cons_of_mem w hv)
  apart := (List.pairwise_cons.1 h.apart).2

theorem IsCanonical.spans_self (h : IsCanonical (w :: ws)) : w.Spans w.start :=
  ⟨TimeOfDay.le_refl _, h.forward w List.mem_cons_self⟩

/-! ### One list for given times -/

theorem IsCanonical.start_le (h : IsCanonical (w :: ws)) (ht : ∃ v ∈ w :: ws, v.Spans t) :
    w.start ≤ t := by
  obtain ⟨v, hv, hspans, -⟩ := ht
  rcases List.mem_cons.1 hv with rfl | hv
  · exact hspans
  · have hgap := (List.pairwise_cons.1 h.apart).1 v hv
    have hw := h.forward w List.mem_cons_self
    exact TimeOfDay.le_trans (TimeOfDay.le_of_lt (TimeOfDay.lt_trans hw hgap)) hspans

theorem IsCanonical.not_spans_stop (h : IsCanonical (w :: ws)) : ¬∃ v ∈ w :: ws, v.Spans w.stop := by
  rintro ⟨v, hv, hstart, hstop⟩
  rcases List.mem_cons.1 hv with rfl | hv
  · exact TimeOfDay.lt_irrefl _ hstop
  · exact TimeOfDay.not_le.2 ((List.pairwise_cons.1 h.apart).1 v hv) hstart

/-- The times that the windows after the first span are those that the first does not span. -/
theorem IsCanonical.exists_spans_tail (h : IsCanonical (w :: ws)) :
    (∃ v ∈ ws, v.Spans t) ↔ (∃ v ∈ w :: ws, v.Spans t) ∧ ¬w.Spans t := by
  constructor
  · rintro ⟨v, hv, hspans⟩
    refine ⟨⟨v, List.mem_cons_of_mem w hv, hspans⟩, fun hw => ?_⟩
    have hgap := (List.pairwise_cons.1 h.apart).1 v hv
    exact TimeOfDay.lt_irrefl _ (TimeOfDay.lt_trans hgap (TimeOfDay.lt_of_le_of_lt hspans.1 hw.2))
  · rintro ⟨⟨v, hv, hspans⟩, hw⟩
    rcases List.mem_cons.1 hv with rfl | hv
    · exact absurd hspans hw
    · exact ⟨v, hv, hspans⟩

private theorem stop_le_of_start_eq (hw : IsCanonical (w :: ws)) {v : TimeWindow}
    (hstart : v.start = w.start)
    (h : ∀ t, v.Spans t → ∃ u ∈ w :: ws, u.Spans t) : v.stop ≤ w.stop := by
  by_contra hlt
  rw [TimeOfDay.not_le] at hlt
  refine hw.not_spans_stop (h w.stop ⟨?_, hlt⟩)
  rw [hstart]
  exact TimeOfDay.le_of_lt (hw.forward w List.mem_cons_self)

theorem IsCanonical.ext (hws : IsCanonical ws) (hvs : IsCanonical vs)
    (h : ∀ t, (∃ w ∈ ws, w.Spans t) ↔ ∃ v ∈ vs, v.Spans t) : ws = vs := by
  induction ws generalizing vs with
  | nil =>
    cases vs with
    | nil => rfl
    | cons v vs =>
      obtain ⟨_, hmem, -⟩ := (h v.start).2 ⟨v, List.mem_cons_self, hvs.spans_self⟩
      cases hmem
  | cons w ws ih =>
    cases vs with
    | nil =>
      obtain ⟨_, hmem, -⟩ := (h w.start).1 ⟨w, List.mem_cons_self, hws.spans_self⟩
      cases hmem
    | cons v vs =>
      have hstart : w.start = v.start := TimeOfDay.le_antisymm
        (hws.start_le ((h v.start).2 ⟨v, List.mem_cons_self, hvs.spans_self⟩))
        (hvs.start_le ((h w.start).1 ⟨w, List.mem_cons_self, hws.spans_self⟩))
      have hstop : w.stop = v.stop := TimeOfDay.le_antisymm
        (stop_le_of_start_eq hvs hstart
          fun t ht => (h t).1 ⟨w, List.mem_cons_self, ht⟩)
        (stop_le_of_start_eq hws hstart.symm
          fun t ht => (h t).2 ⟨v, List.mem_cons_self, ht⟩)
      have hhead : w = v := by
        cases w
        cases v
        cases hstart
        cases hstop
        rfl
      subst hhead
      rw [ih hws.of_cons hvs.of_cons fun t => by
        rw [hws.exists_spans_tail, hvs.exists_spans_tail, h]]

/-! ### Absorbing -/

/-- Whether windows stand in the order of their starts. -/
structure IsSorted (ws : List TimeWindow) : Prop where
  forward : ∀ w ∈ ws, w.start < w.stop
  sorted : ws.Pairwise fun a b => a.start ≤ b.start

theorem IsSorted.of_cons (h : IsSorted (w :: ws)) : IsSorted ws where
  forward v hv := h.forward v (List.mem_cons_of_mem w hv)
  sorted := (List.pairwise_cons.1 h.sorted).2

/-- A window and the next one that it touches become one, which spans what both do. -/
private theorem spans_extend (hfrom : current.start ≤ w.start) (htouch : w.start ≤ current.stop) :
    (if current.stop < w.stop then { current with stop := w.stop } else current).Spans t ↔
      current.Spans t ∨ w.Spans t := by
  simp only [Spans, TimeOfDay.le_iff, TimeOfDay.lt_iff] at *
  split
  · dsimp only
    omega
  · omega

private theorem extend_start :
    (if current.stop < w.stop then { current with stop := w.stop } else current).start =
      current.start := by
  split <;> rfl

private theorem IsSorted.extend (h : IsSorted (current :: w :: ws)) :
    IsSorted ((if current.stop < w.stop then { current with stop := w.stop } else current) :: ws) := by
  have hcurrent := h.forward current List.mem_cons_self
  have hfirst := (List.pairwise_cons.1 h.sorted).1
  have hrest := h.of_cons.of_cons
  constructor
  · refine List.forall_mem_cons.2 ⟨?_, hrest.forward⟩
    split
    · next hlonger => exact TimeOfDay.lt_trans hcurrent hlonger
    · exact hcurrent
  · refine List.pairwise_cons.2 ⟨fun v hv => ?_, hrest.sorted⟩
    rw [extend_start]
    exact hfirst v (List.mem_cons_of_mem w hv)

theorem exists_spans_absorb (h : IsSorted (current :: ws)) :
    (∃ v ∈ absorb current ws, v.Spans t) ↔ ∃ v ∈ current :: ws, v.Spans t := by
  fun_induction absorb current ws with
  | case1 => rfl
  | case2 current w ws htouch ih =>
    have hfrom := (List.pairwise_cons.1 h.sorted).1 w List.mem_cons_self
    rw [ih h.extend]
    simp only [List.exists_mem_cons_iff]
    rw [spans_extend hfrom htouch, or_assoc]
  | case3 current w ws _ ih =>
    rw [List.exists_mem_cons_iff, ih h.of_cons, List.exists_mem_cons_iff (a := current)]

/-- What a window leaves behind starts no earlier than it does. -/
theorem start_le_of_mem_absorb (h : IsSorted (current :: ws)) (hw : w ∈ absorb current ws) :
    current.start ≤ w.start := by
  fun_induction absorb current ws with
  | case1 =>
    rw [List.mem_singleton.1 hw]
    exact TimeOfDay.le_refl _
  | case2 current v vs _ ih =>
    have hle := ih h.extend hw
    rwa [extend_start] at hle
  | case3 current v vs _ ih =>
    rcases List.mem_cons.1 hw with rfl | hw
    · exact TimeOfDay.le_refl _
    · have hfrom := (List.pairwise_cons.1 h.sorted).1 v List.mem_cons_self
      exact TimeOfDay.le_trans hfrom (ih h.of_cons hw)

theorem isCanonical_absorb (h : IsSorted (current :: ws)) : IsCanonical (absorb current ws) := by
  fun_induction absorb current ws with
  | case1 current => exact ⟨h.forward, List.pairwise_singleton _ _⟩
  | case2 current w ws _ ih => exact ih h.extend
  | case3 current w ws hgap ih =>
    rw [TimeOfDay.not_le] at hgap
    have hrest := ih h.of_cons
    refine ⟨?_, List.pairwise_cons.2 ⟨fun v hv => ?_, hrest.apart⟩⟩
    · rintro v (_ | ⟨_, hv⟩)
      · exact h.forward current List.mem_cons_self
      · exact hrest.forward v hv
    · exact TimeOfDay.lt_of_lt_of_le hgap (start_le_of_mem_absorb h.of_cons hv)

theorem ends_of_mem_absorb (hw : w ∈ absorb current ws) :
    (∃ v ∈ current :: ws, w.start = v.start) ∧ ∃ v ∈ current :: ws, w.stop = v.stop := by
  fun_induction absorb current ws with
  | case1 current =>
    rw [List.mem_singleton.1 hw]
    exact ⟨⟨current, List.mem_cons_self, rfl⟩, current, List.mem_cons_self, rfl⟩
  | case2 current v vs _ ih =>
    obtain ⟨⟨a, ha, hstart⟩, b, hb, hstop⟩ := ih hw
    constructor
    · rcases List.mem_cons.1 ha with rfl | ha
      · exact ⟨current, List.mem_cons_self, hstart.trans extend_start⟩
      · exact ⟨a, List.mem_cons_of_mem _ (List.mem_cons_of_mem _ ha), hstart⟩
    · rcases List.mem_cons.1 hb with rfl | hb
      · split at hstop
        · exact ⟨v, List.mem_cons_of_mem _ List.mem_cons_self, hstop⟩
        · exact ⟨current, List.mem_cons_self, hstop⟩
      · exact ⟨b, List.mem_cons_of_mem _ (List.mem_cons_of_mem _ hb), hstop⟩
  | case3 current v vs _ ih =>
    rcases List.mem_cons.1 hw with rfl | hw
    · exact ⟨⟨w, List.mem_cons_self, rfl⟩, w, List.mem_cons_self, rfl⟩
    · obtain ⟨⟨a, ha, hstart⟩, b, hb, hstop⟩ := ih hw
      exact ⟨⟨a, List.mem_cons_of_mem current ha, hstart⟩, b, List.mem_cons_of_mem current hb, hstop⟩

/-! ### Merging -/

theorem le_iff {a b : TimeWindow} :
    a.le b ↔ a.start < b.start ∨ a.start = b.start ∧ a.stop ≤ b.stop := by
  rw [le, Bool.or_eq_true, Bool.and_eq_true, decide_eq_true_eq, decide_eq_true_eq, decide_eq_true_eq]

theorem le_trans (a b c : TimeWindow) (h : a.le b) (h' : b.le c) : a.le c := by
  simp only [le_iff, TimeOfDay.lt_iff, TimeOfDay.le_iff, TimeOfDay.ext_iff] at *
  omega

theorem le_total (a b : TimeWindow) : a.le b || b.le a := by
  simp only [Bool.or_eq_true, le_iff, TimeOfDay.lt_iff, TimeOfDay.le_iff, TimeOfDay.ext_iff]
  omega

theorem start_le_of_le {a b : TimeWindow} (h : a.le b) : a.start ≤ b.start := by
  simp only [le_iff, TimeOfDay.lt_iff, TimeOfDay.le_iff, TimeOfDay.ext_iff] at *
  omega

theorem isSorted_mergeSort (h : ∀ w ∈ ws, w.start < w.stop) : IsSorted (ws.mergeSort le) where
  forward w hw := h w (List.mem_mergeSort.1 hw)
  sorted := (List.pairwise_mergeSort le_trans le_total ws).imp start_le_of_le

theorem exists_spans_merge (h : ∀ w ∈ ws, w.start < w.stop) :
    (∃ v ∈ merge ws, v.Spans t) ↔ ∃ v ∈ ws, v.Spans t := by
  have hmem : (∃ v ∈ ws, v.Spans t) ↔ ∃ v ∈ ws.mergeSort le, v.Spans t := by
    simp only [List.mem_mergeSort]
  have hsorted := isSorted_mergeSort h
  rw [hmem, merge]
  cases heq : ws.mergeSort le with
  | nil => rfl
  | cons w rest =>
    rw [heq] at hsorted
    exact exists_spans_absorb hsorted

theorem isCanonical_merge (h : ∀ w ∈ ws, w.start < w.stop) : IsCanonical (merge ws) := by
  have hsorted := isSorted_mergeSort h
  rw [merge]
  cases heq : ws.mergeSort le with
  | nil => exact ⟨by simp, .nil⟩
  | cons w rest =>
    rw [heq] at hsorted
    exact isCanonical_absorb hsorted

/-- The ends of merged windows are ends of windows that were merged. -/
theorem ends_of_mem_merge (h : ∀ w ∈ ws, w.start < w.stop) (hw : w ∈ merge ws) :
    (∃ v ∈ ws, w.start = v.start) ∧ ∃ v ∈ ws, w.stop = v.stop := by
  have hsorted := isSorted_mergeSort h
  have hmem : ∀ v, v ∈ ws.mergeSort le ↔ v ∈ ws := fun _ => List.mem_mergeSort
  rw [merge] at hw
  cases heq : ws.mergeSort le with
  | nil =>
    rw [heq] at hw
    cases hw
  | cons v rest =>
    rw [heq] at hw hsorted hmem
    simp only [← hmem]
    exact ends_of_mem_absorb hw

/-- Windows that span the same times are merged into the same ones. -/
theorem merge_eq_of_spans (hws : ∀ w ∈ ws, w.start < w.stop) (hvs : ∀ v ∈ vs, v.start < v.stop)
    (h : ∀ t, (∃ w ∈ ws, w.Spans t) ↔ ∃ v ∈ vs, v.Spans t) : merge ws = merge vs := by
  refine (isCanonical_merge hws).ext (isCanonical_merge hvs) fun t => ?_
  rw [exists_spans_merge hws, exists_spans_merge hvs, h]

theorem merge_congr (hws : ∀ w ∈ ws, w.start < w.stop) (h : ∀ w, w ∈ ws ↔ w ∈ vs) :
    merge ws = merge vs := by
  refine merge_eq_of_spans hws (fun v hv => hws v ((h v).2 hv)) fun t => ?_
  simp only [h]

theorem merge_of_isCanonical (h : IsCanonical ws) : merge ws = ws :=
  (isCanonical_merge h.forward).ext h fun _ => exists_spans_merge h.forward

/-! ### The cover -/

/-- Whether a time lies in a window, both ends included. -/
def Covers (w : TimeWindow) (t : TimeOfDay) : Prop := w.start ≤ t ∧ t ≤ w.stop

/-- Whether a window lies in another one. -/
def IsWithin (v w : TimeWindow) : Prop := w.start ≤ v.start ∧ v.stop ≤ w.stop

theorem IsWithin.covers {v : TimeWindow} (h : v.IsWithin w) (ht : v.Covers t) : w.Covers t :=
  ⟨TimeOfDay.le_trans h.1 ht.1, TimeOfDay.le_trans ht.2 h.2⟩

theorem IsWithin.spans {v : TimeWindow} (h : v.IsWithin w) (ht : v.Spans t) : w.Spans t :=
  ⟨TimeOfDay.le_trans h.1 ht.1, TimeOfDay.lt_of_lt_of_le ht.2 h.2⟩

/-- No window goes on where another one of its list ends. -/
theorem IsCanonical.not_spans_stop_of_mem (h : IsCanonical ws) (hw : w ∈ ws) :
    ¬∃ v ∈ ws, v.Spans w.stop := by
  induction ws with
  | nil => cases hw
  | cons u us ih =>
    rcases List.mem_cons.1 hw with rfl | hlater
    · exact h.not_spans_stop
    · rintro ⟨v, hv, hspans⟩
      rcases List.mem_cons.1 hv with rfl | hv
      · have hgap := (List.pairwise_cons.1 h.apart).1 w hlater
        have hforward := h.of_cons.forward w hlater
        exact TimeOfDay.lt_irrefl _ (TimeOfDay.lt_trans hspans.2 (TimeOfDay.lt_trans hgap hforward))
      · exact ih h.of_cons hlater ⟨v, hv, hspans⟩

theorem IsCanonical.starts_ascending (h : IsCanonical ws) : (ws.map start).Pairwise (· < ·) := by
  refine List.pairwise_map.2 (h.apart.imp_of_mem fun {a _} ha _ hgap => ?_)
  exact TimeOfDay.lt_trans (h.forward a ha) hgap

/-- A window lies in one of the merged windows: the one that spans its start does not end before it does, or
the window would go on where a merged window ends. -/
theorem exists_isWithin_merge (h : ∀ w ∈ ws, w.start < w.stop) (hw : w ∈ ws) :
    ∃ v ∈ merge ws, w.IsWithin v := by
  have hstart : w.Spans w.start := ⟨TimeOfDay.le_refl _, h w hw⟩
  obtain ⟨v, hv, hfrom, hto⟩ := (exists_spans_merge h).2 ⟨w, hw, hstart⟩
  refine ⟨v, hv, hfrom, ?_⟩
  by_contra hbefore
  have hspans : w.Spans v.stop := ⟨TimeOfDay.le_of_lt hto, TimeOfDay.not_le.1 hbefore⟩
  exact (isCanonical_merge h).not_spans_stop_of_mem hv ((exists_spans_merge h).2 ⟨w, hw, hspans⟩)

theorem exists_covers_merge (h : ∀ w ∈ ws, w.start < w.stop) :
    (∃ v ∈ merge ws, v.Covers t) ↔ ∃ w ∈ ws, w.Covers t := by
  constructor
  · rintro ⟨v, hv, hfrom, hto⟩
    by_cases hlt : t < v.stop
    · obtain ⟨w, hw, hspans⟩ := (exists_spans_merge h).1 ⟨v, hv, hfrom, hlt⟩
      exact ⟨w, hw, hspans.1, TimeOfDay.le_of_lt hspans.2⟩
    · -- the end of a merged window is that of a window
      obtain ⟨-, w, hw, hstop⟩ := ends_of_mem_merge h hv
      have hend : t = w.stop := hstop ▸ TimeOfDay.le_antisymm hto (TimeOfDay.not_lt.1 hlt)
      exact ⟨w, hw, hend ▸ TimeOfDay.le_of_lt (h w hw), hend ▸ TimeOfDay.le_refl _⟩
  · rintro ⟨w, hw, hcovers⟩
    obtain ⟨v, hv, hwithin⟩ := exists_isWithin_merge h hw
    exact ⟨v, hv, hwithin.covers hcovers⟩

/-- Merged windows stand in the order of their starts with a gap before each next one, cover the times that the
windows cover, and start and end where windows do. They depend neither on the order of the windows nor on further
windows that lie in one of them, and merging them again changes nothing. -/
theorem merge_canonical_cover (h : ∀ w ∈ ws, w.start < w.stop) :
    ((merge ws).map start).Pairwise (· < ·) ∧ IsCanonical (merge ws) ∧
      (∀ t, (∃ v ∈ merge ws, v.Covers t) ↔ ∃ w ∈ ws, w.Covers t) ∧
      (∀ v ∈ merge ws, (∃ w ∈ ws, v.start = w.start) ∧ ∃ w ∈ ws, v.stop = w.stop) ∧
      (∀ more vs, (∀ v ∈ more, v.start < v.stop ∧ ∃ w ∈ ws, v.IsWithin w) → vs.Perm (ws ++ more) →
        merge vs = merge ws) ∧
      merge (merge ws) = merge ws := by
  have hcanonical := isCanonical_merge h
  refine ⟨hcanonical.starts_ascending, hcanonical, fun t => exists_covers_merge h,
    fun v hv => ends_of_mem_merge h hv, fun more vs hmore hperm => ?_, merge_of_isCanonical hcanonical⟩
  have hmem (v : TimeWindow) : v ∈ vs ↔ v ∈ ws ∨ v ∈ more := by rw [hperm.mem_iff, List.mem_append]
  refine merge_eq_of_spans (fun v hv => ?_) h fun t => ⟨?_, ?_⟩
  · rcases (hmem v).1 hv with hv | hv
    · exact h v hv
    · exact (hmore v hv).1
  · rintro ⟨v, hv, hspans⟩
    rcases (hmem v).1 hv with hv | hv
    · exact ⟨v, hv, hspans⟩
    · obtain ⟨-, w, hw, hwithin⟩ := hmore v hv
      exact ⟨w, hw, hwithin.spans hspans⟩
  · rintro ⟨w, hw, hspans⟩
    exact ⟨w, (hmem w).2 (.inl hw), hspans⟩

private theorem zero_nanos_lt : 0 < 2000000000 := by decide

private def clock (hour : Nat) (h : hour < 24 := by omega) : TimeOfDay :=
  { second := hour * 3600, nanos := 0, nanos_lt := zero_nanos_lt }

/-- A quarter of a second past ten. -/
private def pastTen : TimeOfDay := { second := 36000, nanos := 250000000 }

/-- Windows that touch, one that lies in another one, and one on its own. -/
private def patchwork : List TimeWindow :=
  [⟨clock 12, clock 13⟩, ⟨clock 7, pastTen⟩, ⟨pastTen, clock 11⟩, ⟨clock 8, clock 9⟩]

theorem merge_canonical_cover_of_patchwork :
    (∀ w ∈ patchwork, w.start < w.stop) ∧ merge patchwork = [⟨clock 7, clock 11⟩, ⟨clock 12, clock 13⟩] ∧
      ((merge patchwork).map start).Pairwise (· < ·) ∧ (∃ v ∈ merge patchwork, v.Covers pastTen) ∧
      merge (⟨clock 9, pastTen⟩ :: patchwork.reverse) = merge patchwork ∧
      merge (merge patchwork) = merge patchwork := by
  have hforward : ∀ w ∈ patchwork, w.start < w.stop := by decide
  obtain ⟨hascending, -, hcovers, -, hsame, htwice⟩ := merge_canonical_cover hforward
  refine ⟨hforward, by cbv, hascending, (hcovers pastTen).2 ?_, hsame [⟨clock 9, pastTen⟩] _ ?_ ?_, htwice⟩
  · exact ⟨⟨clock 7, pastTen⟩, by decide, by decide, by decide⟩
  · rintro v hv
    rw [List.mem_singleton.1 hv]
    exact ⟨by decide, ⟨clock 7, pastTen⟩, by decide, by decide, by decide⟩
  · exact (List.perm_append_singleton _ _).symm.trans (patchwork.reverse_perm.append_right _)

end FlowScheduler.TimeWindow
