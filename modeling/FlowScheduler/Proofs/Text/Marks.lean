import Mathlib
import FlowScheduler.Text.Pieces

/-!
Where a mark stands in a text.

A text is cut at a mark if and only if the mark occurs in it (`cut?_eq_none_iff`), and then before any other
place at which it occurs (`not_infix_of_cut?`). A mark of two different characters does not overlap itself, so
what stands before it tells the first place (`cut?_of_not_infix`).
-/

namespace FlowScheduler.Text

variable {a b c : Char} {mark text before after more : List Char}

theorem strip?_eq_none_iff : strip? mark text = none ↔ ¬mark <+: text := by
  simp only [Option.eq_none_iff_forall_ne_some, ne_eq, strip?_eq_some, ← not_exists]
  exact not_congr (exists_congr fun _ => eq_comm)

theorem cut?_eq_none_iff (hmark : mark ≠ []) : cut? mark text = none ↔ ¬mark <:+: text := by
  induction text with
  | nil => simp [cut?, hmark]
  | cons c text ih =>
    rw [cut?, List.infix_cons_iff, not_or, ← strip?_eq_none_iff, ← ih]
    split
    · next rest hrest => simp [hrest]
    · next hnone => simp [hnone]

/-- A mark is cut at its first place. -/
theorem not_infix_of_cut? (hmark : mark ≠ []) (h : cut? mark text = some (before, after)) :
    ¬mark <:+: before := by
  induction text generalizing before with
  | nil =>
    rw [cut?, if_neg (by simpa using hmark)] at h
    cases h
  | cons c text ih =>
    rw [cut?] at h
    split at h
    · cases h
      simpa using hmark
    · next hnone =>
      obtain ⟨⟨head, tail⟩, hcut, heq⟩ := Option.map_eq_some_iff.1 h
      cases heq
      rw [List.infix_cons_iff, not_or]
      refine ⟨fun hbegins => ?_, ih hcut⟩
      have hwhole : c :: head <+: c :: text := by
        rw [cut?_append hcut]
        exact ⟨mark ++ after, by simp⟩
      exact strip?_eq_none_iff.1 hnone (hbegins.trans hwhole)

theorem infix_left_of_disjoint (hne : mark ≠ []) (hdisjoint : mark.Disjoint more) (h : mark <:+: before ++ more) :
    mark <:+: before := by
  rcases List.infix_append_iff.1 h with hbefore | hmore | ⟨s, t, rfl, hs, ht⟩
  · exact hbefore
  · obtain ⟨c, hc⟩ := List.exists_mem_of_ne_nil mark hne
    exact absurd (hmore.subset hc) (hdisjoint hc)
  · cases t with
    | nil => exact (List.append_nil s).symm ▸ hs.isInfix
    | cons d t => exact absurd (ht.subset List.mem_cons_self) (hdisjoint (by simp))

theorem infix_right_of_disjoint (hne : mark ≠ []) (hdisjoint : mark.Disjoint before) (h : mark <:+: before ++ more) :
    mark <:+: more := by
  rw [← List.reverse_infix, List.reverse_append] at h
  exact List.reverse_infix.1 (infix_left_of_disjoint (by simpa using hne) (by simpa using hdisjoint) h)

/-! ### Marks of two characters -/

theorem not_prefix_append (hmark : ¬[a, b] <:+: c :: before)
    (hseam : (c :: before).getLast? = some a → more.head? ≠ some b) :
    ¬[a, b] <+: c :: before ++ more := by
  intro hbegins
  rw [List.cons_append] at hbegins
  obtain ⟨rfl, hnext⟩ := List.cons_prefix_cons.1 hbegins
  cases before with
  | nil =>
    obtain ⟨rest, rfl⟩ := hnext
    exact hseam rfl rfl
  | cons d before =>
    obtain ⟨rfl, -⟩ := List.cons_prefix_cons.1 hnext
    exact hmark ⟨[], before, rfl⟩

/-- A text with no mark inside and none across its end is cut where what follows it is. -/
theorem cut?_append_eq_map (hmark : ¬[a, b] <:+: before)
    (hseam : before.getLast? = some a → more.head? ≠ some b) :
    cut? [a, b] (before ++ more) = (cut? [a, b] more).map fun (u, v) => (before ++ u, v) := by
  induction before with
  | nil => simp
  | cons c before ih =>
    have hnone := strip?_eq_none_iff.2 (not_prefix_append hmark hseam)
    rw [List.cons_append] at hnone ⊢
    have htail : before.getLast? = some a → more.head? ≠ some b := by
      intro hlast
      cases before with
      | nil => cases hlast
      | cons d before => exact hseam hlast
    rw [cut?, hnone, ih (fun h => hmark (List.infix_cons h)) htail, Option.map_map]
    rfl

theorem cut?_of_not_infix (hne : a ≠ b) (hmark : ¬[a, b] <:+: before) :
    cut? [a, b] (before ++ [a, b] ++ after) = some (before, after) := by
  have hseam : before.getLast? = some a → ([a, b] ++ after).head? ≠ some b := by simp [hne]
  rw [List.append_assoc, cut?_append_eq_map hmark hseam]
  simp [cut?, strip?]

end FlowScheduler.Text
