import Mathlib
import FlowScheduler.Proofs.Text.LetterCase
import FlowScheduler.Text.Blank
import FlowScheduler.Text.Pieces

/-!
Lists of entries between commas.

Joined entries are divided into themselves (`splitAll_withoutBlanks_joinWith`). Leaving out blanks and
writing in capitals go entry by entry (`splitAll_withoutBlanks`, `splitAll_upperChars`). So texts that
differ in blanks and in the order and number of their entries (`Respells`) have the same entries when
blanks are left out (`Respells.mem_entries_iff`).
-/

namespace FlowScheduler.Text

variable {sep : Char} {cs : List Char}

theorem splitAll_eq_splitOn (sep : Char) (cs : List Char) : splitAll sep cs = cs.splitOn sep := by
  induction cs with
  | nil => rfl
  | cons c cs ih =>
    simp only [List.splitOn] at ih ⊢
    rw [splitAll, ih, List.splitOnP_cons_eq_if_modifyHead]
    by_cases h : c = sep
    · rw [if_pos h, if_pos (beq_iff_eq.2 h)]
    · rw [if_neg h, if_neg (mt beq_iff_eq.1 h)]
      cases hp : List.splitOnP (fun x => x == sep) cs with
      | nil => exact absurd hp (List.splitOnP_ne_nil _ cs)
      | cons p ps => rfl

theorem splitAll_ne_nil (sep : Char) (cs : List Char) : splitAll sep cs ≠ [] := by
  rw [splitAll_eq_splitOn]
  exact List.splitOnP_ne_nil _ cs

theorem splitAll_joinWith {ps : List String} (hps : ps ≠ []) (h : ∀ p ∈ ps, ',' ∉ p.toList) :
    splitAll ',' (joinWith "," ps).toList = ps.map String.toList := by
  rw [joinWith, String.toList_intercalate, splitAll_eq_splitOn]
  refine List.splitOn_intercalate ',' ?_ (mt List.map_eq_nil_iff.1 hps)
  simpa using h

theorem splitAll_cons_of_ne {c : Char} (h : c ≠ sep) :
    splitAll sep (c :: cs) = (splitAll sep cs).modifyHead (c :: ·) := by
  rw [splitAll, if_neg h]
  cases hp : splitAll sep cs with
  | nil => exact absurd hp (splitAll_ne_nil sep cs)
  | cons p ps => rfl

theorem splitAll_append {ds : List Char} (h : sep ∉ ds) :
    splitAll sep (ds ++ cs) = (splitAll sep cs).modifyHead (ds ++ ·) := by
  induction ds with
  | nil => exact (congrFun List.modifyHead_id _).symm
  | cons d ds ih =>
    rw [List.mem_cons, not_or] at h
    rw [List.cons_append, splitAll_cons_of_ne (Ne.symm h.1), ih h.2, List.modifyHead_modifyHead]
    rfl

/-- Replacing each character by characters goes entry by entry if it neither adds nor takes away
separators. -/
theorem splitAll_flatMap {f : Char → List Char} (hsep : f sep = [sep])
    (h : ∀ c, c ≠ sep → sep ∉ f c) :
    splitAll sep (cs.flatMap f) = (splitAll sep cs).map (List.flatMap f) := by
  induction cs with
  | nil => rfl
  | cons c cs ih =>
    rw [List.flatMap_cons]
    by_cases hc : c = sep
    · rw [hc, hsep, List.singleton_append, splitAll, if_pos rfl, splitAll, if_pos rfl, ih]
      rfl
    · rw [splitAll_append (h c hc), ih, splitAll_cons_of_ne hc]
      cases hp : splitAll sep cs with
      | nil => exact absurd hp (splitAll_ne_nil sep cs)
      | cons p ps => rfl

theorem splitAll_eq_nils_iff : (∀ p ∈ splitAll sep cs, p = []) ↔ ∀ c ∈ cs, c = sep := by
  induction cs with
  | nil => simp [splitAll]
  | cons c cs ih =>
    rw [List.forall_mem_cons]
    by_cases h : c = sep
    · rw [splitAll, if_pos h, List.forall_mem_cons, ih, and_iff_right rfl, and_iff_right h]
    · rw [splitAll_cons_of_ne h]
      refine iff_of_false (fun hnils => ?_) fun hseps => h hseps.1
      cases hp : splitAll sep cs with
      | nil => exact splitAll_ne_nil sep cs hp
      | cons p ps =>
        rw [hp] at hnils
        cases hnils (c :: p) List.mem_cons_self

theorem splitAll_filter {p : Char → Bool} (hsep : p sep = true) :
    splitAll sep (cs.filter p) = (splitAll sep cs).map (List.filter p) := by
  have hfilter : ∀ ds : List Char, ds.filter p = ds.flatMap fun c => if p c then [c] else [] := by
    intro ds
    induction ds with
    | nil => rfl
    | cons d ds ih =>
      rw [List.filter_cons, List.flatMap_cons, ih]
      split <;> rfl
  rw [hfilter, funext hfilter]
  refine splitAll_flatMap (if_pos hsep) fun c hc => ?_
  split <;> simp [Ne.symm hc]

theorem splitAll_withoutBlanks (t : String) :
    splitAll ',' (withoutBlanks t) =
      (splitAll ',' t.toList).map (List.filter fun c => !isBlank c) :=
  splitAll_filter (by decide)

theorem splitAll_upperChars (cs : List Char) :
    splitAll ',' (upperChars cs) = (splitAll ',' cs).map upperChars :=
  splitAll_flatMap (upperChar_of_lt (by decide)) fun _ hc h =>
    hc ((mem_upperChar_iff (by decide)).1 h)

/-! ### Joining -/

/-- The visible characters of ASCII are not blank. -/
theorem isBlank_of_visible {c : Char} (h : 0x21 ≤ c.toNat) (h' : c.toNat < 0x80) : isBlank c = false := by
  simp only [isBlank, Bool.or_eq_false_iff, Bool.and_eq_false_iff, decide_eq_false_iff_not,
    beq_eq_false_iff_ne]
  omega

/-- Whether a text can stand between commas: it has neither a comma nor a blank. -/
structure IsEntry (s : String) : Prop where
  no_comma : ',' ∉ s.toList
  no_blank : ∀ c ∈ s.toList, isBlank c = false

variable {α : Type} {xs : List α} {print : α → String} {read : List Char → Option α}

/-- The entries of a joined text are what was joined. -/
theorem splitAll_withoutBlanks_joinWith (hxs : xs ≠ []) (h : ∀ x ∈ xs, IsEntry (print x)) :
    splitAll ',' (withoutBlanks (joinWith "," (xs.map print))) = xs.map fun x => (print x).toList := by
  have hcomma : ∀ p ∈ xs.map print, ',' ∉ p.toList := by
    simpa using fun x hx => (h x hx).no_comma
  rw [splitAll_withoutBlanks, splitAll_joinWith (mt List.map_eq_nil_iff.1 hxs) hcomma, List.map_map,
    List.map_map]
  refine List.map_congr_left fun x hx => List.filter_eq_self.2 fun c hc => ?_
  rw [(h x hx).no_blank c hc]
  rfl

/-- No entry is left over if each can be read. -/
theorem filter_isNone_eq_nil_iff {es : List (List Char)} :
    es.filter (fun e => (read e).isNone) = [] ↔ ∀ e ∈ es, (read e).isSome := by
  simp only [List.filter_eq_nil_iff, Bool.not_eq_true, Option.isNone_eq_false_iff]

/-- What reads single members reads their list. -/
theorem filterMap_map_print (h : ∀ x ∈ xs, read (print x).toList = some x) :
    (xs.map fun x => (print x).toList).filterMap read = xs := by
  rw [List.filterMap_map]
  calc
    xs.filterMap (read ∘ fun x => (print x).toList) = xs.filterMap some :=
      List.filterMap_congr h
    _ = xs := List.filterMap_some

/-! ### Respelling -/

/-- Whether a text differs from another one in blanks and in the order and number of its entries only;
a star that stands alone is not an entry. -/
inductive Respells : String → String → Prop where
  | blanks {t t' : String} (h : withoutBlanks t' = withoutBlanks t) : Respells t t'
  | entries {t t' : String} (alone : withoutBlanks t ≠ ['*'])
      (h : ∀ e, e ∈ splitAll ',' t'.toList ↔ e ∈ splitAll ',' t.toList) : Respells t t'
  | trans {t t' t'' : String} (h : Respells t t') (h' : Respells t' t'') : Respells t t''

theorem Respells.mem_entries_iff {t t' : String} (h : Respells t t') :
    withoutBlanks t' = withoutBlanks t ∨ withoutBlanks t ≠ ['*'] ∧
      ∀ e, e ∈ splitAll ',' (withoutBlanks t') ↔ e ∈ splitAll ',' (withoutBlanks t) := by
  induction h with
  | blanks h => exact .inl h
  | entries alone h =>
    refine .inr ⟨alone, fun e => ?_⟩
    rw [splitAll_withoutBlanks, splitAll_withoutBlanks, List.mem_map, List.mem_map]
    simp only [h]
  | trans _ _ ih ih' =>
    rcases ih with heq | ⟨alone, hmem⟩
    · rwa [heq] at ih'
    · rcases ih' with heq' | ⟨-, hmem'⟩
      · rw [heq']
        exact .inr ⟨alone, hmem⟩
      · exact .inr ⟨alone, fun e => (hmem' e).trans (hmem e)⟩

end FlowScheduler.Text
