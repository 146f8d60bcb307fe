/-!
Entries under keys, in ascending order of the keys: what a map of the program holds.

An insertion keeps the order and each key once (`Entries.pairwise_insert`).
-/

namespace FlowScheduler.Entries

variable {κ α : Type} [DecidableEq κ]

/-- The first entry decides about its key. -/
theorem lookup_cons_eq (k : κ) (e : κ × α) (es : List (κ × α)) :
    (e :: es).lookup k = if k = e.1 then some e.2 else es.lookup k := by
  rw [List.lookup_cons]
  by_cases h : k = e.1
  · simp [h]
  · simp [h, beq_false_of_ne h]

variable [LT κ] [DecidableLT κ] {key : κ} {a : α} {e : κ × α} {es : List (κ × α)}

/-- Entries with one more, which takes the place of an entry of the same key. -/
def insert (key : κ) (a : α) : List (κ × α) → List (κ × α)
  | [] => [(key, a)]
  | e :: rest =>
    if key < e.1 then (key, a) :: e :: rest
    else if key = e.1 then (key, a) :: rest
    else e :: insert key a rest

theorem mem_insert (h : e ∈ insert key a es) : e = (key, a) ∨ e ∈ es := by
  induction es with
  | nil => exact .inl (List.mem_singleton.1 h)
  | cons f fs ih =>
    rw [insert] at h
    split at h
    · exact List.mem_cons.1 h
    · split at h
      · exact (List.mem_cons.1 h).imp_right (List.mem_cons_of_mem f)
      · rcases List.mem_cons.1 h with rfl | he
        · exact .inr List.mem_cons_self
        · exact (ih he).imp_right (List.mem_cons_of_mem f)

theorem pairwise_insert [LE κ] [Std.IsLinearOrder κ] [Std.LawfulOrderLT κ]
    (h : es.Pairwise fun e f => e.1 < f.1) : (insert key a es).Pairwise fun e f => e.1 < f.1 := by
  induction es with
  | nil => exact List.pairwise_singleton ..
  | cons e es ih =>
    obtain ⟨he, hes⟩ := List.pairwise_cons.1 h
    rw [insert]
    split
    · next hlt =>
      refine List.pairwise_cons.2 ⟨fun f hf => ?_, h⟩
      rcases List.mem_cons.1 hf with rfl | hf
      · exact hlt
      · exact Std.lt_trans hlt (he f hf)
    · split
      · next heq => exact List.pairwise_cons.2 ⟨fun f hf => heq ▸ he f hf, hes⟩
      · next hnlt hne =>
        refine List.pairwise_cons.2 ⟨fun f hf => ?_, ih hes⟩
        rcases mem_insert hf with rfl | hf
        · exact Std.lt_of_le_of_ne (Std.not_lt.1 hnlt) (Ne.symm hne)
        · exact he f hf

theorem lookup_insert (key k : κ) (a : α) (es : List (κ × α)) :
    (insert key a es).lookup k = if k = key then some a else es.lookup k := by
  induction es with
  | nil => simp [insert, lookup_cons_eq]
  | cons e es ih =>
    rw [insert]
    split
    · simp [lookup_cons_eq]
    · split
      · next hk => by_cases h : k = key <;> simp [lookup_cons_eq, ← hk, h]
      · next hk =>
        by_cases h : k = key
        · subst h
          simp [lookup_cons_eq, ih, hk]
        · simp [lookup_cons_eq, ih, h]

end FlowScheduler.Entries
