import FlowScheduler.Entity.Entries

/-!
Things by their ids: a map from integers whose entries stand in ascending order.

Main statements: what is found after an insertion and after an erasure (`get?_insert`, `get?_erase`), and
that two maps in which the same is found are equal (`ById.ext_get?`).
-/

namespace FlowScheduler

/-- Things under ids, each id once and in ascending order. -/
structure ById (α : Type) where
  entries : List (Int × α)
  ascending : entries.Pairwise (fun a b => a.1 < b.1)
  deriving DecidableEq, Repr

namespace ById

variable {α : Type}

instance : EmptyCollection (ById α) := ⟨⟨[], .nil⟩⟩

instance : Inhabited (ById α) := ⟨∅⟩

/-- What stands under an id. -/
def get? (m : ById α) (id : Int) : Option α := m.entries.lookup id

/-- Whether something stands under an id. -/
def contains (m : ById α) (id : Int) : Bool := (m.get? id).isSome

/-- The ids in ascending order. -/
def ids (m : ById α) : List Int := m.entries.map Prod.fst

/-- What stands under the ids, in their ascending order. -/
def values (m : ById α) : List α := m.entries.map Prod.snd

/-! ### Insertion -/

/-- The map with one more; it takes the place of what stood under the id. -/
def insert (m : ById α) (id : Int) (a : α) : ById α :=
  ⟨Entries.insert id a m.entries, Entries.pairwise_insert m.ascending⟩

/-- After an insertion, the new thing is found under its id and all else as before. -/
@[simp] theorem get?_insert (m : ById α) (id i : Int) (a : α) :
    (m.insert id a).get? i = if i = id then some a else m.get? i :=
  Entries.lookup_insert id i a m.entries

/-! ### Erasure -/

/-- The map without what stands under an id. -/
def erase (m : ById α) (id : Int) : ById α :=
  ⟨m.entries.filter (·.1 != id), m.ascending.filter _⟩

/-- After an erasure, nothing is found under the id and all else as before. -/
@[simp] theorem get?_erase (m : ById α) (id i : Int) :
    (m.erase id).get? i = if i = id then none else m.get? i := by
  show (m.entries.filter (·.1 != id)).lookup i = if i = id then none else m.entries.lookup i
  induction m.entries with
  | nil => simp
  | cons e es ih =>
    by_cases hk : e.1 = id
    · rw [List.filter_cons_of_neg (by simp [hk]), ih, Entries.lookup_cons_eq, hk]
      split <;> rfl
    · rw [List.filter_cons_of_pos (by simp [hk]), Entries.lookup_cons_eq, Entries.lookup_cons_eq, ih]
      by_cases h : i = e.1
      · simp [h, hk]
      · simp [h]

/-! ### Maps from lists -/

/-- The map with several things under the ids that they carry; a later one takes the place of an
earlier one. -/
def insertAll (key : α → Int) (m : ById α) (as : List α) : ById α :=
  as.foldl (fun m a => m.insert (key a) a) m

/-- The map of several things under the ids that they carry. -/
def ofList (key : α → Int) (as : List α) : ById α := insertAll key ∅ as

/-- The map with one thing changed, if it is there. -/
def modify (m : ById α) (id : Int) (f : α → α) : ById α :=
  match m.get? id with
  | some a => m.insert id (f a)
  | none => m

@[simp] theorem get?_modify (m : ById α) (id i : Int) (f : α → α) :
    (m.modify id f).get? i = if i = id then (m.get? i).map f else m.get? i := by
  rw [modify]
  split
  · next a h => rw [get?_insert]; split <;> simp_all
  · next h => split <;> simp_all

/-- The map of lists with one more thing at the end of the list under an id. -/
def push (m : ById (List α)) (id : Int) (a : α) : ById (List α) :=
  m.insert id ((m.get? id).getD [] ++ [a])

@[simp] theorem get?_push (m : ById (List α)) (id i : Int) (a : α) :
    (m.push id a).get? i = if i = id then some ((m.get? id).getD [] ++ [a]) else m.get? i :=
  get?_insert m id i _

/-- The map with everything changed. -/
def map {β : Type} (f : α → β) (m : ById α) : ById β :=
  ⟨m.entries.map fun e => (e.1, f e.2), List.pairwise_map.2 m.ascending⟩

@[simp] theorem get?_map {β : Type} (f : α → β) (m : ById α) (id : Int) :
    (m.map f).get? id = (m.get? id).map f := by
  show (m.entries.map fun e => (e.1, f e.2)).lookup id = (m.entries.lookup id).map f
  induction m.entries with
  | nil => simp
  | cons e es ih =>
    rw [List.map_cons, Entries.lookup_cons_eq, Entries.lookup_cons_eq, ih]
    split <;> rfl

/-- The map with everything changed in knowledge of its id. -/
def mapWithId {β : Type} (f : Int → α → β) (m : ById α) : ById β :=
  ⟨m.entries.map fun e => (e.1, f e.1 e.2), List.pairwise_map.2 m.ascending⟩

@[simp] theorem get?_mapWithId {β : Type} (f : Int → α → β) (m : ById α) (id : Int) :
    (m.mapWithId f).get? id = (m.get? id).map (f id) := by
  show (m.entries.map fun e => (e.1, f e.1 e.2)).lookup id = (m.entries.lookup id).map (f id)
  induction m.entries with
  | nil => simp
  | cons e es ih =>
    rw [List.map_cons, Entries.lookup_cons_eq, Entries.lookup_cons_eq, ih]
    split
    · next h => simp [h]
    · rfl

@[simp] theorem get?_empty (id : Int) : (∅ : ById α).get? id = none := rfl

/-! ### Membership -/

theorem mem_entries_of_get? {m : ById α} {id : Int} {a : α} (h : m.get? id = some a) :
    (id, a) ∈ m.entries := by
  revert h
  show m.entries.lookup id = some a → _
  induction m.entries with
  | nil => simp
  | cons e es ih =>
    rw [Entries.lookup_cons_eq]
    split
    · next hk => rintro ⟨rfl⟩; simp [hk]
    · exact fun h => List.mem_cons_of_mem _ (ih h)

theorem get?_eq_some_iff {m : ById α} {id : Int} {a : α} :
    m.get? id = some a ↔ (id, a) ∈ m.entries := by
  refine ⟨mem_entries_of_get?, fun h => ?_⟩
  obtain ⟨es, asc⟩ := m
  show es.lookup id = some a
  induction es with
  | nil => nomatch h
  | cons e es ih =>
    obtain ⟨he, hes⟩ := List.pairwise_cons.1 asc
    rw [Entries.lookup_cons_eq]
    rcases List.mem_cons.1 h with h | h
    · simp [← h]
    · have hne : id ≠ e.1 := Int.ne_of_gt (he _ h)
      rw [if_neg hne]
      exact ih hes h

theorem get?_eq_none_of_not_contains {m : ById α} {id : Int} (h : ¬m.contains id) :
    m.get? id = none := by
  simpa [contains] using h

theorem mem_ids_iff {m : ById α} {id : Int} : id ∈ m.ids ↔ m.contains id := by
  rw [contains, Option.isSome_iff_exists, ids, List.mem_map]
  constructor
  · rintro ⟨e, he, rfl⟩
    exact ⟨e.2, get?_eq_some_iff.2 he⟩
  · rintro ⟨a, ha⟩
    exact ⟨(id, a), get?_eq_some_iff.1 ha, rfl⟩

theorem mem_values_iff {m : ById α} {a : α} : a ∈ m.values ↔ ∃ id, m.get? id = some a := by
  simp only [values, List.mem_map, get?_eq_some_iff, Prod.exists, exists_eq_right]

/-- Maps in which the same is found under every id are equal. -/
theorem ext_get? {m n : ById α} (h : ∀ id, m.get? id = n.get? id) : m = n := by
  obtain ⟨es, hes⟩ := m
  obtain ⟨fs, hfs⟩ := n
  congr
  have hmem : ∀ e, e ∈ es ↔ e ∈ fs := fun e => by
    have he : (⟨es, hes⟩ : ById α).get? e.1 = some e.2 ↔ e ∈ es := get?_eq_some_iff
    have hf : (⟨fs, hfs⟩ : ById α).get? e.1 = some e.2 ↔ e ∈ fs := get?_eq_some_iff
    rw [← he, ← hf, h]
  clear h
  induction es generalizing fs with
  | nil =>
    cases fs with
    | nil => rfl
    | cons f fs => exact absurd ((hmem f).2 List.mem_cons_self) (by simp)
  | cons e es ih =>
    obtain ⟨he, hes'⟩ := List.pairwise_cons.1 hes
    cases fs with
    | nil => exact absurd ((hmem e).1 List.mem_cons_self) (by simp)
    | cons f fs =>
      obtain ⟨hf, hfs'⟩ := List.pairwise_cons.1 hfs
      have hef : e = f := by
        rcases List.mem_cons.1 ((hmem e).1 List.mem_cons_self) with h | h
        · exact h
        · rcases List.mem_cons.1 ((hmem f).2 List.mem_cons_self) with h' | h'
          · exact h'.symm
          · have := hf e h
            have := he f h'
            omega
      subst hef
      congr 1
      refine ih hes' fs hfs' fun g => ⟨fun hg => ?_, fun hg => ?_⟩
      · rcases List.mem_cons.1 ((hmem g).1 (List.mem_cons_of_mem _ hg)) with h | h
        · subst h
          exact absurd (he g hg) (Int.lt_irrefl _)
        · exact h
      · rcases List.mem_cons.1 ((hmem g).2 (List.mem_cons_of_mem _ hg)) with h | h
        · subst h
          exact absurd (hf g hg) (Int.lt_irrefl _)
        · exact h

end ById

end FlowScheduler
