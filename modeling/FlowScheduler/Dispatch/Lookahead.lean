import FlowScheduler.Calendar.Instant

/-!
The lookahead: the launches of schedules that are planned, by instant.

A pair of an instant and a schedule is held at most once. Pairs stand in ascending order of their
instants; those of one instant stand in the order in which they were added.
-/

namespace FlowScheduler

/-- A planned launch of a schedule. -/
structure PlannedLaunch where
  instant : Instant
  scheduleId : Int
  deriving DecidableEq, Repr

namespace PlannedLaunch

/-- Whether a launch is due before another: by instant, then by schedule. -/
def isBefore (a b : PlannedLaunch) : Bool :=
  a.instant < b.instant || (a.instant == b.instant && a.scheduleId ≤ b.scheduleId)

end PlannedLaunch

/-- Planned launches, each once and in ascending order of their instants. -/
structure Lookahead where
  entries : List PlannedLaunch
  ascending : entries.Pairwise (fun a b => a.instant ≤ b.instant)
  nodup : entries.Nodup
  deriving DecidableEq, Repr

namespace Lookahead

instance : EmptyCollection Lookahead := ⟨⟨[], .nil, .nil⟩⟩

instance : Inhabited Lookahead := ⟨∅⟩

instance : Membership PlannedLaunch Lookahead := ⟨fun l e => e ∈ l.entries⟩

theorem mem_entries {l : Lookahead} {e : PlannedLaunch} : e ∈ l.entries ↔ e ∈ l := .rfl

@[simp] theorem not_mem_empty {e : PlannedLaunch} : e ∉ (∅ : Lookahead) := List.not_mem_nil

/-- The number of launches. -/
def size (l : Lookahead) : Nat := l.entries.length

/-- Whether no launch is planned. -/
def isEmpty (l : Lookahead) : Bool := l.entries.isEmpty

/-! ### Adding -/

/-- A launch put behind all that are not later. -/
def place (e : PlannedLaunch) : List PlannedLaunch → List PlannedLaunch
  | [] => [e]
  | f :: fs => if f.instant ≤ e.instant then f :: place e fs else e :: f :: fs

@[simp] theorem mem_place {e f : PlannedLaunch} {fs : List PlannedLaunch} :
    f ∈ place e fs ↔ f = e ∨ f ∈ fs := by
  induction fs with
  | nil => simp [place]
  | cons g gs ih => grind [place]

theorem pairwise_place {e : PlannedLaunch} {fs : List PlannedLaunch}
    (h : fs.Pairwise (fun a b => a.instant ≤ b.instant)) :
    (place e fs).Pairwise (fun a b => a.instant ≤ b.instant) := by
  induction fs with
  | nil => simp [place]
  | cons f fs ih =>
    obtain ⟨hf, hfs⟩ := List.pairwise_cons.1 h
    rw [place]
    split
    · next hle =>
      refine List.pairwise_cons.2 ⟨fun g hg => ?_, ih hfs⟩
      rcases mem_place.1 hg with rfl | hg
      · exact hle
      · exact hf g hg
    · next hle =>
      have hlt := Instant.le_of_not_le hle
      refine List.pairwise_cons.2 ⟨fun g hg => ?_, h⟩
      rcases List.mem_cons.1 hg with rfl | hg
      · exact hlt
      · exact Instant.le_trans hlt (hf g hg)

theorem nodup_place {e : PlannedLaunch} {fs : List PlannedLaunch} (he : e ∉ fs) (h : fs.Nodup) :
    (place e fs).Nodup := by
  induction fs with
  | nil => simp [place]
  | cons f fs ih =>
    obtain ⟨hf, hfs⟩ := List.nodup_cons.1 h
    have hef : e ≠ f ∧ e ∉ fs := by simpa using he
    rw [place]
    split
    · exact List.nodup_cons.2 ⟨by simp [hf, hef.1.symm], ih hef.2 hfs⟩
    · exact List.nodup_cons.2 ⟨he, h⟩

/-- The lookahead with one more launch, unless it is planned already. -/
def add (l : Lookahead) (e : PlannedLaunch) : Lookahead :=
  if h : e ∈ l.entries then l
  else ⟨place e l.entries, pairwise_place l.ascending, nodup_place h l.nodup⟩

@[simp] theorem mem_add {l : Lookahead} {e f : PlannedLaunch} : f ∈ l.add e ↔ f = e ∨ f ∈ l := by
  rw [add]
  split
  · next h => exact ⟨.inr, fun h' => h'.elim (fun h' => h' ▸ h) id⟩
  · exact mem_place

/-! ### Adding many -/

/-- Launches of a schedule at ascending instants among others: each stands behind all that are not
later, unless it is there already. -/
def merge (scheduleId : Int) : List PlannedLaunch → List Instant → List PlannedLaunch
  | fs, [] => fs
  | [], is => is.map (⟨·, scheduleId⟩)
  | f :: fs, i :: is =>
    if f = ⟨i, scheduleId⟩ then f :: merge scheduleId fs is
    else if f.instant ≤ i then f :: merge scheduleId fs (i :: is)
    else ⟨i, scheduleId⟩ :: merge scheduleId (f :: fs) is
termination_by fs is => fs.length + is.length

theorem mem_merge {scheduleId : Int} {fs : List PlannedLaunch} {is : List Instant}
    {e : PlannedLaunch} :
    e ∈ merge scheduleId fs is ↔ (e.scheduleId = scheduleId ∧ e.instant ∈ is) ∨ e ∈ fs := by
  obtain ⟨j, s⟩ := e
  fun_induction merge scheduleId fs is <;> grind

theorem pairwise_merge {scheduleId : Int} {fs : List PlannedLaunch} {is : List Instant}
    (hf : fs.Pairwise (fun a b => a.instant ≤ b.instant)) (hi : is.Pairwise (· < ·)) :
    (merge scheduleId fs is).Pairwise (fun a b => a.instant ≤ b.instant) := by
  fun_induction merge scheduleId fs is with
  | case1 => exact hf
  | case2 is => exact List.pairwise_map.2 (hi.imp Instant.le_of_lt)
  | case3 fs i is ih =>
    obtain ⟨hf, hfs⟩ := List.pairwise_cons.1 hf
    obtain ⟨hi, his⟩ := List.pairwise_cons.1 hi
    refine List.pairwise_cons.2 ⟨fun g hg => ?_, ih hfs his⟩
    rcases mem_merge.1 hg with hg | hg
    · exact Instant.le_of_lt (hi _ hg.2)
    · exact hf g hg
  | case4 f fs i is _ hle ih =>
    obtain ⟨hf, hfs⟩ := List.pairwise_cons.1 hf
    refine List.pairwise_cons.2 ⟨fun g hg => ?_, ih hfs hi⟩
    rcases mem_merge.1 hg with ⟨_, hg⟩ | hg
    · rcases List.mem_cons.1 hg with hg | hg
      · exact hg ▸ hle
      · exact Instant.le_trans hle (Instant.le_of_lt ((List.pairwise_cons.1 hi).1 _ hg))
    · exact hf g hg
  | case5 f fs i is _ hle ih =>
    have hle := Instant.le_of_not_le hle
    refine List.pairwise_cons.2 ⟨fun g hg => ?_, ih hf (List.pairwise_cons.1 hi).2⟩
    rcases mem_merge.1 hg with ⟨_, hg⟩ | hg
    · exact Instant.le_of_lt ((List.pairwise_cons.1 hi).1 _ hg)
    · rcases List.mem_cons.1 hg with rfl | hg
      · exact hle
      · exact Instant.le_trans hle ((List.pairwise_cons.1 hf).1 g hg)

theorem nodup_merge {scheduleId : Int} {fs : List PlannedLaunch} {is : List Instant}
    (hf : fs.Pairwise (fun a b => a.instant ≤ b.instant)) (hn : fs.Nodup)
    (hi : is.Pairwise (· < ·)) : (merge scheduleId fs is).Nodup := by
  fun_induction merge scheduleId fs is with
  | case1 => exact hn
  | case2 is =>
    refine List.pairwise_map.2 (hi.imp fun {a b} h => ?_)
    intro h'
    cases h'
    exact Instant.lt_irrefl a h
  | case3 fs i is ih =>
    obtain ⟨hi, his⟩ := List.pairwise_cons.1 hi
    obtain ⟨hn, hns⟩ := List.nodup_cons.1 hn
    refine List.nodup_cons.2 ⟨fun hg => ?_, ih (List.pairwise_cons.1 hf).2 hns his⟩
    rcases mem_merge.1 hg with hg | hg
    · exact Instant.lt_irrefl _ (hi _ hg.2)
    · exact hn hg
  | case4 f fs i is hne hle ih =>
    obtain ⟨hn, hns⟩ := List.nodup_cons.1 hn
    refine List.nodup_cons.2 ⟨fun hg => ?_, ih (List.pairwise_cons.1 hf).2 hns hi⟩
    rcases mem_merge.1 hg with ⟨hs, hg⟩ | hg
    · rcases List.mem_cons.1 hg with hg | hg
      · exact hne (by cases f; simp_all)
      · exact Instant.lt_irrefl _
          (Instant.lt_of_le_of_lt hle ((List.pairwise_cons.1 hi).1 _ hg))
    · exact hn hg
  | case5 f fs i is hne hle ih =>
    obtain ⟨hi, his⟩ := List.pairwise_cons.1 hi
    refine List.nodup_cons.2 ⟨fun hg => ?_, ih hf hn his⟩
    rcases mem_merge.1 hg with hg | hg
    · exact Instant.lt_irrefl _ (hi _ hg.2)
    · rcases List.mem_cons.1 hg with hg | hg
      · exact hne hg.symm
      · exact hle ((List.pairwise_cons.1 hf).1 _ hg)

/-- The lookahead with the launches of a schedule at ascending instants. -/
def addAll (l : Lookahead) (scheduleId : Int) (instants : List Instant)
    (ascending : instants.Pairwise (· < ·)) : Lookahead where
  entries := merge scheduleId l.entries instants
  ascending := pairwise_merge l.ascending ascending
  nodup := nodup_merge l.ascending l.nodup ascending

theorem mem_addAll {l : Lookahead} {scheduleId : Int} {instants : List Instant}
    {ascending : instants.Pairwise (· < ·)} {e : PlannedLaunch} :
    e ∈ l.addAll scheduleId instants ascending ↔
      (e.scheduleId = scheduleId ∧ e.instant ∈ instants) ∨ e ∈ l := mem_merge

/-! ### Removing -/

/-- The launches that fulfil a condition. -/
def filter (l : Lookahead) (p : PlannedLaunch → Bool) : Lookahead :=
  ⟨l.entries.filter p, l.ascending.filter p, l.nodup.filter p⟩

@[simp] theorem mem_filter {l : Lookahead} {p : PlannedLaunch → Bool} {e : PlannedLaunch} :
    e ∈ l.filter p ↔ e ∈ l ∧ p e := List.mem_filter

/-- Whether a launch comes before the first instant after `now`, a nanosecond later. After the last
fraction of a second this is the next whole second, so that a leap second between the two is due. -/
def isDue (now : Instant) (e : PlannedLaunch) : Bool := e.instant < now.addNanos 1

/-- The launches that are due, by instant and then by schedule. -/
def due (l : Lookahead) (now : Instant) : List PlannedLaunch :=
  (l.entries.filter (isDue now)).mergeSort PlannedLaunch.isBefore

/-- What remains once the due launches are taken out. -/
def dropDue (l : Lookahead) (now : Instant) : Lookahead := l.filter fun e => !isDue now e

/-- What remains once all launches after the reference are taken out. -/
def dropAfter (l : Lookahead) (reference : Instant) : Lookahead := l.filter (isDue reference)

theorem mem_due {l : Lookahead} {now : Instant} {e : PlannedLaunch} :
    e ∈ l.due now ↔ e ∈ l ∧ isDue now e := by
  rw [due, List.mem_mergeSort, List.mem_filter, mem_entries]

end Lookahead

end FlowScheduler
