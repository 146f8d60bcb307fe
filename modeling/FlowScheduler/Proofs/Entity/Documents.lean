import Mathlib
import FlowScheduler.Entity.Codec
import FlowScheduler.Proofs.Calendar.Timestamp

/-!
Entities survive being printed.

A document may leave out fields that have defaults, have further ones and give them in any order, and still
denotes an entity; what is written for the entity has every field. A decoder undoes the writing of all that it
can make of any document (`RoundTrips`). This passes from values to options, lists and fields, with or without a
default, and so to records; every entity is a record of fields for which it is known. A task shares its record
with its kind, whose fields are those that are not the task's own.
-/

namespace FlowScheduler

namespace Document.Decode

variable {α : Type} {d : Decoder α} {e : α → Value} {name : String} {s : Slots} {a default : α}

/-- Whether all that a decoder makes of documents is read back from what is written for it. -/
def RoundTrips (d : Decoder α) (e : α → Value) : Prop := ∀ v a, d v = some a → d (e a) = some a

/-! ### Values -/

@[simp] theorem bool_bool (b : Bool) : bool (.bool b) = some b := rfl

@[simp] theorem text_text (s : String) : text (.text s) = some s := rfl

theorem roundTrips_text : RoundTrips text .text := fun _ s _ => text_text s

theorem integerIn_eq_some {low high n : Int} {v : Value} (h : integerIn low high v = some n) :
    v = .integer n ∧ low ≤ n ∧ n ≤ high := by
  cases v with
  | integer m =>
    rw [integerIn] at h
    split at h
    · next hbounds =>
      cases h
      exact ⟨rfl, hbounds⟩
    · cases h
  | _ => cases h

theorem roundTrips_integerIn (low high : Int) : RoundTrips (integerIn low high) .integer := fun v n h => by
  obtain ⟨rfl, -⟩ := integerIn_eq_some h
  exact h

theorem roundTrips_int64 : RoundTrips int64 .integer := roundTrips_integerIn _ _

theorem roundTrips_int32 : RoundTrips int32 .integer := roundTrips_integerIn _ _

theorem roundTrips_natIn (high : Int) :
    RoundTrips (fun v => (integerIn 0 high v).map Int.toNat) fun n => .integer n := fun v n h => by
  obtain ⟨m, hm, rfl⟩ := Option.map_eq_some_iff.1 h
  obtain ⟨rfl, hnonneg, -⟩ := integerIn_eq_some hm
  simp only [Int.toNat_of_nonneg hnonneg]
  exact h

theorem roundTrips_nat64 : RoundTrips nat64 fun n => .integer n := roundTrips_natIn _

theorem roundTrips_nat32 : RoundTrips nat32 fun n => .integer n := roundTrips_natIn _

theorem roundTrips_instant : RoundTrips instant .ofInstant := fun v i h => by
  obtain ⟨s, -, hs⟩ := Option.bind_eq_some_iff.1 h
  have hback := (Instant.isShown_of_ofText? hs).ofText?_toText
  rw [instant, Value.ofInstant, text_text, Option.bind_some, hback]

theorem RoundTrips.option (h : RoundTrips d e) (hnull : ∀ a, e a ≠ .null) :
    RoundTrips (option d) (.ofOption e) := fun v a hv => by
  cases a with
  | none => rfl
  | some a =>
    have hd : d (e a) = some a := by
      rw [Decode.option.eq_def] at hv
      split at hv
      · cases hv
      · obtain ⟨a', ha', heq⟩ := Option.map_eq_some_iff.1 hv
        cases heq
        exact h _ _ ha'
    rw [Value.ofOption, Decode.option]
    · rw [hd, Option.map_some]
    · exact hnull a

theorem RoundTrips.mapM (h : RoundTrips d e) {vs : List Value} {as : List α} (hvs : vs.mapM d = some as) :
    (as.map e).mapM d = some as := by
  induction vs generalizing as with
  | nil =>
    cases hvs
    rfl
  | cons v vs ih =>
    simp only [List.mapM_cons, Option.bind_eq_bind, Option.bind_eq_some_iff, Option.pure_def,
      Option.some.injEq] at hvs
    obtain ⟨a, ha, as, has, rfl⟩ := hvs
    rw [List.map_cons, List.mapM_cons, h v a ha, ih has]
    rfl

theorem RoundTrips.list (h : RoundTrips d e) : RoundTrips (list d) fun as => .list (as.map e) := fun v as hv => by
  cases v with
  | list vs => exact h.mapM hv
  | _ => cases hv

theorem list_text_ofTexts (ss : List String) : list text (.ofTexts ss) = some ss :=
  calc (ss.map Value.text).mapM text
    _ = ss.mapM (pure ·) := List.mapM_map
    _ = some ss := by rw [List.mapM_pure, List.map_id', Option.pure_def]

theorem listDepth_texts (ss : List String) : Value.listDepth (ss.map .text) = 0 := by
  induction ss with
  | nil => rfl
  | cons s ss ih => simp [Value.listDepth, Value.depth, ih]

theorem listAll_texts {p : Value → Bool} (h : ∀ s, p (.text s)) (ss : List String) :
    Value.listAll p (ss.map .text) := by
  induction ss with
  | nil => rfl
  | cons s ss ih => simp [Value.listAll, Value.all, h, ih]

/-! ### Fields -/

/-- What is read from a field is read back, in whatever document the field stood. -/
theorem RoundTrips.of_need (h : RoundTrips d e) (hneed : s.need name d = some a) : d (e a) = some a := by
  obtain ⟨v, -, hv⟩ := Option.bind_eq_some_iff.1 hneed
  exact h v a hv

/-- A default takes the place of a missing field, so it must be read back itself. -/
theorem RoundTrips.of_get (h : RoundTrips d e) (hdefault : d (e default) = some default)
    (hget : s.get name d default = some a) : d (e a) = some a := by
  rw [Slots.get] at hget
  split at hget
  · exact h _ _ hget
  · cases hget
    exact hdefault

/-! ### Records -/

variable {fields : List (String × Value)} {names : List String}

/-- In a record that repeats no name, the only value under a name is the first. -/
theorem unique?_eq_lookup (h : (fields.map Prod.fst).Nodup) : unique? name fields = some (fields.lookup name) := by
  induction fields with
  | nil => rfl
  | cons f fields ih =>
    obtain ⟨n, v⟩ := f
    rw [List.map_cons, List.nodup_cons] at h
    by_cases hname : n = name
    · subst hname
      have hrest : fields.filter (·.1 == n) = [] := by
        rw [List.filter_eq_nil_iff]
        intro f hf hn
        exact h.1 (List.mem_map.2 ⟨f, hf, eq_of_beq hn⟩)
      simp [unique?, hrest]
    · have hother : unique? name ((n, v) :: fields) = unique? name fields := by
        simp [unique?, hname]
      rw [hother, ih h.2, List.lookup_cons, beq_false_of_ne (Ne.symm hname)]

namespace Slots

/-- The values of known fields of a record without repeated names. -/
def ofFields (names : List String) (fields : List (String × Value)) : Slots :=
  ⟨names.map fun n => (n, fields.lookup n), false⟩

theorem value?_ofFields (h : name ∈ names) : (ofFields names fields).value? name = fields.lookup name := by
  rw [value?, ofFields]
  induction names with
  | nil => cases h
  | cons n names ih =>
    rw [List.map_cons, List.lookup_cons]
    by_cases hname : name = n
    · subst hname
      rw [beq_self_eq_true]
      rfl
    · rw [beq_false_of_ne hname]
      exact ih ((List.mem_cons.1 h).resolve_left hname)

@[simp] theorem need_ofFields (h : name ∈ names) :
    (ofFields names fields).need name d = (fields.lookup name).bind d := by
  rw [need, value?_ofFields h]

@[simp] theorem get_ofFields (h : name ∈ names) :
    (ofFields names fields).get name d default = ((fields.lookup name).map d).getD (some default) := by
  rw [get, value?_ofFields h]
  cases fields.lookup name with
  | none => rfl
  | some v => rfl

end Slots

theorem recordSlots_eq_ofFields (h : (fields.map Prod.fst).Nodup) (names : List String) :
    recordSlots names fields = some (.ofFields names fields) := by
  have hvalues : (fun n => (unique? n fields).map (n, ·)) = fun n => pure (n, fields.lookup n) := by
    funext n
    rw [unique?_eq_lookup h, Option.map_some, Option.pure_def]
  rw [recordSlots, hvalues, List.mapM_pure, Option.pure_def, Option.map_some, Slots.ofFields]

theorem slots_record {format : Format} (h : (fields.map Prod.fst).Nodup) (names : List String) :
    slots format names (.record fields) = some (.ofFields names fields) :=
  recordSlots_eq_ofFields h names

end Document.Decode

open Document Decode

variable {format : Format}

/-! ### Agents -/

theorem Agent.roundTrips : RoundTrips (ofValue? format) toValue := fun v a h => by
  simp only [ofValue?, Option.bind_eq_bind, Option.bind_eq_some_iff, Option.pure_def, Option.some.injEq] at h
  obtain ⟨s, -, id, hid, host, -, apiKey, -, cert, hcert, insecure, -, deleted, -, rfl⟩ := h
  have hid := roundTrips_int64.of_need hid
  have hcert := (roundTrips_text.option nofun).of_get rfl hcert
  rw [ofValue?, toValue, slots_record (by simp)]
  simp [List.lookup_cons, hid, hcert]

/-! ### Queues -/

theorem Queue.roundTrips : RoundTrips (ofValue? format) toValue := fun v q h => by
  simp only [ofValue?, Option.bind_eq_bind, Option.bind_eq_some_iff, Option.pure_def, Option.some.injEq] at h
  obtain ⟨s, -, id, hid, name, -, slot, hslot, maxSize, hsize, maxDuration, hduration, paused, -, since, hsince,
    noExecWhile, hexclusive, rfl⟩ := h
  have hid := roundTrips_int64.of_need hid
  have hslot := roundTrips_int32.of_get (by decide) hslot
  have hsize := roundTrips_int32.of_get (by decide) hsize
  have hduration := roundTrips_int64.of_get (by decide) hduration
  have hsince := (roundTrips_instant.option nofun).of_get rfl hsince
  have hexclusive := roundTrips_int64.list.of_get rfl hexclusive
  rw [ofValue?, toValue, slots_record (by simp)]
  simp [List.lookup_cons, Value.ofIntegers, hid, hslot, hsize, hduration, hsince, hexclusive]

/-! ### Schedules -/

theorem RuleDefinition.roundTrips : RoundTrips (ofValue? format) toValue := fun v r h => by
  simp only [ofValue?, Option.bind_eq_bind, Option.bind_eq_some_iff, Option.pure_def, Option.some.injEq] at h
  obtain ⟨s, -, interval, hinterval, hours, -, fixed, -, months, -, weekDays, -, monthDays, -, rfl⟩ := h
  have hinterval := roundTrips_int64.of_get (by decide) hinterval
  rw [ofValue?, toValue, slots_record (by simp)]
  simp [List.lookup_cons, hinterval]

theorem Schedule.roundTrips : RoundTrips (ofValue? format) toValue := fun v s h => by
  simp only [ofValue?, Option.bind_eq_bind, Option.bind_eq_some_iff, Option.pure_def, Option.some.injEq] at h
  obtain ⟨s, -, id, hid, name, -, timeZone, -, rules, hrules, rfl⟩ := h
  have hid := roundTrips_int64.of_need hid
  have hrules := RuleDefinition.roundTrips.list.of_get rfl hrules
  rw [ofValue?, toValue, slots_record (by simp)]
  simp [List.lookup_cons, hid, hrules]

/-! ### Runs that ended -/

theorem RunResult.ofValue?_code (r : RunResult) : ofValue? (.integer r.code) = some r := by
  cases r with
  | unknown | ok | fail => rfl

theorem RunOutcome.roundTrips : RoundTrips (ofValue? format) toValue := fun v o h => by
  simp only [ofValue?, Option.bind_eq_bind, Option.bind_eq_some_iff, Option.pure_def, Option.some.injEq] at h
  obtain ⟨s, -, started, hstarted, stopped, hstopped, result, -, message, -, rfl⟩ := h
  have hstarted := (roundTrips_instant.option nofun).of_get rfl hstarted
  have hstopped := (roundTrips_instant.option nofun).of_get rfl hstopped
  rw [ofValue?, toValue, slots_record (by simp)]
  simp [List.lookup_cons, hstarted, hstopped, RunResult.ofValue?_code]

/-! ### Task flows -/

namespace NextStep

/-- Among the numbers of 32 bits none wraps around. -/
theorem code_of_ofCode? {n : Int} {p : NextStep} (hlow : -Word.int32End ≤ n) (hlt : n < Word.int32End)
    (h : ofCode? n = some p) : p.code = n := by
  rw [ofCode?] at h
  split at h
  · next hfail =>
    cases h
    exact hfail.symm
  · split at h
    · next hnext =>
      cases h
      exact hnext.symm
    · split at h
      · next hpos =>
        cases h
        have hindex : ((n.toNat : Nat) : Int) = n := Int.toNat_of_nonneg (Int.le_of_lt hpos)
        rw [code, hindex, Word.wrapInt32_of_bounds hlow hlt]
      · cases h

theorem roundTrips : RoundTrips ofValue? fun p => .integer p.code := fun v p h => by
  obtain ⟨n, hn, hp⟩ := Option.bind_eq_some_iff.1 h
  obtain ⟨rfl, hlow, hle⟩ := integerIn_eq_some hn
  change ofValue? (.integer p.code) = some p
  rw [code_of_ofCode? hlow (Int.lt_of_le_sub_one hle) hp]
  exact h

end NextStep

theorem TaskFlowStep.roundTrips : RoundTrips (ofValue? format) toValue := fun v s h => by
  simp only [ofValue?, Option.bind_eq_bind, Option.bind_eq_some_iff, Option.pure_def, Option.some.injEq] at h
  obtain ⟨s, -, index, hindex, taskId, htask, onOk, hok, onFail, hfail, retry, hretry, rfl⟩ := h
  have hindex := roundTrips_nat64.of_need hindex
  have htask := roundTrips_int64.of_need htask
  have hok := NextStep.roundTrips.of_get rfl hok
  have hfail := NextStep.roundTrips.of_get rfl hfail
  have hretry := roundTrips_nat32.of_get (by decide) hretry
  rw [ofValue?, toValue, slots_record (by simp)]
  simp [List.lookup_cons, hindex, htask, hok, hfail, hretry]

namespace NamedArgs

variable {es : List (String × String)} {name value : String}

/-- An entry whose name is greater than all others becomes the last. -/
theorem insert_eq_append (h : ∀ e ∈ es, e.1 < name) : Entries.insert name value es = es ++ [(name, value)] := by
  induction es with
  | nil => rfl
  | cons e es ih =>
    obtain ⟨hlt, hrest⟩ := List.forall_mem_cons.1 h
    rw [Entries.insert, if_neg (lt_asymm hlt), if_neg hlt.ne', ih hrest, List.cons_append]

/-- Inserted in their order, entries stay as they are behind those before them. -/
theorem foldl_insert_of_pairwise (args : NamedArgs) (h : (args.entries ++ es).Pairwise fun e f => e.1 < f.1) :
    (es.foldl (fun args (n, v) => args.insert n v) args).entries = args.entries ++ es := by
  induction es generalizing args with
  | nil => rw [List.append_nil, List.foldl_nil]
  | cons e es ih =>
    obtain ⟨name, value⟩ := e
    have hlast : ∀ f ∈ args.entries, f.1 < name := fun f hf =>
      (List.pairwise_append.1 h).2.2 f hf (name, value) List.mem_cons_self
    have hinsert : (args.insert name value).entries = args.entries ++ [(name, value)] := insert_eq_append hlast
    rw [List.append_cons, ← hinsert] at h ⊢
    exact ih _ h

theorem ofList_entries (args : NamedArgs) : ofList args.entries = args :=
  NamedArgs.ext (foldl_insert_of_pairwise ∅ args.ascending)

theorem texts_toValue (args : NamedArgs) : texts args.toValue = some args.entries :=
  calc texts args.toValue
    _ = args.entries.mapM (pure ·) := List.mapM_map
    _ = some args.entries := by rw [List.mapM_pure, List.map_id', Option.pure_def]

theorem roundTrips : RoundTrips ofValue? toValue := fun v args h => by
  rw [ofValue?, texts_toValue, Option.map_some, ofList_entries]

end NamedArgs

theorem TaskFlow.roundTrips : RoundTrips (ofValue? format) toValue := fun v f h => by
  simp only [ofValue?, Option.bind_eq_bind, Option.bind_eq_some_iff, Option.pure_def, Option.some.injEq] at h
  obtain ⟨s, -, id, hid, name, -, tags, htags, namedArgs, hargs, active, -, manual, -, schedule, hschedule, errors,
    herrors, queue, hqueue, lastRun, hrun, steps, hsteps, rfl⟩ := h
  have hid := roundTrips_int64.of_need hid
  have htags := roundTrips_int64.list.of_get rfl htags
  have hargs := NamedArgs.roundTrips.of_get rfl hargs
  have hschedule := roundTrips_int64.of_get (by decide) hschedule
  have herrors := roundTrips_int32.of_get (by decide) herrors
  have hqueue := roundTrips_int64.of_get (by decide) hqueue
  have hrun := RunOutcome.roundTrips.of_get rfl hrun
  have hsteps := TaskFlowStep.roundTrips.list.of_get rfl hsteps
  rw [ofValue?, toValue, slots_record (by simp)]
  simp [List.lookup_cons, Value.ofIntegers, hid, htags, hargs, hschedule, herrors, hqueue, hrun, hsteps]

/-! ### Tasks -/

namespace TaskKind

theorem ofFields?_toFields (k : TaskKind) : ofFields? format k.toFields = some k := by
  cases k with
  | command cmd args startIn =>
    have hargs : list text (.ofTexts args) = some args := list_text_ofTexts args
    rw [ofFields?, toFields, unique?_eq_lookup (by simp), recordSlots_eq_ofFields (by simp)]
    simp [List.lookup_cons, hargs]
  | urlCheck url =>
    rw [ofFields?, toFields, unique?_eq_lookup (by simp)]
    simp [List.lookup_cons, recordSlots_eq_ofFields]

theorem fieldsDepth_toFields (k : TaskKind) : Value.fieldsDepth k.toFields ≤ 1 := by
  cases k with
  | command cmd args startIn =>
    simp [toFields, Value.fieldsDepth, Value.depth, Value.ofTexts, listDepth_texts]
  | urlCheck url => simp [toFields, Value.fieldsDepth, Value.depth]

theorem all_isSound_toFields (k : TaskKind) : k.toFields.all (·.2.isSound) := by
  cases k with
  | command cmd args startIn =>
    simp [toFields, Value.isSound, Value.all, Value.ofTexts, listAll_texts]
  | urlCheck url => simp [toFields, Value.isSound, Value.all]

end TaskKind

namespace Task

variable {t : Task} {fields : List (String × Value)}

theorem nodup_of_toValue (h : t.toValue = .record fields) : (fields.map Prod.fst).Nodup := by
  cases h
  cases t.kind with
  | command cmd args startIn => simp [TaskKind.toFields]
  | urlCheck url => simp [TaskKind.toFields]

/-- The fields of a task that are not its own are those of its kind. -/
theorem others_of_toValue (h : t.toValue = .record fields) :
    fields.filter (fun f => !fieldNames.contains f.1) = t.kind.toFields := by
  cases h
  cases t.kind with
  | command cmd args startIn => simp [TaskKind.toFields, fieldNames]
  | urlCheck url => simp [TaskKind.toFields, fieldNames]

/-- The fields of a kind do not hide those of the task. -/
theorem lookup_of_toValue (h : t.toValue = .record fields) :
    fields.lookup "id" = some (.integer t.id) ∧ fields.lookup "name" = some (.text t.name) ∧
      fields.lookup "timeout_ms" = some (.integer t.timeoutMs) ∧
        fields.lookup "log_store" = some (.text t.logStore) ∧
          fields.lookup "exec_on" = some (.ofIntegers t.execOn) := by
  cases h
  cases t.kind with
  | command cmd args startIn => simp [TaskKind.toFields, List.lookup_cons]
  | urlCheck url => simp [TaskKind.toFields, List.lookup_cons]

theorem roundTrips {outer : Nat} (houter : outer + 2 ≤ maxDepth) :
    RoundTrips (ofValue? format outer) toValue := fun v t h => by
  cases v with
  | record fields =>
    simp only [ofValue?, Option.bind_eq_bind, Option.bind_eq_some_iff, Option.pure_def, Option.bind_none] at h
    obtain ⟨s, -, h⟩ := h
    split at h
    · cases h
    · split at h
      · cases h
      · simp only [Option.bind_eq_some_iff, Option.some.injEq] at h
        obtain ⟨id, hid, name, -, kind, -, timeout, htimeout, logStore, -, execOn, hexec, ht⟩ := h
        have hid := roundTrips_int64.of_need hid
        have htimeout := roundTrips_nat64.of_get (by decide) htimeout
        have hexec := roundTrips_int64.list.of_get rfl hexec
        obtain ⟨written, hwritten⟩ : ∃ written, t.toValue = .record written := ⟨_, rfl⟩
        obtain ⟨hgetId, hgetName, hgetTimeout, hgetStore, hgetExec⟩ := lookup_of_toValue hwritten
        -- Nothing that is written for a kind nests deeper than the arguments of a command.
        have hdepth : ¬(format = .json ∧ maxDepth < outer + 1 + Value.fieldsDepth t.kind.toFields) := by
          have := t.kind.fieldsDepth_toFields
          omega
        rw [hwritten, ofValue?, recordSlots_eq_ofFields (nodup_of_toValue hwritten), others_of_toValue hwritten]
        cases ht
        simp [fieldNames, hdepth, TaskKind.all_isSound_toFields, TaskKind.ofFields?_toFields, hgetId, hgetName,
          hgetTimeout, hgetStore, hgetExec, Value.ofIntegers, hid, htimeout, hexec]
  | _ => cases h

end Task

/-! ### Entities -/

/-- Whatever entity a JSON document denotes, the document that is written for the entity denotes it too. -/
theorem entities_roundTrip :
    RoundTrips (Agent.ofValue? .json) Agent.toValue ∧ RoundTrips (Task.ofValue? .json 0) Task.toValue ∧
      RoundTrips (Queue.ofValue? .json) Queue.toValue ∧ RoundTrips (TaskFlow.ofValue? .json) TaskFlow.toValue ∧
        RoundTrips (Schedule.ofValue? .json) Schedule.toValue :=
  ⟨Agent.roundTrips, Task.roundTrips (by decide), Queue.roundTrips, TaskFlow.roundTrips, Schedule.roundTrips⟩

/-- Documents in another order, with unknown fields and without most of those that have defaults. -/
theorem entities_roundTrip_sparse :
    (Agent.ofValue? .json (.record [("api_key", .text "k"), ("zone", .null), ("host", .text "h"), ("id", .integer 7)]) =
        some { id := 7, host := "h", apiKey := "k" } ∧
      Agent.ofValue? .json (Agent.toValue { id := 7, host := "h", apiKey := "k" }) =
        some { id := 7, host := "h", apiKey := "k" }) ∧
    (Task.ofValue? .json 0 (.record [("cmd", .text "make"), ("name", .text "build"), ("nice", .bool true),
          ("kind", .text "command"), ("exec_on", .list [.integer 1]), ("id", .integer 3)]) =
        some { id := 3, name := "build", kind := .command "make" [] "", execOn := [1] } ∧
      Task.ofValue? .json 0
          (Task.toValue { id := 3, name := "build", kind := .command "make" [] "", execOn := [1] }) =
        some { id := 3, name := "build", kind := .command "make" [] "", execOn := [1] }) ∧
    (Queue.ofValue? .json (.record [("paused_since", .text "2017-01-01t02:59:60.50+03:00"), ("id", .integer 2),
          ("name", .text "q")]) =
        some { id := 2, name := "q", pausedSince := some { second := 1483228799, nanos := 1500000000 } } ∧
      Queue.ofValue? .json (Queue.toValue
          { id := 2, name := "q", pausedSince := some { second := 1483228799, nanos := 1500000000 } }) =
        some { id := 2, name := "q", pausedSince := some { second := 1483228799, nanos := 1500000000 } }) ∧
    (TaskFlow.ofValue? .json (.record [("name", .text "f"), ("last_run", .record [("result", .integer (-1))]),
          ("named_args", .record [("b", .text "x"), ("a", .text "y"), ("b", .text "z")]),
          ("steps", .list [.record [("task_id", .integer 3), ("next_on_ok", .integer 2), ("index", .integer 1)]]),
          ("id", .integer 5)]) =
        some { id := 5, name := "f", namedArgs := .ofList [("a", "y"), ("b", "z")], lastRun := { result := .fail },
               steps := [{ index := 1, taskId := 3, nextOnOk := .goto 2 }] } ∧
      TaskFlow.ofValue? .json (TaskFlow.toValue
          { id := 5, name := "f", namedArgs := .ofList [("a", "y"), ("b", "z")], lastRun := { result := .fail },
            steps := [{ index := 1, taskId := 3, nextOnOk := .goto 2 }] }) =
        some { id := 5, name := "f", namedArgs := .ofList [("a", "y"), ("b", "z")], lastRun := { result := .fail },
               steps := [{ index := 1, taskId := 3, nextOnOk := .goto 2 }] }) ∧
    (Schedule.ofValue? .json (.record [("rules", .list [.record [("hours", .text "08:00:00")]]),
          ("name", .text "s"), ("id", .integer 4)]) =
        some { id := 4, name := "s", rules := [{ hours := "08:00:00" }] } ∧
      Schedule.ofValue? .json (Schedule.toValue { id := 4, name := "s", rules := [{ hours := "08:00:00" }] }) =
        some { id := 4, name := "s", rules := [{ hours := "08:00:00" }] }) := by
  obtain ⟨hagents, htasks, hqueues, hflows, hschedules⟩ := entities_roundTrip
  refine ⟨⟨?agent, hagents _ _ ?agent⟩, ⟨?task, htasks _ _ ?task⟩, ⟨?queue, hqueues _ _ ?queue⟩,
    ⟨?flow, hflows _ _ ?flow⟩, ⟨?schedule, hschedules _ _ ?schedule⟩⟩
  case agent => decide +kernel
  case task => decide +kernel
  case queue => decide +kernel
  case flow => decide +kernel
  case schedule => decide +kernel

end FlowScheduler
