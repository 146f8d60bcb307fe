import Mathlib
import FlowScheduler.Proofs.Dispatch.QueueSync
import FlowScheduler.Repository.InMemory

/-!
The cache as the image of the definitions that a source lists.

Of an entity the cache keeps its cached form (`Entity.cached?`): queues normalised, and schedules compiled
if they can be. A refresh that succeeds puts the cached forms of what it asked for in the place of what
stood there, and touches nothing else (`Cache.TakesIn`). The links are those of the cached flows and
schedules after every sequence of refreshes (`Cache.LinksBound`), and so a cache is determined by its
entities. Both come together in `Cache.refresh_takesIn`.
-/

namespace FlowScheduler

/-! ### Entities and their cached forms -/

/-- What a cache keeps of an entity. -/
inductive CachedEntity where
  | agent (a : Agent)
  | task (t : Task)
  | queue (q : Queue)
  | flow (f : TaskFlow)
  | schedule (s : CompiledSchedule)

namespace Entity

/-- The id of an entity within its kind. -/
def id : Entity → Int
  | agent a => a.id
  | task t => t.id
  | queue q => q.id
  | flow f => f.id
  | schedule s => s.id

/-- What is cached of an entity; nothing, if it is a schedule that cannot be compiled. -/
def cached? : Entity → Option CachedEntity
  | agent a => some (.agent a)
  | task t => some (.task t)
  | queue q => some (.queue q.normalize)
  | flow f => some (.flow f)
  | schedule s => s.compile.toOption.map .schedule

end Entity

namespace Definitions

/-- The entities of a kind. -/
def entities (d : Definitions) : EntityKind → List Entity
  | .agent => d.agents.map .agent
  | .task => d.tasks.map .task
  | .taskFlow => d.flows.map .flow
  | .queue => d.queues.map .queue
  | .schedule => d.schedules.map .schedule

/-- Whether no two entities of a kind have one id. -/
def HasUniqueIds (d : Definitions) : Prop := ∀ kind, ((d.entities kind).map (·.id)).Nodup

/-- Whether this is the cached form of the entity of a kind with an id. -/
def Shows (d : Definitions) (kind : EntityKind) (id : Int) (x : CachedEntity) : Prop :=
  ∃ e ∈ d.entities kind, e.id = id ∧ e.cached? = some x

end Definitions

namespace EntitySource

/-- What a source answers when all entities of a kind are read, or those with an id. -/
def entities (source : EntitySource) (kind : EntityKind) (id : Option Int) :
    Except SchedulerError (List Entity) :=
  match kind with
  | .agent => (source.agents id).map (·.map .agent)
  | .task => (source.tasks id).map (·.map .task)
  | .taskFlow => (source.flows id).map (·.map .flow)
  | .queue => (source.queues id).map (·.map .queue)
  | .schedule => (source.schedules id).map (·.map .schedule)

/-- Whether a reading gives the defined entities that it asks for, unless it fails. -/
def Lists (source : EntitySource) (d : Definitions) : Prop :=
  ∀ kind only es, source.entities kind only = .ok es →
    ∀ e, e ∈ es ↔ e ∈ d.entities kind ∧ only.all (· == e.id)

end EntitySource

namespace Definitions

/-- Selecting and wrapping commute. -/
theorem mem_map_select {α : Type} {key : α → Int} {wrap : α → Entity} (hkey : ∀ a, (wrap a).id = key a)
    (only : Option Int) (as : List α) (e : Entity) :
    e ∈ (select key only as).map wrap ↔ e ∈ as.map wrap ∧ only.all (· == e.id) := by
  simp only [select, List.mem_map, List.mem_filter]
  constructor
  · rintro ⟨a, ⟨ha, honly⟩, rfl⟩
    exact ⟨⟨a, ha, rfl⟩, by simpa [hkey] using honly⟩
  · rintro ⟨⟨a, ha, rfl⟩, honly⟩
    exact ⟨a, ⟨ha, by simpa [hkey] using honly⟩, rfl⟩

/-- Definitions that are read as a source are listed by it. -/
theorem source_lists (d : Definitions) (refusal : EntityKind → Option SchedulerError) :
    (d.source refusal).Lists d := by
  intro kind only es h
  cases kind with
  | agent | task | taskFlow | queue | schedule =>
    simp only [EntitySource.entities, source] at h
    split at h
    · cases h
    · cases h
      exact mem_map_select (fun _ => rfl) only _

end Definitions

/-! ### Maps after a refresh -/

namespace ById

variable {α β : Type} {key : α → Int} {m : ById α} {as : List α} {id : Int} {a : α}

theorem get?_insertAll_of_not_mem (h : ∀ a ∈ as, key a ≠ id) :
    (m.insertAll key as).get? id = m.get? id := by
  induction as generalizing m with
  | nil => rfl
  | cons b as ih =>
    obtain ⟨hb, has⟩ := List.forall_mem_cons.1 h
    show ((m.insert (key b) b).insertAll key as).get? id = m.get? id
    rw [ih has, get?_insert, if_neg hb.symm]

theorem get?_insertAll_of_mem (ha : a ∈ as) (hunique : ∀ b ∈ as, key b = key a → b = a) :
    (m.insertAll key as).get? (key a) = some a := by
  induction as generalizing m with
  | nil => cases ha
  | cons b as ih =>
    obtain ⟨hb, has⟩ := List.forall_mem_cons.1 hunique
    show ((m.insert (key b) b).insertAll key as).get? (key a) = some a
    by_cases hrest : a ∈ as
    · exact ih hrest has
    · have hab : a = b := (List.mem_cons.1 ha).resolve_right hrest
      rw [get?_insertAll_of_not_mem fun b hb hkey => hrest (has b hb hkey ▸ hb), hab, get?_insert,
        if_pos rfl]

/-- What a list of things leaves under an id after they have been put at the end of lists one by one. -/
theorem getD_foldl_push (key : α → Int) (f : α → β) (as : List α) (m : ById (List β)) (id : Int) :
    ((as.foldl (fun m a => m.push (key a) (f a)) m).get? id).getD [] =
      (m.get? id).getD [] ++ (as.filter (key · = id)).map f := by
  induction as generalizing m with
  | nil => simp
  | cons a as ih =>
    rw [List.foldl_cons, ih, get?_push]
    by_cases h : id = key a
    · rw [if_pos h, List.filter_cons_of_pos (by simp [h]), h]
      simp
    · rw [if_neg h, List.filter_cons_of_neg (by simpa using Ne.symm h)]

/-- A refresh puts things on what it leaves of the map: nothing of what it asks for. -/
theorem refresh_eq_insertAll (m : ById α) (only : Option Int) :
    m.refresh key only as = (only.elim ∅ m.erase).insertAll key as := by
  cases only with
  | none | some i => rfl

theorem get?_elim_erase (m : ById α) (only : Option Int) (id : Int) :
    (only.elim ∅ m.erase).get? id = if only.all (· == id) then none else m.get? id := by
  cases only with
  | none => rfl
  | some i =>
    rw [Option.elim_some, get?_erase, Option.all_some]
    by_cases h : id = i
    · rw [if_pos h, if_pos (beq_iff_eq.2 h.symm)]
    · rw [if_neg h, if_neg (by simpa using Ne.symm h)]

/-- Things that stand under their own keys have the ids as keys. -/
theorem map_key_values (h : ∀ id a, m.get? id = some a → key a = id) : m.values.map key = m.ids := by
  rw [values, ids, List.map_map]
  refine List.map_congr_left fun e he => ?_
  exact h e.1 e.2 (get?_eq_some_iff.2 he)

theorem ids_nodup (m : ById α) : m.ids.Nodup :=
  List.pairwise_map.2 (m.ascending.imp fun h => Int.ne_of_lt h)

end ById

theorem CompiledSchedule.id_of_compile {s : Schedule} {compiled : CompiledSchedule}
    (h : s.compile.toOption = some compiled) : compiled.id = s.id := by
  rw [Schedule.compile] at h
  split at h
  · cases h
  · cases hrules : Rule.listOf 1 s.rules with
    | error e => rw [hrules] at h; cases h
    | ok rules => rw [hrules] at h; cases h; rfl

/-- How the things of a kind become entities, and what is kept of them under which key. -/
structure Keeping {α β : Type} (wrap : α → Entity) (keep : α → Option β) (key : β → Int)
    (view : β → CachedEntity) : Prop where
  cached? : ∀ a, (wrap a).cached? = (keep a).map view
  key : ∀ a b, keep a = some b → key b = (wrap a).id
  injective : Function.Injective view

namespace Keeping

variable {α β : Type} {wrap : α → Entity} {keep : α → Option β} {key : β → Int} {view : β → CachedEntity}
  {as : List α} {bs : List β} {all : List Entity} {only : Option Int}

/-- What is kept of a thing tells the entity that it was, as no other has its id. -/
theorem mem_iff (hk : Keeping wrap keep key view) (hbs : bs = as.filterMap keep)
    (hlists : ∀ e, e ∈ as.map wrap ↔ e ∈ all ∧ only.all (· == e.id)) (b : β) :
    b ∈ bs ↔ ∃ e ∈ all, only.all (· == e.id) ∧ e.id = key b ∧ e.cached? = some (view b) := by
  rw [hbs, List.mem_filterMap]
  constructor
  · rintro ⟨a, ha, hab⟩
    obtain ⟨hall, honly⟩ := (hlists _).1 (List.mem_map_of_mem ha)
    exact ⟨wrap a, hall, honly, (hk.key a b hab).symm, by rw [hk.cached?, hab]; rfl⟩
  · rintro ⟨e, hall, honly, -, hcached⟩
    obtain ⟨a, ha, rfl⟩ := List.mem_map.1 ((hlists e).2 ⟨hall, honly⟩)
    rw [hk.cached?, Option.map_eq_some_iff] at hcached
    obtain ⟨b', hab, hview⟩ := hcached
    exact ⟨a, ha, hk.injective hview ▸ hab⟩

variable {d : Definitions} {source : EntitySource} {kind : EntityKind}

/-- After a refresh the cached form of an entity that was asked for is found under its id; under the ids
that were not asked for nothing has changed. -/
theorem entity?_refresh (hk : Keeping wrap keep key view) (hbs : bs = as.filterMap keep)
    (hunique : d.HasUniqueIds) (hlists : source.Lists d)
    (hread : source.entities kind only = .ok (as.map wrap)) (m : ById β) (id : Int) :
    (only.all (· == id) → ∀ x, ((m.refresh key only bs).get? id).map view = some x ↔ d.Shows kind id x) ∧
      (¬only.all (· == id) → ((m.refresh key only bs).get? id).map view = (m.get? id).map view) := by
  have hlisted := hlists kind only _ hread
  have hmem := hk.mem_iff hbs hlisted
  rw [ById.refresh_eq_insertAll]
  refine ⟨fun hid x => ⟨fun h => ?_, ?_⟩, fun hid => ?_⟩
  · obtain ⟨b, hb, rfl⟩ := Option.map_eq_some_iff.1 h
    rcases ById.of_get?_insertAll hb with ⟨hnew, rfl⟩ | hold
    · obtain ⟨e, he, -, hkey, hcached⟩ := (hmem b).1 hnew
      exact ⟨e, he, hkey, hcached⟩
    · rw [ById.get?_elim_erase, if_pos hid] at hold
      cases hold
  · rintro ⟨e, he, rfl, hcached⟩
    obtain ⟨a, ha, rfl⟩ := List.mem_map.1 ((hlisted e).2 ⟨he, hid⟩)
    rw [hk.cached?, Option.map_eq_some_iff] at hcached
    obtain ⟨b, hab, rfl⟩ := hcached
    have hb : b ∈ bs := by
      rw [hbs]
      exact List.mem_filterMap.2 ⟨a, ha, hab⟩
    rw [← hk.key a b hab, ById.get?_insertAll_of_mem hb fun b' hb' hkey => ?_]
    · rfl
    · obtain ⟨e', he', -, hkey', hcached'⟩ := (hmem b').1 hb'
      have hsame : e' = wrap a :=
        List.inj_on_of_nodup_map (hunique kind) he' he (by rw [hkey', hkey, hk.key a b hab])
      rw [hsame, hk.cached?, hab] at hcached'
      exact hk.injective (Option.some.inj hcached').symm
  · rw [ById.get?_insertAll_of_not_mem fun b hb hkey => ?_, ById.get?_elim_erase, if_neg hid]
    obtain ⟨e, -, honly, hid', -⟩ := (hmem b).1 hb
    exact hid (by rwa [hid', hkey] at honly)

theorem agent : Keeping .agent some (·.id) .agent where
  cached? _ := rfl
  key a b h := by cases h; rfl
  injective _ _ := CachedEntity.agent.inj

theorem task : Keeping .task some (·.id) .task where
  cached? _ := rfl
  key a b h := by cases h; rfl
  injective _ _ := CachedEntity.task.inj

theorem flow : Keeping .flow some (·.id) .flow where
  cached? _ := rfl
  key a b h := by cases h; rfl
  injective _ _ := CachedEntity.flow.inj

theorem queue : Keeping .queue (fun q => some q.normalize) (·.id) .queue where
  cached? _ := rfl
  key a b h := by cases h; rfl
  injective _ _ := CachedEntity.queue.inj

theorem schedule : Keeping .schedule (fun s => s.compile.toOption) (·.id) .schedule where
  cached? _ := rfl
  key _ _ := CompiledSchedule.id_of_compile
  injective _ _ := CachedEntity.schedule.inj

end Keeping

/-! ### The entities of a cache -/

namespace Cache

/-- What is cached under an id of a kind. -/
def entity? (c : Cache) (kind : EntityKind) (id : Int) : Option CachedEntity :=
  match kind with
  | .agent => (c.agents.get? id).map .agent
  | .task => (c.tasks.get? id).map .task
  | .taskFlow => (c.flows.get? id).map .flow
  | .queue => (c.queues.get? id).map .queue
  | .schedule => (c.schedules.get? id).map .schedule

/-- What a refresh that succeeds makes of a cache. -/
structure TakesIn (c : Cache) (d : Definitions) (change : EntityChange) (c' : Cache)
    (report : RefreshReport) : Prop where
  kind : report.kind = change.kind
  /-- What the change names is cached as it is defined. -/
  refreshed : ∀ id, change.id.all (· == id) →
    ∀ x, c'.entity? change.kind id = some x ↔ d.Shows change.kind id x
  /-- All else stays as it was. -/
  untouched : ∀ kind id, ¬(kind = change.kind ∧ change.id.all (· == id)) →
    c'.entity? kind id = c.entity? kind id
  removed_nodup : report.removedQueues.Nodup
  mem_removed : ∀ id, id ∈ report.removedQueues ↔ c.queues.contains id ∧ ¬c'.queues.contains id

/-- Whether the links lead from each cached schedule to the active flows that are bound to it, in ascending
order, and from nowhere else. -/
structure LinksBound (c : Cache) : Prop where
  ascending : ∀ scheduleId, (c.flowIdsOf scheduleId).Pairwise (· < ·)
  mem_iff : ∀ scheduleId id, id ∈ c.flowIdsOf scheduleId ↔ c.schedules.contains scheduleId ∧
    ∃ f, c.flows.get? id = some f ∧ f.active ∧ f.scheduleId = scheduleId ∧ 0 < scheduleId

/-- Whether exactly the cached forms of what is defined are cached. -/
def IsImageOf (c : Cache) (d : Definitions) : Prop :=
  ∀ kind id x, c.entity? kind id = some x ↔ d.Shows kind id x

variable {c c' : Cache} {d : Definitions} {source : EntitySource} {change : EntityChange}
  {report : RefreshReport} {reports : List RefreshReport} {kinds : List EntityKind}

theorem entity?_of_kind_ne (h : c.refresh source change = .ok (c', report)) {kind : EntityKind}
    (hkind : kind ≠ change.kind) (id : Int) : c'.entity? kind id = c.entity? kind id := by
  obtain ⟨changed, only⟩ := change
  cases refreshed_of_refresh h <;> cases kind <;> first | rfl | exact absurd rfl hkind

theorem entity?_of_refresh (hunique : d.HasUniqueIds) (hlists : source.Lists d)
    (h : c.refresh source change = .ok (c', report)) (id : Int) :
    (change.id.all (· == id) →
      ∀ x, c'.entity? change.kind id = some x ↔ d.Shows change.kind id x) ∧
    (¬change.id.all (· == id) → c'.entity? change.kind id = c.entity? change.kind id) := by
  obtain ⟨kind, only⟩ := change
  cases refreshed_of_refresh h with
  | agent hread =>
    exact Keeping.agent.entity?_refresh List.filterMap_some.symm hunique hlists
      (by rw [EntitySource.entities, hread]; rfl) c.agents id
  | task hread =>
    exact Keeping.task.entity?_refresh List.filterMap_some.symm hunique hlists
      (by rw [EntitySource.entities, hread]; rfl) c.tasks id
  | taskFlow hread =>
    exact Keeping.flow.entity?_refresh List.filterMap_some.symm hunique hlists
      (by rw [EntitySource.entities, hread]; rfl) c.flows id
  | queue hread hnow =>
    subst hnow
    exact Keeping.queue.entity?_refresh (congrFun List.filterMap_eq_map' _).symm hunique hlists
      (by rw [EntitySource.entities, hread]; rfl) c.queues id
  | schedule hread =>
    exact Keeping.schedule.entity?_refresh rfl hunique hlists
      (by rw [EntitySource.entities, hread]; rfl) c.schedules id

theorem removedQueues_of_refresh (h : c.refresh source change = .ok (c', report)) :
    report.removedQueues = c.removedQueues c' := by
  obtain ⟨kind, only⟩ := change
  cases refreshed_of_refresh h with
  | queue => rfl
  | agent | task | taskFlow | schedule =>
    have hkept : c.removedQueues c = [] :=
      List.filter_eq_nil_iff.2 fun id hid => by simpa using ById.mem_ids_iff.1 hid
    exact hkept.symm

theorem takesIn_of_refresh (hunique : d.HasUniqueIds) (hlists : source.Lists d)
    (h : c.refresh source change = .ok (c', report)) : c.TakesIn d change c' report where
  kind := (refresh_queues h).1
  refreshed id := (entity?_of_refresh hunique hlists h id).1
  untouched kind id hnot := by
    by_cases hkind : kind = change.kind
    · subst hkind
      exact (entity?_of_refresh hunique hlists h id).2 fun hid => hnot ⟨rfl, hid⟩
    · exact entity?_of_kind_ne h hkind id
  removed_nodup := removedQueues_of_refresh h ▸ c.queues.ids_nodup.filter _
  mem_removed id := by rw [removedQueues_of_refresh h, mem_removedQueues]

/-! ### The links -/

/-- Whether the flows stand under their own ids, and the links are those of the cached flows and
schedules. -/
structure IsLinked (c : Cache) : Prop where
  flowsKeyed : ∀ id f, c.flows.get? id = some f → f.id = id
  links : c.links = linksOf c.flows c.schedules

theorem isLinked_empty : IsLinked {} where
  flowsKeyed id f h := by cases h
  links := rfl

theorem IsLinked.refresh (hc : c.IsLinked) (h : c.refresh source change = .ok (c', report)) :
    c'.IsLinked := by
  obtain ⟨kind, only⟩ := change
  cases refreshed_of_refresh h with
  | agent | task | queue => exact ⟨hc.flowsKeyed, hc.links⟩
  | schedule => exact ⟨hc.flowsKeyed, rfl⟩
  | taskFlow =>
    refine ⟨fun id f hf => ?_, rfl⟩
    rcases ById.of_get?_refresh hf with ⟨-, hid⟩ | hf
    · exact hid
    · exact hc.flowsKeyed id f hf

/-- The cached flows that a cached schedule launches. -/
def boundTo (c : Cache) (scheduleId : Int) : List TaskFlow :=
  (c.flows.values.filter fun f => f.isScheduled && c.schedules.contains f.scheduleId).filter
    (·.scheduleId = scheduleId)

theorem mem_boundTo {scheduleId : Int} {f : TaskFlow} : f ∈ c.boundTo scheduleId ↔
    (∃ id, c.flows.get? id = some f) ∧ f.active ∧ c.schedules.contains scheduleId ∧
      f.scheduleId = scheduleId ∧ 0 < scheduleId := by
  simp only [boundTo, TaskFlow.isScheduled, List.mem_filter, ById.mem_values_iff, Bool.and_eq_true,
    decide_eq_true_eq]
  constructor
  · rintro ⟨⟨hf, ⟨hactive, hpos⟩, hcached⟩, rfl⟩
    exact ⟨hf, hactive, hcached, rfl, hpos⟩
  · rintro ⟨hf, hactive, hcached, rfl, hpos⟩
    exact ⟨⟨hf, ⟨hactive, hpos⟩, hcached⟩, rfl⟩

theorem IsLinked.pairwise_boundTo (hc : c.IsLinked) (scheduleId : Int) :
    ((c.boundTo scheduleId).map TaskFlow.id).Pairwise (· < ·) := by
  have hids : (c.flows.values.map TaskFlow.id).Pairwise (· < ·) := by
    rw [ById.map_key_values hc.flowsKeyed]
    exact List.pairwise_map.2 c.flows.ascending
  have hsublist : (c.boundTo scheduleId).Sublist c.flows.values :=
    List.filter_sublist.trans List.filter_sublist
  exact hids.sublist (hsublist.map TaskFlow.id)

theorem IsLinked.flowIdsOf_eq (hc : c.IsLinked) (scheduleId : Int) :
    c.flowIdsOf scheduleId = (c.boundTo scheduleId).map TaskFlow.id := by
  have hsorted (ids : Option (List Int)) :
      (ids.map fun ids => ids.mergeSort).getD [] = (ids.getD []).mergeSort := by
    cases ids with
    | none => exact List.mergeSort_nil.symm
    | some ids => rfl
  have hpushed := ById.getD_foldl_push TaskFlow.scheduleId TaskFlow.id
    (c.flows.values.filter fun f => f.isScheduled && c.schedules.contains f.scheduleId) ∅ scheduleId
  rw [flowIdsOf, hc.links, linksOf, ById.get?_map, hsorted, hpushed]
  exact List.mergeSort_eq_self (· ≤ ·) ((hc.pairwise_boundTo scheduleId).imp Int.le_of_lt)

theorem IsLinked.linksBound (hc : c.IsLinked) : c.LinksBound where
  ascending scheduleId := by
    rw [hc.flowIdsOf_eq]
    exact hc.pairwise_boundTo scheduleId
  mem_iff scheduleId id := by
    rw [hc.flowIdsOf_eq, List.mem_map]
    simp only [mem_boundTo]
    constructor
    · rintro ⟨f, ⟨⟨i, hf⟩, hactive, hcached, hbound⟩, rfl⟩
      refine ⟨hcached, f, ?_, hactive, hbound⟩
      rwa [hc.flowsKeyed i f hf]
    · rintro ⟨hcached, f, hf, hactive, hbound⟩
      exact ⟨f, ⟨⟨id, hf⟩, hactive, hcached, hbound⟩, hc.flowsKeyed id f hf⟩

/-- A cache is determined by its entities. -/
theorem IsLinked.ext_entity? (hc : c.IsLinked) (hc' : c'.IsLinked)
    (h : ∀ kind id, c.entity? kind id = c'.entity? kind id) : c = c' := by
  have hagents : c.agents = c'.agents := ById.ext_get? fun id =>
    Option.map_injective Keeping.agent.injective (h .agent id)
  have htasks : c.tasks = c'.tasks := ById.ext_get? fun id =>
    Option.map_injective Keeping.task.injective (h .task id)
  have hqueues : c.queues = c'.queues := ById.ext_get? fun id =>
    Option.map_injective Keeping.queue.injective (h .queue id)
  have hflows : c.flows = c'.flows := ById.ext_get? fun id =>
    Option.map_injective Keeping.flow.injective (h .taskFlow id)
  have hschedules : c.schedules = c'.schedules := ById.ext_get? fun id =>
    Option.map_injective Keeping.schedule.injective (h .schedule id)
  have hlinks : c.links = c'.links := by rw [hc.links, hc'.links, hflows, hschedules]
  cases c
  cases c'
  congr

/-! ### Refreshes in a row -/

/-- The cache after several refreshes, of which any may fail. -/
def afterAll (commands : List ChangeCommand) : Cache :=
  commands.foldl (fun c command => (Planner.refreshCache c command.source command.change).1) {}

theorem isLinked_afterAll (commands : List ChangeCommand) : (afterAll commands).IsLinked := by
  induction commands using List.reverseRecOn with
  | nil => exact isLinked_empty
  | append_singleton commands command ih =>
    rw [afterAll, List.foldl_append]
    exact Planner.refreshCache_keeps IsLinked.refresh ih

/-- A change that was taken in already changes nothing, whether it can be read or not. -/
theorem TakesIn.refresh_again (h : c.TakesIn d change c' report) (hc' : c'.IsLinked)
    (hunique : d.HasUniqueIds) (hlists : source.Lists d) :
    (Planner.refreshCache c' source (some change)).1 = c' := by
  rw [Planner.refreshCache]
  split
  · rfl
  · next c'' report' hrefresh =>
    have hagain := takesIn_of_refresh hunique hlists hrefresh
    refine (hc'.refresh hrefresh).ext_entity? hc' fun kind id => ?_
    by_cases hasked : kind = change.kind ∧ change.id.all (· == id)
    · obtain ⟨rfl, hid⟩ := hasked
      exact Option.ext fun x => (hagain.refreshed id hid x).trans (h.refreshed id hid x).symm
    · exact hagain.untouched kind id hasked

/-- After refreshes of kinds that succeed, exactly the cached forms of what is defined of them are
cached. -/
theorem entity?_of_refreshKinds (hunique : d.HasUniqueIds) (hlists : source.Lists d)
    (h : refreshKinds source kinds c = (c', .ok reports)) {kind : EntityKind}
    (hkind : kind ∈ kinds ∨ ∀ id x, c.entity? kind id = some x ↔ d.Shows kind id x) (id : Int)
    (x : CachedEntity) : c'.entity? kind id = some x ↔ d.Shows kind id x := by
  induction kinds generalizing c reports with
  | nil =>
    cases h
    exact hkind.resolve_left List.not_mem_nil id x
  | cons first kinds ih =>
    obtain ⟨c₁, report, rest, hrefresh, hrest, rfl⟩ := refreshKinds_cons_eq_ok h
    have hfirst := takesIn_of_refresh hunique hlists hrefresh
    refine ih hrest ?_
    by_cases hsame : kind = first
    · subst hsame
      exact .inr fun id x => hfirst.refreshed id rfl x
    · rcases hkind with hmem | hshown
      · exact .inl ((List.mem_cons.1 hmem).resolve_left hsame)
      · refine .inr fun id x => ?_
        rw [hfirst.untouched kind id fun hasked => hsame hasked.1]
        exact hshown id x

/-- After any refreshes the links are those of what is cached. A refresh that fails then leaves the cache
as it is; one that succeeds takes in what it asked for, and taking that in again changes nothing. After a
refresh of everything that succeeds the cache is the image of the definitions, and no refreshes lead to
another image. -/
theorem refresh_takesIn {d : Definitions} (hunique : d.HasUniqueIds) {source : EntitySource}
    (hlists : source.Lists d) (history : List ChangeCommand) (change : EntityChange) :
    let c := afterAll history
    c.LinksBound ∧
      (∀ e c', Planner.refreshCache c source (some change) = (c', .error e) → c' = c) ∧
      (∀ reports c', Planner.refreshCache c source (some change) = (c', .ok reports) →
        (∃ report, reports = [report] ∧ c.TakesIn d change c' report) ∧
          ∀ again : EntitySource, again.Lists d →
            (Planner.refreshCache c' again (some change)).1 = c') ∧
      ∀ reports c', Planner.refreshCache c source none = (c', .ok reports) →
        c'.IsImageOf d ∧ ∀ other, (afterAll other).IsImageOf d → afterAll other = c' := by
  intro c
  have hc : c.IsLinked := isLinked_afterAll history
  refine ⟨hc.linksBound, fun e c' h => ?_, fun reports c' h => ?_, fun reports c' h => ?_⟩
  · rw [Planner.refreshCache] at h
    split at h
    · cases h
      rfl
    · cases h
  · rw [Planner.refreshCache] at h
    split at h
    · cases h
    · next d' report hrefresh =>
      cases h
      have htakes := takesIn_of_refresh hunique hlists hrefresh
      exact ⟨⟨report, rfl, htakes⟩, fun again hagain =>
        htakes.refresh_again (hc.refresh hrefresh) hunique hagain⟩
  · have himage : c'.IsImageOf d := fun kind =>
      entity?_of_refreshKinds hunique hlists h (.inl (by cases kind <;> decide))
    have hc' : c'.IsLinked := by
      have hafter : (Planner.refreshCache c source none).1.IsLinked :=
        Planner.refreshCache_keeps IsLinked.refresh hc
      rwa [h] at hafter
    refine ⟨himage, fun other hother => (isLinked_afterAll other).ext_entity? hc' fun kind id => ?_⟩
    exact Option.ext fun x => (hother kind id x).trans (himage kind id x).symm

/-! ### A queue that is removed -/

private def flowOn (id scheduleId : Int) : TaskFlow where
  id := id
  name := "report"
  active := true
  scheduleId := scheduleId
  steps := [{ index := 1, taskId := 1 }]

private def withLanes : Definitions where
  queues := [{ id := 1, name := "narrow", slot := 5, maxSize := 2 },
    { id := 2, name := "wide", slot := 9 }]
  flows := [flowOn 8 4, flowOn 7 4, flowOn 6 3]
  schedules := [{ id := 3, name := "never", rules := [] },
    { id := 4, name := "morning", rules := [{ hours := "08:00:00" }] }]

private def withoutWide : Definitions := withLanes.remove .queue 2

private def readable : EntitySource := withoutWide.source fun _ => none

private theorem withoutWide_hasUniqueIds : withoutWide.HasUniqueIds := by
  intro kind
  cases kind <;> decide

/-- Everything is loaded, and then a refresh of the flows fails. -/
private def lanesLoaded : List ChangeCommand :=
  [{ source := withLanes.source fun _ => none, change := none },
    { source := withLanes.source fun _ => some (.repository "read taskflow")
      change := some { kind := .taskFlow } }]

theorem refresh_takesIn_removed_queue :
    let c := afterAll lanesLoaded
    let change : EntityChange := { kind := .queue, id := some 2 }
    withoutWide.HasUniqueIds ∧ readable.Lists withoutWide ∧ c.LinksBound ∧
      ∃ c' report, Planner.refreshCache c readable (some change) = (c', .ok [report]) ∧
        c.TakesIn withoutWide change c' report ∧ report.removedQueues = [2] := by
  intro c change
  have hlists : readable.Lists withoutWide := withoutWide.source_lists _
  obtain ⟨hlinks, -, htakes, -⟩ := refresh_takesIn withoutWide_hasUniqueIds hlists lanesLoaded change
  obtain ⟨c', report, hrefresh, hremoved⟩ : ∃ c' report,
      Planner.refreshCache c readable (some change) = (c', .ok [report]) ∧
        report.removedQueues = [2] := ⟨_, _, rfl, by decide⟩
  obtain ⟨⟨report', hreport, htakes⟩, -⟩ := htakes _ c' hrefresh
  cases hreport
  exact ⟨withoutWide_hasUniqueIds, hlists, hlinks, c', report, hrefresh, htakes, hremoved⟩

end Cache

end FlowScheduler
