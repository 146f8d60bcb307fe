import Mathlib
import FlowScheduler.Proofs.Dispatch.Refresh
import FlowScheduler.Proofs.Worker.Operations

/-!
The queues of the worker and those of the cache.

The worker begins with the cached queues. After a refresh of queues the planner sends it all cached ones, and
tombstones of those that the refresh dropped. A command that fails sends nothing; yet a refresh of everything
that fails after its queues has replaced them. If that drops a queue, no later refresh sees it go, and the
worker keeps it: the queue is *stranded* (`Planner.Stranded`) until it is cached again. Nothing else keeps the
two apart (`Planner.queues_agree_iff_not_stranded`).
-/

namespace FlowScheduler

/-- What the planner is told to take in, and what the source answers then. -/
structure ChangeCommand where
  source : EntitySource
  /-- What has changed; everything, if absent. -/
  change : Option EntityChange

/-- The update of a queue that the worker is asked to do. -/
def WorkerCommand.update? : WorkerCommand → Option Queue
  | .updateQueue q => some q
  | .submit _ => none

/-! ### Updates in a row -/

namespace Queue

variable {qs : List Queue} {id : Int} {d : Queue}

theorem normalize_not_isDeleted (q : Queue) : q.normalize.isDeleted = false := by
  have hslot : 1 ≤ q.normalize.slot := by
    simp only [normalize]
    split
    · omega
    · omega
  simp only [isDeleted, beq_eq_false_iff_ne, ne_eq]
  omega

theorem foldl_update_of_mem (hid : directId < id) (hd : d.id = id) (hslot : d.isDeleted = false)
    (hmem : d ∈ qs) (hunique : ∀ q ∈ qs, q.id = id → q = d) (old : Option Queue) :
    qs.foldl (fun old q => q.update id old) old = some d := by
  induction qs generalizing old with
  | nil => cases hmem
  | cons q qs ih =>
    obtain ⟨hq, hqs⟩ := List.forall_mem_cons.1 hunique
    rw [List.foldl_cons]
    by_cases hrest : d ∈ qs
    · exact ih hrest hqs _
    · have hqd : d = q := (List.mem_cons.1 hmem).resolve_right hrest
      have hnew : q.update id old = some d := by
        rw [← hqd, update, if_pos ⟨hd.symm, hid⟩, hslot]
        rfl
      rw [hnew]
      refine foldl_update_eq_self (fun q hq hqid => ?_) _
      exact absurd (hqs q hq hqid ▸ hq) hrest

theorem foldl_update_tombstones (hid : directId < id) (ids : List Int) (old : Option Queue) :
    (ids.map tombstone).foldl (fun old q => q.update id old) old = if id ∈ ids then none else old := by
  induction ids generalizing old with
  | nil => rfl
  | cons i ids ih =>
    rw [List.map_cons, List.foldl_cons, ih]
    by_cases hi : id = i
    · have hgone : (tombstone i).update id old = none := if_pos ⟨hi, hid⟩
      rw [hgone, ite_self, if_pos (List.mem_cons.2 (.inl hi))]
    · have hsame : (tombstone i).update id old = old := if_neg fun h => hi h.1
      simp only [hsame, List.mem_cons, hi, false_or]

end Queue

/-! ### Refreshes of queues -/

namespace Cache

variable {c c' : Cache} {source : EntitySource} {change : EntityChange} {report : RefreshReport}
  {reports : List RefreshReport} {kinds : List EntityKind}

/-- Whether each cached queue stands under its own id and announces no deletion. -/
def HasQueues (c : Cache) : Prop :=
  ∀ id q, c.queues.get? id = some q → q.id = id ∧ q.isDeleted = false

/-- The queues that were cached before a refresh of queues and are not any more. -/
def removedQueues (c c' : Cache) : List Int := c.queues.ids.filter fun id => !c'.queues.contains id

theorem mem_removedQueues {id : Int} : id ∈ c.removedQueues c' ↔
    c.queues.contains id ∧ ¬c'.queues.contains id := by
  rw [removedQueues, List.mem_filter, ById.mem_ids_iff, Bool.not_eq_true, Bool.not_eq_true']

theorem refresh_queues (h : c.refresh source change = .ok (c', report)) :
    report.kind = change.kind ∧ (change.kind ≠ .queue ∧ c'.queues = c.queues ∨
      change.kind = .queue ∧ report.removedQueues = c.removedQueues c' ∧
        ∃ queues, source.queues change.id = .ok queues ∧
          c'.queues = c.queues.refresh (·.id) change.id (queues.map Queue.normalize)) := by
  obtain ⟨kind, id⟩ := change
  cases refreshed_of_refresh h with
  | agent | task | taskFlow | schedule => exact ⟨rfl, .inl ⟨by simp, rfl⟩⟩
  | queue hread hnow =>
    subst hnow
    exact ⟨rfl, .inr ⟨rfl, rfl, _, hread, rfl⟩⟩

theorem HasQueues.refresh (hc : c.HasQueues) (h : c.refresh source change = .ok (c', report)) :
    c'.HasQueues := by
  intro id q hq
  rcases (refresh_queues h).2 with ⟨-, heq⟩ | ⟨-, -, queues, -, heq⟩
  · rw [heq] at hq
    exact hc id q hq
  · rw [heq] at hq
    rcases ById.of_get?_refresh hq with ⟨hmem, hid⟩ | hq
    · obtain ⟨q', -, rfl⟩ := List.mem_map.1 hmem
      exact ⟨hid, q'.normalize_not_isDeleted⟩
    · exact hc id q hq

/-- Updates by all cached queues give each of them its definition. -/
theorem HasQueues.foldl_update {id : Int} (hc : c.HasQueues) (hid : Queue.directId < id)
    (old : Option Queue) :
    c.queues.values.foldl (fun old q => q.update id old) old = (c.queues.get? id).or old := by
  have hkey : ∀ q ∈ c.queues.values, q.id = id → c.queues.get? id = some q := by
    intro q hq hqid
    obtain ⟨i, hi⟩ := ById.mem_values_iff.1 hq
    rwa [← hqid, (hc i q hi).1]
  cases hget : c.queues.get? id with
  | none =>
    refine Queue.foldl_update_eq_self (fun q hq hqid => ?_) old
    rw [hkey q hq hqid] at hget
    cases hget
  | some d =>
    obtain ⟨hd, hslot⟩ := hc id d hget
    refine Queue.foldl_update_of_mem hid hd hslot (ById.mem_values_iff.2 ⟨id, hget⟩) ?_ old
    intro q hq hqid
    have hq := hkey q hq hqid
    rw [hget] at hq
    exact (Option.some.inj hq).symm

/-- The refreshes of other kinds ask nothing of the worker; that of the queues sends what is cached and what it
removed. -/
theorem refreshKinds_queues {β : Type} (send : List Int → List β) (hkinds : kinds.Nodup)
    (h : refreshKinds source kinds c = (c', .ok reports)) :
    let sent := reports.flatMap fun r => if r.kind = .queue then send r.removedQueues else []
    if .queue ∈ kinds then
      sent = send (c.removedQueues c') ∧ ∃ queues, source.queues none = .ok queues ∧
        c'.queues = .ofList (·.id) (queues.map Queue.normalize)
    else sent = [] ∧ c'.queues = c.queues := by
  induction kinds generalizing c reports with
  | nil =>
    cases h
    exact ⟨rfl, rfl⟩
  | cons kind kinds ih =>
    obtain ⟨hkind, hkinds⟩ := List.nodup_cons.1 hkinds
    obtain ⟨d, report, rest, hrefresh, hrefreshes, rfl⟩ := refreshKinds_cons_eq_ok h
    obtain ⟨hreport, hqueues⟩ := refresh_queues hrefresh
    have hrest := ih hkinds hrefreshes
    rcases hqueues with ⟨hne, hsame⟩ | ⟨rfl, hremoved, queues, hread, hnow⟩
    · have hmem : EntityKind.queue ∈ kind :: kinds ↔ .queue ∈ kinds := by
        simp [Ne.symm hne]
      have hnot : report.kind ≠ .queue := hreport ▸ hne
      simp only [List.flatMap_cons, if_neg hnot, List.nil_append, hmem]
      rw [removedQueues, ← hsame]
      exact hrest
    · rw [if_neg hkind] at hrest
      obtain ⟨hnothing, hlast⟩ := hrest
      simp only [List.flatMap_cons, hnothing, if_pos hreport, List.append_nil,
        List.mem_cons_self, if_true]
      rw [hremoved, removedQueues, removedQueues, hlast]
      exact ⟨rfl, queues, hread, hnow⟩

end Cache

/-! ### Commands to the planner -/

namespace Planner

variable {p : Planner} {c : ChangeCommand}

/-- The planner after a command. -/
def take (p : Planner) (c : ChangeCommand) : Planner := (p.applyChange c.source c.change).1

/-- The updates of queues that a command makes the planner send. -/
def updates (p : Planner) (c : ChangeCommand) : List Queue :=
  (p.applyChange c.source c.change).2.filterMap WorkerCommand.update?

/-- Whether a command fails. -/
def Fails (p : Planner) (c : ChangeCommand) : Prop :=
  ∃ e, (refreshCache p.cache c.source c.change).2 = .error e

theorem take_cache (p : Planner) (c : ChangeCommand) :
    (p.take c).cache = (refreshCache p.cache c.source c.change).1 := by
  simp only [take, applyChange]
  split
  · rfl
  · split
    · rfl
    · rfl

theorem hasQueues_take (h : p.cache.HasQueues) (c : ChangeCommand) : (p.take c).cache.HasQueues := by
  rw [take_cache]
  exact refreshCache_keeps Cache.HasQueues.refresh h

theorem updates_of_error {cache : Cache} {e : SchedulerError}
    (h : refreshCache p.cache c.source c.change = (cache, .error e)) : p.updates c = [] := by
  rw [updates, applyChange, h]
  rfl

theorem updates_of_ok {cache : Cache} {reports : List RefreshReport}
    (h : refreshCache p.cache c.source c.change = (cache, .ok reports)) :
    p.updates c = reports.flatMap fun r => if r.kind = .queue then
      cache.queues.values ++ r.removedQueues.map Queue.tombstone else [] := by
  have hsend (removed : List Int) : (cache.queueUpdates removed).filterMap WorkerCommand.update? =
      cache.queues.values ++ removed.map Queue.tombstone := by
    rw [Cache.queueUpdates, List.filterMap_map]
    exact List.filterMap_some
  have hcommands : (p.applyChange c.source c.change).2 = reports.flatMap fun r =>
      if r.kind = .queue then cache.queueUpdates r.removedQueues else [] := by
    rw [applyChange, h]
    dsimp only
    split
    · rfl
    · rfl
  rw [updates, hcommands, List.filterMap_flatMap]
  congr 1
  funext r
  split
  · exact hsend _
  · rfl

/-- A command that fails sends no updates. -/
theorem updates_of_fails (h : p.Fails c) : p.updates c = [] := by
  obtain ⟨e, he⟩ := h
  exact updates_of_error (Prod.ext rfl he)

/-- A command that succeeds sends all cached queues and the tombstones of the removed ones if it refreshes
queues, and otherwise leaves the queues alone. -/
theorem updates_of_not_fails (h : ¬p.Fails c) :
    let now := (p.take c).cache
    if c.change.all (·.kind = .queue) then
      p.updates c = now.queues.values ++ (p.cache.removedQueues now).map Queue.tombstone ∧
        ∃ queues, c.source.queues (c.change.bind (·.id)) = .ok queues ∧
          now.queues = p.cache.queues.refresh (·.id) (c.change.bind (·.id)) (queues.map Queue.normalize)
    else p.updates c = [] ∧ now.queues = p.cache.queues := by
  rw [take_cache]
  cases hcache : refreshCache p.cache c.source c.change with
  | mk now result =>
    cases result with
    | error e => exact absurd ⟨e, by rw [hcache]⟩ h
    | ok reports =>
      rw [updates_of_ok hcache]
      obtain ⟨source, change⟩ := c
      cases change with
      | none =>
        have hkinds : EntityKind.all.Nodup := by decide
        let send (removed : List Int) := now.queues.values ++ removed.map Queue.tombstone
        exact Cache.refreshKinds_queues send hkinds hcache
      | some change =>
        rw [refreshCache] at hcache
        split at hcache
        · cases hcache
        · next d report hrefresh =>
          cases hcache
          obtain ⟨hkind, ⟨hne, hsame⟩ | ⟨heq, hremoved, hqueues⟩⟩ := Cache.refresh_queues hrefresh
          · have hnot : report.kind ≠ .queue := hkind ▸ hne
            simp [hne, hnot, hsame]
          · have hqueue : report.kind = .queue := hkind.trans heq
            rw [Option.all_some, if_pos (by simpa using heq)]
            exact ⟨by simp [hqueue, hremoved], hqueues⟩

/-! ### Histories of commands -/

/-- The planner after a history of commands, the newest of which comes first. -/
def after (p : Planner) : List ChangeCommand → Planner
  | [] => p
  | c :: earlier => (p.after earlier).take c

/-- The updates of queues that the planner sends in the course of a history. -/
def sent (p : Planner) : List ChangeCommand → List Queue
  | [] => []
  | c :: earlier => p.sent earlier ++ (p.after earlier).updates c

/-- What a worker that began with the planner's queues has under an id once it has all updates. -/
def held (p : Planner) (history : List ChangeCommand) (id : Int) : Option Queue :=
  (p.cache.queues.values ++ p.sent history).foldl (fun old q => q.update id old) none

/-- Whether a queue that the worker holds has been dropped by a command that failed, and has not been cached
since. -/
inductive Stranded (p : Planner) (id : Int) : List ChangeCommand → Prop where
  | dropped {c : ChangeCommand} {earlier : List ChangeCommand} (fails : (p.after earlier).Fails c)
      (held : (p.held earlier id).isSome) (cached : (p.after earlier).cache.queues.contains id)
      (gone : ¬(p.after (c :: earlier)).cache.queues.contains id) : Stranded p id (c :: earlier)
  | kept {c : ChangeCommand} {earlier : List ChangeCommand} (stranded : Stranded p id earlier)
      (gone : ¬(p.after (c :: earlier)).cache.queues.contains id) : Stranded p id (c :: earlier)

variable {earlier : List ChangeCommand} {id : Int}

theorem hasQueues_after (h : p.cache.HasQueues) (history : List ChangeCommand) :
    (p.after history).cache.HasQueues := by
  induction history with
  | nil => exact h
  | cons c earlier ih => exact hasQueues_take ih c

theorem held_cons (p : Planner) (c : ChangeCommand) (earlier : List ChangeCommand) (id : Int) :
    p.held (c :: earlier) id =
      ((p.after earlier).updates c).foldl (fun old q => q.update id old) (p.held earlier id) := by
  rw [held, sent, ← List.append_assoc, List.foldl_append]
  rfl

theorem held_cons_of_no_updates (h : (p.after earlier).updates c = []) :
    p.held (c :: earlier) id = p.held earlier id := by
  rw [held_cons, h, List.foldl_nil]

/-- A command that refreshes queues brings what is held up to date, except for a queue that was not cached
before either. -/
theorem held_of_refresh (h : (p.after (c :: earlier)).cache.HasQueues) (hid : Queue.directId < id)
    (hupdates : (p.after earlier).updates c = (p.after (c :: earlier)).cache.queues.values ++
      ((p.after earlier).cache.removedQueues (p.after (c :: earlier)).cache).map Queue.tombstone) :
    p.held (c :: earlier) id = if (p.after (c :: earlier)).cache.queues.contains id then
      (p.after (c :: earlier)).cache.queues.get? id
    else if (p.after earlier).cache.queues.contains id then none else p.held earlier id := by
  rw [held_cons, hupdates, List.foldl_append, h.foldl_update hid, Queue.foldl_update_tombstones hid]
  by_cases hnow : (p.after (c :: earlier)).cache.queues.contains id
  · rw [if_pos hnow, if_neg fun hmem => (Cache.mem_removedQueues.1 hmem).2 hnow]
    obtain ⟨d, hd⟩ := Option.isSome_iff_exists.1 hnow
    rw [hd, Option.some_or]
  · rw [if_neg hnow, ById.get?_eq_none_of_not_contains hnow, Option.none_or]
    by_cases hbefore : (p.after earlier).cache.queues.contains id
    · rw [if_pos hbefore, if_pos (Cache.mem_removedQueues.2 ⟨hbefore, hnow⟩)]
    · rw [if_neg hbefore, if_neg fun hmem => hbefore (Cache.mem_removedQueues.1 hmem).1]

theorem stranded_cons_iff (h : ¬(p.after earlier).Fails c) : p.Stranded id (c :: earlier) ↔
    p.Stranded id earlier ∧ ¬(p.after (c :: earlier)).cache.queues.contains id := by
  constructor
  · intro hstranded
    cases hstranded with
    | dropped fails _ _ _ => exact absurd fails h
    | kept stranded gone => exact ⟨stranded, gone⟩
  · rintro ⟨stranded, gone⟩
    exact .kept stranded gone

/-- The stranded queues are those that the worker holds and the cache does not. -/
theorem stranded_iff (h : p.cache.HasQueues) (hid : Queue.directId < id)
    (history : List ChangeCommand) : p.Stranded id history ↔
      (p.held history id).isSome ∧ ¬(p.after history).cache.queues.contains id := by
  induction history with
  | nil =>
    have hheld : p.held [] id = p.cache.queues.get? id := by
      rw [held, sent, List.append_nil, h.foldl_update hid, Option.or_none]
    rw [hheld]
    constructor
    · intro hstranded
      cases hstranded
    · rintro ⟨hsome, hnot⟩
      exact absurd hsome hnot
  | cons c earlier ih =>
    by_cases hfails : (p.after earlier).Fails c
    · -- Nothing is sent, and what is held but no longer cached is stranded from now on.
      rw [held_cons_of_no_updates (updates_of_fails hfails)]
      constructor
      · intro hstranded
        cases hstranded with
        | dropped _ held _ gone => exact ⟨held, gone⟩
        | kept stranded gone => exact ⟨(ih.1 stranded).1, gone⟩
      · rintro ⟨held, gone⟩
        by_cases hcached : (p.after earlier).cache.queues.contains id
        · exact .dropped hfails held hcached gone
        · exact .kept (ih.2 ⟨held, hcached⟩) gone
    · have hupdates := updates_of_not_fails hfails
      rw [stranded_cons_iff hfails, ih]
      by_cases hall : c.change.all (·.kind = .queue)
      · -- What is removed gets a tombstone, so only what was not cached before can be left over.
        rw [if_pos hall] at hupdates
        have hheld := held_of_refresh (hasQueues_after h (c :: earlier)) hid hupdates.1
        by_cases hnow : (p.after (c :: earlier)).cache.queues.contains id
        · simp [hnow]
        · rw [hheld, if_neg hnow]
          by_cases hcached : (p.after earlier).cache.queues.contains id
          · simp [hcached]
          · simp [hcached]
      · rw [if_neg hall] at hupdates
        have hsame : (p.after (c :: earlier)).cache.queues = (p.after earlier).cache.queues := hupdates.2
        rw [held_cons_of_no_updates hupdates.1, hsame, and_assoc, and_self]

/-- Only queues with positive ids are updated. -/
theorem held_of_not_pos (hid : ¬Queue.directId < id) (history : List ChangeCommand) :
    p.held history id = none :=
  Queue.foldl_update_eq_self (fun _ _ _ => hid) none

theorem not_stranded_of_not_pos (hid : ¬Queue.directId < id) (history : List ChangeCommand) :
    ¬p.Stranded id history := by
  intro h
  induction h with
  | dropped _ held _ _ =>
    rw [held_of_not_pos hid] at held
    cases held
  | kept _ _ ih => exact ih

/-- Only a refresh of everything strands queues: any other one that fails leaves the cache alone. -/
theorem Stranded.exists_refresh_of_everything {history : List ChangeCommand}
    (h : p.Stranded id history) : ∃ c ∈ history, c.change = none := by
  induction h with
  | @dropped c earlier fails _ cached gone =>
    refine ⟨c, List.mem_cons_self, ?_⟩
    cases hchange : c.change with
    | none => rfl
    | some change =>
      have hcache := take_cache (p.after earlier) c
      obtain ⟨e, he⟩ := fails
      rw [hchange, refreshCache] at he hcache
      split at he
      · next hrefresh =>
        rw [hrefresh] at hcache
        rw [after, hcache] at gone
        exact absurd cached gone
      · cases he
  | kept _ _ ih =>
    obtain ⟨c, hmem, hc⟩ := ih
    exact ⟨c, List.mem_cons_of_mem _ hmem, hc⟩

/-- A worker that began with the planner's queues, once it has got the updates among whatever else. -/
private theorem definition?_eq_held {ops : List WorkerOperation}
    (hops : WorkerOperation.updates ops = p.sent earlier) (settings : WorkerSettings) (begun : Instant)
    (hid : id ≠ Queue.directId) :
    ((Worker.init settings p.cache.queues.values begun).performAll ops).definition? id =
      p.held earlier id := by
  rw [Worker.definition?_performAll_init, hops, if_neg hid]
  rfl

theorem hasQueues_start {settings : SchedulerSettings} {source : EntitySource} {now : Instant}
    (h : Planner.start settings source now = .ok p) : p.cache.HasQueues := by
  refine start_keeps Cache.HasQueues.refresh ?_ h
  intro id q hq
  rw [ById.get?_empty] at hq
  cases hq

/-- After a refresh of all queues that succeeds, the cache has what the source lists, and a worker that has got
all updates has the same, but for the queues that are stranded. -/
theorem queues_agree_iff_not_stranded {settings : SchedulerSettings} {source : EntitySource}
    {now : Instant} {p : Planner} (hstart : Planner.start settings source now = .ok p)
    {c : ChangeCommand} {earlier : List ChangeCommand}
    (hall : c.change = none ∨ c.change = some { kind := .queue }) (hok : ¬(p.after earlier).Fails c)
    {ops : List WorkerOperation} (hops : WorkerOperation.updates ops = p.sent (c :: earlier))
    (workerSettings : WorkerSettings) (begun : Instant) :
    let cached := (p.after (c :: earlier)).cache.queues
    let w := (Worker.init workerSettings p.cache.queues.values begun).performAll ops
    (∃ queues, c.source.queues none = .ok queues ∧
      cached = .ofList (·.id) (queues.map Queue.normalize)) ∧
    ∀ id, id ≠ Queue.directId →
      (w.definition? id = (if Queue.directId < id then cached.get? id else none) ↔
        ¬p.Stranded id (c :: earlier)) := by
  intro cached w
  have hqueues := hasQueues_start hstart
  have hsent := updates_of_not_fails hok
  obtain ⟨hkind, hid⟩ : c.change.all (·.kind = .queue) = true ∧ c.change.bind (·.id) = none := by
    rcases hall with h | h
    · rw [h]
      exact ⟨rfl, rfl⟩
    · rw [h]
      exact ⟨rfl, rfl⟩
  rw [if_pos hkind, hid] at hsent
  obtain ⟨hupdates, hread⟩ := hsent
  refine ⟨hread, fun id hne => ?_⟩
  rw [definition?_eq_held hops workerSettings begun hne]
  by_cases hpos : Queue.directId < id
  · have hheld := held_of_refresh (hasQueues_after hqueues (c :: earlier)) hpos hupdates
    rw [if_pos hpos, stranded_iff hqueues hpos]
    by_cases hnow : cached.contains id
    · rw [hheld, if_pos hnow]
      exact iff_of_true rfl fun h => h.2 hnow
    · rw [ById.get?_eq_none_of_not_contains hnow]
      constructor
      · intro hgone h
        rw [hgone] at h
        exact absurd h.1 (by simp)
      · intro h
        cases hkept : p.held (c :: earlier) id with
        | none => rfl
        | some d => exact absurd ⟨by rw [hkept]; rfl, hnow⟩ h
  · rw [if_neg hpos, held_of_not_pos hpos]
    exact iff_of_true rfl (not_stranded_of_not_pos hpos _)

/-! ### A queue that is stranded -/

private def reports : Queue := { id := 5, name := "reports", slot := 1 }

private def listing (queues : List Queue) : EntitySource where
  agents _ := .ok []
  tasks _ := .ok []
  queues _ := .ok queues
  flows _ := .ok []
  schedules _ := .ok []

/-- Everything is loaded again while the queue is gone and the flows cannot be read. -/
private def broken : ChangeCommand where
  source := { listing [] with flows := fun _ => .error (.repository "read taskflow") }
  change := none

/-- Everything is loaded again once the flows can be read. -/
private def mended : ChangeCommand where
  source := listing []
  change := none

private def begun : Instant := .ofSecond 1704099600

private def withReports : Planner := ofCache {} (Cache.refreshAll {} (listing [reports])).1 begun

private theorem withReports_start : Planner.start {} (listing [reports]) begun = .ok withReports := rfl

private theorem mended_not_fails : ¬(withReports.after [broken]).Fails mended := by
  rintro ⟨e, he⟩
  cases he

private theorem reports_stranded : withReports.Stranded 5 [mended, broken] :=
  .kept (.dropped ⟨_, rfl⟩ (by decide) (by decide) (by decide)) (by decide)

/-- The updates that the planner sends, one after another. -/
private def updatesOf (queues : List Queue) : List WorkerOperation :=
  queues.map fun q => .react (.updateQueue q) begun

private theorem updates_updatesOf (queues : List Queue) :
    WorkerOperation.updates (updatesOf queues) = queues := by
  rw [WorkerOperation.updates, updatesOf, List.filterMap_map]
  exact List.filterMap_some

/-- A queue is removed while the flows cannot be read, and all is well after that. -/
theorem queues_agree_iff_not_stranded_after_failure :
    let history := [mended, broken]
    let cached := (withReports.after history).cache.queues
    let w := (Worker.init {} withReports.cache.queues.values begun).performAll
      (updatesOf (withReports.sent history))
    Planner.start {} (listing [reports]) begun = .ok withReports ∧
      ¬(withReports.after [broken]).Fails mended ∧
      (∃ queues, mended.source.queues none = .ok queues ∧
        cached = .ofList (·.id) (queues.map Queue.normalize)) ∧
      ∀ id, id ≠ Queue.directId →
        (w.definition? id = (if Queue.directId < id then cached.get? id else none) ↔
          ¬withReports.Stranded id history) :=
  ⟨withReports_start, mended_not_fails,
    queues_agree_iff_not_stranded withReports_start (.inl rfl) mended_not_fails
      (updates_updatesOf _) {} begun⟩

/-- The queue is neither listed nor cached after the refresh that succeeds, and still the worker has it. -/
theorem removed_queue_survives :
    let history := [mended, broken]
    let w := (Worker.init {} withReports.cache.queues.values begun).performAll
      (updatesOf (withReports.sent history))
    Planner.start {} (listing [reports]) begun = .ok withReports ∧ mended.change = none ∧
      ¬(withReports.after [broken]).Fails mended ∧ mended.source.queues none = .ok [] ∧
      (withReports.after history).cache.queues.get? 5 = none ∧ (w.definition? 5).isSome := by
  intro history w
  have hqueues := hasQueues_start withReports_start
  obtain ⟨hheld, -⟩ := (stranded_iff hqueues (by decide) history).1 reports_stranded
  refine ⟨withReports_start, rfl, mended_not_fails, rfl, by decide, ?_⟩
  rw [definition?_eq_held (updates_updatesOf _) {} begun (by decide)]
  exact hheld

end Planner

end FlowScheduler
