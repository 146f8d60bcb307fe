import Mathlib
import FlowScheduler.Proofs.Dispatch.Image
import FlowScheduler.Proofs.Dispatch.Preparation
import FlowScheduler.Repository.DefinitionsFile

/-!
What a repository over a definitions file serves.

Definitions without a fault are the valid ones (`Definitions.fault?_eq_none_iff`), and only such are ever loaded. The
files may change at any time, and outcomes are saved in between; the repository serves the definitions that were
loaded last, as a whole, each task flow with the outcome that was saved last for it
(`RepositorySite.serves_last_loaded`). What was loaded and what was saved is read off the events alone
(`RepositoryEvent.loads`, `RepositoryEvent.lastSaved?`).
-/

namespace FlowScheduler

/-! ### Valid definitions -/

namespace TaskFlow

variable {flow : TaskFlow} {count place : Nat} {s : TaskFlowStep} {steps : List TaskFlowStep}

/-- Whether a flow has a name and steps, numbered from 1, and points to none past the last. -/
structure IsSound (flow : TaskFlow) : Prop where
  name_visible : ∃ c ∈ flow.name.toList, Text.isBlank c = false
  steps_ne : flow.steps ≠ []
  numbered : flow.steps.map (·.index) = List.range' 1 flow.steps.length
  target_le : ∀ s ∈ flow.steps, ∀ target, s.nextOnOk = .goto target ∨ s.nextOnFail = .goto target →
    target ≤ flow.steps.length

theorem badTarget?_eq_none_iff : badTarget? count s = none ↔
    ∀ target, s.nextOnOk = .goto target ∨ s.nextOnFail = .goto target → target ≤ count := by
  refine ⟨fun h target => le_of_badTarget?_eq_none h, fun h => ?_⟩
  simp only [badTarget?, List.findSome?_eq_none_iff, List.mem_cons, List.not_mem_nil, or_false,
    forall_eq_or_imp, forall_eq]
  constructor
  · cases hok : s.nextOnOk with
    | goto target => simpa using h target (.inl hok)
    | fail | sequential => rfl
  · cases hfail : s.nextOnFail with
    | goto target => simpa using h target (.inr hfail)
    | fail | sequential => rfl

theorem stepFault?_eq_none_iff : stepFault? count place steps = none ↔
    steps.map (·.index) = List.range' place steps.length ∧ ∀ s ∈ steps, badTarget? count s = none := by
  induction steps generalizing place with
  | nil => simp [stepFault?]
  | cons s steps ih =>
    rw [stepFault?, List.map_cons, List.length_cons, List.range'_succ, List.cons.injEq,
      List.forall_mem_cons]
    split
    · next hindex => simp [hindex]
    · next hindex =>
      have hplace : s.index = place := by simpa using hindex
      cases htarget : badTarget? count s with
      | some target => simp
      | none => simp [hplace, ih]

theorem fault?_eq_none_iff : flow.fault? = none ↔ flow.IsSound := by
  constructor
  · intro h
    obtain ⟨hne, hsteps⟩ := stepFault?_of_fault? h
    have hname : Text.isAllBlank flow.name = false := by
      cases hblank : Text.isAllBlank flow.name with
      | false => rfl
      | true => rw [fault?, if_pos hblank] at h; cases h
    refine ⟨?_, hne, (stepFault?_eq_none_iff.1 hsteps).1, fun s hs target => target_le_of_fault? h hs⟩
    simpa [Text.isAllBlank] using hname
  · rintro ⟨hname, hne, hnumbered, htarget⟩
    have hblank : ¬Text.isAllBlank flow.name := by simpa [Text.isAllBlank] using hname
    rw [fault?, if_neg hblank, if_neg hne]
    exact stepFault?_eq_none_iff.2 ⟨hnumbered, fun s hs => badTarget?_eq_none_iff.2 (htarget s hs)⟩

end TaskFlow

namespace Definitions

variable {d : Definitions}

/-- Whether no two entities of a kind share an id, all queues have positive ids and all flows are sound. -/
structure IsValid (d : Definitions) : Prop where
  unique : d.HasUniqueIds
  queue_pos : ∀ q ∈ d.queues, Queue.directId < q.id
  flow_sound : ∀ f ∈ d.flows, f.IsSound

theorem duplicateFault?_eq_none_iff {kind : EntityKind} {ids : List Int} :
    duplicateFault? kind ids = none ↔ ids.Nodup := by
  rw [duplicateFault?, Option.map_eq_none_iff, duplicate?_eq_none_iff]
  simp

/-- The ids of a kind are those of its list. -/
theorem map_id_entities : (d.entities .agent).map (·.id) = d.agents.map (·.id) ∧
    (d.entities .task).map (·.id) = d.tasks.map (·.id) ∧
    (d.entities .queue).map (·.id) = d.queues.map (·.id) ∧
    (d.entities .taskFlow).map (·.id) = d.flows.map (·.id) ∧
    (d.entities .schedule).map (·.id) = d.schedules.map (·.id) := by
  simp only [entities, List.map_map]
  exact ⟨rfl, rfl, rfl, rfl, rfl⟩

theorem hasUniqueIds_iff : d.HasUniqueIds ↔ (d.agents.map (·.id)).Nodup ∧ (d.tasks.map (·.id)).Nodup ∧
    (d.queues.map (·.id)).Nodup ∧ (d.flows.map (·.id)).Nodup ∧ (d.schedules.map (·.id)).Nodup := by
  obtain ⟨hagents, htasks, hqueues, hflows, hschedules⟩ := map_id_entities (d := d)
  rw [← hagents, ← htasks, ← hqueues, ← hflows, ← hschedules]
  constructor
  · exact fun h => ⟨h .agent, h .task, h .queue, h .taskFlow, h .schedule⟩
  · rintro ⟨hagent, htask, hqueue, hflow, hschedule⟩ kind
    cases kind with
    | agent => exact hagent
    | task => exact htask
    | queue => exact hqueue
    | taskFlow => exact hflow
    | schedule => exact hschedule

theorem fault?_eq_none_iff : d.fault? = none ↔ d.IsValid := by
  have hqueues : (d.queues.findSome? fun q =>
      if q.id ≤ Queue.directId then some (DefinitionsFault.queueId q.id) else none) = none ↔
      ∀ q ∈ d.queues, Queue.directId < q.id := by
    simp [List.findSome?_eq_none_iff]
  have hflows : (d.flows.findSome? fun f => f.fault?.map (DefinitionsFault.badFlow f.id)) = none ↔
      ∀ f ∈ d.flows, f.IsSound := by
    simp [List.findSome?_eq_none_iff, TaskFlow.fault?_eq_none_iff]
  have hvalid : d.IsValid ↔ d.HasUniqueIds ∧ (∀ q ∈ d.queues, Queue.directId < q.id) ∧
      ∀ f ∈ d.flows, f.IsSound :=
    ⟨fun h => ⟨h.unique, h.queue_pos, h.flow_sound⟩, fun h => ⟨h.1, h.2.1, h.2.2⟩⟩
  rw [hvalid, hasUniqueIds_iff, ← hqueues, ← hflows]
  simp only [fault?, List.findSome?_eq_none_iff, List.mem_cons, List.not_mem_nil, or_false,
    forall_eq_or_imp, forall_eq, id_eq, duplicateFault?_eq_none_iff]
  tauto

theorem isValid_ofFile {path content : String} (h : ofFile path content = .ok d) : d.IsValid := by
  rw [ofFile] at h
  split at h
  · cases h
  · split at h
    · cases h
    · next hfault =>
      cases h
      exact fault?_eq_none_iff.1 hfault

/-- The definitions with the given outcomes as those of the last runs. -/
def withLastRuns (d : Definitions) (lastRun? : Int → Option RunOutcome) : Definitions :=
  { d with flows := d.flows.map fun f => { f with lastRun := (lastRun? f.id).getD f.lastRun } }

theorem hasUniqueIds_withLastRuns (h : d.HasUniqueIds) (lastRun? : Int → Option RunOutcome) :
    (d.withLastRuns lastRun?).HasUniqueIds := by
  rw [hasUniqueIds_iff] at h ⊢
  rw [withLastRuns, List.map_map]
  exact h

end Definitions

/-! ### Reading -/

namespace FileRepository

variable {files : Files} {path : String} {r : FileRepository} {d : Definitions}

theorem isValid_readFile (h : readFile files path = .ok d) : d.IsValid := by
  rw [readFile] at h
  split at h
  · exact Definitions.isValid_ofFile h
  · cases h

theorem current_eq (r : FileRepository) : r.current = r.definitions.withLastRuns r.lastOutcome? := by
  have hflow (f : TaskFlow) :
      r.withOutcome f = { f with lastRun := (r.lastOutcome? f.id).getD f.lastRun } := by
    rw [withOutcome]
    cases r.lastOutcome? f.id with
    | none | some outcome => rfl
  rw [current, Definitions.withLastRuns]
  exact congrArg (fun flows => { r.definitions with flows }) (List.map_congr_left fun f _ => hflow f)

/-- A reading lists the entities of a kind that it asks for. -/
theorem entities_source (r : FileRepository) (kind : EntityKind) (only : Option Int) :
    r.source.entities kind only = .ok ((r.current.entities kind).filter fun e => only.all (· == e.id)) := by
  cases kind with
  | agent | task | taskFlow | queue | schedule =>
    simp only [EntitySource.entities, source, Definitions.source, Definitions.entities,
      Definitions.select, Except.map, List.filter_map]
    rfl

end FileRepository

/-- Where ids are unique, at most one entity has an id. -/
theorem Entity.filter_id_eq {es : List Entity} (h : (es.map (·.id)).Nodup) (id : Int) :
    (es.filter fun e => id == e.id) = (es.find? (·.id == id)).toList := by
  induction es with
  | nil => rfl
  | cons e es ih =>
    rw [List.map_cons, List.nodup_cons] at h
    by_cases hid : e.id = id
    · have hrest : (es.filter fun e => id == e.id) = [] := by
        refine List.filter_eq_nil_iff.2 fun o ho heq => ?_
        exact h.1 (List.mem_map.2 ⟨o, ho, (beq_iff_eq.1 heq).symm.trans hid.symm⟩)
      simp [hid, hrest]
    · have hne : id ≠ e.id := fun heq => hid heq.symm
      simp [hid, hne, ih h.2]

/-! ### Events -/

/-- What happens to a repository and to the files around it. -/
inductive RepositoryEvent where
  /-- The entities of a kind are read: all of them, or those with an id. -/
  | list (kind : EntityKind) (only : Option Int)
  | save (flowId : Int) (outcome : RunOutcome)
  /-- Files are written or deleted by others. -/
  | touch (files : Files)
  | reload

namespace RepositoryEvent

/-- What the reloads among some events read from the file, as far as they succeed. -/
def loads (path : Option String) : (files : Files) → List RepositoryEvent → List Definitions
  | _, [] => []
  | _, touch files :: events => loads path files events
  | files, reload :: events =>
    (path.bind fun p => (FileRepository.readFile files p).toOption).toList ++ loads path files events
  | files, _ :: events => loads path files events

/-- The outcome that an event saves for a flow. -/
def saved? (flowId : Int) : RepositoryEvent → Option RunOutcome
  | save id outcome => if id = flowId then some outcome else none
  | _ => none

/-- The outcome that was saved last for a flow. -/
def lastSaved? (flowId : Int) (events : List RepositoryEvent) : Option RunOutcome :=
  events.reverse.findSome? (saved? flowId)

theorem lastSaved?_snoc (flowId : Int) (events : List RepositoryEvent) (e : RepositoryEvent) :
    lastSaved? flowId (events ++ [e]) = (e.saved? flowId).or (lastSaved? flowId events) := by
  rw [lastSaved?, List.reverse_append, List.reverse_singleton, List.singleton_append,
    List.findSome?_cons, ← lastSaved?]
  cases e.saved? flowId with
  | none | some outcome => rfl

end RepositoryEvent

/-- A repository among files that others may change. -/
structure RepositorySite where
  files : Files
  repository : FileRepository

namespace RepositorySite

/-- The site after an event. A reload that fails leaves the repository as it is. -/
def perform (s : RepositorySite) : RepositoryEvent → RepositorySite
  | .list .. => s
  | .save flowId outcome => { s with repository := s.repository.save flowId outcome }
  | .touch files => { s with files }
  | .reload => { s with repository := (s.repository.reload s.files).toOption.getD s.repository }

/-- The site after several events in a row. -/
def performAll (s : RepositorySite) (events : List RepositoryEvent) : RepositorySite :=
  events.foldl perform s

variable {s : RepositorySite} {events : List RepositoryEvent}

/-- A reload takes in what the file holds, if that is valid, and touches nothing else. -/
theorem perform_reload (s : RepositorySite) :
    s.perform .reload = { s with repository := { s.repository with
      definitions := (s.repository.path.bind fun p =>
        (FileRepository.readFile s.files p).toOption).getD s.repository.definitions } } := by
  obtain ⟨files, path, definitions, outcomes⟩ := s
  cases path with
  | none => rfl
  | some p =>
    simp only [perform, FileRepository.reload, Option.bind_some]
    cases FileRepository.readFile files p with
    | error e | ok d => rfl

theorem path_perform (s : RepositorySite) (e : RepositoryEvent) :
    (s.perform e).repository.path = s.repository.path := by
  cases e with
  | reload => rw [perform_reload]
  | list | save | touch => rfl

/-- What is served was loaded last. -/
theorem definitions_performAll (s : RepositorySite) (events : List RepositoryEvent) :
    (s.performAll events).repository.definitions =
      (RepositoryEvent.loads s.repository.path s.files events).getLastD s.repository.definitions := by
  induction events generalizing s with
  | nil => rfl
  | cons e events ih =>
    show ((s.perform e).performAll events).repository.definitions = _
    rw [ih, path_perform]
    cases e with
    | list | save | touch => rfl
    | reload =>
      rw [perform_reload, RepositoryEvent.loads]
      cases s.repository.path.bind fun p => (FileRepository.readFile s.files p).toOption with
      | none => rfl
      | some d => rw [Option.toList_some, List.singleton_append, List.getLastD_cons, Option.getD_some]

theorem isValid_performAll (h : s.repository.definitions.IsValid) (events : List RepositoryEvent) :
    (s.performAll events).repository.definitions.IsValid := by
  induction events generalizing s with
  | nil => exact h
  | cons e events ih =>
    refine ih ?_
    cases e with
    | list | save | touch => exact h
    | reload =>
      rw [perform_reload]
      cases hread : s.repository.path.bind fun p => (FileRepository.readFile s.files p).toOption with
      | none => exact h
      | some d =>
        obtain ⟨p, -, hp⟩ := Option.bind_eq_some_iff.1 hread
        refine FileRepository.isValid_readFile (?_ : FileRepository.readFile s.files p = .ok d)
        cases hfile : FileRepository.readFile s.files p with
        | error e =>
          rw [hfile] at hp
          cases hp
        | ok d' =>
          rw [hfile] at hp
          cases hp
          rfl

theorem lastOutcome?_perform (s : RepositorySite) (e : RepositoryEvent) (flowId : Int) :
    (s.perform e).repository.lastOutcome? flowId =
      (e.saved? flowId).or (s.repository.lastOutcome? flowId) := by
  cases e with
  | list | touch => rfl
  | reload =>
    rw [perform_reload]
    rfl
  | save id outcome =>
    refine (ById.get?_insert s.repository.outcomes id flowId outcome).trans ?_
    rw [RepositoryEvent.saved?]
    by_cases hid : id = flowId
    · rw [if_pos hid, if_pos hid.symm]
      rfl
    · rw [if_neg hid, if_neg (Ne.symm hid)]
      rfl

/-- The outcome on record is the one that was saved last. -/
theorem lastOutcome?_performAll (s : RepositorySite) (events : List RepositoryEvent) (flowId : Int) :
    (s.performAll events).repository.lastOutcome? flowId =
      (RepositoryEvent.lastSaved? flowId events).or (s.repository.lastOutcome? flowId) := by
  induction events using List.reverseRecOn with
  | nil => rfl
  | append_singleton events e ih =>
    rw [performAll, List.foldl_append]
    refine (lastOutcome?_perform (s.performAll events) e flowId).trans ?_
    rw [ih, RepositoryEvent.lastSaved?_snoc, Option.or_assoc]

/-! ### What is served -/

/-- Whether a repository has just been set up with these definitions. -/
inductive Opens (files : Files) (r : FileRepository) : Definitions → Prop where
  /-- They were read from the file at a path. -/
  | file {path : String} {d : Definitions} : FileRepository.readFile files path = .ok d →
      FileRepository.openFile files path = .ok r → Opens files r d
  /-- They were handed over. -/
  | given {d : Definitions} : FileRepository.ofDefinitions d = .ok r → Opens files r d

/-- A site serves definitions with the outcomes of the last runs. -/
structure Serves (s : RepositorySite) (d : Definitions) (lastRun? : Int → Option RunOutcome) : Prop where
  definitions_eq : s.repository.definitions = d
  valid : d.IsValid
  lastOutcome_eq : ∀ flowId, s.repository.lastOutcome? flowId = lastRun? flowId
  /-- All of a kind are listed, the flows with their last runs. -/
  list_all : ∀ kind, s.repository.source.entities kind none =
    .ok ((d.withLastRuns lastRun?).entities kind)
  /-- Under an id the one entity is listed that has it, or none. -/
  list_one : ∀ kind id, s.repository.source.entities kind (some id) =
    .ok (((d.withLastRuns lastRun?).entities kind).find? (·.id == id)).toList
  /-- A reload that fails changes nothing. -/
  reload_error : ∀ e, s.repository.reload s.files = .error e → s.perform .reload = s
  /-- A reload that succeeds keeps the outcomes. -/
  reload_ok : ∀ r, s.repository.reload s.files = .ok r →
    s.perform .reload = { s with repository := r } ∧ r.outcomes = s.repository.outcomes

namespace Opens

variable {files : Files} {r : FileRepository} {d : Definitions}

theorem definitions_eq (h : Opens files r d) : r.definitions = d ∧ r.outcomes = ∅ := by
  cases h with
  | @file path _ hread hopen =>
    rw [FileRepository.openFile, hread] at hopen
    cases hopen
    exact ⟨rfl, rfl⟩
  | given hgiven =>
    rw [FileRepository.ofDefinitions] at hgiven
    split at hgiven
    · cases hgiven
    · cases hgiven
      exact ⟨rfl, rfl⟩

theorem isValid (h : Opens files r d) : d.IsValid := by
  cases h with
  | file hread _ => exact FileRepository.isValid_readFile hread
  | given hgiven =>
    rw [FileRepository.ofDefinitions] at hgiven
    split at hgiven
    · cases hgiven
    · next hfault => exact Definitions.fault?_eq_none_iff.1 hfault

end Opens

/-- Whatever happens, a repository serves the valid definitions that were loaded last, and the outcomes that were
saved last. -/
theorem serves_last_loaded {files : Files} {r : FileRepository} {d : Definitions} (h : Opens files r d)
    (events : List RepositoryEvent) :
    ((⟨files, r⟩ : RepositorySite).performAll events).Serves
      ((RepositoryEvent.loads r.path files events).getLastD d)
      (RepositoryEvent.lastSaved? · events) := by
  obtain ⟨hdefinitions, houtcomes⟩ := h.definitions_eq
  have hserved := definitions_performAll ⟨files, r⟩ events
  have hlast (flowId : Int) :
      ((⟨files, r⟩ : RepositorySite).performAll events).repository.lastOutcome? flowId =
        RepositoryEvent.lastSaved? flowId events := by
    have hnone : r.lastOutcome? flowId = none := by
      rw [FileRepository.lastOutcome?, houtcomes]
      rfl
    rw [lastOutcome?_performAll, hnone, Option.or_none]
  have hvalid := isValid_performAll (s := ⟨files, r⟩) (hdefinitions ▸ h.isValid) events
  generalize (⟨files, r⟩ : RepositorySite).performAll events = s at hserved hlast hvalid ⊢
  rw [hdefinitions] at hserved
  have hcurrent : s.repository.current =
      ((RepositoryEvent.loads r.path files events).getLastD d).withLastRuns
        (RepositoryEvent.lastSaved? · events) := by
    rw [FileRepository.current_eq, hserved]
    exact congrArg _ (funext hlast)
  have hunique := Definitions.hasUniqueIds_withLastRuns hvalid.unique s.repository.lastOutcome?
  rw [← FileRepository.current_eq, hcurrent] at hunique
  refine ⟨hserved, hserved ▸ hvalid, hlast, fun kind => ?_, fun kind id => ?_, fun e he => ?_,
    fun r' hr' => ?_⟩
  · rw [FileRepository.entities_source, hcurrent]
    exact congrArg Except.ok (List.filter_eq_self.2 fun _ _ => rfl)
  · rw [FileRepository.entities_source, hcurrent]
    exact congrArg Except.ok (Entity.filter_id_eq (hunique kind) id)
  · rw [perform, he]
    rfl
  · have hperform : s.perform .reload = { s with repository := r' } := by
      rw [perform, hr']
      rfl
    refine ⟨hperform, ?_⟩
    have hsame := congrArg (·.repository.outcomes) hperform
    rw [perform_reload] at hsame
    exact hsame.symm

/-! ### A file that is revised -/

private def catalogue (text : String) : Files := { entries := [("flows.toml", text)] }

private def queueText (name : String) : String :=
  "[[queues]]\nid = 1\nname = \"" ++ name ++ "\"\nslot = 1\n"

private def flowText : String :=
  "[[taskflows]]\nid = 7\nname = \"export\"\n[[taskflows.steps]]\nindex = 1\ntask_id = 1\n"

private def catalogued (name : String) : Definitions where
  queues := [{ id := 1, name := name, slot := 1 }]
  flows := [{ id := 7, name := "export", steps := [{ index := 1, taskId := 1 }] }]

private def opened : FileRepository := { path := some "flows.toml", definitions := catalogued "nightly" }

/-- The file gets two queues of one id, then one queue of another name, and is deleted in the end. -/
private def revisions : List RepositoryEvent :=
  [.save 7 { result := .fail }, .touch (catalogue (queueText "nightly" ++ queueText "twice")), .reload,
    .touch (catalogue (queueText "overnight" ++ flowText)), .reload, .save 7 { result := .ok },
    .touch {}, .reload]

/-- Of three reloads the second succeeds. -/
theorem serves_last_loaded_over_revisions :
    let files := catalogue (queueText "nightly" ++ flowText)
    Opens files opened (catalogued "nightly") ∧
      RepositoryEvent.loads opened.path files revisions = [catalogued "overnight"] ∧
      ((⟨files, opened⟩ : RepositorySite).performAll revisions).Serves (catalogued "overnight")
        (RepositoryEvent.lastSaved? · revisions) ∧
      RepositoryEvent.lastSaved? 7 revisions = some { result := .ok } := by
  intro files
  have hread : FileRepository.readFile files "flows.toml" = .ok (catalogued "nightly") := by
    decide +kernel
  have hopens : Opens files opened (catalogued "nightly") := by
    refine .file hread ?_
    rw [FileRepository.openFile, hread]
    rfl
  have hloads : RepositoryEvent.loads opened.path files revisions = [catalogued "overnight"] := by
    decide +kernel
  have hserves := serves_last_loaded hopens revisions
  rw [hloads] at hserves
  exact ⟨hopens, hloads, hserves, by decide +kernel⟩

end RepositorySite

end FlowScheduler
