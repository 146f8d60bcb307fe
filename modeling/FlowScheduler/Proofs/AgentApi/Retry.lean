import Mathlib
import FlowScheduler.AgentApi.HttpClient

/-!
What comes of the attempts to reach an agent.

A request is sent again for as long as no attempt got a response and attempts are left; the first response
ends the sending, whatever it says. What an exchange with an agent comes to is told from the attempts alone
(`Exchanges`), in the same way for both questions that agents are asked (`submit_poll_exchanges`).
-/

namespace FlowScheduler

open Document

namespace Http

variable {t : Transport} {r : Response} {more sent pauses k max : Nat} {α : Type}

/-! ### Attempts -/

/-- Whether all of the first attempts fail. -/
def Transport.Fails (t : Transport) (attempts : Nat) : Prop :=
  ∀ k < attempts, ∃ reason, t k = .error reason

/-- Whether the first response comes after `k` failures, and soon enough for `max` attempts. -/
structure Transport.Responds (t : Transport) (max k : Nat) (r : Response) : Prop where
  lt : k < max
  response : t k = .ok r
  fails : t.Fails k

theorem Transport.fails_or_responds (t : Transport) (max : Nat) :
    t.Fails max ∨ ∃ k r, t.Responds max k r := by
  induction max with
  | zero => exact .inl fun _ h => absurd h (Nat.not_lt_zero _)
  | succ max ih =>
    rcases ih with hfails | ⟨k, r, hlt, hresponse, hfails⟩
    · cases hmax : t max with
      | ok r => exact .inr ⟨max, r, Nat.lt_succ_self max, hmax, hfails⟩
      | error reason =>
        refine .inl fun k hk => ?_
        rcases Nat.lt_succ_iff_lt_or_eq.1 hk with hlt | rfl
        · exact hfails k hlt
        · exact ⟨reason, hmax⟩
    · exact .inr ⟨k, r, Nat.lt_succ_of_lt hlt, hresponse, hfails⟩

theorem Transport.Responds.not_fails (h : t.Responds max k r) : ¬t.Fails max := by
  intro hfails
  obtain ⟨reason, hreason⟩ := hfails k h.lt
  rw [h.response] at hreason
  cases hreason

theorem Transport.Responds.unique {k' : Nat} {r' : Response} (h : t.Responds max k r)
    (h' : t.Responds max k' r') : k = k' ∧ r = r' := by
  have hk : k = k' := by
    rcases Nat.lt_trichotomy k k' with hlt | heq | hlt
    · exact absurd h'.fails (not_fails ⟨hlt, h.response, h.fails⟩)
    · exact heq
    · exact absurd h.fails (not_fails ⟨hlt, h'.response, h'.fails⟩)
  subst hk
  have hresponse := h.response
  rw [h'.response] at hresponse
  cases hresponse
  exact ⟨rfl, rfl⟩

/-! ### Sending -/

/-- Failures lead from attempt to attempt, with a pause after each. -/
theorem sendFrom_add (hfails : ∀ j < k, ∃ reason, t (sent + j) = .error reason) :
    sendFrom t (k + more) sent pauses = sendFrom t more (sent + k) (pauses + k) := by
  induction k generalizing sent pauses with
  | zero => rw [Nat.zero_add, Nat.add_zero, Nat.add_zero]
  | succ k ih =>
    obtain ⟨reason, hreason⟩ := hfails 0 (Nat.succ_pos k)
    rw [Nat.add_zero] at hreason
    have hrest : ∀ j < k, ∃ reason, t (sent + 1 + j) = .error reason := by
      intro j hj
      rw [Nat.add_assoc, Nat.add_comm 1]
      exact hfails (j + 1) (Nat.succ_lt_succ hj)
    rw [Nat.add_right_comm, sendFrom, hreason]
    simp only
    rw [ih hrest, Nat.add_assoc, Nat.add_assoc, Nat.add_comm 1]

theorem sendFrom_of_ok (h : t sent = .ok r) : sendFrom t more sent pauses = ⟨.ok r, sent + 1, pauses⟩ := by
  cases more with
  | zero => rw [sendFrom, h]
  | succ more => rw [sendFrom, h]

theorem send_of_responds (h : t.Responds max k r) : send t max = ⟨.ok r, k + 1, k⟩ := by
  have hmax : max - 1 = k + (max - 1 - k) := by
    have := h.lt
    omega
  have hfails : ∀ j < k, ∃ reason, t (0 + j) = .error reason := by
    intro j hj
    rw [Nat.zero_add]
    exact h.fails j hj
  rw [send, hmax, sendFrom_add hfails, Nat.zero_add, sendFrom_of_ok h.response]

theorem send_of_fails (hmax : 0 < max) (h : t.Fails max) : send t max = ⟨t (max - 1), max, max - 1⟩ := by
  have hfails : ∀ j < max - 1, ∃ reason, t (0 + j) = .error reason := by
    intro j hj
    rw [Nat.zero_add]
    exact h j (by omega)
  have hsend : sendFrom t (max - 1 + 0) 0 0 = sendFrom t 0 (0 + (max - 1)) (0 + (max - 1)) :=
    sendFrom_add hfails
  rw [Nat.add_zero, Nat.zero_add] at hsend
  rw [send, hsend, sendFrom, Nat.sub_add_cancel hmax]

/-! ### Reading a response -/

/-- Whether a response accepts a task under an id. -/
def Response.Accepts (r : Response) (id : Int) : Prop :=
  r.status = 202 ∧ 0 < id ∧
    ∃ reply : SubmitReply, (Json.read? r.body).bind SubmitReply.ofValue? = some reply ∧ reply.id = id

/-- Whether a response tells the status of a task. -/
def Response.Tells (r : Response) (status : TaskStatus) : Prop :=
  r.status = 200 ∧ (Json.read? r.body).bind TaskStatus.ofValue? = some status

/-- Whether what is read from a response are its answers, and an error against the protocol otherwise. -/
structure Reads (read : Response → Except SchedulerError α) (Answers : Response → α → Prop) : Prop where
  ok_iff : ∀ r a, read r = .ok a ↔ Answers r a
  protocol : ∀ r e, read r = .error e → ∃ message, e = .agentProtocol message

theorem reads_acceptedId : Reads Response.acceptedId Response.Accepts where
  ok_iff r id := by
    rw [Response.acceptedId, Response.Accepts]
    split
    · next hstatus => simp [hstatus]
    · next hstatus =>
      rw [Decidable.not_not] at hstatus
      split
      · next hnone => simp [hnone]
      · next reply hreply =>
        split
        · next hid =>
          constructor
          · intro h
            cases h
          · rintro ⟨-, hpos, reply', hreply', rfl⟩
            rw [hreply] at hreply'
            cases hreply'
            exact absurd hpos (Int.not_lt.2 hid)
        · next hid =>
          constructor
          · intro h
            cases h
            exact ⟨hstatus, Int.not_le.1 hid, reply, hreply, rfl⟩
          · rintro ⟨-, -, reply', hreply', rfl⟩
            rw [hreply] at hreply'
            cases hreply'
            rfl
  protocol r e h := by
    rw [Response.acceptedId] at h
    split at h
    · cases h
      exact ⟨_, rfl⟩
    · split at h
      · cases h
        exact ⟨_, rfl⟩
      · split at h
        · cases h
          exact ⟨_, rfl⟩
        · cases h

theorem reads_taskStatus : Reads Response.taskStatus Response.Tells where
  ok_iff r status := by
    rw [Response.taskStatus, Response.Tells]
    split
    · next hstatus => simp [hstatus]
    · next hstatus =>
      rw [Decidable.not_not] at hstatus
      split
      · next hnone => simp [hnone]
      · next hsome => simp [hstatus, hsome]
  protocol r e h := by
    rw [Response.taskStatus] at h
    split at h
    · cases h
      exact ⟨_, rfl⟩
    · split at h
      · cases h
        exact ⟨_, rfl⟩
      · cases h

/-! ### Exchanges -/

/-- What an exchange comes to, from the attempts alone. -/
structure Exchanges (action : String) (t : Transport) (max : Nat) (Answers : Response → α → Prop)
    (result : Except SchedulerError α) : Prop where
  /-- The first response ends the sending, whatever its status. -/
  sent_of_responds : ∀ k r, t.Responds max k r → (send t max).sent = k + 1 ∧ (send t max).pauses = k
  sent_of_fails : t.Fails max → (send t max).sent = max ∧ (send t max).pauses = max - 1
  network_iff : (∃ message, result = .error (.network message)) ↔ t.Fails max
  /-- The report tells how often the request was sent, and why the last attempt failed. -/
  network_message : ∀ message, result = .error (.network message) → ∃ reason,
    t (max - 1) = .error reason ∧
      message = action ++ " 失败，已尝试 " ++ toString max ++ " 次: " ++ reason
  ok_iff : ∀ a, result = .ok a ↔ ∃ k r, t.Responds max k r ∧ Answers r a
  protocol_iff : (∃ message, result = .error (.agentProtocol message)) ↔
    ∃ k r, t.Responds max k r ∧ ∀ a, ¬Answers r a

theorem exchange_of_responds {action : String} {read : Response → Except SchedulerError α}
    (h : t.Responds max k r) : exchange action t max read = read r := by
  rw [exchange, send_of_responds h]
  rfl

theorem exchange_of_fails (action : String) (read : Response → Except SchedulerError α) (hmax : 0 < max)
    (h : t.Fails max) : ∃ reason, t (max - 1) = .error reason ∧ exchange action t max read =
      .error (.network (action ++ " 失败，已尝试 " ++ toString max ++ " 次: " ++ reason)) := by
  obtain ⟨reason, hreason⟩ := h (max - 1) (Nat.sub_one_lt_of_lt hmax)
  refine ⟨reason, hreason, ?_⟩
  rw [exchange, send_of_fails hmax h, hreason]
  rfl

theorem exchanges_of_fails {action : String} {read : Response → Except SchedulerError α}
    {Answers : Response → α → Prop} (hmax : 0 < max) (h : t.Fails max) :
    Exchanges action t max Answers (exchange action t max read) := by
  obtain ⟨reason, hreason, hresult⟩ := exchange_of_fails action read hmax h
  have hnone (k : Nat) (r : Response) : ¬t.Responds max k r := fun hresponds => hresponds.not_fails h
  rw [hresult]
  constructor
  · intro k r hresponds
    exact absurd hresponds (hnone k r)
  · intro _
    rw [send_of_fails hmax h]
    exact ⟨rfl, rfl⟩
  · exact ⟨fun _ => h, fun _ => ⟨_, rfl⟩⟩
  · intro message hmessage
    cases hmessage
    exact ⟨reason, hreason, rfl⟩
  · intro a
    constructor
    · intro hok
      cases hok
    · rintro ⟨k, r, hresponds, -⟩
      exact absurd hresponds (hnone k r)
  · constructor
    · rintro ⟨message, hmessage⟩
      cases hmessage
    · rintro ⟨k, r, hresponds, -⟩
      exact absurd hresponds (hnone k r)

theorem exchanges_of_responds {action : String} {read : Response → Except SchedulerError α}
    {Answers : Response → α → Prop} (hread : Reads read Answers) (h : t.Responds max k r) :
    Exchanges action t max Answers (exchange action t max read) := by
  have hnot_network (message : String) : read r ≠ .error (.network message) := by
    intro hnetwork
    obtain ⟨message', hmessage⟩ := hread.protocol r _ hnetwork
    cases hmessage
  rw [exchange_of_responds h]
  constructor
  · intro k' r' hresponds
    obtain ⟨rfl, rfl⟩ := h.unique hresponds
    rw [send_of_responds h]
    exact ⟨rfl, rfl⟩
  · intro hfails
    exact absurd hfails h.not_fails
  · constructor
    · rintro ⟨message, hnetwork⟩
      exact absurd hnetwork (hnot_network message)
    · intro hfails
      exact absurd hfails h.not_fails
  · intro message hnetwork
    exact absurd hnetwork (hnot_network message)
  · intro a
    rw [hread.ok_iff]
    constructor
    · intro hanswers
      exact ⟨k, r, h, hanswers⟩
    · rintro ⟨k', r', hresponds, hanswers⟩
      obtain ⟨rfl, rfl⟩ := h.unique hresponds
      exact hanswers
  · constructor
    · rintro ⟨message, hprotocol⟩
      refine ⟨k, r, h, fun a hanswers => ?_⟩
      rw [(hread.ok_iff r a).2 hanswers] at hprotocol
      cases hprotocol
    · rintro ⟨k', r', hresponds, hnot⟩
      obtain ⟨rfl, rfl⟩ := h.unique hresponds
      cases hresult : read r with
      | ok a => exact absurd ((hread.ok_iff r a).1 hresult) (hnot a)
      | error e =>
        obtain ⟨message, rfl⟩ := hread.protocol r e hresult
        exact ⟨message, rfl⟩

/-- Both questions to an agent are sent until the first response, with a pause between two attempts, and end
in a network error exactly if all attempts fail. The first response decides: a task is accepted with 202 and
a positive id, a status is told with 200, and every other response is against the protocol. -/
theorem submit_poll_exchanges (settings : AgentSettings) (connection : Connection) (a : Agent)
    (hsubmit : 0 < settings.submitMaxAttempts) (hpoll : 0 < settings.pollMaxAttempts) :
    (∀ request, Exchanges "提交任务" (connection (a.submitRequest request)) settings.submitMaxAttempts
      Response.Accepts (submit settings connection a request)) ∧
    ∀ remoteId, Exchanges "查询任务状态" (connection (a.pollRequest remoteId)) settings.pollMaxAttempts
      Response.Tells (poll settings connection a remoteId) := by
  have hexchanges {β : Type} {action : String} {t : Transport} {max : Nat}
      {read : Response → Except SchedulerError β} {Answers : Response → β → Prop}
      (hread : Reads read Answers) (hmax : 0 < max) :
      Exchanges action t max Answers (exchange action t max read) := by
    rcases t.fails_or_responds max with hfails | ⟨k, r, hresponds⟩
    · exact exchanges_of_fails hmax hfails
    · exact exchanges_of_responds hread hresponds
  constructor
  · intro request
    exact hexchanges reads_acceptedId hsubmit
  · intro remoteId
    exact hexchanges reads_taskStatus hpoll

private def localAgent : Agent := { id := 1, host := "http://localhost", apiKey := "k" }

private def accepted : Response := { status := 202, body := "\x7b\"id\":7\x7d" }

private def failed : Response where
  status := 200
  body := "\x7b\"id\":7,\"on_register\":true,\"terminated\":true,\"result_info\":\"exit 1\",\"duration_ms\":250\x7d"

private def failedStatus : TaskStatus where
  id := 7
  onRegister := true
  terminated := true
  resultInfo := "exit 1"
  durationMs := 250

/-- A task is accepted under the number 7, of which alone a status is told. -/
private def answerTo (q : Request) : Response :=
  if q.url = "http://localhost/task/queue/7" then failed else accepted

private def refusedTwice : Connection := fun q k => if k < 2 then .error "refused" else .ok (answerTo q)

/-- The third of three attempts is answered: the task is accepted, and its status is told. The same response as to the
submission tells no status. -/
theorem exchanges_refused_twice :
    let settings : AgentSettings := {}
    let request : TaskRequest := .urlCheck 0 "" "http://localhost"
    0 < settings.submitMaxAttempts ∧ 0 < settings.pollMaxAttempts ∧
      (send (refusedTwice (localAgent.submitRequest request)) settings.submitMaxAttempts).sent = 3 ∧
      submit settings refusedTwice localAgent request = .ok 7 ∧
      poll settings refusedTwice localAgent 7 = .ok failedStatus ∧
      ∃ message, poll settings refusedTwice localAgent 8 = .error (.agentProtocol message) := by
  intro settings request
  have hresponds {max : Nat} (q : Request) (hmax : 2 < max) : (refusedTwice q).Responds max 2 (answerTo q) := by
    refine ⟨hmax, rfl, fun j hj => ⟨"refused", ?_⟩⟩
    exact if_pos hj
  obtain ⟨hsubmit, hpoll⟩ := submit_poll_exchanges settings refusedTwice localAgent (by decide) (by decide)
  refine ⟨by decide, by decide, ((hsubmit request).sent_of_responds _ _ (hresponds _ (by decide))).1, ?_, ?_, ?_⟩
  · apply ((hsubmit request).ok_iff 7).2
    have hread : (Json.read? accepted.body).bind SubmitReply.ofValue? = some ⟨7, ""⟩ := by cbv
    exact ⟨2, _, hresponds _ (by decide), by decide, by decide, ⟨7, ""⟩, hread, rfl⟩
  · apply ((hpoll 7).ok_iff failedStatus).2
    have hread : (Json.read? failed.body).bind TaskStatus.ofValue? = some failedStatus := by cbv
    have hanswer : answerTo (localAgent.pollRequest 7) = failed := by decide +kernel
    exact ⟨2, _, hresponds _ (by decide), hanswer ▸ ⟨rfl, hread⟩⟩
  · apply (hpoll 8).protocol_iff.2
    have hanswer : answerTo (localAgent.pollRequest 8) = accepted := by decide +kernel
    refine ⟨2, _, hresponds _ (by decide), ?_⟩
    rintro status ⟨hstatus, -⟩
    rw [hanswer] at hstatus
    cases hstatus

end Http

end FlowScheduler
