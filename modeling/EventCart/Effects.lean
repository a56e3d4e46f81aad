/-
  EventCart.Effects
  ─────────────────
  **WHAT THE SHARED PROGRAMS DO WHEN THEY RETURN.**

  One lemma per program of `Events` and `Inbox`, read off the primitive
  operations once: which rows the session holds afterwards, and that the
  declared keys held at the last flush.  Later modules cite these lemmas and
  never unfold the programs again.

    §1  emitting, marking and recording;
    §2  `process_once` and the commit around it;
    §3  the disciplines the programs obey;
    §4  what goes through in a dependable database.
-/
import EventCart.Inbox

namespace EventCart

open EventCart.Lib
open EventCart.Lib.Tx

/-! ## §1. Emitting, marking, recording. -/

theorem flush_keyed {s t : Session Database} {u : Unit}
    (h : (flush : App Unit) s = .ok u t) :
    s.working.Keyed ∧ ∃ n, t = s.goto s.working n := by
  obtain ⟨hk, n, rfl⟩ := flush_ok h
  exact ⟨(admits_iff _).mp hk, n, rfl⟩

theorem commit_keyed {s t : Session Database} {u : Unit}
    (h : (commit : App Unit) s = .ok u t) :
    s.working.Keyed ∧ ∃ n, t = { s.goto s.working n with committed := s.working } := by
  obtain ⟨-, hk, n, rfl⟩ := commit_ok h
  exact ⟨(admits_iff _).mp hk, n, rfl⟩

theorem notifyOutboxEvent_ok {s t : Session Database} {b : Bool}
    (h : notifyOutboxEvent s = .ok b t) :
    s.working.Keyed ∧ ∃ n, t = s.goto s.working n := by
  obtain ⟨_, u, hu, h⟩ := bind_eq_ok.mp h
  obtain ⟨hk, n, rfl⟩ := flush_keyed hu
  obtain ⟨d, v, hv, h⟩ := bind_eq_ok.mp h
  simp only [dialect_apply, EStateM.Result.ok.injEq] at hv
  obtain ⟨-, rfl⟩ := hv
  refine ⟨hk, ?_⟩
  split at h
  · simp only [pure_apply, EStateM.Result.ok.injEq] at h
    exact ⟨n, h.2.symm⟩
  · obtain ⟨_, w, hw, h⟩ := bind_eq_ok.mp h
    obtain ⟨-, rfl⟩ := statement_ok hw
    simp only [pure_apply, EStateM.Result.ok.injEq] at h
    exact ⟨n + 1, h.2.symm⟩

/-- An emitted event is the draft's row under a fresh id, and nothing else
changed. -/
theorem emit_ok {draft : EventDraft} {s t : Session Database} {event : OutboxEvent}
    (h : emit draft s = .ok event t) :
    ∃ eventId occurredAt n, eventId ≠ "" ∧ event = draft.row eventId occurredAt
      ∧ (s.working.addOutboxEvent event).Keyed
      ∧ t = s.goto (s.working.addOutboxEvent event) n := by
  obtain ⟨e, u, hu, h⟩ := bind_eq_ok.mp h
  obtain ⟨_, v, hv, h⟩ := bind_eq_ok.mp h
  obtain ⟨hk, n, rfl⟩ := notifyOutboxEvent_ok hv
  simp only [pure_apply, EStateM.Result.ok.injEq] at h
  obtain ⟨rfl, rfl⟩ := h
  have hadd : addEvent draft s = .ok
      (draft.row (s.world.uuid4 s.tick) (s.world.now (s.tick + 1)))
      (s.goto (s.working.addOutboxEvent
        (draft.row (s.world.uuid4 s.tick) (s.world.now (s.tick + 1)))) (s.tick + 2)) := rfl
  rw [hadd] at hu
  simp only [EStateM.Result.ok.injEq] at hu
  obtain ⟨rfl, rfl⟩ := hu
  exact ⟨_, _, n, s.world.uuid4_ne _, rfl, hk, rfl⟩

/-- `getEvent` finds the row or raises. -/
theorem getEvent_apply (eventId : String) (s : Session Database) :
    getEvent eventId s =
      match s.working.findOutboxEvent eventId with
      | none => .error (.raised (.lookupError
          ("Outbox event " ++ Json.reprStr eventId ++ " was not found."))) s
      | some event => .ok event s := by
  unfold getEvent
  rw [bind_of_ok (peek_apply _ s)]
  cases s.working.findOutboxEvent eventId <;> rfl

/-- The row `mark_published` leaves. -/
def OutboxEvent.published (publishedAt : DateTime) (event : OutboxEvent) : OutboxEvent :=
  { event with
    status := .PUBLISHED
    publishedAt := some publishedAt
    nextAttemptAt := none
    lastError := none }

/-- The row `mark_retryable_failure` leaves. -/
def OutboxEvent.retried (error : String) (nextAttemptAt : DateTime) (event : OutboxEvent) :
    OutboxEvent :=
  { event with
    status := .PENDING
    failureCount := event.failureCount + 1
    nextAttemptAt := some nextAttemptAt
    lastError := some (clip error) }

/-- The row `mark_failed` leaves. -/
def OutboxEvent.failed (error : String) (event : OutboxEvent) : OutboxEvent :=
  { event with
    status := .FAILED
    failureCount := event.failureCount + 1
    nextAttemptAt := none
    lastError := some (clip error) }

theorem markPublished_of_some {eventId : String} {s : Session Database} {event : OutboxEvent}
    (h : s.working.findOutboxEvent eventId = some event) :
    markPublished eventId s = .ok ()
      (s.goto (s.working.updateOutboxEvent eventId (·.published (s.world.now s.tick)))
        (s.tick + 1)) := by
  unfold markPublished
  rw [bind_of_ok (u := s) (a := event) (by rw [getEvent_apply, h]),
    bind_of_ok (now_apply s), write_apply]
  rfl

/-- Marking a row that is not there. -/
theorem markPublished_of_none {eventId : String} {s : Session Database}
    (h : s.working.findOutboxEvent eventId = none) :
    markPublished eventId s = .error (.raised (.lookupError
      ("Outbox event " ++ Json.reprStr eventId ++ " was not found."))) s := by
  unfold markPublished
  exact bind_of_error (by rw [getEvent_apply, h])

theorem markRetryableFailure_of_some {eventId error : String} {at' : DateTime}
    {s : Session Database} {event : OutboxEvent}
    (h : s.working.findOutboxEvent eventId = some event) :
    markRetryableFailure eventId error at' s = .ok ()
      (s.goto (s.working.updateOutboxEvent eventId (·.retried error at')) s.tick) := by
  unfold markRetryableFailure
  rw [bind_of_ok (u := s) (a := event) (by rw [getEvent_apply, h]), write_apply]
  rfl

theorem markFailed_of_some {eventId error : String} {s : Session Database}
    {event : OutboxEvent} (h : s.working.findOutboxEvent eventId = some event) :
    markFailed eventId error s = .ok ()
      (s.goto (s.working.updateOutboxEvent eventId (·.failed error)) s.tick) := by
  unfold markFailed
  rw [bind_of_ok (u := s) (a := event) (by rw [getEvent_apply, h]), write_apply]
  rfl

/-- Marking succeeds only on a row that is there. -/
theorem getEvent_bind_ok {α : Type} {eventId : String} {f : OutboxEvent → App α}
    {s t : Session Database} {a : α} (h : (getEvent eventId >>= f) s = .ok a t) :
    ∃ event, s.working.findOutboxEvent eventId = some event ∧ f event s = .ok a t := by
  obtain ⟨event, u, hu, h⟩ := bind_eq_ok.mp h
  rw [getEvent_apply] at hu
  cases hf : s.working.findOutboxEvent eventId with
  | none => rw [hf] at hu; exact nomatch hu
  | some row =>
      rw [hf] at hu
      simp only [EStateM.Result.ok.injEq] at hu
      obtain ⟨rfl, rfl⟩ := hu
      exact ⟨row, rfl, h⟩

theorem markPublished_ok {eventId : String} {s t : Session Database} {u : Unit}
    (h : markPublished eventId s = .ok u t) :
    ∃ publishedAt n,
      t = s.goto (s.working.updateOutboxEvent eventId (·.published publishedAt)) n := by
  obtain ⟨event, hfind, -⟩ := getEvent_bind_ok h
  rw [markPublished_of_some hfind] at h
  simp only [EStateM.Result.ok.injEq] at h
  exact ⟨_, _, h.2.symm⟩

theorem markRetryableFailure_ok {eventId error : String} {at' : DateTime}
    {s t : Session Database} {u : Unit}
    (h : markRetryableFailure eventId error at' s = .ok u t) :
    t = s.goto (s.working.updateOutboxEvent eventId (·.retried error at')) s.tick := by
  obtain ⟨event, hfind, -⟩ := getEvent_bind_ok h
  rw [markRetryableFailure_of_some hfind] at h
  simp only [EStateM.Result.ok.injEq] at h
  exact h.2.symm

theorem markFailed_ok {eventId error : String} {s t : Session Database} {u : Unit}
    (h : markFailed eventId error s = .ok u t) :
    t = s.goto (s.working.updateOutboxEvent eventId (·.failed error)) s.tick := by
  obtain ⟨event, hfind, -⟩ := getEvent_bind_ok h
  rw [markFailed_of_some hfind] at h
  simp only [EStateM.Result.ok.injEq] at h
  exact h.2.symm

/-- The number the next attempt row gets. -/
def Database.nextAttempt (eventId consumerName : String) (db : Database) : Int :=
  (db.latestAttempt eventId consumerName).getD 0 + 1

theorem recordFailure_ok {eventId consumerName error : String} {s t : Session Database}
    {attempt : EventProcessingAttempt}
    (h : recordFailure eventId consumerName error s = .ok attempt t) :
    ∃ id attemptedAt n,
      attempt = ⟨id, eventId, consumerName, s.working.nextAttempt eventId consumerName,
        clip error, attemptedAt⟩
      ∧ (s.working.addAttempt attempt).Keyed
      ∧ t = s.goto (s.working.addAttempt attempt) n := by
  obtain ⟨number, u, hu, h⟩ := bind_eq_ok.mp h
  obtain ⟨latest, v, hv, hnum⟩ := bind_eq_ok.mp hu
  obtain ⟨rfl, n, rfl⟩ := query_ok hv
  simp only [pure_apply, EStateM.Result.ok.injEq] at hnum
  obtain ⟨rfl, rfl⟩ := hnum
  rw [bind_of_ok (uuid4_apply _), bind_of_ok (now_apply _), bind_of_ok (write_apply _ _)] at h
  obtain ⟨_, w, hw, h⟩ := bind_eq_ok.mp h
  obtain ⟨hk, m, rfl⟩ := flush_keyed hw
  simp only [pure_apply, EStateM.Result.ok.injEq] at h
  obtain ⟨rfl, rfl⟩ := h
  exact ⟨_, _, m, rfl, hk, rfl⟩

/-- The dead-letter row of an event. -/
def OutboxEvent.deadLetter (event : OutboxEvent) (id consumerName : String)
    (attemptNumber : Int) (error : String) (failedAt : DateTime) : DeadLetterEvent :=
  { id := id
    eventId := event.eventId
    eventType := event.eventType
    eventVersion := event.eventVersion
    aggregateType := event.aggregateType
    aggregateId := event.aggregateId
    correlationId := event.correlationId
    causationId := event.causationId
    consumerName := consumerName
    attemptNumber := attemptNumber
    error := clip error
    payload := event.payload
    failedAt := failedAt
    replayedAt := none }

theorem moveToDeadLetter_ok {event : OutboxEvent} {consumerName error : String}
    {attemptNumber : Int} {s t : Session Database} {row : DeadLetterEvent}
    (h : moveToDeadLetter event consumerName attemptNumber error s = .ok row t) :
    ∃ id failedAt n, row = event.deadLetter id consumerName attemptNumber error failedAt
      ∧ (s.working.addDeadLetter row).Keyed
      ∧ t = s.goto (s.working.addDeadLetter row) n := by
  unfold moveToDeadLetter at h
  rw [bind_of_ok (uuid4_apply _), bind_of_ok (now_apply _), bind_of_ok (write_apply _ _)] at h
  obtain ⟨_, w, hw, h⟩ := bind_eq_ok.mp h
  obtain ⟨hk, m, rfl⟩ := flush_keyed hw
  simp only [pure_apply, EStateM.Result.ok.injEq] at h
  obtain ⟨rfl, rfl⟩ := h
  exact ⟨_, _, m, rfl, hk, rfl⟩

/-! ## §2. `process_once` and the commit around it. -/

/-- **The inbox guard**: a returned `process_once` skipped a processed event,
or ran the body and added the marker. -/
theorem processOnce_ok {α : Type} {consumerName : String} {event : EventEnvelope}
    {body : EventEnvelope → App α} {s t : Session Database} {r : Option α}
    (h : processOnce consumerName event body s = .ok r t) :
    (s.working.processed consumerName event.eventId = true ∧ r = none
      ∧ ∃ n, t = s.goto s.working n)
    ∨ (s.working.processed consumerName event.eventId = false
      ∧ ∃ m a u processedAt n, body event (s.goto s.working m) = .ok a u ∧ r = some a
        ∧ (u.working.addInboxEvent ⟨consumerName, event.eventId, processedAt⟩).Keyed
        ∧ t = u.goto (u.working.addInboxEvent
            ⟨consumerName, event.eventId, processedAt⟩) n) := by
  obtain ⟨done, u, hu, h⟩ := bind_eq_ok.mp h
  obtain ⟨rfl, m, rfl⟩ := query_ok hu
  cases hd : s.working.processed consumerName event.eventId with
  | true =>
      left
      simp only [hd, if_true] at h
      simp only [pure_apply, EStateM.Result.ok.injEq] at h
      exact ⟨rfl, h.1.symm, m, h.2.symm⟩
  | false =>
      right
      simp only [hd, Bool.false_eq_true, if_false] at h
      obtain ⟨a, v, hv, h⟩ := bind_eq_ok.mp h
      rw [bind_of_ok (now_apply _), bind_of_ok (write_apply _ _)] at h
      obtain ⟨_, w, hw, h⟩ := bind_eq_ok.mp h
      obtain ⟨hk, n, rfl⟩ := flush_keyed hw
      simp only [pure_apply, EStateM.Result.ok.injEq] at h
      obtain ⟨rfl, rfl⟩ := h
      exact ⟨rfl, m, a, v, _, n, hv, rfl, hk, rfl⟩

/-- **A handler is all or nothing when it returns**: it skipped a processed
event and committed nothing, or it committed exactly the body's rows and the
marker. -/
theorem handleOnce_ok {α : Type} {consumerName : String} {event : EventEnvelope}
    {body : EventEnvelope → App α} {s t : Session Database} {r : Option α}
    (h : handleOnce consumerName body event s = .ok r t) :
    (s.working.processed consumerName event.eventId = true ∧ ∃ n, t = s.goto s.working n)
    ∨ (s.working.processed consumerName event.eventId = false
      ∧ ∃ m a u processedAt n, body event (s.goto s.working m) = .ok a u
        ∧ (u.working.addInboxEvent ⟨consumerName, event.eventId, processedAt⟩).Keyed
        ∧ t = { u.goto (u.working.addInboxEvent
            ⟨consumerName, event.eventId, processedAt⟩) n with
          committed := u.working.addInboxEvent
            ⟨consumerName, event.eventId, processedAt⟩ }) := by
  obtain ⟨r', u, hu, h⟩ := bind_eq_ok.mp h
  rcases processOnce_ok hu with ⟨hp, rfl, n, rfl⟩ | ⟨hp, m, a, v, at', n, hv, rfl, hk, rfl⟩
  · left
    simp only [Option.isSome_none, Bool.false_eq_true, if_false, pure_apply,
      EStateM.Result.ok.injEq] at h
    exact ⟨hp, n, h.2.symm⟩
  · right
    simp only [Option.isSome_some, if_true] at h
    obtain ⟨_, w, hw, h⟩ := bind_eq_ok.mp h
    obtain ⟨-, k, rfl⟩ := commit_keyed hw
    simp only [pure_apply, EStateM.Result.ok.injEq] at h
    exact ⟨hp, m, a, v, at', k, hv, hk, h.2.symm⟩

/-! ## §3. Disciplines. -/

theorem quiet_addEvent (draft : EventDraft) : Quiet (addEvent draft) :=
  quiet_uuid4.bind fun _ => quiet_now.bind fun _ => (quiet_write _).bind fun _ => quiet_pure _

theorem quiet_notifyOutboxEvent : Quiet notifyOutboxEvent :=
  quiet_flush.bind fun _ => quiet_dialect.bind fun _ =>
    quiet_ite (quiet_pure _) (quiet_statement.bind fun _ => quiet_pure _)

theorem quiet_emit (draft : EventDraft) : Quiet (emit draft) :=
  (quiet_addEvent draft).bind fun _ => quiet_notifyOutboxEvent.bind fun _ => quiet_pure _

theorem quiet_processOnce {α : Type} {body : EventEnvelope → App α} {event : EventEnvelope}
    (h : Quiet (body event)) (consumerName : String) :
    Quiet (processOnce consumerName event body) :=
  (quiet_query _).bind fun _ => quiet_ite (quiet_pure _)
    (h.bind fun _ => quiet_now.bind fun _ => (quiet_write _).bind fun _ =>
      quiet_flush.bind fun _ => quiet_pure _)

theorem tidy_addEvent (draft : EventDraft) : Tidy (addEvent draft) :=
  tidy_uuid4.bind fun _ => tidy_now.bind fun _ => (tidy_write _).bind fun _ => tidy_pure _

theorem tidy_notifyOutboxEvent : Tidy notifyOutboxEvent :=
  tidy_flush.bind fun _ => tidy_dialect.bind fun _ =>
    tidy_ite (tidy_pure _) (tidy_statement.bind fun _ => tidy_pure _)

theorem tidy_emit (draft : EventDraft) : Tidy (emit draft) :=
  (tidy_addEvent draft).bind fun _ => tidy_notifyOutboxEvent.bind fun _ => tidy_pure _

theorem tidy_processOnce {α : Type} {body : EventEnvelope → App α} {event : EventEnvelope}
    (h : Tidy (body event)) (consumerName : String) :
    Tidy (processOnce consumerName event body) :=
  (tidy_query _).bind fun _ => tidy_ite (tidy_pure _)
    (h.bind fun _ => tidy_now.bind fun _ => (tidy_write _).bind fun _ =>
      tidy_flush.bind fun _ => tidy_pure _)

theorem tidy_handleOnce {α : Type} {body : EventEnvelope → App α} {event : EventEnvelope}
    (h : Tidy (body event)) (consumerName : String) :
    Tidy (handleOnce consumerName body event) :=
  (tidy_processOnce h consumerName).bind fun _ =>
    tidy_ite (tidy_commit.bind fun _ => tidy_pure _) (tidy_pure _)

theorem noRaise_addEvent (draft : EventDraft) : NoRaise (addEvent draft) :=
  noRaise_uuid4.bind fun _ => noRaise_now.bind fun _ => (noRaise_write _).bind fun _ =>
    noRaise_pure _

theorem noRaise_notifyOutboxEvent : NoRaise notifyOutboxEvent :=
  noRaise_flush.bind fun _ => noRaise_dialect.bind fun _ =>
    noRaise_ite (noRaise_pure _) (noRaise_statement.bind fun _ => noRaise_pure _)

theorem noRaise_emit (draft : EventDraft) : NoRaise (emit draft) :=
  (noRaise_addEvent draft).bind fun _ => noRaise_notifyOutboxEvent.bind fun _ => noRaise_pure _

/-- An exception of a handler comes out of its body, on an event that was not
processed yet. -/
theorem handleOnce_raised {α : Type} {consumerName : String} {event : EventEnvelope}
    {body : EventEnvelope → App α} {s t : Session Database} {error : PyError}
    (h : handleOnce consumerName body event s = .error (.raised error) t) :
    s.working.processed consumerName event.eventId = false
      ∧ ∃ m, body event (s.goto s.working m) = .error (.raised error) t := by
  rcases bind_eq_error.mp h with h | ⟨r, u, _, h⟩
  · rcases bind_eq_error.mp h with h | ⟨done, v, hv, h⟩
    · exact absurd h (noRaise_query _ _ _ _)
    · obtain ⟨rfl, m, rfl⟩ := query_ok hv
      cases hd : s.working.processed consumerName event.eventId with
      | true => simp [hd] at h
      | false =>
          simp only [hd, Bool.false_eq_true, if_false] at h
          rcases bind_eq_error.mp h with h | ⟨a, w, _, h⟩
          · exact ⟨rfl, m, h⟩
          · have : NoRaise (now >>= fun processedAt =>
                write (·.addInboxEvent ⟨consumerName, event.eventId, processedAt⟩) >>= fun _ =>
                flush >>= fun _ => (pure (some a) : App (Option α))) :=
              noRaise_now.bind fun _ => (noRaise_write _).bind fun _ =>
                noRaise_flush.bind fun _ => noRaise_pure _
            exact absurd h (this _ _ _)
  · split at h
    · exact absurd h ((noRaise_commit.bind fun _ => noRaise_pure _) _ _ _)
    · exact absurd h (noRaise_pure _ _ _ _)

/-- A handler that ends in an error has committed nothing. -/
theorem handleOnce_error {α : Type} {consumerName : String} {event : EventEnvelope}
    {body : EventEnvelope → App α} (hq : Quiet (body event)) {s t : Session Database}
    {e : Failure PyError} (h : handleOnce consumerName body event s = .error e t) :
    t.committed = s.committed ∧ t.world = s.world := by
  have hp := quiet_processOnce hq consumerName s
  rcases bind_eq_error.mp h with h | ⟨r, u, hu, h⟩
  · rw [h] at hp
    exact hp
  · rw [hu] at hp
    split at h
    · rcases bind_eq_error.mp h with h | ⟨_, v, _, h⟩
      · exact ⟨(commit_error h).1.trans hp.1, (commit_error h).2.trans hp.2⟩
      · simp at h
    · simp at h

/-! ## §4. In a dependable database. -/

theorem keyed_addOutboxEvent {db : Database} (keyed : db.Keyed) {event : OutboxEvent}
    (fresh : ∀ row ∈ db.outboxEvents, row.eventId ≠ event.eventId) :
    (db.addOutboxEvent event).Keyed :=
  { keyed with
    outboxEvents := nodup_insert keyed.outboxEvents fresh
    attemptsEvents := fun row hrow => by
      obtain ⟨other, hother, hid⟩ := keyed.attemptsEvents row hrow
      exact ⟨other, List.mem_append_left _ hother, hid⟩ }

theorem keyed_addInboxEvent {db : Database} (keyed : db.Keyed) {consumerName eventId : String}
    (fresh : db.processed consumerName eventId = false) (processedAt : DateTime) :
    (db.addInboxEvent ⟨consumerName, eventId, processedAt⟩).Keyed := by
  refine { keyed with inboxEvents := nodup_insert keyed.inboxEvents fun row hrow hkey => ?_ }
  have hprocessed : db.processed consumerName eventId = true :=
    List.any_eq_true.mpr ⟨row, hrow, decide_eq_true hkey⟩
  rw [fresh] at hprocessed
  exact absurd hprocessed (by decide)

section accepted
variable {rejects : Database → Option String} {s : Session Database}

theorem notifyOutboxEvent_accepted (dep : s.world.Dependable rejects) (active : s.active = true)
    (accepted : rejects s.working = none) (keyed : s.working.Keyed) :
    ∃ b n, notifyOutboxEvent s = .ok b (s.goto s.working n) := by
  have hflush : (flush : App Unit) s = .ok () (s.goto s.working (s.tick + 1)) :=
    flush_accepted dep active accepted ((admits_iff _).mpr keyed)
  unfold notifyOutboxEvent
  rw [bind_of_ok hflush, bind_of_ok (dialect_apply _)]
  split
  · exact ⟨false, _, rfl⟩
  · have hnotify := statement_accepted (ε := PyError) (s := s.goto s.working (s.tick + 1)) dep
      active accepted
    rw [bind_of_ok hnotify]
    exact ⟨true, _, rfl⟩

/-- An event whose row is accepted and admitted is emitted. -/
theorem emit_accepted {draft : EventDraft} (dep : s.world.Dependable rejects)
    (active : s.active = true)
    (accepted : ∀ event : OutboxEvent, rejects (s.working.addOutboxEvent event) = none)
    (keyed : s.working.Keyed)
    (fresh : ∀ n, ∀ row ∈ s.working.outboxEvents, row.eventId ≠ s.world.uuid4 n) :
    ∃ event t, emit draft s = .ok event t := by
  have hadd : addEvent draft s = .ok
      (draft.row (s.world.uuid4 s.tick) (s.world.now (s.tick + 1)))
      (s.goto (s.working.addOutboxEvent
        (draft.row (s.world.uuid4 s.tick) (s.world.now (s.tick + 1)))) (s.tick + 2)) := rfl
  have hkeyed : (s.working.addOutboxEvent
      (draft.row (s.world.uuid4 s.tick) (s.world.now (s.tick + 1)))).Keyed :=
    keyed_addOutboxEvent keyed (fresh s.tick)
  obtain ⟨b, n, hnotify⟩ := notifyOutboxEvent_accepted (s := s.goto (s.working.addOutboxEvent
    (draft.row (s.world.uuid4 s.tick) (s.world.now (s.tick + 1)))) (s.tick + 2)) dep active
    (accepted _) hkeyed
  unfold emit
  rw [bind_of_ok hadd, bind_of_ok hnotify]
  exact ⟨_, _, rfl⟩

section handleOnce
variable {α : Type} {consumerName : String} {event : EventEnvelope} {body : EventEnvelope → App α}
  {u : Session Database} {a : α}

theorem hasProcessed_accepted (dep : s.world.Dependable rejects) (active : s.active = true)
    (accepted : rejects s.working = none)
    (fresh : s.working.processed consumerName event.eventId = false) :
    hasProcessed consumerName event.eventId s = .ok false (s.goto s.working (s.tick + 1)) := by
  rw [← fresh]
  exact query_accepted dep active accepted _

/-- A new event is handed to the body, and its inbox row is written. -/
theorem processOnce_of_ok (hquery : hasProcessed consumerName event.eventId s
      = .ok false (s.goto s.working (s.tick + 1)))
    (run : body event (s.goto s.working (s.tick + 1)) = .ok a u) :
    processOnce consumerName event body s
      = ((flush : App Unit) >>= fun _ => pure (some a)) (u.goto (u.working.addInboxEvent
          ⟨consumerName, event.eventId, u.world.now u.tick⟩) (u.tick + 1)) := by
  unfold processOnce
  rw [bind_of_ok hquery]
  show (body event >>= _ : App (Option α)) _ = _
  rw [bind_of_ok run, bind_of_ok (now_apply _), bind_of_ok (write_apply _ _)]
  rfl

/-- **A handler goes through** when its body does and leaves rows that are
accepted and admitted. -/
theorem handleOnce_accepted (hquery : hasProcessed consumerName event.eventId s
      = .ok false (s.goto s.working (s.tick + 1)))
    (run : body event (s.goto s.working (s.tick + 1)) = .ok a u)
    (dep : u.world.Dependable rejects) (active : u.active = true)
    (accepted : rejects (u.working.addInboxEvent
      ⟨consumerName, event.eventId, u.world.now u.tick⟩) = none)
    (keyed : u.working.Keyed) (fresh : u.working.processed consumerName event.eventId = false) :
    ∃ t, handleOnce consumerName body event s = .ok (some a) t := by
  let marked := u.goto (u.working.addInboxEvent
    ⟨consumerName, event.eventId, u.world.now u.tick⟩) (u.tick + 1)
  have hadmits : Schema.admits marked.working = true :=
    (admits_iff _).mpr (keyed_addInboxEvent keyed fresh _)
  have hflush : (flush : App Unit) marked = .ok () (marked.goto marked.working (marked.tick + 1)) :=
    flush_accepted dep active accepted hadmits
  have honce : processOnce consumerName event body s
      = .ok (some a) (marked.goto marked.working (marked.tick + 1)) :=
    (processOnce_of_ok hquery run).trans (bind_of_ok hflush)
  have hcommit := commit_accepted (ε := PyError)
    (s := marked.goto marked.working (marked.tick + 1)) dep active accepted hadmits
  unfold handleOnce
  rw [bind_of_ok honce]
  exact ⟨_, bind_of_ok hcommit⟩

/-- The inbox row is rejected: the handler ends there. -/
theorem handleOnce_rejected (hquery : hasProcessed consumerName event.eventId s
      = .ok false (s.goto s.working (s.tick + 1)))
    (run : body event (s.goto s.working (s.tick + 1)) = .ok a u)
    (dep : u.world.Dependable rejects) (active : u.active = true) {message : String}
    (rejected : rejects (u.working.addInboxEvent
      ⟨consumerName, event.eventId, u.world.now u.tick⟩) = some message) :
    ∃ n, handleOnce consumerName body event s = .error (.database message)
      { u.goto (u.working.addInboxEvent ⟨consumerName, event.eventId, u.world.now u.tick⟩) n with
        active := false } := by
  have hflush := flush_rejected (ε := PyError) (s := u.goto (u.working.addInboxEvent
    ⟨consumerName, event.eventId, u.world.now u.tick⟩) (u.tick + 1)) dep active rejected
  exact ⟨_, bind_of_error ((processOnce_of_ok hquery run).trans (bind_of_error hflush))⟩

end handleOnce

end accepted

end EventCart
