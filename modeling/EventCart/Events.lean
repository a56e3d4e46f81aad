/-
  EventCart.Events
  ────────────────
  **THE OUTBOX AND ITS REPOSITORIES** (`modules/events`).

  The envelope a handler receives, the NOTIFY hint, and the three
  repositories: pending events, processing attempts, dead letters.  Every
  method is a program over a session; which rows it touches is visible in
  the `Database` updates of §1.
-/
import EventCart.Lib.Rows
import EventCart.Models
import Mathlib.Data.List.Sort

namespace EventCart

open EventCart.Lib
open EventCart.Lib.Tx

/-! ## §1. Row updates. -/

namespace Database

def addOutboxEvent (event : OutboxEvent) (db : Database) : Database :=
  { db with outboxEvents := db.outboxEvents ++ [event] }

/-- Assign attributes of the outbox row with this primary key. -/
def updateOutboxEvent (eventId : String) (f : OutboxEvent → OutboxEvent)
    (db : Database) : Database :=
  { db with outboxEvents := update (·.eventId) eventId f db.outboxEvents }

/-- `session.get(OutboxEvent, event_id)`. -/
def findOutboxEvent (eventId : String) (db : Database) : Option OutboxEvent :=
  db.outboxEvents.find? (·.eventId = eventId)

def addAttempt (attempt : EventProcessingAttempt) (db : Database) : Database :=
  { db with attempts := db.attempts ++ [attempt] }

def addDeadLetter (row : DeadLetterEvent) (db : Database) : Database :=
  { db with deadLetters := db.deadLetters ++ [row] }

def updateDeadLetter (id : String) (f : DeadLetterEvent → DeadLetterEvent)
    (db : Database) : Database :=
  { db with deadLetters := update (·.id) id f db.deadLetters }

/-- `session.get(DeadLetterEvent, dead_letter_id)`. -/
def findDeadLetter (id : String) (db : Database) : Option DeadLetterEvent :=
  db.deadLetters.find? (·.id = id)

end Database

/-! ## §2. The envelope. -/

/-- `EventEnvelope`: the schema's length and range rules are part of the
value. -/
structure EventEnvelope where
  eventId : String
  eventType : String
  eventVersion : Int
  aggregateType : String
  aggregateId : String
  correlationId : String
  causationId : Option String
  occurredAt : DateTime
  payload : Dict
  eventId_ne : eventId ≠ ""
  eventType_ne : eventType ≠ ""
  eventVersion_ge : 1 ≤ eventVersion
  aggregateType_ne : aggregateType ≠ ""
  aggregateId_ne : aggregateId ≠ ""
  correlationId_ne : correlationId ≠ ""

/-- The fields of a row that the envelope schema rejects, in schema order. -/
def invalidFields (event : OutboxEvent) : List String :=
  (if event.eventId = "" then ["event_id"] else [])
    ++ (if event.eventType = "" then ["event_type"] else [])
    ++ (if event.eventVersion < 1 then ["event_version"] else [])
    ++ (if event.aggregateType = "" then ["aggregate_type"] else [])
    ++ (if event.aggregateId = "" then ["aggregate_id"] else [])
    ++ (if event.correlationId = "" then ["correlation_id"] else [])

/-- `envelope_from_outbox_event`: `EventEnvelope.model_validate(event)`. -/
def envelopeFromOutboxEvent (event : OutboxEvent) : Except PyError EventEnvelope :=
  if h : event.eventId ≠ "" ∧ event.eventType ≠ "" ∧ 1 ≤ event.eventVersion
      ∧ event.aggregateType ≠ "" ∧ event.aggregateId ≠ "" ∧ event.correlationId ≠ "" then
    .ok
      { eventId := event.eventId
        eventType := event.eventType
        eventVersion := event.eventVersion
        aggregateType := event.aggregateType
        aggregateId := event.aggregateId
        correlationId := event.correlationId
        causationId := event.causationId
        occurredAt := event.occurredAt
        payload := event.payload
        eventId_ne := h.1
        eventType_ne := h.2.1
        eventVersion_ge := h.2.2.1
        aggregateType_ne := h.2.2.2.1
        aggregateId_ne := h.2.2.2.2.1
        correlationId_ne := h.2.2.2.2.2 }
  else .error (.validationError "EventEnvelope" (invalidFields event))

theorem envelope_eventType {event : OutboxEvent} {envelope : EventEnvelope}
    (h : envelopeFromOutboxEvent event = .ok envelope) :
    envelope.eventType = event.eventType ∧ envelope.eventId = event.eventId
      ∧ envelope.correlationId = event.correlationId ∧ envelope.payload = event.payload := by
  unfold envelopeFromOutboxEvent at h
  split at h
  · rw [Except.ok.injEq] at h
    subst h
    exact ⟨rfl, rfl, rfl, rfl⟩
  · cases h

/-- What `OutboxEvent(...)` is given by the code that emits an event; the
other columns have defaults. -/
structure EventDraft where
  eventType : String
  eventVersion : Int
  aggregateType : String
  aggregateId : String
  correlationId : String
  causationId : Option String
  payload : Dict

/-- The row a draft becomes, with the column defaults filled in. -/
def EventDraft.row (draft : EventDraft) (eventId : String) (occurredAt : DateTime) :
    OutboxEvent :=
  { eventId := eventId
    eventType := draft.eventType
    eventVersion := draft.eventVersion
    aggregateType := draft.aggregateType
    aggregateId := draft.aggregateId
    correlationId := draft.correlationId
    causationId := draft.causationId
    occurredAt := occurredAt
    payload := draft.payload
    status := .PENDING
    publishedAt := none
    nextAttemptAt := none
    failureCount := 0
    lastError := none }

/-- `session.add(OutboxEvent(...))`. -/
def addEvent (draft : EventDraft) : App OutboxEvent := do
  let eventId ← uuid4
  let occurredAt ← now
  write (·.addOutboxEvent (draft.row eventId occurredAt))
  return draft.row eventId occurredAt

/-- `notify_outbox_event`: flush, then `pg_notify` on PostgreSQL.  The
notification only wakes a listening dispatcher up and leaves no row. -/
def notifyOutboxEvent : App Bool := do
  flush
  if (← dialect) ≠ "postgresql" then
    return false
  statement
  return true

/-! ## §3. `OutboxRepository`. -/

/-- The WHERE clause of `fetch_pending`. -/
def OutboxEvent.isDue (readyAt : DateTime) (event : OutboxEvent) : Bool :=
  event.status = .PENDING && event.nextAttemptAt.all (· ≤ readyAt)

/-- The ORDER BY clause of `fetch_pending`. -/
def OutboxEvent.notAfter (a b : OutboxEvent) : Prop :=
  a.occurredAt < b.occurredAt ∨ (a.occurredAt = b.occurredAt ∧ a.eventId ≤ b.eventId)

instance : DecidableRel OutboxEvent.notAfter := fun _ _ =>
  inferInstanceAs (Decidable (_ ∨ _))

instance : Std.Total OutboxEvent.notAfter where
  total a b := by
    rcases lt_trichotomy a.occurredAt b.occurredAt with hlt | heq | hgt
    · exact .inl (.inl hlt)
    · rcases String.le_total a.eventId b.eventId with hle | hge
      · exact .inl (.inr ⟨heq, hle⟩)
      · exact .inr (.inr ⟨heq.symm, hge⟩)
    · exact .inr (.inl hgt)

instance : IsTrans OutboxEvent OutboxEvent.notAfter where
  trans a b c := by
    rintro (hab | ⟨hab, hid⟩) (hbc | ⟨hbc, hid'⟩)
    · exact .inl (hab.trans hbc)
    · exact .inl (hbc ▸ hab)
    · exact .inl (hab ▸ hbc)
    · exact .inr ⟨hab.trans hbc, String.le_trans hid hid'⟩

/-- The SELECT of `fetch_pending`. -/
def Database.pending (limit : Nat) (readyAt : DateTime) (db : Database) :
    List OutboxEvent :=
  ((db.outboxEvents.filter (·.isDue readyAt)).insertionSort OutboxEvent.notAfter).take limit

/-- It returns PENDING rows of the table. -/
theorem mem_pending {db : Database} {limit : Nat} {readyAt : DateTime} {event : OutboxEvent}
    (h : event ∈ db.pending limit readyAt) : event ∈ db.outboxEvents ∧ event.status = .PENDING := by
  have hsorted := List.mem_of_mem_take h
  rw [List.mem_insertionSort, List.mem_filter] at hsorted
  obtain ⟨hmem, hdue⟩ := hsorted
  unfold OutboxEvent.isDue at hdue
  rw [Bool.and_eq_true, decide_eq_true_eq] at hdue
  exact ⟨hmem, hdue.1⟩

/-- It returns no row twice. -/
theorem pending_nodup {db : Database} (keyed : (db.outboxEvents.map (·.eventId)).Nodup)
    (limit : Nat) (readyAt : DateTime) : ((db.pending limit readyAt).map (·.eventId)).Nodup := by
  unfold Database.pending
  have hfiltered : ((db.outboxEvents.filter (·.isDue readyAt)).map (·.eventId)).Nodup :=
    (List.filter_sublist.map _).nodup keyed
  have hperm := List.perm_insertionSort OutboxEvent.notAfter
    (db.outboxEvents.filter (·.isDue readyAt))
  have hsorted := ((hperm.map (·.eventId)).nodup_iff).mpr hfiltered
  exact ((List.take_sublist _ _).map _).nodup hsorted

def fetchPending (limit : Nat) : App (List OutboxEvent) := do
  let readyAt ← now
  query (·.pending limit readyAt)

/-- `_get_event`.  The callers hold the row in the session's identity map, so
no statement is sent. -/
def getEvent (eventId : String) : App OutboxEvent := do
  match ← peek (·.findOutboxEvent eventId) with
  | none => raise (.lookupError ("Outbox event " ++ Json.reprStr eventId ++ " was not found."))
  | some event => return event

def markPublished (eventId : String) : App Unit := do
  let _ ← getEvent eventId
  let publishedAt ← now
  write (·.updateOutboxEvent eventId fun event =>
    { event with
      status := .PUBLISHED
      publishedAt := some publishedAt
      nextAttemptAt := none
      lastError := none })

def markRetryableFailure (eventId error : String) (nextAttemptAt : DateTime) : App Unit := do
  let _ ← getEvent eventId
  write (·.updateOutboxEvent eventId fun event =>
    { event with
      status := .PENDING
      failureCount := event.failureCount + 1
      nextAttemptAt := some nextAttemptAt
      lastError := some (clip error) })

def markFailed (eventId error : String) : App Unit := do
  let _ ← getEvent eventId
  write (·.updateOutboxEvent eventId fun event =>
    { event with
      status := .FAILED
      failureCount := event.failureCount + 1
      nextAttemptAt := none
      lastError := some (clip error) })

/-! ## §4. `EventProcessingAttemptRepository`. -/

/-- The attempt rows of an event for a consumer. -/
def Database.attemptsOf (eventId consumerName : String) (db : Database) :
    List EventProcessingAttempt :=
  db.attempts.filter fun row => row.eventId = eventId && row.consumerName = consumerName

/-- `select max(attempt_number)`; SQL's NULL on no rows. -/
def Database.latestAttempt (eventId consumerName : String) (db : Database) : Option Int :=
  ((db.attemptsOf eventId consumerName).map (·.attemptNumber)).max?

def nextAttemptNumber (eventId consumerName : String) : App Int := do
  let latestAttempt ← query (·.latestAttempt eventId consumerName)
  return latestAttempt.getD 0 + 1

def countFailures (eventId consumerName : String) : App Int :=
  query fun db => ((db.attemptsOf eventId consumerName).length : Int)

def recordFailure (eventId consumerName error : String) : App EventProcessingAttempt := do
  let attemptNumber ← nextAttemptNumber eventId consumerName
  let id ← uuid4
  let attemptedAt ← now
  let attempt : EventProcessingAttempt :=
    { id := id
      eventId := eventId
      consumerName := consumerName
      attemptNumber := attemptNumber
      error := clip error
      attemptedAt := attemptedAt }
  write (·.addAttempt attempt)
  flush
  return attempt

/-! ## §5. `DeadLetterEventRepository`. -/

def moveToDeadLetter (event : OutboxEvent) (consumerName : String) (attemptNumber : Int)
    (error : String) : App DeadLetterEvent := do
  let id ← uuid4
  let failedAt ← now
  let row : DeadLetterEvent :=
    { id := id
      eventId := event.eventId
      eventType := event.eventType
      eventVersion := event.eventVersion
      aggregateType := event.aggregateType
      aggregateId := event.aggregateId
      correlationId := event.correlationId
      causationId := event.causationId
      consumerName := consumerName
      attemptNumber := attemptNumber
      error := clip error
      payload := event.payload
      failedAt := failedAt
      replayedAt := none }
  write (·.addDeadLetter row)
  flush
  return row

/-- What a replay puts back into the outbox. -/
def DeadLetterEvent.draft (row : DeadLetterEvent) : EventDraft :=
  { eventType := row.eventType
    eventVersion := row.eventVersion
    aggregateType := row.aggregateType
    aggregateId := row.aggregateId
    correlationId := row.correlationId
    causationId := row.causationId
    payload := row.payload }

def replay (deadLetterId : String) : App OutboxEvent := do
  match ← query (·.findDeadLetter deadLetterId) with
  | none =>
      raise (.lookupError
        ("Dead-letter event " ++ Json.reprStr deadLetterId ++ " was not found."))
  | some row =>
      if row.replayedAt.isSome then
        raise (.valueError
          ("Dead-letter event " ++ Json.reprStr deadLetterId ++ " was already replayed."))
      let replayEvent ← addEvent row.draft
      let replayedAt ← now
      write (·.updateDeadLetter deadLetterId fun row =>
        { row with replayedAt := some replayedAt })
      flush
      return replayEvent

/-- `replay_dead_letter_event`, in the session it opens. -/
def replayDeadLetterEvent (deadLetterId : String) : App OutboxEvent := do
  let replayEvent ← replay deadLetterId
  commit
  return replayEvent

end EventCart
