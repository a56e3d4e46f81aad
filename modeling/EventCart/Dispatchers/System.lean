/-
  EventCart.Dispatchers.System
  ────────────────────────────
  **DISPATCHERS ON ONE OUTBOX, STATEMENT BY STATEMENT.**

  Any number of dispatchers call `dispatch_pending_batch` again and again on
  one database.  A batch is the list its SELECT returned: the objects stay as
  they were fetched, whatever is committed later, because the session never
  loads them again.  A round works on the first of them:

    • `look`    — the registration, the envelope, and the inbox lookup of
                  `process_once`,
    • `body`    — the handler's body returns or raises,
    • `insert`  — the inbox row and the handler's own COMMIT,
    • `publish` — `mark_published` and the COMMIT of the round,
    • `number`  — the SELECT of `next_attempt_number`,
    • `record`  — the attempt, the dead letter if it was the last one,
                  `mark_failed` or `mark_retryable_failure`, and the COMMIT.

  The dispatchers interleave between any two of these.  What a transaction
  has sent but not committed is seen by nobody else, so it appears with its
  COMMIT; the UPDATE of an outbox row and the COMMIT right behind it are one
  step, because another UPDATE of the row waits for both.  A dispatcher may
  die anywhere, and gives its batch up when its INSERT meets the inbox row of
  another.  Other tables are left out; a handler's new events come in by
  `emit`, as those of the API do.

    §1  batches and rounds;
    §2  the steps;
    §3  what a step can do (`DispatchMove`, `dispatch_move`).
-/
import EventCart.DispatchEffects
import EventCart.Lib.Runs

namespace EventCart

open EventCart.Lib
open EventCart.Lib.Tx

/-! ## §1. Batches and rounds. -/

/-- What all dispatchers share. -/
structure Dispatching where
  handlers : HandlerMap
  policy : RetryPolicy

/-- The consumer of an event. -/
def Dispatching.consumer (D : Dispatching) (event : OutboxEvent) : String :=
  consumerNameForFailure event.eventType D.handlers

theorem Dispatching.consumer_of_lookup {D : Dispatching} {event : OutboxEvent}
    {registration : EventHandlerRegistration}
    (lookup : D.handlers.lookup event.eventType = some registration) :
    D.consumer event = registration.consumerName := by
  unfold Dispatching.consumer consumerNameForFailure
  rw [lookup]

/-- Where the round on the first event of a batch stands. -/
inductive RoundPhase where
  | taken
  /-- The inbox has no row of the event. -/
  | fresh
  /-- The handler's body has returned. -/
  | ran
  /-- The handler has returned. -/
  | handled
  /-- The `try` block has raised. -/
  | raised (error : String)
  /-- The number of the attempt is known. -/
  | numbered (error : String) (attemptNumber : Int)
  deriving DecidableEq

/-- One dispatcher: the events still to be handled, as they were fetched. -/
structure Dispatcher where
  batch : List OutboxEvent
  phase : RoundPhase

/-- The committed tables and the dispatchers `ι`. -/
structure DispatchState (ι : Type) where
  db : Database
  dispatcher : ι → Dispatcher

/-- Nobody has a batch. -/
def DispatchState.start {ι : Type} (db : Database) : DispatchState ι := ⟨db, fun _ => ⟨[], .taken⟩⟩

/-- The steps.  Identifiers and times are as the step says. -/
inductive DispatchStep (ι : Type) where
  | emit (draft : EventDraft) (eventId : String) (occurredAt : DateTime)
  | fetch (i : ι) (limit : Nat) (readyAt : DateTime)
  | look (i : ι)
  | body (i : ι) (result : Except PyError Unit)
  | insert (i : ι) (processedAt : DateTime)
  | publish (i : ι) (publishedAt : DateTime)
  | number (i : ι)
  | record (i : ι) (stamp : FailureStamp)
  | abort (i : ι)

/-- The UPDATE of an object that was loaded and changed: it sets the columns
whose value is no longer the loaded one. -/
def OutboxEvent.changes (loaded object row : OutboxEvent) : OutboxEvent :=
  { row with
    status := if object.status = loaded.status then row.status else object.status
    publishedAt :=
      if object.publishedAt = loaded.publishedAt then row.publishedAt else object.publishedAt
    nextAttemptAt :=
      if object.nextAttemptAt = loaded.nextAttemptAt then row.nextAttemptAt
      else object.nextAttemptAt
    failureCount :=
      if object.failureCount = loaded.failureCount then row.failureCount else object.failureCount
    lastError := if object.lastError = loaded.lastError then row.lastError else object.lastError }

/-! ## §2. The steps. -/

section steps
variable {ι : Type} [DecidableEq ι]

/-- One dispatcher moves on. -/
def DispatchState.move (s : DispatchState ι) (i : ι) (d : Dispatcher) : DispatchState ι :=
  { s with dispatcher := fun j => if j = i then d else s.dispatcher j }

/-- One dispatcher commits and moves on. -/
def DispatchState.commit (s : DispatchState ι) (i : ι) (d : Dispatcher) (db : Database) :
    DispatchState ι :=
  { s.move i d with db := db }

@[simp] theorem DispatchState.commit_dispatcher (s : DispatchState ι) (i : ι) (d : Dispatcher)
    (db : Database) : (s.commit i d db).dispatcher i = d := if_pos rfl

@[simp] theorem DispatchState.commit_db (s : DispatchState ι) (i : ι) (d : Dispatcher)
    (db : Database) : (s.commit i d db).db = db := rfl

@[simp] theorem DispatchState.commit_commit (s : DispatchState ι) (i : ι) (d d' : Dispatcher)
    (db db' : Database) : (s.commit i d db).commit i d' db' = s.commit i d' db' := by
  show (⟨db', fun j => if j = i then d' else if j = i then d else s.dispatcher j⟩ :
    DispatchState ι) = ⟨db', fun j => if j = i then d' else s.dispatcher j⟩
  rw [DispatchState.mk.injEq]
  refine ⟨rfl, ?_⟩
  funext j
  by_cases hj : j = i
  · simp [hj]
  · simp [hj]

@[simp] theorem DispatchState.commit_move (s : DispatchState ι) (i : ι) (d d' : Dispatcher)
    (db : Database) : (s.commit i d db).move i d' = s.commit i d' db := by
  show (s.commit i d db).commit i d' db = _
  rw [DispatchState.commit_commit]

namespace Dispatching

variable (D : Dispatching)

/-- An event is committed to the outbox. -/
def emit (draft : EventDraft) (eventId : String) (occurredAt : DateTime) (s : DispatchState ι) :
    DispatchState ι :=
  match s.db.findOutboxEvent eventId with
  | none => { s with db := s.db.addOutboxEvent (draft.row eventId occurredAt) }
  | some _ => s

/-- `fetch_pending` of the next batch. -/
def fetch (i : ι) (limit : Nat) (readyAt : DateTime) (s : DispatchState ι) : DispatchState ι :=
  match (s.dispatcher i).batch with
  | [] => s.move i ⟨s.db.pending limit readyAt, .taken⟩
  | _ :: _ => s

/-- The round up to the inbox lookup of `process_once`. -/
def look (i : ι) (s : DispatchState ι) : DispatchState ι :=
  match s.dispatcher i with
  | ⟨event :: rest, .taken⟩ =>
      match D.handlers.lookup event.eventType with
      | none =>
          s.move i ⟨event :: rest, .raised
            ("No brokerless handler registered for " ++ Json.reprStr event.eventType ++ ".")⟩
      | some registration =>
          match envelopeFromOutboxEvent event with
          | .error error => s.move i ⟨event :: rest, .raised error.text⟩
          | .ok _ =>
              if s.db.processed registration.consumerName event.eventId then
                s.move i ⟨event :: rest, .handled⟩
              else s.move i ⟨event :: rest, .fresh⟩
  | _ => s

/-- The handler's body. -/
def body (i : ι) (result : Except PyError Unit) (s : DispatchState ι) : DispatchState ι :=
  match s.dispatcher i with
  | ⟨event :: rest, .fresh⟩ =>
      match result with
      | .ok () => s.move i ⟨event :: rest, .ran⟩
      | .error error => s.move i ⟨event :: rest, .raised error.text⟩
  | _ => s

/-- The end of `process_once` and the handler's COMMIT. -/
def insert (i : ι) (processedAt : DateTime) (s : DispatchState ι) : DispatchState ι :=
  match s.dispatcher i with
  | ⟨event :: rest, .ran⟩ =>
      -- `IntegrityError`, and `record_failure` on a session that waits for a rollback
      if s.db.processed (D.consumer event) event.eventId then s.move i ⟨[], .taken⟩
      else s.commit i ⟨event :: rest, .handled⟩
        (s.db.addInboxEvent ⟨D.consumer event, event.eventId, processedAt⟩)
  | _ => s

/-- `mark_published` and the COMMIT of the round. -/
def publish (i : ι) (publishedAt : DateTime) (s : DispatchState ι) : DispatchState ι :=
  match s.dispatcher i with
  | ⟨event :: rest, .handled⟩ =>
      s.commit i ⟨rest, .taken⟩
        (s.db.updateOutboxEvent event.eventId (event.changes (event.published publishedAt)))
  | _ => s

/-- `next_attempt_number`. -/
def number (i : ι) (s : DispatchState ι) : DispatchState ι :=
  match s.dispatcher i with
  | ⟨event :: rest, .raised error⟩ =>
      s.move i ⟨event :: rest, .numbered error (s.db.nextAttempt event.eventId (D.consumer event))⟩
  | _ => s

/-- The tables after the COMMIT of a round that failed. -/
def recorded (event : OutboxEvent) (error : String) (attemptNumber : Int) (stamp : FailureStamp)
    (db : Database) : Database :=
  let attempted := db.addAttempt
    ⟨stamp.attemptId, event.eventId, D.consumer event, attemptNumber, clip error,
      stamp.attemptedAt⟩
  if attemptNumber ≥ D.policy.maxAttempts then
    (attempted.addDeadLetter (event.deadLetter stamp.deadLetterId (D.consumer event) attemptNumber
      error stamp.failedAt)).updateOutboxEvent event.eventId (event.changes (event.failed error))
  else
    attempted.updateOutboxEvent event.eventId (event.changes (event.retried error
      (stamp.failedAt + D.policy.delay attemptNumber)))

/-- The rest of the `except` block and the COMMIT of the round. -/
def record (i : ι) (stamp : FailureStamp) (s : DispatchState ι) : DispatchState ι :=
  match s.dispatcher i with
  | ⟨event :: rest, .numbered error attemptNumber⟩ =>
      if (D.recorded event error attemptNumber stamp s.db).admits
          ∧ (attemptNumber < D.policy.maxAttempts →
              D.policy.Schedules attemptNumber stamp.failedAt) then
        s.commit i ⟨rest, .taken⟩ (D.recorded event error attemptNumber stamp s.db)
      -- `IntegrityError`, or the `OverflowError` of a retry nothing can schedule
      else s.move i ⟨[], .taken⟩
  | _ => s

/-- The dispatcher dies, and its session is closed. -/
def abort (i : ι) (s : DispatchState ι) : DispatchState ι := s.move i ⟨[], .taken⟩

/-- **One step.**  What is not enabled changes nothing. -/
def step : DispatchStep ι → DispatchState ι → DispatchState ι
  | .emit draft eventId occurredAt, s => emit draft eventId occurredAt s
  | .fetch i limit readyAt, s => fetch i limit readyAt s
  | .look i, s => D.look i s
  | .body i result, s => body i result s
  | .insert i processedAt, s => D.insert i processedAt s
  | .publish i publishedAt, s => publish i publishedAt s
  | .number i, s => D.number i s
  | .record i stamp, s => D.record i stamp s
  | .abort i, s => abort i s

end Dispatching

/-! ## §3. What a step can do. -/

/-- A dispatcher moves on and commits nothing. -/
inductive DispatchTurn (D : Dispatching) (s : DispatchState ι) (i : ι) : Dispatcher → Prop where
  | fetched (limit : Nat) (readyAt : DateTime) (empty : (s.dispatcher i).batch = []) :
      DispatchTurn D s i ⟨s.db.pending limit readyAt, .taken⟩
  | goes {event : OutboxEvent} {rest : List OutboxEvent} {phase phase' : RoundPhase}
      (at_ : s.dispatcher i = ⟨event :: rest, phase⟩) (unhandled : phase' ≠ .handled) :
      DispatchTurn D s i ⟨event :: rest, phase'⟩
  | skipped {event : OutboxEvent} {rest : List OutboxEvent} {phase : RoundPhase}
      (at_ : s.dispatcher i = ⟨event :: rest, phase⟩)
      (processed : s.db.processed (D.consumer event) event.eventId = true) :
      DispatchTurn D s i ⟨event :: rest, .handled⟩
  | gaveUp : DispatchTurn D s i ⟨[], .taken⟩

/-- **What a step does** when it is enabled. -/
inductive DispatchMove (D : Dispatching) (a : DispatchStep ι) (s : DispatchState ι) :
    DispatchState ι → Prop where
  | emitted {draft : EventDraft} {eventId : String} {occurredAt : DateTime}
      (absent : s.db.findOutboxEvent eventId = none) :
      DispatchMove D a s { s with db := s.db.addOutboxEvent (draft.row eventId occurredAt) }
  | turned {i : ι} {d : Dispatcher} (turn : DispatchTurn D s i d) : DispatchMove D a s (s.move i d)
  | inserted {i : ι} {processedAt : DateTime} {event : OutboxEvent} {rest : List OutboxEvent}
      (label : a = .insert i processedAt) (at_ : s.dispatcher i = ⟨event :: rest, .ran⟩)
      (absent : s.db.processed (D.consumer event) event.eventId = false) :
      DispatchMove D a s (s.commit i ⟨event :: rest, .handled⟩
        (s.db.addInboxEvent ⟨D.consumer event, event.eventId, processedAt⟩))
  | published {i : ι} {publishedAt : DateTime} {event : OutboxEvent} {rest : List OutboxEvent}
      (label : a = .publish i publishedAt) (at_ : s.dispatcher i = ⟨event :: rest, .handled⟩) :
      DispatchMove D a s (s.commit i ⟨rest, .taken⟩
        (s.db.updateOutboxEvent event.eventId (event.changes (event.published publishedAt))))
  | recorded {i : ι} {stamp : FailureStamp} {event : OutboxEvent} {rest : List OutboxEvent}
      {error : String} {attemptNumber : Int} (label : a = .record i stamp)
      (at_ : s.dispatcher i = ⟨event :: rest, .numbered error attemptNumber⟩) :
      DispatchMove D a s (s.commit i ⟨rest, .taken⟩
        (D.recorded event error attemptNumber stamp s.db))

section moves
variable (D : Dispatching) (i : ι) (s : DispatchState ι) {a : DispatchStep ι}

open Dispatching

theorem emit_move (draft : EventDraft) (eventId : String) (occurredAt : DateTime) :
    Dispatching.emit draft eventId occurredAt s = s
      ∨ DispatchMove D a s (Dispatching.emit draft eventId occurredAt s) := by
  unfold Dispatching.emit
  split
  next habsent => exact .inr (.emitted habsent)
  next => exact .inl rfl

theorem fetch_move (limit : Nat) (readyAt : DateTime) :
    fetch i limit readyAt s = s ∨ DispatchMove D a s (fetch i limit readyAt s) := by
  unfold Dispatching.fetch
  split
  next hempty => exact .inr (.turned (.fetched limit readyAt hempty))
  next => exact .inl rfl

theorem look_move : D.look i s = s ∨ DispatchMove D a s (D.look i s) := by
  unfold Dispatching.look
  split
  next event rest hat =>
    right
    split
    next => exact .turned (.goes hat (by simp))
    next registration hlookup =>
      split
      next => exact .turned (.goes hat (by simp))
      next =>
        split
        next hprocessed =>
          rw [← Dispatching.consumer_of_lookup hlookup] at hprocessed
          exact .turned (.skipped hat hprocessed)
        next => exact .turned (.goes hat (by simp))
  next => exact .inl rfl

theorem body_move (result : Except PyError Unit) :
    body i result s = s ∨ DispatchMove D a s (body i result s) := by
  unfold Dispatching.body
  split
  next event rest hat =>
    right
    split
    next => exact .turned (.goes hat (by simp))
    next => exact .turned (.goes hat (by simp))
  next => exact .inl rfl

theorem inserts_move {processedAt : DateTime} (label : a = .insert i processedAt) :
    D.insert i processedAt s = s ∨ DispatchMove D a s (D.insert i processedAt s) := by
  unfold Dispatching.insert
  split
  next event rest hat =>
    right
    split
    next => exact .turned .gaveUp
    next habsent => exact .inserted label hat (Bool.eq_false_iff.mpr habsent)
  next => exact .inl rfl

theorem publish_move {publishedAt : DateTime} (label : a = .publish i publishedAt) :
    publish i publishedAt s = s ∨ DispatchMove D a s (publish i publishedAt s) := by
  unfold Dispatching.publish
  split
  next event rest hat => exact .inr (.published label hat)
  next => exact .inl rfl

theorem number_move : D.number i s = s ∨ DispatchMove D a s (D.number i s) := by
  unfold Dispatching.number
  split
  next event rest error hat => exact .inr (.turned (.goes hat (by simp)))
  next => exact .inl rfl

theorem record_move {stamp : FailureStamp} (label : a = .record i stamp) :
    D.record i stamp s = s ∨ DispatchMove D a s (D.record i stamp s) := by
  unfold Dispatching.record
  split
  next event rest error attemptNumber hat =>
    right
    split
    next => exact .recorded label hat
    next => exact .turned .gaveUp
  next => exact .inl rfl

end moves

/-- **A step waits or makes a move.** -/
theorem dispatch_move (D : Dispatching) (a : DispatchStep ι) (s : DispatchState ι) :
    D.step a s = s ∨ DispatchMove D a s (D.step a s) := by
  cases a with
  | emit draft eventId occurredAt => exact emit_move D s draft eventId occurredAt
  | fetch i limit readyAt => exact fetch_move D i s limit readyAt
  | look i => exact look_move D i s
  | body i result => exact body_move D i s result
  | insert i processedAt => exact inserts_move D i s rfl
  | publish i publishedAt => exact publish_move D i s rfl
  | number i => exact number_move D i s
  | record i stamp => exact record_move D i s rfl
  | abort i => exact .inr (.turned .gaveUp)

/-- **The invariant rule of the dispatchers**: what every move keeps, every
run whose steps meet a condition keeps. -/
theorem dispatches_keep {D : Dispatching} {I : DispatchState ι → Prop}
    {C : DispatchState ι → DispatchStep ι → Prop}
    (keep : ∀ s s' a, I s → C s a → DispatchMove D a s s' → I s') (steps : List (DispatchStep ι))
    {s : DispatchState ι} (h : I s) (along : Along D.step C steps s) : I (run D.step steps s) := by
  refine run_invariant_along (fun s a hs hc => ?_) steps s h along
  rcases dispatch_move D a s with hstay | hmove
  · rw [hstay]
    exact hs
  · exact keep s _ a hs hc hmove

end steps

end EventCart
