/-
  EventCart.Dispatchers.Rounds
  ────────────────────────────
  **A ROUND WITH NOBODY IN BETWEEN IS A RUN OF THE STEPS.**

  `dispatchEvent` runs a whole round on one session; the steps of
  `Dispatchers.System` take the same round apart.  A round that nobody
  interrupts leaves the tables of delivery as some run of the steps does,
  however the handler ends and wherever the process dies, and so does a
  whole batch.

    • `round_returned`, `round_stopped` — one round,
    • `batch_runs`                      — `dispatch_pending_batch`,
    • `batches_run`                     — dispatchers that take turns.
-/
import EventCart.Dispatchers.System
import EventCart.Saga.System
import EventCart.Survival

namespace EventCart

open EventCart.Lib
open EventCart.Lib.Tx

/-! ## §1. The tables of delivery. -/

/-- The outbox, the inbox, the attempts and the dead letters. -/
def Database.delivery (db : Database) : Database :=
  { Database.empty with
    outboxEvents := db.outboxEvents
    attempts := db.attempts
    deadLetters := db.deadLetters
    inboxEvents := db.inboxEvents }

theorem Database.Keyed.delivery {db : Database} (h : db.Keyed) : db.delivery.Keyed :=
  { Database.keyed_empty with
    outboxEvents := h.outboxEvents
    attempts := h.attempts
    deadLetters := h.deadLetters
    inboxEvents := h.inboxEvents
    attemptsEvents := h.attemptsEvents }

/-- An UPDATE of a row that is as it was loaded writes the whole object. -/
theorem changes_loaded (event : OutboxEvent) (status : OutboxEventStatus)
    (publishedAt nextAttemptAt : Option DateTime) (failureCount : Int)
    (lastError : Option String) :
    event.changes { event with status, publishedAt, nextAttemptAt, failureCount, lastError } event
      = { event with status, publishedAt, nextAttemptAt, failureCount, lastError } := by
  have hset : ∀ {α : Type} [DecidableEq α] (new old : α), (if new = old then old else new) = new := by
    intro α _ new old
    by_cases h : new = old
    · rw [if_pos h, h]
    · rw [if_neg h]
  unfold OutboxEvent.changes
  rw [hset, hset, hset, hset, hset]

/-- The UPDATE of the row of a loaded event, in the tables of delivery. -/
theorem delivery_updateOutboxEvent {db : Database} (keyed : db.Keyed) {event : OutboxEvent}
    (mem : event ∈ db.outboxEvents) {f : OutboxEvent → OutboxEvent}
    (writes : event.changes (f event) event = f event) :
    (db.updateOutboxEvent event.eventId f).delivery
      = db.delivery.updateOutboxEvent event.eventId (event.changes (f event)) := by
  have hsame : update (·.eventId) event.eventId f db.outboxEvents
      = update (·.eventId) event.eventId (event.changes (f event)) db.outboxEvents := by
    apply update_congr
    intro row hrow hid
    rw [row_unique keyed.outboxEvents hrow mem hid]
    exact writes.symm
  show ({ db.delivery with
    outboxEvents := update (·.eventId) event.eventId f db.outboxEvents } : Database) = _
  rw [hsame]
  rfl

/-- What a round records of a failure, in the tables of delivery. -/
theorem delivery_attemptFailed {handlers : HandlerMap} {policy : RetryPolicy} {db : Database}
    {event : OutboxEvent} (mem : event ∈ db.outboxEvents) {error : String} {stamp : FailureStamp}
    (keyed : (db.attemptFailed handlers policy event error stamp).Keyed) :
    (db.attemptFailed handlers policy event error stamp).delivery
      = (⟨handlers, policy⟩ : Dispatching).recorded event error
          (db.delivery.nextAttempt event.eventId (consumerNameForFailure event.eventType handlers))
          stamp db.delivery := by
  unfold Database.attemptFailed at keyed ⊢
  unfold Dispatching.recorded
  by_cases hmax : db.failureNumber handlers event ≥ policy.maxAttempts
  · have hid : ∀ row : OutboxEvent, (row.failed error).eventId = row.eventId := fun _ => rfl
    rw [if_pos hmax] at keyed ⊢
    rw [delivery_updateOutboxEvent ((keyed_updateOutboxEvent hid).mp keyed) mem
      (changes_loaded event _ _ _ _ _)]
    exact (if_pos (show _ ≥ policy.maxAttempts from hmax)).symm
  · have hid : ∀ (at' : DateTime) (row : OutboxEvent), (row.retried error at').eventId
        = row.eventId := fun _ _ => rfl
    rw [if_neg hmax] at keyed ⊢
    rw [delivery_updateOutboxEvent ((keyed_updateOutboxEvent (hid _)).mp keyed) mem
      (changes_loaded event _ _ _ _ _)]
    exact (if_neg (show ¬ _ ≥ policy.maxAttempts from hmax)).symm

/-- A handler's body adds at most one event to the tables of delivery. -/
theorem Handled.delivery {event : EventEnvelope} {db db' : Database} (h : Handled event db db') :
    db'.delivery = db.delivery
      ∨ ∃ draft : EventDraft, ∃ id occurredAt,
          db'.delivery = db.delivery.addOutboxEvent (draft.row id occurredAt) := by
  cases h with
  | reserved => rw [moveAll_eq]; exact .inr ⟨_, _, _, rfl⟩
  | refused => exact .inr ⟨_, _, _, rfl⟩
  | paid => exact .inr ⟨_, _, _, rfl⟩
  | invoiced => exact .inr ⟨_, _, _, rfl⟩
  | notified => exact .inr ⟨_, _, _, rfl⟩
  | completed => exact .inl rfl
  | released => rw [moveAll_eq]; exact .inr ⟨_, _, _, rfl⟩
  | cancelled => exact .inl rfl

/-- A release that stopped half way leaves the tables of delivery alone. -/
theorem HalfReleased.delivery {event : EventEnvelope} {db db' : Database}
    (h : HalfReleased event db db') : db'.delivery = db.delivery := by
  obtain ⟨orderId, lines, -, -, -, -, rfl⟩ := h.release
  rw [moveAll_eq]
  rfl

/-! ## §2. The steps of a round. -/

namespace Dispatching

section steps
variable {ι : Type} [DecidableEq ι] {D : Dispatching} {s : DispatchState ι} {i : ι}
  {event : OutboxEvent} {rest : List OutboxEvent} {db : Database}
  {registration : EventHandlerRegistration} {envelope : EventEnvelope}

/-- No handler is registered. -/
theorem reaches_unrouted (lookup : D.handlers.lookup event.eventType = none) :
    Reaches D.step (s.commit i ⟨event :: rest, .taken⟩ db)
      (s.commit i ⟨event :: rest, .raised
        ("No brokerless handler registered for " ++ Json.reprStr event.eventType ++ ".")⟩ db) := by
  refine .head (.look i) ?_
  show Reaches D.step (D.look i _) _
  simp only [Dispatching.look, DispatchState.commit_dispatcher, lookup, DispatchState.commit_move]
  exact .refl _ _

/-- The row is no valid envelope. -/
theorem reaches_invalid (lookup : D.handlers.lookup event.eventType = some registration)
    {error : PyError} (invalid : envelopeFromOutboxEvent event = .error error) :
    Reaches D.step (s.commit i ⟨event :: rest, .taken⟩ db)
      (s.commit i ⟨event :: rest, .raised error.text⟩ db) := by
  refine .head (.look i) ?_
  show Reaches D.step (D.look i _) _
  simp only [Dispatching.look, DispatchState.commit_dispatcher, lookup, invalid,
    DispatchState.commit_move]
  exact .refl _ _

/-- The inbox has a row of the event. -/
theorem reaches_skipped (lookup : D.handlers.lookup event.eventType = some registration)
    (valid : envelopeFromOutboxEvent event = .ok envelope)
    (processed : db.processed registration.consumerName event.eventId = true) :
    Reaches D.step (s.commit i ⟨event :: rest, .taken⟩ db)
      (s.commit i ⟨event :: rest, .handled⟩ db) := by
  refine .head (.look i) ?_
  show Reaches D.step (D.look i _) _
  simp only [Dispatching.look, DispatchState.commit_dispatcher, lookup, valid,
    DispatchState.commit_db, processed, if_true, DispatchState.commit_move]
  exact .refl _ _

/-- The inbox has no row of the event. -/
theorem reaches_fresh (lookup : D.handlers.lookup event.eventType = some registration)
    (valid : envelopeFromOutboxEvent event = .ok envelope)
    (fresh : db.processed registration.consumerName event.eventId = false) :
    Reaches D.step (s.commit i ⟨event :: rest, .taken⟩ db)
      (s.commit i ⟨event :: rest, .fresh⟩ db) := by
  refine .head (.look i) ?_
  show Reaches D.step (D.look i _) _
  simp only [Dispatching.look, DispatchState.commit_dispatcher, lookup, valid,
    DispatchState.commit_db, fresh, Bool.false_eq_true, if_false, DispatchState.commit_move]
  exact .refl _ _

/-- The body raises. -/
theorem reaches_raised (error : PyError) :
    Reaches D.step (s.commit i ⟨event :: rest, .fresh⟩ db)
      (s.commit i ⟨event :: rest, .raised error.text⟩ db) := by
  refine .head (.body i (.error error)) ?_
  show Reaches D.step (Dispatching.body i (.error error) _) _
  simp only [Dispatching.body, DispatchState.commit_dispatcher, DispatchState.commit_move]
  exact .refl _ _

/-- The body returns, and the handler commits. -/
theorem reaches_handled (fresh : db.processed (D.consumer event) event.eventId = false)
    (processedAt : DateTime) :
    Reaches D.step (s.commit i ⟨event :: rest, .fresh⟩ db)
      (s.commit i ⟨event :: rest, .handled⟩
        (db.addInboxEvent ⟨D.consumer event, event.eventId, processedAt⟩)) := by
  refine .head (.body i (.ok ())) (.head (.insert i processedAt) ?_)
  show Reaches D.step (D.insert i processedAt (Dispatching.body i _ _)) _
  simp only [Dispatching.body, Dispatching.insert, DispatchState.commit_dispatcher,
    DispatchState.commit_move, DispatchState.commit_db, fresh, Bool.false_eq_true, if_false,
    DispatchState.commit_commit]
  exact .refl _ _

/-- An event is committed with it. -/
theorem reaches_emitted {d : Dispatcher} {id : String} (absent : db.findOutboxEvent id = none)
    (draft : EventDraft) (occurredAt : DateTime) :
    Reaches D.step (s.commit i d db)
      (s.commit i d (db.addOutboxEvent (draft.row id occurredAt))) := by
  refine .head (.emit draft id occurredAt) ?_
  show Reaches D.step (Dispatching.emit draft id occurredAt _) _
  simp only [Dispatching.emit, DispatchState.commit_db, absent]
  exact .refl _ _

/-- The event is published. -/
theorem reaches_published (publishedAt : DateTime) :
    Reaches D.step (s.commit i ⟨event :: rest, .handled⟩ db)
      (s.commit i ⟨rest, .taken⟩
        (db.updateOutboxEvent event.eventId (event.changes (event.published publishedAt)))) := by
  refine .head (.publish i publishedAt) ?_
  show Reaches D.step (Dispatching.publish i publishedAt _) _
  simp only [Dispatching.publish, DispatchState.commit_dispatcher, DispatchState.commit_db,
    DispatchState.commit_commit]
  exact .refl _ _

/-- The failure is recorded. -/
theorem reaches_recorded {error : String} {stamp : FailureStamp}
    (admits : (D.recorded event error (db.nextAttempt event.eventId (D.consumer event)) stamp
      db).admits = true)
    (scheduled : db.nextAttempt event.eventId (D.consumer event) < D.policy.maxAttempts →
      D.policy.Schedules (db.nextAttempt event.eventId (D.consumer event)) stamp.failedAt) :
    Reaches D.step (s.commit i ⟨event :: rest, .raised error⟩ db)
      (s.commit i ⟨rest, .taken⟩
        (D.recorded event error (db.nextAttempt event.eventId (D.consumer event)) stamp db)) := by
  refine .head (.number i) (.head (.record i stamp) ?_)
  show Reaches D.step (D.record i stamp (D.number i _)) _
  simp only [Dispatching.number, Dispatching.record, DispatchState.commit_dispatcher,
    DispatchState.commit_db, DispatchState.commit_move, DispatchState.commit_commit]
  rw [if_pos ⟨admits, scheduled⟩]
  exact .refl _ _

/-- The dispatcher stops. -/
theorem reaches_aborted (d : Dispatcher) :
    Reaches D.step (s.commit i d db) (s.commit i ⟨[], .taken⟩ db) := by
  refine .head (.abort i) ?_
  show Reaches D.step ((s.commit i d db).move i ⟨[], .taken⟩) _
  rw [DispatchState.commit_move]
  exact .refl _ _

end steps

end Dispatching

open Dispatching

/-! ## §3. One round. -/

/-- The dispatchers of the saga. -/
def sagaDispatching (paymentFails : String → Bool) (policy : RetryPolicy) : Dispatching :=
  ⟨sagaHandlers paymentFails, policy⟩

section rounds
variable {ι : Type} [DecidableEq ι] (s : DispatchState ι) (i : ι) (rest : List OutboxEvent)
  (policy : RetryPolicy) {event : OutboxEvent} {paymentFails : String → Bool}
  {t u : Session Database}

/-- What the handler of an event commits, step by step. -/
theorem reaches_committed {registration : EventHandlerRegistration} {envelope : EventEnvelope}
    (lookup : (sagaHandlers paymentFails).lookup event.eventType = some registration)
    (valid : envelopeFromOutboxEvent event = .ok envelope) {db db' : Database}
    (fresh : db.processed registration.consumerName event.eventId = false)
    (handled : Handled envelope db db') {processedAt : DateTime}
    (keyed : (db'.addInboxEvent ⟨registration.consumerName, event.eventId, processedAt⟩).Keyed) :
    Reaches (sagaDispatching paymentFails policy).step
      (s.commit i ⟨event :: rest, .taken⟩ db.delivery)
      (s.commit i ⟨event :: rest, .handled⟩
        (db'.addInboxEvent ⟨registration.consumerName, event.eventId, processedAt⟩).delivery) := by
  have hconsumer : (sagaDispatching paymentFails policy).consumer event
      = registration.consumerName := Dispatching.consumer_of_lookup lookup
  have hmarked : Reaches (sagaDispatching paymentFails policy).step
      (s.commit i ⟨event :: rest, .taken⟩ db.delivery)
      (s.commit i ⟨event :: rest, .handled⟩ (db.delivery.addInboxEvent
        ⟨registration.consumerName, event.eventId, processedAt⟩)) := by
    have hlooked : Reaches (sagaDispatching paymentFails policy).step
        (s.commit i ⟨event :: rest, .taken⟩ db.delivery)
        (s.commit i ⟨event :: rest, .fresh⟩ db.delivery) := reaches_fresh lookup valid fresh
    refine hlooked.trans ?_
    rw [← hconsumer] at fresh ⊢
    have hfresh : db.delivery.processed ((sagaDispatching paymentFails policy).consumer event)
        event.eventId = false := fresh
    exact reaches_handled hfresh processedAt
  show Reaches _ _ (s.commit i _ (db'.delivery.addInboxEvent _))
  rcases handled.delivery with hsame | ⟨draft, id, occurredAt, hadded⟩
  · rw [hsame]
    exact hmarked
  · -- the new event is committed with the inbox row
    have hnodup : (db'.delivery.outboxEvents.map (·.eventId)).Nodup := keyed.outboxEvents
    rw [hadded] at hnodup ⊢
    have hnodup : ((db.delivery.outboxEvents ++ [draft.row id occurredAt]).map (·.eventId)).Nodup :=
      hnodup
    have habsent : db.delivery.findOutboxEvent id = none := by
      apply List.find?_eq_none.mpr
      intro row hrow hid
      rw [decide_eq_true_eq] at hid
      exact fresh_of_nodup hnodup row hrow hid
    have habsent : (db.delivery.addInboxEvent ⟨registration.consumerName, event.eventId,
        processedAt⟩).findOutboxEvent id = none := habsent
    exact hmarked.trans (reaches_emitted habsent draft occurredAt)

/-- **The `try` block returns**: the handler has skipped or committed the
event, and the object is marked. -/
theorem handleEvent_returned (clean : t.Clean) (keyed : t.committed.Keyed) {a : Unit}
    (h : handleEvent (sagaHandlers paymentFails) event t = .ok a u) :
    Reaches (sagaDispatching paymentFails policy).step
        (s.commit i ⟨event :: rest, .taken⟩ t.committed.delivery)
        (s.commit i ⟨event :: rest, .handled⟩ u.committed.delivery)
      ∧ t.committed.outboxEvents <+: u.committed.outboxEvents
      ∧ u.committed.Keyed
      ∧ ∃ publishedAt,
          u.working = u.committed.updateOutboxEvent event.eventId (·.published publishedAt) := by
  rw [handleEvent_eq] at h
  obtain ⟨_, v, hv, hmark⟩ := bind_eq_ok.mp h
  obtain ⟨publishedAt, n, rfl⟩ := markPublished_ok hmark
  rcases sagaCall paymentFails event with ⟨refused, hcall⟩
    | ⟨registration, envelope, hlookup, valid, hcall, α, body, event', hb⟩
  · rw [hcall] at hv
    simp at hv
  · rw [hcall] at hv
    obtain ⟨-, hid, -, -⟩ := envelope_eventType valid
    -- the inbox had the event, or the body was committed with its inbox row
    rcases hb.handler_ok hv with ⟨processed, m, rfl⟩
      | ⟨fresh, db', processedAt, m, handled, hk, rfl⟩
    · rw [clean.2, hid] at processed
      refine ⟨reaches_skipped hlookup valid processed, List.prefix_rfl, keyed, publishedAt, ?_⟩
      show t.working.updateOutboxEvent _ _ = _
      rw [clean.2]
      rfl
    · rw [clean.2, hid] at fresh
      rw [clean.2] at handled
      rw [hid] at hk ⊢
      obtain ⟨⟨new, houtbox, -⟩, -, -⟩ := handled.outbox
      refine ⟨reaches_committed s i rest policy hlookup valid fresh handled hk, ?_, hk,
        publishedAt, rfl⟩
      show t.committed.outboxEvents <+: db'.outboxEvents
      rw [houtbox]
      exact List.prefix_append _ _

/-- **The `try` block raises**: nothing is committed; and on a session that
can still be used, the tables of delivery are as they were. -/
theorem handleEvent_raised (clean : t.Clean) (mem : event ∈ t.committed.outboxEvents)
    {e : Failure PyError} (h : handleEvent (sagaHandlers paymentFails) event t = .error e u) :
    u.committed = t.committed
      ∧ (u.active = true → e ≠ .crash → u.working.delivery = t.committed.delivery
          ∧ Reaches (sagaDispatching paymentFails policy).step
              (s.commit i ⟨event :: rest, .taken⟩ t.committed.delivery)
              (s.commit i ⟨event :: rest, .raised (failureText e)⟩ t.committed.delivery)) := by
  unfold handleEvent at h
  cases hlookup : (sagaHandlers paymentFails).lookup event.eventType with
  | none =>
      rw [hlookup] at h
      simp only [raise_apply, EStateM.Result.error.injEq] at h
      obtain ⟨rfl, rfl⟩ := h
      refine ⟨rfl, fun _ _ => ⟨by rw [clean.2], ?_⟩⟩
      exact reaches_unrouted hlookup
  | some registration =>
      rw [hlookup] at h
      cases hvalid : envelopeFromOutboxEvent event with
      | error error =>
          simp only [hvalid] at h
          have hraise : (raise error : App Unit) t = .error e u := h
          simp only [raise_apply, EStateM.Result.error.injEq] at hraise
          obtain ⟨rfl, rfl⟩ := hraise
          refine ⟨rfl, fun _ _ => ⟨by rw [clean.2], ?_⟩⟩
          exact reaches_invalid hlookup hvalid
      | ok envelope =>
          simp only [hvalid] at h
          have hrun : (registration.handler envelope >>= fun _ => markPublished event.eventId) t
              = .error e u := h
          obtain ⟨htype, hid, -, -⟩ := envelope_eventType hvalid
          obtain ⟨α, body, event', hb⟩ := routed_body (htype.symm ▸ hlookup)
          rcases bind_eq_error.mp hrun with herr | ⟨a, v, hv, hmark⟩
          · refine ⟨hb.handler_error herr, fun active alive => ?_⟩
            cases e with
            | raised error =>
                obtain ⟨fresh, -, hleft⟩ := hb.handler_raised herr
                rw [clean.2, hid] at fresh
                have hlooked : Reaches (sagaDispatching paymentFails policy).step
                    (s.commit i ⟨event :: rest, .taken⟩ t.committed.delivery)
                    (s.commit i ⟨event :: rest, .fresh⟩ t.committed.delivery) :=
                  reaches_fresh hlookup hvalid fresh
                refine ⟨?_, hlooked.trans (reaches_raised error)⟩
                rw [← clean.2]
                rcases hleft with hsame | hhalf
                · rw [hsame]
                · exact hhalf.delivery
            | crash => exact absurd rfl alive
            | database message =>
                rw [hb.handler_inactive clean.1 herr (by simp) alive] at active
                simp at active
            | pendingRollback =>
                rw [hb.handler_inactive clean.1 herr (by simp) alive] at active
                simp at active
          · -- the row the handler leaves in the outbox is found
            have hmem : event ∈ v.working.outboxEvents := by
              rw [← clean.2] at mem
              rcases hb.handler_ok hv with ⟨-, n, rfl⟩ | ⟨-, db', at', n, handled, -, rfl⟩
              · exact mem
              · obtain ⟨⟨new, houtbox, -⟩, -, -⟩ := handled.outbox
                show event ∈ db'.outboxEvents
                rw [houtbox]
                exact List.mem_append_left _ mem
            obtain ⟨row, hrow⟩ := findOutboxEvent_of_mem hmem
            rw [markPublished_of_some hrow] at hmark
            simp at hmark

/-- **A round that returns** is a run of the steps, and leaves the other
events as they were. -/
theorem round_returned (clean : t.Clean) (keyed : t.committed.Keyed)
    (mem : event ∈ t.committed.outboxEvents) {a : PUnit}
    (h : dispatchEvent (sagaHandlers paymentFails) policy event t = .ok a u) :
    Reaches (sagaDispatching paymentFails policy).step
        (s.commit i ⟨event :: rest, .taken⟩ t.committed.delivery)
        (s.commit i ⟨rest, .taken⟩ u.committed.delivery)
      ∧ u.Clean ∧ u.committed.Keyed
      ∧ ∀ other ∈ t.committed.outboxEvents, other.eventId ≠ event.eventId →
          other ∈ u.committed.outboxEvents := by
  have hclean := dispatchEvent_clean h
  -- the `try` block returned, or the `except` block recorded the failure
  cases hhandle : handleEvent (sagaHandlers paymentFails) event t with
  | ok _ v =>
      obtain ⟨hreaches, hgrown, hkeyed, publishedAt, hworking⟩ :=
        handleEvent_returned s i rest policy clean keyed hhandle
      rw [dispatchEvent_of_ok hhandle] at h
      obtain ⟨hk, n, rfl⟩ := commit_keyed h
      refine ⟨hreaches.trans ?_, hclean, hk, fun other hother hne => ?_⟩
      · show Reaches _ _ (s.commit i _ v.working.delivery)
        rw [hworking, delivery_updateOutboxEvent hkeyed (hgrown.subset mem)
          (changes_loaded event _ _ _ _ _)]
        exact reaches_published publishedAt
      · show other ∈ v.working.outboxEvents
        rw [hworking]
        exact mem_update.mpr (.inr ⟨hgrown.subset hother, hne⟩)
  | error e v =>
      have halive : e ≠ .crash := by
        rintro rfl
        rw [dispatchEvent_of_crash hhandle] at h
        simp at h
      rw [dispatchEvent_of_error halive hhandle] at h
      obtain ⟨_, w, hw, hc⟩ := bind_eq_ok.mp h
      obtain ⟨stamp, m, rfl, hscheduled⟩ := recordEventFailure_stamped hw
      obtain ⟨hk, n, rfl⟩ := commit_keyed hc
      have hactive : v.active = true := (commit_ok hc).1
      -- the handler raised before it wrote anything of delivery
      obtain ⟨hdelivery, hreaches⟩ :=
        (handleEvent_raised s i rest policy clean mem hhandle).2 hactive halive
      have houtbox : v.working.outboxEvents = t.committed.outboxEvents := by
        show v.working.delivery.outboxEvents = _
        rw [hdelivery]
        rfl
      have hrecorded := delivery_attemptFailed (houtbox.symm ▸ mem) hk
      have hadmits := (admits_iff _).mpr hk.delivery
      rw [hdelivery] at hrecorded
      rw [goto_working, hrecorded] at hadmits
      have hnumber : v.working.failureNumber (sagaHandlers paymentFails) event
          = t.committed.delivery.nextAttempt event.eventId
              ((sagaDispatching paymentFails policy).consumer event) := by
        rw [← hdelivery]
        rfl
      refine ⟨hreaches.trans ?_, hclean, hk, fun other hother hne => ?_⟩
      · show Reaches _ _ (s.commit i _ (v.working.attemptFailed _ _ _ _ _).delivery)
        rw [hrecorded]
        refine reaches_recorded hadmits fun hfew => ?_
        rw [← hnumber] at hfew ⊢
        exact (hscheduled hfew).2
      · exact mem_attemptFailed (houtbox.symm ▸ hother) hne

/-- **A round that does not return** is a run of the steps, at whose end the
dispatcher stops. -/
theorem round_stopped (clean : t.Clean) (keyed : t.committed.Keyed)
    (mem : event ∈ t.committed.outboxEvents) {e : Failure PyError}
    (h : dispatchEvent (sagaHandlers paymentFails) policy event t = .error e u) :
    Reaches (sagaDispatching paymentFails policy).step
        (s.commit i ⟨event :: rest, .taken⟩ t.committed.delivery)
        (s.commit i ⟨[], .taken⟩ u.committed.delivery)
      ∧ u.committed.Keyed := by
  cases hhandle : handleEvent (sagaHandlers paymentFails) event t with
  | ok _ v =>
      obtain ⟨hreaches, -, hkeyed, -⟩ :=
        handleEvent_returned s i rest policy clean keyed hhandle
      rw [dispatchEvent_of_ok hhandle] at h
      rw [(commit_error h).1]
      exact ⟨hreaches.trans (reaches_aborted _), hkeyed⟩
  | error e' v =>
      -- nothing is committed after the `try` block
      have hcommitted : u.committed = v.committed := by
        by_cases hcrash : e' = .crash
        · subst hcrash
          rw [dispatchEvent_of_crash hhandle, EStateM.Result.error.injEq] at h
          rw [h.2]
        · rw [dispatchEvent_of_error hcrash hhandle] at h
          have hquiet := quiet_recordEventFailure (sagaHandlers paymentFails) policy event e' v
          rcases bind_eq_error.mp h with hr | ⟨_, w, hr, hc⟩
          · rw [hr] at hquiet
            exact hquiet.1
          · rw [hr] at hquiet
            exact (commit_error hc).1.trans hquiet.1
      rw [hcommitted, (handleEvent_raised s i rest policy clean mem hhandle).1]
      exact ⟨reaches_aborted _, keyed⟩

/-! ## §4. Batches. -/

/-- The rounds of a batch, up to the one that does not return. -/
theorem rounds_run (paymentFails : String → Bool) :
    ∀ (events : List OutboxEvent) (t : Session Database), t.Clean → t.committed.Keyed →
      (events.map (·.eventId)).Nodup → (∀ event ∈ events, event ∈ t.committed.outboxEvents) →
        Reaches (sagaDispatching paymentFails policy).step
            (s.commit i ⟨events, .taken⟩ t.committed.delivery)
            (s.commit i ⟨[], .taken⟩ (after (events.forM
              (dispatchEvent (sagaHandlers paymentFails) policy) t)).committed.delivery)
          ∧ (after (events.forM
              (dispatchEvent (sagaHandlers paymentFails) policy) t)).committed.Keyed := by
  intro events
  induction events with
  | nil =>
      intro t clean keyed nodup mem
      exact ⟨.refl _ _, keyed⟩
  | cons event events ih =>
      intro t clean keyed nodup mem
      obtain ⟨hnotin, hnodup⟩ := List.nodup_cons.mp nodup
      have hmem := mem event List.mem_cons_self
      have hcons : (event :: events).forM (dispatchEvent (sagaHandlers paymentFails) policy) t
          = (dispatchEvent (sagaHandlers paymentFails) policy event >>= fun _ =>
              events.forM (dispatchEvent (sagaHandlers paymentFails) policy)) t := rfl
      rw [hcons]
      cases h : dispatchEvent (sagaHandlers paymentFails) policy event t with
      | error e u =>
          rw [bind_of_error h]
          exact round_stopped s i events policy clean keyed hmem h
      | ok _ u =>
          obtain ⟨hreaches, hclean, hkeyed, hothers⟩ :=
            round_returned s i events policy clean keyed hmem h
          rw [bind_of_ok h]
          obtain ⟨hrest, hlast⟩ := ih u hclean hkeyed hnodup fun other hother => by
            -- the other events of the batch are still what was fetched
            apply hothers other (mem other (List.mem_cons_of_mem _ hother))
            intro hid
            exact hnotin (List.mem_map.mpr ⟨other, hother, hid⟩)
          exact ⟨hreaches.trans hrest, hlast⟩

/-- **A batch on a session of its own is a run of the steps of one
dispatcher**, whatever happens to it on the way. -/
theorem batch_runs (paymentFails : String → Bool) (limit : Nat) (clean : t.Clean)
    (keyed : t.committed.Keyed) :
    Reaches (sagaDispatching paymentFails policy).step
        (s.commit i ⟨[], .taken⟩ t.committed.delivery)
        (s.commit i ⟨[], .taken⟩ (after (dispatchPendingBatch (sagaHandlers paymentFails) limit
          policy t)).committed.delivery)
      ∧ (after (dispatchPendingBatch (sagaHandlers paymentFails) limit policy t)).committed.Keyed := by
  have hbatch : dispatchPendingBatch (sagaHandlers paymentFails) limit policy t
      = (fetchPending limit >>= fun events =>
          events.forM (dispatchEvent (sagaHandlers paymentFails) policy) >>= fun _ =>
            (pure events.length : App Nat)) t := rfl
  rw [hbatch]
  rcases fetchPending_bind limit (fun events =>
    events.forM (dispatchEvent (sagaHandlers paymentFails) policy) >>= fun _ =>
      (pure events.length : App Nat)) t with ⟨e, u, hfailed, hcommitted⟩ | ⟨n, hgone⟩
  · rw [hfailed, after_error, hcommitted]
    exact ⟨.refl _ _, keyed⟩
  · rw [hgone, after_bind_pure]
    have hworking : (t.goto t.working n).Clean := clean
    -- the rows of the batch are those of the step `fetch`
    have hrows : ∀ event ∈ fetchedEvents limit t, event ∈ t.committed.outboxEvents := by
      intro event hevent
      rw [← clean.2]
      exact (mem_pending hevent).1
    have hnodup : ((fetchedEvents limit t).map (·.eventId)).Nodup := by
      rw [← clean.2] at keyed
      exact pending_nodup keyed.outboxEvents _ _
    obtain ⟨hreaches, hkeyed⟩ := rounds_run s i policy paymentFails (fetchedEvents limit t)
      (t.goto t.working n) hworking keyed hnodup hrows
    refine ⟨Reaches.trans (.head (.fetch i limit (t.world.now t.tick)) ?_) hreaches, hkeyed⟩
    show Reaches _ (Dispatching.fetch i limit _ (s.commit i ⟨[], .taken⟩ _)) _
    simp only [Dispatching.fetch, DispatchState.commit_dispatcher, DispatchState.commit_move,
      DispatchState.commit_db]
    rw [fetchedEvents, clean.2]
    exact .refl _ _

/-- A dispatcher without a batch is as at the start. -/
theorem commit_start (db db' : Database) :
    (DispatchState.start db).commit i ⟨[], .taken⟩ db' = DispatchState.start db' := by
  show (⟨db', fun j => if j = i then ⟨[], .taken⟩ else ⟨[], .taken⟩⟩ : DispatchState ι)
    = ⟨db', fun _ => ⟨[], .taken⟩⟩
  simp

end rounds

/-- One call of `dispatch_pending_batch` and everything outside it. -/
structure BatchCall (ι : Type) where
  dispatcher : ι
  limit : Nat
  world : World Database
  tick : Nat

/-- The committed database after a call, with nobody in between. -/
def BatchCall.serve {ι : Type} (paymentFails : String → Bool) (policy : RetryPolicy)
    (call : BatchCall ι) (db : Database) : Database :=
  transact (dispatchPendingBatch (sagaHandlers paymentFails) call.limit policy) call.world
    call.tick db

/-- **Dispatchers that take turns** are a run of the steps. -/
theorem batches_run {ι : Type} [DecidableEq ι] (paymentFails : String → Bool)
    (policy : RetryPolicy) (calls : List (BatchCall ι)) {db : Database} (keyed : db.Keyed) :
    Reaches (sagaDispatching paymentFails policy).step
      (DispatchState.start db.delivery : DispatchState ι)
      (DispatchState.start (run (BatchCall.serve paymentFails policy) calls db).delivery) := by
  have hone : ∀ (db : Database) (s : DispatchState ι) (call : BatchCall ι),
      (db.Keyed ∧ s = DispatchState.start db.delivery) →
        ∃ steps, (call.serve paymentFails policy db).Keyed
          ∧ run (sagaDispatching paymentFails policy).step steps s
            = DispatchState.start (call.serve paymentFails policy db).delivery := by
    rintro db s call ⟨keyed, rfl⟩
    obtain ⟨⟨steps, hsteps⟩, hkeyed⟩ := batch_runs (DispatchState.start db.delivery)
      call.dispatcher policy paymentFails call.limit (begin_clean call.world call.tick db) keyed
    rw [commit_start, commit_start] at hsteps
    exact ⟨steps, hkeyed, hsteps⟩
  obtain ⟨steps, -, hsteps⟩ := run_simulates hone calls db _ ⟨keyed, rfl⟩
  exact ⟨steps, hsteps⟩

end EventCart
