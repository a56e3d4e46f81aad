/-
  EventCart.Inbox
  ───────────────
  **THE CONSUMER INBOX** (`modules/idempotency/inbox.py`) and the shape every
  worker handler has around it: run the body once per event, then commit if
  the body ran.
-/
import EventCart.Events

namespace EventCart

open EventCart.Lib
open EventCart.Lib.Tx

/-- Add the marker row of a processed event. -/
def Database.addInboxEvent (row : InboxEvent) (db : Database) : Database :=
  { db with inboxEvents := db.inboxEvents ++ [row] }

/-- `session.get(InboxEvent, (consumer_name, event_id)) is not None`. -/
def Database.processed (consumerName eventId : String) (db : Database) : Bool :=
  db.inboxEvents.any fun row => row.key = (consumerName, eventId)

def hasProcessed (consumerName eventId : String) : App Bool :=
  query (·.processed consumerName eventId)

/-- `ConsumerInbox.process_once`. -/
def processOnce {α : Type} (consumerName : String) (event : EventEnvelope)
    (handler : EventEnvelope → App α) : App (Option α) := do
  if ← hasProcessed consumerName event.eventId then
    return none
  let result ← handler event
  let processedAt ← now
  write (·.addInboxEvent ⟨consumerName, event.eventId, processedAt⟩)
  flush
  return some result

/-- The body shared by the seven handlers of the workers: `process_once`,
then `session.commit()` unless the event was a duplicate. -/
def handleOnce {α : Type} (consumerName : String) (body : EventEnvelope → App α)
    (event : EventEnvelope) : App (Option α) := do
  let result ← processOnce consumerName event body
  if result.isSome then
    commit
  return result

/-- `_build_result_event`, the same in the four worker modules that emit. -/
def buildResultEvent (sourceEvent : EventEnvelope) (eventType orderId : String)
    (payload : Dict) : EventDraft :=
  { eventType := eventType
    eventVersion := 1
    aggregateType := "Order"
    aggregateId := orderId
    correlationId := sourceEvent.correlationId
    causationId := some sourceEvent.eventId
    payload := payload }

/-- `session.add(outbox_event)` followed by `notify_outbox_event`. -/
def emit (draft : EventDraft) : App OutboxEvent := do
  let event ← addEvent draft
  let _ ← notifyOutboxEvent
  return event

end EventCart
