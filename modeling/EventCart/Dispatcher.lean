/-
  EventCart.Dispatcher
  ────────────────────
  **THE TWO DELIVERY PATHS OF THE OUTBOX**: the brokerless dispatcher
  (`workers/brokerless_dispatcher.py`), which calls local handlers, and the
  broker publisher (`workers/outbox_publisher.py`), which hands envelopes to
  a transport.

  The logging calls and the log context (`set_correlation_id`) write no row
  and are left out.
-/
import EventCart.Workers.Billing

namespace EventCart

open EventCart.Lib
open EventCart.Lib.Tx

/-! ## §1. Registrations and the routing table. -/

/-- `EventHandler`, with the result nobody reads dropped. -/
abbrev EventHandler := EventEnvelope → App Unit

structure EventHandlerRegistration where
  consumerName : String
  handler : EventHandler

/-- A mapping from event types to registrations. -/
abbrev HandlerMap := List (String × EventHandlerRegistration)

/-- Drop a handler's result. -/
def discard {α : Type} (handler : EventEnvelope → App α) : EventHandler := fun event => do
  let _ ← handler event
  return ()

/-- The routing table for a given payment worker. -/
def eventHandlers (handleInventoryReserved : EventHandler) : HandlerMap :=
  [("OrderCreated", ⟨"inventory-worker", discard handleOrderCreated⟩),
   ("InventoryReserved", ⟨"payment-worker", handleInventoryReserved⟩),
   ("PaymentAuthorized", ⟨"invoice-worker", discard handlePaymentAuthorized⟩),
   ("InvoiceCreated", ⟨"notification-worker", discard handleInvoiceCreated⟩),
   ("NotificationSent", ⟨"order-projection-worker", discard handleNotificationSent⟩),
   ("PaymentFailed", ⟨"inventory-compensation-worker", discard handlePaymentFailed⟩),
   ("InventoryReleased", ⟨"order-projection-worker", discard handleInventoryReleased⟩)]

/-- `default_event_handlers`. -/
def defaultEventHandlers : HandlerMap := eventHandlers (discard handleInventoryReserved)

/-! ## §2. Retry policy. -/

/-- `timedelta(seconds=...)`, in microseconds.  It holds at most 999999999
days, and the days have to fit a C int before that is checked. -/
def timedelta (seconds : Int) : Except PyError Int :=
  let days := seconds / 86400
  if -999999999 ≤ days ∧ days ≤ 999999999 then
    .ok (seconds * 1000000)
  else if -2147483648 ≤ days ∧ days ≤ 2147483647 then
    .error (.overflowError ("days=" ++ toString days ++ "; must have magnitude <= 999999999"))
  else
    .error (.overflowError "Python int too large to convert to C int")

/-- `datetime.min`: the first microsecond of year 1. -/
def datetimeMin : DateTime := -62135596800000000

/-- `datetime.max`: the last microsecond of year 9999. -/
def datetimeMax : DateTime := 253402300799999999

/-- A `datetime` plus a `timedelta`. -/
def addTimedelta (moment : DateTime) (delay : Int) : Except PyError DateTime :=
  if datetimeMin ≤ moment + delay ∧ moment + delay ≤ datetimeMax then
    .ok (moment + delay)
  else
    .error (.overflowError "date value out of range")

structure RetryPolicy where
  backoffSeconds : Int := 5
  maxAttempts : Int := 3

/-- `delay_for_attempt`. -/
def RetryPolicy.delayForAttempt (policy : RetryPolicy) (attemptNumber : Int) :
    Except PyError Int :=
  timedelta (policy.backoffSeconds * attemptNumber)

/-- The `next_attempt_at` of a retry. -/
def RetryPolicy.nextAttemptAt (policy : RetryPolicy) (attemptNumber : Int)
    (failedAt : DateTime) : Except PyError DateTime := do
  let delay ← policy.delayForAttempt attemptNumber
  addTimedelta failedAt delay

/-- The delay after an attempt, in microseconds, whether or not a `timedelta`
can hold it. -/
def RetryPolicy.delay (policy : RetryPolicy) (attemptNumber : Int) : Int :=
  policy.backoffSeconds * attemptNumber * 1000000

/-- The retry after an attempt can be scheduled: a `timedelta` holds the
delay, and a `datetime` the moment it leads to. -/
def RetryPolicy.Schedules (policy : RetryPolicy) (attemptNumber : Int) (failedAt : DateTime) :
    Prop :=
  (-999999999 ≤ policy.backoffSeconds * attemptNumber / 86400
      ∧ policy.backoffSeconds * attemptNumber / 86400 ≤ 999999999)
    ∧ datetimeMin ≤ failedAt + policy.delay attemptNumber
    ∧ failedAt + policy.delay attemptNumber ≤ datetimeMax

instance (policy : RetryPolicy) (attemptNumber : Int) (failedAt : DateTime) :
    Decidable (policy.Schedules attemptNumber failedAt) :=
  inferInstanceAs (Decidable (_ ∧ _))

/-- **Otherwise an `OverflowError` is raised.** -/
theorem nextAttemptAt_eq_ok {policy : RetryPolicy} {attemptNumber : Int}
    {failedAt nextAttemptAt : DateTime} :
    policy.nextAttemptAt attemptNumber failedAt = .ok nextAttemptAt
      ↔ policy.Schedules attemptNumber failedAt
        ∧ nextAttemptAt = failedAt + policy.delay attemptNumber := by
  by_cases hdelay : -999999999 ≤ policy.backoffSeconds * attemptNumber / 86400
      ∧ policy.backoffSeconds * attemptNumber / 86400 ≤ 999999999
  · have hnext : policy.nextAttemptAt attemptNumber failedAt
        = addTimedelta failedAt (policy.delay attemptNumber) := by
      unfold RetryPolicy.nextAttemptAt RetryPolicy.delayForAttempt timedelta
      rw [if_pos hdelay]
      rfl
    rw [hnext]
    unfold addTimedelta
    split
    next hrange =>
      rw [Except.ok.injEq]
      exact ⟨fun h => ⟨⟨hdelay, hrange⟩, h.symm⟩, fun h => h.2.symm⟩
    next hrange =>
      refine ⟨fun h => ?_, fun h => absurd h.1.2 hrange⟩
      cases h
  · have hnever : ∀ value, policy.nextAttemptAt attemptNumber failedAt ≠ .ok value := by
      intro value h
      unfold RetryPolicy.nextAttemptAt RetryPolicy.delayForAttempt timedelta at h
      rw [if_neg hdelay] at h
      split at h
      · cases h
      · cases h
    exact ⟨fun h => absurd h (hnever _), fun h => absurd h.1.1 hdelay⟩

/-- A retry that can be scheduled. -/
theorem RetryPolicy.Schedules.nextAttemptAt {policy : RetryPolicy} {attemptNumber : Int}
    {failedAt : DateTime} (h : policy.Schedules attemptNumber failedAt) :
    policy.nextAttemptAt attemptNumber failedAt
      = .ok (failedAt + policy.delay attemptNumber) :=
  nextAttemptAt_eq_ok.mpr ⟨h, rfl⟩

/-- Without a back-off every retry can be scheduled. -/
theorem RetryPolicy.schedules_immediate {policy : RetryPolicy} (immediate : policy.backoffSeconds = 0)
    (attemptNumber : Int) {failedAt : DateTime} (lower : datetimeMin ≤ failedAt)
    (upper : failedAt ≤ datetimeMax) : policy.Schedules attemptNumber failedAt := by
  unfold RetryPolicy.Schedules RetryPolicy.delay
  rw [immediate]
  simpa using ⟨lower, upper⟩

/-- `_consumer_name_for_failure`. -/
def consumerNameForFailure (eventType : String) (handlers : HandlerMap) : String :=
  match handlers.lookup eventType with
  | none => "brokerless-dispatcher"
  | some registration => registration.consumerName

/-! ## §3. Dispatching. -/

/-- The `try` block of `dispatch_pending_batch` for one event. -/
def handleEvent (handlers : HandlerMap) (event : OutboxEvent) : App Unit := do
  match handlers.lookup event.eventType with
  | none =>
      raise (.unsupportedEventTypeError
        ("No brokerless handler registered for " ++ Json.reprStr event.eventType ++ "."))
  | some registration =>
      let envelope ← ofExcept (envelopeFromOutboxEvent event)
      registration.handler envelope
      markPublished event.eventId

/-- The `except` block of `dispatch_pending_batch` for one event. -/
def recordEventFailure (handlers : HandlerMap) (policy : RetryPolicy) (event : OutboxEvent)
    (error : Failure PyError) : App Unit := do
  let consumerName := consumerNameForFailure event.eventType handlers
  let attempt ← recordFailure event.eventId consumerName (failureText error)
  if attempt.attemptNumber ≥ policy.maxAttempts then
    let _ ← moveToDeadLetter event consumerName attempt.attemptNumber (failureText error)
    markFailed event.eventId (failureText error)
  else
    let failedAt ← now
    let nextAttemptAt ← ofExcept (policy.nextAttemptAt attempt.attemptNumber failedAt)
    markRetryableFailure event.eventId (failureText error) nextAttemptAt

/-- One round of the loop of `dispatch_pending_batch`. -/
def dispatchEvent (handlers : HandlerMap) (policy : RetryPolicy) (event : OutboxEvent) :
    App PUnit := do
  tryExcept (handleEvent handlers event) (recordEventFailure handlers policy event)
  commit

/-- `handlers or default_event_handlers()`: an empty mapping counts as none. -/
def handlersOrDefault (handlers : HandlerMap) : HandlerMap :=
  if handlers.isEmpty then defaultEventHandlers else handlers

def dispatchPendingBatch (handlers : HandlerMap) (limit : Nat) (policy : RetryPolicy) :
    App Nat := do
  let events ← fetchPending limit
  events.forM (dispatchEvent (handlersOrDefault handlers) policy)
  return events.length

/-- The loop of `dispatch_until_idle`, with the batches still allowed. -/
def dispatchLoop (handlers : HandlerMap) (limit : Nat) (policy : RetryPolicy) :
    Nat → Nat → App Nat
  | 0, _ => raise (.runtimeError "Brokerless dispatcher did not become idle.")
  | maxBatches + 1, dispatchedTotal => do
      let dispatchedCount ← dispatchPendingBatch handlers limit policy
      if dispatchedCount = 0 then
        return dispatchedTotal + dispatchedCount
      dispatchLoop handlers limit policy maxBatches (dispatchedTotal + dispatchedCount)

def dispatchUntilIdle (handlers : HandlerMap) (limit maxBatches : Nat)
    (policy : RetryPolicy) : App Nat :=
  dispatchLoop handlers limit policy maxBatches 0

/-! ## §4. Publishing to a broker. -/

/-- What a transport's `publish` does with an envelope: accept it, or raise. -/
abbrev EventPublisher := EventEnvelope → Except PyError Unit

/-- The `try` block of `publish_pending_batch` for one event. -/
def publishEvent (publisher : EventPublisher) (event : OutboxEvent) : App Unit := do
  let envelope ← ofExcept (envelopeFromOutboxEvent event)
  ofExcept (publisher envelope)
  markPublished event.eventId

/-- One round of the loop of `publish_pending_batch`. -/
def publishOne (publisher : EventPublisher) (event : OutboxEvent) : App PUnit :=
  tryExcept (publishEvent publisher event) fun error =>
    markFailed event.eventId (failureText error)

def publishPendingBatch (publisher : EventPublisher) (limit : Nat) : App Nat := do
  let events ← fetchPending limit
  events.forM (publishOne publisher)
  commit
  return events.length

end EventCart
