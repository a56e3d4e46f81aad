/-
  EventCart.Saga.Handlers
  ───────────────────────
  **THE SEVEN ROUTED HANDLERS AS ONE RELATION.**

  `Handled event db db'` lists everything the body of the handler an event is
  routed to can write, with the event's payload read the way the code reads
  it.  `handler_ok` and `handler_raised` are the only places where the seven
  handlers are taken apart one by one; everything later is a case analysis
  on `Handled`.
-/
import EventCart.DispatchEffects
import EventCart.Workers.BillingEffects
import EventCart.Workers.InventoryEffects

namespace EventCart

open EventCart.Lib
open EventCart.Lib.Tx

/-! ## §1. The routing table. -/

/-- The consumer every routed event type is delivered to. -/
def routes : List (String × String) :=
  [("OrderCreated", "inventory-worker"),
   ("InventoryReserved", "payment-worker"),
   ("PaymentAuthorized", "invoice-worker"),
   ("InvoiceCreated", "notification-worker"),
   ("NotificationSent", "order-projection-worker"),
   ("PaymentFailed", "inventory-compensation-worker"),
   ("InventoryReleased", "order-projection-worker")]

/-- The consumer of an event type, if it is routed. -/
def consumer? (eventType : String) : Option String := routes.lookup eventType

/-- The event with `payment_should_fail` set, where the outcome chosen for it
is a failed payment: the copy a simulated failure is handed. -/
def decidePayment (paymentFails : String → Bool) (event : EventEnvelope) : EventEnvelope :=
  if paymentFails event.eventId then
    { event with payload := Dict.set event.payload "payment_should_fail" (.bool true) }
  else event

/-- The default handlers, with the payment outcome of every event chosen from
outside. -/
def sagaHandlers (paymentFails : String → Bool) : HandlerMap :=
  eventHandlers fun event => discard handleInventoryReserved (decidePayment paymentFails event)

/-- Choosing no failure is `default_event_handlers()`. -/
theorem sagaHandlers_default : sagaHandlers (fun _ => false) = defaultEventHandlers := rfl

/-- **The rule for the routing table**: what holds of its seven registrations
holds of every one that is looked up. -/
theorem sagaHandlers_rule {paymentFails : String → Bool}
    {P : String → EventHandlerRegistration → Prop}
    (orderCreated : P "OrderCreated" ⟨"inventory-worker", discard handleOrderCreated⟩)
    (inventoryReserved : P "InventoryReserved" ⟨"payment-worker", fun event =>
      discard handleInventoryReserved (decidePayment paymentFails event)⟩)
    (paymentAuthorized : P "PaymentAuthorized" ⟨"invoice-worker", discard handlePaymentAuthorized⟩)
    (invoiceCreated : P "InvoiceCreated" ⟨"notification-worker", discard handleInvoiceCreated⟩)
    (notificationSent : P "NotificationSent"
      ⟨"order-projection-worker", discard handleNotificationSent⟩)
    (paymentFailed : P "PaymentFailed"
      ⟨"inventory-compensation-worker", discard handlePaymentFailed⟩)
    (inventoryReleased : P "InventoryReleased"
      ⟨"order-projection-worker", discard handleInventoryReleased⟩)
    {eventType : String} {registration : EventHandlerRegistration}
    (h : (sagaHandlers paymentFails).lookup eventType = some registration) :
    P eventType registration := by
  have hmem := mem_of_lookup h
  simp only [sagaHandlers, eventHandlers, List.mem_cons, List.not_mem_nil, or_false,
    Prod.mk.injEq] at hmem
  rcases hmem with ⟨rfl, rfl⟩ | ⟨rfl, rfl⟩ | ⟨rfl, rfl⟩ | ⟨rfl, rfl⟩ | ⟨rfl, rfl⟩
    | ⟨rfl, rfl⟩ | ⟨rfl, rfl⟩ <;> assumption

/-- The consumer a failure is recorded for is the one the event is routed
to. -/
theorem lookup_sagaHandlers {paymentFails : String → Bool} {eventType : String}
    {registration : EventHandlerRegistration}
    (h : (sagaHandlers paymentFails).lookup eventType = some registration) :
    consumer? eventType = some registration.consumerName :=
  sagaHandlers_rule
    (P := fun eventType registration => consumer? eventType = some registration.consumerName)
    rfl rfl rfl rfl rfl rfl rfl h

theorem lookup_sagaHandlers_none {paymentFails : String → Bool} {eventType : String}
    (h : (sagaHandlers paymentFails).lookup eventType = none) : consumer? eventType = none := by
  unfold consumer?
  rw [List.lookup_eq_none_iff] at h ⊢
  simpa [sagaHandlers, eventHandlers, routes] using h

/-! ## §2. What a handler body writes. -/

/-- Everything the body of the handler of `event` can write when it returns
on the rows `db`. -/
inductive Handled (event : EventEnvelope) (db : Database) : Database → Prop where
  | reserved {orderId : String} {lines : List Dict} {id : String} {occurredAt : DateTime}
      (type : event.eventType = "OrderCreated")
      (order : strItem event.payload "order_id" = .ok orderId)
      (items : payloadItems event.payload = .ok lines)
      (stocks : db.stocks lines = true) (id_ne : id ≠ "") :
      Handled event db ((db.moveAll (-1) lines).addOutboxEvent
        ((reservedDraft event orderId lines).row id occurredAt))
  | refused {orderId : String} {lines : List Dict} {reason id : String} {occurredAt : DateTime}
      (type : event.eventType = "OrderCreated")
      (order : strItem event.payload "order_id" = .ok orderId)
      (items : payloadItems event.payload = .ok lines)
      (stocks : db.stocks lines = false) (id_ne : id ≠ "") :
      Handled event db (db.addOutboxEvent
        ((refusalDraft event orderId reason lines).row id occurredAt))
  | paid {orderId : String} {payment : Payment} {id : String} {occurredAt : DateTime}
      (type : event.eventType = "InventoryReserved")
      (order : strItem event.payload "order_id" = .ok orderId)
      (payment_order : payment.orderId = orderId)
      (payment_amount : payment.amountCents = amountCents event.payload)
      (payment_reason : payment.failureReason = payment.status.failureReason) (id_ne : id ≠ "") :
      Handled event db ((db.addPayment payment).addOutboxEvent
        ((paymentDraft event orderId payment).row id occurredAt))
  | invoiced {orderId paymentId : String} {amount : PyInt} {invoice : Invoice} {id : String}
      {occurredAt : DateTime}
      (type : event.eventType = "PaymentAuthorized")
      (order : strItem event.payload "order_id" = .ok orderId)
      (payment : strItem event.payload "payment_id" = .ok paymentId)
      (value : intPayloadValue event.payload "amount_cents" = .ok amount)
      (invoice_order : invoice.orderId = orderId) (invoice_payment : invoice.paymentId = paymentId)
      (invoice_amount : invoice.amountCents = amount.num) (id_ne : id ≠ "") :
      Handled event db ((db.addInvoice invoice).addOutboxEvent
        ((invoiceDraft event invoice amount.value).row id occurredAt))
  | notified {orderId invoiceId notificationId : String} {sentAt createdAt : DateTime}
      {id : String} {occurredAt : DateTime}
      (type : event.eventType = "InvoiceCreated")
      (order : strItem event.payload "order_id" = .ok orderId)
      (invoice : strItem event.payload "invoice_id" = .ok invoiceId) (id_ne : id ≠ "") :
      Handled event db ((db.addNotification
        (invoiceNotification event.payload orderId invoiceId notificationId sentAt
          createdAt)).addOutboxEvent
        ((notificationDraft event orderId invoiceId notificationId).row id occurredAt))
  | completed {orderId : String}
      (type : event.eventType = "NotificationSent")
      (order : strItem event.payload "order_id" = .ok orderId) :
      Handled event db (db.setStatus orderId .COMPLETED)
  | released {orderId : String} {lines : List Dict} {id : String} {occurredAt : DateTime}
      (type : event.eventType = "PaymentFailed")
      (order : strItem event.payload "order_id" = .ok orderId)
      (items : payloadItems event.payload = .ok lines) (id_ne : id ≠ "") :
      Handled event db ((db.moveAll 1 lines).addOutboxEvent
        ((releasedDraft event orderId lines).row id occurredAt))
  | cancelled {orderId : String}
      (type : event.eventType = "InventoryReleased")
      (order : strItem event.payload "order_id" = .ok orderId) :
      Handled event db (db.setStatus orderId .CANCELLED)

/-- A release that raised half way: the lines before the first one without an
integer quantity are back in stock, the rest is not. -/
structure HalfReleased (event : EventEnvelope) (db db' : Database) : Prop where
  type : event.eventType = "PaymentFailed"
  release : ∃ orderId lines, strItem event.payload "order_id" = .ok orderId
    ∧ payloadItems event.payload = .ok lines ∧ db.knows lines = true
    ∧ lines.all hasQuantity = false ∧ db' = db.moveAll 1 (goodLines lines)

/-- What a payload must hold for the handler of its event type not to
raise. -/
def Sound (event : EventEnvelope) (db : Database) : Prop :=
  ∃ orderId, strItem event.payload "order_id" = .ok orderId
    ∧ (event.eventType = "OrderCreated" →
        ∃ lines, payloadItems event.payload = .ok lines ∧ lines.all hasSku = true)
    ∧ (event.eventType = "PaymentAuthorized" →
        (∃ paymentId, strItem event.payload "payment_id" = .ok paymentId)
          ∧ ∃ amount, intPayloadValue event.payload "amount_cents" = .ok amount)
    ∧ (event.eventType = "InvoiceCreated" →
        ∃ invoiceId, strItem event.payload "invoice_id" = .ok invoiceId)
    ∧ (event.eventType = "PaymentFailed" →
        ∃ lines, payloadItems event.payload = .ok lines ∧ db.knows lines = true
          ∧ lines.all hasQuantity = true)
    ∧ (event.eventType = "NotificationSent" ∨ event.eventType = "InventoryReleased" →
        (db.findOrder orderId).isSome = true)

/-! ## §3. The payment outcome. -/

section decidePayment
variable (paymentFails : String → Bool) (event : EventEnvelope)

theorem decidePayment_eventId : (decidePayment paymentFails event).eventId = event.eventId := by
  unfold decidePayment
  split <;> rfl

theorem decidePayment_get? {key : String} (h : key ≠ "payment_should_fail") :
    Dict.get? (decidePayment paymentFails event).payload key = Dict.get? event.payload key := by
  unfold decidePayment
  split
  · exact Dict.get?_set_of_ne _ _ _ h _
  · rfl

theorem decidePayment_order :
    strItem (decidePayment paymentFails event).payload "order_id"
      = strItem event.payload "order_id" := by
  unfold strItem item
  rw [decidePayment_get? paymentFails event (by decide)]

theorem decidePayment_amount :
    amountCents (decidePayment paymentFails event).payload = amountCents event.payload := by
  unfold amountCents
  rw [decidePayment_get? paymentFails event (by decide)]

theorem decidePayment_draft (orderId : String) (payment : Payment) :
    paymentDraft (decidePayment paymentFails event) orderId payment
      = paymentDraft event orderId payment := by
  have hcorrelation : (decidePayment paymentFails event).correlationId = event.correlationId := by
    unfold decidePayment
    split <;> rfl
  unfold paymentDraft buildResultEvent Dict.getD
  rw [decidePayment_get? paymentFails event (by decide), decidePayment_eventId, hcorrelation]

end decidePayment

/-! ## §4. One body for every routed event. -/

/-- What is known about the body behind a registration. -/
structure Body (registration : EventHandlerRegistration) (event : EventEnvelope)
    {α : Type} (body : EventEnvelope → App α) (event' : EventEnvelope) : Prop where
  handler : registration.handler event
    = discard (handleOnce registration.consumerName body) event'
  eventId : event'.eventId = event.eventId
  quiet : Quiet (body event')
  tidy : Tidy (body event')
  ok : ∀ s a t, body event' s = .ok a t →
    ∃ db' n, Handled event s.working db' ∧ t = s.goto db' n
  raised : ∀ s error t, body event' s = .error (.raised error) t →
    ¬ Sound event s.working
      ∧ (t.working = s.working ∨ HalfReleased event s.working t.working)

theorem reserve_body {event : EventEnvelope} (type : event.eventType = "OrderCreated") :
    Body ⟨"inventory-worker", discard handleOrderCreated⟩ event reserveInventory event where
  handler := rfl
  eventId := rfl
  quiet := quiet_reserveInventory event
  tidy := tidy_reserveInventory event
  ok s new t h := by
    obtain ⟨orderId, lines, order, items, ⟨stocks, id, at', n, hid, rfl, rfl⟩
      | ⟨stocks, reason, id, at', n, hid, rfl, rfl⟩⟩ := reserveInventory_ok h
    · exact ⟨_, n, .reserved type order items stocks hid, rfl⟩
    · exact ⟨_, n, .refused type order items stocks hid, rfl⟩
  raised s error t h := by
    obtain ⟨rfl, hcause⟩ := reserveInventory_raised h
    refine ⟨?_, .inl rfl⟩
    rintro ⟨orderId, order, hitems, -⟩
    obtain ⟨lines, items, hsku⟩ := hitems type
    rcases hcause with herr | herr | ⟨lines', items', hsku'⟩
    · rw [order] at herr; exact nomatch herr
    · rw [items] at herr; exact nomatch herr
    · rw [items, Except.ok.injEq] at items'
      rw [← items', hsku] at hsku'
      exact nomatch hsku'

theorem payment_body (paymentFails : String → Bool) {event : EventEnvelope}
    (type : event.eventType = "InventoryReserved") :
    Body ⟨"payment-worker", fun event =>
        discard handleInventoryReserved (decidePayment paymentFails event)⟩
      event authorizePayment (decidePayment paymentFails event) where
  handler := rfl
  eventId := decidePayment_eventId paymentFails event
  quiet := quiet_authorizePayment _
  tidy := tidy_authorizePayment _
  ok s new t h := by
    obtain ⟨orderId, payment, order, ⟨pid, pat, rfl⟩, id, at', n, hid, rfl, rfl⟩ :=
      authorizePayment_ok h
    rw [decidePayment_order] at order
    rw [decidePayment_draft, decidePayment_amount]
    exact ⟨_, n, .paid type order rfl rfl rfl hid, rfl⟩
  raised s error t h := by
    obtain ⟨rfl, herr⟩ := authorizePayment_raised h
    refine ⟨?_, .inl rfl⟩
    rintro ⟨orderId, order, -⟩
    rw [decidePayment_order, order] at herr
    exact nomatch herr

theorem invoice_body {event : EventEnvelope} (type : event.eventType = "PaymentAuthorized") :
    Body ⟨"invoice-worker", discard handlePaymentAuthorized⟩ event createInvoice event where
  handler := rfl
  eventId := rfl
  quiet := quiet_createInvoice event
  tidy := tidy_createInvoice event
  ok s new t h := by
    obtain ⟨orderId, paymentId, amount, iid, iat, order, payment, value, id, at', n, hid,
      rfl, rfl⟩ := createInvoice_ok h
    exact ⟨_, n, .invoiced type order payment value rfl rfl rfl hid, rfl⟩
  raised s error t h := by
    obtain ⟨rfl, hcause⟩ := createInvoice_raised h
    refine ⟨?_, .inl rfl⟩
    rintro ⟨orderId, order, -, hvalues, -⟩
    obtain ⟨⟨paymentId, payment⟩, amount, value⟩ := hvalues type
    rcases hcause with herr | herr | herr
    · rw [order] at herr; exact nomatch herr
    · rw [payment] at herr; exact nomatch herr
    · rw [value] at herr; exact nomatch herr

theorem notification_body {event : EventEnvelope} (type : event.eventType = "InvoiceCreated") :
    Body ⟨"notification-worker", discard handleInvoiceCreated⟩ event sendInvoiceNotification
      event where
  handler := rfl
  eventId := rfl
  quiet := quiet_sendInvoiceNotification event
  tidy := tidy_sendInvoiceNotification event
  ok s new t h := by
    obtain ⟨orderId, invoiceId, nid, sat, cat, order, invoice, id, at', n, hid, rfl, rfl⟩ :=
      sendInvoiceNotification_ok h
    exact ⟨_, n, .notified type order invoice hid, rfl⟩
  raised s error t h := by
    obtain ⟨rfl, hcause⟩ := sendInvoiceNotification_raised h
    refine ⟨?_, .inl rfl⟩
    rintro ⟨orderId, order, -, -, hinvoice, -⟩
    obtain ⟨invoiceId, invoice⟩ := hinvoice type
    rcases hcause with herr | herr
    · rw [order] at herr; exact nomatch herr
    · rw [invoice] at herr; exact nomatch herr

/-- The two projections differ in the status they set. -/
theorem projection_body {event : EventEnvelope} {status : OrderStatus}
    (type : event.eventType = "NotificationSent" ∧ status = .COMPLETED
      ∨ event.eventType = "InventoryReleased" ∧ status = .CANCELLED) :
    Body ⟨"order-projection-worker",
        discard (handleOnce ORDER_PROJECTION_CONSUMER_NAME (markOrder status))⟩
      event (markOrder status) event where
  handler := rfl
  eventId := rfl
  quiet := quiet_markOrder status event
  tidy := tidy_markOrder status event
  ok s order t h := by
    obtain ⟨orderId, order, -, n, rfl⟩ := markOrder_ok h
    rcases type with ⟨type, rfl⟩ | ⟨type, rfl⟩
    · exact ⟨_, n, .completed type order, rfl⟩
    · exact ⟨_, n, .cancelled type order, rfl⟩
  raised s error t h := by
    obtain ⟨hworking, hcause⟩ := markOrder_raised h
    refine ⟨?_, .inl hworking⟩
    rintro ⟨orderId, order, -, -, -, -, hfound⟩
    have hfound := hfound (type.imp And.left And.left)
    rcases hcause with herr | ⟨orderId', order', hnone⟩
    · rw [order] at herr; exact nomatch herr
    · rw [order, Except.ok.injEq] at order'
      rw [order', hnone] at hfound
      exact nomatch hfound

theorem release_body {event : EventEnvelope} (type : event.eventType = "PaymentFailed") :
    Body ⟨"inventory-compensation-worker", discard handlePaymentFailed⟩ event
      releaseInventory event where
  handler := rfl
  eventId := rfl
  quiet := quiet_releaseInventory event
  tidy := tidy_releaseInventory event
  ok s new t h := by
    obtain ⟨orderId, lines, order, items, -, -, id, at', n, hid, rfl, rfl⟩ :=
      releaseInventory_ok h
    exact ⟨_, n, .released type order items hid, rfl⟩
  raised s error t h := by
    rcases releaseInventory_raised h with
      ⟨hworking, hcause⟩ | ⟨orderId', lines', order', items', hk, hq, hworking⟩
    · refine ⟨?_, .inl hworking⟩
      rintro ⟨orderId, order, -, -, -, hitems, -⟩
      obtain ⟨lines, items, hknown, hquantity⟩ := hitems type
      rcases hcause with herr | herr | ⟨lines', items', hk⟩
      · rw [order] at herr; exact nomatch herr
      · rw [items] at herr; exact nomatch herr
      · rw [items, Except.ok.injEq] at items'
        rw [← items', hknown] at hk
        exact nomatch hk
    · refine ⟨?_, .inr ⟨type, orderId', lines', order', items', hk, hq, hworking⟩⟩
      rintro ⟨orderId, order, -, -, -, hitems, -⟩
      obtain ⟨lines, items, hknown, hquantity⟩ := hitems type
      rw [items, Except.ok.injEq] at items'
      rw [← items', hquantity] at hq
      exact nomatch hq

/-- **Every routed event has such a body.** -/
theorem routed_body {paymentFails : String → Bool} {event : EventEnvelope}
    {registration : EventHandlerRegistration}
    (h : (sagaHandlers paymentFails).lookup event.eventType = some registration) :
    ∃ (α : Type) (body : EventEnvelope → App α) (event' : EventEnvelope),
      Body registration event body event' := by
  refine sagaHandlers_rule
    (P := fun eventType registration => event.eventType = eventType →
      ∃ (α : Type) (body : EventEnvelope → App α) (event' : EventEnvelope),
        Body registration event body event') ?_ ?_ ?_ ?_ ?_ ?_ ?_ h rfl
  · exact fun type => ⟨_, _, _, reserve_body type⟩
  · exact fun type => ⟨_, _, _, payment_body paymentFails type⟩
  · exact fun type => ⟨_, _, _, invoice_body type⟩
  · exact fun type => ⟨_, _, _, notification_body type⟩
  · exact fun type => ⟨_, _, _, projection_body (.inl ⟨type, rfl⟩)⟩
  · exact fun type => ⟨_, _, _, release_body type⟩
  · exact fun type => ⟨_, _, _, projection_body (.inr ⟨type, rfl⟩)⟩

theorem discard_ok {α : Type} {handler : EventEnvelope → App α} {event : EventEnvelope}
    {s t : Session Database} {u : Unit} (h : discard handler event s = .ok u t) :
    ∃ a, handler event s = .ok a t := by
  obtain ⟨a, v, hv, h⟩ := bind_eq_ok.mp h
  simp only [pure_apply, EStateM.Result.ok.injEq] at h
  exact ⟨a, h.2 ▸ hv⟩

theorem discard_error {α : Type} {handler : EventEnvelope → App α} {event : EventEnvelope}
    {s t : Session Database} {e : Failure PyError} (h : discard handler event s = .error e t) :
    handler event s = .error e t := by
  rcases bind_eq_error.mp h with h | ⟨a, v, hv, h⟩
  · exact h
  · exact nomatch h

section body
variable {registration : EventHandlerRegistration} {event event' : EventEnvelope} {α : Type}
  {body : EventEnvelope → App α} {s t : Session Database}

/-- **A returned handler** skipped a processed event, or committed what
`Handled` lists together with the inbox marker. -/
theorem Body.handler_ok (hb : Body registration event body event') {u : Unit}
    (h : registration.handler event s = .ok u t) :
    (s.working.processed registration.consumerName event.eventId = true
      ∧ ∃ n, t = s.goto s.working n)
    ∨ (s.working.processed registration.consumerName event.eventId = false
      ∧ ∃ db' processedAt n, Handled event s.working db'
        ∧ (db'.addInboxEvent ⟨registration.consumerName, event.eventId, processedAt⟩).Keyed
        ∧ t = { s.goto (db'.addInboxEvent
            ⟨registration.consumerName, event.eventId, processedAt⟩) n with
          committed := db'.addInboxEvent
            ⟨registration.consumerName, event.eventId, processedAt⟩ }) := by
  rw [hb.handler] at h
  obtain ⟨r, h⟩ := discard_ok h
  rcases handleOnce_ok h with ⟨hp, n, rfl⟩ | ⟨hp, m, a, u, at', n, hbody, hk, rfl⟩
  · rw [hb.eventId] at hp
    exact .inl ⟨hp, n, rfl⟩
  · obtain ⟨db', k, hhandled, rfl⟩ := hb.ok _ _ _ hbody
    rw [hb.eventId] at hp hk ⊢
    exact .inr ⟨hp, db', at', n, hhandled, hk, rfl⟩

/-- A handler that raises an exception of its own met an event it had not
processed, whose payload is not sound, and it touched nothing or stopped half
way through a release. -/
theorem Body.handler_raised (hb : Body registration event body event') {error : PyError}
    (h : registration.handler event s = .error (.raised error) t) :
    s.working.processed registration.consumerName event.eventId = false
      ∧ ¬ Sound event s.working
      ∧ (t.working = s.working ∨ HalfReleased event s.working t.working) := by
  rw [hb.handler] at h
  obtain ⟨hp, m, hbody⟩ := handleOnce_raised (discard_error h)
  rw [hb.eventId] at hp
  exact ⟨hp, hb.raised (s.goto s.working m) _ _ hbody⟩

/-- A handler that ends in an error has committed nothing. -/
theorem Body.handler_error (hb : Body registration event body event') {e : Failure PyError}
    (h : registration.handler event s = .error e t) : t.committed = s.committed := by
  rw [hb.handler] at h
  exact (handleOnce_error hb.quiet (discard_error h)).1

/-- Any other error leaves the session waiting for a rollback. -/
theorem Body.handler_inactive (hb : Body registration event body event') (hs : s.active = true)
    {e : Failure PyError} (h : registration.handler event s = .error e t)
    (hraised : ∀ error, e ≠ .raised error) (hcrash : e ≠ .crash) : t.active = false := by
  rw [hb.handler] at h
  have ht := tidy_handleOnce hb.tidy registration.consumerName s hs
  rw [discard_error h] at ht
  cases e with
  | raised error => exact absurd rfl (hraised error)
  | crash => exact absurd rfl hcrash
  | database message => exact ht
  | pendingRollback => exact ht

end body

/-- Every handler of the saga keeps the environment. -/
theorem sagaHandlers_keepWorld (paymentFails : String → Bool) :
    (sagaHandlers paymentFails).KeepWorld := by
  intro eventType registration h event
  have hpure : ∀ {α : Type} (b : EventEnvelope → App α) (c : String) (ev : EventEnvelope),
      Quiet (b ev) → KeepsWorld (discard (handleOnce c b) ev) := by
    intro α b c ev hq
    exact ((quiet_processOnce hq c).keepsWorld.bind fun _ =>
      keepsWorld_ite (keepsWorld_commit.bind fun _ => (quiet_pure _).keepsWorld)
        (quiet_pure _).keepsWorld).bind fun _ => (quiet_pure _).keepsWorld
  refine sagaHandlers_rule (P := fun _ registration => KeepsWorld (registration.handler event))
    ?_ ?_ ?_ ?_ ?_ ?_ ?_ h
  · exact hpure _ _ _ (quiet_reserveInventory _)
  · exact hpure _ _ _ (quiet_authorizePayment _)
  · exact hpure _ _ _ (quiet_createInvoice _)
  · exact hpure _ _ _ (quiet_sendInvoiceNotification _)
  · exact hpure _ _ _ (quiet_markOrder _ _)
  · exact hpure _ _ _ (quiet_releaseInventory _)
  · exact hpure _ _ _ (quiet_markOrder _ _)

end EventCart
