/-
  EventCart.Workers.Billing
  ─────────────────────────
  **PAYMENT, INVOICE, NOTIFICATION, PROJECTION** (`workers/payment_worker.py`,
  `invoice_worker.py`, `notification_worker.py`, `order_projection_worker.py`).

  Each worker reads everything it needs from the payload first, then adds its
  row, flushes, and emits the next event; the projection changes the order's
  status and emits nothing.
-/
import EventCart.Workers.Inventory

namespace EventCart

open EventCart.Lib
open EventCart.Lib.Tx

def PAYMENT_CONSUMER_NAME : String := "payment-worker"
def INVOICE_CONSUMER_NAME : String := "invoice-worker"
def NOTIFICATION_CONSUMER_NAME : String := "notification-worker"
def ORDER_PROJECTION_CONSUMER_NAME : String := "order-projection-worker"

/-! ## §1. Row updates. -/

namespace Database

def addPayment (row : Payment) (db : Database) : Database :=
  { db with payments := db.payments ++ [row] }

def addInvoice (row : Invoice) (db : Database) : Database :=
  { db with invoices := db.invoices ++ [row] }

def addNotification (row : Notification) (db : Database) : Database :=
  { db with notifications := db.notifications ++ [row] }

/-- `session.get(Order, order_id)`. -/
def findOrder (orderId : String) (db : Database) : Option Order :=
  db.orders.find? (·.id = orderId)

/-- `order.status = status`. -/
def setStatus (orderId : String) (status : OrderStatus) (db : Database) : Database :=
  { db with orders :=
      update (·.id) orderId (fun order => { order with status }) db.orders }

end Database

/-! ## §2. The payment worker. -/

/-- What one element of `items` adds to the amount. -/
def lineCents : Json → Int
  | .obj members =>
      match (Dict.get? members "quantity").bind Json.int?,
          (Dict.get? members "unit_price_cents").bind Json.int? with
      | some quantity, some unitPriceCents => quantity * unitPriceCents
      | _, _ => 0
  | _ => 0

/-- `_amount_cents`: malformed lines count nothing, a missing list is 0. -/
def amountCents (payload : Dict) : Int :=
  match payload.get? "items" with
  | some (.arr items) => (items.map lineCents).sum
  | _ => 0

/-- `session.add(Payment(...))` and the flush that gives it its id. -/
def addPayment (orderId : String) (status : PaymentStatus) (amountCents : Int)
    (failureReason : Option String) : App Payment := do
  let id ← uuid4
  let createdAt ← now
  let payment : Payment := ⟨id, orderId, status, amountCents, failureReason, createdAt⟩
  write (·.addPayment payment)
  flush
  return payment

def simulatedFailure : String := "Simulated payment failure."

/-- `_authorize_payment`. -/
def authorizePayment (event : EventEnvelope) : App OutboxEvent := do
  let orderId ← ofExcept (strItem event.payload "order_id")
  let amount := amountCents event.payload
  match event.payload.get? "payment_should_fail" with
  | some (.bool true) =>
      let payment ← addPayment orderId .FAILED amount (some simulatedFailure)
      emit (buildResultEvent event "PaymentFailed" orderId
        [("order_id", .str orderId), ("payment_id", .str payment.id),
          ("amount_cents", .int amount), ("reason", .str simulatedFailure),
          ("items", event.payload.getD "items" (.arr []))])
  | _ =>
      let payment ← addPayment orderId .AUTHORIZED amount none
      emit (buildResultEvent event "PaymentAuthorized" orderId
        [("order_id", .str orderId), ("payment_id", .str payment.id),
          ("amount_cents", .int amount)])

def handleInventoryReserved (event : EventEnvelope) : App (Option OutboxEvent) :=
  handleOnce PAYMENT_CONSUMER_NAME authorizePayment event

/-! ## §3. The invoice worker. -/

/-- `_int_payload_value`. -/
def intPayloadValue (payload : Dict) (key : String) : Except PyError PyInt := do
  let value ← item payload key
  match h : value.int? with
  | none => .error (.typeError (key ++ " must be an integer."))
  | some num => .ok ⟨value, num, h⟩

/-- `_create_invoice`. -/
def createInvoice (event : EventEnvelope) : App OutboxEvent := do
  let orderId ← ofExcept (strItem event.payload "order_id")
  let paymentId ← ofExcept (strItem event.payload "payment_id")
  let amount ← ofExcept (intPayloadValue event.payload "amount_cents")
  let id ← uuid4
  let createdAt ← now
  write (·.addInvoice ⟨id, orderId, paymentId, .CREATED, amount.num, createdAt⟩)
  flush
  emit (buildResultEvent event "InvoiceCreated" orderId
    [("order_id", .str orderId), ("payment_id", .str paymentId), ("invoice_id", .str id),
      ("amount_cents", amount.value)])

def handlePaymentAuthorized (event : EventEnvelope) : App (Option OutboxEvent) :=
  handleOnce INVOICE_CONSUMER_NAME createInvoice event

/-! ## §4. The notification worker. -/

def invoiceCreatedNotification : String := "invoice_created"

/-- The address in the payload, if there is one and it is a string. -/
def recipientEmail (payload : Dict) : Option String :=
  match payload.get? "customer_email" with
  | some (.str email) => some email
  | _ => none

/-- `_send_invoice_notification`. -/
def sendInvoiceNotification (event : EventEnvelope) : App OutboxEvent := do
  let orderId ← ofExcept (strItem event.payload "order_id")
  let invoiceId ← ofExcept (strItem event.payload "invoice_id")
  let id ← uuid4
  let sentAt ← now
  let createdAt ← now
  write (·.addNotification
    { id := id
      orderId := orderId
      notificationType := invoiceCreatedNotification
      status := .SENT
      recipientEmail := recipientEmail event.payload
      payload := [("invoice_id", .str invoiceId),
        ("amount_cents", event.payload.getD "amount_cents" .null)]
      sentAt := sentAt
      createdAt := createdAt })
  flush
  emit (buildResultEvent event "NotificationSent" orderId
    [("order_id", .str orderId), ("invoice_id", .str invoiceId),
      ("notification_id", .str id),
      ("notification_type", .str invoiceCreatedNotification)])

def handleInvoiceCreated (event : EventEnvelope) : App (Option OutboxEvent) :=
  handleOnce NOTIFICATION_CONSUMER_NAME sendInvoiceNotification event

/-! ## §5. The order projection worker. -/

/-- The shared body of `_mark_order_completed` and `_mark_order_cancelled`. -/
def markOrder (status : OrderStatus) (event : EventEnvelope) : App Order := do
  let orderId ← ofExcept (strItem event.payload "order_id")
  match ← query (·.findOrder orderId) with
  | none => raise (.lookupError ("Order " ++ Json.reprStr orderId ++ " was not found."))
  | some order =>
      write (·.setStatus orderId status)
      flush
      return { order with status }

def markOrderCompleted (event : EventEnvelope) : App Order := markOrder .COMPLETED event

def markOrderCancelled (event : EventEnvelope) : App Order := markOrder .CANCELLED event

def handleNotificationSent (event : EventEnvelope) : App (Option Order) :=
  handleOnce ORDER_PROJECTION_CONSUMER_NAME markOrderCompleted event

def handleInventoryReleased (event : EventEnvelope) : App (Option Order) :=
  handleOnce ORDER_PROJECTION_CONSUMER_NAME markOrderCancelled event

end EventCart
