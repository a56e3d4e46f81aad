/-
  EventCart.Models
  ────────────────
  **THE TABLES.**

  One structure per mapped class of `modules/*/models.py`, with the columns
  the modelled code reads or writes, and `Database`, the rows of all tables.
  Rows are kept in insertion order; nothing in the code deletes a row except
  the replacement of an expired idempotency key.

  `admits` is what the database refuses to flush: two rows under one primary
  key, two inventory items under one SKU (`uq_inventory_items_sku`), or a
  foreign key without its row.  Column ranges and lengths differ between the
  SQLite and PostgreSQL back ends and are left to `World.fault`.
-/
import EventCart.Lib.Json
import EventCart.Lib.Session

namespace EventCart

open EventCart.Lib

/-- Timestamps, in microseconds since 1970. -/
abbrev DateTime := Int

/-! ## §1. Orders and inventory. -/

inductive OrderStatus where
  | PENDING
  | COMPLETED
  | CANCELLED
  deriving DecidableEq, Repr

/-- The text stored in the `status` column and put into payloads. -/
def OrderStatus.value : OrderStatus → String
  | .PENDING => "PENDING"
  | .COMPLETED => "COMPLETED"
  | .CANCELLED => "CANCELLED"

structure Order where
  id : String
  status : OrderStatus
  customerEmail : String
  createdAt : DateTime
  deriving DecidableEq, Repr

structure OrderItem where
  id : String
  orderId : String
  sku : String
  quantity : Int
  unitPriceCents : Int
  productName : Option String
  deriving DecidableEq, Repr

structure InventoryItem where
  id : String
  sku : String
  name : String
  quantityAvailable : Int
  unitPriceCents : Int
  createdAt : DateTime
  deriving DecidableEq, Repr

/-! ## §2. Payments, invoices, notifications. -/

inductive PaymentStatus where
  | AUTHORIZED
  | FAILED
  deriving DecidableEq, Repr

structure Payment where
  id : String
  orderId : String
  status : PaymentStatus
  amountCents : Int
  failureReason : Option String
  createdAt : DateTime
  deriving DecidableEq, Repr

inductive InvoiceStatus where
  | CREATED
  deriving DecidableEq, Repr

structure Invoice where
  id : String
  orderId : String
  paymentId : String
  status : InvoiceStatus
  amountCents : Int
  createdAt : DateTime
  deriving DecidableEq, Repr

inductive NotificationStatus where
  | SENT
  deriving DecidableEq, Repr

structure Notification where
  id : String
  orderId : String
  notificationType : String
  status : NotificationStatus
  recipientEmail : Option String
  payload : Dict
  sentAt : DateTime
  createdAt : DateTime
  deriving DecidableEq, Repr

/-! ## §3. Events. -/

inductive OutboxEventStatus where
  | PENDING
  | PUBLISHED
  | FAILED
  deriving DecidableEq, Repr

structure OutboxEvent where
  eventId : String
  eventType : String
  eventVersion : Int
  aggregateType : String
  aggregateId : String
  correlationId : String
  causationId : Option String
  occurredAt : DateTime
  payload : Dict
  status : OutboxEventStatus
  publishedAt : Option DateTime
  nextAttemptAt : Option DateTime
  failureCount : Int
  lastError : Option String
  deriving DecidableEq, Repr

structure EventProcessingAttempt where
  id : String
  eventId : String
  consumerName : String
  attemptNumber : Int
  error : String
  attemptedAt : DateTime
  deriving DecidableEq, Repr

structure DeadLetterEvent where
  id : String
  eventId : String
  eventType : String
  eventVersion : Int
  aggregateType : String
  aggregateId : String
  correlationId : String
  causationId : Option String
  consumerName : String
  attemptNumber : Int
  error : String
  payload : Dict
  failedAt : DateTime
  replayedAt : Option DateTime
  deriving DecidableEq, Repr

/-! ## §4. Idempotency. -/

structure IdempotencyKey where
  key : String
  requestHash : String
  responseBody : Option Dict
  statusCode : Option Int
  expiresAt : DateTime
  createdAt : DateTime
  updatedAt : DateTime
  deriving DecidableEq, Repr

structure InboxEvent where
  consumerName : String
  eventId : String
  processedAt : DateTime
  deriving DecidableEq, Repr

/-! ## §5. The database. -/

structure Database where
  orders : List Order
  orderItems : List OrderItem
  inventoryItems : List InventoryItem
  payments : List Payment
  invoices : List Invoice
  notifications : List Notification
  outboxEvents : List OutboxEvent
  attempts : List EventProcessingAttempt
  deadLetters : List DeadLetterEvent
  idempotencyKeys : List IdempotencyKey
  inboxEvents : List InboxEvent
  deriving DecidableEq, Repr

/-- Freshly migrated tables. -/
def Database.empty : Database := ⟨[], [], [], [], [], [], [], [], [], [], []⟩

/-- The primary key of `inbox_events`. -/
def InboxEvent.key (row : InboxEvent) : String × String :=
  (row.consumerName, row.eventId)

/-- The declared keys hold. -/
structure Database.Keyed (db : Database) : Prop where
  orders : (db.orders.map (·.id)).Nodup
  orderItems : (db.orderItems.map (·.id)).Nodup
  inventoryItems : (db.inventoryItems.map (·.id)).Nodup
  skus : (db.inventoryItems.map (·.sku)).Nodup
  payments : (db.payments.map (·.id)).Nodup
  invoices : (db.invoices.map (·.id)).Nodup
  notifications : (db.notifications.map (·.id)).Nodup
  outboxEvents : (db.outboxEvents.map (·.eventId)).Nodup
  attempts : (db.attempts.map (·.id)).Nodup
  deadLetters : (db.deadLetters.map (·.id)).Nodup
  idempotencyKeys : (db.idempotencyKeys.map (·.key)).Nodup
  inboxEvents : (db.inboxEvents.map (·.key)).Nodup
  orderItemsOrders : ∀ row ∈ db.orderItems, ∃ order ∈ db.orders, order.id = row.orderId
  attemptsEvents : ∀ row ∈ db.attempts, ∃ event ∈ db.outboxEvents,
    event.eventId = row.eventId

/-- The executable key check. -/
def Database.admits (db : Database) : Bool :=
  decide (db.orders.map (·.id)).Nodup
    && decide (db.orderItems.map (·.id)).Nodup
    && decide (db.inventoryItems.map (·.id)).Nodup
    && decide (db.inventoryItems.map (·.sku)).Nodup
    && decide (db.payments.map (·.id)).Nodup
    && decide (db.invoices.map (·.id)).Nodup
    && decide (db.notifications.map (·.id)).Nodup
    && decide (db.outboxEvents.map (·.eventId)).Nodup
    && decide (db.attempts.map (·.id)).Nodup
    && decide (db.deadLetters.map (·.id)).Nodup
    && decide (db.idempotencyKeys.map (·.key)).Nodup
    && decide (db.inboxEvents.map (·.key)).Nodup
    && db.orderItems.all (fun row => db.orders.any (·.id == row.orderId))
    && db.attempts.all (fun row => db.outboxEvents.any (·.eventId == row.eventId))

instance : Schema Database := ⟨Database.admits⟩

/-- The check is the declaration. -/
theorem admits_iff (db : Database) : Schema.admits db = true ↔ db.Keyed := by
  show db.admits = true ↔ _
  simp only [Database.admits, Bool.and_eq_true, decide_eq_true_eq, List.all_eq_true,
    List.any_eq_true, beq_iff_eq, and_assoc]
  constructor
  · rintro ⟨h1, h2, h3, h4, h5, h6, h7, h8, h9, h10, h11, h12, h13, h14⟩
    exact ⟨h1, h2, h3, h4, h5, h6, h7, h8, h9, h10, h11, h12, h13, h14⟩
  · rintro ⟨h1, h2, h3, h4, h5, h6, h7, h8, h9, h10, h11, h12, h13, h14⟩
    exact ⟨h1, h2, h3, h4, h5, h6, h7, h8, h9, h10, h11, h12, h13, h14⟩

theorem Database.keyed_empty : Database.empty.Keyed :=
  (admits_iff _).mp rfl

/-! ## §6. Exceptions. -/

/-- The exceptions the code raises itself, with what their text is made of. -/
inductive PyError where
  | inventoryReservationError (message : String)
  | inventoryItemNotFoundError (message : String)
  | unsupportedEventTypeError (message : String)
  | idempotencyConflictError (message : String)
  | idempotencyInProgressError (message : String)
  /-- Indexing a dictionary with a missing key. -/
  | keyError (key : String)
  | typeError (message : String)
  | lookupError (message : String)
  | valueError (message : String)
  | runtimeError (message : String)
  | overflowError (message : String)
  /-- A schema rejected its input at these fields. -/
  | validationError (model : String) (fields : List String)
  /-- Any other exception of a handler or transport passed in from outside. -/
  | other (message : String)
  deriving DecidableEq, Repr

/-- `str(error)`. -/
def PyError.text : PyError → String
  | .inventoryReservationError message => message
  | .inventoryItemNotFoundError message => message
  | .unsupportedEventTypeError message => message
  | .idempotencyConflictError message => message
  | .idempotencyInProgressError message => message
  | .keyError key => Json.reprStr key
  | .typeError message => message
  | .lookupError message => message
  | .valueError message => message
  | .runtimeError message => message
  | .overflowError message => message
  | .validationError model fields =>
      toString fields.length ++ " validation error"
        ++ (if fields.length = 1 then "" else "s") ++ " for " ++ model ++ "\n"
        ++ String.intercalate "\n" fields
  | .other message => message

/-- Programs over an EventCart session. -/
abbrev App (α : Type) := Tx Database PyError α

/-- `str(error)` for everything `except Exception` can catch. -/
def failureText : Failure PyError → String
  | .raised error => error.text
  | .database message => message
  | .pendingRollback =>
      "This Session's transaction has been rolled back due to a previous exception during flush."
  | .crash => ""

/-- A column of type `String(500)` filled with `text[:500]`. -/
def clip (text : String) : String := String.ofList (text.toList.take 500)

/-- `payload[key]`. -/
def item (payload : Dict) (key : String) : Except PyError Json :=
  match payload.get? key with
  | some value => .ok value
  | none => .error (.keyError key)

/-- `str(payload[key])`. -/
def strItem (payload : Dict) (key : String) : Except PyError String :=
  (item payload key).map Json.pyStr

end EventCart
