/-
  EventCart.Migrations.Metadata
  ─────────────────────────────
  **THE TABLES OF THE MODELS.**

  `Base.metadata`, the tables as the mapped classes of `modules/*/models.py`
  declare them, and the rows that their objects are stored as.

    §1  the mapped tables;
    §2  objects and their rows;
    §3  the migrated tables and the mapped ones demand the same keys of rows,
        and those are the keys that `Database.admits` checks;
    §4  the rows of a database say which one it is (`tables_hold_database`).

  Indexes that keep nothing unique do differ: the mapped classes know nothing
  of `ix_outbox_events_aggregate` and `ix_outbox_events_next_attempt_at`.
-/
import EventCart.Migrations.Walks
import EventCart.Models

namespace EventCart.Migrations

open EventCart.Lib EventCart.Lib.Ddl

/-! ## §1. The mapped tables. -/

/-- `index=True`. -/
def indexOn (table column : String) : Index := ⟨"ix_" ++ table ++ "_" ++ column, [column]⟩

/-- `primary_key=True` on one column, and no more keys. -/
def mapped (name primaryKey : String) (columns : List (Column ColumnType Value))
    (indexed : List String) : Table ColumnType Value where
  name := name
  columns := columns
  primaryKey := [primaryKey]
  uniques := []
  foreignKeys := []
  indexes := indexed.map (indexOn name)
  rows := []

def orders : Table ColumnType Value :=
  mapped "orders" "id"
    [ required "id" (.string 36),
      required "status" (.string 32),
      required "customer_email" (.string 320),
      required "created_at" (.dateTime true) ]
    []

def orderItems : Table ColumnType Value :=
  { mapped "order_items" "id"
      [ required "id" (.string 36),
        required "order_id" (.string 36),
        required "sku" (.string 64),
        required "quantity" .integer,
        required "unit_price_cents" .integer,
        optional "product_name" (.string 200) ]
      ["order_id", "sku"] with
    foreignKeys := [⟨["order_id"], "orders", ["id"], "CASCADE"⟩] }

/-- `unique=True` and `index=True` together make one unique index. -/
def inventoryItems : Table ColumnType Value :=
  { mapped "inventory_items" "id"
      [ required "id" (.string 36),
        required "sku" (.string 64),
        required "name" (.string 200),
        required "quantity_available" .integer,
        required "unit_price_cents" .integer,
        required "created_at" (.dateTime true) ]
      [] with
    uniques := [indexOn "inventory_items" "sku"] }

def outboxEvents : Table ColumnType Value :=
  mapped "outbox_events" "event_id"
    [ required "event_id" (.string 36),
      required "event_type" (.string 100),
      required "event_version" .integer,
      required "aggregate_type" (.string 100),
      required "aggregate_id" (.string 36),
      required "correlation_id" (.string 36),
      optional "causation_id" (.string 36),
      required "occurred_at" (.dateTime true),
      required "payload" .json,
      required "status" (.string 32),
      optional "published_at" (.dateTime true),
      optional "next_attempt_at" (.dateTime true),
      required "failure_count" .integer,
      optional "last_error" (.string 500) ]
    ["occurred_at", "status"]

def idempotencyKeys : Table ColumnType Value :=
  mapped "idempotency_keys" "key"
    [ required "key" (.string 255),
      required "request_hash" (.string 64),
      optional "response_body" .json,
      optional "status_code" .integer,
      required "expires_at" (.dateTime true),
      required "created_at" (.dateTime true),
      required "updated_at" (.dateTime true) ]
    ["expires_at"]

def inboxEvents : Table ColumnType Value :=
  { mapped "inbox_events" "consumer_name"
      [ required "consumer_name" (.string 100),
        required "event_id" (.string 36),
        required "processed_at" (.dateTime true) ]
      ["event_id"] with
    primaryKey := ["consumer_name", "event_id"] }

def payments : Table ColumnType Value :=
  mapped "payments" "id"
    [ required "id" (.string 36),
      required "order_id" (.string 36),
      required "status" (.string 32),
      required "amount_cents" .integer,
      optional "failure_reason" (.string 500),
      required "created_at" (.dateTime true) ]
    ["order_id"]

def invoices : Table ColumnType Value :=
  mapped "invoices" "id"
    [ required "id" (.string 36),
      required "order_id" (.string 36),
      required "payment_id" (.string 36),
      required "status" (.string 32),
      required "amount_cents" .integer,
      required "created_at" (.dateTime true) ]
    ["order_id", "payment_id"]

def notifications : Table ColumnType Value :=
  mapped "notifications" "id"
    [ required "id" (.string 36),
      required "order_id" (.string 36),
      required "notification_type" (.string 100),
      required "status" (.string 32),
      optional "recipient_email" (.string 320),
      required "payload" .json,
      required "sent_at" (.dateTime true),
      required "created_at" (.dateTime true) ]
    ["order_id"]

def eventProcessingAttempts : Table ColumnType Value :=
  { mapped "event_processing_attempts" "id"
      [ required "id" (.string 36),
        required "event_id" (.string 36),
        required "consumer_name" (.string 100),
        required "attempt_number" .integer,
        required "error" (.string 500),
        required "attempted_at" (.dateTime true) ]
      ["event_id", "consumer_name"] with
    foreignKeys := [⟨["event_id"], "outbox_events", ["event_id"], "CASCADE"⟩] }

def deadLetterEvents : Table ColumnType Value :=
  mapped "dead_letter_events" "id"
    [ required "id" (.string 36),
      required "event_id" (.string 36),
      required "event_type" (.string 100),
      required "event_version" .integer,
      required "aggregate_type" (.string 100),
      required "aggregate_id" (.string 36),
      required "correlation_id" (.string 36),
      optional "causation_id" (.string 36),
      required "consumer_name" (.string 100),
      required "attempt_number" .integer,
      required "error" (.string 500),
      required "payload" .json,
      required "failed_at" (.dateTime true),
      optional "replayed_at" (.dateTime true) ]
    ["event_id", "consumer_name"]

/-- `Base.metadata`, in the order of the migrations. -/
def metadata : List (Table ColumnType Value) :=
  [ orders, orderItems, inventoryItems, outboxEvents, idempotencyKeys, inboxEvents, payments,
    invoices, notifications, eventProcessingAttempts, deadLetterEvents ]

end EventCart.Migrations

namespace EventCart

open EventCart.Lib EventCart.Lib.Ddl EventCart.Migrations

/-! ## §2. Rows of objects. -/

/-- Enumerations are stored by name. -/
def PaymentStatus.value : PaymentStatus → String
  | .AUTHORIZED => "AUTHORIZED"
  | .FAILED => "FAILED"

def InvoiceStatus.value : InvoiceStatus → String
  | .CREATED => "CREATED"

def NotificationStatus.value : NotificationStatus → String
  | .SENT => "SENT"

def OutboxEventStatus.value : OutboxEventStatus → String
  | .PENDING => "PENDING"
  | .PUBLISHED => "PUBLISHED"
  | .FAILED => "FAILED"

def Order.attributes (row : Order) : Row Value :=
  [ ("id", some (.string row.id)),
    ("status", some (.string row.status.value)),
    ("customer_email", some (.string row.customerEmail)),
    ("created_at", some (.dateTime row.createdAt)) ]

def OrderItem.attributes (row : OrderItem) : Row Value :=
  [ ("id", some (.string row.id)),
    ("order_id", some (.string row.orderId)),
    ("sku", some (.string row.sku)),
    ("quantity", some (.integer row.quantity)),
    ("unit_price_cents", some (.integer row.unitPriceCents)),
    ("product_name", row.productName.map .string) ]

def InventoryItem.attributes (row : InventoryItem) : Row Value :=
  [ ("id", some (.string row.id)),
    ("sku", some (.string row.sku)),
    ("name", some (.string row.name)),
    ("quantity_available", some (.integer row.quantityAvailable)),
    ("unit_price_cents", some (.integer row.unitPriceCents)),
    ("created_at", some (.dateTime row.createdAt)) ]

def OutboxEvent.attributes (row : OutboxEvent) : Row Value :=
  [ ("event_id", some (.string row.eventId)),
    ("event_type", some (.string row.eventType)),
    ("event_version", some (.integer row.eventVersion)),
    ("aggregate_type", some (.string row.aggregateType)),
    ("aggregate_id", some (.string row.aggregateId)),
    ("correlation_id", some (.string row.correlationId)),
    ("causation_id", row.causationId.map .string),
    ("occurred_at", some (.dateTime row.occurredAt)),
    ("payload", some (.json (.obj row.payload))),
    ("status", some (.string row.status.value)),
    ("published_at", row.publishedAt.map .dateTime),
    ("next_attempt_at", row.nextAttemptAt.map .dateTime),
    ("failure_count", some (.integer row.failureCount)),
    ("last_error", row.lastError.map .string) ]

def IdempotencyKey.attributes (row : IdempotencyKey) : Row Value :=
  [ ("key", some (.string row.key)),
    ("request_hash", some (.string row.requestHash)),
    ("response_body", row.responseBody.map (.json <| .obj ·)),
    ("status_code", row.statusCode.map .integer),
    ("expires_at", some (.dateTime row.expiresAt)),
    ("created_at", some (.dateTime row.createdAt)),
    ("updated_at", some (.dateTime row.updatedAt)) ]

def InboxEvent.attributes (row : InboxEvent) : Row Value :=
  [ ("consumer_name", some (.string row.consumerName)),
    ("event_id", some (.string row.eventId)),
    ("processed_at", some (.dateTime row.processedAt)) ]

def Payment.attributes (row : Payment) : Row Value :=
  [ ("id", some (.string row.id)),
    ("order_id", some (.string row.orderId)),
    ("status", some (.string row.status.value)),
    ("amount_cents", some (.integer row.amountCents)),
    ("failure_reason", row.failureReason.map .string),
    ("created_at", some (.dateTime row.createdAt)) ]

def Invoice.attributes (row : Invoice) : Row Value :=
  [ ("id", some (.string row.id)),
    ("order_id", some (.string row.orderId)),
    ("payment_id", some (.string row.paymentId)),
    ("status", some (.string row.status.value)),
    ("amount_cents", some (.integer row.amountCents)),
    ("created_at", some (.dateTime row.createdAt)) ]

def Notification.attributes (row : Notification) : Row Value :=
  [ ("id", some (.string row.id)),
    ("order_id", some (.string row.orderId)),
    ("notification_type", some (.string row.notificationType)),
    ("status", some (.string row.status.value)),
    ("recipient_email", row.recipientEmail.map .string),
    ("payload", some (.json (.obj row.payload))),
    ("sent_at", some (.dateTime row.sentAt)),
    ("created_at", some (.dateTime row.createdAt)) ]

def EventProcessingAttempt.attributes (row : EventProcessingAttempt) : Row Value :=
  [ ("id", some (.string row.id)),
    ("event_id", some (.string row.eventId)),
    ("consumer_name", some (.string row.consumerName)),
    ("attempt_number", some (.integer row.attemptNumber)),
    ("error", some (.string row.error)),
    ("attempted_at", some (.dateTime row.attemptedAt)) ]

def DeadLetterEvent.attributes (row : DeadLetterEvent) : Row Value :=
  [ ("id", some (.string row.id)),
    ("event_id", some (.string row.eventId)),
    ("event_type", some (.string row.eventType)),
    ("event_version", some (.integer row.eventVersion)),
    ("aggregate_type", some (.string row.aggregateType)),
    ("aggregate_id", some (.string row.aggregateId)),
    ("correlation_id", some (.string row.correlationId)),
    ("causation_id", row.causationId.map .string),
    ("consumer_name", some (.string row.consumerName)),
    ("attempt_number", some (.integer row.attemptNumber)),
    ("error", some (.string row.error)),
    ("payload", some (.json (.obj row.payload))),
    ("failed_at", some (.dateTime row.failedAt)),
    ("replayed_at", row.replayedAt.map .dateTime) ]

/-- The rows of a table. -/
def Database.rowsOf (db : Database) (table : String) : List (Row Value) :=
  match table with
  | "orders" => db.orders.map (·.attributes)
  | "order_items" => db.orderItems.map (·.attributes)
  | "inventory_items" => db.inventoryItems.map (·.attributes)
  | "outbox_events" => db.outboxEvents.map (·.attributes)
  | "idempotency_keys" => db.idempotencyKeys.map (·.attributes)
  | "inbox_events" => db.inboxEvents.map (·.attributes)
  | "payments" => db.payments.map (·.attributes)
  | "invoices" => db.invoices.map (·.attributes)
  | "notifications" => db.notifications.map (·.attributes)
  | "event_processing_attempts" => db.attempts.map (·.attributes)
  | "dead_letter_events" => db.deadLetters.map (·.attributes)
  | _ => []

/-! ## §3. Keys. -/

/-- **No drift** in the columns: the migrated tables have those of the mapped
ones, with their types, if in another order. -/
theorem columns_migrated : ∀ t ∈ schemaAt 12, ∃ u ∈ metadata, t.name = u.name
    ∧ (t.columns.map fun c => (c.name, c.type, c.nullable)).Perm
        (u.columns.map fun c => (c.name, c.type, c.nullable)) := by
  decide +kernel

/-- **And none in the keys**, whether a constraint or an index keeps them. -/
theorem keys_migrated : (schemaAt 12).map (·.keys) = metadata.map (·.keys) := by
  decide +kernel

theorem metadata_sound : Sound metadata where
  names := by decide +kernel
  keyed := by decide +kernel
  indexed := by decide +kernel
  referred := by decide +kernel

section keys
variable {ρ ρ' : Type} {attributes : ρ → Row Value} {attributes' : ρ' → Row Value}
  {key : ρ → String} {key' : ρ' → String} {xs : List ρ} {ys : List ρ'} {name name' : String}

theorem string_cells_injective :
    Function.Injective fun s : String => [some (Value.string s)] := by
  intro s s' h
  simpa using h

theorem primaryKey_iff (hkey : ∀ x, cells (attributes x) [name] = [some (.string (key x))]) :
    ((xs.map attributes).map (cells · [name])).Nodup ↔ (xs.map key).Nodup :=
  nodup_objects string_cells_injective hkey

theorem unique_iff (hkey : ∀ x, cells (attributes x) [name] = [some (.string (key x))]) :
    (((xs.map attributes).map (cells · [name])).Pairwise fun key key' => none ∈ key ∨ key ≠ key')
      ↔ (xs.map key).Nodup := by
  rw [← primaryKey_iff hkey]
  -- no key is NULL
  refine List.Pairwise.iff_of_mem fun {k k'} hk _ => ?_
  obtain ⟨row, hrow, rfl⟩ := List.mem_map.mp hk
  obtain ⟨x, -, rfl⟩ := List.mem_map.mp hrow
  rw [hkey]
  simp

theorem foreignKey_iff (hkey : ∀ x, cells (attributes x) [name] = [some (.string (key x))])
    (hkey' : ∀ y, cells (attributes' y) [name'] = [some (.string (key' y))]) :
    (∀ row ∈ xs.map attributes, none ∉ cells row [name] →
        ∃ other ∈ ys.map attributes', cells other [name'] = cells row [name])
      ↔ ∀ x ∈ xs, ∃ y ∈ ys, key' y = key x := by
  simp [hkey, hkey']

end keys

/-- The rows of objects have all required cells. -/
theorem attributes_given (db : Database) : ∀ t ∈ metadata, ∀ c ∈ t.columns, c.nullable = false →
    ∀ row ∈ db.rowsOf t.name, cell row c.name ≠ none := by
  simp [metadata, orders, orderItems, inventoryItems, outboxEvents, idempotencyKeys, inboxEvents,
    payments, invoices, notifications, eventProcessingAttempts, deadLetterEvents, mapped, required,
    Migrations.optional, Database.rowsOf, cell, List.lookup_cons, Order.attributes,
    OrderItem.attributes, InventoryItem.attributes, OutboxEvent.attributes,
    IdempotencyKey.attributes, InboxEvent.attributes, Payment.attributes, Invoice.attributes,
    Notification.attributes, EventProcessingAttempt.attributes, DeadLetterEvent.attributes]

/-- What the mapped tables demand are the declared keys. -/
theorem metadata_keyed (db : Database) :
    (∀ t ∈ metadata, t.keys.Hold db.rowsOf) ↔ db.Keyed := by
  have hboth : Function.Injective fun k : String × String =>
      [some (Value.string k.1), some (Value.string k.2)] := by
    intro k k' h
    simpa [Prod.ext_iff] using h
  have horders : orders.keys.Hold db.rowsOf ↔ (db.orders.map (·.id)).Nodup :=
    (Keys.hold_primary rfl rfl).trans (primaryKey_iff fun _ => rfl)
  have hitems : orderItems.keys.Hold db.rowsOf ↔ (db.orderItems.map (·.id)).Nodup
      ∧ ∀ row ∈ db.orderItems, ∃ order ∈ db.orders, order.id = row.orderId := by
    have hfk : orderItems.keys.foreignKeys = [⟨["order_id"], "orders", ["id"], "CASCADE"⟩] := rfl
    have hrow : ∀ row : OrderItem, cells row.attributes ["order_id"]
        = [some (.string row.orderId)] := fun _ => rfl
    have horder : ∀ order : Order, cells order.attributes ["id"]
        = [some (.string order.id)] := fun _ => rfl
    exact (Keys.hold_foreign rfl hfk).trans
      (and_congr (primaryKey_iff fun _ => rfl) (foreignKey_iff hrow horder))
  have hinventory : inventoryItems.keys.Hold db.rowsOf ↔ (db.inventoryItems.map (·.id)).Nodup
      ∧ (db.inventoryItems.map (·.sku)).Nodup :=
    (Keys.hold_unique rfl rfl).trans
      (and_congr (primaryKey_iff fun _ => rfl) (unique_iff fun _ => rfl))
  have hevents : outboxEvents.keys.Hold db.rowsOf ↔ (db.outboxEvents.map (·.eventId)).Nodup :=
    (Keys.hold_primary rfl rfl).trans (primaryKey_iff fun _ => rfl)
  have hkeys : idempotencyKeys.keys.Hold db.rowsOf ↔ (db.idempotencyKeys.map (·.key)).Nodup :=
    (Keys.hold_primary rfl rfl).trans (primaryKey_iff fun _ => rfl)
  have hinbox : inboxEvents.keys.Hold db.rowsOf ↔ (db.inboxEvents.map (·.key)).Nodup :=
    (Keys.hold_primary rfl rfl).trans (nodup_objects hboth fun _ => rfl)
  have hpayments : payments.keys.Hold db.rowsOf ↔ (db.payments.map (·.id)).Nodup :=
    (Keys.hold_primary rfl rfl).trans (primaryKey_iff fun _ => rfl)
  have hinvoices : invoices.keys.Hold db.rowsOf ↔ (db.invoices.map (·.id)).Nodup :=
    (Keys.hold_primary rfl rfl).trans (primaryKey_iff fun _ => rfl)
  have hnotifications : notifications.keys.Hold db.rowsOf
      ↔ (db.notifications.map (·.id)).Nodup :=
    (Keys.hold_primary rfl rfl).trans (primaryKey_iff fun _ => rfl)
  have hattempts : eventProcessingAttempts.keys.Hold db.rowsOf ↔ (db.attempts.map (·.id)).Nodup
      ∧ ∀ row ∈ db.attempts, ∃ event ∈ db.outboxEvents, event.eventId = row.eventId := by
    have hfk : eventProcessingAttempts.keys.foreignKeys
        = [⟨["event_id"], "outbox_events", ["event_id"], "CASCADE"⟩] := rfl
    have hrow : ∀ row : EventProcessingAttempt, cells row.attributes ["event_id"]
        = [some (.string row.eventId)] := fun _ => rfl
    have hevent : ∀ event : OutboxEvent, cells event.attributes ["event_id"]
        = [some (.string event.eventId)] := fun _ => rfl
    exact (Keys.hold_foreign rfl hfk).trans
      (and_congr (primaryKey_iff fun _ => rfl) (foreignKey_iff hrow hevent))
  have hdead : deadLetterEvents.keys.Hold db.rowsOf ↔ (db.deadLetters.map (·.id)).Nodup :=
    (Keys.hold_primary rfl rfl).trans (primaryKey_iff fun _ => rfl)
  -- table by table, these are the fields of `Keyed`
  simp only [metadata, List.forall_mem_cons, horders, hitems, hinventory, hevents, hkeys, hinbox,
    hpayments, hinvoices, hnotifications, hattempts, hdead]
  constructor
  · rintro ⟨h1, ⟨h2, h3⟩, ⟨h4, h5⟩, h6, h7, h8, h9, h10, h11, ⟨h12, h13⟩, h14, -⟩
    exact ⟨h1, h2, h4, h5, h9, h10, h11, h6, h12, h14, h7, h8, h3, h13⟩
  · intro h
    exact ⟨h.orders, ⟨h.orderItems, h.orderItemsOrders⟩, ⟨h.inventoryItems, h.skus⟩,
      h.outboxEvents, h.idempotencyKeys, h.inboxEvents, h.payments, h.invoices, h.notifications,
      ⟨h.attempts, h.attemptsEvents⟩, h.deadLetters, fun _ mem => absurd mem List.not_mem_nil⟩

/-! ## §4. Nothing is lost. -/

section told

theorem orderStatus_inj {a b : OrderStatus} : a.value = b.value ↔ a = b := by
  cases a <;> cases b <;> decide

theorem outboxEventStatus_inj {a b : OutboxEventStatus} : a.value = b.value ↔ a = b := by
  cases a <;> cases b <;> decide

theorem paymentStatus_inj {a b : PaymentStatus} : a.value = b.value ↔ a = b := by
  cases a <;> cases b <;> decide

theorem map_string_inj {a b : Option String} :
    a.map Value.string = b.map Value.string ↔ a = b :=
  (Option.map_injective fun _ _ h => Value.string.inj h).eq_iff

theorem map_dateTime_inj {a b : Option DateTime} :
    a.map Value.dateTime = b.map Value.dateTime ↔ a = b :=
  (Option.map_injective fun _ _ h => Value.dateTime.inj h).eq_iff

theorem map_integer_inj {a b : Option Int} :
    a.map Value.integer = b.map Value.integer ↔ a = b :=
  (Option.map_injective fun _ _ h => Value.integer.inj h).eq_iff

theorem map_json_inj {a b : Option Dict} :
    a.map (Value.json <| .obj ·) = b.map (Value.json <| .obj ·) ↔ a = b :=
  (Option.map_injective fun _ _ h => Json.obj.inj (Value.json.inj h)).eq_iff

/-- Objects whose cells are the same under the columns of their table are the
same. -/
theorem Order.told (x y : Order)
    (h : ∀ n ∈ Migrations.orders.columnNames, cell x.attributes n = cell y.attributes n) :
    x = y := by
  cases x
  cases y
  simpa [Migrations.orders, mapped, Declaration.columnNames, required, cell, List.lookup_cons,
    Order.attributes, orderStatus_inj] using h

theorem OrderItem.told (x y : OrderItem)
    (h : ∀ n ∈ Migrations.orderItems.columnNames, cell x.attributes n = cell y.attributes n) :
    x = y := by
  cases x
  cases y
  simpa [Migrations.orderItems, mapped, Declaration.columnNames, required, Migrations.optional,
    cell, List.lookup_cons, OrderItem.attributes, map_string_inj] using h

theorem InventoryItem.told (x y : InventoryItem)
    (h : ∀ n ∈ Migrations.inventoryItems.columnNames, cell x.attributes n = cell y.attributes n) :
    x = y := by
  cases x
  cases y
  simpa [Migrations.inventoryItems, mapped, Declaration.columnNames, required, cell,
    List.lookup_cons, InventoryItem.attributes] using h

theorem OutboxEvent.told (x y : OutboxEvent)
    (h : ∀ n ∈ Migrations.outboxEvents.columnNames, cell x.attributes n = cell y.attributes n) :
    x = y := by
  cases x
  cases y
  simpa [Migrations.outboxEvents, mapped, Declaration.columnNames, required,
    Migrations.optional, cell, List.lookup_cons, OutboxEvent.attributes, outboxEventStatus_inj,
    map_string_inj, map_dateTime_inj] using h

theorem IdempotencyKey.told (x y : IdempotencyKey)
    (h : ∀ n ∈ Migrations.idempotencyKeys.columnNames, cell x.attributes n = cell y.attributes n) :
    x = y := by
  cases x
  cases y
  simpa [Migrations.idempotencyKeys, mapped, Declaration.columnNames, required,
    Migrations.optional, cell, List.lookup_cons, IdempotencyKey.attributes, map_json_inj,
    map_integer_inj] using h

theorem InboxEvent.told (x y : InboxEvent)
    (h : ∀ n ∈ Migrations.inboxEvents.columnNames, cell x.attributes n = cell y.attributes n) :
    x = y := by
  cases x
  cases y
  simpa [Migrations.inboxEvents, mapped, Declaration.columnNames, required, cell, List.lookup_cons,
    InboxEvent.attributes] using h

theorem Payment.told (x y : Payment)
    (h : ∀ n ∈ Migrations.payments.columnNames, cell x.attributes n = cell y.attributes n) :
    x = y := by
  cases x
  cases y
  simpa [Migrations.payments, mapped, Declaration.columnNames, required, Migrations.optional,
    cell, List.lookup_cons, Payment.attributes, paymentStatus_inj, map_string_inj] using h

theorem Invoice.told (x y : Invoice)
    (h : ∀ n ∈ Migrations.invoices.columnNames, cell x.attributes n = cell y.attributes n) :
    x = y := by
  cases x
  cases y
  simpa [Migrations.invoices, mapped, Declaration.columnNames, required, cell, List.lookup_cons,
    Invoice.attributes] using h

theorem Notification.told (x y : Notification)
    (h : ∀ n ∈ Migrations.notifications.columnNames, cell x.attributes n = cell y.attributes n) :
    x = y := by
  cases x
  cases y
  simpa [Migrations.notifications, mapped, Declaration.columnNames, required,
    Migrations.optional, cell, List.lookup_cons, Notification.attributes, map_string_inj] using h

theorem EventProcessingAttempt.told (x y : EventProcessingAttempt)
    (h : ∀ n ∈ Migrations.eventProcessingAttempts.columnNames,
      cell x.attributes n = cell y.attributes n) : x = y := by
  cases x
  cases y
  simpa [Migrations.eventProcessingAttempts, mapped, Declaration.columnNames, required, cell,
    List.lookup_cons, EventProcessingAttempt.attributes] using h

theorem DeadLetterEvent.told (x y : DeadLetterEvent)
    (h : ∀ n ∈ Migrations.deadLetterEvents.columnNames, cell x.attributes n = cell y.attributes n) :
    x = y := by
  cases x
  cases y
  simpa [Migrations.deadLetterEvents, mapped, Declaration.columnNames, required,
    Migrations.optional, cell, List.lookup_cons, DeadLetterEvent.attributes, map_string_inj,
    map_dateTime_inj] using h

end told

/-- Every mapped column has been migrated. -/
theorem columns_mapped : ∀ u ∈ metadata, ∃ t ∈ schemaAt 12, t.name = u.name
    ∧ ∀ n ∈ u.columnNames, n ∈ t.columnNames := by
  decide +kernel

/-- The rows of the migrated tables say what the objects were. -/
theorem rows_told {db db' : Database}
    (h : fill (schemaAt 12) db.rowsOf = fill (schemaAt 12) db'.rowsOf) : db = db' := by
  have hmigrated : ∀ t ∈ schemaAt 12,
      (db.rowsOf t.name).map t.arrange = (db'.rowsOf t.name).map t.arrange := fun t mem =>
    congrArg (·.rows) (List.map_inj_left.mp h t mem)
  have hmapped : ∀ u ∈ metadata,
      (db.rowsOf u.name).map u.arrange = (db'.rowsOf u.name).map u.arrange := by
    intro u mem
    obtain ⟨t, ht, hname, hcolumns⟩ := columns_mapped u mem
    -- a row in the order of the mapped columns is read off the migrated one
    have hagain : ∀ rows : List (Row Value),
        rows.map u.arrange = (rows.map t.arrange).map u.arrange := by
      intro rows
      rw [List.map_map]
      exact List.map_congr_left fun row _ => (arrange_arrange hcolumns row).symm
    rw [hagain, hagain (db'.rowsOf _), ← hname, hmigrated t ht]
  simp only [metadata, List.forall_mem_cons] at hmapped
  obtain ⟨h1, h2, h3, h4, h5, h6, h7, h8, h9, h10, h11, -⟩ := hmapped
  cases db
  cases db'
  simp only [Database.mk.injEq]
  exact ⟨objects_eq Order.told h1, objects_eq OrderItem.told h2, objects_eq InventoryItem.told h3,
    objects_eq Payment.told h7, objects_eq Invoice.told h8, objects_eq Notification.told h9,
    objects_eq OutboxEvent.told h4, objects_eq EventProcessingAttempt.told h10,
    objects_eq DeadLetterEvent.told h11, objects_eq IdempotencyKey.told h5,
    objects_eq InboxEvent.told h6⟩

/-- **The tables hold the database**: when the last revision has been reached,
by whatever run, the constraints of the migrated tables are satisfied by the
rows of exactly those databases that `Database.admits`, as are those of the
tables that `create_all` makes of the models, and different databases have
different rows. -/
theorem tables_hold_database {s : Migrated} (reached : Reaches step .base s)
    (head : s.version = versions.length) (db : Database) :
    (Satisfied (fill (bare s.tables) db.rowsOf) ↔ db.admits = true)
      ∧ (Satisfied (fill metadata db.rowsOf) ↔ db.admits = true)
      ∧ ∀ db' : Database,
          fill (bare s.tables) db.rowsOf = fill (bare s.tables) db'.rowsOf → db = db' := by
  obtain ⟨history, rfl⟩ := reached
  have hschema := (run_inv history).schema
  have hsound := (schemaAt_satisfied (le_refl versions.length)).1
  rw [head] at hschema
  have hkeyed : (∀ t ∈ schemaAt 12, t.keys.Hold db.rowsOf) ↔ db.Keyed := by
    rw [← metadata_keyed]
    have h : ∀ tables : List (Table ColumnType Value), (∀ t ∈ tables, t.keys.Hold db.rowsOf)
        ↔ ∀ k ∈ tables.map (·.keys), k.Hold db.rowsOf := by
      intro tables
      rw [List.forall_mem_map]
    rw [h, h, keys_migrated]
  have hgiven : ∀ t ∈ schemaAt 12, ∀ c ∈ t.columns, c.nullable = false →
      ∀ row ∈ db.rowsOf t.name, cell row c.name ≠ none := by
    intro t mem c hc hrequired row hrow
    -- the column is mapped, and the object has a cell for it
    obtain ⟨u, hu, hname, hperm⟩ := columns_migrated t mem
    obtain ⟨c', hc', heq⟩ := List.mem_map.mp (hperm.subset (List.mem_map_of_mem hc))
    simp only [Prod.mk.injEq] at heq
    rw [← heq.1]
    exact attributes_given db u hu c' hc' (heq.2.2.trans hrequired) row (hname ▸ hrow)
  have hadmits : db.Keyed ↔ db.admits = true := (admits_iff db).symm
  rw [hschema]
  refine ⟨?_, ?_, fun db' => rows_told⟩
  · exact (satisfied_fill hsound (by decide +kernel) hgiven).trans (hkeyed.trans hadmits)
  · exact (satisfied_fill metadata_sound (by decide +kernel) (attributes_given db)).trans
      ((metadata_keyed db).trans hadmits)

/-- One item, and the same SKU twice. -/
def oneItem : Database :=
  { Database.empty with inventoryItems := [⟨"i", "pencil", "Pencil", 3, 150, 0⟩] }

def twoItems : Database :=
  { Database.empty with
    inventoryItems := [⟨"i", "pencil", "Pencil", 3, 150, 0⟩, ⟨"j", "pencil", "Pen", 1, 200, 0⟩] }

theorem tables_hold_one_item :
    let s := run step [.upgrade "head" false] .base
    Satisfied (fill (bare s.tables) oneItem.rowsOf)
      ∧ ¬ Satisfied (fill (bare s.tables) twoItems.rowsOf) := by
  have hhead : (run step [.upgrade "head" false] .base).version = versions.length := by
    decide +kernel
  have hone := tables_hold_database ⟨_, rfl⟩ hhead oneItem
  have htwo := tables_hold_database ⟨_, rfl⟩ hhead twoItems
  exact ⟨hone.1.mpr (by decide), fun h => absurd (htwo.1.mp h) (by decide)⟩

end EventCart
