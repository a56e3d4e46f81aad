/-
  EventCart.Migrations.Versions
  ─────────────────────────────
  **THE TWELVE REVISIONS.**

  `migrations/versions/*.py`, one `Revision` a file: the statements that its
  `upgrade` and its `downgrade` hand to `op`, in their order.  Column types
  are kept as declared; no statement looks at them.

    §1  column types and values;
    §2  the revisions, in the order of their files;
    §3  the line they form: each names the one before it, and each downgrade
        takes its upgrade back, statement by statement (`downgrade_eq`).
-/
import EventCart.Lib.DdlConstraints
import EventCart.Lib.Json

namespace EventCart.Migrations

open EventCart.Lib EventCart.Lib.Ddl

/-! ## §1. Column types and values. -/

/-- `sa.String(length)`, `sa.Integer()`, `sa.DateTime(timezone)`, `sa.JSON()`. -/
inductive ColumnType where
  | string (length : Nat)
  | integer
  | dateTime (timezone : Bool)
  | json
  deriving DecidableEq, Repr

/-- What a cell holds when it is not NULL. -/
inductive Value where
  | string (s : String)
  | integer (n : Int)
  | dateTime (t : Int)
  | json (v : Json)
  deriving DecidableEq, Repr

/-- `sa.Column(name, type, nullable=False)`. -/
def required (name : String) (type : ColumnType) : Column ColumnType Value :=
  ⟨name, type, false, none⟩

/-- `sa.Column(name, type, nullable=True)`. -/
def optional (name : String) (type : ColumnType) : Column ColumnType Value :=
  ⟨name, type, true, none⟩

/-- A file of `migrations/versions`. -/
structure Revision where
  revision : String
  downRevision : Option String
  upgrade : List (Ddl.Statement ColumnType Value)
  downgrade : List (Ddl.Statement ColumnType Value)
  deriving DecidableEq, Repr

/-! ## §2. The revisions. -/

def createOrders : Revision where
  revision := "20260626_0001"
  downRevision := none
  upgrade :=
    [ .createTable
        { name := "orders"
          columns :=
            [ required "id" (.string 36),
              required "status" (.string 32),
              required "customer_email" (.string 320),
              required "created_at" (.dateTime true) ]
          primaryKey := ["id"]
          uniques := []
          foreignKeys := [] },
      .createTable
        { name := "order_items"
          columns :=
            [ required "id" (.string 36),
              required "order_id" (.string 36),
              required "sku" (.string 64),
              required "quantity" .integer,
              required "unit_price_cents" .integer,
              optional "product_name" (.string 200) ]
          primaryKey := ["id"]
          uniques := []
          foreignKeys := [⟨["order_id"], "orders", ["id"], "CASCADE"⟩] },
      .createIndex "order_items" ⟨"ix_order_items_order_id", ["order_id"]⟩,
      .createIndex "order_items" ⟨"ix_order_items_sku", ["sku"]⟩ ]
  downgrade :=
    [ .dropIndex "ix_order_items_sku",
      .dropIndex "ix_order_items_order_id",
      .dropTable "order_items",
      .dropTable "orders" ]

def createInventoryItems : Revision where
  revision := "20260626_0002"
  downRevision := some "20260626_0001"
  upgrade :=
    [ .createTable
        { name := "inventory_items"
          columns :=
            [ required "id" (.string 36),
              required "sku" (.string 64),
              required "name" (.string 200),
              required "quantity_available" .integer,
              required "unit_price_cents" .integer,
              required "created_at" (.dateTime true) ]
          primaryKey := ["id"]
          uniques := [⟨"uq_inventory_items_sku", ["sku"]⟩]
          foreignKeys := [] },
      .createIndex "inventory_items" ⟨"ix_inventory_items_sku", ["sku"]⟩ ]
  downgrade :=
    [ .dropIndex "ix_inventory_items_sku",
      .dropTable "inventory_items" ]

def createOutboxEvents : Revision where
  revision := "20260626_0003"
  downRevision := some "20260626_0002"
  upgrade :=
    [ .createTable
        { name := "outbox_events"
          columns :=
            [ required "event_id" (.string 36),
              required "event_type" (.string 100),
              required "event_version" .integer,
              required "aggregate_type" (.string 100),
              required "aggregate_id" (.string 36),
              required "correlation_id" (.string 36),
              optional "causation_id" (.string 36),
              required "occurred_at" (.dateTime true),
              required "payload" .json,
              required "status" (.string 32),
              optional "published_at" (.dateTime true),
              required "failure_count" .integer,
              optional "last_error" (.string 500) ]
          primaryKey := ["event_id"]
          uniques := []
          foreignKeys := [] },
      .createIndex "outbox_events"
        ⟨"ix_outbox_events_aggregate", ["aggregate_type", "aggregate_id"]⟩,
      .createIndex "outbox_events" ⟨"ix_outbox_events_status", ["status"]⟩,
      .createIndex "outbox_events" ⟨"ix_outbox_events_occurred_at", ["occurred_at"]⟩ ]
  downgrade :=
    [ .dropIndex "ix_outbox_events_occurred_at",
      .dropIndex "ix_outbox_events_status",
      .dropIndex "ix_outbox_events_aggregate",
      .dropTable "outbox_events" ]

def createIdempotencyKeys : Revision where
  revision := "20260626_0004"
  downRevision := some "20260626_0003"
  upgrade :=
    [ .createTable
        { name := "idempotency_keys"
          columns :=
            [ required "key" (.string 255),
              required "request_hash" (.string 64),
              optional "response_body" .json,
              optional "status_code" .integer,
              required "expires_at" (.dateTime true),
              required "created_at" (.dateTime true),
              required "updated_at" (.dateTime true) ]
          primaryKey := ["key"]
          uniques := []
          foreignKeys := [] },
      .createIndex "idempotency_keys" ⟨"ix_idempotency_keys_expires_at", ["expires_at"]⟩ ]
  downgrade :=
    [ .dropIndex "ix_idempotency_keys_expires_at",
      .dropTable "idempotency_keys" ]

def createInboxEvents : Revision where
  revision := "20260626_0005"
  downRevision := some "20260626_0004"
  upgrade :=
    [ .createTable
        { name := "inbox_events"
          columns :=
            [ required "consumer_name" (.string 100),
              required "event_id" (.string 36),
              required "processed_at" (.dateTime true) ]
          primaryKey := ["consumer_name", "event_id"]
          uniques := []
          foreignKeys := [] },
      .createIndex "inbox_events" ⟨"ix_inbox_events_event_id", ["event_id"]⟩ ]
  downgrade :=
    [ .dropIndex "ix_inbox_events_event_id",
      .dropTable "inbox_events" ]

def createPayments : Revision where
  revision := "20260626_0006"
  downRevision := some "20260626_0005"
  upgrade :=
    [ .createTable
        { name := "payments"
          columns :=
            [ required "id" (.string 36),
              required "order_id" (.string 36),
              required "status" (.string 32),
              required "amount_cents" .integer,
              optional "failure_reason" (.string 500),
              required "created_at" (.dateTime true) ]
          primaryKey := ["id"]
          uniques := []
          foreignKeys := [] },
      .createIndex "payments" ⟨"ix_payments_order_id", ["order_id"]⟩ ]
  downgrade :=
    [ .dropIndex "ix_payments_order_id",
      .dropTable "payments" ]

def createInvoices : Revision where
  revision := "20260626_0007"
  downRevision := some "20260626_0006"
  upgrade :=
    [ .createTable
        { name := "invoices"
          columns :=
            [ required "id" (.string 36),
              required "order_id" (.string 36),
              required "payment_id" (.string 36),
              required "status" (.string 32),
              required "amount_cents" .integer,
              required "created_at" (.dateTime true) ]
          primaryKey := ["id"]
          uniques := []
          foreignKeys := [] },
      .createIndex "invoices" ⟨"ix_invoices_order_id", ["order_id"]⟩,
      .createIndex "invoices" ⟨"ix_invoices_payment_id", ["payment_id"]⟩ ]
  downgrade :=
    [ .dropIndex "ix_invoices_payment_id",
      .dropIndex "ix_invoices_order_id",
      .dropTable "invoices" ]

def createNotifications : Revision where
  revision := "20260626_0008"
  downRevision := some "20260626_0007"
  upgrade :=
    [ .createTable
        { name := "notifications"
          columns :=
            [ required "id" (.string 36),
              required "order_id" (.string 36),
              required "notification_type" (.string 100),
              required "status" (.string 32),
              optional "recipient_email" (.string 320),
              required "payload" .json,
              required "sent_at" (.dateTime true),
              required "created_at" (.dateTime true) ]
          primaryKey := ["id"]
          uniques := []
          foreignKeys := [] },
      .createIndex "notifications" ⟨"ix_notifications_order_id", ["order_id"]⟩ ]
  downgrade :=
    [ .dropIndex "ix_notifications_order_id",
      .dropTable "notifications" ]

def createEventProcessingAttempts : Revision where
  revision := "20260626_0009"
  downRevision := some "20260626_0008"
  upgrade :=
    [ .createTable
        { name := "event_processing_attempts"
          columns :=
            [ required "id" (.string 36),
              required "event_id" (.string 36),
              required "consumer_name" (.string 100),
              required "attempt_number" .integer,
              required "error" (.string 500),
              required "attempted_at" (.dateTime true) ]
          primaryKey := ["id"]
          uniques := []
          foreignKeys := [⟨["event_id"], "outbox_events", ["event_id"], "CASCADE"⟩] },
      .createIndex "event_processing_attempts"
        ⟨"ix_event_processing_attempts_event_id", ["event_id"]⟩,
      .createIndex "event_processing_attempts"
        ⟨"ix_event_processing_attempts_consumer_name", ["consumer_name"]⟩ ]
  downgrade :=
    [ .dropIndex "ix_event_processing_attempts_consumer_name",
      .dropIndex "ix_event_processing_attempts_event_id",
      .dropTable "event_processing_attempts" ]

def addOutboxNextAttemptAt : Revision where
  revision := "20260626_0010"
  downRevision := some "20260626_0009"
  upgrade :=
    [ .addColumn "outbox_events" (optional "next_attempt_at" (.dateTime true)),
      .createIndex "outbox_events" ⟨"ix_outbox_events_next_attempt_at", ["next_attempt_at"]⟩ ]
  downgrade :=
    [ .dropIndex "ix_outbox_events_next_attempt_at",
      .dropColumn "outbox_events" "next_attempt_at" ]

def createDeadLetterEvents : Revision where
  revision := "20260626_0011"
  downRevision := some "20260626_0010"
  upgrade :=
    [ .createTable
        { name := "dead_letter_events"
          columns :=
            [ required "id" (.string 36),
              required "event_id" (.string 36),
              required "event_type" (.string 100),
              required "aggregate_type" (.string 100),
              required "aggregate_id" (.string 36),
              required "consumer_name" (.string 100),
              required "attempt_number" .integer,
              required "error" (.string 500),
              required "payload" .json,
              required "failed_at" (.dateTime true),
              optional "replayed_at" (.dateTime true) ]
          primaryKey := ["id"]
          uniques := []
          foreignKeys := [] },
      .createIndex "dead_letter_events" ⟨"ix_dead_letter_events_event_id", ["event_id"]⟩,
      .createIndex "dead_letter_events"
        ⟨"ix_dead_letter_events_consumer_name", ["consumer_name"]⟩ ]
  downgrade :=
    [ .dropIndex "ix_dead_letter_events_consumer_name",
      .dropIndex "ix_dead_letter_events_event_id",
      .dropTable "dead_letter_events" ]

def addDeadLetterReplayFields : Revision where
  revision := "20260626_0012"
  downRevision := some "20260626_0011"
  upgrade :=
    [ -- `server_default="1"`, for the rows that are there
      .addColumn "dead_letter_events" ⟨"event_version", .integer, false, some (.integer 1)⟩,
      .addColumn "dead_letter_events" (required "correlation_id" (.string 36)),
      .addColumn "dead_letter_events" (optional "causation_id" (.string 36)) ]
  downgrade :=
    [ .dropColumn "dead_letter_events" "causation_id",
      .dropColumn "dead_letter_events" "correlation_id",
      .dropColumn "dead_letter_events" "event_version" ]

/-- `migrations/versions`, sorted by file name. -/
def versions : List Revision :=
  [ createOrders, createInventoryItems, createOutboxEvents,
    createIdempotencyKeys, createInboxEvents, createPayments,
    createInvoices, createNotifications, createEventProcessingAttempts,
    addOutboxNextAttemptAt, createDeadLetterEvents, addDeadLetterReplayFields ]

/-! ## §3. One line. -/

/-- Each revision follows the one before it, the first one nothing. -/
def Linked : Option String → List Revision → Prop
  | _, [] => True
  | previous, r :: rest => r.downRevision = previous ∧ Linked (some r.revision) rest

/-- **One line**: no branches and no second base. -/
theorem versions_linked : Linked none versions :=
  ⟨rfl, rfl, rfl, rfl, rfl, rfl, rfl, rfl, rfl, rfl, rfl, rfl, trivial⟩

theorem nodup_versions : (versions.map (·.revision)).Nodup := by decide +kernel

/-- Upgrades only build. -/
theorem upgrade_builds : ∀ r ∈ versions, ∀ st ∈ r.upgrade, st.Builds := by decide +kernel

/-- **Every downgrade takes its upgrade back**, the last statement first. -/
theorem downgrade_eq : ∀ r ∈ versions, r.downgrade = undoAll r.upgrade := by decide +kernel

end EventCart.Migrations
