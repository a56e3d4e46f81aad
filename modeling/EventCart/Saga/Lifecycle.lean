/-
  EventCart.Saga.Lifecycle
  ────────────────────────
  **THE LIFE OF ONE ORDER, ABSTRACTLY.**

  A `Dossier` is everything the tables say about one order.  `Saga p d`
  holds when `d` is a dossier an order can have in phase `p`; its
  constructors are the steps of the saga, each with the one event that is
  still to be handled.

      placed ─ reserved ┬ authorized ─ invoiced ─ notified ─ completed
             └ refused  └ declined ─ released ─ cancelled

  The relation says what the workers are for: nothing in it mentions
  sessions, retries or crashes.  That every committed database consists of
  such dossiers is proved in `Saga.Invariant`.
-/
import EventCart.Workers.BillingEffects
import EventCart.Workers.InventoryEffects

namespace EventCart

open EventCart.Lib

/-! ## §1. Events as they were inserted. -/

/-- The part of an event its emitter chose. -/
def OutboxEvent.draft (event : OutboxEvent) : EventDraft :=
  { eventType := event.eventType
    eventVersion := event.eventVersion
    aggregateType := event.aggregateType
    aggregateId := event.aggregateId
    correlationId := event.correlationId
    causationId := event.causationId
    payload := event.payload }

/-- The event without its delivery bookkeeping. -/
def OutboxEvent.entry (event : OutboxEvent) : OutboxEvent :=
  event.draft.row event.eventId event.occurredAt

@[simp] theorem draft_row (draft : EventDraft) (id : String) (occurredAt : DateTime) :
    (draft.row id occurredAt).draft = draft := rfl

@[simp] theorem entry_row (draft : EventDraft) (id : String) (occurredAt : DateTime) :
    (draft.row id occurredAt).entry = draft.row id occurredAt := rfl

@[simp] theorem entry_eventId (event : OutboxEvent) : event.entry.eventId = event.eventId := rfl

/-- An event caused by another one, on the same order. -/
def OutboxEvent.followUp (event : OutboxEvent) (eventType orderId : String) (payload : Dict) :
    EventDraft :=
  { eventType := eventType
    eventVersion := 1
    aggregateType := "Order"
    aggregateId := orderId
    correlationId := event.correlationId
    causationId := some event.eventId
    payload := payload }

/-! ## §2. Payloads. -/

/-- An order line as it travels in payloads. -/
def OrderItem.line (row : OrderItem) : Dict :=
  [("sku", .str row.sku), ("quantity", .int row.quantity),
   ("unit_price_cents", .int row.unitPriceCents),
   ("product_name", match row.productName with
    | some name => .str name
    | none => .null)]

def linesOf (items : List OrderItem) : List Dict := items.map OrderItem.line

/-- What the lines of an order cost. -/
def totalCents (items : List OrderItem) : Int :=
  (items.map fun row => row.quantity * row.unitPriceCents).sum

/-- The `OrderCreated` event of an order. -/
def openingDraft (order : Order) (correlationId : String) (items : List OrderItem) :
    EventDraft :=
  { eventType := "OrderCreated"
    eventVersion := 1
    aggregateType := "Order"
    aggregateId := order.id
    correlationId := correlationId
    causationId := none
    payload :=
      [("order_id", .str order.id), ("customer_email", .str order.customerEmail),
       ("status", .str "PENDING"), ("items", itemsJson (linesOf items))] }

/-- The type of the event that tells of a refused reservation. -/
def refusalType : String := "InventoryReservationFailed"

def refusalPayload (order : Order) (reason : String) (items : List OrderItem) : Dict :=
  [("order_id", .str order.id), ("reason", .str reason), ("items", itemsJson (linesOf items))]

def reservedPayload (order : Order) (items : List OrderItem) : Dict :=
  [("order_id", .str order.id), ("items", itemsJson (linesOf items))]

def authorizedPayload (order : Order) (payment : Payment) : Dict :=
  [("order_id", .str order.id), ("payment_id", .str payment.id),
   ("amount_cents", .int payment.amountCents)]

def declinedPayload (order : Order) (payment : Payment) (items : List OrderItem) : Dict :=
  [("order_id", .str order.id), ("payment_id", .str payment.id),
   ("amount_cents", .int payment.amountCents), ("reason", .str simulatedFailure),
   ("items", itemsJson (linesOf items))]

def invoicedPayload (order : Order) (invoice : Invoice) : Dict :=
  [("order_id", .str order.id), ("payment_id", .str invoice.paymentId),
   ("invoice_id", .str invoice.id), ("amount_cents", .int invoice.amountCents)]

def notifiedPayload (order : Order) (invoice : Invoice) (notification : Notification) : Dict :=
  [("order_id", .str order.id), ("invoice_id", .str invoice.id),
   ("notification_id", .str notification.id),
   ("notification_type", .str invoiceCreatedNotification)]

def releasedPayload (order : Order) (payment : Payment) (items : List OrderItem) : Dict :=
  [("order_id", .str order.id), ("payment_id", .str payment.id),
   ("reason", .str simulatedFailure), ("items", itemsJson (linesOf items))]

/-! ## §3. Phases and dossiers. -/

inductive Phase where
  | absent
  | placed
  | refused
  | reserved
  | authorized
  | invoiced
  | notified
  | completed
  | declined
  | released
  | cancelled
  deriving DecidableEq, Repr

/-- One step of an order's life, with what it does to the stock: `-1` takes
the order's lines out, `1` puts them back. -/
inductive Phase.Step : Phase → Int → Phase → Prop where
  | reserve : Step .placed (-1) .reserved
  | refuse : Step .placed 0 .refused
  | authorize : Step .reserved 0 .authorized
  | invoice : Step .authorized 0 .invoiced
  | notify : Step .invoiced 0 .notified
  | complete : Step .notified 0 .completed
  | decline : Step .reserved 0 .declined
  | release : Step .declined 1 .released
  | cancel : Step .released 0 .cancelled

/-- Everything the tables say about one order.  The trail holds its events
in order, each with whether its consumer processed it; the refusals of its
reservation are kept apart because replays multiply them. -/
@[ext]
structure Dossier where
  orders : List Order
  items : List OrderItem
  trail : List (OutboxEvent × Bool)
  refusals : List OutboxEvent
  payments : List Payment
  invoices : List Invoice
  notifications : List Notification

/-- The dossiers of an order, phase by phase. -/
inductive Saga : Phase → Dossier → Prop where
  | absent : Saga .absent ⟨[], [], [], [], [], [], []⟩
  | placed {order : Order} {items : List OrderItem} {correlationId id : String}
      {occurredAt : DateTime} (pending : order.status = .PENDING) (order_ne : order.id ≠ "")
      (correlation_ne : correlationId ≠ "") (id_ne : id ≠ "")
      (positive : ∀ row ∈ items, 0 < row.quantity) :
      Saga .placed ⟨[order], items,
        [((openingDraft order correlationId items).row id occurredAt, false)], [], [], [], []⟩
  | refused {order : Order} {items : List OrderItem} {e : OutboxEvent}
      {refusals : List OutboxEvent}
      (before : Saga .placed ⟨[order], items, [(e, false)], [], [], [], []⟩)
      (nonempty : refusals ≠ [])
      (shape : ∀ r ∈ refusals, ∃ reason id occurredAt, id ≠ ""
        ∧ r = (e.followUp refusalType order.id (refusalPayload order reason items)).row id
            occurredAt) :
      Saga .refused ⟨[order], items, [(e, true)], refusals, [], [], []⟩
  | reserved {order : Order} {items : List OrderItem} {e : OutboxEvent} {id : String}
      {occurredAt : DateTime}
      (before : Saga .placed ⟨[order], items, [(e, false)], [], [], [], []⟩) (id_ne : id ≠ "") :
      Saga .reserved ⟨[order], items, [(e, true),
        ((e.followUp "InventoryReserved" order.id (reservedPayload order items)).row id occurredAt,
          false)], [], [], [], []⟩
  | authorized {order : Order} {items : List OrderItem} {e₀ e₁ : OutboxEvent}
      {payment : Payment} {id : String} {occurredAt : DateTime}
      (before : Saga .reserved ⟨[order], items, [(e₀, true), (e₁, false)], [], [], [], []⟩)
      (payment_order : payment.orderId = order.id)
      (payment_status : payment.status = .AUTHORIZED)
      (payment_amount : payment.amountCents = totalCents items) (id_ne : id ≠ "") :
      Saga .authorized ⟨[order], items, [(e₀, true), (e₁, true),
        ((e₁.followUp "PaymentAuthorized" order.id (authorizedPayload order payment)).row id
          occurredAt, false)], [], [payment], [], []⟩
  | invoiced {order : Order} {items : List OrderItem} {e₀ e₁ e₂ : OutboxEvent}
      {payment : Payment} {invoice : Invoice} {id : String} {occurredAt : DateTime}
      (before : Saga .authorized ⟨[order], items, [(e₀, true), (e₁, true), (e₂, false)], [],
        [payment], [], []⟩)
      (invoice_order : invoice.orderId = order.id)
      (invoice_payment : invoice.paymentId = payment.id)
      (invoice_amount : invoice.amountCents = payment.amountCents) (id_ne : id ≠ "") :
      Saga .invoiced ⟨[order], items, [(e₀, true), (e₁, true), (e₂, true),
        ((e₂.followUp "InvoiceCreated" order.id (invoicedPayload order invoice)).row id occurredAt,
          false)], [], [payment], [invoice], []⟩
  | notified {order : Order} {items : List OrderItem} {e₀ e₁ e₂ e₃ : OutboxEvent}
      {payment : Payment} {invoice : Invoice} {notification : Notification} {id : String}
      {occurredAt : DateTime}
      (before : Saga .invoiced ⟨[order], items, [(e₀, true), (e₁, true), (e₂, true), (e₃, false)],
        [], [payment], [invoice], []⟩)
      (notification_order : notification.orderId = order.id)
      (notification_email : notification.recipientEmail = none)
      (notification_payload : notification.payload
        = [("invoice_id", .str invoice.id), ("amount_cents", .int invoice.amountCents)])
      (id_ne : id ≠ "") :
      Saga .notified ⟨[order], items, [(e₀, true), (e₁, true), (e₂, true), (e₃, true),
        ((e₃.followUp "NotificationSent" order.id
          (notifiedPayload order invoice notification)).row id occurredAt, false)],
        [], [payment], [invoice], [notification]⟩
  | completed {order : Order} {items : List OrderItem} {e₀ e₁ e₂ e₃ e₄ : OutboxEvent}
      {payment : Payment} {invoice : Invoice} {notification : Notification}
      (before : Saga .notified ⟨[order], items, [(e₀, true), (e₁, true), (e₂, true), (e₃, true),
        (e₄, false)], [], [payment], [invoice], [notification]⟩) :
      Saga .completed ⟨[{ order with status := .COMPLETED }], items, [(e₀, true), (e₁, true),
        (e₂, true), (e₃, true), (e₄, true)], [], [payment], [invoice], [notification]⟩
  | declined {order : Order} {items : List OrderItem} {e₀ e₁ : OutboxEvent}
      {payment : Payment} {id : String} {occurredAt : DateTime}
      (before : Saga .reserved ⟨[order], items, [(e₀, true), (e₁, false)], [], [], [], []⟩)
      (payment_order : payment.orderId = order.id)
      (payment_status : payment.status = .FAILED)
      (payment_amount : payment.amountCents = totalCents items) (id_ne : id ≠ "") :
      Saga .declined ⟨[order], items, [(e₀, true), (e₁, true),
        ((e₁.followUp "PaymentFailed" order.id (declinedPayload order payment items)).row id
          occurredAt, false)], [], [payment], [], []⟩
  | released {order : Order} {items : List OrderItem} {e₀ e₁ e₂ : OutboxEvent}
      {payment : Payment} {id : String} {occurredAt : DateTime}
      (before : Saga .declined ⟨[order], items, [(e₀, true), (e₁, true), (e₂, false)], [],
        [payment], [], []⟩) (id_ne : id ≠ "") :
      Saga .released ⟨[order], items, [(e₀, true), (e₁, true), (e₂, true),
        ((e₂.followUp "InventoryReleased" order.id (releasedPayload order payment items)).row id
          occurredAt, false)], [], [payment], [], []⟩
  | cancelled {order : Order} {items : List OrderItem} {e₀ e₁ e₂ e₃ : OutboxEvent}
      {payment : Payment}
      (before : Saga .released ⟨[order], items, [(e₀, true), (e₁, true), (e₂, true), (e₃, false)],
        [], [payment], [], []⟩) :
      Saga .cancelled ⟨[{ order with status := .CANCELLED }], items, [(e₀, true), (e₁, true),
        (e₂, true), (e₃, true)], [], [payment], [], []⟩

/-! ## §4. What every phase has in common. -/

/-- The fields the envelope schema asks for. -/
def OutboxEvent.Valid (event : OutboxEvent) : Prop :=
  event.eventId ≠ "" ∧ event.eventType ≠ "" ∧ 1 ≤ event.eventVersion
    ∧ event.aggregateType ≠ "" ∧ event.aggregateId ≠ "" ∧ event.correlationId ≠ ""

theorem valid_followUp {event : OutboxEvent} (h : event.Valid) {eventType orderId : String}
    {payload : Dict} {id : String} {occurredAt : DateTime} (htype : eventType ≠ "")
    (horder : orderId ≠ "") (hid : id ≠ "") :
    ((event.followUp eventType orderId payload).row id occurredAt).Valid :=
  ⟨hid, htype, Int.le_refl 1, show "Order" ≠ "" by decide, horder, h.2.2.2.2.2⟩

theorem valid_opening {order : Order} {correlationId id : String} {items : List OrderItem}
    {occurredAt : DateTime} (horder : order.id ≠ "") (hcorrelation : correlationId ≠ "")
    (hid : id ≠ "") : ((openingDraft order correlationId items).row id occurredAt).Valid :=
  ⟨hid, show "OrderCreated" ≠ "" by decide, Int.le_refl 1, show "Order" ≠ "" by decide, horder,
    hcorrelation⟩

/-- The events of the trail, handled or not. -/
def Dossier.events (d : Dossier) : List OutboxEvent := d.trail.map Prod.fst

/-- What holds of the dossier of every order. -/
structure Dossier.Regular (d : Dossier) (order : Order) : Prop where
  orders : d.orders = [order]
  order_ne : order.id ≠ ""
  positive : ∀ row ∈ d.items, 0 < row.quantity
  events : ∀ e ∈ d.events, e.Valid
  refusals : ∀ r ∈ d.refusals, r.Valid

/-- A step that keeps the order and its lines and adds valid events keeps the
dossier regular. -/
theorem Dossier.Regular.extend {d d' : Dossier} {order order' : Order} (h : d.Regular order)
    (new : List OutboxEvent) (hnew : ∀ e ∈ new, e.Valid) (horders : d'.orders = [order'])
    (hid : order'.id = order.id) (hitems : d'.items = d.items)
    (hevents : d'.events = d.events ++ new) (hrefusals : d'.refusals = []) :
    d'.Regular order' where
  orders := horders
  order_ne := by rw [hid]; exact h.order_ne
  positive := by rw [hitems]; exact h.positive
  events e he := by
    rw [hevents, List.mem_append] at he
    exact he.elim (h.events e) (hnew e)
  refusals := by rw [hrefusals]; simp

/-- A step that keeps the events as well. -/
theorem Dossier.Regular.keep {d d' : Dossier} {order order' : Order} (h : d.Regular order)
    (horders : d'.orders = [order']) (hid : order'.id = order.id) (hitems : d'.items = d.items)
    (hevents : d'.events = d.events) (hrefusals : d'.refusals = []) : d'.Regular order' :=
  h.extend [] (by simp) horders hid hitems (by rw [hevents, List.append_nil]) hrefusals

/-- A step whose event follows one of the trail. -/
theorem Dossier.Regular.followed {d d' : Dossier} {order : Order} (h : d.Regular order)
    (event : OutboxEvent) (mem : event ∈ d.events) {eventType : String} {payload : Dict}
    {id : String} {occurredAt : DateTime} (htype : eventType ≠ "") (id_ne : id ≠ "")
    (horders : d'.orders = [order]) (hitems : d'.items = d.items)
    (hevents : d'.events
      = d.events ++ [(event.followUp eventType order.id payload).row id occurredAt])
    (hrefusals : d'.refusals = []) : d'.Regular order := by
  refine h.extend [_] (fun e he => ?_) horders rfl hitems hevents hrefusals
  rw [List.mem_singleton.mp he]
  exact valid_followUp (h.events event mem) htype h.order_ne id_ne

/-- **Every dossier of an order is regular**, by induction on its life. -/
theorem Saga.regular {p : Phase} {d : Dossier} (h : Saga p d) :
    ∀ order, d.orders = [order] → d.Regular order := by
  induction h with
  | absent => intro order ho; exact nomatch ho
  | placed pending order_ne correlation_ne id_ne positive =>
      intro order ho
      obtain rfl : _ = order := by simpa using ho
      refine ⟨rfl, order_ne, positive, fun e he => ?_, by simp⟩
      rw [List.mem_singleton.mp he]
      exact valid_opening order_ne correlation_ne id_ne
  | @refused order₀ items e refusals before nonempty shape ih =>
      -- the refusals follow the opening event, as the other events follow theirs
      intro order ho
      obtain rfl : order₀ = order := by simpa using ho
      have ih := ih _ rfl
      refine ⟨rfl, ih.order_ne, ih.positive, ih.events, fun r hr => ?_⟩
      obtain ⟨reason, id, at', hid, rfl⟩ := shape r hr
      exact valid_followUp (ih.events e (by simp [Dossier.events])) (by decide) ih.order_ne hid
  | @reserved order₀ items e id at' before id_ne ih =>
      intro order ho
      obtain rfl : order₀ = order := by simpa using ho
      exact (ih _ rfl).followed e (by simp [Dossier.events]) (by decide) id_ne rfl rfl rfl rfl
  | @authorized order₀ items e₀ e₁ payment id at' before _ _ _ id_ne ih =>
      intro order ho
      obtain rfl : order₀ = order := by simpa using ho
      exact (ih _ rfl).followed e₁ (by simp [Dossier.events]) (by decide) id_ne rfl rfl rfl rfl
  | @invoiced order₀ items e₀ e₁ e₂ payment invoice id at' before _ _ _ id_ne ih =>
      intro order ho
      obtain rfl : order₀ = order := by simpa using ho
      exact (ih _ rfl).followed e₂ (by simp [Dossier.events]) (by decide) id_ne rfl rfl rfl rfl
  | @notified order₀ items e₀ e₁ e₂ e₃ payment invoice notification id at' before _ _ _ id_ne ih =>
      intro order ho
      obtain rfl : order₀ = order := by simpa using ho
      exact (ih _ rfl).followed e₃ (by simp [Dossier.events]) (by decide) id_ne rfl rfl rfl rfl
  | completed before ih =>
      intro order ho
      exact (ih _ rfl).keep ho (by simp only [List.cons.injEq, and_true] at ho; rw [← ho])
        rfl rfl rfl
  | @declined order₀ items e₀ e₁ payment id at' before _ _ _ id_ne ih =>
      intro order ho
      obtain rfl : order₀ = order := by simpa using ho
      exact (ih _ rfl).followed e₁ (by simp [Dossier.events]) (by decide) id_ne rfl rfl rfl rfl
  | @released order₀ items e₀ e₁ e₂ payment id at' before id_ne ih =>
      intro order ho
      obtain rfl : order₀ = order := by simpa using ho
      exact (ih _ rfl).followed e₂ (by simp [Dossier.events]) (by decide) id_ne rfl rfl rfl rfl
  | cancelled before ih =>
      intro order ho
      exact (ih _ rfl).keep ho (by simp only [List.cons.injEq, and_true] at ho; rw [← ho])
        rfl rfl rfl

/-! ## §5. What the phase tells. -/

/-- The event types of the trail, each with whether it is handled. -/
def Phase.trail : Phase → List (String × Bool)
  | .absent => []
  | .placed => [("OrderCreated", false)]
  | .refused => [("OrderCreated", true)]
  | .reserved => [("OrderCreated", true), ("InventoryReserved", false)]
  | .authorized => [("OrderCreated", true), ("InventoryReserved", true),
      ("PaymentAuthorized", false)]
  | .invoiced => [("OrderCreated", true), ("InventoryReserved", true),
      ("PaymentAuthorized", true), ("InvoiceCreated", false)]
  | .notified => [("OrderCreated", true), ("InventoryReserved", true),
      ("PaymentAuthorized", true), ("InvoiceCreated", true), ("NotificationSent", false)]
  | .completed => [("OrderCreated", true), ("InventoryReserved", true),
      ("PaymentAuthorized", true), ("InvoiceCreated", true), ("NotificationSent", true)]
  | .declined => [("OrderCreated", true), ("InventoryReserved", true), ("PaymentFailed", false)]
  | .released => [("OrderCreated", true), ("InventoryReserved", true), ("PaymentFailed", true),
      ("InventoryReleased", false)]
  | .cancelled => [("OrderCreated", true), ("InventoryReserved", true), ("PaymentFailed", true),
      ("InventoryReleased", true)]

/-- The type of the event the order waits for. -/
def Phase.waiting : Phase → Option String
  | .absent => none
  | .placed => some "OrderCreated"
  | .refused => none
  | .reserved => some "InventoryReserved"
  | .authorized => some "PaymentAuthorized"
  | .invoiced => some "InvoiceCreated"
  | .notified => some "NotificationSent"
  | .completed => none
  | .declined => some "PaymentFailed"
  | .released => some "InventoryReleased"
  | .cancelled => none

def Phase.status : Phase → Option OrderStatus
  | .absent => none
  | .completed => some .COMPLETED
  | .cancelled => some .CANCELLED
  | _ => some .PENDING

theorem Saga.trail_eq {p : Phase} {d : Dossier} (h : Saga p d) :
    d.trail.map (fun t => (t.1.eventType, t.2)) = p.trail := by
  -- each step handles the last event and appends its own
  induction h with
  | absent => rfl
  | placed => rfl
  | refused before _ _ ih =>
      simp only [List.map_cons, List.map_nil, Phase.trail, List.cons.injEq, Prod.mk.injEq,
        and_true] at ih ⊢
      exact ih
  | reserved before _ ih =>
      simp only [List.map_cons, List.map_nil, Phase.trail, List.cons.injEq, Prod.mk.injEq,
        and_true] at ih ⊢
      exact ⟨ih, rfl⟩
  | authorized before _ _ _ _ ih =>
      simp only [List.map_cons, List.map_nil, Phase.trail, List.cons.injEq, Prod.mk.injEq,
        and_true] at ih ⊢
      exact ⟨ih.1, ih.2, rfl⟩
  | invoiced before _ _ _ _ ih =>
      simp only [List.map_cons, List.map_nil, Phase.trail, List.cons.injEq, Prod.mk.injEq,
        and_true] at ih ⊢
      exact ⟨ih.1, ih.2.1, ih.2.2, rfl⟩
  | notified before _ _ _ _ ih =>
      simp only [List.map_cons, List.map_nil, Phase.trail, List.cons.injEq, Prod.mk.injEq,
        and_true] at ih ⊢
      exact ⟨ih.1, ih.2.1, ih.2.2.1, ih.2.2.2, rfl⟩
  | completed before ih =>
      simp only [List.map_cons, List.map_nil, Phase.trail, List.cons.injEq, Prod.mk.injEq,
        and_true] at ih ⊢
      exact ih
  | declined before _ _ _ _ ih =>
      simp only [List.map_cons, List.map_nil, Phase.trail, List.cons.injEq, Prod.mk.injEq,
        and_true] at ih ⊢
      exact ⟨ih.1, ih.2, rfl⟩
  | released before _ ih =>
      simp only [List.map_cons, List.map_nil, Phase.trail, List.cons.injEq, Prod.mk.injEq,
        and_true] at ih ⊢
      exact ⟨ih.1, ih.2.1, ih.2.2, rfl⟩
  | cancelled before ih =>
      simp only [List.map_cons, List.map_nil, Phase.trail, List.cons.injEq, Prod.mk.injEq,
        and_true] at ih ⊢
      exact ih

theorem Saga.status_eq {p : Phase} {d : Dossier} (h : Saga p d) :
    d.orders.map (·.status) = p.status.toList := by
  induction h with
  | absent => rfl
  | placed pending => simp [Phase.status, pending]
  | completed => rfl
  | cancelled => rfl
  | refused _ _ _ ih => exact ih
  | reserved _ _ ih => exact ih
  | authorized _ _ _ _ _ ih => exact ih
  | invoiced _ _ _ _ _ ih => exact ih
  | notified _ _ _ _ _ ih => exact ih
  | declined _ _ _ _ _ ih => exact ih
  | released _ _ ih => exact ih

/-- An order that exists is the only one in its dossier. -/
theorem Saga.orders_of_ne {p : Phase} {d : Dossier} (h : Saga p d) (hp : p ≠ .absent) :
    ∃ order, d.orders = [order] := by
  cases h <;> first | exact ⟨_, rfl⟩ | exact absurd rfl hp

/-- Refusals are filed in one phase only. -/
theorem Saga.refusals_eq_nil {p : Phase} {d : Dossier} (h : Saga p d) (hp : p ≠ .refused) :
    d.refusals = [] := by
  cases h <;> first | rfl | exact absurd rfl hp

/-- The phase an event type is waited for in. -/
def Phase.waitingFor : List (String × Phase) :=
  [("OrderCreated", .placed), ("InventoryReserved", .reserved),
   ("PaymentAuthorized", .authorized), ("InvoiceCreated", .invoiced),
   ("NotificationSent", .notified), ("PaymentFailed", .declined),
   ("InventoryReleased", .released)]

theorem Phase.lookup_waitingFor {p : Phase} {eventType : String}
    (h : p.waiting = some eventType) : Phase.waitingFor.lookup eventType = some p := by
  cases p <;> simp only [Phase.waiting, Option.some.injEq, reduceCtorEq] at h <;> rw [← h] <;> rfl

/-- Orders in different phases wait for events of different types. -/
theorem Phase.eq_of_waiting {p q : Phase} {eventType : String}
    (hp : p.waiting = some eventType) (hq : q.waiting = some eventType) : p = q :=
  Option.some.inj ((Phase.lookup_waitingFor hp).symm.trans (Phase.lookup_waitingFor hq))

theorem Phase.waiting_of_mem {p : Phase} {eventType : String}
    (h : (eventType, false) ∈ p.trail) : p.waiting = some eventType := by
  cases p <;> simp [Phase.trail] at h <;> rw [h] <;> rfl

theorem Phase.mem_of_waiting {p : Phase} {eventType : String}
    (h : p.waiting = some eventType) : (eventType, false) ∈ p.trail := by
  cases p <;> simp [Phase.waiting] at h <;> rw [← h] <;> simp [Phase.trail]

/-- **The unhandled event of a dossier** tells the phase. -/
theorem Saga.waiting_of_mem {p : Phase} {d : Dossier} (h : Saga p d) {e : OutboxEvent}
    (mem : (e, false) ∈ d.trail) : p.waiting = some e.eventType := by
  apply Phase.waiting_of_mem
  rw [← h.trail_eq]
  exact List.mem_map.mpr ⟨(e, false), mem, rfl⟩

/-- An order that waits has its event in the trail. -/
theorem Saga.mem_of_waiting {p : Phase} {d : Dossier} (h : Saga p d) {eventType : String}
    (hw : p.waiting = some eventType) :
    ∃ e, (e, false) ∈ d.trail ∧ e.eventType = eventType := by
  have hm := Phase.mem_of_waiting hw
  rw [← h.trail_eq, List.mem_map] at hm
  obtain ⟨⟨e, b⟩, ht, heq⟩ := hm
  simp only [Prod.mk.injEq] at heq
  obtain ⟨htype, rfl⟩ := heq
  exact ⟨e, ht, htype⟩

/-! ## §6. The waiting event, phase by phase. -/

section inversion
variable {d : Dossier} {e : OutboxEvent}

theorem Saga.placed_inv (h : Saga .placed d) (mem : (e, false) ∈ d.trail) :
    ∃ order items, d = ⟨[order], items, [(e, false)], [], [], [], []⟩
      ∧ e.eventType = "OrderCreated"
      ∧ ∃ correlationId, e.payload = (openingDraft order correlationId items).payload := by
  cases h with
  | @placed order items correlationId =>
      obtain rfl : e = _ := by simpa using mem
      exact ⟨order, items, rfl, rfl, correlationId, rfl⟩

theorem Saga.reserved_inv (h : Saga .reserved d) (mem : (e, false) ∈ d.trail) :
    ∃ order items e₀, d = ⟨[order], items, [(e₀, true), (e, false)], [], [], [], []⟩
      ∧ e.eventType = "InventoryReserved" ∧ e.payload = reservedPayload order items := by
  cases h with
  | @reserved order items e₀ =>
      obtain rfl : e = _ := by simpa using mem
      exact ⟨order, items, e₀, rfl, rfl, rfl⟩

theorem Saga.authorized_inv (h : Saga .authorized d) (mem : (e, false) ∈ d.trail) :
    ∃ order items e₀ e₁ payment,
      d = ⟨[order], items, [(e₀, true), (e₁, true), (e, false)], [], [payment], [], []⟩
      ∧ e.eventType = "PaymentAuthorized" ∧ e.payload = authorizedPayload order payment := by
  cases h with
  | @authorized order items e₀ e₁ payment =>
      obtain rfl : e = _ := by simpa using mem
      exact ⟨order, items, e₀, e₁, payment, rfl, rfl, rfl⟩

theorem Saga.invoiced_inv (h : Saga .invoiced d) (mem : (e, false) ∈ d.trail) :
    ∃ order items e₀ e₁ e₂ payment invoice,
      d = ⟨[order], items, [(e₀, true), (e₁, true), (e₂, true), (e, false)], [], [payment],
        [invoice], []⟩
      ∧ e.eventType = "InvoiceCreated" ∧ e.payload = invoicedPayload order invoice := by
  cases h with
  | @invoiced order items e₀ e₁ e₂ payment invoice =>
      obtain rfl : e = _ := by simpa using mem
      exact ⟨order, items, e₀, e₁, e₂, payment, invoice, rfl, rfl, rfl⟩

theorem Saga.notified_inv (h : Saga .notified d) (mem : (e, false) ∈ d.trail) :
    ∃ order items e₀ e₁ e₂ e₃ payment invoice notification,
      d = ⟨[order], items, [(e₀, true), (e₁, true), (e₂, true), (e₃, true), (e, false)], [],
        [payment], [invoice], [notification]⟩
      ∧ e.eventType = "NotificationSent"
      ∧ e.payload = notifiedPayload order invoice notification := by
  cases h with
  | @notified order items e₀ e₁ e₂ e₃ payment invoice notification =>
      obtain rfl : e = _ := by simpa using mem
      exact ⟨order, items, e₀, e₁, e₂, e₃, payment, invoice, notification, rfl, rfl, rfl⟩

theorem Saga.declined_inv (h : Saga .declined d) (mem : (e, false) ∈ d.trail) :
    ∃ order items e₀ e₁ payment,
      d = ⟨[order], items, [(e₀, true), (e₁, true), (e, false)], [], [payment], [], []⟩
      ∧ e.eventType = "PaymentFailed" ∧ e.payload = declinedPayload order payment items := by
  cases h with
  | @declined order items e₀ e₁ payment =>
      obtain rfl : e = _ := by simpa using mem
      exact ⟨order, items, e₀, e₁, payment, rfl, rfl, rfl⟩

theorem Saga.released_inv (h : Saga .released d) (mem : (e, false) ∈ d.trail) :
    ∃ order items e₀ e₁ e₂ payment,
      d = ⟨[order], items, [(e₀, true), (e₁, true), (e₂, true), (e, false)], [], [payment], [],
        []⟩
      ∧ e.eventType = "InventoryReleased"
      ∧ e.payload = releasedPayload order payment items := by
  cases h with
  | @released order items e₀ e₁ e₂ payment =>
      obtain rfl : e = _ := by simpa using mem
      exact ⟨order, items, e₀, e₁, e₂, payment, rfl, rfl, rfl⟩

end inversion

end EventCart
