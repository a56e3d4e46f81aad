/-
  EventCart.Saga.Invariant
  ────────────────────────
  **EVERY COMMITTED DATABASE CONSISTS OF SAGAS.**

  `SagaInv` ties the tables together: every order's rows form a dossier of
  its life, inbox markers belong to events of their consumer, a published
  event is a handled one, and only refusals fail or become dead letters.

    §1  lines and payloads read back what was written;
    §2  the invariant, and what it says about a pending event (`ready`).
-/
import EventCart.Saga.Dossier

namespace EventCart

open EventCart.Lib

/-! ## §1. Lines and payloads. -/

section line
variable (row : OrderItem)

@[simp] theorem hasSku_line : hasSku row.line = true := rfl
@[simp] theorem lineSku_line : lineSku row.line = row.sku := rfl
@[simp] theorem hasQuantity_line : hasQuantity row.line = true := rfl
@[simp] theorem lineQuantity_line : lineQuantity row.line = row.quantity := rfl
@[simp] theorem lineCents_line :
    lineCents (.obj row.line) = row.quantity * row.unitPriceCents := rfl

end line

theorem dicts_obj : ∀ lines : List Dict, dicts (lines.map .obj) = lines
  | [] => rfl
  | line :: lines => by
      show line :: dicts (lines.map .obj) = line :: lines
      rw [dicts_obj lines]

/-- The lines put into a payload are the ones read from it. -/
theorem payloadItems_of_get? {payload : Dict} {lines : List Dict}
    (h : payload.get? "items" = some (itemsJson lines)) :
    payloadItems payload = .ok lines := by
  unfold payloadItems
  rw [h]
  show Except.ok (dicts (lines.map .obj)) = _
  rw [dicts_obj]

theorem amountCents_of_get? {payload : Dict} {items : List OrderItem}
    (h : payload.get? "items" = some (itemsJson (linesOf items))) :
    amountCents payload = totalCents items := by
  unfold amountCents
  rw [h]
  show (((linesOf items).map Json.obj).map lineCents).sum = _
  unfold linesOf totalCents
  rw [List.map_map, List.map_map]
  rfl

theorem strItem_of_get? {payload : Dict} {key value : String}
    (h : payload.get? key = some (.str value)) : strItem payload key = .ok value := by
  unfold strItem item
  rw [h]
  rfl

theorem intPayloadValue_of_get? {payload : Dict} {key : String} {n : Int}
    (h : payload.get? key = some (.int n)) :
    intPayloadValue payload key = .ok ⟨.int n, n, rfl⟩ := by
  unfold intPayloadValue item
  rw [h]
  rfl

theorem demand_linesOf (sku : String) (items : List OrderItem) :
    demand sku (linesOf items) = ((items.filter (·.sku = sku)).map (·.quantity)).sum := by
  unfold demand linesOf
  rw [List.filter_map, List.map_map]
  rfl

/-- An event built by a handler follows up on the event it handled. -/
theorem buildResultEvent_eq {event : OutboxEvent} {envelope : EventEnvelope}
    (h : envelopeFromOutboxEvent event = .ok envelope) (eventType orderId : String)
    (payload : Dict) :
    buildResultEvent envelope eventType orderId payload
      = event.entry.followUp eventType orderId payload := by
  obtain ⟨-, hid, hcorrelation, -⟩ := envelope_eventType h
  unfold buildResultEvent OutboxEvent.followUp
  rw [hid, hcorrelation]
  rfl

/-! ## §2. The invariant. -/

/-- The tables hang together. -/
structure Filed (db : Database) : Prop where
  dossiers : ∀ id, ∃ p, Saga p (db.dossier id)
  inbox : ∀ row ∈ db.inboxEvents, ∃ event ∈ db.outboxEvents,
    event.eventId = row.eventId ∧ consumer? event.eventType = some row.consumerName
  published : ∀ event ∈ db.outboxEvents, event.status = .PUBLISHED → db.consumed event = true
  failed : ∀ event ∈ db.outboxEvents, event.status = .FAILED → event.isRefusal = true
  deadLetters : ∀ row ∈ db.deadLetters, ∃ event ∈ db.outboxEvents,
    event.isRefusal = true ∧ event.draft = row.draft
  onSale : ∀ row ∈ db.orderItems, row.sku ∈ db.inventoryItems.map (·.sku)

structure SagaInv (db : Database) : Prop extends Filed db where
  keyed : db.Keyed

/-- A routed event is no refusal. -/
theorem not_refusal_of_routed {event : OutboxEvent} {consumer : String}
    (h : consumer? event.eventType = some consumer) : event.isRefusal = false := by
  apply isRefusal_of_ne
  intro htype
  have hnone : consumer? refusalType = none := rfl
  rw [htype, hnone] at h
  cases h

/-- An event that was not consumed is neither published nor given up. -/
theorem SagaInv.pending_of_unconsumed {db : Database} (inv : SagaInv db) {event : OutboxEvent}
    (mem : event ∈ db.outboxEvents) (hnot : event.isRefusal = false)
    (fresh : db.consumed event = false) : event.status = .PENDING := by
  cases hstatus : event.status with
  | PENDING => rfl
  | PUBLISHED =>
      have hdone := inv.published event mem hstatus
      rw [fresh] at hdone
      cases hdone
  | FAILED =>
      have href := inv.failed event mem hstatus
      rw [hnot] at href
      cases href

/-- Every type of a trail is routed. -/
theorem Phase.routed_of_mem {p : Phase} {eventType : String} {b : Bool}
    (h : (eventType, b) ∈ p.trail) : ∃ consumer, consumer? eventType = some consumer := by
  cases p <;> simp only [Phase.trail, List.mem_cons, List.not_mem_nil, Prod.mk.injEq,
    or_false] at h <;> aesop

theorem SagaInv.event {db : Database} (inv : SagaInv db) {event : OutboxEvent}
    (mem : event ∈ db.outboxEvents) :
    event.Valid ∧ (event.isRefusal = true
      ∨ ∃ consumer, consumer? event.eventType = some consumer) := by
  obtain ⟨p, h⟩ := inv.dossiers event.aggregateId
  cases hr : event.isRefusal with
  | true =>
      have hmem := mem_refusals mem hr
      by_cases hp : p = .refused
      · subst hp
        generalize db.dossier event.aggregateId = d at h hmem
        cases h with
        | refused before nonempty shape =>
            have hreg := (Saga.refused before nonempty shape).regular _ rfl
            exact ⟨hreg.refusals event.entry hmem, .inl rfl⟩
      · rw [h.refusals_eq_nil hp] at hmem
        exact nomatch hmem
  | false =>
      have hmem := mem_trail mem hr
      have htype : (event.eventType, db.consumed event) ∈ p.trail := by
        rw [← h.trail_eq]
        exact List.mem_map.mpr ⟨_, hmem, rfl⟩
      have hp : p ≠ .absent := by
        rintro rfl
        exact nomatch htype
      obtain ⟨order, ho⟩ := h.orders_of_ne hp
      have hv := (h.regular order ho).events event.entry (List.mem_map.mpr ⟨_, hmem, rfl⟩)
      exact ⟨hv, .inr (Phase.routed_of_mem htype)⟩

/-- A routed event that was not processed is the one its order waits for. -/
theorem SagaInv.waiting {db : Database} (inv : SagaInv db) {event : OutboxEvent}
    (mem : event ∈ db.outboxEvents) {consumer : String}
    (routed : consumer? event.eventType = some consumer)
    (fresh : db.processed consumer event.eventId = false) :
    ∃ p, Saga p (db.dossier event.aggregateId) ∧ p.waiting = some event.eventType
      ∧ (event.entry, false) ∈ (db.dossier event.aggregateId).trail := by
  obtain ⟨p, h⟩ := inv.dossiers event.aggregateId
  have hmem := mem_trail mem (not_refusal_of_routed routed)
  rw [consumed_of_routed routed, fresh] at hmem
  have hwaiting := h.waiting_of_mem hmem
  exact ⟨p, h, hwaiting, hmem⟩

/-- The order and lines of a dossier are rows of the tables. -/
theorem of_mem_orders {db : Database} {id : String} {order : Order}
    (h : order ∈ (db.dossier id).orders) : order ∈ db.orders ∧ order.id = id := by
  obtain ⟨hmem, hid⟩ := List.mem_filter.mp h
  exact ⟨hmem, by simpa using hid⟩

theorem of_mem_items {db : Database} {id : String} {row : OrderItem}
    (h : row ∈ (db.dossier id).items) : row ∈ db.orderItems ∧ row.orderId = id := by
  obtain ⟨hmem, hid⟩ := List.mem_filter.mp h
  exact ⟨hmem, by simpa using hid⟩

/-- The lines of an order are known to the inventory. -/
theorem SagaInv.knows {db : Database} (inv : SagaInv db) (id : String) :
    db.knows (linesOf (db.dossier id).items) = true := by
  rw [knows_iff]
  intro line hl
  obtain ⟨row, hrow, rfl⟩ := List.mem_map.mp hl
  refine ⟨rfl, ?_⟩
  obtain ⟨item, hitem, hsku⟩ := List.mem_map.mp (inv.onSale row (of_mem_items hrow).1)
  rw [← Option.isSome_iff_exists]
  unfold Database.findInventoryItem
  rw [List.find?_isSome]
  exact ⟨item, hitem, decide_eq_true hsku⟩

theorem hasQuantity_linesOf (items : List OrderItem) :
    (linesOf items).all hasQuantity = true := by
  simp [linesOf]

theorem hasSku_linesOf (items : List OrderItem) : (linesOf items).all hasSku = true := by
  simp [linesOf]

theorem findOrder_of_mem {db : Database} {order : Order} (mem : order ∈ db.orders) :
    (db.findOrder order.id).isSome = true := by
  unfold Database.findOrder
  rw [List.find?_isSome]
  exact ⟨order, mem, by simp⟩

/-- A payload is sound when it satisfies the clause of its event type. -/
theorem sound_of (orderId : String) {event : EventEnvelope} {db : Database}
    {eventType : String} (type : event.eventType = eventType)
    (order : event.payload.get? "order_id" = some (.str orderId))
    (created : eventType = "OrderCreated" →
      ∃ lines, payloadItems event.payload = .ok lines ∧ lines.all hasSku = true)
    (authorized : eventType = "PaymentAuthorized" →
      (∃ paymentId, strItem event.payload "payment_id" = .ok paymentId)
        ∧ ∃ amount, intPayloadValue event.payload "amount_cents" = .ok amount)
    (invoiced : eventType = "InvoiceCreated" →
      ∃ invoiceId, strItem event.payload "invoice_id" = .ok invoiceId)
    (failed : eventType = "PaymentFailed" →
      ∃ lines, payloadItems event.payload = .ok lines ∧ db.knows lines = true
        ∧ lines.all hasQuantity = true)
    (projected : eventType = "NotificationSent" ∨ eventType = "InventoryReleased" →
      (db.findOrder orderId).isSome = true) : Sound event db := by
  subst type
  exact ⟨orderId, strItem_of_get? order, created, authorized, invoiced, failed, projected⟩

/-- **No handler of a pending saga event raises.** -/
theorem SagaInv.sound {db : Database} (inv : SagaInv db) {event : OutboxEvent}
    (mem : event ∈ db.outboxEvents) {envelope : EventEnvelope} {consumer : String}
    (valid : envelopeFromOutboxEvent event = .ok envelope)
    (routed : consumer? event.eventType = some consumer)
    (fresh : db.processed consumer event.eventId = false) : Sound envelope db := by
  obtain ⟨htype, -, -, hpayload⟩ := envelope_eventType valid
  obtain ⟨p, h, hwaiting, hmem⟩ := inv.waiting mem routed fresh
  have hpay : envelope.payload = event.entry.payload := hpayload
  -- the payload is the one that the phase has put on the trail
  cases p with
  | absent => exact nomatch hwaiting
  | refused => exact nomatch hwaiting
  | completed => exact nomatch hwaiting
  | cancelled => exact nomatch hwaiting
  | placed =>
      obtain ⟨order, items, hd, het, correlationId, hp⟩ := h.placed_inv hmem
      rw [hp] at hpay
      refine sound_of order.id (htype.trans het) (by rw [hpay]; rfl)
        (fun _ => ⟨linesOf items, payloadItems_of_get? (by rw [hpay]; rfl), hasSku_linesOf items⟩)
        ?_ ?_ ?_ ?_ <;> intro hne <;> simp at hne
  | reserved =>
      obtain ⟨order, items, e₀, hd, het, hp⟩ := h.reserved_inv hmem
      rw [hp] at hpay
      refine sound_of order.id (htype.trans het) (by rw [hpay]; rfl)
        ?_ ?_ ?_ ?_ ?_ <;> intro hne <;> simp at hne
  | authorized =>
      obtain ⟨order, items, e₀, e₁, payment, hd, het, hp⟩ := h.authorized_inv hmem
      rw [hp] at hpay
      refine sound_of order.id (htype.trans het) (by rw [hpay]; rfl) ?_
        (fun _ => ⟨⟨payment.id, strItem_of_get? (by rw [hpay]; rfl)⟩, _,
          intPayloadValue_of_get? (n := payment.amountCents) (by rw [hpay]; rfl)⟩)
        ?_ ?_ ?_ <;> intro hne <;> simp at hne
  | invoiced =>
      obtain ⟨order, items, e₀, e₁, e₂, payment, invoice, hd, het, hp⟩ := h.invoiced_inv hmem
      rw [hp] at hpay
      refine sound_of order.id (htype.trans het) (by rw [hpay]; rfl) ?_ ?_
        (fun _ => ⟨invoice.id, strItem_of_get? (by rw [hpay]; rfl)⟩)
        ?_ ?_ <;> intro hne <;> simp at hne
  | notified =>
      obtain ⟨order, items, e₀, e₁, e₂, e₃, payment, invoice, notification, hd, het, hp⟩ :=
        h.notified_inv hmem
      rw [hp] at hpay
      have ho : order ∈ (db.dossier event.aggregateId).orders := by rw [hd]; simp
      refine sound_of order.id (htype.trans het) (by rw [hpay]; rfl)
        ?_ ?_ ?_ ?_ (fun _ => findOrder_of_mem (of_mem_orders ho).1) <;> intro hne <;> simp at hne
  | declined =>
      obtain ⟨order, items, e₀, e₁, payment, hd, het, hp⟩ := h.declined_inv hmem
      rw [hp] at hpay
      have hknows := inv.knows event.aggregateId
      rw [hd] at hknows
      refine sound_of order.id (htype.trans het) (by rw [hpay]; rfl) ?_ ?_ ?_
        (fun _ => ⟨linesOf items, payloadItems_of_get? (by rw [hpay]; rfl), hknows,
          hasQuantity_linesOf items⟩)
        ?_ <;> intro hne <;> simp at hne
  | released =>
      obtain ⟨order, items, e₀, e₁, e₂, payment, hd, het, hp⟩ := h.released_inv hmem
      rw [hp] at hpay
      have ho : order ∈ (db.dossier event.aggregateId).orders := by rw [hd]; simp
      refine sound_of order.id (htype.trans het) (by rw [hpay]; rfl)
        ?_ ?_ ?_ ?_ (fun _ => findOrder_of_mem (of_mem_orders ho).1) <;> intro hne <;> simp at hne

/-- **The pending events of a saga are ready.** -/
theorem SagaInv.ready {db : Database} (inv : SagaInv db) : Ready db where
  valid event mem := by
    obtain ⟨hv, -⟩ := inv.event mem
    unfold envelopeFromOutboxEvent
    exact ⟨_, dif_pos hv⟩
  sound event mem envelope consumer valid routed fresh := inv.sound mem valid routed fresh

end EventCart
