/-
  EventCart.Saga.Advance
  ──────────────────────
  **HANDLING AN EVENT ADVANCES ONE ORDER BY ONE STEP.**

  `Advance db db' event` is the step of the abstract life of `event`'s order
  that the handler's commit takes: the phase changes as in `Phase.Step`, the
  stock moves by the order's own lines, and the dossier of every other order
  is what it was.  `handled_advance` shows it for all eight things a handler
  can do.
-/
import EventCart.Saga.Invariant

namespace EventCart

open EventCart.Lib

/-! ## §1. Markers and fresh events. -/

/-- Inbox markers belong to events of their consumer. -/
def Database.Inboxed (db : Database) : Prop :=
  ∀ row ∈ db.inboxEvents, ∃ event ∈ db.outboxEvents,
    event.eventId = row.eventId ∧ consumer? event.eventType = some row.consumerName

/-- An identifier that is not in the outbox has no marker. -/
theorem consumed_fresh (db : Database) (inboxed : db.Inboxed) {event : OutboxEvent}
    (h : ∀ other ∈ db.outboxEvents, other.eventId ≠ event.eventId) :
    db.consumed event = false := by
  unfold Database.consumed
  cases consumer? event.eventType with
  | none => rfl
  | some consumer =>
      rw [Option.any_some]
      unfold Database.processed
      rw [List.any_eq_false]
      intro row hrow hkey
      obtain ⟨other, hother, hid, -⟩ := inboxed row hrow
      simp only [InboxEvent.key, decide_eq_true_eq, Prod.mk.injEq] at hkey
      exact h other hother (hid.trans hkey.2)

/-- Handling an event marks it in the trail of its order and nowhere else. -/
theorem dossier_marked (db : Database) (keyed : (db.outboxEvents.map (·.eventId)).Nodup)
    {event : OutboxEvent} (mem : event ∈ db.outboxEvents) {consumer : String}
    (routed : consumer? event.eventType = some consumer) (processedAt : DateTime) (id : String) :
    (db.addInboxEvent ⟨consumer, event.eventId, processedAt⟩).dossier id
      = if event.aggregateId = id then
          { db.dossier id with trail := markHandled event.eventId (db.dossier id).trail }
        else db.dossier id := by
  rw [dossier_addInboxEvent db keyed mem routed]
  by_cases hid : event.aggregateId = id
  · rw [if_pos hid]
  · rw [if_neg hid, markHandled_of_absent]
    -- an event of this trail belongs to another order than `event`
    rintro ⟨e, b⟩ ht heq
    obtain ⟨other, hother, rfl, hagg, -, -⟩ := of_mem_trail ht
    have hsame : other = event := row_unique keyed hother mem heq
    exact hid (hsame ▸ hagg)

/-! ## §2. One step of one order. -/

/-- What handling `event` does, seen from the orders: its own order takes one
step, the stock moves accordingly, every other order stays as it is. -/
structure Advance (db db' : Database) (event : OutboxEvent) : Prop where
  step : ∃ p sign p', p.waiting = some event.eventType
    ∧ Saga p (db.dossier event.aggregateId) ∧ Saga p' (db'.dossier event.aggregateId)
    ∧ Phase.Step p sign p'
    ∧ db'.inventoryItems
        = (db.moveAll sign (linesOf (db.dossier event.aggregateId).items)).inventoryItems
    ∧ (p = .placed →
        db.stocks (linesOf (db.dossier event.aggregateId).items) = decide (p' = .reserved))
  items : db'.orderItems = db.orderItems
  orders : db'.orders.map (·.id) = db.orders.map (·.id)
  others : ∀ id, id ≠ event.aggregateId → db'.dossier id = db.dossier id

/-- The stock loops with sign `0` move nothing. -/
theorem moveAll_zero (lines : List Dict) (db : Database) : db.moveAll 0 lines = db := by
  rw [moveAll_eq]
  have hid : (fun row : InventoryItem => row.restocked (0 * demand row.sku lines)) = id := by
    funext row
    rw [Int.zero_mul, restocked_zero]
    rfl
  rw [hid, List.map_id]

section advance
variable {db db₁ : Database} {event : OutboxEvent} {consumer : String} {processedAt : DateTime}

/-- **A handler that emits**: its rows go into its own order's dossier, its
event becomes handled, and the new event waits behind it. -/
theorem advance_emit (inv : SagaInv db) (mem : event ∈ db.outboxEvents)
    (routed : consumer? event.eventType = some consumer) {new : OutboxEvent}
    (keyed : ((db₁.addOutboxEvent new).addInboxEvent
      ⟨consumer, event.eventId, processedAt⟩).Keyed)
    (outbox : db₁.outboxEvents = db.outboxEvents) (inbox : db₁.inboxEvents = db.inboxEvents)
    (items : db₁.orderItems = db.orderItems) (orders : db₁.orders = db.orders)
    (others : ∀ id, id ≠ event.aggregateId → db₁.dossier id = db.dossier id)
    (entry : new.entry = new) (aggregate : new.aggregateId = event.aggregateId)
    (notRefusal : new.isRefusal = false) {p p' : Phase} {sign : Int}
    (waiting : p.waiting = some event.eventType)
    (before : Saga p (db.dossier event.aggregateId))
    (after : Saga p' { db₁.dossier event.aggregateId with
      trail := markHandled event.eventId (db₁.dossier event.aggregateId).trail
        ++ [(new, false)] })
    (hstep : Phase.Step p sign p')
    (stock : db₁.inventoryItems
      = (db.moveAll sign (linesOf (db.dossier event.aggregateId).items)).inventoryItems)
    (checked : p = .placed →
      db.stocks (linesOf (db.dossier event.aggregateId).items) = decide (p' = .reserved)) :
    Advance db ((db₁.addOutboxEvent new).addInboxEvent ⟨consumer, event.eventId, processedAt⟩)
      event := by
  have mem₁ : event ∈ (db₁.addOutboxEvent new).outboxEvents := by
    show event ∈ db₁.outboxEvents ++ [new]
    rw [outbox]
    exact List.mem_append_left _ mem
  have hnodup : ((db₁.outboxEvents ++ [new]).map (·.eventId)).Nodup := keyed.outboxEvents
  have hfresh := fresh_of_nodup hnodup
  have inboxed : db₁.Inboxed := by
    unfold Database.Inboxed
    rw [outbox, inbox]
    exact inv.inbox
  have hmarked := dossier_marked _ (show ((db₁.addOutboxEvent new).outboxEvents.map _).Nodup
    from hnodup) mem₁ routed processedAt
  refine ⟨⟨p, sign, p', waiting, before, ?_, hstep, stock, checked⟩, items, by rw [← orders]; rfl,
    fun id hid => ?_⟩
  · rw [hmarked, if_pos rfl, dossier_addOutboxEvent_self aggregate notRefusal, entry,
      consumed_fresh _ inboxed hfresh]
    have hne : new.eventId ≠ event.eventId := fun h =>
      hfresh event (outbox ▸ mem) h.symm
    -- the new event is not the one that was handled
    have hmark : markHandled event.eventId
        ((db₁.dossier event.aggregateId).trail ++ [(new, false)])
        = markHandled event.eventId (db₁.dossier event.aggregateId).trail ++ [(new, false)] := by
      simp [markHandled, hne]
    rw [hmark]
    exact after
  · rw [hmarked, if_neg (Ne.symm hid), dossier_addOutboxEvent_ne (by rw [aggregate]; exact Ne.symm hid)]
    exact others id hid

/-- A projection sets the status of its order and emits nothing. -/
theorem advance_project (inv : SagaInv db) (mem : event ∈ db.outboxEvents)
    (routed : consumer? event.eventType = some consumer) {status : OrderStatus} {p p' : Phase}
    (waiting : p.waiting = some event.eventType) (unplaced : p ≠ .placed)
    (before : Saga p (db.dossier event.aggregateId))
    (after : Saga p' { db.dossier event.aggregateId with
      orders := (db.dossier event.aggregateId).orders.map fun order => { order with status }
      trail := markHandled event.eventId (db.dossier event.aggregateId).trail })
    (hstep : Phase.Step p 0 p') :
    Advance db ((db.setStatus event.aggregateId status).addInboxEvent
      ⟨consumer, event.eventId, processedAt⟩) event := by
  have hmarked := fun id => dossier_marked (db.setStatus event.aggregateId status)
    inv.keyed.outboxEvents mem routed processedAt id
  refine ⟨⟨p, 0, p', waiting, before, ?_, hstep, by rw [moveAll_zero]; rfl,
    fun hp => absurd hp unplaced⟩, rfl, ?_, fun id hid => ?_⟩
  · rw [hmarked, if_pos rfl, dossier_setStatus_self]
    exact after
  · show (update Order.id event.aggregateId _ db.orders).map Order.id = _
    apply map_update_of_eq
    intro order _
    rfl
  · rw [hmarked, if_neg (Ne.symm hid), dossier_setStatus_ne (Ne.symm hid)]

end advance

/-! ## §3. Every handler takes its step. -/

theorem strItem_unique {payload : Dict} {key v w : String}
    (written : payload.get? key = some (.str v)) (read : strItem payload key = .ok w) : v = w :=
  Except.ok.inj ((strItem_of_get? written).symm.trans read)

theorem payloadItems_unique {payload : Dict} {lines lines' : List Dict}
    (written : payload.get? "items" = some (itemsJson lines))
    (read : payloadItems payload = .ok lines') : lines = lines' :=
  Except.ok.inj ((payloadItems_of_get? written).symm.trans read)

/-- The consumer of `event` faces the event its order waits for, in phase
`p`. -/
structure Facing (db : Database) (event : OutboxEvent) (consumer : String)
    (envelope : EventEnvelope) (p : Phase) : Prop where
  inv : SagaInv db
  mem : event ∈ db.outboxEvents
  routed : consumer? event.eventType = some consumer
  waiting : p.waiting = some event.eventType
  saga : Saga p (db.dossier event.aggregateId)
  front : (event.entry, false) ∈ (db.dossier event.aggregateId).trail
  payload : envelope.payload = event.entry.payload
  draft : ∀ eventType orderId payload,
    buildResultEvent envelope eventType orderId payload
      = event.entry.followUp eventType orderId payload

/-- The type of an unprocessed event tells the phase its consumer faces. -/
theorem SagaInv.facing {db : Database} {event : OutboxEvent} {consumer : String}
    {envelope : EventEnvelope} (inv : SagaInv db) (mem : event ∈ db.outboxEvents)
    (valid : envelopeFromOutboxEvent event = .ok envelope)
    (routed : consumer? event.eventType = some consumer)
    (fresh : db.processed consumer event.eventId = false) {eventType : String} {p : Phase}
    (type : envelope.eventType = eventType) (hp : p.waiting = some eventType) :
    Facing db event consumer envelope p := by
  obtain ⟨htype, -, -, hpayload⟩ := envelope_eventType valid
  obtain ⟨q, h, hwaiting, hmem⟩ := inv.waiting mem routed fresh
  obtain rfl : q = p := Phase.eq_of_waiting hwaiting (by rw [hp, ← type, htype])
  exact ⟨inv, mem, routed, hwaiting, h, hmem, hpayload,
    fun eventType orderId payload => buildResultEvent_eq valid eventType orderId payload⟩

section handlers
variable {db : Database} {event : OutboxEvent} {consumer : String} {processedAt : DateTime}
  {envelope : EventEnvelope} {orderId : String} {id : String} {occurredAt : DateTime}

/-- The single order of a dossier carries the dossier's identifier. -/
theorem order_id_eq {order : Order} {items : List OrderItem}
    {trail : List (OutboxEvent × Bool)} {refusals : List OutboxEvent} {payments : List Payment}
    {invoices : List Invoice} {notifications : List Notification}
    (hd : db.dossier event.aggregateId
      = ⟨[order], items, trail, refusals, payments, invoices, notifications⟩) :
    order.id = event.aggregateId :=
  (of_mem_orders (show order ∈ _ by rw [hd]; simp)).2

theorem advance_reserved (hf : Facing db event consumer envelope .placed) {lines : List Dict}
    (order : strItem envelope.payload "order_id" = .ok orderId)
    (items : payloadItems envelope.payload = .ok lines)
    (stocks : db.stocks lines = true) (id_ne : id ≠ "")
    (keyed : (((db.moveAll (-1) lines).addOutboxEvent
      ((reservedDraft envelope orderId lines).row id occurredAt)).addInboxEvent
        ⟨consumer, event.eventId, processedAt⟩).Keyed) :
    Advance db (((db.moveAll (-1) lines).addOutboxEvent
      ((reservedDraft envelope orderId lines).row id occurredAt)).addInboxEvent
        ⟨consumer, event.eventId, processedAt⟩) event := by
  have h := hf.saga
  obtain ⟨o, rows, hd, -, correlationId, hp⟩ := h.placed_inv hf.front
  have hpay := hf.payload.trans hp
  have ho := order_id_eq hd
  obtain rfl : o.id = orderId := strItem_unique (by rw [hpay]; rfl) order
  obtain rfl : linesOf rows = lines := payloadItems_unique (by rw [hpay]; rfl) items
  have hmark : markHandled event.eventId [(event.entry, false)] = [(event.entry, true)] := by
    simp [markHandled]
  refine advance_emit hf.inv hf.mem hf.routed keyed (by rw [moveAll_eq]) (by rw [moveAll_eq])
    (by rw [moveAll_eq]) (by rw [moveAll_eq]) (fun id _ => dossier_moveAll _ _ _ _) rfl ho rfl
    hf.waiting h ?_ .reserve (by rw [hd]) (fun _ => by rw [hd]; exact stocks)
  rw [dossier_moveAll, hd]
  show Saga .reserved ⟨[o], rows, markHandled event.eventId [(event.entry, false)] ++ _, [], [],
    [], []⟩
  rw [hmark, reservedDraft, hf.draft]
  exact .reserved (hd ▸ h) id_ne

/-- A refusal is filed beside the trail, where replays can multiply it. -/
theorem advance_refused (hf : Facing db event consumer envelope .placed) {lines : List Dict}
    {reason : String} (order : strItem envelope.payload "order_id" = .ok orderId)
    (items : payloadItems envelope.payload = .ok lines)
    (stocks : db.stocks lines = false) (id_ne : id ≠ "")
    (keyed : ((db.addOutboxEvent
      ((refusalDraft envelope orderId reason lines).row id occurredAt)).addInboxEvent
        ⟨consumer, event.eventId, processedAt⟩).Keyed) :
    Advance db ((db.addOutboxEvent
      ((refusalDraft envelope orderId reason lines).row id occurredAt)).addInboxEvent
        ⟨consumer, event.eventId, processedAt⟩) event := by
  have h := hf.saga
  obtain ⟨o, rows, hd, -, correlationId, hp⟩ := h.placed_inv hf.front
  have hpay := hf.payload.trans hp
  have ho := order_id_eq hd
  obtain rfl : o.id = orderId := strItem_unique (by rw [hpay]; rfl) order
  obtain rfl : linesOf rows = lines := payloadItems_unique (by rw [hpay]; rfl) items
  have hmark : markHandled event.eventId [(event.entry, false)] = [(event.entry, true)] := by
    simp [markHandled]
  have hnodup : ((db.outboxEvents ++ [(refusalDraft envelope o.id reason
      (linesOf rows)).row id occurredAt]).map (·.eventId)).Nodup := keyed.outboxEvents
  have hmarked := dossier_marked (db.addOutboxEvent ((refusalDraft envelope o.id reason
    (linesOf rows)).row id occurredAt)) hnodup (List.mem_append_left _ hf.mem) hf.routed
    processedAt
  refine ⟨⟨.placed, 0, .refused, hf.waiting, h, ?_, .refuse, by rw [moveAll_zero]; rfl,
    fun _ => by rw [hd]; exact stocks⟩, rfl, rfl, fun id' hid => ?_⟩
  · rw [hmarked, if_pos rfl, dossier_addOutboxEvent_refusal ho rfl, hd]
    show Saga .refused ⟨[o], rows, markHandled event.eventId [(event.entry, false)], [_], [],
      [], []⟩
    rw [hmark]
    refine .refused (hd ▸ h) (by simp) fun r hr => ?_
    obtain rfl := List.mem_singleton.mp hr
    exact ⟨reason, id, occurredAt, id_ne, by rw [refusalDraft, hf.draft]; rfl⟩
  · rw [hmarked, if_neg (Ne.symm hid),
      dossier_addOutboxEvent_ne (show o.id ≠ id' by rw [ho]; exact Ne.symm hid)]

/-- Both outcomes of a payment: one row, and the event that tells of it. -/
theorem advance_paid (hf : Facing db event consumer envelope .reserved) {payment : Payment}
    (order : strItem envelope.payload "order_id" = .ok orderId)
    (payment_order : payment.orderId = orderId)
    (payment_amount : payment.amountCents = amountCents envelope.payload) (id_ne : id ≠ "")
    (keyed : (((db.addPayment payment).addOutboxEvent
      ((paymentDraft envelope orderId payment).row id occurredAt)).addInboxEvent
        ⟨consumer, event.eventId, processedAt⟩).Keyed) :
    Advance db (((db.addPayment payment).addOutboxEvent
      ((paymentDraft envelope orderId payment).row id occurredAt)).addInboxEvent
        ⟨consumer, event.eventId, processedAt⟩) event := by
  have h := hf.saga
  obtain ⟨o, rows, e₀, hd, -, hp⟩ := h.reserved_inv hf.front
  have hpay := hf.payload.trans hp
  have ho := order_id_eq hd
  obtain rfl : o.id = orderId := strItem_unique (by rw [hpay]; rfl) order
  have hamount : payment.amountCents = totalCents rows :=
    payment_amount.trans (amountCents_of_get? (by rw [hpay]; rfl))
  have hmark : markHandled event.eventId [(e₀, true), (event.entry, false)]
      = [(e₀, true), (event.entry, true)] := by simp [markHandled]
  have hself : (db.addPayment payment).dossier event.aggregateId = _ :=
    dossier_addPayment_self (payment_order.trans ho)
  have hothers : ∀ id', id' ≠ event.aggregateId →
      (db.addPayment payment).dossier id' = db.dossier id' := fun id' hid =>
    dossier_addPayment_ne (by rw [payment_order, ho]; exact Ne.symm hid)
  -- the status decides which of the two events follows
  cases hs : payment.status with
  | AUTHORIZED =>
      have hnew : paymentDraft envelope o.id payment = event.entry.followUp
          "PaymentAuthorized" o.id (authorizedPayload o payment) := by
        unfold paymentDraft
        rw [hs]
        exact hf.draft _ _ _
      rw [hnew] at keyed ⊢
      refine advance_emit hf.inv hf.mem hf.routed keyed rfl rfl rfl rfl hothers rfl ho rfl
        hf.waiting h ?_ .authorize (by rw [moveAll_zero]; rfl) (by simp)
      rw [hself, hd]
      show Saga .authorized ⟨[o], rows, markHandled event.eventId [(e₀, true),
        (event.entry, false)] ++ _, [], [payment], [], []⟩
      rw [hmark]
      exact .authorized (hd ▸ h) payment_order hs hamount id_ne
  | FAILED =>
      have hnew : paymentDraft envelope o.id payment = event.entry.followUp
          "PaymentFailed" o.id (declinedPayload o payment rows) := by
        unfold paymentDraft
        rw [hs, hpay, hf.draft]
        rfl
      rw [hnew] at keyed ⊢
      refine advance_emit hf.inv hf.mem hf.routed keyed rfl rfl rfl rfl hothers rfl ho rfl
        hf.waiting h ?_ .decline (by rw [moveAll_zero]; rfl) (by simp)
      rw [hself, hd]
      show Saga .declined ⟨[o], rows, markHandled event.eventId [(e₀, true),
        (event.entry, false)] ++ _, [], [payment], [], []⟩
      rw [hmark]
      exact .declined (hd ▸ h) payment_order hs hamount id_ne

theorem advance_invoiced (hf : Facing db event consumer envelope .authorized)
    {paymentId : String} {amount : PyInt} {invoice : Invoice}
    (order : strItem envelope.payload "order_id" = .ok orderId)
    (payment : strItem envelope.payload "payment_id" = .ok paymentId)
    (value : intPayloadValue envelope.payload "amount_cents" = .ok amount)
    (invoice_order : invoice.orderId = orderId) (invoice_payment : invoice.paymentId = paymentId)
    (invoice_amount : invoice.amountCents = amount.num) (id_ne : id ≠ "")
    (keyed : (((db.addInvoice invoice).addOutboxEvent
      ((invoiceDraft envelope invoice amount.value).row id occurredAt)).addInboxEvent
        ⟨consumer, event.eventId, processedAt⟩).Keyed) :
    Advance db (((db.addInvoice invoice).addOutboxEvent
      ((invoiceDraft envelope invoice amount.value).row id occurredAt)).addInboxEvent
        ⟨consumer, event.eventId, processedAt⟩) event := by
  have h := hf.saga
  obtain ⟨o, rows, e₀, e₁, paid, hd, -, hp⟩ := h.authorized_inv hf.front
  have hpay := hf.payload.trans hp
  have ho := order_id_eq hd
  obtain rfl : o.id = orderId := strItem_unique (by rw [hpay]; rfl) order
  obtain rfl : paid.id = paymentId := strItem_unique (by rw [hpay]; rfl) payment
  obtain rfl : (⟨.int paid.amountCents, paid.amountCents, rfl⟩ : PyInt) = amount :=
    Except.ok.inj ((intPayloadValue_of_get? (by rw [hpay]; rfl)).symm.trans value)
  have hmark : markHandled event.eventId [(e₀, true), (e₁, true), (event.entry, false)]
      = [(e₀, true), (e₁, true), (event.entry, true)] := by simp [markHandled]
  have hnew : invoiceDraft envelope invoice (.int paid.amountCents)
      = event.entry.followUp "InvoiceCreated" o.id (invoicedPayload o invoice) := by
    unfold invoiceDraft
    rw [hf.draft, invoice_order, invoicedPayload, invoice_amount]
  rw [hnew] at keyed ⊢
  refine advance_emit hf.inv hf.mem hf.routed keyed rfl rfl rfl rfl (fun id' hid =>
    dossier_addInvoice_ne (by rw [invoice_order, ho]; exact Ne.symm hid)) rfl ho rfl
    hf.waiting h ?_ .invoice (by rw [moveAll_zero]; rfl) (by simp)
  rw [dossier_addInvoice_self (invoice_order.trans ho), hd]
  show Saga .invoiced ⟨[o], rows, markHandled event.eventId [(e₀, true), (e₁, true),
    (event.entry, false)] ++ _, [], [paid], [invoice], []⟩
  rw [hmark]
  exact .invoiced (hd ▸ h) invoice_order invoice_payment invoice_amount id_ne

theorem advance_notified (hf : Facing db event consumer envelope .invoiced)
    {invoiceId notificationId : String} {sentAt createdAt : DateTime}
    (order : strItem envelope.payload "order_id" = .ok orderId)
    (invoice : strItem envelope.payload "invoice_id" = .ok invoiceId) (id_ne : id ≠ "")
    (keyed : (((db.addNotification (invoiceNotification envelope.payload orderId invoiceId
        notificationId sentAt createdAt)).addOutboxEvent
      ((notificationDraft envelope orderId invoiceId notificationId).row id
        occurredAt)).addInboxEvent ⟨consumer, event.eventId, processedAt⟩).Keyed) :
    Advance db (((db.addNotification (invoiceNotification envelope.payload orderId invoiceId
        notificationId sentAt createdAt)).addOutboxEvent
      ((notificationDraft envelope orderId invoiceId notificationId).row id
        occurredAt)).addInboxEvent ⟨consumer, event.eventId, processedAt⟩) event := by
  have h := hf.saga
  obtain ⟨o, rows, e₀, e₁, e₂, payment, billed, hd, -, hp⟩ := h.invoiced_inv hf.front
  have hpay := hf.payload.trans hp
  have ho := order_id_eq hd
  obtain rfl : o.id = orderId := strItem_unique (by rw [hpay]; rfl) order
  obtain rfl : billed.id = invoiceId := strItem_unique (by rw [hpay]; rfl) invoice
  have hmark : markHandled event.eventId [(e₀, true), (e₁, true), (e₂, true),
      (event.entry, false)] = [(e₀, true), (e₁, true), (e₂, true), (event.entry, true)] := by
    simp [markHandled]
  have hnew : notificationDraft envelope o.id billed.id notificationId
      = event.entry.followUp "NotificationSent" o.id (notifiedPayload o billed
          (invoiceNotification envelope.payload o.id billed.id notificationId sentAt
            createdAt)) := by
    unfold notificationDraft
    rw [hf.draft]
    rfl
  rw [hnew] at keyed ⊢
  refine advance_emit hf.inv hf.mem hf.routed keyed rfl rfl rfl rfl (fun id' hid =>
    dossier_addNotification_ne (show o.id ≠ id' by rw [ho]; exact Ne.symm hid)) rfl ho rfl
    hf.waiting h ?_ .notify (by rw [moveAll_zero]; rfl) (by simp)
  rw [dossier_addNotification_self ho, hd]
  show Saga .notified ⟨[o], rows, markHandled event.eventId [(e₀, true), (e₁, true),
    (e₂, true), (event.entry, false)] ++ _, [], [payment], [billed], [_]⟩
  rw [hmark]
  exact .notified (hd ▸ h) rfl (by rw [hpay]; rfl) (by rw [hpay]; rfl) id_ne

theorem advance_completed (hf : Facing db event consumer envelope .notified)
    (order : strItem envelope.payload "order_id" = .ok orderId) :
    Advance db ((db.setStatus orderId .COMPLETED).addInboxEvent
      ⟨consumer, event.eventId, processedAt⟩) event := by
  have h := hf.saga
  obtain ⟨o, rows, e₀, e₁, e₂, e₃, payment, invoice, notification, hd, -, hp⟩ :=
    h.notified_inv hf.front
  have hpay := hf.payload.trans hp
  have ho := order_id_eq hd
  obtain rfl : event.aggregateId = orderId :=
    ho.symm.trans (strItem_unique (by rw [hpay]; rfl) order)
  have hmark : markHandled event.eventId [(e₀, true), (e₁, true), (e₂, true), (e₃, true),
      (event.entry, false)]
      = [(e₀, true), (e₁, true), (e₂, true), (e₃, true), (event.entry, true)] := by
    simp [markHandled]
  refine advance_project hf.inv hf.mem hf.routed hf.waiting (by simp) h ?_ .complete
  rw [hd]
  show Saga .completed ⟨[{ o with status := .COMPLETED }], rows,
    markHandled event.eventId [(e₀, true), (e₁, true), (e₂, true), (e₃, true),
      (event.entry, false)], [], [payment], [invoice], [notification]⟩
  rw [hmark]
  exact .completed (hd ▸ h)

theorem advance_released (hf : Facing db event consumer envelope .declined) {lines : List Dict}
    (order : strItem envelope.payload "order_id" = .ok orderId)
    (items : payloadItems envelope.payload = .ok lines) (id_ne : id ≠ "")
    (keyed : (((db.moveAll 1 lines).addOutboxEvent
      ((releasedDraft envelope orderId lines).row id occurredAt)).addInboxEvent
        ⟨consumer, event.eventId, processedAt⟩).Keyed) :
    Advance db (((db.moveAll 1 lines).addOutboxEvent
      ((releasedDraft envelope orderId lines).row id occurredAt)).addInboxEvent
        ⟨consumer, event.eventId, processedAt⟩) event := by
  have h := hf.saga
  obtain ⟨o, rows, e₀, e₁, payment, hd, -, hp⟩ := h.declined_inv hf.front
  have hpay := hf.payload.trans hp
  have ho := order_id_eq hd
  obtain rfl : o.id = orderId := strItem_unique (by rw [hpay]; rfl) order
  obtain rfl : linesOf rows = lines := payloadItems_unique (by rw [hpay]; rfl) items
  have hmark : markHandled event.eventId [(e₀, true), (e₁, true), (event.entry, false)]
      = [(e₀, true), (e₁, true), (event.entry, true)] := by simp [markHandled]
  have hnew : releasedDraft envelope o.id (linesOf rows)
      = event.entry.followUp "InventoryReleased" o.id (releasedPayload o payment rows) := by
    unfold releasedDraft
    rw [hf.draft, hpay]
    rfl
  rw [hnew] at keyed ⊢
  refine advance_emit hf.inv hf.mem hf.routed keyed (by rw [moveAll_eq]) (by rw [moveAll_eq])
    (by rw [moveAll_eq]) (by rw [moveAll_eq]) (fun id' _ => dossier_moveAll _ _ _ _) rfl ho rfl
    hf.waiting h ?_ .release (by rw [hd]) (by simp)
  rw [dossier_moveAll, hd]
  show Saga .released ⟨[o], rows, markHandled event.eventId [(e₀, true), (e₁, true),
    (event.entry, false)] ++ _, [], [payment], [], []⟩
  rw [hmark]
  exact .released (hd ▸ h) id_ne

theorem advance_cancelled (hf : Facing db event consumer envelope .released)
    (order : strItem envelope.payload "order_id" = .ok orderId) :
    Advance db ((db.setStatus orderId .CANCELLED).addInboxEvent
      ⟨consumer, event.eventId, processedAt⟩) event := by
  have h := hf.saga
  obtain ⟨o, rows, e₀, e₁, e₂, payment, hd, -, hp⟩ := h.released_inv hf.front
  have hpay := hf.payload.trans hp
  have ho := order_id_eq hd
  obtain rfl : event.aggregateId = orderId :=
    ho.symm.trans (strItem_unique (by rw [hpay]; rfl) order)
  have hmark : markHandled event.eventId [(e₀, true), (e₁, true), (e₂, true),
      (event.entry, false)] = [(e₀, true), (e₁, true), (e₂, true), (event.entry, true)] := by
    simp [markHandled]
  refine advance_project hf.inv hf.mem hf.routed hf.waiting (by simp) h ?_ .cancel
  rw [hd]
  show Saga .cancelled ⟨[{ o with status := .CANCELLED }], rows,
    markHandled event.eventId [(e₀, true), (e₁, true), (e₂, true), (event.entry, false)], [],
    [payment], [], []⟩
  rw [hmark]
  exact .cancelled (hd ▸ h)

/-- **Handling an event advances its order by one step.** -/
theorem handled_advance {db' : Database} (inv : SagaInv db) (mem : event ∈ db.outboxEvents)
    (valid : envelopeFromOutboxEvent event = .ok envelope)
    (routed : consumer? event.eventType = some consumer)
    (fresh : db.processed consumer event.eventId = false) (handled : Handled envelope db db')
    (keyed : (db'.addInboxEvent ⟨consumer, event.eventId, processedAt⟩).Keyed) :
    Advance db (db'.addInboxEvent ⟨consumer, event.eventId, processedAt⟩) event := by
  cases handled with
  | reserved type order items stocks id_ne =>
      exact advance_reserved (inv.facing mem valid routed fresh type rfl) order items stocks id_ne
        keyed
  | refused type order items stocks id_ne =>
      exact advance_refused (inv.facing mem valid routed fresh type rfl) order items stocks id_ne
        keyed
  | paid type order payment_order payment_amount payment_reason id_ne =>
      exact advance_paid (inv.facing mem valid routed fresh type rfl) order payment_order
        payment_amount id_ne keyed
  | invoiced type order payment value invoice_order invoice_payment invoice_amount id_ne =>
      exact advance_invoiced (inv.facing mem valid routed fresh type rfl) order payment value
        invoice_order invoice_payment invoice_amount id_ne keyed
  | notified type order invoice id_ne =>
      exact advance_notified (inv.facing mem valid routed fresh type rfl) order invoice id_ne keyed
  | completed type order =>
      exact advance_completed (inv.facing mem valid routed fresh type rfl) order
  | released type order items id_ne =>
      exact advance_released (inv.facing mem valid routed fresh type rfl) order items id_ne keyed
  | cancelled type order =>
      exact advance_cancelled (inv.facing mem valid routed fresh type rfl) order

end handlers

end EventCart
