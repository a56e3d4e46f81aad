/-
  EventCart.Saga.Dossier
  ──────────────────────
  **THE DOSSIER OF AN ORDER IN THE TABLES.**

  `Database.dossier` collects the rows of one order.  Each row update of the
  workers changes the dossier of one order in one place and leaves every
  other dossier alone; the lemmas come in pairs, `_self` and `_ne`.
-/
import EventCart.Saga.Lifecycle
import EventCart.Saga.System

namespace EventCart

open EventCart.Lib

/-! ## §1. Reading a dossier. -/

/-- The event's consumer processed it. -/
def Database.consumed (db : Database) (event : OutboxEvent) : Bool :=
  (consumer? event.eventType).any fun consumer => db.processed consumer event.eventId

def OutboxEvent.isRefusal (event : OutboxEvent) : Bool := event.eventType = refusalType

/-- A routed event is consumed when its consumer processed it. -/
theorem consumed_of_routed {db : Database} {event : OutboxEvent} {consumer : String}
    (routed : consumer? event.eventType = some consumer) :
    db.consumed event = db.processed consumer event.eventId := by
  unfold Database.consumed
  rw [routed]
  rfl

theorem isRefusal_of_ne {event : OutboxEvent} (h : event.eventType ≠ refusalType) :
    event.isRefusal = false := decide_eq_false h

theorem type_of_isRefusal {event : OutboxEvent} (h : event.isRefusal = true) :
    event.eventType = refusalType := of_decide_eq_true h

def Database.dossier (id : String) (db : Database) : Dossier :=
  { orders := db.orders.filter (·.id = id)
    items := db.itemsOf id
    trail := (db.outboxEvents.filter fun event =>
        event.aggregateId = id && !event.isRefusal).map
      fun event => (event.entry, db.consumed event)
    refusals := (db.outboxEvents.filter fun event =>
        event.aggregateId = id && event.isRefusal).map OutboxEvent.entry
    payments := db.payments.filter (·.orderId = id)
    invoices := db.invoices.filter (·.orderId = id)
    notifications := db.notifications.filter (·.orderId = id) }

/-- An event that is no refusal is in the trail of its order. -/
theorem mem_trail {db : Database} {event : OutboxEvent} (mem : event ∈ db.outboxEvents)
    (h : event.isRefusal = false) :
    (event.entry, db.consumed event) ∈ (db.dossier event.aggregateId).trail := by
  refine List.mem_map.mpr ⟨event, List.mem_filter.mpr ⟨mem, ?_⟩, rfl⟩
  simp [h]

theorem mem_refusals {db : Database} {event : OutboxEvent} (mem : event ∈ db.outboxEvents)
    (h : event.isRefusal = true) :
    event.entry ∈ (db.dossier event.aggregateId).refusals := by
  refine List.mem_map.mpr ⟨event, List.mem_filter.mpr ⟨mem, ?_⟩, rfl⟩
  simp [h]

/-- What is in a trail is an event of the outbox. -/
theorem of_mem_trail {db : Database} {id : String} {e : OutboxEvent} {b : Bool}
    (h : (e, b) ∈ (db.dossier id).trail) :
    ∃ event ∈ db.outboxEvents, event.entry = e ∧ event.aggregateId = id
      ∧ event.isRefusal = false ∧ db.consumed event = b := by
  obtain ⟨event, hmem, heq⟩ := List.mem_map.mp h
  obtain ⟨hmem, hp⟩ := List.mem_filter.mp hmem
  simp only [Bool.and_eq_true, decide_eq_true_eq, Bool.not_eq_true'] at hp
  simp only [Prod.mk.injEq] at heq
  exact ⟨event, hmem, heq.1, hp.1, hp.2, heq.2⟩

theorem mem_dossier_orders {db : Database} {order : Order} (mem : order ∈ db.orders) :
    order ∈ (db.dossier order.id).orders :=
  List.mem_filter.mpr ⟨mem, by simp⟩

/-! ## §2. Rows that are in no dossier. -/

section unrelated
variable (id : String) (db : Database)

theorem dossier_updateDeadLetter (key : String) (f : DeadLetterEvent → DeadLetterEvent) :
    (db.updateDeadLetter key f).dossier id = db.dossier id := rfl

theorem dossier_moveAll (sign : Int) (lines : List Dict) :
    (db.moveAll sign lines).dossier id = db.dossier id := by
  rw [moveAll_eq]
  rfl

/-- Delivery bookkeeping is in no dossier. -/
theorem dossier_updateOutboxEvent (eventId : String) {f : OutboxEvent → OutboxEvent}
    (hf : ∀ event, (f event).entry = event.entry) :
    (db.updateOutboxEvent eventId f).dossier id = db.dossier id := by
  have haggregate : ∀ event, (f event).aggregateId = event.aggregateId := by
    intro event
    show (f event).entry.aggregateId = event.entry.aggregateId
    rw [hf]
  have htype : ∀ event, (f event).eventType = event.eventType := by
    intro event
    show (f event).entry.eventType = event.entry.eventType
    rw [hf]
  have hid : ∀ event, (f event).eventId = event.eventId := by
    intro event
    show (f event).entry.eventId = event.entry.eventId
    rw [hf]
  refine Dossier.ext rfl rfl ?_ ?_ rfl rfl rfl
  · show ((update _ eventId f db.outboxEvents).filter _).map _ = _
    rw [filter_update_of_eq (fun event _ => by
      simp only [OutboxEvent.isRefusal, haggregate, htype])]
    exact map_update_of_eq (fun event _ => by
      simp only [hf, Database.consumed, htype, hid]) _
  · show ((update _ eventId f db.outboxEvents).filter _).map _ = _
    rw [filter_update_of_eq (fun event _ => by
      simp only [OutboxEvent.isRefusal, haggregate, htype])]
    exact map_update_of_eq (fun event _ => hf event) _

end unrelated

/-! ## §3. Rows of one order. -/

section rows
variable {id : String} {db : Database}

/-- Appending a row to a filtered table. -/
theorem filter_append_self {ρ : Type} {p : ρ → Bool} {row : ρ} (h : p row = true)
    (rows : List ρ) : (rows ++ [row]).filter p = rows.filter p ++ [row] := by
  rw [List.filter_append, List.filter_cons_of_pos h]
  rfl

theorem filter_append_ne {ρ : Type} {p : ρ → Bool} {row : ρ} (h : p row = false)
    (rows : List ρ) : (rows ++ [row]).filter p = rows.filter p := by
  rw [List.filter_append, List.filter_cons_of_neg (by simp [h])]
  simp

theorem dossier_addPayment_self {row : Payment} (h : row.orderId = id) :
    (db.addPayment row).dossier id
      = { db.dossier id with payments := (db.dossier id).payments ++ [row] } := by
  show Dossier.mk _ _ _ _ ((db.payments ++ [row]).filter _) _ _ = _
  rw [filter_append_self (by simpa using h)]
  rfl

theorem dossier_addPayment_ne {row : Payment} (h : row.orderId ≠ id) :
    (db.addPayment row).dossier id = db.dossier id := by
  show Dossier.mk _ _ _ _ ((db.payments ++ [row]).filter _) _ _ = _
  rw [filter_append_ne (by simpa using h)]
  rfl

theorem dossier_addInvoice_self {row : Invoice} (h : row.orderId = id) :
    (db.addInvoice row).dossier id
      = { db.dossier id with invoices := (db.dossier id).invoices ++ [row] } := by
  show Dossier.mk _ _ _ _ _ ((db.invoices ++ [row]).filter _) _ = _
  rw [filter_append_self (by simpa using h)]
  rfl

theorem dossier_addInvoice_ne {row : Invoice} (h : row.orderId ≠ id) :
    (db.addInvoice row).dossier id = db.dossier id := by
  show Dossier.mk _ _ _ _ _ ((db.invoices ++ [row]).filter _) _ = _
  rw [filter_append_ne (by simpa using h)]
  rfl

theorem dossier_addNotification_self {row : Notification} (h : row.orderId = id) :
    (db.addNotification row).dossier id
      = { db.dossier id with notifications := (db.dossier id).notifications ++ [row] } := by
  show Dossier.mk _ _ _ _ _ _ ((db.notifications ++ [row]).filter _) = _
  rw [filter_append_self (by simpa using h)]
  rfl

theorem dossier_addNotification_ne {row : Notification} (h : row.orderId ≠ id) :
    (db.addNotification row).dossier id = db.dossier id := by
  show Dossier.mk _ _ _ _ _ _ ((db.notifications ++ [row]).filter _) = _
  rw [filter_append_ne (by simpa using h)]
  rfl

theorem dossier_addOutboxEvent_self {event : OutboxEvent} (h : event.aggregateId = id)
    (hr : event.isRefusal = false) :
    (db.addOutboxEvent event).dossier id = { db.dossier id with
      trail := (db.dossier id).trail ++ [(event.entry, db.consumed event)] } := by
  show Dossier.mk _ _ (((db.outboxEvents ++ [event]).filter _).map _)
    (((db.outboxEvents ++ [event]).filter _).map _) _ _ _ = _
  rw [filter_append_self (by simp [h, hr]), filter_append_ne (by simp [hr]), List.map_append]
  rfl

theorem dossier_addOutboxEvent_refusal {event : OutboxEvent} (h : event.aggregateId = id)
    (hr : event.isRefusal = true) :
    (db.addOutboxEvent event).dossier id = { db.dossier id with
      refusals := (db.dossier id).refusals ++ [event.entry] } := by
  show Dossier.mk _ _ (((db.outboxEvents ++ [event]).filter _).map _)
    (((db.outboxEvents ++ [event]).filter _).map _) _ _ _ = _
  rw [filter_append_ne (by simp [hr]), filter_append_self (by simp [h, hr]), List.map_append]
  rfl

theorem dossier_addOutboxEvent_ne {event : OutboxEvent} (h : event.aggregateId ≠ id) :
    (db.addOutboxEvent event).dossier id = db.dossier id := by
  show Dossier.mk _ _ (((db.outboxEvents ++ [event]).filter _).map _)
    (((db.outboxEvents ++ [event]).filter _).map _) _ _ _ = _
  rw [filter_append_ne (by simp [h]), filter_append_ne (by simp [h])]
  rfl

theorem dossier_setStatus_self (status : OrderStatus) :
    (db.setStatus id status).dossier id = { db.dossier id with
      orders := (db.dossier id).orders.map fun order => { order with status } } := by
  refine Dossier.ext ?_ rfl rfl rfl rfl rfl rfl
  show (update _ id _ db.orders).filter _ = _
  rw [filter_update_of_eq (fun order h => by simp)]
  unfold update
  apply List.map_congr_left
  intro order ho
  have : order.id = id := by simpa using (List.mem_filter.mp ho).2
  rw [if_pos this]

theorem dossier_setStatus_ne {orderId : String} (h : orderId ≠ id) (status : OrderStatus) :
    (db.setStatus orderId status).dossier id = db.dossier id := by
  show Dossier.mk ((update _ orderId _ db.orders).filter _) _ _ _ _ _ _ = _
  rw [filter_update_of_eq (fun order h => by simp), update_of_absent]
  · rfl
  · intro order ho
    have : order.id = id := by simpa using (List.mem_filter.mp ho).2
    rw [this]
    exact Ne.symm h

theorem dossier_addOrder_self {order : Order} {items : List OrderItem} (h : order.id = id)
    (hitems : ∀ row ∈ items, row.orderId = order.id) :
    (db.addOrder order items).dossier id = { db.dossier id with
      orders := (db.dossier id).orders ++ [order]
      items := (db.dossier id).items ++ items } := by
  refine Dossier.ext ?_ ?_ rfl rfl rfl rfl rfl
  · exact filter_append_self (by simpa using h) _
  · show (db.orderItems ++ items).filter _ = _
    have hall : items.filter (·.orderId = id) = items :=
      List.filter_eq_self.mpr fun row hr => by simp [hitems row hr, h]
    rw [List.filter_append, hall]
    rfl

theorem dossier_addOrder_ne {order : Order} {items : List OrderItem} (h : order.id ≠ id)
    (hitems : ∀ row ∈ items, row.orderId = order.id) :
    (db.addOrder order items).dossier id = db.dossier id := by
  refine Dossier.ext ?_ ?_ rfl rfl rfl rfl rfl
  · exact filter_append_ne (by simpa using h) _
  · show (db.orderItems ++ items).filter _ = _
    have hnone : items.filter (·.orderId = id) = [] :=
      List.filter_eq_nil_iff.mpr fun row hr => by simp [hitems row hr, h]
    rw [List.filter_append, hnone, List.append_nil]
    rfl

end rows

/-! ## §4. The inbox. -/

theorem processed_addInboxEvent (row : InboxEvent) (consumer eventId : String)
    (db : Database) :
    (db.addInboxEvent row).processed consumer eventId
      = (db.processed consumer eventId || decide (row.key = (consumer, eventId))) := by
  unfold Database.processed Database.addInboxEvent
  rw [List.any_append]
  simp

/-- A marker makes its event consumed, and no other one. -/
theorem consumed_addInboxEvent {db : Database} {event other : OutboxEvent} {consumer : String}
    (routed : consumer? event.eventType = some consumer) (processedAt : DateTime)
    (h : other.eventId = event.eventId → other.eventType = event.eventType) :
    (db.addInboxEvent ⟨consumer, event.eventId, processedAt⟩).consumed other
      = (db.consumed other || decide (other.eventId = event.eventId)) := by
  unfold Database.consumed
  by_cases hid : other.eventId = event.eventId
  · rw [h hid, routed]
    simp [processed_addInboxEvent, InboxEvent.key, hid]
  · cases consumer? other.eventType with
    | none => simp [hid]
    | some c =>
        have : ¬ event.eventId = other.eventId := Ne.symm hid
        simp [processed_addInboxEvent, InboxEvent.key, hid, this]

/-- The trail with one event handled. -/
def markHandled (eventId : String) (trail : List (OutboxEvent × Bool)) :
    List (OutboxEvent × Bool) :=
  trail.map fun t => (t.1, t.2 || decide (t.1.eventId = eventId))

theorem dossier_addInboxEvent (db : Database) (keyed : (db.outboxEvents.map (·.eventId)).Nodup)
    {event : OutboxEvent} (mem : event ∈ db.outboxEvents) {consumer : String}
    (routed : consumer? event.eventType = some consumer) (processedAt : DateTime)
    (id : String) :
    (db.addInboxEvent ⟨consumer, event.eventId, processedAt⟩).dossier id
      = { db.dossier id with trail := markHandled event.eventId (db.dossier id).trail } := by
  refine Dossier.ext rfl rfl ?_ rfl rfl rfl rfl
  unfold Database.dossier markHandled
  rw [List.map_map]
  apply List.map_congr_left
  intro other hother
  have hmem : other ∈ db.outboxEvents := (List.mem_filter.mp hother).1
  rw [consumed_addInboxEvent routed processedAt fun hid =>
    congrArg OutboxEvent.eventType (row_unique keyed hmem mem hid)]
  rfl

/-- In the trail of another order nothing is handled. -/
theorem markHandled_of_absent {eventId : String} {trail : List (OutboxEvent × Bool)}
    (h : ∀ t ∈ trail, t.1.eventId ≠ eventId) : markHandled eventId trail = trail := by
  unfold markHandled
  rw [List.map_congr_left (g := id), List.map_id]
  intro t ht
  simp [h t ht]

end EventCart
