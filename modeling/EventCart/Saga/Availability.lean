/-
  EventCart.Saga.Availability
  ───────────────────────────
  **NOTHING ENDS IN A DATABASE ERROR** on a sound database.

  The handlers write rows under identifiers they draw, an inbox marker they
  have looked for, and updates that leave every key alone.  So when the
  database executes every statement and `uuid4()` does not repeat itself, no
  flush of theirs fails: whatever the payloads, a handler returns or raises an
  exception of its own.  The default handlers are ordinary
  (`sagaHandlers_ordinary`).

    §1  one lemma for each body;
    §2  the handlers, and the inbox around them.
-/
import EventCart.Dispatchers.Ordinary
import EventCart.Saga.Amounts

namespace EventCart

open EventCart.Lib
open EventCart.Lib.Tx

/-! ## §1. The bodies. -/

section bodies
variable {P : Database → Prop} {E : PyError → Session Database → Prop}

/-- An event is emitted under a fresh identifier. -/
theorem meets_emit (emits : ∀ db event, P db → P (db.addOutboxEvent event)) (draft : EventDraft) :
    Meets (Sane P) (emit draft) (fun _ => Sane P) E := by
  have hadd : Meets (Sane P) (addEvent draft) (fun _ => Sane P) E :=
    meets_uuid4.bind fun id => meets_now.bind fun occurredAt =>
      (meets_addOutboxEvent emits draft id occurredAt).bind fun _ => meets_pure _ fun _ hs => hs
  have hnotify : Meets (Sane P) notifyOutboxEvent (fun _ => Sane P) E := by
    refine meets_flush.bind fun _ => meets_dialect.bind fun name => ?_
    split
    · exact meets_pure _ fun _ hs => hs
    · exact meets_statement.bind fun _ => meets_pure _ fun _ hs => hs
  exact hadd.bind fun _ => hnotify.bind fun _ => meets_pure _ fun _ hs => hs

theorem keyed_addNotification {db : Database} (keyed : db.Keyed) {row : Notification}
    (fresh : ∀ other ∈ db.notifications, other.id ≠ row.id) : (db.addNotification row).Keyed :=
  { keyed with notifications := nodup_insert keyed.notifications fresh }

theorem orderIds_setStatus (db : Database) (orderId : String) (status : OrderStatus) :
    (db.setStatus orderId status).orders.map (·.id) = db.orders.map (·.id) := by
  unfold Database.setStatus
  apply map_update_of_eq
  exact fun _ _ => rfl

theorem keyed_setStatus {db : Database} (keyed : db.Keyed) (orderId : String)
    (status : OrderStatus) : (db.setStatus orderId status).Keyed := by
  have hids := orderIds_setStatus db orderId status
  refine { keyed with orders := hids ▸ keyed.orders, orderItemsOrders := fun row hrow => ?_ }
  -- a line still finds its order: the update moves no order
  obtain ⟨order, mem, hid⟩ := keyed.orderItemsOrders row hrow
  have hmem : row.orderId ∈ (db.setStatus orderId status).orders.map (·.id) := by
    rw [hids, ← hid]
    exact List.mem_map_of_mem mem
  obtain ⟨order', mem', hid'⟩ := List.mem_map.mp hmem
  exact ⟨order', mem', hid'⟩

theorem itemIds_addStock (db : Database) (sku : String) (amount : Int) :
    (db.addStock sku amount).inventoryItems.map (·.id) = db.inventoryItems.map (·.id) := by
  unfold Database.addStock
  apply map_update_of_eq
  exact fun _ _ => rfl

theorem keyed_addStock {db : Database} (keyed : db.Keyed) (sku : String) (amount : Int) :
    (db.addStock sku amount).Keyed := by
  have hids := itemIds_addStock db sku amount
  have hskus : (db.addStock sku amount).inventoryItems.map (·.sku)
      = db.inventoryItems.map (·.sku) := by
    unfold Database.addStock
    apply map_update_of_eq
    exact fun _ _ => rfl
  exact { keyed with inventoryItems := hids ▸ keyed.inventoryItems, skus := hskus ▸ keyed.skus }

theorem meets_addStock (stable : Stable P) (sku : String) (amount : Int) :
    Meets (Sane P) (write (·.addStock sku amount)) (fun _ => Sane P) E := by
  refine meets_update stable (fun db keyed => keyed_addStock keyed sku amount) (fun _ => rfl)
    (fun _ => rfl) (fun _ => rfl) fun db => ?_
  unfold Database.ids
  rw [itemIds_addStock]
  rfl

theorem meets_loadInventoryItems (lines : List Dict) :
    Meets (Sane P) (loadInventoryItems lines) (fun _ => Sane P) fun _ => Sane P := by
  refine (meets_read _).bind fun skus => ?_
  refine ((meets_query _).post fun _ _ hs => hs.imp fun _ h => h.1).bind fun rows => ?_
  split
  · exact meets_pure _ fun _ hs => hs
  · exact meets_raise _ fun _ hs => hs

theorem meets_moveStock (stable : Stable P) (sign : Int) (rows : List InventoryItem)
    (lines : List Dict) :
    Meets (Sane P) (moveStock sign rows lines) (fun _ => Sane P) fun _ => Sane P :=
  meets_forM lines fun _ _ => (meets_read _).bind fun _ => (meets_read _).bind fun _ =>
    (meets_read _).bind fun row => meets_addStock stable row.sku _

theorem meets_reserveInventory (stable : Stable P) (event : EventEnvelope) :
    Meets (Sane P) (reserveInventory event) (fun _ => Sane P) fun _ => Sane P := by
  refine (meets_read _).bind fun orderId => (meets_read _).bind fun lines => ?_
  -- a refusal of the stock check is caught; nothing was written before it
  have hcheck : Meets (Sane P) (checkStock lines) (fun _ => Sane P) fun _ => Sane P :=
    Meets.attempt ((meets_loadInventoryItems lines).bind fun rows => (meets_read _).bind fun _ =>
      meets_pure rows fun _ hs => hs) (fun _ _ hs => hs) (fun _ _ _ _ hs => hs)
      fun _ _ _ hs => hs
  refine hcheck.bind fun checked => ?_
  -- refused: one event. Accepted: the stock moves, then one event
  cases checked with
  | inl reason => exact meets_emit stable.emits _
  | inr rows => exact (meets_moveStock stable (-1) rows lines).bind fun _ => meets_emit stable.emits _

theorem meets_releaseInventory (stable : Stable P) (event : EventEnvelope) :
    Meets (Sane P) (releaseInventory event) (fun _ => Sane P) fun _ => Sane P :=
  (meets_read _).bind fun _ => (meets_read _).bind fun lines =>
    (meets_loadInventoryItems lines).bind fun rows =>
      (meets_moveStock stable 1 rows lines).bind fun _ => meets_emit stable.emits _

theorem meets_addPayment (stable : Stable P) (orderId : String) (status : PaymentStatus)
    (amount : Int) (failureReason : Option String) :
    Meets (Sane P) (addPayment orderId status amount failureReason) (fun _ => Sane P) E := by
  refine meets_uuid4.bind fun id => meets_now.bind fun createdAt => Meets.bind ?_ fun _ =>
    meets_flush.bind fun _ => meets_pure _ fun _ hs => hs
  apply meets_addRow stable id
  · intro db keyed spare
    exact keyed_addPayment keyed (ne_of_spare (fun _ h => mem_ids.mpr (by tauto)) spare)
  · exact fun _ => rfl
  · exact fun _ => rfl
  · exact fun _ => rfl
  · intro db other hother
    simp only [mem_ids, Database.addPayment, List.map_append, List.map_cons, List.map_nil,
      List.mem_append, List.mem_singleton] at hother ⊢
    tauto

theorem meets_authorizePayment (stable : Stable P) (event : EventEnvelope) :
    Meets (Sane P) (authorizePayment event) (fun _ => Sane P) fun _ => Sane P := by
  refine (meets_read _).bind fun orderId => ?_
  split
  · exact (meets_addPayment stable _ _ _ _).bind fun _ => meets_emit stable.emits _
  · exact (meets_addPayment stable _ _ _ _).bind fun _ => meets_emit stable.emits _

theorem meets_createInvoice (stable : Stable P) (event : EventEnvelope) :
    Meets (Sane P) (createInvoice event) (fun _ => Sane P) fun _ => Sane P := by
  refine (meets_read _).bind fun orderId => (meets_read _).bind fun paymentId =>
    (meets_read _).bind fun amount => meets_uuid4.bind fun id => meets_now.bind fun createdAt =>
      Meets.bind ?_ fun _ => meets_flush.bind fun _ => meets_emit stable.emits _
  apply meets_addRow stable id
  · intro db keyed spare
    exact keyed_addInvoice keyed (ne_of_spare (fun _ h => mem_ids.mpr (by tauto)) spare)
  · exact fun _ => rfl
  · exact fun _ => rfl
  · exact fun _ => rfl
  · intro db other hother
    simp only [mem_ids, Database.addInvoice, List.map_append, List.map_cons, List.map_nil,
      List.mem_append, List.mem_singleton] at hother ⊢
    tauto

theorem meets_sendInvoiceNotification (stable : Stable P) (event : EventEnvelope) :
    Meets (Sane P) (sendInvoiceNotification event) (fun _ => Sane P) fun _ => Sane P := by
  refine (meets_read _).bind fun orderId => (meets_read _).bind fun invoiceId =>
    meets_uuid4.bind fun id => meets_now.bind fun sentAt => meets_now.bind fun createdAt =>
      Meets.bind ?_ fun _ => meets_flush.bind fun _ => meets_emit stable.emits _
  apply meets_addRow stable id
  · intro db keyed spare
    exact keyed_addNotification keyed (ne_of_spare (fun _ h => mem_ids.mpr (by tauto)) spare)
  · exact fun _ => rfl
  · exact fun _ => rfl
  · exact fun _ => rfl
  · intro db other hother
    simp only [mem_ids, Database.addNotification, List.map_append, List.map_cons, List.map_nil,
      List.mem_append, List.mem_singleton] at hother ⊢
    tauto

theorem meets_markOrder (stable : Stable P) (status : OrderStatus) (event : EventEnvelope) :
    Meets (Sane P) (markOrder status event) (fun _ => Sane P) fun _ => Sane P := by
  refine (meets_read _).bind fun orderId => ?_
  refine ((meets_query _).post fun _ _ hs => hs.imp fun _ h => h.1).bind fun found => ?_
  -- the order may be missing, and then the handler raises
  cases found with
  | none => exact meets_raise _ fun _ hs => hs
  | some order =>
      refine Meets.bind ?_ fun _ => meets_flush.bind fun _ => meets_pure _ fun _ hs => hs
      refine meets_update stable (fun db keyed => keyed_setStatus keyed orderId status)
        (fun _ => rfl) (fun _ => rfl) (fun _ => rfl) fun db => ?_
      unfold Database.ids
      rw [orderIds_setStatus]
      rfl

end bodies

/-! ## §2. The handlers. -/

/-- An event its consumer has not processed, in a batch. -/
def Taking (consumerName eventId : String) (eventIds : List String) (db : Database) : Prop :=
  db.processed consumerName eventId = false ∧ db.Books eventIds

theorem stable_taking (consumerName eventId : String) (eventIds : List String) :
    Stable (Taking consumerName eventId eventIds) := by
  rintro db db' inbox attempts outbox ⟨fresh, books⟩
  refine ⟨?_, stable_books eventIds db db' inbox attempts outbox books⟩
  unfold Database.processed
  rw [inbox]
  exact fresh

section handlers
variable {eventIds : List String} {E : PyError → Session Database → Prop}

/-- **A handler returns or raises**, when its body does: the marker goes in
because the inbox was looked up first. -/
theorem meets_handleOnce {α : Type} {consumerName : String} {body : EventEnvelope → App α}
    {event : EventEnvelope}
    (hbody : Meets (Sane (Taking consumerName event.eventId eventIds)) (body event)
      (fun _ => Sane (Taking consumerName event.eventId eventIds))
      fun _ => Sane (Taking consumerName event.eventId eventIds)) :
    Meets (Sane (Database.Books eventIds)) (handleOnce consumerName body event)
      (fun _ => Sane (Database.Books eventIds)) fun _ => Sane (Database.Books eventIds) := by
  have honce : Meets (Sane (Database.Books eventIds)) (processOnce consumerName event body)
      (fun _ => Sane (Database.Books eventIds)) fun _ => Sane (Database.Books eventIds) := by
    refine (meets_query _).bind fun processed => ?_
    -- processed before: nothing is done
    cases processed with
    | true => exact meets_pure _ fun _ hs => hs.imp fun _ h => h.1
    | false =>
        have hfresh : Meets (On Database.ids [] fun db => db.Books eventIds
              ∧ false = db.processed consumerName event.eventId) (body event)
            (fun _ => Sane (Taking consumerName event.eventId eventIds))
            fun _ => Sane (Database.Books eventIds) :=
          hbody.weaken (fun _ hs => hs.imp fun _ h => ⟨h.2.symm, h.1⟩) (fun _ _ hs => hs)
            fun _ _ hs => hs.imp fun _ h => h.2
        refine hfresh.bind fun result => meets_now.bind fun processedAt => Meets.bind ?_ fun _ =>
          meets_flush.bind fun _ => meets_pure _ fun _ hs => hs
        -- the marker: the inbox was looked up before the body, which left it alone
        apply meets_write
        intro db admitted hP _ _
        have keyed := keyed_addInboxEvent ((admits_iff db).mp admitted) hP.1 processedAt
        exact ⟨(admits_iff _).mpr keyed, ⟨hP.2.lists, hP.2.counted⟩, fun id hid => .inl hid⟩
  -- committed after the body ran, left alone after a duplicate
  refine honce.bind fun result => ?_
  split
  · exact meets_commit.bind fun _ => meets_pure _ fun _ hs => hs
  · exact meets_pure _ fun _ hs => hs

/-- What a handler gives back is dropped. -/
theorem meets_discard {α : Type} {P : Session Database → Prop}
    {handler : EventEnvelope → App (Option α)} {event : EventEnvelope}
    (h : Meets P (handler event) (fun _ => P) fun _ => P) :
    Meets P (discard handler event) (fun _ => P) fun _ => P :=
  h.bind fun _ => meets_pure _ fun _ hs => hs

/-- **Every routed handler** returns or raises. -/
theorem meets_registered {paymentFails : String → Bool} {eventType : String}
    {registration : EventHandlerRegistration}
    (h : (sagaHandlers paymentFails).lookup eventType = some registration)
    (event : EventEnvelope) :
    Meets (Sane (Database.Books eventIds)) (registration.handler event)
      (fun _ => Sane (Database.Books eventIds)) fun _ => Sane (Database.Books eventIds) := by
  have stable : ∀ consumerName eventId, Stable (Taking consumerName eventId eventIds) :=
    fun consumerName eventId => stable_taking consumerName eventId eventIds
  -- one case for each registration, in the order of the table
  refine sagaHandlers_rule (P := fun _ registration => ∀ event,
    Meets (Sane (Database.Books eventIds)) (registration.handler event)
      (fun _ => Sane (Database.Books eventIds)) fun _ => Sane (Database.Books eventIds))
    ?_ ?_ ?_ ?_ ?_ ?_ ?_ h event
  · exact fun event => meets_discard (meets_handleOnce (meets_reserveInventory (stable _ _) event))
  · exact fun event => meets_discard (meets_handleOnce (meets_authorizePayment (stable _ _) _))
  · exact fun event => meets_discard (meets_handleOnce (meets_createInvoice (stable _ _) event))
  · exact fun event =>
      meets_discard (meets_handleOnce (meets_sendInvoiceNotification (stable _ _) event))
  · exact fun event => meets_discard (meets_handleOnce (meets_markOrder (stable _ _) _ event))
  · exact fun event => meets_discard (meets_handleOnce (meets_releaseInventory (stable _ _) event))
  · exact fun event => meets_discard (meets_handleOnce (meets_markOrder (stable _ _) _ event))

/-- **The default handlers are ordinary.** -/
theorem sagaHandlers_ordinary (paymentFails : String → Bool) :
    (sagaHandlers paymentFails).Ordinary :=
  fun _ _ h envelope _ => meets_registered h envelope

end handlers

end EventCart
