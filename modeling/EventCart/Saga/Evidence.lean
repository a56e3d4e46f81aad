/-
  EventCart.Saga.Evidence
  ───────────────────────
  **WHAT A CUSTOMER IS CHARGED, TOLD AND LEFT WITH.**

  The amount of a payment, an invoice and a notification is never read from
  the order: it is recomputed or copied from payload to payload.  The life of
  an order says where each copy came from, so the theorems about all tables
  are read off the phase of one order.

    §1  every amount is the total of the order's lines (`charged_as_ordered`);
    §2  a notification's address: the payloads never carry it
        (`addressed_while_unannounced`, `notification_unaddressed`);
    §3  the rows behind a final status (`status_backed`).
-/
import EventCart.Saga.Arrivals
import EventCart.Saga.Completion

namespace EventCart

open EventCart.Lib
open EventCart.Lib.Tx

/-- The dossier of a row's order has the order in it. -/
theorem order_of_dossier {db : Database} {id : String} {p : Phase} (h : Saga p (db.dossier id))
    (hp : p ≠ .absent) : ∃ order ∈ db.orders, order.id = id := by
  obtain ⟨order, ho⟩ := h.orders_of_ne hp
  exact ⟨order, of_mem_orders (show order ∈ (db.dossier id).orders by rw [ho]; simp)⟩

/-! ## §1. Amounts. -/

/-- Every order is charged, billed and told the total of its lines. -/
structure Database.Charged (db : Database) : Prop where
  payments : ∀ payment ∈ db.payments, (∃ order ∈ db.orders, order.id = payment.orderId)
    ∧ payment.amountCents = totalCents (db.itemsOf payment.orderId)
  invoices : ∀ invoice ∈ db.invoices, (∃ order ∈ db.orders, order.id = invoice.orderId)
    ∧ invoice.amountCents = totalCents (db.itemsOf invoice.orderId)
  notifications : ∀ notification ∈ db.notifications,
    (∃ order ∈ db.orders, order.id = notification.orderId)
    ∧ notification.payload.get? "amount_cents"
        = some (.int (totalCents (db.itemsOf notification.orderId)))

/-- The amounts of a dossier, by induction on the life of its order. -/
theorem Saga.amounts {p : Phase} {d : Dossier} (h : Saga p d) :
    (∀ payment ∈ d.payments, payment.amountCents = totalCents d.items)
      ∧ (∀ invoice ∈ d.invoices, invoice.amountCents = totalCents d.items)
      ∧ ∀ notification ∈ d.notifications,
          notification.payload.get? "amount_cents" = some (.int (totalCents d.items)) := by
  induction h with
  | absent => simp
  | placed => simp
  | refused => simp
  | reserved => simp
  | authorized before _ _ amount _ _ => simp [amount]
  | declined before _ _ amount _ _ => simp [amount]
  | @invoiced order items e₀ e₁ e₂ payment invoice id at' before _ _ amount _ ih =>
      have hpayment : payment.amountCents = totalCents items := ih.1 payment (by simp)
      refine ⟨ih.1, ?_, by simp⟩
      intro row hrow
      rw [List.mem_singleton.mp hrow, amount, hpayment]
  | @notified order items e₀ e₁ e₂ e₃ payment invoice notification id at' before _ _ payload _ ih =>
      have hinvoice : invoice.amountCents = totalCents items := ih.2.1 invoice (by simp)
      refine ⟨ih.1, ih.2.1, ?_⟩
      intro row hrow
      rw [List.mem_singleton.mp hrow, payload, hinvoice]
      rfl
  | completed before ih => exact ih
  | released before _ ih => exact ih
  | cancelled before ih => exact ih

theorem SagaInv.charged {db : Database} (inv : SagaInv db) : db.Charged := by
  -- a row in the dossier of `id` is a row of an order that exists
  have hexists : ∀ id, ∀ {p : Phase}, Saga p (db.dossier id) →
      ((db.dossier id).payments ≠ [] ∨ (db.dossier id).invoices ≠ []
        ∨ (db.dossier id).notifications ≠ []) → ∃ order ∈ db.orders, order.id = id := by
    intro id p h hrow
    refine order_of_dossier h ?_
    rintro rfl
    generalize db.dossier id = d at h hrow
    cases h
    simp at hrow
  constructor
  · intro payment mem
    obtain ⟨p, h⟩ := inv.dossiers payment.orderId
    have hin : payment ∈ (db.dossier payment.orderId).payments :=
      List.mem_filter.mpr ⟨mem, by simp⟩
    exact ⟨hexists _ h (.inl (List.ne_nil_of_mem hin)), h.amounts.1 payment hin⟩
  · intro invoice mem
    obtain ⟨p, h⟩ := inv.dossiers invoice.orderId
    have hin : invoice ∈ (db.dossier invoice.orderId).invoices :=
      List.mem_filter.mpr ⟨mem, by simp⟩
    exact ⟨hexists _ h (.inr (.inl (List.ne_nil_of_mem hin))), h.amounts.2.1 invoice hin⟩
  · intro notification mem
    obtain ⟨p, h⟩ := inv.dossiers notification.orderId
    have hin : notification ∈ (db.dossier notification.orderId).notifications :=
      List.mem_filter.mpr ⟨mem, by simp⟩
    exact ⟨hexists _ h (.inr (.inr (List.ne_nil_of_mem hin))), h.amounts.2.2 notification hin⟩

/-- **The customer is charged what was ordered**: in every reachable state,
every payment, invoice and notification of an order carries the total of the
order's lines. -/
theorem charged_as_ordered (arrivals : List Arrival) :
    (arriveAll arrivals Database.empty).Charged :=
  (arriveAll_inv arrivals stocked_empty.inv).charged

/-! ## §2. Addresses. -/

/-- Every notification goes to the customer of its order. -/
def Database.Addressed (db : Database) : Prop :=
  ∀ notification ∈ db.notifications, ∃ order ∈ db.orders, order.id = notification.orderId
    ∧ notification.recipientEmail = some order.customerEmail

/-- The arrival delivers no `InvoiceCreated` event that is still to be
processed. -/
def Unannounced (db : Database) (arrival : Arrival) : Prop :=
  ∀ event ∈ db.outboxEvents, event.eventType = "InvoiceCreated" → db.consumed event = false →
    ∀ policy paymentFails, arrival.call ≠ .deliver event.eventId policy paymentFails

/-- Where no invoice was created there is nothing to announce. -/
theorem unannounced_of_all {db : Database} (arrival : Arrival)
    (h : ∀ event ∈ db.outboxEvents, event.eventType ≠ "InvoiceCreated") :
    Unannounced db arrival :=
  fun event mem hinvoice => absurd hinvoice (h event mem)

/-- No notification ever has an address: `InvoiceCreated` carries none. -/
theorem Saga.unaddressed {p : Phase} {d : Dossier} (h : Saga p d) :
    ∀ notification ∈ d.notifications, notification.recipientEmail = none := by
  induction h with
  | notified before _ email _ _ _ => simp [email]
  | completed before ih => exact ih
  | cancelled before ih => exact ih
  | absent | placed | refused | reserved | authorized | invoiced | declined | released => simp

theorem SagaInv.addressed_iff {db : Database} (inv : SagaInv db) :
    db.Addressed ↔ db.notifications = [] := by
  constructor
  · intro h
    by_contra hne
    obtain ⟨notification, mem⟩ := List.exists_mem_of_ne_nil _ hne
    obtain ⟨p, hsaga⟩ := inv.dossiers notification.orderId
    have hnone := hsaga.unaddressed notification (List.mem_filter.mpr ⟨mem, by simp⟩)
    obtain ⟨order, -, -, hsome⟩ := h notification mem
    rw [hnone] at hsome
    exact nomatch hsome
  · intro h notification mem
    rw [h] at mem
    exact nomatch mem

theorem notifications_attemptFailed (handlers : HandlerMap) (policy : RetryPolicy)
    (event : OutboxEvent) (error : String) (stamp : FailureStamp) (db : Database) :
    (db.attemptFailed handlers policy event error stamp).notifications = db.notifications := by
  obtain ⟨_, _, _, h⟩ := attemptFailed_delivery handlers policy event error stamp db
  rw [h]

/-- Only the handling of an `InvoiceCreated` event adds a notification. -/
theorem Handled.notifications {event : EventEnvelope} {db db' : Database}
    (h : Handled event db db') (other : event.eventType ≠ "InvoiceCreated") :
    db'.notifications = db.notifications := by
  cases h with
  | notified type => exact absurd type other
  | reserved => rw [moveAll_eq]; rfl
  | released => rw [moveAll_eq]; rfl
  | refused | paid | invoiced | completed | cancelled => rfl

theorem Commit.notifications {call : Call} {db db' : Database} (h : Commit call db db')
    (unannounced : ∀ event ∈ db.outboxEvents, event.eventType = "InvoiceCreated" →
      db.consumed event = false → ∀ policy paymentFails,
        call ≠ .deliver event.eventId policy paymentFails) :
    db'.notifications = db.notifications := by
  cases h with
  | stocked | ordered | replayed => rfl
  | @handled event envelope consumer policy paymentFails db₁ processedAt called mem pending valid
      routed fresh handled =>
      obtain ⟨htype, -⟩ := envelope_eventType valid
      refine handled.notifications fun hinvoice => ?_
      have hfresh := (consumed_of_routed routed).trans fresh
      exact unannounced event mem (htype ▸ hinvoice) hfresh policy paymentFails called
  | published h => cases h; rfl
  | attempted => exact notifications_attemptFailed _ _ _ _ _ _

/-- **The step lemma**: without such a delivery nobody is notified. -/
theorem arrive_unannounced {db : Database} (inv : SagaInv db) {arrival : Arrival}
    (h : db.notifications = []) (unannounced : Unannounced db arrival) :
    (arrive arrival db).notifications = [] := by
  obtain ⟨before, after, db₁, -, heffect, -, heq⟩ := arrive_effect inv arrival
  rw [heq]
  show db₁.notifications = []
  cases heffect with
  | idle => exact h
  | commit hc => exact (hc.notifications unannounced).trans h
  | publish hc hp =>
      have hfirst := (hc.notifications unannounced).trans h
      cases hp
      exact hfirst

/-- **Notifications have no address.**  As long as no run delivers an
`InvoiceCreated` event for the first time, every notification goes to its
customer; and that is only because there is none. -/
theorem addressed_while_unannounced (arrivals : List Arrival) :
    (Along arrive Unannounced arrivals Database.empty →
        (arriveAll arrivals Database.empty).Addressed)
      ∧ ((arriveAll arrivals Database.empty).Addressed
          ↔ (arriveAll arrivals Database.empty).notifications = []) := by
  have hiff := (arriveAll_inv arrivals stocked_empty.inv).addressed_iff
  refine ⟨fun unannounced => hiff.mpr ?_, hiff⟩
  have hrun : SagaInv (arriveAll arrivals Database.empty)
      ∧ (arriveAll arrivals Database.empty).notifications = [] := by
    refine run_invariant_along (I := fun db => SagaInv db ∧ db.notifications = []) ?_ arrivals _
      ⟨stocked_empty.inv, rfl⟩ unannounced
    intro db arrival h hcond
    exact ⟨arrived_inv h.1 (arrive_effect h.1 arrival), arrive_unannounced h.1 h.2 hcond⟩
  exact hrun.2

/-- Two pencils are ordered, paid and billed, and the paid order is delivered
once more; the invoice is still to be announced. -/
def billedRun : List Label :=
  reservationRun 2 ++ [⟨.calm, 300, .deliver "id-202" {} fun _ => false⟩,
    ⟨.calm, 400, .deliver "id-304" {} fun _ => false⟩,
    ⟨.calm, 500, .deliver "id-304" {} fun _ => false⟩]

/-- A call other than the delivery of `eventId` announces nothing, where every
`InvoiceCreated` event has that id. -/
theorem unannounced_of_others {db : Database} {arrival : Arrival} (eventId : String)
    (h : ∀ event ∈ db.outboxEvents, event.eventType = "InvoiceCreated" → event.eventId = eventId)
    (other : ∀ policy paymentFails, arrival.call ≠ .deliver eventId policy paymentFails) :
    Unannounced db arrival := by
  intro event mem hinvoice _ policy paymentFails
  rw [h event mem hinvoice]
  exact other policy paymentFails

/-- The invoice is created, and as long as it is not announced nobody is
notified. -/
theorem addressed_two_pencils :
    ((arriveAll (billedRun.map .called) Database.empty).outboxEvents.any
        (·.eventType = "InvoiceCreated")) = true
      ∧ (arriveAll (billedRun.map .called) Database.empty).Addressed := by
  refine ⟨by decide +kernel, (addressed_while_unannounced (billedRun.map .called)).1
    ⟨unannounced_of_all _ ?_, unannounced_of_all _ ?_, unannounced_of_all _ ?_,
      unannounced_of_all _ ?_, unannounced_of_all _ ?_,
      unannounced_of_others "id-404" ?_ (by simp [Arrival.call]), trivial⟩⟩ <;> decide +kernel

/-- Two pencils are ordered, paid and billed, and the invoice is announced. -/
def announcedRun : List Label :=
  reservationRun 2 ++ [⟨.calm, 300, .deliver "id-202" {} fun _ => false⟩,
    ⟨.calm, 400, .deliver "id-304" {} fun _ => false⟩,
    ⟨.calm, 500, .deliver "id-404" {} fun _ => false⟩]

/-- The executable reading of `Addressed`. -/
def Database.addressed (db : Database) : Bool :=
  db.notifications.all fun notification => db.orders.any fun order =>
    order.id == notification.orderId && notification.recipientEmail == some order.customerEmail

theorem addressed_of_prop {db : Database} (h : db.Addressed) : db.addressed = true := by
  unfold Database.addressed
  rw [List.all_eq_true]
  intro notification mem
  obtain ⟨order, horder, hid, hemail⟩ := h notification mem
  rw [List.any_eq_true]
  exact ⟨order, horder, by simp [hid, hemail]⟩

/-- **A notification without an address**: the order has one. -/
theorem notification_unaddressed :
    ¬ ∀ arrivals : List Arrival, (arriveAll arrivals Database.empty).Addressed := by
  intro h
  have hall := addressed_of_prop (h (announcedRun.map .called))
  have hnone : (arriveAll (announcedRun.map .called) Database.empty).addressed = false := by
    decide +kernel
  rw [hnone] at hall
  exact nomatch hall

/-! ## §3. Final statuses. -/

/-- The rows behind a completed order. -/
structure Database.CompletedEvidence (db : Database) (order : Order) : Prop where
  reserved : ∃ event ∈ db.outboxEvents, event.eventType = "InventoryReserved"
    ∧ event.aggregateId = order.id
  billed : ∃ payment invoice, db.payments.filter (·.orderId = order.id) = [payment]
    ∧ payment.status = .AUTHORIZED
    ∧ db.invoices.filter (·.orderId = order.id) = [invoice]
    ∧ invoice.paymentId = payment.id
  notified : ∃ notification, db.notifications.filter (·.orderId = order.id) = [notification]
  unreleased : ∀ event ∈ db.outboxEvents, event.aggregateId = order.id →
    event.eventType ≠ "InventoryReleased"

/-- The rows behind a cancelled order. -/
structure Database.CancelledEvidence (db : Database) (order : Order) : Prop where
  declined : ∃ payment, db.payments.filter (·.orderId = order.id) = [payment]
    ∧ payment.status = .FAILED
  returned : ∃ reserved ∈ db.outboxEvents, ∃ released ∈ db.outboxEvents,
    reserved.eventType = "InventoryReserved" ∧ reserved.aggregateId = order.id
      ∧ released.eventType = "InventoryReleased" ∧ released.aggregateId = order.id
      ∧ ∃ lines, reserved.payload.get? "items" = some lines
          ∧ released.payload.get? "items" = some lines
  invoices : db.invoices.filter (·.orderId = order.id) = []
  notifications : db.notifications.filter (·.orderId = order.id) = []

/-- The dossier of a completed order, with the reserved event it began with. -/
theorem Saga.completed_inv {d : Dossier} (h : Saga .completed d) :
    ∃ order items e₀ e₁ e₂ e₃ e₄ payment invoice notification,
      d = ⟨[order], items, [(e₀, true), (e₁, true), (e₂, true), (e₃, true), (e₄, true)], [],
        [payment], [invoice], [notification]⟩
      ∧ e₁.eventType = "InventoryReserved" ∧ payment.status = .AUTHORIZED
      ∧ invoice.paymentId = payment.id := by
  cases h with
  | completed before =>
    cases before with
    | notified before =>
      cases before with
      | invoiced before _ invoice_payment =>
        cases before with
        | authorized before _ status =>
          cases before with
          | reserved => exact ⟨_, _, _, _, _, _, _, _, _, _, rfl, rfl, status, invoice_payment⟩

/-- The dossier of a cancelled order: what was reserved is what was
released. -/
theorem Saga.cancelled_inv {d : Dossier} (h : Saga .cancelled d) :
    ∃ order items e₀ e₁ e₂ e₃ payment,
      d = ⟨[order], items, [(e₀, true), (e₁, true), (e₂, true), (e₃, true)], [], [payment], [],
        []⟩
      ∧ payment.status = .FAILED
      ∧ e₁.eventType = "InventoryReserved" ∧ e₃.eventType = "InventoryReleased"
      ∧ e₁.payload.get? "items" = some (itemsJson (linesOf items))
      ∧ e₃.payload.get? "items" = some (itemsJson (linesOf items)) := by
  cases h with
  | cancelled before =>
    cases before with
    | released before =>
      cases before with
      | declined before _ status =>
        cases before with
        | reserved => exact ⟨_, _, _, _, _, _, _, rfl, status, rfl, rfl, rfl, rfl⟩

/-- An event of a trail is a row of the outbox. -/
theorem event_of_trail {db : Database} {id : String} {e : OutboxEvent} {b : Bool}
    (h : (e, b) ∈ (db.dossier id).trail) :
    ∃ event ∈ db.outboxEvents, event.eventType = e.eventType ∧ event.aggregateId = id
      ∧ event.payload = e.payload := by
  obtain ⟨event, mem, he, haggregate, -⟩ := of_mem_trail h
  exact ⟨event, mem, by rw [← he]; rfl, haggregate, by rw [← he]; rfl⟩

theorem completed_evidence {db : Database} {order : Order} (h : Saga .completed (db.dossier order.id)) :
    db.CompletedEvidence order := by
  obtain ⟨o, items, e₀, e₁, e₂, e₃, e₄, payment, invoice, notification, hd, htype, hstatus,
    hinvoice⟩ := h.completed_inv
  constructor
  · have hmem : (e₁, true) ∈ (db.dossier order.id).trail := by rw [hd]; simp
    obtain ⟨event, mem, htype', haggregate, -⟩ := event_of_trail hmem
    exact ⟨event, mem, htype'.trans htype, haggregate⟩
  · exact ⟨payment, invoice, congrArg Dossier.payments hd, hstatus,
      congrArg Dossier.invoices hd, hinvoice⟩
  · exact ⟨notification, congrArg Dossier.notifications hd⟩
  · intro event mem haggregate htype
    have hany := any_eventType h "InventoryReleased"
    have hemitted : db.emitted "InventoryReleased" order.id = true :=
      List.any_eq_true.mpr ⟨event, mem, by simp [haggregate, htype]⟩
    rw [emitted_eq (by decide), hany] at hemitted
    exact absurd hemitted (by decide)

theorem cancelled_evidence {db : Database} {order : Order} (h : Saga .cancelled (db.dossier order.id)) :
    db.CancelledEvidence order := by
  obtain ⟨o, items, e₀, e₁, e₂, e₃, payment, hd, hstatus, htype₁, htype₃, hitems₁, hitems₃⟩ :=
    h.cancelled_inv
  refine ⟨⟨payment, congrArg Dossier.payments hd, hstatus⟩, ?_, congrArg Dossier.invoices hd,
    congrArg Dossier.notifications hd⟩
  have hmem₁ : (e₁, true) ∈ (db.dossier order.id).trail := by rw [hd]; simp
  have hmem₃ : (e₃, true) ∈ (db.dossier order.id).trail := by rw [hd]; simp
  obtain ⟨reserved, mem₁, ht₁, ha₁, hp₁⟩ := event_of_trail hmem₁
  obtain ⟨released, mem₃, ht₃, ha₃, hp₃⟩ := event_of_trail hmem₃
  exact ⟨reserved, mem₁, released, mem₃, ht₁.trans htype₁, ha₁, ht₃.trans htype₃, ha₃,
    itemsJson (linesOf items), by rw [hp₁]; exact hitems₁, by rw [hp₃]; exact hitems₃⟩

/-- **A final status is backed by its rows**, in every reachable state. -/
theorem status_backed (arrivals : List Arrival) :
    ∀ order ∈ (arriveAll arrivals Database.empty).orders,
      (order.status = .COMPLETED →
        (arriveAll arrivals Database.empty).CompletedEvidence order)
      ∧ (order.status = .CANCELLED →
        (arriveAll arrivals Database.empty).CancelledEvidence order) := by
  intro order mem
  obtain ⟨p, h, hstatus⟩ := (arriveAll_inv arrivals stocked_empty.inv).phase_of_order mem
  constructor
  · intro hcompleted
    rw [hcompleted] at hstatus
    cases p with
    | completed => exact completed_evidence h
    | absent | placed | refused | reserved | authorized | invoiced | notified | declined
      | released | cancelled => exact nomatch hstatus
  · intro hcancelled
    rw [hcancelled] at hstatus
    cases p with
    | cancelled => exact cancelled_evidence h
    | absent | placed | refused | reserved | authorized | invoiced | notified | declined
      | released | completed => exact nomatch hstatus

/-- The declined order of two pencils is final, and backed. -/
theorem status_backed_declined :
    declinedOrder ∈ (arriveAll ((declinedRun 2).map .called) Database.empty).orders
      ∧ (declinedOrder.status = .COMPLETED →
          (arriveAll ((declinedRun 2).map .called) Database.empty).CompletedEvidence declinedOrder)
      ∧ (declinedOrder.status = .CANCELLED →
          (arriveAll ((declinedRun 2).map .called) Database.empty).CancelledEvidence
            declinedOrder) := by
  have hmem : declinedOrder ∈ (arriveAll ((declinedRun 2).map .called) Database.empty).orders := by
    decide +kernel
  exact ⟨hmem, status_backed ((declinedRun 2).map .called) declinedOrder hmem⟩

end EventCart
