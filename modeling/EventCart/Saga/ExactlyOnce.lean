/-
  EventCart.Saga.ExactlyOnce
  ──────────────────────────
  **EVERY BUSINESS EFFECT HAPPENS AT MOST ONCE**, over whole runs of the
  system as it is operated: batches that crash between a handler's commit and
  the dispatcher's, redeliveries, dead letters and replays.

  The phase of an order says how often each of its effects happened, and no
  phase says twice; an order that is done is in a phase without a step.
-/
import EventCart.Saga.Requests

namespace EventCart

open EventCart.Lib

/-! ## §1. Counting effects. -/

/-- How many events of a type an order has. -/
def Database.emissions (eventType orderId : String) (db : Database) : Nat :=
  db.outboxEvents.countP fun event =>
    event.eventType = eventType && event.aggregateId = orderId

/-- What the orders' reservations took of a SKU, less what their releases
put back. -/
def Database.taken (sku : String) (db : Database) : Int :=
  (db.orders.map fun order =>
    ((db.emissions "InventoryReserved" order.id : Int)
      - db.emissions "InventoryReleased" order.id) * db.listed order.id sku).sum

/-- No effect on behalf of the order happened twice. -/
structure Database.Once (db : Database) (orderId : String) : Prop where
  reserved : db.emissions "InventoryReserved" orderId ≤ 1
  released : db.emissions "InventoryReleased" orderId ≤ 1
  payments : (db.payments.filter (·.orderId = orderId)).length ≤ 1
  invoices : (db.invoices.filter (·.orderId = orderId)).length ≤ 1
  notifications : (db.notifications.filter (·.orderId = orderId)).length ≤ 1

/-- The events of an order are counted in its trail. -/
theorem emissions_eq {db : Database} {id : String} {p : Phase} (h : Saga p (db.dossier id))
    {eventType : String} (hne : eventType ≠ refusalType) :
    db.emissions eventType id = p.trail.countP (·.1 = eventType) := by
  rw [← h.trail_eq, List.countP_map]
  show _ = List.countP _ ((db.outboxEvents.filter _).map _)
  rw [List.countP_map, List.countP_filter]
  unfold Database.emissions
  congr 1
  funext event
  show _ = (decide (event.eventType = eventType) && _)
  by_cases htype : event.eventType = eventType
  · have href : event.isRefusal = false := isRefusal_of_ne (by rw [htype]; exact hne)
    simp [htype, href]
  · simp [htype]

/-- One row of a kind is all an order ever has. -/
theorem Saga.rows_once {p : Phase} {d : Dossier} (h : Saga p d) :
    d.payments.length ≤ 1 ∧ d.invoices.length ≤ 1 ∧ d.notifications.length ≤ 1 := by
  cases h <;> simp

theorem once_of_saga {db : Database} {id : String} {p : Phase} (h : Saga p (db.dossier id)) :
    db.Once id where
  reserved := by
    rw [emissions_eq h (by decide)]
    cases p <;> decide
  released := by
    rw [emissions_eq h (by decide)]
    cases p <;> decide
  payments := h.rows_once.1
  invoices := h.rows_once.2.1
  notifications := h.rows_once.2.2

/-- Counting reservations and releases gives what orders hold. -/
theorem taken_eq_outstanding {db : Database} (filed : Filed db) (sku : String) :
    db.taken sku = db.outstanding sku := by
  rw [outstanding_eq, List.map_map]
  unfold Database.taken
  congr 2
  funext order
  obtain ⟨p, h⟩ := filed.dossiers order.id
  show _ = (db.dossier order.id).held sku
  have hlisted : db.listed order.id sku = demand sku (linesOf (db.dossier order.id).items) :=
    (demand_linesOf _ _).symm
  rw [h.held_eq, emissions_eq h (by decide), emissions_eq h (by decide), hlisted]
  cases p <;> simp [Phase.trail, Phase.holding]

/-! ## §2. Orders that are done. -/

/-- An order that waits for nothing never moves again. -/
theorem runCalls_settled (labels : List Label) {db : Database} (inv : SagaInv db) {id : String}
    {p : Phase} (h : Saga p (db.dossier id)) (exists_ : p ≠ .absent) (waiting : p.waiting = none) :
    Saga p ((runCalls labels db).dossier id) := by
  have hrun : SagaInv (runCalls labels db) ∧ Saga p ((runCalls labels db).dossier id) := by
    refine run_invariant (I := fun db => SagaInv db ∧ Saga p (db.dossier id)) ?_ labels db
      ⟨inv, h⟩
    rintro db label ⟨inv, h⟩
    refine ⟨step_inv label inv, ?_⟩
    obtain ⟨q, q', hq, hq', hprogress⟩ := step_moves inv label id
    obtain rfl : q = p := hq.phase_unique h
    cases hprogress with
    | stay => exact hq'
    | opened => exact absurd rfl exists_
    | stepped _ _ hwaiting => rw [waiting] at hwaiting; exact nomatch hwaiting
  exact hrun.2

/-- An order whose status is no longer PENDING waits for nothing. -/
theorem Phase.waiting_of_settled {p : Phase} {status : OrderStatus} (h : p.status = some status)
    (settled : status ≠ .PENDING) : p ≠ .absent ∧ p.waiting = none := by
  cases p with
  | completed => exact ⟨by simp, rfl⟩
  | cancelled => exact ⟨by simp, rfl⟩
  | absent => exact nomatch h
  | placed | refused | reserved | authorized | invoiced | notified | declined | released =>
      exact absurd (Option.some.inj h).symm settled

theorem runCalls_status (labels : List Label) {db : Database} (inv : SagaInv db) {order : Order}
    (mem : order ∈ db.orders) (settled : order.status ≠ .PENDING) :
    ∃ order' ∈ (runCalls labels db).orders,
      order'.id = order.id ∧ order'.status = order.status := by
  obtain ⟨p, hp, hstatus⟩ := inv.phase_of_order mem
  obtain ⟨exists_, waiting⟩ := Phase.waiting_of_settled hstatus settled
  have hlater := runCalls_settled labels inv hp exists_ waiting
  obtain ⟨order', ho⟩ := hlater.orders_of_ne exists_
  obtain ⟨mem', hid⟩ := of_mem_orders (show order' ∈ _ by rw [ho]; simp)
  obtain ⟨q, hq, hstatus'⟩ := (runCalls_inv labels inv).phase_of_order mem'
  rw [hid] at hq
  obtain rfl : q = p := hq.phase_unique hlater
  exact ⟨order', mem', hid, Option.some.inj (hstatus'.symm.trans hstatus)⟩

/-! ## §3. Over whole runs. -/

/-- What the SKUs were created with, over the requests from empty tables. -/
def suppliedWith (inputs : List Input) : String → Int :=
  (run ledgerServe inputs Ledger.empty).created

/-- **Exactly once.**  After any requests, no order had its stock reserved or
released twice, nor was it paid, billed or notified twice; the stock moved by
the counted reservations and releases and nothing else; and an order that
left PENDING keeps its status whatever is requested later. -/
theorem exactly_once (inputs later : List Input) :
    (∀ orderId, (serveAll inputs Database.empty).Once orderId)
      ∧ (∀ row ∈ (serveAll inputs Database.empty).inventoryItems,
          row.quantityAvailable
            = suppliedWith inputs row.sku - (serveAll inputs Database.empty).taken row.sku)
      ∧ ∀ order ∈ (serveAll inputs Database.empty).orders, order.status ≠ .PENDING →
          ∃ order' ∈ (serveAll (inputs ++ later) Database.empty).orders,
            order'.id = order.id ∧ order'.status = order.status := by
  -- every input is matched by a step of the saga
  obtain ⟨labels, hlabels⟩ := serveAll_matched inputs (l := Ledger.empty) stocked_empty.inv
  have hdb : (run ledgerStep labels Ledger.empty).db = serveAll inputs Database.empty := by
    rw [← hlabels, ledgerServe_db]
    rfl
  obtain ⟨inv, balanced⟩ := ledger_inv labels
  rw [hdb] at inv
  unfold Ledger.Balanced at balanced
  rw [hdb, ← hlabels] at balanced
  refine ⟨fun orderId => ?_, fun row hrow => ?_, fun order mem settled => ?_⟩
  · obtain ⟨p, h⟩ := inv.dossiers orderId
    exact once_of_saga h
  · -- what is outstanding is what was reserved and not released
    have hrow := balanced row hrow
    show row.quantityAvailable = (run ledgerServe inputs Ledger.empty).created row.sku - _
    rw [taken_eq_outstanding inv.toFiled]
    omega
  · obtain ⟨labels', hlater⟩ := serveAll_matched later
      (l := ⟨serveAll inputs Database.empty, fun _ => 0⟩) inv
    have hrun : serveAll later (serveAll inputs Database.empty)
        = runCalls labels' (serveAll inputs Database.empty) := by
      have h := congrArg Ledger.db hlater
      rwa [ledgerServe_db, ledger_db] at h
    rw [serveAll, run_append]
    show ∃ order' ∈ (serveAll later (serveAll inputs Database.empty)).orders, _
    rw [hrun]
    exact runCalls_status labels' inv mem settled

end EventCart
