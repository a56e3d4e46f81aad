/-
  EventCart.Saga.Completion
  ─────────────────────────
  **WHEN THE OUTBOX IS IDLE, WHO IS DONE?**

  An event the order waits for is PENDING until it is handled
  (`SagaInv.pending_of_waiting`), so with no PENDING event left every order
  is completed, cancelled, or refused.  `sagas_end`: in runs in which no
  reservation is refused, every order is done.

  A refused order is never done: `InventoryReservationFailed` is in no
  routing table, so no event after it cancels the order
  (`refused_never_settles`, `refused_order_stays_pending`).
-/
import EventCart.Saga.Stock

namespace EventCart

open EventCart.Lib

/-! ## §1. Idle outboxes. -/

/-- The lines of every order are in stock when its first event is
delivered: no reservation is refused. -/
def InStock (db : Database) (label : Label) : Prop :=
  ∀ event, Reserving db label event →
    db.stocks (linesOf (db.itemsOf event.aggregateId)) = true

/-- The executable condition: what the PENDING `OrderCreated` events ask for is
in stock. -/
theorem inStock_of_all {db : Database} {label : Label}
    (h : ∀ event ∈ db.outboxEvents, event.status = .PENDING → event.eventType = "OrderCreated" →
      db.stocks (linesOf (db.itemsOf event.aggregateId)) = true) : InStock db label :=
  fun event hr => h event hr.1.mem hr.1.pending hr.2

/-- No order was refused. -/
def Database.Unrefused (db : Database) : Prop := ∀ id, ¬ Saga .refused (db.dossier id)

/-- **The step lemma**: a call with stock at hand refuses no order. -/
theorem step_unrefused {db : Database} {label : Label} (inv : SagaInv db) (h : db.Unrefused)
    (inStock : InStock db label) : (step label db).Unrefused := by
  intro id hrefused
  obtain ⟨p, p', hp, hp', hprogress⟩ := step_moves inv label id
  obtain rfl : p' = .refused := hp'.phase_unique hrefused
  cases hprogress with
  | stay => exact h id hp
  | @stepped event _ _ sign delivering aggregate waiting hstep checked =>
      cases hstep with
      | refuse =>
          have htype : event.eventType = "OrderCreated" := (Option.some.inj waiting).symm
          have hstocks := inStock event ⟨delivering, htype⟩
          rw [aggregate, checked rfl] at hstocks
          exact nomatch hstocks

/-- The event an order waits for is PENDING: it is neither published before
it is handled nor given up. -/
theorem SagaInv.pending_of_waiting {db : Database} (inv : SagaInv db) {id : String} {p : Phase}
    (h : Saga p (db.dossier id)) {eventType : String} (waiting : p.waiting = some eventType) :
    ∃ event ∈ db.outboxEvents, event.status = .PENDING := by
  obtain ⟨e, hmem, -⟩ := h.mem_of_waiting waiting
  obtain ⟨event, mem, he, -, hnot, hconsumed⟩ := of_mem_trail hmem
  exact ⟨event, mem, inv.pending_of_unconsumed mem hnot hconsumed⟩

/-- A phase that waits for nothing is the last one. -/
theorem Phase.settled {p : Phase} (waiting : p.waiting = none) (unrefused : p ≠ .refused)
    {status : OrderStatus} (h : p.status = some status) :
    status = .COMPLETED ∨ status = .CANCELLED := by
  cases p with
  | completed => exact .inl (Option.some.inj h).symm
  | cancelled => exact .inr (Option.some.inj h).symm
  | refused => exact absurd rfl unrefused
  | absent => exact nomatch h
  | placed | reserved | authorized | invoiced | notified | declined | released =>
      exact nomatch waiting

/-- **Every saga ends**, where no reservation is refused: whenever no event
is PENDING, every order is COMPLETED or CANCELLED. -/
theorem sagas_end (labels : List Label) {db : Database} (start : Stocked db)
    (inStock : Along step InStock labels db)
    (idle : ∀ event ∈ (runCalls labels db).outboxEvents, event.status ≠ .PENDING) :
    ∀ order ∈ (runCalls labels db).orders,
      order.status = .COMPLETED ∨ order.status = .CANCELLED := by
  have hstart : db.Unrefused := by
    intro id h
    obtain ⟨order, ho⟩ := h.orders_of_ne (by simp)
    obtain ⟨mem, -⟩ := of_mem_orders (show order ∈ (db.dossier id).orders by rw [ho]; simp)
    rw [start.orders] at mem
    exact nomatch mem
  have hrun : SagaInv (runCalls labels db) ∧ (runCalls labels db).Unrefused := by
    refine run_invariant_along (I := fun db => SagaInv db ∧ db.Unrefused) ?_ labels db
      ⟨start.inv, hstart⟩ inStock
    intro db label h hin
    exact ⟨step_inv label h.1, step_unrefused h.1 h.2 hin⟩
  intro order mem
  obtain ⟨p, hp, hstatus⟩ := hrun.1.phase_of_order mem
  refine Phase.settled ?_ ?_ hstatus
  · cases hw : p.waiting with
    | none => rfl
    | some eventType =>
        obtain ⟨event, hmem, hpending⟩ := hrun.1.pending_of_waiting hp hw
        exact absurd hpending (idle event hmem)
  · rintro rfl
    exact hrun.2 order.id hp

/-- The order of `reservationRun n`, declined at payment, up to its
cancellation. -/
def declinedRun (n : Nat) : List Label :=
  reservationRun n ++ [⟨.calm, 300, .deliver "id-202" {} fun _ => true⟩,
    ⟨.calm, 400, .deliver "id-304" {} fun _ => true⟩,
    ⟨.calm, 500, .deliver "id-402" {} fun _ => true⟩]

/-- The declined order at its end. -/
def declinedOrder : Order := ⟨"id-102", .CANCELLED, "ann@example.com", 103⟩

/-- With two pencils in stock the declined order ends. -/
theorem sagas_end_declined :
    declinedOrder ∈ (runCalls (declinedRun 2) Database.empty).orders
      ∧ (declinedOrder.status = .COMPLETED ∨ declinedOrder.status = .CANCELLED) := by
  have hmem : declinedOrder ∈ (runCalls (declinedRun 2) Database.empty).orders := by
    decide +kernel
  refine ⟨hmem, sagas_end (declinedRun 2) stocked_empty ⟨inStock_of_all ?_, inStock_of_all ?_,
    inStock_of_all ?_, inStock_of_all ?_, inStock_of_all ?_, inStock_of_all ?_, trivial⟩ ?_
    declinedOrder hmem⟩ <;> decide +kernel

/-! ## §2. Refused orders. -/

/-- **A refused order never settles**: in every reachable state, an order
with an `InventoryReservationFailed` event is PENDING. -/
theorem refused_never_settles (labels : List Label) {db : Database} (start : Stocked db) :
    ∀ event ∈ (runCalls labels db).outboxEvents,
      event.eventType = "InventoryReservationFailed" →
      ∀ order ∈ (runCalls labels db).orders, order.id = event.aggregateId →
        order.status = .PENDING := by
  intro event mem htype order horder hid
  have inv := runCalls_inv labels start.inv
  have hrefusal : event.isRefusal = true := decide_eq_true htype
  obtain ⟨p, hp, hstatus⟩ := inv.phase_of_order horder
  have hmem : event.entry ∈ ((runCalls labels db).dossier order.id).refusals :=
    hid ▸ mem_refusals mem hrefusal
  have hrefused : p = .refused := by
    by_contra hne
    rw [hp.refusals_eq_nil hne] at hmem
    exact nomatch hmem
  subst hrefused
  exact (Option.some.inj hstatus).symm

/-- The handler a call delivers to returns; no handler is called for an
event without a route. -/
def handlerReturns (label : Label) (db : Database) : Bool :=
  match label.call with
  | .deliver eventId _ paymentFails =>
      match db.findOutboxEvent eventId with
      | none => true
      | some event =>
          match (sagaHandlers paymentFails).lookup event.eventType,
            envelopeFromOutboxEvent event with
          | some registration, .ok envelope =>
              returned (registration.handler envelope (Session.begin label.world label.tick db))
          | _, _ => true
  | _ => true

/-- Nothing is in stock, and the refusal is dead-lettered at its first
attempt. -/
def refusedRun : List Label :=
  reservationRun 0 ++ [⟨.calm, 300, .deliver "id-202" { maxAttempts := 1 } fun _ => false⟩]

/-- **A saga that does not end**: every handler returns, no event is PENDING,
and the refused order is. -/
theorem refused_order_stays_pending :
    ¬ ∀ (labels : List Label) (db : Database), Stocked db →
        Along step (fun db label => handlerReturns label db = true) labels db →
        (∀ event ∈ (runCalls labels db).outboxEvents, event.status ≠ .PENDING) →
        ∀ order ∈ (runCalls labels db).orders,
          order.status = .COMPLETED ∨ order.status = .CANCELLED := by
  intro h
  have hreturn : Along step (fun db label => handlerReturns label db = true) refusedRun
      Database.empty :=
    ⟨rfl, rfl, by decide +kernel, by decide +kernel, trivial⟩
  have hidle : ∀ event ∈ (runCalls refusedRun Database.empty).outboxEvents,
      event.status ≠ .PENDING := by decide +kernel
  have hpending : ¬ ∀ order ∈ (runCalls refusedRun Database.empty).orders,
      order.status = .COMPLETED ∨ order.status = .CANCELLED := by decide +kernel
  exact hpending (h refusedRun Database.empty stocked_empty hreturn hidle)

end EventCart
