/-
  EventCart.OrderEffects
  ──────────────────────
  **WHAT THE COMMANDS OF THE API COMMIT.**

  Creating an item or an order is one transaction: it commits nothing, or
  exactly the rows listed by `createInventoryItem_committed` and
  `createOrder_committed`, wherever the process dies.
-/
import EventCart.Effects
import EventCart.Orders

namespace EventCart

open EventCart.Lib
open EventCart.Lib.Tx

/-! ## §1. Inventory items. -/

theorem quiet_addInventoryItem (payload : InventoryItemCreate) :
    Quiet (addInventoryItem payload) :=
  quiet_uuid4.bind fun _ => quiet_now.bind fun _ => (quiet_write _).bind fun _ => quiet_pure _

theorem addInventoryItem_ok {payload : InventoryItemCreate} {s t : Session Database}
    {row : InventoryItem} (h : addInventoryItem payload s = .ok row t) :
    ∃ id createdAt n, row = payload.row id createdAt
      ∧ t = s.goto (s.working.addInventoryItem row) n := by
  have heq : addInventoryItem payload s = .ok
      (payload.row (s.world.uuid4 s.tick) (s.world.now (s.tick + 1)))
      (s.goto (s.working.addInventoryItem
        (payload.row (s.world.uuid4 s.tick) (s.world.now (s.tick + 1)))) (s.tick + 2)) := rfl
  rw [heq] at h
  simp only [EStateM.Result.ok.injEq] at h
  obtain ⟨rfl, rfl⟩ := h
  exact ⟨_, _, _, rfl, rfl⟩

theorem createInventoryItem_committed (payload : InventoryItemCreate) (s : Session Database) :
    (after (createInventoryItem payload s)).committed = s.committed
      ∨ ∃ id createdAt, (s.working.addInventoryItem (payload.row id createdAt)).Keyed
          ∧ (after (createInventoryItem payload s)).committed
              = s.working.addInventoryItem (payload.row id createdAt) := by
  rcases (quiet_addInventoryItem payload).commits_once
    (fun row => quiet_statement.bind fun _ => quiet_pure row) s with h | ⟨row, u, hu, hk, h⟩
  · exact .inl h
  · obtain ⟨id, at', n, rfl, rfl⟩ := addInventoryItem_ok hu
    exact .inr ⟨id, at', (admits_iff _).mp hk, h⟩

/-! ## §2. Orders. -/

theorem quiet_priceLines : ∀ lines : List OrderItemCreate, Quiet (priceLines lines)
  | [] => quiet_pure _
  | line :: lines => by
      refine (quiet_query _).bind fun found => ?_
      cases found with
      | none => exact quiet_raise _
      | some row => exact (quiet_priceLines lines).bind fun _ => quiet_pure _

theorem quiet_orderRows (orderId : String) :
    ∀ lines : List PricedLine, Quiet (orderRows orderId lines)
  | [] => quiet_pure _
  | _ :: lines => quiet_uuid4.bind fun _ => (quiet_orderRows orderId lines).bind fun _ =>
      quiet_pure _

theorem quiet_placeOrder (payload : OrderCreate) : Quiet (placeOrder payload) :=
  (quiet_priceLines _).bind fun _ => quiet_uuid4.bind fun _ => quiet_now.bind fun _ =>
    (quiet_orderRows _ _).bind fun _ => (quiet_write _).bind fun _ => quiet_flush.bind fun _ =>
      quiet_uuid4.bind fun _ => (quiet_emit _).bind fun _ => quiet_pure _

theorem forward_priceLines : ∀ lines : List OrderItemCreate, Forward (priceLines lines)
  | [] => forward_pure _
  | line :: lines => by
      refine (forward_query _).bind fun found => ?_
      cases found with
      | none => exact forward_raise _
      | some row => exact (forward_priceLines lines).bind fun _ => forward_pure _

theorem forward_orderRows (orderId : String) :
    ∀ lines : List PricedLine, Forward (orderRows orderId lines)
  | [] => forward_pure _
  | _ :: lines => forward_uuid4.bind fun _ => (forward_orderRows orderId lines).bind fun _ =>
      forward_pure _

/-- Priced lines are the requested lines, each with the row of its SKU. -/
theorem priceLines_ok :
    ∀ {lines : List OrderItemCreate} {s t : Session Database} {priced : List PricedLine},
      priceLines lines s = .ok priced t →
        priced.map Prod.fst = lines
          ∧ (∀ line ∈ priced, s.working.findInventoryItem line.1.sku = some line.2)
          ∧ ∃ n, t = s.goto s.working n
  | [], s, t, priced, h => by
      simp only [priceLines, pure_apply, EStateM.Result.ok.injEq] at h
      obtain ⟨rfl, rfl⟩ := h
      exact ⟨rfl, by simp, s.tick, rfl⟩
  | line :: lines, s, t, priced, h => by
      obtain ⟨found, u, hu, h⟩ := bind_eq_ok.mp h
      obtain ⟨rfl, n, rfl⟩ := query_ok hu
      cases hf : s.working.findInventoryItem line.sku with
      | none => simp [hf] at h
      | some row =>
          rw [hf] at h
          obtain ⟨rest, v, hv, h⟩ := bind_eq_ok.mp h
          obtain ⟨hfst, hrows, m, rfl⟩ := priceLines_ok hv
          simp only [pure_apply, EStateM.Result.ok.injEq] at h
          obtain ⟨rfl, rfl⟩ := h
          refine ⟨by rw [List.map_cons, hfst], ?_, m, rfl⟩
          intro l hl
          rcases List.mem_cons.mp hl with rfl | hl
          · exact hf
          · exact hrows l hl

/-- What one order row takes over from its priced line. -/
def OrderItem.Copies (orderId : String) (line : PricedLine) (row : OrderItem) : Prop :=
  row.orderId = orderId ∧ row.sku = line.2.sku ∧ row.quantity = line.1.quantity
    ∧ row.unitPriceCents = line.2.unitPriceCents ∧ row.productName = some line.2.name

theorem orderRows_ok {orderId : String} :
    ∀ {lines : List PricedLine} {s t : Session Database} {rows : List OrderItem},
      orderRows orderId lines s = .ok rows t →
        List.Forall₂ (OrderItem.Copies orderId) lines rows ∧ ∃ n, t = s.goto s.working n
  | [], s, t, rows, h => by
      simp only [orderRows, pure_apply, EStateM.Result.ok.injEq] at h
      obtain ⟨rfl, rfl⟩ := h
      exact ⟨.nil, s.tick, rfl⟩
  | (line, item) :: lines, s, t, rows, h => by
      obtain ⟨id, u, hu, h⟩ := bind_eq_ok.mp h
      simp only [uuid4_apply, EStateM.Result.ok.injEq] at hu
      obtain ⟨rfl, rfl⟩ := hu
      obtain ⟨rest, v, hv, h⟩ := bind_eq_ok.mp h
      obtain ⟨hrest, m, rfl⟩ := orderRows_ok hv
      simp only [pure_apply, EStateM.Result.ok.injEq] at h
      obtain ⟨rfl, rfl⟩ := h
      exact ⟨.cons ⟨rfl, rfl, rfl, rfl, rfl⟩ hrest, m, rfl⟩

/-- The rows `create_order` adds: a PENDING order, its lines, its event. -/
structure Placed (db : Database) (payload : OrderCreate) (order : Order)
    (items : List OrderItem) (new : OutboxEvent) : Prop where
  status : order.status = .PENDING
  email : order.customerEmail = payload.customerEmail
  id_ne : order.id ≠ ""
  event : ∃ lines correlationId eventId occurredAt,
    lines.map Prod.fst = payload.items
      ∧ (∀ line ∈ lines, db.findInventoryItem line.1.sku = some line.2)
      ∧ List.Forall₂ (OrderItem.Copies order.id) lines items
      ∧ correlationId ≠ "" ∧ eventId ≠ ""
      ∧ new = (orderCreatedDraft order correlationId lines).row eventId occurredAt

/-- Of the database, an order depends on the inventory only. -/
theorem Placed.of_inventory {db db' : Database} {payload : OrderCreate} {order : Order}
    {items : List OrderItem} {new : OutboxEvent} (placed : Placed db payload order items new)
    (same : db'.inventoryItems = db.inventoryItems) : Placed db' payload order items new := by
  obtain ⟨lines, correlationId, eventId, occurredAt, hitems, hrows, hcopies⟩ := placed.event
  refine ⟨placed.status, placed.email, placed.id_ne, lines, correlationId, eventId, occurredAt,
    hitems, fun line hline => ?_, hcopies⟩
  unfold Database.findInventoryItem
  rw [same]
  exact hrows line hline

/-- The order is placed, under a correlation ID drawn on the way. -/
theorem placeOrder_draws {payload : OrderCreate} {s t : Session Database} {order : Order}
    (h : placeOrder payload s = .ok order t) :
    ∃ items new n, Placed s.working payload order items new
      ∧ (∃ drawnAt, s.tick < drawnAt ∧ new.correlationId = s.world.uuid4 drawnAt)
      ∧ t = s.goto ((s.working.addOrder order items).addOutboxEvent new) n := by
  obtain ⟨lines, u, hu, h⟩ := bind_eq_ok.mp h
  have hpriced := (forward_priceLines payload.items).tick_le hu
  obtain ⟨hfst, hrows, n, rfl⟩ := priceLines_ok hu
  rw [bind_of_ok (uuid4_apply _), bind_of_ok (now_apply _)] at h
  obtain ⟨items, u, hu, h⟩ := bind_eq_ok.mp h
  have hbuilt := (forward_orderRows _ lines).tick_le hu
  obtain ⟨hitems, m, rfl⟩ := orderRows_ok hu
  rw [bind_of_ok (write_apply _ _)] at h
  obtain ⟨_, u, hu, h⟩ := bind_eq_ok.mp h
  have hflushed := forward_flush.tick_le hu
  obtain ⟨-, k, rfl⟩ := flush_keyed hu
  rw [bind_of_ok (uuid4_apply _)] at h
  obtain ⟨new, u, hu, h⟩ := bind_eq_ok.mp h
  obtain ⟨id, at', j, hid, rfl, -, rfl⟩ := emit_ok hu
  simp only [pure_apply, EStateM.Result.ok.injEq] at h
  obtain ⟨rfl, rfl⟩ := h
  simp only [goto_tick] at hpriced hbuilt hflushed
  exact ⟨items, _, j, ⟨rfl, rfl, s.world.uuid4_ne _, lines, _, id, at', hfst, hrows, hitems,
    s.world.uuid4_ne _, hid, rfl⟩, ⟨k, by omega, rfl⟩, rfl⟩

theorem placeOrder_ok {payload : OrderCreate} {s t : Session Database} {order : Order}
    (h : placeOrder payload s = .ok order t) :
    ∃ items new n, Placed s.working payload order items new
      ∧ t = s.goto ((s.working.addOrder order items).addOutboxEvent new) n := by
  obtain ⟨items, new, n, placed, -, rfl⟩ := placeOrder_draws h
  exact ⟨items, new, n, placed, rfl⟩

theorem quiet_savedOrder (orderId : String) : Quiet (savedOrder orderId) := by
  refine (quiet_query _).bind fun found => ?_
  cases found with
  | none => exact quiet_raise _
  | some row => exact quiet_pure _

theorem createOrder_committed (payload : OrderCreate) (s : Session Database) :
    (after (createOrder payload s)).committed = s.committed
      ∨ ∃ order items new, Placed s.working payload order items new
          ∧ ((s.working.addOrder order items).addOutboxEvent new).Keyed
          ∧ (after (createOrder payload s)).committed
              = (s.working.addOrder order items).addOutboxEvent new := by
  rcases (quiet_placeOrder payload).commits_once (fun order => quiet_savedOrder order.id) s
    with h | ⟨order, u, hu, hk, h⟩
  · exact .inl h
  · obtain ⟨items, new, n, hplaced, rfl⟩ := placeOrder_ok hu
    exact .inr ⟨order, items, new, hplaced, (admits_iff _).mp hk, h⟩

/-! ## §3. Replays. -/

/-- A replayed dead letter. -/
def DeadLetterEvent.replayed (replayedAt : DateTime) (row : DeadLetterEvent) :
    DeadLetterEvent :=
  { row with replayedAt := some replayedAt }

theorem quiet_replay (deadLetterId : String) : Quiet (replay deadLetterId) := by
  refine (quiet_query _).bind fun found => ?_
  cases found with
  | none => exact quiet_raise _
  | some row =>
      have hrest : Quiet (addEvent row.draft >>= fun replayEvent => now >>= fun replayedAt =>
          write (·.updateDeadLetter deadLetterId fun row =>
            { row with replayedAt := some replayedAt }) >>= fun _ =>
          flush >>= fun _ => (pure replayEvent : App OutboxEvent)) :=
        (quiet_addEvent _).bind fun _ => quiet_now.bind fun _ => (quiet_write _).bind fun _ =>
          quiet_flush.bind fun _ => quiet_pure _
      exact quiet_ite (quiet_raise _) hrest

theorem replay_ok {deadLetterId : String} {s t : Session Database} {new : OutboxEvent}
    (h : replay deadLetterId s = .ok new t) :
    ∃ row id occurredAt replayedAt n, s.working.findDeadLetter deadLetterId = some row
      ∧ row.replayedAt = none ∧ id ≠ "" ∧ new = row.draft.row id occurredAt
      ∧ t = s.goto ((s.working.addOutboxEvent new).updateDeadLetter deadLetterId
          (·.replayed replayedAt)) n := by
  obtain ⟨found, u, hu, h⟩ := bind_eq_ok.mp h
  obtain ⟨rfl, n, rfl⟩ := query_ok hu
  cases hf : s.working.findDeadLetter deadLetterId with
  | none => simp [hf] at h
  | some row =>
      rw [hf] at h
      -- a dead letter that was replayed raises
      cases hr : row.replayedAt with
      | some replayedAt =>
          simp only [hr] at h
          exact nomatch h
      | none =>
          simp only [hr] at h
          obtain ⟨new', u, hu, h⟩ := bind_eq_ok.mp h
          have hadd : addEvent row.draft (s.goto s.working n) = .ok
              (row.draft.row (s.world.uuid4 n) (s.world.now (n + 1)))
              (s.goto (s.working.addOutboxEvent
                (row.draft.row (s.world.uuid4 n) (s.world.now (n + 1)))) (n + 2)) := rfl
          rw [hadd] at hu
          simp only [EStateM.Result.ok.injEq] at hu
          obtain ⟨rfl, rfl⟩ := hu
          rw [bind_of_ok (now_apply _), bind_of_ok (write_apply _ _)] at h
          obtain ⟨_, v, hv, h⟩ := bind_eq_ok.mp h
          obtain ⟨-, m, rfl⟩ := flush_keyed hv
          simp only [pure_apply, EStateM.Result.ok.injEq] at h
          obtain ⟨rfl, rfl⟩ := h
          exact ⟨row, _, _, _, m, rfl, hr, s.world.uuid4_ne _, rfl, rfl⟩

theorem replayDeadLetterEvent_committed (deadLetterId : String) (s : Session Database) :
    (after (replayDeadLetterEvent deadLetterId s)).committed = s.committed
      ∨ ∃ row id occurredAt replayedAt, s.working.findDeadLetter deadLetterId = some row
          ∧ row.replayedAt = none ∧ id ≠ ""
          ∧ ((s.working.addOutboxEvent (row.draft.row id occurredAt)).updateDeadLetter
              deadLetterId (·.replayed replayedAt)).Keyed
          ∧ (after (replayDeadLetterEvent deadLetterId s)).committed
              = (s.working.addOutboxEvent (row.draft.row id occurredAt)).updateDeadLetter
                  deadLetterId (·.replayed replayedAt) := by
  rcases (quiet_replay deadLetterId).commits_once (fun new => quiet_pure new) s
    with h | ⟨new, u, hu, hk, h⟩
  · exact .inl h
  · obtain ⟨row, id, at', rat, n, hrow, hnone, hid, rfl, rfl⟩ := replay_ok hu
    exact .inr ⟨row, id, at', rat, hrow, hnone, hid, (admits_iff _).mp hk, h⟩

end EventCart
