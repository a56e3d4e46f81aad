/-
  EventCart.StockUpdates
  ──────────────────────
  **IS A STOCK UPDATE LOST BETWEEN CONCURRENT WORKERS?**

  A worker's transaction loads the rows of its SKUs, checks and changes the
  loaded objects, and flushes an UPDATE to an absolute quantity for every
  changed row; nothing locks the rows at the SELECT.  `StockWorker.plan` runs
  the worker's own code on the rows its SELECT returned; the statements of
  any number of workers then interleave as in `Lib.RowLocks`.

    • `stock_updates_kept` — the table is right after every run in which no
                             row changes between a worker's SELECT and its
                             UPDATE,
    • `stock_update_lost`  — two reservations, one subtracted.
-/
import EventCart.Lib.RowLocks
import EventCart.Saga.Invariant

namespace EventCart

open EventCart.Lib
open EventCart.Lib.Tx

/-! ## §1. What committed events mean for the stock. -/

/-- What the event's lines list for a SKU. -/
def OutboxEvent.lists (sku : String) (event : OutboxEvent) : Int :=
  (payloadItems event.payload).toOption.elim 0 (demand sku)

/-- The quantities of a SKU in committed reservations. -/
def reservedQuantity (sku : String) (events : List OutboxEvent) : Int :=
  ((events.filter (·.eventType = "InventoryReserved")).map (·.lists sku)).sum

/-- The quantities of a SKU in committed releases. -/
def releasedQuantity (sku : String) (events : List OutboxEvent) : Int :=
  ((events.filter (·.eventType = "InventoryReleased")).map (·.lists sku)).sum

/-- What an event says was added to the stock of a SKU. -/
def OutboxEvent.stockMoved (sku : String) (event : OutboxEvent) : Int :=
  releasedQuantity sku [event] - reservedQuantity sku [event]

section stockMoved
variable {event : OutboxEvent} (sku : String)

theorem stockMoved_of_reserved (h : event.eventType = "InventoryReserved") :
    event.stockMoved sku = -1 * event.lists sku := by
  unfold OutboxEvent.stockMoved releasedQuantity reservedQuantity
  simp [h]

theorem stockMoved_of_released (h : event.eventType = "InventoryReleased") :
    event.stockMoved sku = 1 * event.lists sku := by
  unfold OutboxEvent.stockMoved releasedQuantity reservedQuantity
  simp [h]

theorem stockMoved_of_refused (h : event.eventType = "InventoryReservationFailed") :
    event.stockMoved sku = 0 := by
  unfold OutboxEvent.stockMoved releasedQuantity reservedQuantity
  simp [h]

theorem lists_of_items {lines : List Dict}
    (h : event.payload.get? "items" = some (itemsJson lines)) :
    event.lists sku = demand sku lines := by
  unfold OutboxEvent.lists
  rw [payloadItems_of_get? h]
  rfl

end stockMoved

/-- The events of a run move the stock one after another. -/
theorem foldl_restocked (row : InventoryItem) :
    ∀ events : List OutboxEvent,
      events.foldl (fun r event => r.restocked (event.stockMoved r.sku)) row
        = row.restocked (releasedQuantity row.sku events - reservedQuantity row.sku events) := by
  intro events
  induction events generalizing row with
  | nil =>
      show row = row.restocked 0
      rw [restocked_zero]
  | cons event events ih =>
      -- both totals add up event by event
      have hreleased : releasedQuantity row.sku (event :: events)
          = releasedQuantity row.sku [event] + releasedQuantity row.sku events := by
        unfold releasedQuantity
        by_cases h : event.eventType = "InventoryReleased"
        · simp [h]
        · simp [h]
      have hreserved : reservedQuantity row.sku (event :: events)
          = reservedQuantity row.sku [event] + reservedQuantity row.sku events := by
        unfold reservedQuantity
        by_cases h : event.eventType = "InventoryReserved"
        · simp [h]
        · simp [h]
      show events.foldl _ (row.restocked (event.stockMoved row.sku)) = _
      rw [ih]
      show (row.restocked (event.stockMoved row.sku)).restocked
        (releasedQuantity row.sku events - reservedQuantity row.sku events) = _
      unfold InventoryItem.restocked OutboxEvent.stockMoved
      rw [hreleased, hreserved]
      congr 1
      show row.quantityAvailable + _ + _ = _
      omega

/-! ## §2. Workers. -/

/-- The two handlers that change stock. -/
inductive StockHandler where
  | handleOrderCreated
  | handlePaymentFailed
  deriving DecidableEq

def StockHandler.consumerName : StockHandler → String
  | .handleOrderCreated => INVENTORY_CONSUMER_NAME
  | .handlePaymentFailed => INVENTORY_COMPENSATION_CONSUMER_NAME

def StockHandler.body : StockHandler → EventEnvelope → App OutboxEvent
  | .handleOrderCreated => reserveInventory
  | .handlePaymentFailed => releaseInventory

/-- The handler itself: the body behind the inbox, and a COMMIT. -/
def StockHandler.run (handler : StockHandler) : EventEnvelope → App (Option OutboxEvent) :=
  handleOnce handler.consumerName handler.body

theorem run_handleOrderCreated : StockHandler.handleOrderCreated.run = handleOrderCreated := rfl

theorem run_handlePaymentFailed : StockHandler.handlePaymentFailed.run = handlePaymentFailed := rfl

/-- **A returned body moves the stock as its event says**: a refusal moves
nothing. -/
theorem body_stockMoved {handler : StockHandler} {event : EventEnvelope}
    {s t : Session Database} {new : OutboxEvent} (h : handler.body event s = .ok new t) :
    t.working.inventoryItems
      = s.working.inventoryItems.map fun row => row.restocked (new.stockMoved row.sku) := by
  cases handler with
  | handleOrderCreated =>
      obtain ⟨orderId, lines, -, -, ⟨-, id, at', n, -, hnew, rfl⟩
        | ⟨-, reason, id, at', n, -, hnew, rfl⟩⟩ := reserveInventory_ok h
      · have hmoved : ∀ sku, new.stockMoved sku = -1 * demand sku lines := by
          intro sku
          rw [stockMoved_of_reserved sku (by rw [hnew]; rfl),
            @lists_of_items new sku lines (by rw [hnew]; rfl)]
        show (s.working.moveAll (-1) lines).inventoryItems = _
        rw [moveAll_eq]
        simp only [hmoved]
      · have hmoved : ∀ sku, new.stockMoved sku = 0 := by
          intro sku
          exact stockMoved_of_refused sku (by rw [hnew]; rfl)
        show s.working.inventoryItems = _
        simp only [hmoved, restocked_zero, List.map_id']
  | handlePaymentFailed =>
      obtain ⟨orderId, lines, -, -, -, -, id, at', n, -, hnew, rfl⟩ := releaseInventory_ok h
      have hmoved : ∀ sku, new.stockMoved sku = 1 * demand sku lines := by
        intro sku
        rw [stockMoved_of_released sku (by rw [hnew]; rfl),
          @lists_of_items new sku lines (by rw [hnew]; rfl)]
      show (s.working.moveAll 1 lines).inventoryItems = _
      rw [moveAll_eq]
      simp only [hmoved]

/-- **Alone, a handler commits what its event says.** -/
theorem run_stockMoved {handler : StockHandler} {event : EventEnvelope} {s t : Session Database}
    {new : OutboxEvent} (h : handler.run event s = .ok (some new) t) :
    t.committed.inventoryItems
      = s.working.inventoryItems.map fun row => row.restocked (new.stockMoved row.sku) := by
  obtain ⟨r, u, hu, h⟩ := bind_eq_ok.mp h
  rcases processOnce_ok hu with ⟨-, rfl, -⟩ | ⟨-, m, a, v, at', n, hbody, rfl, -, rfl⟩
  · exact nomatch h
  · obtain ⟨_, w, hw, h⟩ := bind_eq_ok.mp h
    obtain ⟨-, k, rfl⟩ := commit_keyed hw
    simp only [pure_apply, EStateM.Result.ok.injEq, Option.some.injEq] at h
    obtain ⟨rfl, rfl⟩ := h
    have hrows := body_stockMoved hbody
    exact hrows

/-! ## §3. Transactions that interleave. -/

/-- A worker about to handle an event. -/
structure StockWorker where
  world : World Database
  tick : Nat
  handler : StockHandler
  event : EventEnvelope

/-- **What a worker makes of the rows it loads**: the event it will insert,
and the rows whose quantity its objects changed, old and new.  Nothing, when
the event was processed, or the handler or a statement raised. -/
def StockWorker.plan (db : Database) (worker : StockWorker) (rows : List InventoryItem) :
    Option (OutboxEvent × List (InventoryItem × InventoryItem)) :=
  match processOnce worker.handler.consumerName worker.event worker.handler.body
      (Session.begin worker.world worker.tick { db with inventoryItems := rows }) with
  | .ok (some new) t =>
      some (new, (rows.zip t.working.inventoryItems).filter fun c => c.1 ≠ c.2)
  | _ => none

/-- The planned changes, in closed form. -/
theorem plan_changes {db : Database} {worker : StockWorker} {rows : List InventoryItem}
    {new : OutboxEvent} {changes : List (InventoryItem × InventoryItem)}
    (h : worker.plan db rows = some (new, changes)) :
    changes = (rows.map fun row => (row, row.restocked (new.stockMoved row.sku))).filter
      fun c => c.1 ≠ c.2 := by
  unfold StockWorker.plan at h
  split at h
  next new' t hrun =>
    simp only [Option.some.injEq, Prod.mk.injEq] at h
    obtain ⟨rfl, rfl⟩ := h
    rcases processOnce_ok hrun with ⟨-, hnone, -⟩ | ⟨-, m, a, u, at', n, hbody, hsome, -, rfl⟩
    · cases hnone
    · cases hsome
      have hrows : u.working.inventoryItems
          = rows.map fun row => row.restocked (new'.stockMoved row.sku) := body_stockMoved hbody
      show ((rows.zip u.working.inventoryItems).filter _) = _
      rw [hrows, zip_map_self]
  next => cases h

/-- The workers as sessions over the inventory rows. -/
def stockSessions {ι : Type} (db : Database) (workers : ι → StockWorker) :
    Sessions ι InventoryItem String OutboxEvent where
  key := (·.sku)
  effect event row := row.restocked (event.stockMoved row.sku)
  plan i rows := (workers i).plan db rows
  key_effect _ _ := rfl
  change_eq i rows new changes h := by
    intro c hc
    rw [plan_changes h] at hc
    obtain ⟨row, -, rfl⟩ := List.mem_map.mp (List.mem_filter.mp hc).1
    rfl
  unchanged i rows new changes h := by
    intro row hrow hall row' hsku
    rw [plan_changes h] at hall
    by_cases hsame : row = row.restocked (new.stockMoved row.sku)
    · -- the quantity was not changed, so the event does not list the SKU
      have hquantity : row.quantityAvailable = row.quantityAvailable + new.stockMoved row.sku :=
        congrArg (·.quantityAvailable) hsame
      have hzero : new.stockMoved row'.sku = 0 := by
        rw [hsku]
        omega
      show row'.restocked (new.stockMoved row'.sku) = row'
      rw [hzero, restocked_zero]
    · exact absurd rfl (hall (row, row.restocked (new.stockMoved row.sku))
        (List.mem_filter.mpr ⟨List.mem_map.mpr ⟨row, hrow, rfl⟩, decide_eq_true hsame⟩))

/-- Where some statements of the workers lead. -/
def stockRun {ι : Type} [DecidableEq ι] (db : Database) (workers : ι → StockWorker)
    (statements : List (Statement ι String)) : Shared ι InventoryItem String OutboxEvent :=
  run (stockSessions db workers).step statements (Shared.start db.inventoryItems)

/-- Every row is the first one, less the committed reservations of its SKU,
plus the committed releases. -/
def StockAddsUp {ι : Type} [DecidableEq ι] (db : Database) (workers : ι → StockWorker)
    (statements : List (Statement ι String)) : Prop :=
  (stockRun db workers statements).rows = db.inventoryItems.map fun row =>
    row.restocked (releasedQuantity row.sku (stockRun db workers statements).log
      - reservedQuantity row.sku (stockRun db workers statements).log)

instance {ι : Type} [DecidableEq ι] (db : Database) (workers : ι → StockWorker)
    (statements : List (Statement ι String)) : Decidable (StockAddsUp db workers statements) :=
  inferInstanceAs (Decidable (_ = _))

/-- Every UPDATE that goes through writes over the row its worker loaded. -/
def Unraced {ι : Type} [DecidableEq ι] (db : Database) (workers : ι → StockWorker)
    (statements : List (Statement ι String)) : Prop :=
  Along (stockSessions db workers).step
    (fun s statement => (stockSessions db workers).current s statement = true) statements
    (Shared.start db.inventoryItems)

/-- **No stock update is lost** in any interleaving of the statements of any
number of workers, if no row changes between a worker's SELECT and its
UPDATE. -/
theorem stock_updates_kept {ι : Type} [DecidableEq ι] {db : Database} (keyed : db.Keyed)
    (workers : ι → StockWorker) (statements : List (Statement ι String))
    (unraced : Unraced db workers statements) : StockAddsUp db workers statements := by
  have hrows : (stockRun db workers statements).rows = db.inventoryItems.map
      ((stockSessions db workers).replay (stockRun db workers statements).log) :=
    Sessions.no_update_lost _ keyed.skus statements unraced
  unfold StockAddsUp
  rw [hrows]
  apply List.map_congr_left
  intro row _
  exact foldl_restocked row (stockRun db workers statements).log

/-- The `OrderCreated` event of an order of one pencil. -/
def pencilOrdered (eventId orderId : String) (eventId_ne : eventId ≠ "") (orderId_ne : orderId ≠ "") :
    EventEnvelope where
  eventId := eventId
  eventType := "OrderCreated"
  eventVersion := 1
  aggregateType := "Order"
  aggregateId := orderId
  correlationId := orderId
  causationId := none
  occurredAt := 0
  payload := [("order_id", .str orderId),
    ("items", .arr [.obj [("sku", .str "PENCIL"), ("quantity", .int 1)]])]
  eventId_ne := eventId_ne
  eventType_ne := by decide
  eventVersion_ge := by decide
  aggregateType_ne := by decide
  aggregateId_ne := orderId_ne
  correlationId_ne := orderId_ne

/-- Two workers with an order of one pencil each. -/
def pencilWorkers : Bool → StockWorker
  | true => ⟨.calm, 0, .handleOrderCreated, pencilOrdered "event-1" "order-1" (by decide) (by decide)⟩
  | false =>
      ⟨.calm, 9, .handleOrderCreated, pencilOrdered "event-2" "order-2" (by decide) (by decide)⟩

/-- Ten pencils are in stock. -/
def tenPencils : Database :=
  { Database.empty with inventoryItems := [⟨"item-1", "PENCIL", "Pencil", 10, 50, 0⟩] }

/-- One worker after the other. -/
def oneByOne : List (Statement Bool String) :=
  [.load true, .update true "PENCIL", .commit true,
   .load false, .update false "PENCIL", .commit false]

/-- Both load before either commits. -/
def bothAtOnce : List (Statement Bool String) :=
  [.load true, .load false, .update true "PENCIL", .commit true,
   .update false "PENCIL", .commit false]

/-- One after the other, both reservations are subtracted. -/
theorem stock_updates_kept_one_by_one :
    (stockRun tenPencils pencilWorkers oneByOne).rows.map (·.quantityAvailable) = [8]
      ∧ StockAddsUp tenPencils pencilWorkers oneByOne :=
  ⟨by decide +kernel, stock_updates_kept ((admits_iff _).mp (by decide +kernel)) pencilWorkers
    oneByOne ⟨by decide +kernel, by decide +kernel, by decide +kernel, by decide +kernel,
      by decide +kernel, by decide +kernel, trivial⟩⟩

/-- **A reservation is lost**: both workers load ten pencils, both commit
their reservation of one, and nine are left. -/
theorem stock_update_lost :
    ¬ ∀ (workers : Bool → StockWorker) (db : Database) (statements : List (Statement Bool String)),
        (workers true).event.eventId ≠ (workers false).event.eventId → db.Keyed →
        StockAddsUp db workers statements := by
  intro h
  have hkept := h pencilWorkers tenPencils bothAtOnce (by decide)
    ((admits_iff _).mp (by decide +kernel))
  have hlost : ¬ StockAddsUp tenPencils pencilWorkers bothAtOnce := by decide +kernel
  exact hlost hkept

end EventCart
