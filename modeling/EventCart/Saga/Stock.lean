/-
  EventCart.Saga.Stock
  ────────────────────
  **THE STOCK OVER WHOLE RUNS.**

  `stock_conserved`: what an item has available and what unfinished or
  completed orders hold of it always add up to the quantity it was created
  with.  A reservation and its release move exactly the order's lines, since
  three payloads carry them unchanged.

  `stock_nonneg`: no item goes below zero, in runs in which no reservation
  passes the per-line check with more than the stock in total.  The check
  looks at each line by itself, so an order that names one SKU twice can take
  the stock below zero (`stock_goes_negative`).
-/
import EventCart.Saga.Progress
import Mathlib.Algebra.Order.BigOperators.Group.List

namespace EventCart

open EventCart.Lib

/-! ## §1. What orders hold. -/

/-- The order has an event of this type. -/
def Database.emitted (eventType orderId : String) (db : Database) : Bool :=
  db.outboxEvents.any fun event => event.eventType = eventType && event.aggregateId = orderId

/-- The order's stock is reserved and not released. -/
def Database.holds (orderId : String) (db : Database) : Bool :=
  db.emitted "InventoryReserved" orderId && !db.emitted "InventoryReleased" orderId

/-- The quantities the order's lines list for a SKU, added up. -/
def Database.listed (orderId sku : String) (db : Database) : Int :=
  (((db.itemsOf orderId).filter (·.sku = sku)).map (·.quantity)).sum

/-- What all orders together hold of a SKU. -/
def Database.outstanding (sku : String) (db : Database) : Int :=
  ((db.orders.filter fun order => db.holds order.id).map fun order =>
    db.listed order.id sku).sum

/-- The phases in which an order holds its lines. -/
def Phase.holding : Phase → Bool
  | .reserved | .authorized | .invoiced | .notified | .completed | .declined => true
  | _ => false

/-- What an order holds of a SKU, read off its dossier. -/
def Dossier.held (sku : String) (d : Dossier) : Int :=
  if d.trail.any (·.1.eventType = "InventoryReserved")
      && !d.trail.any (·.1.eventType = "InventoryReleased") then
    demand sku (linesOf d.items)
  else 0

theorem any_eventType {p : Phase} {d : Dossier} (h : Saga p d) (eventType : String) :
    d.trail.any (·.1.eventType = eventType) = p.trail.any (·.1 = eventType) := by
  rw [← h.trail_eq, List.any_map]
  rfl

theorem Saga.held_eq {p : Phase} {d : Dossier} (h : Saga p d) (sku : String) :
    d.held sku = if p.holding then demand sku (linesOf d.items) else 0 := by
  unfold Dossier.held
  rw [any_eventType h, any_eventType h]
  cases p <;> rfl

theorem emitted_eq {eventType : String} (hne : eventType ≠ refusalType) (orderId : String)
    (db : Database) :
    db.emitted eventType orderId
      = (db.dossier orderId).trail.any (·.1.eventType = eventType) := by
  show _ = ((db.outboxEvents.filter _).map _).any _
  rw [List.any_map, List.any_filter]
  unfold Database.emitted
  congr 1
  funext event
  show _ = (_ && decide (event.eventType = eventType))
  by_cases htype : event.eventType = eventType
  · have href : event.isRefusal = false := isRefusal_of_ne (by rw [htype]; exact hne)
    simp [htype, href]
  · simp [htype]

/-- What orders hold is the sum over their dossiers. -/
theorem outstanding_eq (sku : String) (db : Database) :
    db.outstanding sku
      = ((db.orders.map (·.id)).map fun id => (db.dossier id).held sku).sum := by
  unfold Database.outstanding
  rw [sum_map_filter, List.map_map]
  congr 2
  funext order
  show (if db.holds order.id then _ else 0) = (db.dossier order.id).held sku
  unfold Database.holds Dossier.held
  rw [emitted_eq (by decide), emitted_eq (by decide), demand_linesOf]
  rfl

/-! ## §2. What commits do to the stock. -/

/-- What a step of an order moves out of the stock, the order holds. -/
theorem Phase.Step.held {p p' : Phase} {sign : Int} (h : Phase.Step p sign p') {d d' : Dossier}
    (hd : Saga p d) (hd' : Saga p' d') (items : d'.items = d.items) (sku : String) :
    d'.held sku = d.held sku - sign * demand sku (linesOf d.items) := by
  rw [hd.held_eq, hd'.held_eq, items]
  cases h <;> simp [Phase.holding]

/-- **A handled event conserves**: the stock and what orders hold move by
the same lines, in opposite directions. -/
theorem Advance.outstanding {db db' : Database} {event : OutboxEvent} (h : Advance db db' event)
    (keyed : (db.orders.map (·.id)).Nodup) :
    ∃ lines sign, db'.inventoryItems = (db.moveAll sign lines).inventoryItems
      ∧ ∀ sku, db'.outstanding sku = db.outstanding sku - sign * demand sku lines := by
  obtain ⟨p, sign, p', -, hd, hd', hstep, hstock, -⟩ := h.step
  refine ⟨_, sign, hstock, fun sku => ?_⟩
  have hitems : (db'.dossier event.aggregateId).items = (db.dossier event.aggregateId).items := by
    show db'.orderItems.filter _ = db.orderItems.filter _
    rw [h.items]
  have hheld := hstep.held hd hd' hitems sku
  -- an order that has a next step is in the table
  have hmem : event.aggregateId ∈ db.orders.map (·.id) := by
    obtain ⟨order, ho⟩ := hd.orders_of_ne (by rintro rfl; cases hstep)
    obtain ⟨hm, hid⟩ := of_mem_orders (show order ∈ _ by rw [ho]; simp)
    exact hid ▸ List.mem_map_of_mem hm
  rw [outstanding_eq, outstanding_eq, h.orders, sum_map_change keyed hmem
    (fun id hid => by rw [h.others id hid]), hheld]
  omega

/-- Nothing about the stock changed. -/
structure SameStock (db db' : Database) : Prop where
  inventoryItems : db'.inventoryItems = db.inventoryItems
  outstanding : ∀ sku, db'.outstanding sku = db.outstanding sku

theorem sameStock_of_dossiers {db db' : Database}
    (inventoryItems : db'.inventoryItems = db.inventoryItems) (orders : db'.orders = db.orders)
    (held : ∀ id sku, (db'.dossier id).held sku = (db.dossier id).held sku) :
    SameStock db db' := by
  refine ⟨inventoryItems, fun sku => ?_⟩
  rw [outstanding_eq, outstanding_eq, orders]
  congr 2
  funext id
  exact held id sku

theorem Publish.sameStock {call : Call} {db db' : Database} (h : Publish call db db') :
    SameStock db db' := by
  cases h with
  | published publishedAt called mem pending routed processed keyed =>
      refine sameStock_of_dossiers rfl rfl fun id sku => ?_
      rw [dossier_updateOutboxEvent id db _ (f := (·.published publishedAt)) (fun _ => rfl)]

/-- A new order holds nothing yet. -/
theorem Opened.outstanding {db db' : Database} {order : Order} (h : Opened db db' order)
    (sku : String) : db'.outstanding sku = db.outstanding sku := by
  have hold : (db.orders.map (·.id)).map (fun id => (db'.dossier id).held sku)
      = (db.orders.map (·.id)).map (fun id => (db.dossier id).held sku) := by
    apply List.map_congr_left
    intro id hid
    obtain ⟨other, hother, rfl⟩ := List.mem_map.mp hid
    rw [h.others other.id (h.fresh other hother)]
  rw [outstanding_eq, outstanding_eq, h.orders, List.map_append, List.map_append,
    List.sum_append, hold]
  show _ + ([(db'.dossier order.id).held sku]).sum = _
  rw [h.saga.held_eq]
  simp [Phase.holding]

/-- What a commit can do to the stock. -/
inductive StockChange (call : Call) (db db' : Database) : Prop where
  | same (h : SameStock db db')
  | created (payload : InventoryItemCreate) (id : String) (createdAt : DateTime)
      (called : call = .createInventoryItem payload)
      (keyed : (db.addInventoryItem (payload.row id createdAt)).Keyed)
      (h : db' = db.addInventoryItem (payload.row id createdAt))
  | advanced (event : OutboxEvent) (delivering : Delivering db call event)
      (h : Advance db db' event)

theorem Commit.stockChange {call : Call} {db db' : Database} (inv : SagaInv db)
    (h : Commit call db db') : StockChange call db db' := by
  cases h with
  | @stocked payload id createdAt called keyed => exact .created payload id createdAt called keyed rfl
  | ordered called placed keyed =>
      exact .same ⟨rfl, (ordered_opened inv.toFiled placed keyed).outstanding⟩
  | @handled event envelope consumer policy paymentFails db₁ processedAt called mem pending valid
      routed fresh handled keyed =>
      have hfresh := (consumed_of_routed routed).trans fresh
      exact .advanced event ⟨⟨policy, paymentFails, called⟩, mem, pending, hfresh⟩
        (handled_advance inv mem valid routed fresh handled keyed)
  | published h => exact .same h.sameStock
  | @attempted event policy paymentFails error stamp called mem pending unrouted keyed =>
      obtain ⟨_, _, _, h⟩ := attemptFailed_delivery (sagaHandlers paymentFails) policy event error
        stamp db
      refine .same (sameStock_of_dossiers ?_ ?_ fun id sku => ?_)
      · rw [h]
      · rw [h]
      · rw [dossier_attemptFailed]
  | @replayed row id occurredAt replayedAt called mem once id_ne keyed =>
      obtain ⟨event, hevent, refusal, hdraft⟩ := inv.deadLetters row mem
      have hrefusal : (row.draft.row id occurredAt).isRefusal = true := by
        rw [← hdraft]
        exact refusal
      refine .same (sameStock_of_dossiers rfl rfl fun id' sku => ?_)
      rw [dossier_updateDeadLetter]
      by_cases hid : (row.draft.row id occurredAt).aggregateId = id'
      · rw [dossier_addOutboxEvent_refusal hid hrefusal]
        rfl
      · rw [dossier_addOutboxEvent_ne hid]

/-- What a whole call can do to the stock: a publication changes nothing of it. -/
theorem Effect.stockChange {call : Call} {db db' : Database} (inv : SagaInv db)
    (h : Effect call db db') : ∃ db₁, StockChange call db db₁ ∧ SameStock db₁ db' := by
  cases h with
  | idle => exact ⟨db, .same ⟨rfl, fun _ => rfl⟩, rfl, fun _ => rfl⟩
  | commit h => exact ⟨db', h.stockChange inv, rfl, fun _ => rfl⟩
  | publish h₁ h₂ => exact ⟨_, h₁.stockChange inv, h₂.sameStock⟩

/-! ## §3. Conservation. -/

/-- The inventory has a row for the SKU. -/
def Database.onSale (sku : String) (db : Database) : Bool :=
  db.inventoryItems.any (·.sku = sku)

theorem onSale_of_mem {db : Database} {row : InventoryItem} (mem : row ∈ db.inventoryItems) :
    db.onSale row.sku = true :=
  List.any_eq_true.mpr ⟨row, mem, by simp⟩

/-- The database of a run, and what every SKU was created with. -/
structure Ledger where
  db : Database
  created : String → Int

/-- The next database, and its entry in the ledger: the request that puts a
new SKU on sale says how much there is of it. -/
def Ledger.enter (creation : Option InventoryItemCreate) (db : Database) (l : Ledger) : Ledger where
  db := db
  created :=
    match creation with
    | none => l.created
    | some payload =>
        if l.db.onSale payload.sku = false ∧ db.onSale payload.sku = true then
          Function.update l.created payload.sku payload.quantityAvailable
        else l.created

/-- Empty tables, and nothing created. -/
def Ledger.empty : Ledger := ⟨Database.empty, fun _ => 0⟩

/-- A call on database and ledger. -/
def ledgerStep (label : Label) (l : Ledger) : Ledger :=
  l.enter label.call.creation (step label l.db)

/-- What the SKUs were created with, over a run from empty tables. -/
def createdWith (labels : List Label) : String → Int :=
  (run ledgerStep labels Ledger.empty).created

theorem ledger_db : ∀ (labels : List Label) (l : Ledger),
    (run ledgerStep labels l).db = runCalls labels l.db
  | [], _ => rfl
  | label :: labels, l => ledger_db labels (ledgerStep label l)

/-- A SKU on sale keeps its entry. -/
theorem created_of_onSale {creation : Option InventoryItemCreate} {db : Database} {l : Ledger}
    {sku : String} (h : l.db.onSale sku = true) :
    (l.enter creation db).created sku = l.created sku := by
  cases creation with
  | none => rfl
  | some payload =>
      show (if _ then _ else l.created : String → Int) sku = _
      split
      next hnew =>
        have hne : sku ≠ payload.sku := by
          rintro rfl
          rw [hnew.1] at h
          exact nomatch h
        exact Function.update_of_ne hne _ _
      next => rfl

/-- A new SKU gets its entry. -/
theorem created_of_new {payload : InventoryItemCreate} {db : Database} {l : Ledger}
    (absent : l.db.onSale payload.sku = false) (present : db.onSale payload.sku = true) :
    (l.enter (some payload) db).created payload.sku = payload.quantityAvailable := by
  show (if _ then _ else _ : String → Int) payload.sku = _
  rw [if_pos ⟨absent, present⟩]
  exact Function.update_self _ _ _

/-- No order holds anything of a SKU that is not on sale. -/
theorem outstanding_absent {db : Database} (filed : Filed db) {sku : String}
    (h : db.onSale sku = false) : db.outstanding sku = 0 := by
  have hlisted : ∀ id, db.listed id sku = 0 := by
    intro id
    unfold Database.listed
    have hnil : (db.itemsOf id).filter (·.sku = sku) = [] := by
      rw [List.filter_eq_nil_iff]
      intro row hrow hsku
      have hmem : row ∈ db.orderItems := (List.mem_filter.mp hrow).1
      obtain ⟨item, hitem, heq⟩ := List.mem_map.mp (filed.onSale row hmem)
      have hon := onSale_of_mem hitem
      rw [heq, of_decide_eq_true hsku, h] at hon
      exact nomatch hon
    rw [hnil]
    rfl
  unfold Database.outstanding
  apply List.sum_eq_zero
  intro n hn
  obtain ⟨order, -, rfl⟩ := List.mem_map.mp hn
  exact hlisted order.id

/-- Every SKU is either available or held by an order. -/
def Ledger.Balanced (l : Ledger) : Prop :=
  ∀ row ∈ l.db.inventoryItems,
    row.quantityAvailable + l.db.outstanding row.sku = l.created row.sku

/-- **What a call commits keeps the ledger balanced.** -/
theorem effect_balanced {l : Ledger} (inv : SagaInv l.db) (h : l.Balanced) {call : Call}
    {db' : Database} (effect : Effect call l.db db') : (l.enter call.creation db').Balanced := by
  obtain ⟨db₁, hchange, hsame⟩ := effect.stockChange inv
  intro row hrow
  show row.quantityAvailable + db'.outstanding row.sku = _
  have hrow₁ : row ∈ db₁.inventoryItems := hsame.inventoryItems ▸ hrow
  rw [hsame.outstanding]
  cases hchange with
  | same hs =>
      have hold : row ∈ l.db.inventoryItems := hs.inventoryItems ▸ hrow₁
      rw [hs.outstanding]
      exact (h row hold).trans (created_of_onSale (onSale_of_mem hold)).symm
  | created payload id createdAt called keyed hdb =>
      subst hdb
      show row.quantityAvailable + l.db.outstanding row.sku = _
      rcases List.mem_append.mp hrow₁ with hold | hnew
      · exact (h row hold).trans (created_of_onSale (onSale_of_mem hold)).symm
      · -- the new row: nothing of it is reserved yet
        obtain rfl := List.mem_singleton.mp hnew
        have habsent : l.db.onSale payload.sku = false := by
          unfold Database.onSale
          rw [List.any_eq_false]
          intro other hother heq
          have hskus : ((l.db.inventoryItems ++ [payload.row id createdAt]).map (·.sku)).Nodup :=
            keyed.skus
          exact fresh_of_nodup hskus other hother (of_decide_eq_true heq)
        have hpresent : db'.onSale payload.sku = true := onSale_of_mem hrow
        show payload.quantityAvailable + l.db.outstanding payload.sku
          = (l.enter call.creation db').created payload.sku
        rw [called]
        show _ = (l.enter (some payload) db').created payload.sku
        rw [created_of_new habsent hpresent, outstanding_absent inv.toFiled habsent]
        exact Int.add_zero _
  | advanced event delivering hadvance =>
      obtain ⟨lines, sign, hstock, hout⟩ := hadvance.outstanding inv.keyed.orders
      rw [hstock, moveAll_eq] at hrow₁
      obtain ⟨old, hold, rfl⟩ := List.mem_map.mp hrow₁
      show old.quantityAvailable + sign * demand old.sku lines + db₁.outstanding old.sku
        = (l.enter call.creation db').created old.sku
      rw [created_of_onSale (onSale_of_mem hold), hout, ← h old hold]
      omega

/-- **The step lemma**: a call keeps the ledger balanced. -/
theorem ledgerStep_balanced {l : Ledger} (inv : SagaInv l.db) (h : l.Balanced) (label : Label) :
    (ledgerStep label l).Balanced :=
  effect_balanced inv h (step_effect inv.ready label)

/-- **The run lemma** for the ledger. -/
theorem ledger_inv (labels : List Label) :
    SagaInv (run ledgerStep labels Ledger.empty).db
      ∧ (run ledgerStep labels Ledger.empty).Balanced := by
  refine run_invariant (I := fun l : Ledger => SagaInv l.db ∧ l.Balanced) ?_ labels _
    ⟨stocked_empty.inv, fun row hrow => nomatch hrow⟩
  intro l label h
  exact ⟨step_inv label h.1, ledgerStep_balanced h.1 h.2 label⟩

/-- **Stock is conserved**: in every reachable state, what an item has
available and what orders hold of it add up to what it was created with. -/
theorem stock_conserved (labels : List Label) :
    ∀ row ∈ (runCalls labels Database.empty).inventoryItems,
      row.quantityAvailable + (runCalls labels Database.empty).outstanding row.sku
        = createdWith labels row.sku := by
  have hbalanced := (ledger_inv labels).2
  unfold Ledger.Balanced at hbalanced
  rw [ledger_db] at hbalanced
  exact hbalanced

/-- A request that puts `n` pencils on sale. -/
def pencils (n : Nat) : InventoryItemCreate :=
  ⟨"PENCIL", "Pencil", n, 50, by decide, by decide, Int.natCast_nonneg n, by decide⟩

/-- An order of two pencils, on two lines. -/
def twoPencils : OrderCreate :=
  ⟨"ann@example.com", [⟨"PENCIL", 1, by decide, by decide⟩, ⟨"PENCIL", 1, by decide, by decide⟩],
    by decide, by decide⟩

/-- `n` pencils go on sale, two are ordered, and the order's event is
delivered. -/
def reservationRun (n : Nat) : List Label :=
  [⟨.calm, 0, .createInventoryItem (pencils n)⟩, ⟨.calm, 100, .createOrder twoPencils⟩,
   ⟨.calm, 200, .deliver "id-108" {} fun _ => false⟩]

/-- The row of the pencils, with `n` available. -/
def pencilRow (n : Int) : InventoryItem := ⟨"id-0", "PENCIL", "Pencil", n, 50, 1⟩

/-- Both pencils are held by the order that reserved them. -/
theorem stock_conserved_two_pencils :
    pencilRow 0 ∈ (runCalls (reservationRun 2) Database.empty).inventoryItems
      ∧ 0 + (runCalls (reservationRun 2) Database.empty).outstanding "PENCIL"
        = createdWith (reservationRun 2) "PENCIL" := by
  have hmem : pencilRow 0 ∈ (runCalls (reservationRun 2) Database.empty).inventoryItems := by
    decide +kernel
  exact ⟨hmem, stock_conserved (reservationRun 2) (pencilRow 0) hmem⟩

/-! ## §4. Stock below zero. -/

/-- The check the worker does not make: before a reservation that passes the
check of every line, each row has as much as the lines of the order ask of it
together. -/
def Covered (db : Database) (label : Label) : Prop :=
  ∀ event, Reserving db label event →
    db.stocks (linesOf (db.itemsOf event.aggregateId)) = true →
    ∀ row ∈ db.inventoryItems, db.listed event.aggregateId row.sku ≤ row.quantityAvailable

/-- The executable condition: every PENDING `OrderCreated` event is covered. -/
theorem covered_of_all {db : Database} {label : Label}
    (h : ∀ event ∈ db.outboxEvents, event.status = .PENDING → event.eventType = "OrderCreated" →
      ∀ row ∈ db.inventoryItems, db.listed event.aggregateId row.sku ≤ row.quantityAvailable) :
    Covered db label :=
  fun event hr _ => h event hr.1.mem hr.1.pending hr.2

/-- No row is below zero. -/
def Database.Nonneg (db : Database) : Prop :=
  ∀ row ∈ db.inventoryItems, 0 ≤ row.quantityAvailable

/-- What the lines of an order ask of a SKU is no negative amount. -/
theorem demand_nonneg {p : Phase} {d : Dossier} (h : Saga p d) (hp : p ≠ .absent)
    (sku : String) : 0 ≤ demand sku (linesOf d.items) := by
  obtain ⟨order, ho⟩ := h.orders_of_ne hp
  rw [demand_linesOf]
  apply List.sum_nonneg
  intro n hn
  obtain ⟨row, hrow, rfl⟩ := List.mem_map.mp hn
  exact Int.le_of_lt ((h.regular order ho).positive row (List.mem_of_mem_filter hrow))

/-- **The step lemma**: a covered call keeps the stock nonnegative. -/
theorem step_nonneg {db : Database} {label : Label} (inv : SagaInv db) (h : db.Nonneg)
    (covered : Covered db label) : (step label db).Nonneg := by
  obtain ⟨db₁, hchange, hsame⟩ := (step_effect inv.ready label).stockChange inv
  intro row hrow
  rw [hsame.inventoryItems] at hrow
  cases hchange with
  | same hs => exact h row (hs.inventoryItems ▸ hrow)
  | created payload id createdAt called keyed hdb =>
      subst hdb
      rcases List.mem_append.mp hrow with hold | hnew
      · exact h row hold
      · obtain rfl := List.mem_singleton.mp hnew
        -- a new row starts with what the request bounds from below
        exact payload.quantityAvailable_ge
  | advanced event delivering hadvance =>
      -- only a reservation takes stock away, and it is covered
      obtain ⟨p, sign, p', hwaiting, hd, hd', hstep, hstock, hchecked⟩ := hadvance.step
      rw [hstock, moveAll_eq] at hrow
      obtain ⟨old, hold, rfl⟩ := List.mem_map.mp hrow
      have hquantity := h old hold
      show 0 ≤ old.quantityAvailable + sign * demand old.sku _
      cases hstep with
      | reserve =>
          have htype : event.eventType = "OrderCreated" := (Option.some.inj hwaiting).symm
          have hstocks : db.stocks (linesOf (db.itemsOf event.aggregateId)) = true := hchecked rfl
          have hcover := covered event ⟨delivering, htype⟩ hstocks old hold
          have hlisted : demand old.sku (linesOf (db.dossier event.aggregateId).items)
              = db.listed event.aggregateId old.sku := demand_linesOf _ _
          omega
      | release =>
          have hdemand := demand_nonneg hd (by simp) old.sku
          omega
      | refuse | authorize | invoice | notify | complete | decline | cancel => omega

/-- **The stock stays nonnegative** over every run whose reservations are
covered. -/
theorem stock_nonneg (labels : List Label) {db : Database} (start : Stocked db)
    (nonneg : ∀ row ∈ db.inventoryItems, 0 ≤ row.quantityAvailable)
    (covered : Along step Covered labels db) :
    ∀ row ∈ (runCalls labels db).inventoryItems, 0 ≤ row.quantityAvailable := by
  have hrun : SagaInv (runCalls labels db) ∧ (runCalls labels db).Nonneg := by
    refine run_invariant_along (I := fun db => SagaInv db ∧ db.Nonneg) ?_ labels db
      ⟨start.inv, nonneg⟩ covered
    intro db label h hcovered
    exact ⟨step_inv label h.1, step_nonneg h.1 h.2 hcovered⟩
  exact hrun.2

/-- Two pencils in stock cover the order. -/
theorem stock_nonneg_two_pencils :
    (pencilRow 0 ∈ (runCalls (reservationRun 2) Database.empty).inventoryItems)
      ∧ 0 ≤ (pencilRow 0).quantityAvailable := by
  have hmem : pencilRow 0 ∈ (runCalls (reservationRun 2) Database.empty).inventoryItems := by
    decide +kernel
  refine ⟨hmem, stock_nonneg (reservationRun 2) stocked_empty (fun row hrow => nomatch hrow)
    ⟨covered_of_all ?_, covered_of_all ?_, covered_of_all ?_, trivial⟩ (pencilRow 0) hmem⟩ <;>
    decide +kernel

/-- **The stock goes below zero**: one pencil is there, both lines of the
order pass the check, and the order takes two. -/
theorem stock_goes_negative :
    ¬ ∀ labels : List Label, ∀ row ∈ (runCalls labels Database.empty).inventoryItems,
        0 ≤ row.quantityAvailable := by
  intro h
  have hall : (runCalls (reservationRun 1) Database.empty).inventoryItems.all
      (fun row => 0 ≤ row.quantityAvailable) = true :=
    List.all_eq_true.mpr fun row hrow => decide_eq_true (h _ row hrow)
  have hsome : (runCalls (reservationRun 1) Database.empty).inventoryItems.all
      (fun row => 0 ≤ row.quantityAvailable) = false := by decide +kernel
  rw [hsome] at hall
  exact nomatch hall

end EventCart
