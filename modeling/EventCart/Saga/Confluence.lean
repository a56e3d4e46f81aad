/-
  EventCart.Saga.Confluence
  ─────────────────────────
  **WHEN STOCK SUFFICES, THE ORDER OF DELIVERIES DOES NOT MATTER.**

  A reservation depends on what other orders left, so in general two runs of
  the same deliveries end differently.  When every SKU has what all orders
  together ask of it, what is available plus what orders hold never changes,
  and an order that is still to be reserved always finds its lines.  No order
  is refused then, and every complete run ends in the one settlement that can
  be read off the orders and the chosen payment outcomes (`Underway.settlement`).

    §1  what orders ask for, and what stays as it was;
    §2  the invariant of a run of deliveries;
    §3  complete runs, and `delivery_order_irrelevant`.
-/
import EventCart.Saga.Deliveries
import EventCart.Saga.Evidence

namespace EventCart

open EventCart.Lib

/-! ## §1. Demand and balance. -/

/-- What the lines of all orders together ask of a SKU. -/
def Database.demanded (sku : String) (db : Database) : Int :=
  ((db.orderItems.filter (·.sku = sku)).map (·.quantity)).sum

/-- Every row has what all orders together ask of it. -/
def Database.Suffices (db : Database) : Prop :=
  ∀ row ∈ db.inventoryItems, db.demanded row.sku ≤ row.quantityAvailable

instance (db : Database) : Decidable db.Suffices :=
  inferInstanceAs (Decidable (∀ row ∈ db.inventoryItems, _))

/-- Every SKU with what is there of it, available or held by an order. -/
def Database.balance (db : Database) : List (String × Int) :=
  db.inventoryItems.map fun row => (row.sku, row.quantityAvailable + db.outstanding row.sku)

/-- Every line belongs to an order. -/
theorem SagaInv.order_of_item {db : Database} (inv : SagaInv db) {row : OrderItem}
    (mem : row ∈ db.orderItems) : row.orderId ∈ db.orders.map (·.id) := by
  obtain ⟨p, h⟩ := inv.dossiers row.orderId
  have hin : row ∈ (db.dossier row.orderId).items := List.mem_filter.mpr ⟨mem, by simp⟩
  have hp : p ≠ .absent := by
    rintro rfl
    generalize db.dossier row.orderId = d at h hin
    cases h
    cases hin
  obtain ⟨order, horder, hid⟩ := order_of_dossier h hp
  exact List.mem_map.mpr ⟨order, horder, hid⟩

/-- What is asked of a SKU is the sum over the orders. -/
theorem SagaInv.demanded_eq {db : Database} (inv : SagaInv db) (sku : String) :
    db.demanded sku = ((db.orders.map (·.id)).map fun id => db.listed id sku).sum := by
  have howned : ∀ row ∈ db.orderItems.filter (·.sku = sku), row.orderId ∈ db.orders.map (·.id) :=
    fun row hrow => inv.order_of_item (List.mem_of_mem_filter hrow)
  unfold Database.demanded
  rw [sum_map_partition (fun row => row.quantity) inv.keyed.orders howned]
  congr 2
  funext id
  unfold Database.listed Database.itemsOf
  rw [List.filter_filter, List.filter_filter]
  congr 3
  funext row
  exact Bool.and_comm _ _

/-- What the order `id` lists is no negative amount, and it holds that or
nothing. -/
theorem Saga.held_le {p : Phase} {db : Database} {id : String} (h : Saga p (db.dossier id))
    (hp : p ≠ .absent) (sku : String) :
    0 ≤ db.listed id sku ∧ (db.dossier id).held sku ≤ db.listed id sku := by
  have hlisted : demand sku (linesOf (db.dossier id).items) = db.listed id sku := demand_linesOf _ _
  have hnonneg := demand_nonneg h hp sku
  have hheld := h.held_eq sku
  rw [hlisted] at hnonneg hheld
  refine ⟨hnonneg, ?_⟩
  rw [hheld]
  split <;> omega

/-- **What is left for an order that holds nothing yet**: all other orders
together hold no more than they list. -/
theorem SagaInv.spare {db : Database} (inv : SagaInv db) {id : String} {p : Phase}
    (h : Saga p (db.dossier id)) (hp : p ≠ .absent) (free : p.holding = false) (sku : String) :
    db.listed id sku + db.outstanding sku ≤ db.demanded sku := by
  have hmem : id ∈ db.orders.map (·.id) := by
    obtain ⟨order, horder, hid⟩ := order_of_dossier h hp
    exact List.mem_map.mpr ⟨order, horder, hid⟩
  let others : String → Int := fun other => if other = id then 0 else db.listed other sku
  -- the demand of the other orders
  have hothers : ((db.orders.map (·.id)).map others).sum
      = ((db.orders.map (·.id)).map fun id => db.listed id sku).sum + (0 - db.listed id sku) := by
    have hchange := sum_map_change (f := others) (g := fun id => db.listed id sku)
      inv.keyed.orders hmem fun other hne => if_neg hne
    rw [hchange]
    show _ + ((if id = id then 0 else db.listed id sku) - db.listed id sku) = _
    rw [if_pos rfl]
  -- this order holds nothing, each other one at most its lines
  have hheld : ((db.orders.map (·.id)).map fun id => (db.dossier id).held sku).sum
      ≤ ((db.orders.map (·.id)).map others).sum := by
    apply List.sum_le_sum
    intro other hother
    obtain ⟨order, horder, rfl⟩ := List.mem_map.mp hother
    by_cases hid : order.id = id
    · show _ ≤ if order.id = id then 0 else _
      rw [if_pos hid, hid, h.held_eq, free]
      exact Int.le_refl 0
    · show _ ≤ if order.id = id then 0 else _
      rw [if_neg hid]
      obtain ⟨q, hq, hstatus⟩ := inv.phase_of_order horder
      refine (hq.held_le ?_ sku).2
      rintro rfl
      cases hstatus
  rw [← outstanding_eq] at hheld
  rw [inv.demanded_eq]
  omega

/-- Every SKU has, available or held, what all orders ask of it. -/
def Database.Provided (db : Database) : Prop :=
  ∀ entry ∈ db.balance, db.demanded entry.1 ≤ entry.2

/-- **An order still to be reserved finds its lines.** -/
theorem SagaInv.inStock {db : Database} (inv : SagaInv db) (provided : db.Provided)
    (label : Label) : InStock db label := by
  rintro event ⟨delivering, type⟩
  have hnot : event.isRefusal = false := isRefusal_of_ne (by rw [type]; decide)
  obtain ⟨p, h⟩ := inv.dossiers event.aggregateId
  have hfront := mem_trail delivering.mem hnot
  rw [delivering.fresh] at hfront
  obtain rfl : p = .placed := Phase.eq_of_waiting (h.waiting_of_mem hfront) (by
    rw [show event.entry.eventType = event.eventType from rfl, type]
    rfl)
  unfold Database.stocks
  rw [List.all_eq_true]
  intro line hline
  obtain ⟨row, hrow, rfl⟩ := List.mem_map.mp hline
  obtain ⟨hmem, hid⟩ := of_mem_items hrow
  obtain ⟨item, hitem, hsku⟩ := List.mem_map.mp (inv.onSale row hmem)
  have hfind : db.findInventoryItem row.sku = some item := by
    rw [← hsku]
    exact find_row inv.keyed.skus hitem
  -- the line is one of the lines that the order lists for the SKU
  have hquantity : row.quantity ≤ db.listed event.aggregateId row.sku := by
    apply List.single_le_sum
    · intro n hn
      obtain ⟨other, hother, rfl⟩ := List.mem_map.mp hn
      obtain ⟨order, ho⟩ := h.orders_of_ne (by simp)
      exact Int.le_of_lt ((h.regular order ho).positive other (List.mem_of_mem_filter hother))
    · exact List.mem_map_of_mem (List.mem_filter.mpr ⟨hrow, by simp⟩)
  have hspare := inv.spare h (by simp) rfl row.sku
  have hprovided : db.demanded row.sku ≤ item.quantityAvailable + db.outstanding row.sku := by
    have hentry := provided _ (List.mem_map_of_mem hitem)
    rwa [hsku] at hentry
  show (hasSku row.line && hasQuantity row.line
    && (db.findInventoryItem row.sku).any fun item => row.quantity ≤ item.quantityAvailable) = true
  rw [hfind, hasSku_line, hasQuantity_line]
  have hle : row.quantity ≤ item.quantityAvailable := by omega
  exact decide_eq_true hle

/-! ## §2. A run of deliveries. -/

section deliver
variable {db db' : Database} {eventId : String} {policy : RetryPolicy}
  {paymentFails : String → Bool}

/-- A delivery adds no order and no line. -/
theorem Commit.orders_of_deliver (inv : SagaInv db)
    (h : Commit (.deliver eventId policy paymentFails) db db') :
    db'.orders.map (·.id) = db.orders.map (·.id) ∧ db'.orderItems = db.orderItems := by
  cases h with
  | stocked _ _ called => cases called
  | ordered called => cases called
  | replayed _ _ called => cases called
  | handled called mem pending valid routed fresh handled keyed =>
      have hadvance := handled_advance inv mem valid routed fresh handled keyed
      exact ⟨hadvance.orders, hadvance.items⟩
  | published h =>
      cases h
      exact ⟨rfl, rfl⟩
  | @attempted event policy paymentFails error stamp =>
      obtain ⟨_, _, _, h⟩ := attemptFailed_delivery (sagaHandlers paymentFails) policy event error
        stamp db
      rw [h]
      exact ⟨rfl, rfl⟩

theorem Effect.orders_of_deliver (inv : SagaInv db)
    (h : Effect (.deliver eventId policy paymentFails) db db') :
    db'.orders.map (·.id) = db.orders.map (·.id) ∧ db'.orderItems = db.orderItems := by
  cases h with
  | idle => exact ⟨rfl, rfl⟩
  | commit h => exact h.orders_of_deliver inv
  | publish h₁ h₂ =>
      obtain ⟨hids, hitems⟩ := h₁.orders_of_deliver inv
      cases h₂
      exact ⟨hids, hitems⟩

theorem SameStock.balance (h : SameStock db db') : db'.balance = db.balance := by
  unfold Database.balance
  rw [h.inventoryItems]
  congr 1
  funext row
  rw [h.outstanding]

/-- What a delivery takes out of the stock, an order holds, and what it puts
back, none does. -/
theorem StockChange.balance (keyed : db.Keyed)
    (h : StockChange (.deliver eventId policy paymentFails) db db') :
    db'.balance = db.balance := by
  cases h with
  | same h => exact h.balance
  | created payload id createdAt called => cases called
  | advanced event delivering hadvance =>
      obtain ⟨lines, sign, hstock, hout⟩ := hadvance.outstanding keyed.orders
      unfold Database.balance
      rw [hstock, moveAll_eq, List.map_map]
      apply List.map_congr_left
      intro row _
      show (row.sku, row.quantityAvailable + sign * demand row.sku lines + db'.outstanding row.sku)
        = _
      rw [hout, Prod.mk.injEq]
      exact ⟨rfl, by omega⟩

theorem Effect.balance (inv : SagaInv db)
    (h : Effect (.deliver eventId policy paymentFails) db db') : db'.balance = db.balance := by
  obtain ⟨db₁, hchange, hsame⟩ := h.stockChange inv
  exact hsame.balance.trans (hchange.balance inv.keyed)

end deliver

/-- What a run of deliveries keeps of the database it started from. -/
structure Underway (fails : String → Bool) (start db : Database) : Prop where
  inv : SagaInv db
  unrefused : db.Unrefused
  chosen : db.Chosen fails
  ids : db.orders.map (·.id) = start.orders.map (·.id)
  items : db.orderItems = start.orderItems
  balance : db.balance = start.balance

/-- Orders ask for what they asked for at the start, and it is still there. -/
theorem Underway.provided {fails : String → Bool} {start db : Database}
    (h : Underway fails start db) (provided : start.Provided) : db.Provided := by
  intro entry hentry
  rw [h.balance] at hentry
  have hstart := provided entry hentry
  unfold Database.demanded at hstart ⊢
  rw [h.items]
  exact hstart

/-- **The step lemma**: a delivery keeps it, and refuses no order. -/
theorem Underway.deliver {fails : String → Bool} {start db : Database}
    (h : Underway fails start db) (provided : start.Provided) (call : DeliverCall) :
    Underway fails start (deliverNext fails call db) := by
  have heffect : Effect (.deliver call.eventId call.policy (db.paymentFails fails)) db
      (deliverNext fails call db) := step_effect h.inv.ready (call.label fails db)
  obtain ⟨hids, hitems⟩ := heffect.orders_of_deliver h.inv
  have hstock := h.inv.inStock (h.provided provided) (call.label fails db)
  exact
    { inv := step_inv _ h.inv
      unrefused := step_unrefused h.inv h.unrefused hstock
      chosen := deliverNext_chosen h.inv h.chosen call
      ids := hids.trans h.ids
      items := hitems.trans h.items
      balance := (heffect.balance h.inv).trans h.balance }

/-- **The run lemma.** -/
theorem Underway.deliverAll {fails : String → Bool} {start db : Database}
    (h : Underway fails start db) (provided : start.Provided) (calls : List DeliverCall) :
    Underway fails start (deliverAll fails calls db) :=
  run_invariant (fun _ call h => h.deliver provided call) calls db h

/-! ## §3. Where runs start. -/

/-- The call puts an item on sale or takes an order. -/
def Call.opens : Call → Bool
  | .createInventoryItem _ | .createOrder _ => true
  | .deliver _ _ _ | .replayDeadLetterEvent _ => false

/-- No event of any order was handled. -/
def Database.Untouched (db : Database) : Prop :=
  ∀ id p, Saga p (db.dossier id) → p = .absent ∨ p = .placed

theorem Stocked.untouched {db : Database} (h : Stocked db) : db.Untouched := by
  intro id p hp
  have hempty : db.dossier id = ⟨[], [], [], [], [], [], []⟩ := by
    refine dossier_absent h.inv.toFiled fun order mem => ?_
    rw [h.orders] at mem
    cases mem
  rw [hempty] at hp
  exact .inl (hp.phase_unique .absent)

/-- A call that opens orders handles no event. -/
theorem step_untouched {db : Database} {label : Label} (inv : SagaInv db) (h : db.Untouched)
    (opens : label.call.opens = true) : (step label db).Untouched := by
  intro id q hq
  obtain ⟨p, p', hp, hp', hprogress⟩ := step_moves inv label id
  obtain rfl : p' = q := hp'.phase_unique hq
  cases hprogress with
  | stay => exact h id _ hp
  | opened => exact .inr rfl
  | stepped delivering =>
      obtain ⟨⟨policy, paymentFails, called⟩, -⟩ := delivering
      rw [called] at opens
      cases opens

/-- Creating items and orders leaves every order to be reserved. -/
theorem runCalls_untouched : ∀ (openings : List Label) {db : Database}, SagaInv db →
    db.Untouched → (∀ label ∈ openings, label.call.opens = true) →
    (runCalls openings db).Untouched
  | [], _, _, h, _ => h
  | label :: openings, _, inv, h, opens =>
      runCalls_untouched openings (step_inv label inv)
        (step_untouched inv h (opens label List.mem_cons_self))
        fun l hl => opens l (List.mem_cons_of_mem _ hl)

/-- No order holds anything yet. -/
theorem Database.Untouched.outstanding {db : Database} (h : db.Untouched) (inv : SagaInv db)
    (sku : String) : db.outstanding sku = 0 := by
  rw [outstanding_eq]
  apply List.sum_eq_zero
  intro n hn
  obtain ⟨id, -, rfl⟩ := List.mem_map.mp hn
  obtain ⟨p, hp⟩ := inv.dossiers id
  rw [hp.held_eq]
  rcases h id p hp with rfl | rfl <;> rfl

theorem Database.Untouched.provided {db : Database} (h : db.Untouched) (inv : SagaInv db)
    (suffices_ : db.Suffices) : db.Provided := by
  intro entry hentry
  obtain ⟨row, hrow, rfl⟩ := List.mem_map.mp hentry
  show db.demanded row.sku ≤ row.quantityAvailable + db.outstanding row.sku
  rw [h.outstanding inv, Int.add_zero]
  exact suffices_ row hrow

/-- A run of deliveries that is still to begin. -/
theorem Database.Untouched.underway {db : Database} (h : db.Untouched) (inv : SagaInv db)
    (fails : String → Bool) : Underway fails db db where
  inv := inv
  unrefused id hrefused := by
    rcases h id _ hrefused with hp | hp <;> cases hp
  chosen id p hp b hb := by
    rcases h id p hp with rfl | rfl <;> cases hb
  ids := rfl
  items := rfl
  balance := rfl

/-! ## §4. Complete runs. -/

/-- The last phase of an order whose payment fails, or does not. -/
def finalPhase (fails : Bool) : Phase := if fails then .cancelled else .completed

/-- The last status of such an order. -/
def finalStatus (fails : Bool) : OrderStatus := if fails then .CANCELLED else .COMPLETED

/-- What a run of deliveries comes to. -/
structure Settlement where
  /-- The SKUs, each with its `quantity_available`. -/
  available : List (String × Int)
  /-- The orders, each with its status. -/
  statuses : List (String × OrderStatus)
  /-- The amounts of an order's payments. -/
  payments : String → List Int
  /-- The amounts of an order's invoices. -/
  invoices : String → List Int

def Database.settlement (db : Database) : Settlement where
  available := db.inventoryItems.map fun row => (row.sku, row.quantityAvailable)
  statuses := db.orders.map fun order => (order.id, order.status)
  payments orderId := (db.payments.filter (·.orderId = orderId)).map (·.amountCents)
  invoices orderId := (db.invoices.filter (·.orderId = orderId)).map (·.amountCents)

/-- What the chosen outcomes make of new orders: those that are paid keep
their stock and are billed, the others give it back. -/
def Database.prospect (fails : String → Bool) (db : Database) : Settlement where
  available := db.inventoryItems.map fun row => (row.sku, row.quantityAvailable
    - ((db.orders.filter fun order => !fails order.id).map fun order =>
        db.listed order.id row.sku).sum)
  statuses := db.orders.map fun order => (order.id, finalStatus (fails order.id))
  payments orderId :=
    if orderId ∈ db.orders.map (·.id) then [totalCents (db.itemsOf orderId)] else []
  invoices orderId :=
    if orderId ∈ db.orders.map (·.id) ∧ fails orderId = false then
      [totalCents (db.itemsOf orderId)] else []

section complete
variable {fails : String → Bool} {start db : Database}

/-- **Every order ends as chosen**, once no event is PENDING. -/
theorem Underway.final (h : Underway fails start db) (idle : db.Idle) {id : String}
    (mem : id ∈ db.orders.map (·.id)) : Saga (finalPhase (fails id)) (db.dossier id) := by
  obtain ⟨order, horder, rfl⟩ := List.mem_map.mp mem
  obtain ⟨p, hp, hstatus⟩ := h.inv.phase_of_order horder
  have hwaiting : p.waiting = none := by
    cases hw : p.waiting with
    | none => rfl
    | some eventType =>
        obtain ⟨event, hmem, hpending⟩ := h.inv.pending_of_waiting hp hw
        exact absurd hpending (idle event hmem)
  have hchosen := h.chosen order.id p hp
  cases p with
  | completed =>
      rw [← hchosen false rfl]
      exact hp
  | cancelled =>
      rw [← hchosen true rfl]
      exact hp
  | refused => exact absurd hp (h.unrefused order.id)
  | absent => cases hstatus
  | placed | reserved | authorized | invoiced | notified | declined | released => cases hwaiting

/-- The rows of a finished order. -/
theorem Saga.final_amounts {d : Dossier} {b : Bool} (h : Saga (finalPhase b) d) :
    d.payments.map (·.amountCents) = [totalCents d.items]
      ∧ d.invoices.map (·.amountCents) = if b = false then [totalCents d.items] else [] := by
  obtain ⟨hpayments, hinvoices, -⟩ := h.amounts
  cases b with
  | false =>
      obtain ⟨order, items, e₀, e₁, e₂, e₃, e₄, payment, invoice, notification, rfl, -⟩ :=
        h.completed_inv
      have hpayment := hpayments payment (by simp)
      have hinvoice := hinvoices invoice (by simp)
      exact ⟨congrArg (fun n => [n]) hpayment, congrArg (fun n => [n]) hinvoice⟩
  | true =>
      obtain ⟨order, items, e₀, e₁, e₂, e₃, payment, rfl, -⟩ := h.cancelled_inv
      have hpayment := hpayments payment (by simp)
      exact ⟨congrArg (fun n => [n]) hpayment, rfl⟩

/-- An identifier without an order has no rows. -/
theorem SagaInv.no_rows (inv : SagaInv db) {id : String} (h : id ∉ db.orders.map (·.id)) :
    (db.dossier id).payments = [] ∧ (db.dossier id).invoices = [] := by
  rw [dossier_absent inv.toFiled fun order mem hid => h (List.mem_map.mpr ⟨order, mem, hid⟩)]
  exact ⟨rfl, rfl⟩

theorem Underway.itemsOf (h : Underway fails start db) (id : String) :
    db.itemsOf id = start.itemsOf id := by
  unfold Database.itemsOf
  rw [h.items]

/-- At the end the paid orders hold what they listed, and no other. -/
theorem Underway.outstanding (h : Underway fails start db) (idle : db.Idle) (sku : String) :
    db.outstanding sku
      = ((start.orders.filter fun order => !fails order.id).map fun order =>
          start.listed order.id sku).sum := by
  have hheld : ∀ id ∈ db.orders.map (·.id),
      (db.dossier id).held sku = if !fails id then start.listed id sku else 0 := by
    intro id mem
    have hlisted : demand sku (linesOf (db.dossier id).items) = start.listed id sku := by
      rw [demand_linesOf]
      show (((db.itemsOf id).filter _).map _).sum = (((start.itemsOf id).filter _).map _).sum
      rw [h.itemsOf]
    rw [(h.final idle mem).held_eq, hlisted]
    cases fails id <;> rfl
  rw [outstanding_eq, List.map_congr_left hheld, h.ids, sum_map_filter, List.map_map]
  rfl

theorem Underway.available (h : Underway fails start db) (idle : db.Idle)
    (untouched : start.Untouched) (inv : SagaInv start) :
    db.settlement.available = (start.prospect fails).available := by
  have hbalance : db.settlement.available
      = db.balance.map fun entry => (entry.1, entry.2 - db.outstanding entry.1) := by
    unfold Database.balance
    rw [List.map_map]
    apply List.map_congr_left
    intro row _
    show _ = (row.sku, row.quantityAvailable + db.outstanding row.sku - db.outstanding row.sku)
    rw [Int.add_sub_cancel]
  rw [hbalance, h.balance]
  unfold Database.balance
  rw [List.map_map]
  apply List.map_congr_left
  intro row _
  show (row.sku, row.quantityAvailable + start.outstanding row.sku - db.outstanding row.sku) = _
  rw [untouched.outstanding inv, h.outstanding idle, Int.add_zero]

theorem Underway.status (h : Underway fails start db) (idle : db.Idle) {order : Order}
    (mem : order ∈ db.orders) : order.status = finalStatus (fails order.id) := by
  obtain ⟨p, hp, hstatus⟩ := h.inv.phase_of_order mem
  obtain rfl := hp.phase_unique (h.final idle (List.mem_map_of_mem mem))
  unfold finalPhase at hstatus
  unfold finalStatus
  cases hf : fails order.id with
  | false =>
      rw [hf] at hstatus
      exact (Option.some.inj hstatus).symm
  | true =>
      rw [hf] at hstatus
      exact (Option.some.inj hstatus).symm

theorem Underway.statuses (h : Underway fails start db) (idle : db.Idle) :
    db.settlement.statuses = (start.prospect fails).statuses := by
  have hchosen : db.settlement.statuses
      = db.orders.map fun order => (order.id, finalStatus (fails order.id)) :=
    List.map_congr_left fun order mem => by rw [h.status idle mem]
  have hids := congrArg (List.map fun id => (id, finalStatus (fails id))) h.ids
  rw [List.map_map, List.map_map] at hids
  exact hchosen.trans hids

theorem Underway.amounts (h : Underway fails start db) (idle : db.Idle) (id : String) :
    db.settlement.payments id = (start.prospect fails).payments id
      ∧ db.settlement.invoices id = (start.prospect fails).invoices id := by
  show (db.dossier id).payments.map _ = (if _ then _ else _)
    ∧ (db.dossier id).invoices.map _ = (if _ then _ else _)
  rw [← h.ids, ← h.itemsOf]
  by_cases mem : id ∈ db.orders.map (·.id)
  · obtain ⟨hpayments, hinvoices⟩ := (h.final idle mem).final_amounts
    rw [if_pos mem, hpayments, hinvoices]
    refine ⟨rfl, ?_⟩
    simp only [mem, true_and]
    rfl
  · obtain ⟨hpayments, hinvoices⟩ := h.inv.no_rows mem
    rw [if_neg mem, hpayments, hinvoices, if_neg fun hboth => mem hboth.1]
    exact ⟨rfl, rfl⟩

/-- **Every complete run comes to the same settlement**, the one that can be
read off the orders it started with. -/
theorem Underway.settlement (h : Underway fails start db) (idle : db.Idle)
    (untouched : start.Untouched) (inv : SagaInv start) :
    db.settlement = start.prospect fails := by
  have havailable := h.available idle untouched inv
  have hstatuses := h.statuses idle
  have hpayments : db.settlement.payments = (start.prospect fails).payments :=
    funext fun id => (h.amounts idle id).1
  have hinvoices : db.settlement.invoices = (start.prospect fails).invoices :=
    funext fun id => (h.amounts idle id).2
  generalize db.settlement = reached at *
  generalize start.prospect fails = expected at *
  cases reached
  cases expected
  simp only [Settlement.mk.injEq]
  exact ⟨havailable, hstatuses, hpayments, hinvoices⟩

end complete

/-- **The order of deliveries does not matter when stock suffices.**  Orders
are created, and every SKU has what their lines ask of it together.  Whatever
payment outcome is chosen for each order, any two runs of deliveries that
leave no event PENDING end with the same quantities, the same statuses and
the same amounts: an order is COMPLETED where its payment is authorised and
CANCELLED where it fails. -/
theorem delivery_order_irrelevant (openings : List Label) {stock : Database}
    (start : Stocked stock) (opens : ∀ label ∈ openings, label.call.opens = true)
    (suffices_ : (runCalls openings stock).Suffices) (fails : String → Bool)
    (one other : List DeliverCall)
    (complete : (deliverAll fails one (runCalls openings stock)).Idle)
    (complete' : (deliverAll fails other (runCalls openings stock)).Idle) :
    (deliverAll fails one (runCalls openings stock)).settlement
        = (deliverAll fails other (runCalls openings stock)).settlement
      ∧ ∀ order ∈ (deliverAll fails one (runCalls openings stock)).orders,
          order.status = finalStatus (fails order.id) := by
  have inv := runCalls_inv openings start.inv
  have untouched := runCalls_untouched openings start.inv start.untouched opens
  have provided := untouched.provided inv suffices_
  have hone := (untouched.underway inv fails).deliverAll provided one
  have hother := (untouched.underway inv fails).deliverAll provided other
  refine ⟨?_, fun order mem => hone.status complete mem⟩
  rw [hone.settlement complete untouched inv, hother.settlement complete' untouched inv]

/-- Four pencils, and two orders of two. -/
def twoOrders : List Label :=
  [⟨.calm, 0, .createInventoryItem (pencils 4)⟩, ⟨.calm, 100, .createOrder twoPencils⟩,
   ⟨.calm, 200, .createOrder twoPencils⟩]

/-- The second order is not paid. -/
def secondFails (orderId : String) : Bool := orderId = "id-202"

/-- Events delivered in this order, at these times. -/
def deliveries (events : List (Nat × String)) : List DeliverCall :=
  events.map fun event => ⟨.calm, event.1, event.2, {}⟩

/-- The two orders take turns. -/
def alternating : List DeliverCall :=
  deliveries [(300, "id-108"), (400, "id-208"), (500, "id-302"), (600, "id-402"),
    (700, "id-504"), (800, "id-604"), (900, "id-704"), (1000, "id-802"), (1100, "id-905")]

/-- The second order is cancelled before the first one is reserved. -/
def secondFirst : List DeliverCall :=
  deliveries [(300, "id-208"), (400, "id-302"), (500, "id-404"), (600, "id-502"),
    (700, "id-108"), (800, "id-702"), (900, "id-804"), (1000, "id-904"), (1100, "id-1005")]

/-- Both runs are complete, and come to the same. -/
theorem delivery_order_irrelevant_pencils :
    (deliverAll secondFails alternating (runCalls twoOrders Database.empty)).settlement
        = (deliverAll secondFails secondFirst (runCalls twoOrders Database.empty)).settlement
      ∧ ∀ order ∈ (deliverAll secondFails alternating (runCalls twoOrders Database.empty)).orders,
          order.status = finalStatus (secondFails order.id) :=
  delivery_order_irrelevant twoOrders stocked_empty (by decide) (by decide +kernel) secondFails
    alternating secondFirst (by decide +kernel) (by decide +kernel)

end EventCart
