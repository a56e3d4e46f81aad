/-
  EventCart.Saga.Amounts
  ──────────────────────
  **AMOUNTS AND THE COLUMNS THEY ARE STORED IN.**

  `_amount_cents` adds up products of Python integers, and the payment and
  invoice workers store the sum in an `Integer` column, which PostgreSQL
  keeps in 32 bits.  The request schemas bound every text by the length of
  its column and every number from below only.  What an order costs is fixed
  when it is created, so the condition under which its amounts fit can be
  read off the request and the inventory of that moment.

    §1  the columns;
    §2  when the rows of a payment and of an invoice go in;
    §3  what a request costs, and what its reservation charges;
    §4  `amounts_fit_iff`.
-/
import EventCart.Saga.Origins

namespace EventCart

open EventCart.Lib
open EventCart.Lib.Tx

/-! ## §1. Integer columns. -/

/-- The largest value of an `Integer` column. -/
def INT4_MAX : Int := 2147483647

def FitsInt4 (n : Int) : Prop := -INT4_MAX - 1 ≤ n ∧ n ≤ INT4_MAX

instance (n : Int) : Decidable (FitsInt4 n) := inferInstanceAs (Decidable (_ ∧ _))

/-- Quantities, prices, stock and amounts are values of their columns. -/
def Database.inRange (db : Database) : Bool :=
  db.orderItems.all (fun row => FitsInt4 row.quantity ∧ FitsInt4 row.unitPriceCents)
    && db.inventoryItems.all (fun row =>
      FitsInt4 row.quantityAvailable ∧ FitsInt4 row.unitPriceCents)
    && db.payments.all (fun row => FitsInt4 row.amountCents)
    && db.invoices.all (fun row => FitsInt4 row.amountCents)

/-- PostgreSQL's answer to the rows of a session. -/
def numericOverflow (db : Database) : Option String :=
  if db.inRange then none else some "integer out of range"

theorem numericOverflow_eq_none {db : Database} :
    numericOverflow db = none ↔ db.inRange = true := by
  unfold numericOverflow
  split
  next h => simp [h]
  next h => simp [h]

theorem inRange_addPayment {db : Database} {row : Payment} :
    (db.addPayment row).inRange = true ↔ db.inRange = true ∧ FitsInt4 row.amountCents := by
  simp only [Database.inRange, Database.addPayment, List.all_append, List.all_cons, List.all_nil,
    Bool.and_true, Bool.and_eq_true, decide_eq_true_eq]
  tauto

theorem inRange_addInvoice {db : Database} {row : Invoice} :
    (db.addInvoice row).inRange = true ↔ db.inRange = true ∧ FitsInt4 row.amountCents := by
  simp only [Database.inRange, Database.addInvoice, List.all_append, List.all_cons, List.all_nil,
    Bool.and_true, Bool.and_eq_true, decide_eq_true_eq]
  tauto

/-! ## §2. The rows of a payment and of an invoice. -/

theorem keyed_addPayment {db : Database} (keyed : db.Keyed) {row : Payment}
    (fresh : ∀ other ∈ db.payments, other.id ≠ row.id) : (db.addPayment row).Keyed :=
  { keyed with payments := nodup_insert keyed.payments fresh }

theorem keyed_addInvoice {db : Database} (keyed : db.Keyed) {row : Invoice}
    (fresh : ∀ other ∈ db.invoices, other.id ≠ row.id) : (db.addInvoice row).Keyed :=
  { keyed with invoices := nodup_insert keyed.invoices fresh }

/-- A worker takes up an event for the first time, on a PostgreSQL database
that refuses rows for their numbers only, and `uuid4()` gives out fresh
identifiers. -/
structure Inserting (consumerName : String) (event : EventEnvelope) (s : Session Database) :
    Prop where
  executes : s.world.Dependable numericOverflow
  active : s.active = true
  keyed : s.working.Keyed
  inRange : s.working.inRange = true
  newPayment : ∀ n, ∀ row ∈ s.working.payments, row.id ≠ s.world.uuid4 n
  newInvoice : ∀ n, ∀ row ∈ s.working.invoices, row.id ≠ s.world.uuid4 n
  newEvent : ∀ n, ∀ row ∈ s.working.outboxEvents, row.eventId ≠ s.world.uuid4 n
  unprocessed : s.working.processed consumerName event.eventId = false

section inserting
variable {event : EventEnvelope} {consumerName : String} {s : Session Database}

/-- With a row added that is in range, the event behind it goes in. -/
theorem Inserting.emit (ins : Inserting consumerName event s) {db : Database} (keyed : db.Keyed)
    (inRange : db.inRange = true) (outbox : db.outboxEvents = s.working.outboxEvents) (n : Nat)
    (draft : EventDraft) :
    ∃ new m, EventCart.emit draft (s.goto db n) = .ok new (s.goto (db.addOutboxEvent new) m)
      ∧ (db.addOutboxEvent new).Keyed := by
  obtain ⟨new, t, h⟩ : ∃ new t, EventCart.emit draft (s.goto db n) = .ok new t := by
    refine emit_accepted (s := s.goto db n) ins.executes ins.active
      (fun _ => numericOverflow_eq_none.mpr inRange) keyed fun k row mem => ?_
    rw [goto_working, outbox] at mem
    exact ins.newEvent k row mem
  obtain ⟨id, at', m, -, rfl, hkeyed, rfl⟩ := emit_ok h
  exact ⟨_, m, h, hkeyed⟩

/-- A handler whose body adds rows in range goes through. -/
theorem Inserting.handles (ins : Inserting consumerName event s)
    {body : EventEnvelope → App OutboxEvent} {new : OutboxEvent} {db : Database} {n : Nat}
    (run : body event (s.goto s.working (s.tick + 1)) = .ok new (s.goto db n)) (keyed : db.Keyed)
    (inRange : db.inRange = true) (inbox : db.inboxEvents = s.working.inboxEvents) :
    ∃ t, handleOnce consumerName body event s = .ok (some new) t := by
  refine handleOnce_accepted (hasProcessed_accepted ins.executes ins.active
    (numericOverflow_eq_none.mpr ins.inRange) ins.unprocessed) run ins.executes ins.active
    (numericOverflow_eq_none.mpr inRange) keyed ?_
  show db.inboxEvents.any _ = false
  rw [inbox]
  exact ins.unprocessed

/-- The payment of an amount that fits goes in. -/
theorem Inserting.authorizes (ins : Inserting consumerName event s) {orderId : String}
    (order : strItem event.payload "order_id" = .ok orderId)
    (fits : FitsInt4 (amountCents event.payload)) :
    ∃ new db n, authorizePayment event (s.goto s.working (s.tick + 1)) = .ok new (s.goto db n)
      ∧ db.Keyed ∧ db.inRange = true ∧ db.inboxEvents = s.working.inboxEvents := by
  let payment : Payment := ⟨s.world.uuid4 (s.tick + 1), orderId, paymentStatus event.payload,
    amountCents event.payload, (paymentStatus event.payload).failureReason,
    s.world.now (s.tick + 2)⟩
  have hrange : (s.working.addPayment payment).inRange = true :=
    inRange_addPayment.mpr ⟨ins.inRange, fits⟩
  have hkeyed : (s.working.addPayment payment).Keyed :=
    keyed_addPayment ins.keyed (ins.newPayment (s.tick + 1))
  have hadd : addPayment orderId (paymentStatus event.payload) (amountCents event.payload)
      (paymentStatus event.payload).failureReason (s.goto s.working (s.tick + 1))
        = .ok payment (s.goto (s.working.addPayment payment) (s.tick + 4)) :=
    (insert_accepted (ε := PyError) (s := s.goto s.working (s.tick + 3)) ins.executes ins.active
      (f := (·.addPayment payment)) (numericOverflow_eq_none.mpr hrange) payment).2
      ((admits_iff _).mpr hkeyed)
  rw [authorizePayment_eq, ofExcept_bind_ok order, bind_of_ok hadd]
  have hemit := ins.emit hkeyed hrange rfl (s.tick + 4)
  cases paymentStatus event.payload with
  | FAILED =>
      obtain ⟨new, m, hrun, hkeyed'⟩ := hemit _
      exact ⟨new, _, m, hrun, hkeyed', hrange, rfl⟩
  | AUTHORIZED =>
      obtain ⟨new, m, hrun, hkeyed'⟩ := hemit _
      exact ⟨new, _, m, hrun, hkeyed', hrange, rfl⟩

/-- A payment that went in fits its column. -/
theorem fits_of_authorizePayment (executes : s.world.Dependable numericOverflow)
    {new : OutboxEvent} {t : Session Database} (h : authorizePayment event s = .ok new t) :
    FitsInt4 (amountCents event.payload) := by
  rw [authorizePayment_eq] at h
  obtain ⟨orderId, -, h⟩ := ofExcept_bind_eq_ok.mp h
  obtain ⟨payment, u, hu, -⟩ := bind_eq_ok.mp h
  unfold addPayment at hu
  rw [bind_of_ok (uuid4_apply _), bind_of_ok (now_apply _), bind_of_ok (write_apply _ _)] at hu
  obtain ⟨_, v, hv, -⟩ := bind_eq_ok.mp hu
  obtain ⟨-, accepted⟩ := accepted_of_flush (s := s.goto (s.working.addPayment _) _)
    executes hv
  exact (inRange_addPayment.mp (numericOverflow_eq_none.mp accepted)).2

/-- **A payment row goes in** exactly when the amount of the payload fits its
column. -/
theorem payment_inserted_iff (ins : Inserting PAYMENT_CONSUMER_NAME event s)
    (order : ∃ orderId, strItem event.payload "order_id" = .ok orderId) :
    (∃ new t, handleInventoryReserved event s = .ok new t)
      ↔ FitsInt4 (amountCents event.payload) := by
  constructor
  · rintro ⟨new, t, h⟩
    rcases handleOnce_ok h with ⟨processed, -⟩ | ⟨-, m, a, u, at', n, hbody, -, -⟩
    · rw [ins.unprocessed] at processed
      cases processed
    · exact fits_of_authorizePayment (s := s.goto s.working m) ins.executes hbody
  · intro fits
    obtain ⟨orderId, horder⟩ := order
    obtain ⟨new, db, n, hrun, hkeyed, hrange, hinbox⟩ := ins.authorizes horder fits
    obtain ⟨t, h⟩ := ins.handles hrun hkeyed hrange hinbox
    exact ⟨some new, t, h⟩

/-- **An invoice row goes in** when the amount of the payload fits its
column. -/
theorem invoice_inserted (ins : Inserting INVOICE_CONSUMER_NAME event s)
    {orderId paymentId : String} {amount : PyInt}
    (order : strItem event.payload "order_id" = .ok orderId)
    (payment : strItem event.payload "payment_id" = .ok paymentId)
    (read : intPayloadValue event.payload "amount_cents" = .ok amount)
    (fits : FitsInt4 amount.num) : ∃ new t, handlePaymentAuthorized event s = .ok new t := by
  let invoice : Invoice := ⟨s.world.uuid4 (s.tick + 1), orderId, paymentId, .CREATED, amount.num,
    s.world.now (s.tick + 2)⟩
  have hrange : (s.working.addInvoice invoice).inRange = true :=
    inRange_addInvoice.mpr ⟨ins.inRange, fits⟩
  have hkeyed : (s.working.addInvoice invoice).Keyed :=
    keyed_addInvoice ins.keyed (ins.newInvoice (s.tick + 1))
  have hflush : (flush : App Unit) (s.goto (s.working.addInvoice invoice) (s.tick + 3))
      = .ok () (s.goto (s.working.addInvoice invoice) (s.tick + 4)) :=
    flush_accepted (s := s.goto (s.working.addInvoice invoice) (s.tick + 3)) ins.executes
      ins.active (numericOverflow_eq_none.mpr hrange) ((admits_iff _).mpr hkeyed)
  obtain ⟨new, m, hemit, hkeyed'⟩ := ins.emit hkeyed hrange rfl (s.tick + 4)
    (invoiceDraft event invoice amount.value)
  have hrun : createInvoice event (s.goto s.working (s.tick + 1))
      = .ok new (s.goto ((s.working.addInvoice invoice).addOutboxEvent new) m) := by
    unfold createInvoice
    rw [ofExcept_bind_ok order, ofExcept_bind_ok payment, ofExcept_bind_ok read,
      bind_of_ok (uuid4_apply _), bind_of_ok (now_apply _), bind_of_ok (write_apply _ _)]
    exact (bind_of_ok hflush).trans hemit
  obtain ⟨t, h⟩ := ins.handles hrun hkeyed' hrange rfl
  exact ⟨some new, t, h⟩

end inserting

/-! ## §3. What a request costs. -/

/-- The lines of a request at the unit prices of the inventory. -/
def OrderCreate.costs (payload : OrderCreate) (db : Database) : Int :=
  (payload.items.map fun line =>
    line.quantity * (db.findInventoryItem line.sku).elim 0 (·.unitPriceCents)).sum

/-- Quantities, unit prices and stock of a request are values of their
columns. -/
structure OrderCreate.InColumns (payload : OrderCreate) (db : Database) : Prop where
  quantities : ∀ line ∈ payload.items, 0 ≤ line.quantity ∧ line.quantity ≤ INT4_MAX
  prices : ∀ line ∈ payload.items, ∀ row, db.findInventoryItem line.sku = some row →
    0 ≤ row.unitPriceCents ∧ row.unitPriceCents ≤ INT4_MAX
  stock : ∀ line ∈ payload.items, ∀ row, db.findInventoryItem line.sku = some row →
    0 ≤ row.quantityAvailable ∧ row.quantityAvailable ≤ INT4_MAX

theorem OrderCreate.InColumns.costs_nonneg {payload : OrderCreate} {db : Database}
    (h : payload.InColumns db) : 0 ≤ payload.costs db := by
  unfold OrderCreate.costs
  apply List.sum_nonneg
  intro n hn
  obtain ⟨line, hline, rfl⟩ := List.mem_map.mp hn
  have hquantity := (h.quantities line hline).1
  cases hfind : db.findInventoryItem line.sku with
  | none =>
      show 0 ≤ line.quantity * 0
      omega
  | some row =>
      have hprice := (h.prices line hline row hfind).1
      exact Int.mul_nonneg hquantity hprice

/-- The rows of an order copy the priced lines, so they cost what these do. -/
theorem totalCents_of_copies {db : Database} {orderId : String} {lines : List PricedLine}
    {items : List OrderItem} (copies : List.Forall₂ (OrderItem.Copies orderId) lines items)
    (found : ∀ line ∈ lines, db.findInventoryItem line.1.sku = some line.2) :
    totalCents items = ((lines.map Prod.fst).map fun line =>
      line.quantity * (db.findInventoryItem line.sku).elim 0 (·.unitPriceCents)).sum := by
  induction copies with
  | nil => rfl
  | @cons line row lines items hcopy _ ih =>
      obtain ⟨-, -, hquantity, hprice, -⟩ := hcopy
      have hline := found line List.mem_cons_self
      have hrest := ih fun l hl => found l (List.mem_cons_of_mem _ hl)
      unfold totalCents at hrest ⊢
      simp only [List.map_cons, List.sum_cons, hline, Option.elim_some, hrest, hquantity, hprice]

/-- **A new order costs what its request does**, and its opening event says
so. -/
theorem Placed.amount_eq {db : Database} {payload : OrderCreate} {order : Order}
    {items : List OrderItem} {root : OutboxEvent} (placed : Placed db payload order items root) :
    amountCents root.payload = payload.costs db := by
  obtain ⟨lines, correlationId, eventId, occurredAt, hfst, hfound, hcopies, -, -, hroot⟩ :=
    placed.event
  have hitems : root.payload.get? "items" = some (itemsJson (linesOf items)) := by
    rw [hroot, ← itemsJson_copies hcopies]
    rfl
  rw [amountCents_of_get? hitems, totalCents_of_copies hcopies hfound, hfst]
  rfl

/-- An arrival that created an order placed it. -/
theorem arrive_placed {db : Database} (inv : SagaInv db) {arrival : Arrival}
    {payload : OrderCreate} (called : arrival.call = .createOrder payload) {order : Order}
    (created : order ∈ (arrive arrival db).orders) (new : order ∉ db.orders) :
    ∃ items root, Placed db payload order items root
      ∧ root ∈ (arrive arrival db).outboxEvents := by
  obtain ⟨before, keys, db₁, -, heffect, -, harrive⟩ := arrive_effect inv arrival
  rw [called] at heffect
  rw [harrive] at created ⊢
  -- nothing but the request itself adds an order
  cases heffect with
  | idle => exact absurd created new
  | publish _ h =>
      cases h with
      | published publishedAt called' => cases called'
  | commit h =>
      cases h with
      | stocked _ _ called' => cases called'
      | handled called' => cases called'
      | published h =>
          cases h with
          | published publishedAt called' => cases called'
      | attempted _ _ called' => cases called'
      | replayed _ _ called' => cases called'
      | @ordered payload' other items root called' placed keyed =>
          obtain rfl : payload = payload' := Call.createOrder.inj called'
          have horder : order = other := by
            rcases List.mem_append.mp created with hold | hnew
            · exact absurd hold new
            · exact List.mem_singleton.mp hnew
          subst horder
          exact ⟨items, root, placed.of_inventory rfl,
            List.mem_append_right _ (List.mem_singleton.mpr rfl)⟩

/-! ## §4. Amounts that fit. -/

/-- A request with values of their columns creates an order in a reachable
state, and later the order's stock is reserved: `event` tells so. -/
structure ReservedOrder (before : List Arrival) (arrival : Arrival) (later : List Arrival)
    (payload : OrderCreate) (event : OutboxEvent) : Prop where
  called : arrival.call = .createOrder payload
  inColumns : payload.InColumns (arriveAll before Database.empty)
  created : ∃ order ∈ (arrive arrival (arriveAll before Database.empty)).orders,
    order ∉ (arriveAll before Database.empty).orders ∧ event.aggregateId = order.id
  mem : event ∈ (arriveAll later (arrive arrival (arriveAll before Database.empty))).outboxEvents
  reserved : event.eventType = "InventoryReserved"

/-- The total fits, and so do the rows of the payment and of the invoice that
follow. -/
structure AmountsFit (event : EventEnvelope) : Prop where
  amount : amountCents event.payload ≤ INT4_MAX
  payment : ∀ s, Inserting PAYMENT_CONSUMER_NAME event s →
    ∃ new t, handleInventoryReserved event s = .ok new t
  invoice : ∀ authorized s orderId paymentId,
    authorized.payload = [("order_id", .str orderId), ("payment_id", .str paymentId),
      ("amount_cents", .int (amountCents event.payload))] →
    Inserting INVOICE_CONSUMER_NAME authorized s →
      ∃ new t, handlePaymentAuthorized authorized s = .ok new t

section reservedOrder
variable {before later : List Arrival} {arrival : Arrival} {payload : OrderCreate}
  {event : OutboxEvent}

/-- **A reserved order is charged what its request cost** when it came in. -/
theorem ReservedOrder.amount_eq (h : ReservedOrder before arrival later payload event) :
    amountCents event.payload = payload.costs (arriveAll before Database.empty) := by
  have inv := arriveAll_inv before stocked_empty.inv
  have inv₁ : SagaInv (arrive arrival (arriveAll before Database.empty)) :=
    arrived_inv inv (arrive_effect inv arrival)
  have inv₂ := arriveAll_inv later inv₁
  obtain ⟨order, created, new, haggregate⟩ := h.created
  obtain ⟨items, root, placed, logged⟩ := arrive_placed inv h.called created new
  -- the opening event is still there, and both amounts are computed from the order's lines
  obtain ⟨root', hroot', same⟩ := arriveAll_entry later inv₁ logged
  obtain ⟨lines, correlationId, eventId, occurredAt, -, -, -, -, -, hroot⟩ := placed.event
  have htype : root'.eventType = "OrderCreated" := by
    rw [eventType_of_entry same, hroot]
    rfl
  have hid : root'.aggregateId = event.aggregateId := by
    rw [haggregate]
    show root'.entry.aggregateId = order.id
    rw [same, hroot]
    rfl
  have hpayload : root'.payload = root.payload := by
    show root'.entry.payload = root.entry.payload
    rw [same]
  rw [(inv₂.amount_eq h.mem (by rw [h.reserved]; decide)).2, ← hid,
    ← (inv₂.amount_eq hroot' (by rw [htype]; decide)).2, hpayload, placed.amount_eq]

/-- The payload of a reservation names its order. -/
theorem ReservedOrder.order (h : ReservedOrder before arrival later payload event)
    {envelope : EventEnvelope} (valid : envelopeFromOutboxEvent event = .ok envelope) :
    ∃ orderId, strItem envelope.payload "order_id" = .ok orderId := by
  have inv₂ := arriveAll_inv later (arrived_inv (arriveAll_inv before stocked_empty.inv)
    (arrive_effect (arriveAll_inv before stocked_empty.inv) arrival))
  obtain ⟨-, -, -, hpayload⟩ := envelope_eventType valid
  rw [hpayload]
  rcases inv₂.caused h.mem with opens | ⟨cause, -, caused⟩
  · have hne := opens.type
    rw [h.reserved] at hne
    exact absurd hne (by decide)
  · exact ⟨_, strItem_of_get? caused.order⟩

/-- **The amounts of a reserved order fit** exactly when what its request
costs, at the prices of the inventory when it comes in, is at most 2^31 - 1;
and the payment worker gets its row into the database exactly then. -/
theorem amounts_fit_iff (h : ReservedOrder before arrival later payload event)
    {envelope : EventEnvelope} (valid : envelopeFromOutboxEvent event = .ok envelope) :
    (AmountsFit envelope ↔ payload.costs (arriveAll before Database.empty) ≤ INT4_MAX)
      ∧ ∀ s, Inserting PAYMENT_CONSUMER_NAME envelope s →
          ((∃ new t, handleInventoryReserved envelope s = .ok new t)
            ↔ payload.costs (arriveAll before Database.empty) ≤ INT4_MAX) := by
  obtain ⟨-, -, -, hpayload⟩ := envelope_eventType valid
  have hamount : amountCents envelope.payload = payload.costs (arriveAll before Database.empty) :=
    (congrArg amountCents hpayload).trans h.amount_eq
  have hnonneg := h.inColumns.costs_nonneg
  have hfits : FitsInt4 (amountCents envelope.payload)
      ↔ payload.costs (arriveAll before Database.empty) ≤ INT4_MAX := by
    unfold FitsInt4 INT4_MAX
    rw [hamount]
    omega
  have hpayment : ∀ s, Inserting PAYMENT_CONSUMER_NAME envelope s →
      ((∃ new t, handleInventoryReserved envelope s = .ok new t)
        ↔ payload.costs (arriveAll before Database.empty) ≤ INT4_MAX) :=
    fun s ins => (payment_inserted_iff ins (h.order valid)).trans hfits
  refine ⟨⟨fun fit => hamount ▸ fit.amount, fun hcosts => ?_⟩, hpayment⟩
  refine ⟨hamount ▸ hcosts, fun s ins => (hpayment s ins).mpr hcosts, ?_⟩
  -- the invoice copies the amount that was authorized
  intro authorized s orderId paymentId hauthorized ins
  have horder : strItem authorized.payload "order_id" = .ok orderId :=
    strItem_of_get? (by rw [hauthorized]; rfl)
  have hpaymentId : strItem authorized.payload "payment_id" = .ok paymentId :=
    strItem_of_get? (by rw [hauthorized]; rfl)
  have hread : intPayloadValue authorized.payload "amount_cents"
      = .ok ⟨.int (amountCents envelope.payload), amountCents envelope.payload, rfl⟩ :=
    intPayloadValue_of_get? (by rw [hauthorized]; rfl)
  exact invoice_inserted ins horder hpaymentId hread (hfits.mpr hcosts)

end reservedOrder

theorem reserved_of_find (db : Database) (orderId : String)
    (h : (db.outboxEvents.find? (·.eventType = "InventoryReserved")).map (·.aggregateId)
      = some orderId) :
    ∃ event ∈ db.outboxEvents, event.eventType = "InventoryReserved"
      ∧ event.aggregateId = orderId := by
  rw [Option.map_eq_some_iff] at h
  obtain ⟨event, hfind, haggregate⟩ := h
  exact ⟨event, List.mem_of_find?_eq_some hfind, by simpa using List.find?_some hfind,
    haggregate⟩

/-- An item goes on sale, two of it are ordered, and the order's event is
delivered. -/
theorem reserved_two (item : InventoryItemCreate) (payload : OrderCreate) (eventId : String)
    (order : Order)
    (inColumns : payload.InColumns
      (arriveAll [.called ⟨.calm, 0, .createInventoryItem item⟩] Database.empty))
    (created : order ∈ (arriveAll [.called ⟨.calm, 0, .createInventoryItem item⟩,
      .called ⟨.calm, 100, .createOrder payload⟩] Database.empty).orders)
    (new : order ∉ (arriveAll [.called ⟨.calm, 0, .createInventoryItem item⟩]
      Database.empty).orders)
    (reserved : ((arriveAll [.called ⟨.calm, 0, .createInventoryItem item⟩,
      .called ⟨.calm, 100, .createOrder payload⟩,
      .called ⟨.calm, 200, .deliver eventId {} fun _ => false⟩] Database.empty).outboxEvents.find?
        (·.eventType = "InventoryReserved")).map (·.aggregateId) = some order.id) :
    ∃ event envelope,
      ReservedOrder [.called ⟨.calm, 0, .createInventoryItem item⟩]
          (.called ⟨.calm, 100, .createOrder payload⟩)
          [.called ⟨.calm, 200, .deliver eventId {} fun _ => false⟩] payload event
        ∧ envelopeFromOutboxEvent event = .ok envelope := by
  obtain ⟨event, mem, htype, haggregate⟩ := reserved_of_find _ _ reserved
  obtain ⟨envelope, valid⟩ := (arriveAll_inv _ stocked_empty.inv).ready.valid event mem
  exact ⟨event, envelope, ⟨rfl, inColumns, ⟨order, created, new, haggregate⟩, mem, htype⟩, valid⟩

/-- Two pencils at 50 cents are charged. -/
theorem amounts_fit_pencils : ∃ event envelope,
    ReservedOrder [.called ⟨.calm, 0, .createInventoryItem (pencils 2)⟩]
        (.called ⟨.calm, 100, .createOrder twoPencils⟩)
        [.called ⟨.calm, 200, .deliver "id-108" {} fun _ => false⟩] twoPencils event
      ∧ envelopeFromOutboxEvent event = .ok envelope ∧ AmountsFit envelope := by
  obtain ⟨event, envelope, h, valid⟩ := reserved_two (pencils 2) twoPencils "id-108"
    ⟨"id-102", .PENDING, "ann@example.com", 103⟩
    ⟨by decide +kernel, by decide +kernel, by decide +kernel⟩ (by decide +kernel)
    (by decide +kernel) (by decide +kernel)
  exact ⟨event, envelope, h, valid, (amounts_fit_iff h valid).1.mpr (by decide +kernel)⟩

/-- Two yachts at 20 million each, in stock: every number fits its column. -/
def yachts : InventoryItemCreate :=
  ⟨"YACHT", "Yacht", 2, 2000000000, by decide, by decide, by decide, by decide⟩

def twoYachts : OrderCreate :=
  ⟨"yves@example.com", [⟨"YACHT", 2, by decide, by decide⟩], by decide, by decide⟩

/-- **An amount that does not fit**: two yachts are reserved, and cost
4,000,000,000 cents. -/
theorem amount_overflows :
    ¬ ∀ (before : List Arrival) (arrival : Arrival) (later : List Arrival) (payload : OrderCreate)
        (event : OutboxEvent) (envelope : EventEnvelope),
        ReservedOrder before arrival later payload event →
          envelopeFromOutboxEvent event = .ok envelope → AmountsFit envelope := by
  intro h
  obtain ⟨event, envelope, hr, valid⟩ := reserved_two yachts twoYachts "id-106"
    ⟨"id-101", .PENDING, "yves@example.com", 102⟩
    ⟨by decide +kernel, by decide +kernel, by decide +kernel⟩ (by decide +kernel)
    (by decide +kernel) (by decide +kernel)
  have hamount := (h _ _ _ _ event envelope hr valid).amount
  obtain ⟨-, -, -, hpayload⟩ := envelope_eventType valid
  rw [hpayload, hr.amount_eq] at hamount
  exact absurd hamount (by decide +kernel)

end EventCart
