/-
  EventCart.Saga.Catalogue
  ────────────────────────
  **THE CATALOGUE STANDS.**

  An inventory row is written when its item goes on sale; the workers add to
  its quantity and rewrite no other column.  The lines of an order copy name
  and price from it.  So what an order says it costs, what its customer is
  charged, and what the catalogue asks for its lines at any later time are one
  amount.

    §1  inventory rows over time;
    §2  lines and the rows they were copied from;
    §3  `catalogue_stands`;
    §4  the route that puts an item on sale, and `on_sale_once`.
-/
import EventCart.Saga.History

namespace EventCart

open EventCart.Lib
open EventCart.Lib.Tx

/-! ## §1. Inventory rows. -/

/-- The same row, with another quantity at most. -/
structure InventoryItem.Same (item later : InventoryItem) : Prop where
  id : later.id = item.id
  sku : later.sku = item.sku
  name : later.name = item.name
  unitPriceCents : later.unitPriceCents = item.unitPriceCents
  createdAt : later.createdAt = item.createdAt

theorem InventoryItem.Same.refl (item : InventoryItem) : item.Same item :=
  ⟨rfl, rfl, rfl, rfl, rfl⟩

theorem InventoryItem.Same.trans {a b c : InventoryItem} (hab : a.Same b) (hbc : b.Same c) :
    a.Same c where
  id := hbc.id.trans hab.id
  sku := hbc.sku.trans hab.sku
  name := hbc.name.trans hab.name
  unitPriceCents := hbc.unitPriceCents.trans hab.unitPriceCents
  createdAt := hbc.createdAt.trans hab.createdAt

theorem same_restocked (item : InventoryItem) (amount : Int) : item.Same (item.restocked amount) :=
  ⟨rfl, rfl, rfl, rfl, rfl⟩

/-- The item is on sale, under its name and price. -/
def Database.Sells (item : InventoryItem) (db : Database) : Prop :=
  ∃ later ∈ db.inventoryItems, item.Same later

/-- **The step lemma**: a commit keeps every item on sale. -/
theorem Commit.sells {call : Call} {db db' : Database} (inv : SagaInv db)
    (h : Commit call db db') {item : InventoryItem} (sells : db.Sells item) : db'.Sells item := by
  obtain ⟨row, mem, hsame⟩ := sells
  cases h.stockChange inv with
  | same h => exact ⟨row, h.inventoryItems ▸ mem, hsame⟩
  | created payload id createdAt called keyed h =>
      subst h
      exact ⟨row, List.mem_append_left _ mem, hsame⟩
  | advanced event delivering h =>
      -- stock moves: the row is still there, with another quantity
      obtain ⟨p, sign, p', -, -, -, -, hstock, -⟩ := h.step
      have hsame' := hsame.trans
        (same_restocked row (sign * demand row.sku (linesOf (db.dossier event.aggregateId).items)))
      refine ⟨_, ?_, hsame'⟩
      rw [hstock, moveAll_eq]
      exact List.mem_map.mpr ⟨row, mem, rfl⟩

/-- **The run lemma.** -/
theorem arrivals_sell (arrivals : List Arrival) {db : Database} (inv : SagaInv db)
    {item : InventoryItem} (mem : item ∈ db.inventoryItems) :
    (arriveAll arrivals db).Sells item :=
  (arrivals_keep (P := Database.Sells item) (C := fun _ => True) (fun _ _ h => h)
    (fun _ _ _ _ inv sells h => h.sells inv sells) arrivals (fun _ _ => trivial) inv
    ⟨item, mem, .refl item⟩).2

/-! ## §2. Lines. -/

/-- The line is a copy of the item, but for the quantity. -/
def InventoryItem.Copied (item : InventoryItem) (row : OrderItem) : Prop :=
  row.sku = item.sku ∧ row.unitPriceCents = item.unitPriceCents ∧ row.productName = some item.name

theorem InventoryItem.Copied.later {item later : InventoryItem} {row : OrderItem}
    (h : item.Copied row) (same : item.Same later) : later.Copied row :=
  ⟨h.1.trans same.sku.symm, h.2.1.trans same.unitPriceCents.symm,
    h.2.2.trans (congrArg some same.name.symm)⟩

/-- Every line has the name and the price of its item. -/
def Database.Priced (db : Database) : Prop :=
  ∀ row ∈ db.orderItems, ∃ item ∈ db.inventoryItems, item.Copied row

/-- Lines that were there keep their item, whatever a commit does to the stock. -/
theorem Database.Priced.keep {db db' : Database} (priced : db.Priced)
    (sells : ∀ item ∈ db.inventoryItems, db'.Sells item) {row : OrderItem}
    (mem : row ∈ db.orderItems) : ∃ item ∈ db'.inventoryItems, item.Copied row := by
  obtain ⟨item, hitem, hcopied⟩ := priced row mem
  obtain ⟨later, hlater, hsame⟩ := sells item hitem
  exact ⟨later, hlater, hcopied.later hsame⟩

theorem Commit.priced {call : Call} {db db' : Database} (inv : SagaInv db) (priced : db.Priced)
    (h : Commit call db db') : db'.Priced := by
  have hkeep : ∀ {row}, row ∈ db.orderItems → ∃ item ∈ db'.inventoryItems, item.Copied row :=
    fun hrow => priced.keep (fun item hitem => h.sells inv ⟨item, hitem, .refl item⟩) hrow
  intro row hrow
  cases h with
  | stocked => exact hkeep hrow
  | published h =>
      cases h
      exact hkeep hrow
  | replayed => exact hkeep hrow
  | @attempted event policy paymentFails error stamp =>
      -- the dispatcher writes no lines
      obtain ⟨_, _, _, h⟩ := attemptFailed_delivery (sagaHandlers paymentFails) policy event error
        stamp db
      rw [h] at hrow
      exact hkeep hrow
  | handled called mem pending valid routed fresh handled keyed =>
      exact hkeep ((handled_advance inv mem valid routed fresh handled keyed).items ▸ hrow)
  | @ordered payload order items new called placed keyed =>
      rcases List.mem_append.mp hrow with hold | hnew
      · exact hkeep hold
      · -- a new line: its item was looked up for it
        obtain ⟨lines, _, _, _, -, hfound, hcopies, -⟩ := placed.event
        obtain ⟨line, hline, -, hsku, -, hprice, hname⟩ := forall₂_copies hcopies row hnew
        exact ⟨line.2, List.mem_of_find?_eq_some (hfound line hline), hsku, hprice, hname⟩

theorem arrivals_priced (arrivals : List Arrival) {db : Database} (inv : SagaInv db)
    (priced : db.Priced) : (arriveAll arrivals db).Priced :=
  (arrivals_keep (P := Database.Priced) (C := fun _ => True) (fun _ _ h => h)
    (fun _ _ _ _ inv priced h => h.priced inv priced) arrivals (fun _ _ => trivial) inv priced).2

/-- What the catalogue asks for a SKU. -/
def Database.priceOf (sku : String) (db : Database) : Int :=
  (db.findInventoryItem sku).elim 0 (·.unitPriceCents)

/-- What the catalogue asks for lines. -/
def Database.priceOfLines (items : List OrderItem) (db : Database) : Int :=
  (items.map fun row => row.quantity * db.priceOf row.sku).sum

/-- Lines at their own prices are lines at the prices of the catalogue. -/
theorem Database.Priced.totalCents {db : Database} (priced : db.Priced) (keyed : db.Keyed)
    {items : List OrderItem} (mem : ∀ row ∈ items, row ∈ db.orderItems) :
    db.priceOfLines items = totalCents items := by
  unfold Database.priceOfLines EventCart.totalCents
  congr 1
  apply List.map_congr_left
  intro row hrow
  obtain ⟨item, hitem, hsku, hprice, -⟩ := priced row (mem row hrow)
  have hfind : db.findInventoryItem row.sku = some item := by
    rw [hsku]
    exact find_row keyed.skus hitem
  unfold Database.priceOf
  rw [hfind, hprice]
  rfl

/-! ## §3. Amounts. -/

/-- What was charged and billed for orders is what this catalogue asks for
their lines. -/
structure Database.ChargedAt (catalogue db : Database) : Prop where
  payments : ∀ payment ∈ db.payments,
    payment.amountCents = catalogue.priceOfLines (db.itemsOf payment.orderId)
  invoices : ∀ invoice ∈ db.invoices,
    invoice.amountCents = catalogue.priceOfLines (db.itemsOf invoice.orderId)

/-- Lines on file are priced by the catalogue of any later time. -/
theorem priceOfLines_later {db : Database} (inv : SagaInv db) (priced : db.Priced)
    (between : List Arrival) {orderId : String} (known : ∃ order ∈ db.orders, order.id = orderId) :
    (arriveAll between db).priceOfLines (db.itemsOf orderId) = totalCents (db.itemsOf orderId) := by
  obtain ⟨order, mem, rfl⟩ := known
  obtain ⟨later, -, -, hitems⟩ := arrivals_keepOrder between inv mem
  refine (arrivals_priced between inv priced).totalCents (arriveAll_inv between inv).keyed
    fun row hrow => ?_
  rw [← hitems] at hrow
  exact (List.mem_filter.mp hrow).1

/-- **The catalogue stands.**  Whatever arrives: an item on sale stays on
sale, under its name and price, and every payment and every invoice is what
the catalogue of any later time asks for the lines of its order. -/
theorem catalogue_stands (before between : List Arrival) {stock : Database}
    (start : Stocked stock) :
    (∀ item ∈ (arriveAll before stock).inventoryItems,
      (arriveAll between (arriveAll before stock)).Sells item)
    ∧ (arriveAll between (arriveAll before stock)).ChargedAt (arriveAll before stock) := by
  have inv := arriveAll_inv before start.inv
  have hnone : stock.Priced := by
    intro row hrow
    rw [start.orderItems] at hrow
    exact nomatch hrow
  have priced := arrivals_priced before start.inv hnone
  refine ⟨fun item mem => arrivals_sell between inv mem, ⟨fun payment mem => ?_,
    fun invoice mem => ?_⟩⟩
  · obtain ⟨known, amount⟩ := inv.charged.payments payment mem
    rw [amount, priceOfLines_later inv priced between known]
  · obtain ⟨known, amount⟩ := inv.charged.invoices invoice mem
    rw [amount, priceOfLines_later inv priced between known]

/-- The declined order of two pencils, at the prices after another reservation. -/
theorem catalogue_stands_declined :
    (∀ item ∈ (arriveAll ((declinedRun 2).map .called) Database.empty).inventoryItems,
      (arriveAll ((reservationRun 2).map .called)
        (arriveAll ((declinedRun 2).map .called) Database.empty)).Sells item)
    ∧ (arriveAll ((reservationRun 2).map .called)
        (arriveAll ((declinedRun 2).map .called) Database.empty)).ChargedAt
          (arriveAll ((declinedRun 2).map .called) Database.empty) :=
  catalogue_stands _ _ stocked_empty

/-! ## §4. Going on sale. -/

/-- `InventoryItemRead.model_validate(item)`, as the JSON it is sent as. -/
def inventoryItemRead (codecs : Codecs) (item : InventoryItem) : Dict :=
  [("id", .str item.id), ("sku", .str item.sku), ("name", .str item.name),
   ("quantity_available", .int item.quantityAvailable),
   ("unit_price_cents", .int item.unitPriceCents),
   ("created_at", .str (codecs.datetimeJson item.createdAt))]

/-- `create_inventory_item_endpoint`. -/
def createInventoryItemEndpoint (codecs : Codecs) (payload : InventoryItemCreate) : App Reply := do
  let item ← createInventoryItem payload
  return .response HTTP_201_CREATED (inventoryItemRead codecs item)

/-- A request that is answered wrote its row, under a SKU of its own. -/
theorem createInventoryItemEndpoint_ok {codecs : Codecs} {payload : InventoryItemCreate}
    {s t : Session Database} {reply : Reply}
    (h : createInventoryItemEndpoint codecs payload s = .ok reply t) :
    ∃ id createdAt, t.committed = s.working.addInventoryItem (payload.row id createdAt)
      ∧ t.committed.Keyed
      ∧ reply = .response HTTP_201_CREATED (inventoryItemRead codecs (payload.row id createdAt)) := by
  obtain ⟨item, v, hcreate, hreply⟩ := bind_eq_ok.mp h
  obtain ⟨row, u, hadd, hcreate⟩ := bind_eq_ok.mp hcreate
  obtain ⟨id, createdAt, n, rfl, rfl⟩ := addInventoryItem_ok hadd
  obtain ⟨_, w, hcommit, hcreate⟩ := bind_eq_ok.mp hcreate
  obtain ⟨keyed, m, rfl⟩ := commit_keyed hcommit
  obtain ⟨_, x, hrefresh, hcreate⟩ := bind_eq_ok.mp hcreate
  obtain ⟨-, k, rfl⟩ := statement_ok hrefresh
  simp only [pure_apply, EStateM.Result.ok.injEq] at hcreate hreply
  obtain ⟨rfl, rfl⟩ := hcreate
  obtain ⟨rfl, rfl⟩ := hreply
  exact ⟨id, createdAt, rfl, keyed, rfl⟩

/-- **An item goes on sale once.**  In every reachable state, an answered
request to put an item on sale found no item under the SKU and is answered 201
with the row it wrote; whatever reaches the system afterwards, the SKU stands
for that row, with another quantity at most, and no further request for the
SKU is answered, on any database. -/
theorem on_sale_once (codecs : Codecs) (before : List Arrival) {stock : Database}
    (start : Stocked stock) {payload : InventoryItemCreate} {world : World Database} {tick : Nat}
    {reply : Reply} {t : Session Database}
    (posted : createInventoryItemEndpoint codecs payload
      (Session.begin world tick (arriveAll before stock)) = .ok reply t) :
    (arriveAll before stock).findInventoryItem payload.sku = none
      ∧ ∃ item, reply = .response HTTP_201_CREATED (inventoryItemRead codecs item)
        ∧ (∃ id createdAt, item = payload.row id createdAt)
        ∧ t.committed = (arriveAll before stock).addInventoryItem item
        ∧ ∀ between : List Arrival,
          (∃ later, (arriveAll between t.committed).findInventoryItem payload.sku = some later
            ∧ item.Same later)
          ∧ ∀ (again : InventoryItemCreate) (world' : World Database) (tick' : Nat)
              (reply' : Reply) (t' : Session Database), again.sku = payload.sku →
              createInventoryItemEndpoint codecs again
                (Session.begin world' tick' (arriveAll between t.committed)) ≠ .ok reply' t' := by
  obtain ⟨id, createdAt, hcommitted, keyed, hreply⟩ := createInventoryItemEndpoint_ok posted
  have hcommitted : t.committed
      = (arriveAll before stock).addInventoryItem (payload.row id createdAt) := hcommitted
  -- a row under the SKU would stand beside the new one
  have hnone : ∀ {db : Database} {row : InventoryItem}, (db.addInventoryItem row).Keyed →
      ∀ item ∈ db.inventoryItems, item.sku ≠ row.sku := by
    intro db row hkeyed item mem hsku
    have hskus : (db.inventoryItems.map (·.sku) ++ [row.sku]).Nodup := by
      have h := hkeyed.skus
      rwa [show (db.addInventoryItem row).inventoryItems = db.inventoryItems ++ [row] from rfl,
        List.map_append] at h
    exact List.disjoint_of_nodup_append hskus (List.mem_map_of_mem mem)
      (hsku ▸ List.mem_singleton_self _)
  have inv := arriveAll_inv before start.inv
  have harrived : t.committed
      = arrive (.called ⟨world, tick, .createInventoryItem payload⟩) (arriveAll before stock) := by
    obtain ⟨item, v, hcreate, hv⟩ := bind_eq_ok.mp posted
    simp only [pure_apply, EStateM.Result.ok.injEq] at hv
    obtain ⟨-, rfl⟩ := hv
    show _ = (after ((createInventoryItem payload >>= fun _ => pure ()) _)).committed
    rw [bind_of_ok hcreate]
    rfl
  have inv' : SagaInv t.committed := harrived ▸ arrived_inv inv (arrive_effect inv _)
  refine ⟨?_, payload.row id createdAt, hreply, ⟨id, createdAt, rfl⟩, hcommitted,
    fun between => ?_⟩
  -- the SKU was free, or the COMMIT would have been refused
  · refine List.find?_eq_none.mpr fun item mem => ?_
    have hsku : item.sku ≠ payload.sku := hnone (hcommitted ▸ keyed) item mem
    simpa using hsku
  · have hmem : payload.row id createdAt ∈ t.committed.inventoryItems := by
      rw [hcommitted]
      exact List.mem_append_right _ (List.mem_singleton.mpr rfl)
    obtain ⟨later, hlater, hsame⟩ := arrivals_sell between inv' hmem
    have hsku : later.sku = payload.sku := hsame.sku
    refine ⟨⟨later, ?_, hsame⟩, fun again world' tick' reply' t' heq hagain => ?_⟩
    · rw [← hsku]
      exact find_row (arriveAll_inv between inv').keyed.skus hlater
    -- the first row is still on file when the second would go in
    · obtain ⟨id', createdAt', hcommitted', keyed', -⟩ := createInventoryItemEndpoint_ok hagain
      have hother : later.sku ≠ again.sku := hnone (hcommitted' ▸ keyed') later hlater
      exact hother (hsku.trans heq.symm)

/-- Pencils go on sale in the empty shop. -/
theorem on_sale_once_pencils :
    ∃ (reply : Reply) (t : Session Database), createInventoryItemEndpoint plainCodecs (pencils 2)
        (Session.begin .calm 0 (arriveAll [] Database.empty)) = .ok reply t
      ∧ (arriveAll [] Database.empty).findInventoryItem (pencils 2).sku = none
      ∧ ∃ item, reply = .response HTTP_201_CREATED (inventoryItemRead plainCodecs item)
        ∧ (∃ id createdAt, item = (pencils 2).row id createdAt)
        ∧ t.committed = (arriveAll [] Database.empty).addInventoryItem item
        ∧ ∀ between : List Arrival,
          (∃ later, (arriveAll between t.committed).findInventoryItem (pencils 2).sku = some later
            ∧ item.Same later)
          ∧ ∀ (again : InventoryItemCreate) (world' : World Database) (tick' : Nat)
              (reply' : Reply) (t' : Session Database), again.sku = (pencils 2).sku →
              createInventoryItemEndpoint plainCodecs again
                (Session.begin world' tick' (arriveAll between t.committed)) ≠ .ok reply' t' := by
  have hreturned : returned (createInventoryItemEndpoint plainCodecs (pencils 2)
      (Session.begin .calm 0 (arriveAll [] Database.empty))) = true := by
    decide +kernel
  cases hrun : createInventoryItemEndpoint plainCodecs (pencils 2)
      (Session.begin .calm 0 (arriveAll [] Database.empty)) with
  | error e t =>
      rw [hrun] at hreturned
      simp [returned] at hreturned
  | ok reply t =>
      exact ⟨reply, t, rfl, on_sale_once plainCodecs [] stocked_empty hrun⟩

end EventCart
