/-
  EventCart.Orders
  ────────────────
  **THE COMMANDS OF THE API**: `create_inventory_item`
  (`modules/inventory`) and `create_order` (`modules/orders`), behind the
  request schemas that guard them.

  A request body is a value of its schema: an `OrderCreate` without lines or
  with a quantity of zero cannot be built.
-/
import EventCart.Inbox

namespace EventCart

open EventCart.Lib
open EventCart.Lib.Tx

/-! ## §1. Request schemas. -/

structure InventoryItemCreate where
  sku : String
  name : String
  quantityAvailable : Int
  unitPriceCents : Int
  sku_length : 1 ≤ sku.length ∧ sku.length ≤ 64
  name_length : 1 ≤ name.length ∧ name.length ≤ 200
  quantityAvailable_ge : 0 ≤ quantityAvailable
  unitPriceCents_ge : 0 ≤ unitPriceCents

structure OrderItemCreate where
  sku : String
  quantity : Int
  sku_length : 1 ≤ sku.length ∧ sku.length ≤ 64
  quantity_gt : 0 < quantity

structure OrderCreate where
  customerEmail : String
  items : List OrderItemCreate
  customerEmail_length : 3 ≤ customerEmail.length ∧ customerEmail.length ≤ 320
  items_length : 1 ≤ items.length

/-! ## §2. Row updates and queries. -/

namespace Database

def addInventoryItem (row : InventoryItem) (db : Database) : Database :=
  { db with inventoryItems := db.inventoryItems ++ [row] }

def addOrder (order : Order) (items : List OrderItem) (db : Database) : Database :=
  { db with orders := db.orders ++ [order], orderItems := db.orderItems ++ items }

/-- `select(InventoryItem).where(InventoryItem.sku == sku)`, at most one row
because the column is unique. -/
def findInventoryItem (sku : String) (db : Database) : Option InventoryItem :=
  db.inventoryItems.find? (·.sku = sku)

/-- The lines of an order, in the order they were added. -/
def itemsOf (orderId : String) (db : Database) : List OrderItem :=
  db.orderItems.filter (·.orderId = orderId)

end Database

/-! ## §3. `create_inventory_item`. -/

/-- The row of a request. -/
def InventoryItemCreate.row (payload : InventoryItemCreate) (id : String)
    (createdAt : DateTime) : InventoryItem :=
  ⟨id, payload.sku, payload.name, payload.quantityAvailable, payload.unitPriceCents, createdAt⟩

/-- `session.add(item)`. -/
def addInventoryItem (payload : InventoryItemCreate) : App InventoryItem := do
  let id ← uuid4
  let createdAt ← now
  write (·.addInventoryItem (payload.row id createdAt))
  return payload.row id createdAt

def createInventoryItem (payload : InventoryItemCreate) : App InventoryItem := do
  let item ← addInventoryItem payload
  commit
  -- `session.refresh(item)` reads the row back
  statement
  return item

/-! ## §4. `create_order`. -/

/-- A line of the order together with its inventory row. -/
abbrev PricedLine := OrderItemCreate × InventoryItem

/-- The loop of `create_order`: every line's SKU must be on sale. -/
def priceLines : List OrderItemCreate → App (List PricedLine)
  | [] => return []
  | line :: lines => do
      match ← query (·.findInventoryItem line.sku) with
      | none =>
          raise (.inventoryItemNotFoundError
            ("Inventory item with SKU " ++ Json.reprStr line.sku ++ " was not found."))
      | some inventoryItem =>
          let rest ← priceLines lines
          return (line, inventoryItem) :: rest

/-- The order rows of the priced lines, with their fresh ids. -/
def orderRows (orderId : String) : List PricedLine → App (List OrderItem)
  | [] => return []
  | (line, inventoryItem) :: lines => do
      let id ← uuid4
      let rest ← orderRows orderId lines
      return ⟨id, orderId, inventoryItem.sku, line.quantity, inventoryItem.unitPriceCents,
        some inventoryItem.name⟩ :: rest

/-- One element of `event_items`. -/
def eventItem (line : PricedLine) : Dict :=
  [("sku", .str line.2.sku), ("quantity", .int line.1.quantity),
   ("unit_price_cents", .int line.2.unitPriceCents), ("product_name", .str line.2.name)]

/-- The `OrderCreated` event of a new order. -/
def orderCreatedDraft (order : Order) (correlationId : String) (lines : List PricedLine) :
    EventDraft :=
  { eventType := "OrderCreated"
    eventVersion := 1
    aggregateType := "Order"
    aggregateId := order.id
    correlationId := correlationId
    causationId := none
    payload :=
      [("order_id", .str order.id), ("customer_email", .str order.customerEmail),
       ("status", .str order.status.value), ("items", .arr (lines.map fun line =>
        .obj (eventItem line)))] }

/-- `get_order`, with the lines `selectinload` brings along. -/
def getOrder (orderId : String) : App (Option (Order × List OrderItem)) :=
  query fun db => (db.orders.find? (·.id = orderId)).map fun order => (order, db.itemsOf orderId)

/-- `create_order` up to its commit: the order, its lines and its event. -/
def placeOrder (payload : OrderCreate) : App Order := do
  let lines ← priceLines payload.items
  let orderId ← uuid4
  let createdAt ← now
  let order : Order := ⟨orderId, .PENDING, payload.customerEmail, createdAt⟩
  let items ← orderRows orderId lines
  write (·.addOrder order items)
  flush
  let correlationId ← uuid4
  let _ ← emit (orderCreatedDraft order correlationId lines)
  return order

/-- The end of `create_order`: the new order, read back. -/
def savedOrder (orderId : String) : App (Order × List OrderItem) := do
  match ← getOrder orderId with
  | none => raise (.runtimeError "Created order could not be loaded.")
  | some savedOrder => return savedOrder

def createOrder (payload : OrderCreate) : App (Order × List OrderItem) := do
  let order ← placeOrder payload
  commit
  savedOrder order.id

end EventCart
