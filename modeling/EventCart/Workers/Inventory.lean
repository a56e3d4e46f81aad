/-
  EventCart.Workers.Inventory
  ───────────────────────────
  **THE INVENTORY WORKER** (`workers/inventory_worker.py`): reserve stock for
  a created order, release it when the payment failed.

  A reservation runs two passes over the requested lines, first checking each
  line against the stock that was loaded, then subtracting line by line; a
  release adds line by line with no check in front.
-/
import EventCart.Inbox

namespace EventCart

open EventCart.Lib
open EventCart.Lib.Tx

def INVENTORY_CONSUMER_NAME : String := "inventory-worker"
def INVENTORY_COMPENSATION_CONSUMER_NAME : String := "inventory-compensation-worker"

/-! ## §1. Reading the payload. -/

/-- A value that passed `isinstance(value, int)`, with the number it is. -/
structure PyInt where
  value : Json
  num : Int
  isInt : value.int? = some num

/-- The dictionaries among a list of values, copied. -/
def dicts (items : List Json) : List Dict :=
  items.filterMap fun
    | .obj members => some members
    | _ => none

/-- `_payload_items`. -/
def payloadItems (payload : Dict) : Except PyError (List Dict) :=
  match payload.get? "items" with
  | some (.arr items) => .ok (dicts items)
  | _ => .error (.inventoryReservationError "OrderCreated payload has no items.")

/-- `_quantity`. -/
def quantity (requestedItem : Dict) : Except PyError PyInt :=
  match requestedItem.get? "quantity" with
  | none => .error (.inventoryReservationError "OrderCreated item quantity must be an integer.")
  | some value =>
      match h : value.int? with
      | none => .error (.inventoryReservationError
          "OrderCreated item quantity must be an integer.")
      | some num => .ok ⟨value, num, h⟩

/-! ## §2. Loading and checking stock. -/

/-- `inventory_items[sku]`. -/
def inventoryItem (inventoryItems : List InventoryItem) (sku : String) :
    Except PyError InventoryItem :=
  match inventoryItems.find? (·.sku = sku) with
  | some row => .ok row
  | none => .error (.keyError sku)

/-- `sorted(set(skus) - set(inventory_items))`. -/
def missingSkus (skus : List String) (inventoryItems : List InventoryItem) : List String :=
  (skus.dedup.filter fun sku => !inventoryItems.any (·.sku = sku)).insertionSort (· ≤ ·)

/-- The rows `select(InventoryItem).where(InventoryItem.sku.in_(skus))`. -/
def Database.itemsIn (skus : List String) (db : Database) : List InventoryItem :=
  db.inventoryItems.filter fun row => skus.contains row.sku

/-- `_load_inventory_items`. -/
def loadInventoryItems (requestedItems : List Dict) : App (List InventoryItem) := do
  let skus ← ofExcept (requestedItems.mapM (strItem · "sku"))
  let inventoryItems ← query (·.itemsIn skus)
  match missingSkus skus inventoryItems with
  | [] => return inventoryItems
  | sku :: _ =>
      raise (.inventoryReservationError
        ("Inventory item not found for SKU " ++ Json.reprStr sku ++ "."))

/-- One round of the loop of `_ensure_inventory_available`. -/
def ensureLine (inventoryItems : List InventoryItem) (requestedItem : Dict) :
    Except PyError Unit := do
  let sku ← strItem requestedItem "sku"
  let quantity ← quantity requestedItem
  let row ← inventoryItem inventoryItems sku
  if row.quantityAvailable < quantity.num then
    .error (.inventoryReservationError
      ("Insufficient inventory for SKU " ++ Json.reprStr sku ++ ": requested "
        ++ Json.pyStr quantity.value ++ ", available " ++ toString row.quantityAvailable
        ++ "."))
  else .ok ()

/-- `_ensure_inventory_available`. -/
def ensureInventoryAvailable (inventoryItems : List InventoryItem) :
    List Dict → Except PyError Unit
  | [] => .ok ()
  | requestedItem :: requestedItems => do
      ensureLine inventoryItems requestedItem
      ensureInventoryAvailable inventoryItems requestedItems

/-! ## §3. Moving stock. -/

/-- `quantity_available += amount` on the row with this SKU. -/
def Database.addStock (sku : String) (amount : Int) (db : Database) : Database :=
  { db with inventoryItems := update (·.sku) sku (fun row =>
      { row with quantityAvailable := row.quantityAvailable + amount }) db.inventoryItems }

/-- One round of the two loops that change stock: `sign` is `-1` where the
code says `-=` and `1` where it says `+=`. -/
def moveLine (sign : Int) (inventoryItems : List InventoryItem) (requestedItem : Dict) :
    App PUnit := do
  let sku ← ofExcept (strItem requestedItem "sku")
  let quantity ← ofExcept (quantity requestedItem)
  let row ← ofExcept (inventoryItem inventoryItems sku)
  write (·.addStock row.sku (sign * quantity.num))

/-- The two loops that change stock. -/
def moveStock (sign : Int) (inventoryItems : List InventoryItem) (items : List Dict) :
    App PUnit :=
  items.forM (moveLine sign inventoryItems)

/-- What `except InventoryReservationError` catches. -/
def reservationError : PyError → Option String
  | .inventoryReservationError message => some message
  | _ => none

/-- The list of lines as it goes into the next payload. -/
def itemsJson (items : List Dict) : Json := .arr (items.map .obj)

/-- The `try … except InventoryReservationError` of `_reserve_inventory`: the
loaded rows, or the text of the exception. -/
def checkStock (requestedItems : List Dict) : App (String ⊕ List InventoryItem) :=
  attempt reservationError (do
    let inventoryItems ← loadInventoryItems requestedItems
    ofExcept (ensureInventoryAvailable inventoryItems requestedItems)
    return inventoryItems)

/-- `_reserve_inventory`. -/
def reserveInventory (event : EventEnvelope) : App OutboxEvent := do
  let orderId ← ofExcept (strItem event.payload "order_id")
  let requestedItems ← ofExcept (payloadItems event.payload)
  match ← checkStock requestedItems with
  | .inl reason =>
      emit (buildResultEvent event "InventoryReservationFailed" orderId
        [("order_id", .str orderId), ("reason", .str reason),
          ("items", itemsJson requestedItems)])
  | .inr inventoryItems =>
      moveStock (-1) inventoryItems requestedItems
      emit (buildResultEvent event "InventoryReserved" orderId
        [("order_id", .str orderId), ("items", itemsJson requestedItems)])

/-- `_release_inventory`. -/
def releaseInventory (event : EventEnvelope) : App OutboxEvent := do
  let orderId ← ofExcept (strItem event.payload "order_id")
  let releasedItems ← ofExcept (payloadItems event.payload)
  let inventoryItems ← loadInventoryItems releasedItems
  moveStock 1 inventoryItems releasedItems
  emit (buildResultEvent event "InventoryReleased" orderId
    [("order_id", .str orderId), ("payment_id", event.payload.getD "payment_id" .null),
      ("reason", event.payload.getD "reason" .null), ("items", itemsJson releasedItems)])

def handleOrderCreated (event : EventEnvelope) : App (Option OutboxEvent) :=
  handleOnce INVENTORY_CONSUMER_NAME reserveInventory event

def handlePaymentFailed (event : EventEnvelope) : App (Option OutboxEvent) :=
  handleOnce INVENTORY_COMPENSATION_CONSUMER_NAME releaseInventory event

end EventCart
