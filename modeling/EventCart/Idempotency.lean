/-
  EventCart.Idempotency
  ─────────────────────
  **ORDERS UNDER AN IDEMPOTENCY KEY**: `IdempotencyService`
  (`modules/idempotency/service.py`) and the route of `POST /api/v1/orders`
  (`modules/orders/routes.py`) that wraps `create_order` in it.

  The key row is flushed before the order is built and becomes durable with
  the COMMIT inside `create_order`; its response columns are filled in
  afterwards and committed by the route.  Hash, timestamp format and response
  validation are library code, and come in as `Codecs`.
-/
import EventCart.Orders

namespace EventCart

open EventCart.Lib
open EventCart.Lib.Tx

/-! ## §1. Request and response bodies. -/

/-- The library code that bodies pass through. -/
structure Codecs where
  /-- `hashlib.sha256(text.encode("utf-8")).hexdigest()`. -/
  sha256 : String → String
  /-- A `datetime` in a JSON body. -/
  datetimeJson : DateTime → String
  /-- `OrderRead.model_validate(body)`, as the JSON it is sent as. -/
  validateOrderRead : Dict → Except PyError Dict

/-- `payload.model_dump(mode="json")`. -/
def OrderCreate.modelDump (payload : OrderCreate) : Dict :=
  [("customer_email", .str payload.customerEmail),
   ("items", .arr (payload.items.map fun item =>
      .obj [("sku", .str item.sku), ("quantity", .int item.quantity)]))]

/-- One line of an `OrderRead`. -/
def OrderItem.read (item : OrderItem) : Dict :=
  [("id", .str item.id), ("sku", .str item.sku), ("quantity", .int item.quantity),
   ("unit_price_cents", .int item.unitPriceCents),
   ("product_name", item.productName.elim .null .str)]

/-- `OrderRead.model_validate(order).model_dump(mode="json")`. -/
def orderRead (codecs : Codecs) (order : Order) (items : List OrderItem) : Dict :=
  [("id", .str order.id), ("status", .str order.status.value),
   ("customer_email", .str order.customerEmail),
   ("created_at", .str (codecs.datetimeJson order.createdAt)),
   ("items", .arr (items.map fun item => .obj item.read))]

def hashRequestBody (codecs : Codecs) (requestBody : Dict) : String :=
  codecs.sha256 (Json.dumps (.obj requestBody))

/-! ## §2. The table of keys. -/

namespace Database

/-- `session.get(IdempotencyKey, key)`. -/
def findIdempotencyKey (key : String) (db : Database) : Option IdempotencyKey :=
  db.idempotencyKeys.find? (·.key = key)

def addIdempotencyKey (row : IdempotencyKey) (db : Database) : Database :=
  { db with idempotencyKeys := db.idempotencyKeys ++ [row] }

/-- The DELETE of a mapped row goes by its primary key alone. -/
def deleteIdempotencyKey (key : String) (db : Database) : Database :=
  { db with idempotencyKeys := db.idempotencyKeys.filter (·.key ≠ key) }

def updateIdempotencyKey (key : String) (f : IdempotencyKey → IdempotencyKey) (db : Database) :
    Database :=
  { db with idempotencyKeys := update (·.key) key f db.idempotencyKeys }

end Database

/-! ## §3. `IdempotencyService`. -/

structure IdempotencyRecord where
  responseBody : Dict
  statusCode : Int

/-- `timedelta(hours=24)`. -/
def DEFAULT_TTL : Int := 24 * 60 * 60 * 1000000

/-- `_is_expired`, at the time it reads. -/
def IdempotencyKey.isExpired (record : IdempotencyKey) (readAt : DateTime) : Bool :=
  record.expiresAt ≤ readAt

def REQUEST_CONFLICT : String :=
  "Idempotency key was already used with a different request body."

def REQUEST_IN_PROGRESS : String := "Idempotency key is already processing a request."

/-- The row of a request that starts. -/
def newIdempotencyKey (key requestHash : String) (expiresAt createdAt updatedAt : DateTime) :
    IdempotencyKey :=
  ⟨key, requestHash, none, none, expiresAt, createdAt, updatedAt⟩

/-- What a key that has not expired has to say to a request. -/
def IdempotencyKey.answer (existing : IdempotencyKey) (requestHash : String) :
    Except PyError IdempotencyRecord :=
  if existing.requestHash ≠ requestHash then .error (.idempotencyConflictError REQUEST_CONFLICT)
  else
    match existing.responseBody, existing.statusCode with
    | some responseBody, some statusCode => .ok ⟨responseBody, statusCode⟩
    | _, _ => .error (.idempotencyInProgressError REQUEST_IN_PROGRESS)

/-- `session.add(IdempotencyKey(...))` and the flush behind it. -/
def reserveKey (key requestHash : String) (ttl : Int) : App Unit := do
  let startedAt ← now
  let createdAt ← now
  let updatedAt ← now
  write (·.addIdempotencyKey
    (newIdempotencyKey key requestHash (startedAt + ttl) createdAt updatedAt))
  flush

def startRequest (codecs : Codecs) (ttl : Int) (key : String) (requestBody : Dict) :
    App (Option IdempotencyRecord) := do
  match ← query (·.findIdempotencyKey key) with
  | none =>
      reserveKey key (hashRequestBody codecs requestBody) ttl
      return none
  | some existing =>
      let readAt ← now
      if existing.isExpired readAt then
        write (·.deleteIdempotencyKey key)
        flush
        reserveKey key (hashRequestBody codecs requestBody) ttl
        return none
      else
        let record ← ofExcept (existing.answer (hashRequestBody codecs requestBody))
        return some record

/-- The columns `store_response` assigns. -/
def IdempotencyKey.answered (responseBody : Dict) (statusCode : Int) (updatedAt : DateTime)
    (record : IdempotencyKey) : IdempotencyKey :=
  { record with
    responseBody := some responseBody
    statusCode := some statusCode
    updatedAt := updatedAt }

def storeResponse (key : String) (responseBody : Dict) (statusCode : Int) : App Unit := do
  match ← query (·.findIdempotencyKey key) with
  | none =>
      raise (.lookupError ("Idempotency key " ++ Json.reprStr key ++ " was not reserved."))
  | some _ =>
      let updatedAt ← now
      write (·.updateIdempotencyKey key (·.answered responseBody statusCode updatedAt))
      flush

/-! ## §4. The route. -/

/-- What the client gets. -/
inductive Reply where
  | response (statusCode : Int) (body : Dict)
  /-- `HTTPException`. -/
  | httpException (statusCode : Int) (detail : String)
  deriving DecidableEq

def HTTP_201_CREATED : Int := 201
def HTTP_404_NOT_FOUND : Int := 404
def HTTP_409_CONFLICT : Int := 409

/-- The exceptions `start_request` is guarded against, with `str(error)`. -/
def idempotencyError : PyError → Option String
  | .idempotencyConflictError message => some message
  | .idempotencyInProgressError message => some message
  | _ => none

/-- The exception `create_order` is guarded against, with `str(error)`. -/
def inventoryItemNotFoundError : PyError → Option String
  | .inventoryItemNotFoundError message => some message
  | _ => none

/-- The route up to `create_order`: a reply ends the request there. -/
def answerFromKey (codecs : Codecs) (payload : OrderCreate) (idempotencyKey : Option String) :
    App (Option Reply) := do
  match idempotencyKey with
  | none => return none
  | some key =>
      match ← attempt idempotencyError (startRequest codecs DEFAULT_TTL key payload.modelDump) with
      | .inl detail => return some (.httpException HTTP_409_CONFLICT detail)
      | .inr none => return none
      | .inr (some storedResponse) =>
          let body ← ofExcept (codecs.validateOrderRead storedResponse.responseBody)
          return some (.response storedResponse.statusCode body)

/-- The route after `create_order`. -/
def keepResponse (orderResponse : Dict) (idempotencyKey : Option String) : App Unit := do
  match idempotencyKey with
  | none => return ()
  | some key =>
      storeResponse key orderResponse HTTP_201_CREATED
      commit

/-- The route from `create_order` on. -/
def placeAndReply (codecs : Codecs) (payload : OrderCreate) (idempotencyKey : Option String) :
    App Reply := do
  match ← attempt inventoryItemNotFoundError (createOrder payload) with
  | .inl detail => return .httpException HTTP_404_NOT_FOUND detail
  | .inr (order, items) =>
      keepResponse (orderRead codecs order items) idempotencyKey
      return .response HTTP_201_CREATED (orderRead codecs order items)

/-- `create_order_endpoint`. -/
def createOrderEndpoint (codecs : Codecs) (payload : OrderCreate)
    (idempotencyKey : Option String) : App Reply := do
  match ← answerFromKey codecs payload idempotencyKey with
  | some reply => return reply
  | none => placeAndReply codecs payload idempotencyKey

end EventCart
