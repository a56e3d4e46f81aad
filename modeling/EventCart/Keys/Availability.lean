/-
  EventCart.Keys.Availability
  ───────────────────────────
  **EVERY POST REQUEST IS ANSWERED** on a database that executes its statements.

  `create_order_endpoint` lets through what `start_request` and `create_order`
  raise, unless it is one of the three exceptions it guards against.  A key
  row holds a response that its validation accepts, so nothing else is raised;
  rows are written under identifiers that were drawn for them and under a key
  that was looked for, so no flush fails.

    §1  stored responses are valid;
    §2  `create_order`;
    §3  the route around it;
    §4  what the client is told (`post_answered`).
-/
import EventCart.Keys.Replies
import EventCart.Saga.Recovery

namespace EventCart

open EventCart.Lib
open EventCart.Lib.Tx

/-! ## §1. Stored responses are valid. -/

/-- Every response in the table of keys passes its validation. -/
def Database.Answerable (codecs : Codecs) (db : Database) : Prop :=
  ∀ row ∈ db.idempotencyKeys, ∀ body, row.responseBody = some body →
    codecs.validateOrderRead body = .ok body

/-- The arrival comes through these codecs. -/
def Arrival.With (codecs : Codecs) : Arrival → Prop
  | .posted _ _ codecs' _ _ => codecs' = codecs
  | .called _ => True
  | .handed _ _ _ _ => True

/-- The key row a request leaves behind is empty or has the order's response. -/
theorem PostEffect.answerable {codecs : Codecs} (lawful : codecs.Lawful) {payload : OrderCreate}
    {idempotencyKey : Option String} {s : Session Database} {final : Nat} {reply : Option Reply}
    {db' : Database} (h : PostEffect codecs payload idempotencyKey s final reply db')
    (valid : s.working.Answerable codecs) : db'.Answerable codecs := by
  have hkeyed : ∀ {key : String} {row : IdempotencyKey} {readAt startedAt : Nat} {order : Order}
      {items : List OrderItem} {new : OutboxEvent},
      Reserved key (hashRequestBody codecs payload.modelDump) DEFAULT_TTL s row readAt startedAt →
        (s.working.addKeyedOrder row order items new).Answerable codecs := by
    intro key row readAt startedAt order items new reserved other hother body hbody
    rcases List.mem_append.mp hother with hold | hnew
    · exact valid other (List.mem_filter.mp hold).1 body hbody
    · rw [List.mem_singleton.mp hnew, reserved.row_eq] at hbody
      exact nomatch hbody
  -- a row that was written without a response, or with a fresh one
  cases h with
  | nothing => exact valid
  | ordered => exact valid
  | placed keyed_by reserved => exact hkeyed reserved
  | answered keyed_by reserved =>
      intro other hother body hbody
      rcases mem_update.mp hother with ⟨old, hold, -, rfl⟩ | ⟨hold, -⟩
      · obtain rfl := Option.some.inj hbody
        exact lawful _ _
      · exact hkeyed reserved other hold body hbody

/-- **The run lemma**: whatever arrives, the stored responses are valid. -/
theorem arrivals_answerable {codecs : Codecs} (lawful : codecs.Lawful) :
    ∀ (arrivals : List Arrival) {db : Database}, (∀ arrival ∈ arrivals, arrival.With codecs) →
      SagaInv db → db.Answerable codecs → (arriveAll arrivals db).Answerable codecs := by
  intro arrivals
  induction arrivals with
  | nil =>
      intro db _ _ h
      exact h
  | cons arrival arrivals ih =>
      intro db with_ inv h
      refine ih (fun a ha => with_ a (List.mem_cons_of_mem _ ha))
        (arrived_inv inv (arrive_effect inv arrival)) ?_
      have hwith := with_ arrival List.mem_cons_self
      -- only a POST request touches the table of keys
      cases arrival with
      | called label =>
          have hkeys := effect_keys (step_effect inv.ready label)
          unfold Database.Answerable
          rw [arrive, hkeys]
          exact h
      | handed world tick eventId paymentFails =>
          have hkeys := effect_keys (handOver_effect inv eventId paymentFails
            (begin_clean world tick db) rfl)
          unfold Database.Answerable
          rw [arrive, transact, hkeys]
          exact h
      | posted world tick codecs' payload idempotencyKey =>
          obtain rfl : codecs' = codecs := hwith
          exact (createOrderEndpoint_effect codecs' payload idempotencyKey
            (begin_clean world tick db) inv.keyed).answerable lawful h

/-! ## §2. `create_order`. -/

/-- The first line whose SKU is not on sale. -/
def unknownItem (items : List OrderItemCreate) (db : Database) : Option OrderItemCreate :=
  items.find? fun item => (db.findInventoryItem item.sku).isNone

/-- `str(error)` of the `InventoryItemNotFoundError` for a SKU. -/
def notFoundText (sku : String) : String :=
  "Inventory item with SKU " ++ Json.reprStr sku ++ " was not found."

/-- The exception names the first line whose SKU is not on sale. -/
def NamesUnknown (items : List OrderItemCreate) (error : PyError) (db : Database) : Prop :=
  ∃ item, unknownItem items db = some item
    ∧ error = .inventoryItemNotFoundError (notFoundText item.sku)

section placing
variable {P : Database → Prop} {E : PyError → Session Database → Prop} {drawn : List String}

/-- What an order and an event leave as it is. -/
structure Posting (P : Database → Prop) : Prop where
  orders : ∀ (db : Database) (order : Order) (items : List OrderItem),
    P db → P (db.addOrder order items)
  emits : ∀ (db : Database) (event : OutboxEvent), P db → P (db.addOutboxEvent event)

theorem meets_priceLines :
    ∀ (items : List OrderItemCreate) (P : Database → Prop),
      Meets (Sane P) (priceLines items) (fun _ => Sane P)
        fun error s => Sane P s ∧ NamesUnknown items error s.working := by
  intro items
  induction items with
  | nil =>
      intro P
      exact meets_pure _ fun _ hs => hs
  | cons line items ih =>
      intro P
      refine (meets_query _).bind fun found => ?_
      cases found with
      | none =>
          -- the first line itself is unknown
          refine meets_raise _ fun s hs => ⟨hs.imp fun _ h => h.1, line, ?_, rfl⟩
          exact List.find?_cons_of_pos (by rw [← hs.2.2]; rfl)
      | some inventoryItem =>
          refine Meets.bind ((ih _).weaken (fun _ hs => hs) (fun _ _ hs => hs) ?_) fun rest =>
            meets_pure _ fun _ hs => hs.imp fun _ h => h.1
          rintro error s ⟨hs, item, hunknown, herror⟩
          -- the first line is on sale, so the first unknown one is further on
          refine ⟨hs.imp fun _ h => h.1, item, ?_, herror⟩
          rw [← hunknown]
          exact List.find?_cons_of_neg (by rw [← hs.2.2]; simp)

theorem meets_orderRows (orderId : String) :
    ∀ (lines : List PricedLine) (drawn : List String),
      Meets (On Database.ids drawn P) (orderRows orderId lines)
        (fun rows s => On Database.ids ((rows.map (·.id)).reverse ++ drawn) P s
          ∧ ∀ row ∈ rows, row.orderId = orderId) E := by
  intro lines
  induction lines with
  | nil =>
      intro drawn
      exact meets_pure _ fun _ hs => ⟨hs, by simp⟩
  | cons line lines ih =>
      intro drawn
      refine meets_uuid4.bind fun id => (ih (id :: drawn)).bind fun rest => ?_
      refine meets_pure _ fun s hs => ⟨?_, ?_⟩
      · rw [List.map_cons, List.reverse_cons, List.append_assoc]
        exact hs.1
      · intro row hrow
        rcases List.mem_cons.mp hrow with rfl | hrow
        · rfl
        · exact hs.2 row hrow

/-- An order and its lines, under identifiers drawn for them. -/
theorem meets_addOrder (posting : Posting P) (order : Order) {items : List OrderItem}
    (owned : ∀ row ∈ items, row.orderId = order.id) :
    Meets (On Database.ids ((items.map (·.id)).reverse ++ [order.id]) P)
      (write (·.addOrder order items) : App Unit)
      (fun _ => Sane fun db => P db ∧ order ∈ db.orders) E := by
  apply meets_write
  intro db admitted hP nodup spare
  have keyed := (admits_iff db).mp admitted
  rw [List.nodup_append] at nodup
  have hitems : (items.map (·.id)).Nodup := List.nodup_reverse.mp nodup.1
  -- identifiers drawn for the lines, apart from those in use and from each other
  have hfresh : ∀ row ∈ items, row.id ∉ db.ids := fun row hrow =>
    spare row.id (List.mem_append_left _ (List.mem_reverse.mpr (List.mem_map_of_mem hrow)))
  refine ⟨(admits_iff _).mpr ?_, ⟨posting.orders db order items hP,
    List.mem_append_right _ (List.mem_singleton.mpr rfl)⟩, fun other hother => ?_⟩
  · refine { keyed with orders := ?_, orderItems := ?_, orderItemsOrders := ?_ }
    · refine nodup_insert keyed.orders (ne_of_spare (fun _ hid => mem_ids.mpr (.inl hid)) ?_)
      exact spare order.id (List.mem_append_right _ (List.mem_singleton.mpr rfl))
    · show ((db.orderItems ++ items).map (·.id)).Nodup
      rw [List.map_append, List.nodup_append]
      refine ⟨keyed.orderItems, hitems, fun old hold new hnew heq => ?_⟩
      obtain ⟨row, hrow, rfl⟩ := List.mem_map.mp hnew
      exact hfresh row hrow (mem_ids.mpr (.inr (.inl (heq ▸ hold))))
    · intro row hrow
      rcases List.mem_append.mp hrow with hold | hnew
      · obtain ⟨other, hother, hid⟩ := keyed.orderItemsOrders row hold
        exact ⟨other, List.mem_append_left _ hother, hid⟩
      · exact ⟨order, List.mem_append_right _ (List.mem_singleton.mpr rfl), (owned row hnew).symm⟩
  · simp only [mem_ids, Database.addOrder, List.map_append, List.map_cons, List.map_nil,
      List.mem_append, List.mem_singleton, List.mem_reverse] at hother ⊢
    tauto

theorem meets_placeOrder (posting : Posting P) (payload : OrderCreate) :
    Meets (Sane P) (placeOrder payload) (fun order => Sane fun db => P db ∧ order ∈ db.orders)
      fun error s => Sane P s ∧ NamesUnknown payload.items error s.working := by
  refine (meets_priceLines payload.items P).bind fun lines => meets_uuid4.bind fun orderId =>
    meets_now.bind fun createdAt => (meets_orderRows orderId lines [orderId]).bind fun items => ?_
  intro s hs
  refine ((meets_addOrder posting ⟨orderId, .PENDING, payload.customerEmail, createdAt⟩ hs.2).bind
    fun _ => meets_flush.bind fun _ => meets_uuid4.bind fun correlationId => ?_) s hs.1
  -- the correlation id stands in no primary key
  refine Meets.pre ?_ fun _ hs => hs.forget
  exact (meets_emit (fun db event h => ⟨posting.emits db event h.1, h.2⟩) _).bind fun _ =>
    meets_pure _ fun _ hs => hs

/-- **`create_order`** returns, unless a SKU is not on sale. -/
theorem meets_createOrder (posting : Posting P) (payload : OrderCreate) :
    Meets (Sane P) (createOrder payload) (fun _ => Sane P)
      fun error s => Sane P s ∧ NamesUnknown payload.items error s.working := by
  refine (meets_placeOrder posting payload).bind fun order => meets_commit.bind fun _ => ?_
  refine (meets_query _).bind fun found => ?_
  cases found with
  -- the order was committed just before
  | none =>
      refine meets_raise _ fun s hs => ?_
      obtain ⟨-, ⟨-, mem⟩, hnone⟩ := hs
      exact absurd (decide_eq_true rfl) (List.find?_eq_none.mp
        (Option.map_eq_none_iff.mp hnone.symm) order mem)
  | some saved => exact meets_pure _ fun _ hs => hs.imp fun _ h => h.1.1

end placing

/-! ## §3. The route. -/

section route
variable {codecs : Codecs} {start : Database} {E : PyError → Session Database → Prop}

/-- The inventory as the request found it, and its key in the table. -/
def Keeping (start : Database) (idempotencyKey : Option String) (db : Database) : Prop :=
  db.inventoryItems = start.inventoryItems
    ∧ ∀ key ∈ idempotencyKey, key ∈ db.idempotencyKeys.map (·.key)

theorem posting_keeping (idempotencyKey : Option String) :
    Posting (Keeping start idempotencyKey) :=
  ⟨fun _ _ _ h => h, fun _ _ h => h⟩

/-- A key that is not in the table goes in. -/
theorem meets_reserveKey (key requestHash : String) (ttl : Int) :
    Meets (Sane fun db => db.inventoryItems = start.inventoryItems
        ∧ key ∉ db.idempotencyKeys.map (·.key))
      (reserveKey key requestHash ttl) (fun _ => Sane (Keeping start (some key))) E := by
  refine meets_now.bind fun startedAt => meets_now.bind fun createdAt =>
    meets_now.bind fun updatedAt => Meets.bind ?_ fun _ => meets_flush
  apply meets_write
  intro db admitted hP _ _
  have keyed := (admits_iff db).mp admitted
  -- the key is not in the table, and then it is
  refine ⟨(admits_iff _).mpr { keyed with
    idempotencyKeys := nodup_insert keyed.idempotencyKeys fun other hother heq => ?_ },
    ⟨hP.1, fun key' hkey => ?_⟩, fun id hid => .inl hid⟩
  · have hkey : other.key = key := heq
    exact hP.2 (hkey ▸ List.mem_map_of_mem hother)
  · obtain rfl := Option.some.inj hkey
    exact List.mem_map.mpr ⟨_, List.mem_append_right _ (List.mem_singleton.mpr rfl), rfl⟩

/-- The expired row of a key goes out. -/
theorem meets_deleteIdempotencyKey (key : String) :
    Meets (Sane fun db => db.inventoryItems = start.inventoryItems)
      (write (·.deleteIdempotencyKey key) : App Unit)
      (fun _ => Sane fun db => db.inventoryItems = start.inventoryItems
        ∧ key ∉ db.idempotencyKeys.map (·.key)) E := by
  apply meets_write
  intro db admitted hP _ _
  have keyed := (admits_iff db).mp admitted
  refine ⟨(admits_iff _).mpr { keyed with
    idempotencyKeys := keyed.idempotencyKeys.sublist (List.filter_sublist.map _) },
    ⟨hP, fun hmem => ?_⟩, fun id hid => .inl hid⟩
  obtain ⟨row, hrow, hkey⟩ := List.mem_map.mp hmem
  exact of_decide_eq_true (List.mem_filter.mp hrow).2 hkey

/-- A live row has a valid response, or one of the exceptions that the route
guards against. -/
theorem answer_guarded {row : IdempotencyKey} {requestHash : String} {error : PyError}
    (h : row.answer requestHash = .error error) : (idempotencyError error).isSome = true := by
  unfold IdempotencyKey.answer at h
  split at h
  · obtain rfl := Except.error.inj h
    rfl
  · split at h
    · exact nomatch h
    · obtain rfl := Except.error.inj h
      rfl

theorem answer_stored {row : IdempotencyKey} {requestHash : String} {record : IdempotencyRecord}
    (h : row.answer requestHash = .ok record) : row.responseBody = some record.responseBody := by
  unfold IdempotencyKey.answer at h
  split at h
  · exact nomatch h
  · split at h
    next responseBody statusCode hbody hstatus =>
      obtain rfl := Except.ok.inj h
      exact hbody
    next => exact nomatch h

/-- **`start_request`** reserves the key, or finds a valid response, or raises
what the route guards against. -/
theorem meets_startRequest (ttl : Int) (key : String) (body : Dict) :
    Meets (Sane fun db => db.inventoryItems = start.inventoryItems ∧ db.Answerable codecs)
      (startRequest codecs ttl key body)
      (fun result s => match result with
        | none => Sane (Keeping start (some key)) s
        | some record => codecs.validateOrderRead record.responseBody = .ok record.responseBody)
      fun error _ => (idempotencyError error).isSome = true := by
  refine (meets_query _).bind fun found => ?_
  cases found with
  | none =>
      refine Meets.bind ((meets_reserveKey key _ ttl).pre fun s hs => hs.imp fun db h =>
        ⟨h.1.1, fun hmem => ?_⟩) fun _ => meets_pure _ fun _ hs => hs
      obtain ⟨row, hrow, hkey⟩ := List.mem_map.mp hmem
      exact List.find?_eq_none.mp h.2.symm row hrow (decide_eq_true hkey)
  -- a row under the key: expired, or it has an answer to give
  | some existing =>
      refine meets_now.bind fun readAt => ?_
      split
      · -- expired: its row makes room for the new one
        refine Meets.bind ((meets_deleteIdempotencyKey key).pre fun s hs => hs.imp fun _ h => h.1.1)
          fun _ => meets_flush.bind fun _ => (meets_reserveKey key _ ttl).bind fun _ =>
            meets_pure _ fun _ hs => hs
      · refine Meets.bind (meets_ofExcept (Q := fun record _ =>
          codecs.validateOrderRead record.responseBody = .ok record.responseBody) ?_ ?_)
          fun record => meets_pure _ fun _ hs => hs
        · intro record hanswer s hs
          have hmem : existing ∈ s.working.idempotencyKeys :=
            List.mem_of_find?_eq_some hs.2.2.symm
          exact hs.2.1.2 existing hmem _ (answer_stored hanswer)
        · intro error hanswer s _
          exact answer_guarded hanswer

/-- **The route up to `create_order`** always returns. -/
theorem meets_answerFromKey (payload : OrderCreate) (idempotencyKey : Option String) :
    Meets (Sane fun db => db.inventoryItems = start.inventoryItems ∧ db.Answerable codecs)
      (answerFromKey codecs payload idempotencyKey)
      (fun result => result.elim (Sane (Keeping start idempotencyKey)) fun reply _ =>
        ∀ detail, reply ≠ .httpException HTTP_404_NOT_FOUND detail)
      fun _ _ => False := by
  cases idempotencyKey with
  | none => exact meets_pure _ fun _ hs => hs.imp fun _ h => ⟨h.1, fun _ hkey => nomatch hkey⟩
  | some key =>
      refine Meets.bind (Meets.attempt
        (R := Sum.elim (fun _ _ => True) fun found =>
          found.elim (Sane (Keeping start (some key))) fun record _ =>
            codecs.validateOrderRead record.responseBody = .ok record.responseBody)
        (meets_startRequest DEFAULT_TTL key payload.modelDump) ?_ ?_ ?_) fun result => ?_
      · intro record s hs
        cases record with
        | none => exact hs
        | some record => exact hs
      · intro error detail s _ _
        trivial
      -- whatever `start_request` raises here is caught
      · intro error s huncaught hguarded
        rw [huncaught] at hguarded
        exact nomatch hguarded
      -- a conflict, a new reservation, or the stored answer
      · rcases result with detail | _ | record
        · refine meets_pure _ fun _ _ other heq => ?_
          have hstatus := (Reply.httpException.inj heq).1
          exact absurd hstatus (by decide)
        · exact meets_pure _ fun _ hs => hs
        · refine Meets.bind (meets_ofExcept (Q := fun _ _ => True) (fun _ _ _ _ => trivial) ?_)
            fun body => meets_pure _ fun _ _ _ heq => nomatch heq
          intro error hinvalid s hvalid
          have hvalid : codecs.validateOrderRead record.responseBody = .ok record.responseBody :=
            hvalid
          rw [hinvalid] at hvalid
          exact nomatch hvalid

/-- **`store_response`** finds the row of the key. -/
theorem meets_storeResponse (key : String) (responseBody : Dict) (statusCode : Int) :
    Meets (Sane (Keeping start (some key))) (storeResponse key responseBody statusCode)
      (fun _ => Sane fun db => db.inventoryItems = start.inventoryItems) E := by
  refine (meets_query _).bind fun found => ?_
  cases found with
  -- the row was reserved in this session and is still there
  | none =>
      refine meets_raise _ fun s hs => ?_
      obtain ⟨row, hrow, hkey⟩ := List.mem_map.mp (hs.2.1.2 key rfl)
      exact absurd (decide_eq_true hkey) (List.find?_eq_none.mp hs.2.2.symm row hrow)
  | some row =>
      refine meets_now.bind fun updatedAt => Meets.bind ?_ fun _ => meets_flush
      apply meets_write
      intro db admitted hP _ _
      have keyed := (admits_iff db).mp admitted
      have hkeys := keys_updateIdempotencyKey db key
        (f := (·.answered responseBody statusCode updatedAt)) fun _ => rfl
      exact ⟨(admits_iff _).mpr { keyed with idempotencyKeys := hkeys ▸ keyed.idempotencyKeys },
        hP.1.1, fun id hid => .inl hid⟩

theorem meets_keepResponse (orderResponse : Dict) (idempotencyKey : Option String) :
    Meets (Sane (Keeping start idempotencyKey)) (keepResponse orderResponse idempotencyKey)
      (fun _ _ => True) E := by
  cases idempotencyKey with
  | none => exact meets_pure _ fun _ _ => trivial
  | some key =>
      exact (meets_storeResponse key orderResponse HTTP_201_CREATED).bind fun _ =>
        meets_commit.post fun _ _ _ => trivial

/-- A 404 names the first line whose SKU is not on sale. -/
def Explained (start : Database) (payload : OrderCreate) (reply : Reply) : Prop :=
  ∀ detail, reply = .httpException HTTP_404_NOT_FOUND detail →
    ∃ item, unknownItem payload.items start = some item ∧ detail = notFoundText item.sku

theorem unknownItem_congr {db : Database} (h : db.inventoryItems = start.inventoryItems)
    (items : List OrderItemCreate) : unknownItem items db = unknownItem items start := by
  unfold unknownItem Database.findInventoryItem
  rw [h]

/-- **The route from `create_order` on** always returns. -/
theorem meets_placeAndReply (payload : OrderCreate) (idempotencyKey : Option String) :
    Meets (Sane (Keeping start idempotencyKey)) (placeAndReply codecs payload idempotencyKey)
      (fun reply _ => Explained start payload reply) fun _ _ => False := by
  refine Meets.bind (Meets.attempt (R := fun result s => match result with
      | .inl detail =>
          ∃ item, unknownItem payload.items start = some item ∧ detail = notFoundText item.sku
      | .inr _ => Sane (Keeping start idempotencyKey) s)
    (meets_createOrder (posting_keeping idempotencyKey) payload) (fun _ _ hs => hs) ?_ ?_)
    fun result => ?_
  -- a SKU that is not on sale: the 404 names it
  · rintro error detail s hcaught ⟨hs, item, hunknown, rfl⟩
    obtain rfl := Option.some.inj hcaught
    refine ⟨item, ?_, rfl⟩
    rw [← unknownItem_congr hs.2.1]
    exact hunknown
  -- no other exception leaves `create_order`
  · rintro error s huncaught ⟨-, item, -, rfl⟩
    exact nomatch huncaught
  · match result with
    | .inl detail =>
        refine meets_pure _ fun _ hs other heq => ?_
        obtain ⟨-, rfl⟩ := Reply.httpException.inj heq
        exact hs
    | .inr (order, items) =>
        exact (meets_keepResponse _ idempotencyKey).bind fun _ =>
          meets_pure _ fun _ _ _ heq => nomatch heq

/-- **`create_order_endpoint`** always returns. -/
theorem meets_createOrderEndpoint (payload : OrderCreate) (idempotencyKey : Option String) :
    Meets (Sane fun db => db.inventoryItems = start.inventoryItems ∧ db.Answerable codecs)
      (createOrderEndpoint codecs payload idempotencyKey)
      (fun reply _ => Explained start payload reply) fun _ _ => False := by
  refine (meets_answerFromKey payload idempotencyKey).bind fun result => ?_
  cases result with
  | none => exact meets_placeAndReply payload idempotencyKey
  | some reply => exact meets_pure _ fun _ hs detail heq => absurd heq (hs detail)

end route

/-! ## §4. What the client is told. -/

/-- No live row was found under the request's key. -/
def Vacant (idempotencyKey : Option String) (s : Session Database) (final : Nat) : Prop :=
  ∀ key existing, idempotencyKey = some key → s.working.findIdempotencyKey key = some existing →
    ∃ readAt, s.tick ≤ readAt ∧ readAt < final ∧ existing.isExpired (s.world.now readAt) = true

/-- The answer to a request that starts in `s`, and the database after it:
the key's row answers, or some SKU is not on sale, or there is a new order. -/
inductive Answered (codecs : Codecs) (payload : OrderCreate) (idempotencyKey : Option String)
    (s : Session Database) (final : Nat) : Reply → Database → Prop where
  | fromKey {key : String} {row : IdempotencyKey} {readAt : Nat} {reply : Reply}
      (keyed_by : idempotencyKey = some key) (living : Living key s row readAt)
      (readAt_lt : readAt < final)
      (answer : row.reply? codecs (hashRequestBody codecs payload.modelDump) = some reply) :
      Answered codecs payload idempotencyKey s final reply s.working
  | unknown {item : OrderItemCreate} (vacant : Vacant idempotencyKey s final)
      (first : unknownItem payload.items s.working = some item) :
      Answered codecs payload idempotencyKey s final
        (.httpException HTTP_404_NOT_FOUND (notFoundText item.sku)) s.working
  | created {order : Order} {items : List OrderItem} {db' : Database}
      (vacant : Vacant idempotencyKey s final)
      (known : unknownItem payload.items s.working = none) (status : order.status = .PENDING)
      (email : order.customerEmail = payload.customerEmail)
      (orders : db'.orders = s.working.orders ++ [order]) (lines : db'.itemsOf order.id = items)
      (stored : ∀ key ∈ idempotencyKey, ∃ row, db'.findIdempotencyKey key = some row
        ∧ row.requestHash = hashRequestBody codecs payload.modelDump
        ∧ row.responseBody = some (orderRead codecs order items)
        ∧ row.statusCode = some HTTP_201_CREATED) :
      Answered codecs payload idempotencyKey s final
        (.response HTTP_201_CREATED (orderRead codecs order items)) db'

theorem Placed.known {db : Database} {payload : OrderCreate} {order : Order}
    {items : List OrderItem} {new : OutboxEvent} (placed : Placed db payload order items new) :
    unknownItem payload.items db = none := by
  obtain ⟨lines, _, _, _, hfst, hfound, -⟩ := placed.event
  unfold unknownItem
  rw [List.find?_eq_none]
  intro item hitem
  rw [← hfst] at hitem
  obtain ⟨line, hline, rfl⟩ := List.mem_map.mp hitem
  rw [hfound line hline]
  simp

/-- What the effect of a request and the reason of a 404 say together. -/
theorem PostEffect.answered_by {codecs : Codecs} {payload : OrderCreate}
    {idempotencyKey : Option String} {s : Session Database} (keyed : s.working.Keyed) {final : Nat}
    {reply : Reply} {db' : Database}
    (h : PostEffect codecs payload idempotencyKey s final (some reply) db')
    (explained : Explained s.working payload reply) :
    Answered codecs payload idempotencyKey s final reply db' := by
  cases h with
  | nothing unplaced =>
      cases unplaced reply rfl with
      | notFound detail vacant =>
          obtain ⟨item, hunknown, rfl⟩ := explained detail rfl
          exact .unknown vacant hunknown
      | stored keyed_by living readAt_lt answer valid =>
          refine .fromKey keyed_by living readAt_lt ?_
          unfold IdempotencyKey.reply?
          simp only [answer, valid]
      | conflict keyed_by living readAt_lt answer caught =>
          refine .fromKey keyed_by living readAt_lt ?_
          unfold IdempotencyKey.reply?
          simp only [answer, caught, Option.map_some]
  | @ordered _ order items new unkeyed placed hk answer =>
      rw [answer reply rfl]
      subst unkeyed
      exact .created (fun _ _ hkey => nomatch hkey) placed.known placed.status placed.email rfl
        (itemsOf_placed keyed.orderItemsOrders placed hk) fun _ hkey => nomatch hkey
  -- the row of the key was reserved before the order, and is no order
  | @answered key row readAt startedAt updatedAt order items new keyed_by reserved lt placed hk =>
      have hlines : (s.working.addKeyedOrder row order items new).itemsOf order.id = items :=
        itemsOf_addKeyedOrder keyed placed hk
      refine .created (vacant_of_reserved keyed_by reserved lt) placed.known placed.status
        placed.email rfl hlines fun key' hkey => ?_
      obtain rfl : key = key' := Option.some.inj (keyed_by.symm.trans hkey)
      have hrow : row.key = key := by rw [reserved.row_eq]; rfl
      have hfound : (s.working.addKeyedOrder row order items new).findIdempotencyKey key
          = some row := by
        rw [← hrow]
        show ((s.working.deleteIdempotencyKey row.key).addIdempotencyKey row).findIdempotencyKey
          row.key = _
        exact findIdempotencyKey_add_self findIdempotencyKey_delete_self
      refine ⟨_, findIdempotencyKey_answered_self _ _ _ hfound, ?_, rfl, rfl⟩
      rw [reserved.row_eq]
      rfl

/-- **Every POST request is answered.**  Whatever came before, with any
crashes, redeliveries and replays on the way: on a database that executes
every statement (no row is rejected by its columns), with fresh identifiers
and any clock, the request returns.  A live row under its key answers;
otherwise the first SKU that is not on sale is a 404; otherwise there is one
new order, and its response is in the key's row. -/
theorem post_answered {codecs : Codecs} (lawful : codecs.Lawful) (arrivals : List Arrival)
    (with_ : ∀ arrival ∈ arrivals, arrival.With codecs) {world : World Database}
    (faultless : world.Dependable fun _ => none) (distinct : Function.Injective world.uuid4)
    {tick : Nat}
    (fresh : ∀ n, tick ≤ n → world.uuid4 n ∉ (arriveAll arrivals Database.empty).ids)
    (payload : OrderCreate) (idempotencyKey : Option String) :
    ∃ reply t, createOrderEndpoint codecs payload idempotencyKey
          (Session.begin world tick (arriveAll arrivals Database.empty)) = .ok reply t
      ∧ Answered codecs payload idempotencyKey
          (Session.begin world tick (arriveAll arrivals Database.empty)) t.tick reply
          t.committed := by
  have inv := arriveAll_inv arrivals stocked_empty.inv
  have hempty : Database.empty.Answerable codecs := fun row hrow => nomatch hrow
  have answerable := arrivals_answerable lawful arrivals with_ stocked_empty.inv hempty
  generalize arriveAll arrivals Database.empty = db at *
  have hlands := meets_createOrderEndpoint payload idempotencyKey (Session.begin world tick db)
    (sane_begin faultless distinct inv.keyed fresh ⟨rfl, answerable⟩)
  have heffect := createOrderEndpoint_effect codecs payload idempotencyKey
    (begin_clean world tick db) inv.keyed
  cases hrun : createOrderEndpoint codecs payload idempotencyKey (Session.begin world tick db) with
  | error e t =>
      rw [hrun] at hlands
      cases e <;> exact hlands.elim
  | ok reply t =>
      rw [hrun] at hlands heffect
      -- the effect says what changed, the triple why a 404 was sent
      exact ⟨reply, t, rfl, heffect.answered_by inv.keyed hlands⟩

/-- A pencil is asked for after the reservation was interrupted. -/
theorem post_answered_interrupted :
    ∃ reply t, createOrderEndpoint plainCodecs aPencil (some "key-1")
          (Session.begin World.calm 300 (arriveAll interrupted Database.empty)) = .ok reply t
      ∧ Answered plainCodecs aPencil (some "key-1")
          (Session.begin World.calm 300 (arriveAll interrupted Database.empty)) t.tick reply
          t.committed :=
  post_answered plainCodecs_lawful interrupted (by simp [interrupted, Arrival.With])
    World.calm_dependable calm_distinct (calm_fresh (by decide +kernel)) aPencil (some "key-1")

end EventCart
