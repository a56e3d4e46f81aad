/-
  EventCart.Dispatchers.Subscribers
  ─────────────────────────────────
  **FROM THE ORDER TO THE SUBSCRIBER.**

  A deployment with a broker: the API takes orders, the outbox publisher
  hands their events to JetStream, and a subscriber decodes what the stream
  keeps.  Nothing in between is trusted: requests and batches come in any
  order and stop anywhere, and the transport takes, refuses or loses what it
  likes.  Of the stream itself one thing is assumed: it keeps what was taken
  (`Retains`).  How long it remembers the ids of its messages is left open.

    §1  `decode_event_payload` reads the UTF-8 texts of JSON documents and
        nothing else;
    §2  the JSON of an envelope;
    §3  the outbox announces the orders, one event an order;
    §4  requests and batches keep that;
    §5  `subscribers_read_orders` — the decoded stream is a list of orders,
        each with its email and lines as the tables have them; no order whose
        event is PUBLISHED is missing, and none is there twice unless the
        stream has a message id twice.
-/
import EventCart.Lib.JsonWriter
import EventCart.Keys.OneOrder
import EventCart.Saga.Arrivals
import EventCart.Saga.Stock
import EventCart.Dispatchers.Broker

namespace EventCart

open EventCart.Lib
open EventCart.Lib.Tx

/-! ## §1. `decode_event_payload`. -/

/-- What decoding raises. -/
inductive DecodeError where
  | unicodeDecodeError
  | jsonDecodeError
  deriving DecidableEq, Repr

/-- `decode_event_payload`: `json.loads(payload.decode("utf-8"))`, with what
`float` makes of a numeral. -/
def decodeEventPayload (parseFloat : List Char → String) (payload : ByteArray) :
    Except DecodeError Json :=
  match String.fromUTF8? payload with
  | none => .error .unicodeDecodeError
  | some text =>
      match Json.loads parseFloat text.toList with
      | none => .error .jsonDecodeError
      | some value => .ok value

theorem fromUTF8?_eq_some_iff {payload : ByteArray} {text : String} :
    String.fromUTF8? payload = some text ↔ payload = text.toUTF8 := by
  unfold String.fromUTF8?
  constructor
  · intro h
    split at h
    next hvalid => rw [← Option.some.inj h]; rfl
    next => exact nomatch h
  · rintro rfl
    have hvalid : text.toUTF8.IsValidUTF8 := text.isValidUTF8
    rw [dif_pos hvalid]
    rfl

/-- **What is decoded**: the value of a JSON document in UTF-8, and nothing
else decodes. -/
theorem decodeEventPayload_eq_ok_iff {parseFloat : List Char → String} {payload : ByteArray}
    {value : Json} :
    decodeEventPayload parseFloat payload = .ok value
      ↔ ∃ text : String, payload = text.toUTF8 ∧ Json.Document parseFloat value text.toList := by
  unfold decodeEventPayload
  constructor
  · intro h
    split at h
    next => exact nomatch h
    next text htext =>
      split at h
      next => exact nomatch h
      -- both steps succeed: a text, and a document in it
      next value' hloads =>
        obtain rfl := Except.ok.inj h
        exact ⟨text, fromUTF8?_eq_some_iff.mp htext, Json.loads_eq_some_iff.mp hloads⟩
  · rintro ⟨text, hpayload, document⟩
    rw [fromUTF8?_eq_some_iff.mpr hpayload]
    show (match Json.loads parseFloat text.toList with | none => _ | some value => _) = _
    rw [Json.loads_eq_some_iff.mpr document]

/-! ## §2. Envelopes as JSON. -/

/-- The fields of the envelope in the order of the schema, `occurred_at` as
its text. -/
def EventEnvelope.modelDump (isoformat : DateTime → String) (envelope : EventEnvelope) : Dict :=
  [("event_id", .str envelope.eventId), ("event_type", .str envelope.eventType),
   ("event_version", .int envelope.eventVersion), ("aggregate_type", .str envelope.aggregateType),
   ("aggregate_id", .str envelope.aggregateId), ("correlation_id", .str envelope.correlationId),
   ("causation_id", match envelope.causationId with
    | some id => .str id
    | none => .null),
   ("occurred_at", .str (isoformat envelope.occurredAt)), ("payload", .obj envelope.payload)]

/-- `model_dump_json` writes the fields of an envelope as a JSON document. -/
def Codec.WritesJson (codec : Codec) (isoformat : DateTime → String)
    (parseFloat : List Char → String) : Prop :=
  ∀ envelope : EventEnvelope, Json.Standard (.obj envelope.payload) →
    Json.Document parseFloat (.obj (envelope.modelDump isoformat))
      (codec.modelDumpJson envelope).toList

/-- **A published envelope is decoded** to its fields. -/
theorem decode_modelDumpJson {codec : Codec} {isoformat : DateTime → String}
    {parseFloat : List Char → String} (writes : codec.WritesJson isoformat parseFloat)
    {envelope : EventEnvelope} (standard : Json.Standard (.obj envelope.payload)) :
    decodeEventPayload parseFloat (natsMessage codec envelope).payload.toUTF8
      = .ok (.obj (envelope.modelDump isoformat)) :=
  decodeEventPayload_eq_ok_iff.mpr ⟨_, rfl, writes envelope standard⟩

/-! ## §3. The outbox announces the orders. -/

/-- The event opens this order, with these lines. -/
structure OutboxEvent.Announces (event : OutboxEvent) (order : Order) (items : List OrderItem) :
    Prop where
  entry : ∃ correlationId, event.entry
    = (openingDraft order correlationId items).row event.eventId event.occurredAt
  valid : event.Valid

/-- One event an order, in the order they were placed. -/
structure Announced (db : Database) : Prop where
  keyed : db.Keyed
  events : db.outboxEvents.map (·.aggregateId) = db.orders.map (·.id)
  opens : ∀ event ∈ db.outboxEvents, ∃ order ∈ db.orders,
    event.Announces order (db.itemsOf order.id)

theorem OutboxEvent.Announces.aggregateId {event : OutboxEvent} {order : Order}
    {items : List OrderItem} (h : event.Announces order items) : event.aggregateId = order.id := by
  obtain ⟨correlationId, hentry⟩ := h.entry
  exact (congrArg OutboxEvent.aggregateId hentry :)

/-- Delivery leaves an announcement what it is. -/
theorem OutboxEvent.Announces.of_entry {event event' : OutboxEvent} {order : Order}
    {items : List OrderItem} (h : event.Announces order items)
    (hentry : event'.entry = event.entry) : event'.Announces order items where
  entry := by
    obtain ⟨correlationId, heq⟩ := h.entry
    have hid : event'.eventId = event.eventId := (congrArg OutboxEvent.eventId hentry :)
    have hat : event'.occurredAt = event.occurredAt := (congrArg OutboxEvent.occurredAt hentry :)
    exact ⟨correlationId, by rw [hentry, heq, hid, hat]⟩
  valid := by
    have hvalid : event.entry.Valid := h.valid
    rw [← hentry] at hvalid
    exact hvalid

theorem Json.standard_itemsJson (items : List OrderItem) :
    Json.Standard (itemsJson (linesOf items)) := by
  refine .arr fun line hline => ?_
  obtain ⟨fields, hfields, rfl⟩ := List.mem_map.mp hline
  obtain ⟨row, -, rfl⟩ := List.mem_map.mp hfields
  refine .obj (show ["sku", "quantity", "unit_price_cents", "product_name"].Nodup by decide)
    fun member hmember => ?_
  simp only [OrderItem.line, List.mem_cons, List.not_mem_nil, or_false] at hmember
  rcases hmember with rfl | rfl | rfl | rfl
  · exact .str _
  · exact .int _
  · exact .int _
  · cases row.productName with
    | none => exact .null
    | some name => exact .str name

/-- What an announcement says is a JSON document. -/
theorem standard_opening (order : Order) (correlationId : String) (items : List OrderItem) :
    Json.Standard (.obj (openingDraft order correlationId items).payload) := by
  refine .obj (show ["order_id", "customer_email", "status", "items"].Nodup by decide)
    fun member hmember => ?_
  simp only [openingDraft, List.mem_cons, List.not_mem_nil, or_false] at hmember
  rcases hmember with rfl | rfl | rfl | rfl
  · exact .str _
  · exact .str _
  · exact .str _
  · exact Json.standard_itemsJson items

/-! ## §4. Requests and batches. -/

/-- The event of a new order, with the lines as they were stored. -/
theorem Placed.announces {db : Database} {payload : OrderCreate} {order : Order}
    {items : List OrderItem} {new : OutboxEvent} (placed : Placed db payload order items new) :
    new.Announces order items ∧ new.status = .PENDING := by
  obtain ⟨lines, correlationId, eventId, occurredAt, -, -, hcopies, hcorrelation, hevent, hnew⟩ :=
    placed.event
  have hopening : new = (openingDraft order correlationId items).row eventId occurredAt := by
    rw [hnew]
    unfold orderCreatedDraft openingDraft
    rw [itemsJson_copies hcopies, placed.status]
    rfl
  subst hopening
  exact ⟨⟨⟨correlationId, rfl⟩, valid_opening placed.id_ne hcorrelation hevent⟩, rfl⟩

theorem announced_empty : Announced Database.empty where
  keyed := stocked_empty.inv.keyed
  events := rfl
  opens := fun _ mem => absurd mem List.not_mem_nil

theorem Announced.withKeys {db : Database} (h : Announced db) {keys : List IdempotencyKey}
    (keyed : (db.withKeys keys).Keyed) : Announced (db.withKeys keys) :=
  ⟨keyed, h.events, h.opens⟩

/-- The lines of the other orders stay. -/
theorem itemsOf_others {db : Database} {payload : OrderCreate} {order other : Order}
    {items : List OrderItem} {new : OutboxEvent} (placed : Placed db payload order items new)
    (hne : other.id ≠ order.id) :
    ((db.addOrder order items).addOutboxEvent new).itemsOf other.id = db.itemsOf other.id := by
  obtain ⟨lines, -, -, -, -, -, hcopies, -⟩ := placed.event
  -- a new line carries the identifier of the new order
  have hnone : items.filter (fun row => row.orderId = other.id) = [] := by
    rw [List.filter_eq_nil_iff]
    intro row hrow hid
    obtain ⟨line, -, hcopy⟩ := forall₂_copies hcopies row hrow
    exact hne ((of_decide_eq_true hid).symm.trans hcopy.1)
  show (db.orderItems ++ items).filter _ = db.orderItems.filter _
  rw [List.filter_append, hnone, List.append_nil]

/-- **A new order is announced.** -/
theorem Announced.ordered {db : Database} (h : Announced db) {payload : OrderCreate}
    {order : Order} {items : List OrderItem} {new : OutboxEvent}
    (placed : Placed db payload order items new)
    (keyed : ((db.addOrder order items).addOutboxEvent new).Keyed) :
    Announced ((db.addOrder order items).addOutboxEvent new) where
  keyed := keyed
  events := by
    show (db.outboxEvents ++ [new]).map _ = (db.orders ++ [order]).map _
    rw [List.map_append, List.map_append, h.events]
    show _ ++ [new.aggregateId] = _
    rw [placed.announces.1.aggregateId]
    rfl
  opens := by
    have hids : ((db.orders ++ [order]).map (·.id)).Nodup := keyed.orders
    intro event mem
    rcases List.mem_append.mp mem with mem | mem
    · obtain ⟨other, hother, hopens⟩ := h.opens event mem
      refine ⟨other, List.mem_append_left _ hother, ?_⟩
      rw [itemsOf_others placed]
      · exact hopens
      · intro heq
        exact fresh_of_nodup hids other hother heq
    · rw [List.mem_singleton.mp mem]
      refine ⟨order, List.mem_append_right _ (List.mem_singleton.mpr rfl), ?_⟩
      rw [itemsOf_placed h.keyed.orderItemsOrders placed keyed]
      exact placed.announces.1

/-- A request commits a new order and its event, or nothing. -/
theorem Effect.ordered {db db' : Database} {payload : OrderCreate}
    (h : Effect (.createOrder payload) db db') :
    db' = db ∨ ∃ order items new, Placed db payload order items new
      ∧ ((db.addOrder order items).addOutboxEvent new).Keyed
      ∧ db' = (db.addOrder order items).addOutboxEvent new := by
  cases h with
  | idle => exact .inl rfl
  | commit hcommit =>
      -- the other commits belong to other calls
      cases hcommit with
      | @ordered _ order items new called placed keyed =>
          obtain rfl := Call.createOrder.inj called
          exact .inr ⟨order, items, new, placed, keyed, rfl⟩
      | stocked _ _ called => exact nomatch called
      | handled called => exact nomatch called
      | published hpublish =>
          cases hpublish with
          | published _ called => exact nomatch called
      | attempted _ _ called => exact nomatch called
      | replayed _ _ called => exact nomatch called
  | publish _ hpublish =>
      cases hpublish with
      | published _ called => exact nomatch called

/-- **A request keeps the announcements**, and appends PENDING events only. -/
theorem Announced.arrived {db db' : Database} (h : Announced db) {payload : OrderCreate}
    (arrived : Arrived (.createOrder payload) db db') :
    Announced db' ∧ ∃ new, db'.outboxEvents = db.outboxEvents ++ new
      ∧ ∀ event ∈ new, event.status = .PENDING := by
  obtain ⟨before, after, db₁, hbefore, heffect, hafter, rfl⟩ := arrived
  have h' := h.withKeys hbefore
  rcases heffect.ordered with rfl | ⟨order, items, new, placed, keyed, rfl⟩
  · exact ⟨h'.withKeys hafter, [], (List.append_nil _).symm,
      fun _ mem => absurd mem List.not_mem_nil⟩
  · refine ⟨(h'.ordered placed keyed).withKeys hafter, [new], rfl, fun event mem => ?_⟩
    rw [List.mem_singleton.mp mem]
    exact placed.announces.2

/-- Only the delivery columns of the outbox change in a batch. -/
theorem brokerStep_tables {codec : Codec} {old : List String} {a : BrokerLabel}
    {p : Database × List Offer} (start : Accounted codec old p) :
    ∃ rows, (brokerStep codec a p).1 = { p.1 with outboxEvents := rows }
      ∧ rows.map (·.entry) = p.1.outboxEvents.map (·.entry) := by
  have hsame : ∃ rows, p.1 = { p.1 with outboxEvents := rows }
      ∧ rows.map (·.entry) = p.1.outboxEvents.map (·.entry) := ⟨p.1.outboxEvents, rfl, rfl⟩
  -- a batch that stops leaves the committed tables alone
  by_cases hstop : ∀ n q, brokerBatch codec a p ≠ .ok n q
  · rw [(brokerStep_accounted start).2 hstop]
    exact hsame
  · -- the batch returned: its rounds ran, and their rows are committed
    obtain ⟨n, hstop⟩ := Classical.not_forall.mp hstop
    obtain ⟨q, hstop⟩ := Classical.not_forall.mp hstop
    have hbatch := Classical.not_not.mp hstop
    rcases brokerBatch_eq codec a p with ⟨e, heq⟩ | ⟨m, heq⟩
    · rw [heq] at hbatch
      exact nomatch hbatch
    · have hfinal := hbatch
      rw [heq] at hfinal
      obtain ⟨u, r, hrun, hrest⟩ := Watched.bind_eq_ok.mp hfinal
      have hr := Watched.Keeps.forM _ (keeps_selected codec old a p.1 p.2) _
        (start.inBatch a.world m)
      rw [hrun, Watched.final_ok] at hr
      have hpure := Watched.final_bind_pure (Watched.lift (L := Offer) (commit : App Unit))
        (fun _ => (a.selected p.1).length) r
      rw [hrest, Watched.final_lift] at hpure
      have hcommitted : (brokerStep codec a p).1 = (after ((commit : App Unit) r.1)).committed := by
        unfold brokerStep
        rw [hbatch]
        exact congrArg (·.1.committed) hpure
      -- the COMMIT is refused, or it commits the rows of the rounds
      rcases commit_committed r.1 with hc | ⟨-, -, hc⟩
      · rw [hcommitted, hc, hr.committed]
        exact hsame
      · obtain ⟨rows, hrows⟩ := hr.tables
        refine ⟨rows, by rw [hcommitted, hc, hrows], ?_⟩
        have hentries := hr.entries
        rw [hrows] at hentries
        exact hentries

/-- **A batch leaves the announcements what they are.** -/
theorem Announced.redelivered {db : Database} (h : Announced db) {rows : List OutboxEvent}
    (hentries : rows.map (·.entry) = db.outboxEvents.map (·.entry))
    (keyed : ({ db with outboxEvents := rows } : Database).Keyed) :
    Announced { db with outboxEvents := rows } where
  keyed := keyed
  events := by
    have haggregates := congrArg (List.map (·.aggregateId)) hentries
    rw [List.map_map, List.map_map] at haggregates
    exact haggregates.trans h.events
  opens := by
    intro event mem
    -- the event as it was written is that of a row from before
    have hmem : event.entry ∈ db.outboxEvents.map (·.entry) := hentries ▸ List.mem_map_of_mem mem
    obtain ⟨before, hbefore, heq⟩ := List.mem_map.mp hmem
    obtain ⟨order, horder, hopens⟩ := h.opens before hbefore
    exact ⟨order, horder, hopens.of_entry heq.symm⟩

/-- What happens in a deployment with a broker. -/
inductive BrokerActivity where
  | stocked (world : World Database) (tick : Nat) (payload : InventoryItemCreate)
  | posted (world : World Database) (tick : Nat) (codecs : Codecs) (payload : OrderCreate)
      (idempotencyKey : Option String)
  | published (batch : BrokerLabel)

/-- The committed tables and the offers made to the broker afterwards. -/
def brokered (codec : Codec) (activity : BrokerActivity) (p : Database × List Offer) :
    Database × List Offer :=
  match activity with
  | .stocked world tick payload => (transact (createInventoryItem payload) world tick p.1, p.2)
  | .posted world tick codecs payload idempotencyKey =>
      (transact (createOrderEndpoint codecs payload idempotencyKey) world tick p.1, p.2)
  | .published batch => brokerStep codec batch p

/-- Tables and transport of a deployment. -/
structure Deployed (codec : Codec) (p : Database × List Offer) : Prop where
  announced : Announced p.1
  accounted : Accounted codec [] p

/-- An event that is still PENDING owes nothing to the transport. -/
theorem Accounted.grow {codec : Codec} {old : List String} {p : Database × List Offer}
    {db : Database} (h : Accounted codec old p) (keyed : db.Keyed)
    (kept : ∀ event ∈ p.1.outboxEvents, event ∈ db.outboxEvents)
    (new : ∀ event ∈ db.outboxEvents, event ∈ p.1.outboxEvents ∨ event.status = .PENDING) :
    Accounted codec old (db, p.2) where
  keyed := keyed
  published := by
    intro event mem status
    -- what is PUBLISHED was there before, and was offered
    rcases new event mem with hold | hpending
    · exact h.published event hold status
    · rw [hpending] at status
      exact nomatch status
  offered := by
    intro offer mem
    obtain ⟨event, hevent, isOf⟩ := h.offered offer mem
    exact ⟨event, kept event hevent, isOf⟩

/-- **What every activity keeps**, wherever it stops. -/
theorem brokered_deployed {codec : Codec} {p : Database × List Offer} (h : Deployed codec p)
    (activity : BrokerActivity) : Deployed codec (brokered codec activity p) := by
  have keyed := h.announced.keyed
  cases activity with
  | stocked world tick payload =>
      show Deployed codec ((after (createInventoryItem payload _)).committed, p.2)
      rcases createInventoryItem_committed payload (Session.begin world tick p.1)
        with hc | ⟨id, at', hk, hc⟩
      · rw [hc]
        exact h
      · rw [hc]
        exact ⟨⟨hk, h.announced.events, h.announced.opens⟩,
          h.accounted.grow hk (fun _ mem => mem) fun _ mem => .inl mem⟩
  | posted world tick codecs payload idempotencyKey =>
      have harrived : Arrived (.createOrder payload) p.1
          (transact (createOrderEndpoint codecs payload idempotencyKey) world tick p.1) :=
        (createOrderEndpoint_effect codecs payload idempotencyKey (begin_clean world tick p.1)
          keyed).arrived keyed
      obtain ⟨hannounced, new, houtbox, hpending⟩ := h.announced.arrived harrived
      refine ⟨hannounced, h.accounted.grow hannounced.keyed (fun event mem => ?_)
        fun event mem => ?_⟩
      · rw [houtbox]
        exact List.mem_append_left _ mem
      · rw [houtbox] at mem
        exact (List.mem_append.mp mem).imp_right (hpending event)
  -- the batch accounts for its offers, and rewrites delivery columns only
  | published batch =>
      have haccounted := (brokerStep_accounted h.accounted (a := batch)).1
      obtain ⟨rows, htables, hentries⟩ := brokerStep_tables h.accounted (a := batch)
      refine ⟨?_, haccounted⟩
      have hkeyed := haccounted.keyed
      show Announced (brokerStep codec batch p).1
      rw [htables] at hkeyed ⊢
      exact h.announced.redelivered hentries hkeyed

theorem deployed_run (codec : Codec) (activities : List BrokerActivity) :
    Deployed codec (run (brokered codec) activities (Database.empty, [])) :=
  run_invariant (I := Deployed codec) (fun _ activity h => brokered_deployed h activity) activities
    (Database.empty, []) ⟨announced_empty, accounted_start codec announced_empty.keyed⟩

/-! ## §5. What a subscriber reads. -/

/-- The announcement of an order as a subscriber reads it. -/
def orderCreatedJson (isoformat : DateTime → String) (event : OutboxEvent) (order : Order)
    (items : List OrderItem) : Dict :=
  [("event_id", .str event.eventId), ("event_type", .str "OrderCreated"), ("event_version", .int 1),
   ("aggregate_type", .str "Order"), ("aggregate_id", .str order.id),
   ("correlation_id", .str event.correlationId), ("causation_id", .null),
   ("occurred_at", .str (isoformat event.occurredAt)),
   ("payload", .obj [("order_id", .str order.id), ("customer_email", .str order.customerEmail),
     ("status", .str "PENDING"), ("items", itemsJson (linesOf items))])]

/-- The message tells of this order. -/
structure Message.TellsOf (codec : Codec) (isoformat : DateTime → String)
    (parseFloat : List Char → String) (db : Database) (message : Message) (order : Order) :
    Prop where
  subject : message.subject
    = "eventcart." ++ codec.lower "Order" ++ "." ++ codec.lower "OrderCreated"
  event : ∃ event ∈ db.outboxEvents, event.aggregateId = order.id
    ∧ message.natsMsgId = event.eventId
    ∧ decodeEventPayload parseFloat message.payload.toUTF8
      = .ok (.obj (orderCreatedJson isoformat event order (db.itemsOf order.id)))

/-- **What a stream keeps** of the messages it was offered: only messages that
were taken, and of every message taken one with its id.  Whether a repeated
id is dropped is up to the stream. -/
structure Retains (kept : List Offer → List Message) : Prop where
  taken : ∀ offers, ∀ message ∈ kept offers,
    ∃ offer ∈ offers, offer.delivery.accepts = true ∧ offer.message = message
  keeps : ∀ offers, ∀ offer ∈ offers, offer.delivery.accepts = true →
    ∃ message ∈ kept offers, message.natsMsgId = offer.message.natsMsgId

/-- So does a stream that never forgets an id. -/
theorem retains_stream : Retains stream where
  taken offers message mem := by
    obtain ⟨-, hfrom, -⟩ := foldl_insertNew ((offers.filter (·.delivery.accepts)).map (·.message))
      (show (([] : List Message).map (·.natsMsgId)).Nodup from List.nodup_nil)
    obtain ⟨offer, hoffer, rfl⟩ := List.mem_map.mp
      ((hfrom message mem).resolve_left List.not_mem_nil)
    obtain ⟨made, accepted⟩ := List.mem_filter.mp hoffer
    exact ⟨offer, made, accepted, rfl⟩
  keeps offers offer made accepted := by
    obtain ⟨-, -, hkept⟩ := foldl_insertNew ((offers.filter (·.delivery.accepts)).map (·.message))
      (show (([] : List Message).map (·.natsMsgId)).Nodup from List.nodup_nil)
    exact hkept offer.message (.inr (List.mem_map_of_mem (List.mem_filter.mpr ⟨made, accepted⟩)))

section subscribers
variable {codec : Codec} {isoformat : DateTime → String} {parseFloat : List Char → String}
  {p : Database × List Offer}

/-- The message of an announcement. -/
theorem OutboxEvent.Announces.tells (writes : codec.WritesJson isoformat parseFloat) {db : Database}
    {event : OutboxEvent} (mem : event ∈ db.outboxEvents) {order : Order}
    (h : event.Announces order (db.itemsOf order.id)) {envelope : EventEnvelope}
    (valid : envelopeFromOutboxEvent event = .ok envelope) :
    (natsMessage codec envelope).TellsOf codec isoformat parseFloat db order := by
  obtain ⟨correlationId, hentry⟩ := h.entry
  have hvalid : envelopeFromOutboxEvent event.entry = .ok envelope := valid
  rw [hentry] at hvalid
  have hfields : event.correlationId = correlationId :=
    (congrArg OutboxEvent.correlationId hentry :)
  unfold envelopeFromOutboxEvent at hvalid
  split at hvalid
  next hschema =>
    obtain rfl := Except.ok.inj hvalid
    refine ⟨rfl, event, mem, h.aggregateId, rfl, ?_⟩
    rw [orderCreatedJson, hfields]
    exact decode_modelDumpJson writes (standard_opening order correlationId (db.itemsOf order.id))
  next => simp at hvalid

/-- Every message that was offered tells of an order. -/
theorem Deployed.tells (writes : codec.WritesJson isoformat parseFloat) (h : Deployed codec p)
    {offer : Offer} (mem : offer ∈ p.2) :
    ∃ order ∈ p.1.orders, offer.message.TellsOf codec isoformat parseFloat p.1 order := by
  obtain ⟨event, hevent, envelope, valid, hmessage⟩ := h.accounted.offered offer mem
  obtain ⟨order, horder, hopens⟩ := h.announced.opens event hevent
  exact ⟨order, horder, hmessage ▸ hopens.tells writes hevent valid⟩

/-- Messages that tell of one order are one message. -/
theorem Deployed.tells_unique (h : Deployed codec p) {message message' : Message}
    {order order' : Order} (tells : message.TellsOf codec isoformat parseFloat p.1 order)
    (tells' : message'.TellsOf codec isoformat parseFloat p.1 order') (hid : order.id = order'.id) :
    message.natsMsgId = message'.natsMsgId := by
  obtain ⟨event, hevent, haggregate, hkey, -⟩ := tells.event
  obtain ⟨event', hevent', haggregate', hkey', -⟩ := tells'.event
  have hnodup : (p.1.outboxEvents.map (·.aggregateId)).Nodup :=
    h.announced.events ▸ h.announced.keyed.orders
  have hsame : event = event' := row_unique hnodup hevent hevent'
    (haggregate.trans (hid.trans haggregate'.symm))
  rw [hkey, hkey', hsame]

/-- A list of messages and the orders they tell of. -/
theorem exists_told {R : Message → Order → Prop} {orders : List Order} :
    ∀ messages : List Message, (∀ m ∈ messages, ∃ order ∈ orders, R m order) →
      ∃ log, List.Forall₂ R messages log ∧ ∀ order ∈ log, order ∈ orders := by
  intro messages
  induction messages with
  | nil => exact fun _ => ⟨[], .nil, fun _ mem => absurd mem List.not_mem_nil⟩
  | cons m messages ih =>
      intro h
      obtain ⟨order, horder, hm⟩ := h m List.mem_cons_self
      obtain ⟨log, hlog, hfrom⟩ := ih fun m' hm' => h m' (List.mem_cons_of_mem _ hm')
      refine ⟨order :: log, .cons hm hlog, fun other mem => ?_⟩
      rcases List.mem_cons.mp mem with rfl | mem
      · exact horder
      · exact hfrom other mem

/-- Distinct messages tell of distinct orders. -/
theorem Deployed.log_nodup (h : Deployed codec p) {messages : List Message} {log : List Order}
    (told : List.Forall₂ (fun message order => message.TellsOf codec isoformat parseFloat p.1 order)
      messages log) (distinct : (messages.map (·.natsMsgId)).Nodup) : (log.map (·.id)).Nodup := by
  induction told with
  | nil => exact List.nodup_nil
  | @cons message order messages log hfirst hrest ih =>
      rw [List.map_cons, List.nodup_cons] at distinct
      rw [List.map_cons, List.nodup_cons]
      refine ⟨fun mem => distinct.1 ?_, ih distinct.2⟩
      obtain ⟨other, hother, hid⟩ := List.mem_map.mp mem
      obtain ⟨i, hi, rfl⟩ := List.mem_iff_getElem.mp hother
      have hlen : i < messages.length := by rw [hrest.length_eq]; exact hi
      have htells := hrest.get hlen hi
      rw [h.tells_unique hfirst htells hid.symm]
      exact List.mem_map_of_mem (List.getElem_mem hlen)

end subscribers

/-- **What subscribers read.**  In every deployment with a broker, whatever the
order of requests and batches, wherever each of them stops and whatever the
transport takes, refuses or repeats, and on every stream that keeps what was
taken: the stream, decoded, is a list of orders, each under the subject of its
announcement and with the email and the lines that the tables have; an order
whose announcement is PUBLISHED is on it, and no order is on it twice if the
stream has dropped repeated message ids. -/
theorem subscribers_read_orders {codec : Codec} {isoformat : DateTime → String}
    {parseFloat : List Char → String} (writes : codec.WritesJson isoformat parseFloat)
    {kept : List Offer → List Message} (retains : Retains kept)
    (activities : List BrokerActivity) {db : Database} {offers : List Offer}
    (deployed : run (brokered codec) activities (Database.empty, []) = (db, offers)) :
    ∃ log : List Order, (∀ order ∈ log, order ∈ db.orders)
      ∧ List.Forall₂ (fun message order => message.TellsOf codec isoformat parseFloat db order)
          (kept offers) log
      ∧ (∀ order ∈ db.orders, ∀ event ∈ db.outboxEvents, event.aggregateId = order.id →
          event.status = .PUBLISHED → order ∈ log)
      ∧ (((kept offers).map (·.natsMsgId)).Nodup → (log.map (·.id)).Nodup) := by
  have h : Deployed codec (db, offers) := deployed ▸ deployed_run codec activities
  obtain ⟨log, told, hfrom⟩ := exists_told (kept offers) fun message mem => by
    obtain ⟨offer, made, -, rfl⟩ := retains.taken offers message mem
    exact h.tells writes made
  refine ⟨log, hfrom, told, ?_, h.log_nodup told⟩
  intro order horder event hevent haggregate status
  -- the message of the event was taken, and the stream keeps one with its id
  obtain ⟨offer, made, accepted, hid⟩ :=
    (h.accounted.published event hevent status).resolve_left List.not_mem_nil
  obtain ⟨message, hmessage, hkey⟩ := retains.keeps offers offer made accepted
  obtain ⟨i, hi, rfl⟩ := List.mem_iff_getElem.mp hmessage
  have hlen : i < log.length := by rw [← told.length_eq]; exact hi
  have htells := told.get hi hlen
  obtain ⟨event', hevent', haggregate', hkey', -⟩ := htells.event
  have hsame : event' = event := row_unique h.announced.keyed.outboxEvents hevent' hevent
    (hkey'.symm.trans (hkey.trans hid))
  have hlisted : log[i] ∈ log := List.getElem_mem hlen
  have horders : log[i] = order := row_unique h.announced.keyed.orders (hfrom _ hlisted) horder
    (haggregate'.symm.trans (hsame ▸ haggregate))
  rw [← horders]
  exact hlisted

/-- The text of an instant in the first second of the epoch. -/
def instantText (instant : DateTime) : String :=
  let digits := Nat.toDigits 10 instant.toNat
  "1970-01-01T00:00:00." ++ String.ofList (List.replicate (6 - digits.length) '0' ++ digits) ++ "Z"

/-- Envelopes as compact JSON, their fields in the order of the schema. -/
def compactCodec : Codec where
  lower := String.toLower
  modelDumpJson envelope :=
    String.ofList (Json.write .compact (.obj (envelope.modelDump instantText)))

theorem compactCodec_writes : compactCodec.WritesJson instantText String.ofList := by
  intro envelope standard
  show Json.Document _ _ (String.ofList _).toList
  rw [String.toList_ofList]
  apply Json.Text.document
  apply Json.text_write
  refine .obj (show ["event_id", "event_type", "event_version", "aggregate_type", "aggregate_id",
    "correlation_id", "causation_id", "occurred_at", "payload"].Nodup by decide)
    fun member mem => ?_
  simp only [EventEnvelope.modelDump, List.mem_cons, List.not_mem_nil, or_false] at mem
  rcases mem with rfl | rfl | rfl | rfl | rfl | rfl | rfl | rfl | rfl
  · exact .str _
  · exact .str _
  · exact .int _
  · exact .str _
  · exact .str _
  · exact .str _
  · cases envelope.causationId with
    | none => exact .null
    | some id => exact .str id
  · exact .str _
  · exact standard

/-- Pencils are ordered, and the publisher dies right after the stream took
the announcement. -/
def brokeredPencils : List BrokerActivity :=
  [.stocked .calm 0 (pencils 2), .posted .calm 100 plainCodecs twoPencils (some "key-1"),
    .published diesOnce, .published diesOnce]

/-- The announcement is offered twice, a stream that never forgets an id has
it once, and a subscriber reads the order. -/
theorem subscribers_read_orders_pencils :
    ∃ db offers, run (brokered compactCodec) brokeredPencils (Database.empty, []) = (db, offers)
      ∧ db.published.length = 1 ∧ offers.length = 2 ∧ (stream offers).length = 1
      ∧ ∃ log : List Order, (∀ order ∈ log, order ∈ db.orders)
        ∧ List.Forall₂ (fun message order =>
            message.TellsOf compactCodec instantText String.ofList db order) (stream offers) log
        ∧ (∀ order ∈ db.orders, ∀ event ∈ db.outboxEvents, event.aggregateId = order.id →
            event.status = .PUBLISHED → order ∈ log)
        ∧ (((stream offers).map (·.natsMsgId)).Nodup → (log.map (·.id)).Nodup) :=
  ⟨(run (brokered compactCodec) brokeredPencils (Database.empty, [])).1,
    (run (brokered compactCodec) brokeredPencils (Database.empty, [])).2, Prod.mk.eta.symm,
    by decide +kernel, by decide +kernel, by decide +kernel,
    subscribers_read_orders compactCodec_writes retains_stream brokeredPencils Prod.mk.eta.symm⟩

end EventCart
