/-
  EventCart.Saga.Correlation
  ──────────────────────────
  **THE CORRELATION ID OF A REQUEST GETS LOST.**

  `correlation_middleware` (`app.py`) reads `X-Correlation-ID`, or draws an
  identifier, puts it into the log context and returns it to the client.
  Nothing behind the middleware reads the log context but the log formatter:
  `create_order` draws an identifier of its own for the `OrderCreated` event,
  and the workers hand that one on.  An order's events share one correlation
  ID, and it is never the one the client was told.

    §1  the middleware and the request;
    §2  a new order's event carries an identifier drawn by `create_order`;
    §3  `correlation_unlinked`.
-/
import EventCart.Saga.Origins

namespace EventCart

open EventCart.Lib
open EventCart.Lib.Tx

/-! ## §1. The middleware. -/

/-- What the client sees: the reply, and the header `X-Correlation-ID`. -/
structure Response where
  correlationId : String
  reply : Reply

/-- `request.headers.get("X-Correlation-ID") or str(uuid4())`: an empty header
counts as none. -/
def requestCorrelationId (header : Option String) : App String :=
  match header with
  | some value => if value = "" then uuid4 else return value
  | none => uuid4

/-- `correlation_middleware`.  `set_correlation_id` is what `call_next` gets as
its log context. -/
def correlationMiddleware (header : Option String) (callNext : Option String → App Reply) :
    App Response := do
  let correlationId ← requestCorrelationId header
  let reply ← callNext (some correlationId)
  return ⟨correlationId, reply⟩

/-- A POST request to `/api/v1/orders`, with everything outside it. -/
structure TracedPost where
  world : World Database
  tick : Nat
  codecs : Codecs
  header : Option String
  payload : OrderCreate
  idempotencyKey : Option String

/-- The request in the application.  The endpoint does not look at its log
context. -/
def TracedPost.send (post : TracedPost) (db : Database) :
    EStateM.Result (Failure PyError) (Session Database) Response :=
  correlationMiddleware post.header
    (fun _ => createOrderEndpoint post.codecs post.payload post.idempotencyKey)
    (Session.begin post.world post.tick db)

/-- The committed database after the request. -/
def TracedPost.commits (post : TracedPost) (db : Database) : Database :=
  (after (post.send db)).committed

/-- The request created the order, and was answered. -/
structure TracedPost.Created (post : TracedPost) (db : Database) (response : Response)
    (order : Order) : Prop where
  answered : value? (post.send db) = some response
  created : order ∈ (post.commits db).orders
  new : order ∉ db.orders

/-- The events of an order carry the correlation ID of the response. -/
def Database.Linked (db : Database) (response : Response) (order : Order) : Prop :=
  ∀ event ∈ db.outboxEvents, event.aggregateId = order.id →
    event.correlationId = response.correlationId

/-! ## §2. Where the identifier comes from. -/

/-- The middleware leaves the session to the endpoint as it got it, up to the
tick of an identifier. -/
theorem requestCorrelationId_ok {header : Option String} {s t : Session Database} {id : String}
    (h : requestCorrelationId header s = .ok id t) :
    ∃ n, s.tick ≤ n ∧ t = s.goto s.working n := by
  have hdraw : ∀ {u}, (uuid4 : App String) s = .ok id u →
      ∃ n, s.tick ≤ n ∧ u = s.goto s.working n := by
    intro u hu
    simp only [uuid4_apply, EStateM.Result.ok.injEq] at hu
    exact ⟨s.tick + 1, by omega, hu.2.symm⟩
  unfold requestCorrelationId at h
  split at h
  · split at h
    · exact hdraw h
    · simp only [pure_apply, EStateM.Result.ok.injEq] at h
      exact ⟨s.tick, Nat.le_refl _, h.2.symm⟩
  · exact hdraw h

/-- A new order, with the event that opens it. -/
structure OpenedAt (s : Session Database) (committed : Database) (order : Order)
    (root : OutboxEvent) : Prop where
  orders : committed.orders = s.working.orders ++ [order]
  logged : root ∈ committed.outboxEvents
  opens : root.Opens
  aggregate : root.aggregateId = order.id
  drawn : ∃ drawnAt, s.tick < drawnAt ∧ root.correlationId = s.world.uuid4 drawnAt

/-- The response to an order is stored beside it. -/
theorem keepResponse_orders {orderResponse : Dict} {idempotencyKey : Option String}
    {s t : Session Database} {u : Unit} (saved : s.working = s.committed)
    (h : keepResponse orderResponse idempotencyKey s = .ok u t) :
    t.committed.orders = s.committed.orders
      ∧ t.committed.outboxEvents = s.committed.outboxEvents := by
  cases idempotencyKey with
  | none =>
      simp only [keepResponse, pure_apply, EStateM.Result.ok.injEq] at h
      rw [← h.2]
      exact ⟨rfl, rfl⟩
  | some key =>
      rcases keepResponse_effect orderResponse key s with ⟨hvalue, -⟩ | ⟨updatedAt, -, hcommitted⟩
      · rw [h] at hvalue
        cases hvalue
      · rw [h, after_ok] at hcommitted
        rw [hcommitted, ← saved]
        exact ⟨rfl, rfl⟩

/-- **A request that returned** committed nothing, or one new order. -/
theorem placeAndReply_opens {codecs : Codecs} {payload : OrderCreate}
    {idempotencyKey : Option String} {s t : Session Database} {reply : Reply}
    (owned : ∀ row ∈ s.working.orderItems, ∃ order ∈ s.working.orders, order.id = row.orderId)
    (h : placeAndReply codecs payload idempotencyKey s = .ok reply t) :
    t.committed = s.committed ∨ ∃ order root, OpenedAt s t.committed order root := by
  obtain ⟨result, u, hu, h⟩ := bind_eq_ok.mp h
  rcases attempt_ok hu with ⟨⟨order, items⟩, rfl, hcreate⟩
    | ⟨error, detail, rfl, hcreate, caught⟩
  · obtain ⟨new, n, placed, drawn, -, rfl⟩ := createOrder_ok owned hcreate
    obtain ⟨_, v, hv, h⟩ := bind_eq_ok.mp h
    obtain ⟨horders, hevents⟩ := keepResponse_orders rfl hv
    simp only [pure_apply, EStateM.Result.ok.injEq] at h
    rw [← h.2]
    obtain ⟨lines, correlationId, eventId, occurredAt, -, -, -, -, -, hnew⟩ := placed.event
    refine .inr ⟨order, new, horders, ?_, ?_, ?_, drawn⟩
    · rw [hevents]
      exact List.mem_append_right _ (List.mem_singleton.mpr rfl)
    · rw [hnew]
      exact ⟨rfl, rfl⟩
    · rw [hnew]
      rfl
  · -- an unknown SKU is noticed before anything is committed
    have hcommitted := createOrder_notFound hcreate caught
    simp only [pure_apply, EStateM.Result.ok.injEq] at h
    rw [← h.2]
    exact .inl hcommitted

theorem createOrderEndpoint_opens {codecs : Codecs} {payload : OrderCreate}
    {idempotencyKey : Option String} {s t : Session Database} {reply : Reply} (hs : s.Clean)
    (keyed : s.working.Keyed)
    (h : createOrderEndpoint codecs payload idempotencyKey s = .ok reply t) :
    t.committed = s.committed ∨ ∃ order root, OpenedAt s t.committed order root := by
  have hquiet := quiet_answerFromKey codecs payload idempotencyKey s
  obtain ⟨answer, u, hu, h⟩ := bind_eq_ok.mp h
  rw [hu, after_ok] at hquiet
  cases answer with
  | some reply =>
      simp only [pure_apply, EStateM.Result.ok.injEq] at h
      rw [← h.2]
      exact .inl hquiet.1
  | none =>
      have hplace : placeAndReply codecs payload idempotencyKey u = .ok reply t := h
      -- the key row in the session is no order and no event
      rcases answerFromKey_none hu with ⟨-, rfl⟩
        | ⟨key, row, readAt, startedAt, n, -, reserved, hn, rfl⟩
      · exact placeAndReply_opens keyed.orderItemsOrders hplace
      · have hopens := placeAndReply_opens (s := s.goto
          ((s.working.deleteIdempotencyKey key).addIdempotencyKey row) n) keyed.orderItemsOrders
          hplace
        rcases hopens with hsame
          | ⟨order, root, orders, logged, opens, aggregate, drawnAt, hlt, hdrawn⟩
        · exact .inl hsame
        · have hreserved := reserved.tick_le
          have hstarted := reserved.readAt_lt
          rw [goto_tick] at hlt
          exact .inr ⟨order, root, orders, logged, opens, aggregate, drawnAt, by omega, hdrawn⟩

/-- **The opening event of a new order** carries an identifier that
`create_order` drew. -/
theorem TracedPost.Created.opened {post : TracedPost} {db : Database} (keyed : db.Keyed)
    {response : Response} {order : Order} (h : post.Created db response order) :
    ∃ root, OpenedAt (Session.begin post.world post.tick db) (post.commits db) order root := by
  have hanswered := h.answered
  have hcreated := h.created
  unfold TracedPost.commits at hcreated ⊢
  cases hsend : post.send db with
  | error e t =>
      rw [hsend] at hanswered
      cases hanswered
  | ok answer t =>
      rw [hsend, after_ok] at hcreated
      rw [after_ok]
      obtain ⟨id, u, hu, hrest⟩ := bind_eq_ok.mp hsend
      obtain ⟨n, hn, rfl⟩ := requestCorrelationId_ok hu
      obtain ⟨reply, v, hv, hrest⟩ := bind_eq_ok.mp hrest
      simp only [pure_apply, EStateM.Result.ok.injEq] at hrest
      obtain ⟨-, rfl⟩ := hrest
      have hclean : ((Session.begin post.world post.tick db).goto db n).Clean := ⟨rfl, rfl⟩
      rcases createOrderEndpoint_opens hclean keyed hv with hsame
        | ⟨other, root, orders, logged, opens, aggregate, drawnAt, hlt, hdrawn⟩
      · rw [hsame] at hcreated
        exact absurd hcreated h.new
      · have hother : order = other := by
          rw [orders, List.mem_append, List.mem_singleton] at hcreated
          exact hcreated.resolve_left h.new
        subst hother
        rw [goto_tick] at hlt
        exact ⟨root, orders, logged, opens, aggregate, drawnAt, Nat.lt_of_le_of_lt hn hlt, hdrawn⟩

/-! ## §3. The link. -/

/-- The request is an arrival of the system. -/
theorem TracedPost.commits_inv {post : TracedPost} {db : Database} (inv : SagaInv db)
    {response : Response} (h : value? (post.send db) = some response) : SagaInv (post.commits db) := by
  unfold TracedPost.commits
  cases hsend : post.send db with
  | error e t =>
      rw [hsend] at h
      cases h
  | ok answer t =>
      obtain ⟨id, u, hu, hrest⟩ := bind_eq_ok.mp hsend
      obtain ⟨n, -, rfl⟩ := requestCorrelationId_ok hu
      obtain ⟨reply, v, hv, hrest⟩ := bind_eq_ok.mp hrest
      simp only [pure_apply, EStateM.Result.ok.injEq] at hrest
      obtain ⟨-, rfl⟩ := hrest
      have hpost : arrive (.posted post.world n post.codecs post.payload post.idempotencyKey) db
          = v.committed := congrArg (fun result => (after result).committed) hv
      rw [after_ok, ← hpost]
      exact arrived_inv inv (arrive_effect inv _)

/-- **The correlation ID of the response is on no event of the order**, as
long as `uuid4()` gives out no identifier that is in use: whatever the header
was, whatever arrives later, and however the workers run. -/
theorem correlation_unlinked (before later : List Arrival) (post : TracedPost) {response : Response}
    {order : Order} (created : post.Created (arriveAll before Database.empty) response order)
    (unused : ∀ n, post.tick < n → post.world.uuid4 n ≠ response.correlationId) :
    ¬ (arriveAll later (post.commits (arriveAll before Database.empty))).Linked response order
      ∧ ∀ event ∈ (arriveAll later (post.commits (arriveAll before Database.empty))).outboxEvents,
          event.aggregateId = order.id → event.correlationId ≠ response.correlationId := by
  have inv := arriveAll_inv before stocked_empty.inv
  have inv' := post.commits_inv inv created.answered
  obtain ⟨root, -, logged, opens, aggregate, drawnAt, hlt, drawn⟩ := created.opened inv.keyed
  -- the opening event stays, and every event of the order carries its identifier
  obtain ⟨root', mem, same⟩ := arriveAll_entry later inv' logged
  have hopens : root'.Opens := opens_of_entry (same ▸ ⟨opens.type, opens.uncaused⟩)
  have haggregate : root'.aggregateId = order.id :=
    (congrArg OutboxEvent.aggregateId same).trans aggregate
  have hdrawn : root'.correlationId = post.world.uuid4 drawnAt :=
    (congrArg OutboxEvent.correlationId same).trans drawn
  have hother : ∀ event ∈ (arriveAll later
      (post.commits (arriveAll before Database.empty))).outboxEvents,
        event.aggregateId = order.id → event.correlationId ≠ response.correlationId := by
    intro event hevent hid
    rw [(arriveAll_inv later inv').correlationId_eq hevent mem hopens (hid.trans haggregate.symm),
      hdrawn]
    exact unused drawnAt hlt
  exact ⟨fun linked => hother root' mem haggregate (linked root' mem haggregate), hother⟩

/-- Pencils are on sale, and a client orders two under a correlation ID. -/
def tracedRequest : TracedPost where
  world := .calm
  tick := 100
  codecs := ⟨id, fun _ => "then", .ok⟩
  header := some "trace-correlation-1"
  payload := twoPencils
  idempotencyKey := none

def pencilsOffered : List Arrival := [.called ⟨.calm, 0, .createInventoryItem (pencils 2)⟩]

/-- The order of the request. -/
def tracedOrder : Order := ⟨"id-102", .PENDING, "ann@example.com", 103⟩

theorem tracedRequest_created : ∃ response,
    tracedRequest.Created (arriveAll pencilsOffered Database.empty) response tracedOrder
      ∧ response.correlationId = "trace-correlation-1" := by
  have hvalue : (value? (tracedRequest.send (arriveAll pencilsOffered Database.empty))).map
      Response.correlationId = some "trace-correlation-1" := by decide +kernel
  rw [Option.map_eq_some_iff] at hvalue
  obtain ⟨response, hanswered, hid⟩ := hvalue
  exact ⟨response, ⟨hanswered, by decide +kernel, by decide +kernel⟩, hid⟩

/-- The numbered identifiers of a calm world are none that a client makes up. -/
theorem calm_uuid4_ne (n : Nat) :
    (World.calm : World Database).uuid4 n ≠ "trace-correlation-1" := by
  intro h
  have hfirst := congrArg (fun text : String => text.toList.head?) h
  have hid : ((World.calm : World Database).uuid4 n).toList = "id-".toList ++ (toString n).toList :=
    String.toList_append
  simp only [hid] at hfirst
  exact absurd hfirst (by simp)

/-- The traced order is not linked to its request. -/
theorem correlation_unlinked_traced : ∃ response,
    tracedRequest.Created (arriveAll pencilsOffered Database.empty) response tracedOrder
      ∧ ¬ (arriveAll [] (tracedRequest.commits (arriveAll pencilsOffered Database.empty))).Linked
          response tracedOrder
      ∧ ∀ event ∈ (arriveAll []
          (tracedRequest.commits (arriveAll pencilsOffered Database.empty))).outboxEvents,
          event.aggregateId = tracedOrder.id → event.correlationId ≠ response.correlationId := by
  obtain ⟨response, created, hid⟩ := tracedRequest_created
  exact ⟨response, created, correlation_unlinked pencilsOffered [] tracedRequest created
    fun n _ => hid ▸ calm_uuid4_ne n⟩

/-- The correlation ID of the new event, in the executable reading. -/
def Database.correlationIds (orderId : String) (db : Database) : List String :=
  (db.outboxEvents.filter (·.aggregateId = orderId)).map (·.correlationId)

/-- **The link is missing**: the client sent `trace-correlation-1` and got it
back, and the event of its order carries another identifier. -/
theorem correlation_lost :
    ¬ ∀ (before later : List Arrival) (post : TracedPost) (response : Response) (order : Order),
        post.Created (arriveAll before Database.empty) response order →
          (arriveAll later (post.commits (arriveAll before Database.empty))).Linked response
            order := by
  intro h
  obtain ⟨response, created, hid⟩ := tracedRequest_created
  have linked := h pencilsOffered [] tracedRequest response tracedOrder created
  have hids : (arriveAll [] (tracedRequest.commits
      (arriveAll pencilsOffered Database.empty))).correlationIds tracedOrder.id = ["id-107"] := by
    decide +kernel
  have hmem : "id-107" ∈ (arriveAll [] (tracedRequest.commits
      (arriveAll pencilsOffered Database.empty))).correlationIds tracedOrder.id := by
    rw [hids]
    exact List.mem_singleton.mpr rfl
  obtain ⟨event, hevent, hcorrelation⟩ := List.mem_map.mp hmem
  obtain ⟨mem, haggregate⟩ := List.mem_filter.mp hevent
  have hsame := linked event mem (of_decide_eq_true haggregate)
  rw [hcorrelation, hid] at hsame
  exact absurd hsame (by decide)

end EventCart
