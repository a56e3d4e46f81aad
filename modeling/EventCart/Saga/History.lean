/-
  EventCart.Saga.History
  ──────────────────────
  **WHAT A CUSTOMER SEES OF AN ORDER OVER TIME.**

  `get_order_endpoint` shows the committed row of an order and its lines.
  Nothing deletes an order and nothing rewrites its lines, so after the first
  answer with the order in it only the status can change, and only away from
  PENDING (`Order.Later`).

    §1  an order later on: the step lemma and the run lemma;
    §2  `get_order_endpoint`;
    §3  reading twice (`reads_settle`), and reading what a POST created
        (`read_your_order`).
-/
import EventCart.Keys.Replies
import EventCart.Saga.Evidence

namespace EventCart

open EventCart.Lib
open EventCart.Lib.Tx

/-! ## §1. An order later on. -/

/-- The same order, with a status that does not leave COMPLETED or
CANCELLED. -/
structure Order.Later (order later : Order) : Prop where
  id : later.id = order.id
  customerEmail : later.customerEmail = order.customerEmail
  createdAt : later.createdAt = order.createdAt
  status : later.status = order.status ∨ order.status = .PENDING

theorem Order.Later.refl (order : Order) : order.Later order := ⟨rfl, rfl, rfl, .inl rfl⟩

theorem Order.Later.trans {a b c : Order} (hab : a.Later b) (hbc : b.Later c) : a.Later c where
  id := hbc.id.trans hab.id
  customerEmail := hbc.customerEmail.trans hab.customerEmail
  createdAt := hbc.createdAt.trans hab.createdAt
  status := by
    rcases hab.status with h | h
    · rw [← h]
      exact hbc.status
    · exact .inr h

/-- The order is on file, later on, with these lines. -/
def Database.Keeps (order : Order) (items : List OrderItem) (db : Database) : Prop :=
  ∃ later ∈ db.orders, order.Later later ∧ db.itemsOf order.id = items

/-- Whoever leaves a dossier alone keeps its order. -/
theorem Database.Keeps.of_dossier {db db' : Database} {order : Order} {items : List OrderItem}
    (h : db.Keeps order items) (same : db'.dossier order.id = db.dossier order.id) :
    db'.Keeps order items := by
  obtain ⟨later, mem, hlater, hitems⟩ := h
  have hin : later ∈ (db'.dossier order.id).orders := by
    rw [same]
    exact List.mem_filter.mpr ⟨mem, decide_eq_true hlater.id⟩
  refine ⟨later, (of_mem_orders hin).1, hlater, ?_⟩
  rw [← hitems]
  exact congrArg Dossier.items same

/-- Only an order that is PENDING takes a step. -/
theorem Phase.Step.pending {p p' : Phase} {sign : Int} (h : Phase.Step p sign p') :
    p.status = some .PENDING := by
  cases h <;> rfl

theorem setStatus_order {db : Database} {order : Order} (mem : order ∈ db.orders)
    (orderId : String) (status : OrderStatus) :
    ∃ later ∈ (db.setStatus orderId status).orders, later.id = order.id
      ∧ later.customerEmail = order.customerEmail ∧ later.createdAt = order.createdAt := by
  by_cases hid : order.id = orderId
  · exact ⟨{ order with status }, mem_update.mpr (.inl ⟨order, mem, hid, rfl⟩), rfl, rfl, rfl⟩
  · exact ⟨order, mem_update.mpr (.inr ⟨mem, hid⟩), rfl, rfl, rfl⟩

/-- A body rewrites no column of an order but the status. -/
theorem Handled.order {event : EventEnvelope} {db db' : Database} (h : Handled event db db')
    {order : Order} (mem : order ∈ db.orders) :
    ∃ later ∈ db'.orders, later.id = order.id ∧ later.customerEmail = order.customerEmail
      ∧ later.createdAt = order.createdAt := by
  cases h with
  | reserved | released =>
      rw [moveAll_eq]
      exact ⟨order, mem, rfl, rfl, rfl⟩
  | refused | paid | invoiced | notified => exact ⟨order, mem, rfl, rfl, rfl⟩
  | completed => exact setStatus_order mem _ _
  | cancelled => exact setStatus_order mem _ _

/-- **The step lemma**: a commit keeps every order. -/
theorem Commit.keepsOrder {call : Call} {db db' : Database} (inv : SagaInv db)
    (h : Commit call db db') {order : Order} {items : List OrderItem}
    (kept : db.Keeps order items) : db'.Keeps order items := by
  cases h with
  | stocked => exact kept.of_dossier rfl
  | published h => exact kept.of_dossier (h.dossier order.id)
  | attempted => exact kept.of_dossier (dossier_attemptFailed ..)
  | ordered called placed keyed =>
      -- a new order: it is not this one, which is on file already
      have hopened := ordered_opened inv.toFiled placed keyed
      refine kept.of_dossier (hopened.others order.id ?_)
      obtain ⟨later, mem, hlater, -⟩ := kept
      rw [← hlater.id]
      exact hopened.fresh later mem
  | replayed => exact kept
  | @handled event envelope consumer policy paymentFails db₁ processedAt called mem pending valid
      routed fresh handled keyed =>
      have hadvance := handled_advance inv mem valid routed fresh handled keyed
      by_cases hid : order.id = event.aggregateId
      · -- the order of the event: it was PENDING, whatever it is now
        obtain ⟨old, hold, hlater, hitems⟩ := kept
        obtain ⟨new, hnew, hids, hemail, hcreated⟩ := handled.order hold
        obtain ⟨p, sign, p', -, hp, -, hstep, -, -⟩ := hadvance.step
        obtain ⟨q, hq, hstatus⟩ := inv.phase_of_order hold
        rw [hlater.id, hid] at hq
        obtain rfl := hq.phase_unique hp
        rw [hstep.pending] at hstatus
        have hpending : old.status = .PENDING := (Option.some.inj hstatus).symm
        refine ⟨new, hnew, hlater.trans ⟨hids, hemail, hcreated, .inr hpending⟩, ?_⟩
        rw [← hitems]
        exact congrArg (List.filter (·.orderId = order.id)) hadvance.items
      · exact kept.of_dossier (hadvance.others _ hid)

/-- **The run lemma**: whatever reaches the system, an order stays on file,
with its lines, and its status leaves PENDING at most. -/
theorem arrivals_keepOrder (arrivals : List Arrival) {db : Database} (inv : SagaInv db)
    {order : Order} (mem : order ∈ db.orders) :
    (arriveAll arrivals db).Keeps order (db.itemsOf order.id) :=
  (arrivals_keep (P := Database.Keeps order (db.itemsOf order.id)) (C := fun _ => True)
    (fun _ _ h => h) (fun _ _ _ _ inv kept hc => hc.keepsOrder inv kept) arrivals
    (fun _ _ => trivial) inv ⟨order, mem, .refl order, rfl⟩).2

/-! ## §2. `get_order_endpoint`. -/

def HTTP_200_OK : Int := 200

def ORDER_NOT_FOUND : String := "Order not found."

/-- `get_order_endpoint`. -/
def getOrderEndpoint (codecs : Codecs) (orderId : String) : App Reply := do
  match ← getOrder orderId with
  | none => return .httpException HTTP_404_NOT_FOUND ORDER_NOT_FOUND
  | some (order, items) => return .response HTTP_200_OK (orderRead codecs order items)

section get
variable {codecs : Codecs} {orderId : String} {s t : Session Database} {reply : Reply}

/-- What it answers. -/
theorem getOrderEndpoint_ok (h : getOrderEndpoint codecs orderId s = .ok reply t) :
    ((∀ order ∈ s.working.orders, order.id ≠ orderId)
        ∧ reply = .httpException HTTP_404_NOT_FOUND ORDER_NOT_FOUND)
      ∨ ∃ order ∈ s.working.orders, order.id = orderId
        ∧ reply = .response HTTP_200_OK (orderRead codecs order (s.working.itemsOf orderId)) := by
  obtain ⟨found, u, hfound, h⟩ := bind_eq_ok.mp h
  obtain ⟨hvalue, n, rfl⟩ := query_ok hfound
  cases hfind : s.working.orders.find? (·.id = orderId) with
  | none =>
      rw [hfind] at hvalue
      subst hvalue
      simp only [Option.map_none, pure_apply, EStateM.Result.ok.injEq] at h
      refine .inl ⟨fun order mem hid => ?_, h.1.symm⟩
      have habsent := List.find?_eq_none.mp hfind order mem
      exact habsent (decide_eq_true hid)
  | some order =>
      rw [hfind] at hvalue
      subst hvalue
      simp only [Option.map_some, pure_apply, EStateM.Result.ok.injEq] at h
      refine .inr ⟨order, List.mem_of_find?_eq_some hfind, ?_, h.1.symm⟩
      simpa using List.find?_some hfind

end get

/-! ## §3. Reading again. -/

/-- What the GET route answers on a committed database, if it gets that far. -/
def read (codecs : Codecs) (world : World Database) (tick : Nat) (orderId : String)
    (db : Database) : Option Reply :=
  value? (getOrderEndpoint codecs orderId (Session.begin world tick db))

/-- Two answers about one order, in this order. -/
inductive Reply.Settles (codecs : Codecs) : Reply → Reply → Prop where
  /-- The order did not exist yet. -/
  | unknown (later : Reply) :
      Settles codecs (.httpException HTTP_404_NOT_FOUND ORDER_NOT_FOUND) later
  /-- It did; the lines are the same, and so is everything but the status. -/
  | known {order later : Order} (items : List OrderItem) (h : order.Later later) :
      Settles codecs (.response HTTP_200_OK (orderRead codecs order items))
        (.response HTTP_200_OK (orderRead codecs later items))

theorem read_some {codecs : Codecs} {world : World Database} {tick : Nat} {orderId : String}
    {db : Database} {reply : Reply} (h : read codecs world tick orderId db = some reply) :
    ((∀ order ∈ db.orders, order.id ≠ orderId)
        ∧ reply = .httpException HTTP_404_NOT_FOUND ORDER_NOT_FOUND)
      ∨ ∃ order ∈ db.orders, order.id = orderId
        ∧ reply = .response HTTP_200_OK (orderRead codecs order (db.itemsOf orderId)) := by
  unfold read at h
  cases hrun : getOrderEndpoint codecs orderId (Session.begin world tick db) with
  | error e t =>
      rw [hrun] at h
      cases h
  | ok answer t =>
      rw [hrun] at h
      obtain rfl : answer = reply := Option.some.inj h
      exact getOrderEndpoint_ok hrun

/-- An order on file is what the GET route shows. -/
theorem Database.Keeps.read {codecs : Codecs} {world : World Database} {tick : Nat}
    {db : Database} (keyed : db.Keyed) {order : Order} {items : List OrderItem}
    (kept : db.Keeps order items) {reply : Reply}
    (h : read codecs world tick order.id db = some reply) :
    ∃ later, order.Later later ∧ reply = .response HTTP_200_OK (orderRead codecs later items) := by
  obtain ⟨later, mem, hlater, hitems⟩ := kept
  rcases read_some h with ⟨absent, -⟩ | ⟨found, hfound, hid, hreply⟩
  · exact absurd hlater.id (absent later mem)
  · have hsame : found = later :=
      row_unique keyed.orders hfound mem (hid.trans hlater.id.symm)
    rw [hsame, hitems] at hreply
    exact ⟨later, hlater, hreply⟩

/-- **Reading an order twice.**  Whatever reaches the system before the first
read and between the two, the second answer is the first one with at most the
status changed, and a status that was COMPLETED or CANCELLED is the same; only
an order that did not exist yet may have any answer. -/
theorem reads_settle (codecs : Codecs) (before between : List Arrival) {stock : Database}
    (start : Stocked stock) {orderId : String} {world world' : World Database} {tick tick' : Nat}
    {reply reply' : Reply}
    (first : read codecs world tick orderId (arriveAll before stock) = some reply)
    (second : read codecs world' tick' orderId (arriveAll between (arriveAll before stock))
      = some reply') : reply.Settles codecs reply' := by
  have inv := arriveAll_inv before start.inv
  -- either the order was not there yet, or it is kept from here on
  rcases read_some first with ⟨-, rfl⟩ | ⟨order, mem, rfl, rfl⟩
  · exact .unknown reply'
  · have kept := arrivals_keepOrder between inv mem
    obtain ⟨later, hlater, rfl⟩ := kept.read (arriveAll_inv between inv).keyed second
    exact .known _ hlater

/-- The order of two pencils, read when it is placed and after its
cancellation. -/
theorem reads_settle_declined :
    ∃ reply reply', read plainCodecs .calm 300 "id-102"
          (arriveAll ((reservationRun 2).map .called) Database.empty) = some reply
      ∧ read plainCodecs .calm 900 "id-102" (arriveAll (((declinedRun 2).drop 3).map .called)
          (arriveAll ((reservationRun 2).map .called) Database.empty)) = some reply'
      ∧ reply.Settles plainCodecs reply' := by
  have hfirst : (read plainCodecs .calm 300 "id-102"
      (arriveAll ((reservationRun 2).map .called) Database.empty)).isSome = true := by
    decide +kernel
  have hsecond : (read plainCodecs .calm 900 "id-102" (arriveAll (((declinedRun 2).drop 3).map
      .called) (arriveAll ((reservationRun 2).map .called) Database.empty))).isSome = true := by
    decide +kernel
  obtain ⟨reply, hfirst⟩ := Option.isSome_iff_exists.mp hfirst
  obtain ⟨reply', hsecond⟩ := Option.isSome_iff_exists.mp hsecond
  exact ⟨reply, reply', hfirst, hsecond, reads_settle plainCodecs ((reservationRun 2).map .called)
    (((declinedRun 2).drop 3).map .called) stocked_empty hfirst hsecond⟩

/-- The order a POST request left behind, as its answer describes it. -/
theorem PostEffect.created {codecs : Codecs} {payload : OrderCreate}
    {idempotencyKey : Option String} {s : Session Database} (keyed : s.working.Keyed) {final : Nat}
    {reply : Reply} {db' : Database}
    (h : PostEffect codecs payload idempotencyKey s final (some reply) db')
    (changed : db' ≠ s.working) :
    ∃ order, db'.orders = s.working.orders ++ [order]
      ∧ order.status = .PENDING ∧ order.customerEmail = payload.customerEmail
      ∧ reply = .response HTTP_201_CREATED (orderRead codecs order (db'.itemsOf order.id)) := by
  cases h with
  | nothing => exact absurd rfl changed
  | @ordered _ order items new unkeyed placed hk answer =>
      have hitems : ((s.working.addOrder order items).addOutboxEvent new).itemsOf order.id = items :=
        itemsOf_placed keyed.orderItemsOrders placed hk
      refine ⟨order, rfl, placed.status, placed.email, ?_⟩
      rw [hitems]
      exact answer reply rfl
  | @answered key row readAt startedAt updatedAt order items new keyed_by reserved lt placed hk =>
      -- the key row is no order
      have hitems : (s.working.addKeyedOrder row order items new).itemsOf order.id = items :=
        itemsOf_addKeyedOrder keyed placed hk
      refine ⟨order, rfl, placed.status, placed.email, ?_⟩
      show _ = Reply.response HTTP_201_CREATED (orderRead codecs order
        ((s.working.addKeyedOrder row order items new).itemsOf order.id))
      rw [hitems]

/-- **Reading your order.**  A POST request that changes anything and is
answered, with or without a key and in any reachable state, is answered 201
with its order, which is none of the orders before; and whatever reaches the
system afterwards, the GET route shows that order, with at most the status
changed. -/
theorem read_your_order (codecs : Codecs) (before : List Arrival) {stock : Database}
    (start : Stocked stock) {payload : OrderCreate} {idempotencyKey : Option String}
    {world : World Database} {tick : Nat} {reply : Reply} {t : Session Database}
    (posted : createOrderEndpoint codecs payload idempotencyKey
      (Session.begin world tick (arriveAll before stock)) = .ok reply t)
    (changed : t.committed ≠ arriveAll before stock) :
    ∃ order items, reply = .response HTTP_201_CREATED (orderRead codecs order items)
      ∧ order.status = .PENDING ∧ order.customerEmail = payload.customerEmail
      ∧ (∀ earlier ∈ (arriveAll before stock).orders, earlier.id ≠ order.id)
      ∧ ∀ (between : List Arrival) (world' : World Database) (tick' : Nat) (reply' : Reply),
          read codecs world' tick' order.id (arriveAll between t.committed) = some reply' →
          ∃ later, order.Later later
            ∧ reply' = .response HTTP_200_OK (orderRead codecs later items) := by
  have inv := arriveAll_inv before start.inv
  have heffect := createOrderEndpoint_effect codecs payload idempotencyKey
    (begin_clean world tick (arriveAll before stock)) inv.keyed
  rw [posted, value?_ok, after_ok] at heffect
  obtain ⟨order, horders, status, email, hreply⟩ := heffect.created inv.keyed changed
  have harrived : t.committed
      = arrive (.posted world tick codecs payload idempotencyKey) (arriveAll before stock) := by
    show _ = (after (createOrderEndpoint codecs payload idempotencyKey _)).committed
    rw [posted]
    rfl
  have inv' : SagaInv t.committed := harrived ▸ arrived_inv inv (arrive_effect inv _)
  have mem : order ∈ t.committed.orders := by
    rw [horders]
    exact List.mem_append_right _ (List.mem_singleton.mpr rfl)
  have hids := inv'.keyed.orders
  rw [horders] at hids
  have hnew : ∀ earlier ∈ (arriveAll before stock).orders, earlier.id ≠ order.id :=
    fresh_of_nodup hids
  refine ⟨order, t.committed.itemsOf order.id, hreply, status, email, hnew,
    fun between world' tick' reply' hread => ?_⟩
  exact (arrivals_keepOrder between inv' mem).read (arriveAll_inv between inv').keyed hread

/-- Two pencils are ordered under a key, and the order is read after its
reservation. -/
theorem read_your_order_pencils :
    ∃ (reply : Reply) (t : Session Database), createOrderEndpoint plainCodecs twoPencils (some "key-1")
        (Session.begin .calm 100
          (arriveAll [.called ⟨.calm, 0, .createInventoryItem (pencils 2)⟩] Database.empty))
        = .ok reply t
      ∧ ∃ order items, reply = .response HTTP_201_CREATED (orderRead plainCodecs order items)
        ∧ order.status = .PENDING ∧ order.customerEmail = twoPencils.customerEmail
        ∧ (∀ earlier ∈ (arriveAll [.called ⟨.calm, 0, .createInventoryItem (pencils 2)⟩]
            Database.empty).orders, earlier.id ≠ order.id)
        ∧ ∀ (between : List Arrival) (world' : World Database) (tick' : Nat) (reply' : Reply),
          read plainCodecs world' tick' order.id (arriveAll between t.committed) = some reply' →
          ∃ later, order.Later later
            ∧ reply' = .response HTTP_200_OK (orderRead plainCodecs later items) := by
  have hreturned : returned (createOrderEndpoint plainCodecs twoPencils (some "key-1")
      (Session.begin .calm 100
        (arriveAll [.called ⟨.calm, 0, .createInventoryItem (pencils 2)⟩] Database.empty))) = true := by
    decide +kernel
  have hchanged : (after (createOrderEndpoint plainCodecs twoPencils (some "key-1")
      (Session.begin .calm 100
        (arriveAll [.called ⟨.calm, 0, .createInventoryItem (pencils 2)⟩] Database.empty)))).committed
      ≠ arriveAll [.called ⟨.calm, 0, .createInventoryItem (pencils 2)⟩] Database.empty := by
    decide +kernel
  cases hrun : createOrderEndpoint plainCodecs twoPencils (some "key-1")
      (Session.begin .calm 100
        (arriveAll [.called ⟨.calm, 0, .createInventoryItem (pencils 2)⟩] Database.empty)) with
  | error e t =>
      rw [hrun] at hreturned
      cases hreturned
  | ok reply t =>
      rw [hrun] at hchanged
      exact ⟨reply, t, rfl, read_your_order plainCodecs _ stocked_empty hrun hchanged⟩

end EventCart
