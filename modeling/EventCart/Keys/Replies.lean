/-
  EventCart.Keys.Replies
  ──────────────────────
  **REQUESTS ONE AFTER ANOTHER, AND WHAT THEY ARE TOLD.**

  `POST /api/v1/orders` requests with any keys and bodies run one after
  another on one clock, each from its first statement to its reply or to a
  crash, and between them the workers handle events and inventory comes in.
  A key's row stands until it expires, whatever happens, so the reply to a
  later request is read off the row the first one committed.

    §1  activities;
    §2  a row stands until it expires;
    §3  the row an order is committed with;
    §4  replays (`replays_in_turn`);
    §5  crashes between the two COMMITs (`orders_durable`,
        `response_not_durable`).
-/
import EventCart.Bodies
import EventCart.Keys.Answers
import EventCart.Saga.Arrivals

namespace EventCart

open EventCart.Lib
open EventCart.Lib.Tx

/-! ## §1. Activities. -/

/-- A request, and the pause before it. -/
structure Post where
  pause : Nat
  payload : OrderCreate
  idempotencyKey : Option String

/-- What happens at the service. -/
inductive Activity where
  | post (p : Post)
  | called (label : Label)
  | handed (world : World Database) (tick : Nat) (eventId : String) (paymentFails : String → Bool)

/-- The committed database, and the number of requests to the outside so
far. -/
structure Service where
  db : Database
  tick : Nat

section service
variable (codecs : Codecs) (world : World Database)

/-- The run of a request. -/
def Post.result (p : Post) (s : Service) : EStateM.Result (Failure PyError) (Session Database) Reply :=
  createOrderEndpoint codecs p.payload p.idempotencyKey
    (Session.begin world (s.tick + p.pause) s.db)

/-- What the client is told, if the request gets that far. -/
def Post.reply (p : Post) (s : Service) : Option Reply := value? (p.result codecs world s)

/-- The service after a request. -/
def Post.serve (p : Post) (s : Service) : Service :=
  ⟨(after (p.result codecs world s)).committed, (after (p.result codecs world s)).tick⟩

/-- The service after an activity. -/
def Activity.serve : Activity → Service → Service
  | .post p, s => p.serve codecs world s
  | .called label, s => ⟨step label s.db, s.tick⟩
  | .handed world tick eventId paymentFails, s =>
      ⟨arrive (.handed world tick eventId paymentFails) s.db, s.tick⟩

/-- The service after some activities. -/
abbrev served (activities : List Activity) (s : Service) : Service :=
  run (Activity.serve codecs world) activities s

/-- The request runs to its end: neither it nor one of its statements dies on
the way. -/
def Post.completes (p : Post) (s : Service) : Bool :=
  match p.result codecs world s with
  | .ok _ _ | .error (.raised _) _ => true
  | .error _ _ => false

/-- A state of the service in a run of it that starts with an inventory. -/
def Service.Reached (s : Service) : Prop :=
  ∃ (start : Service) (activities : List Activity),
    Stocked start.db ∧ s = served codecs world activities start

/-- The hash of the request's body. -/
def Post.hash (p : Post) : String := hashRequestBody codecs p.payload.modelDump

/-- The clock readings up to the end of the request are before a time. -/
def Post.Before (p : Post) (s : Service) (time : DateTime) : Prop :=
  ∀ n < (p.serve codecs world s).tick, world.now n < time

end service

variable {codecs : Codecs} {world : World Database} {s : Service}

theorem serve_inv (inv : SagaInv s.db) (activity : Activity) :
    SagaInv (activity.serve codecs world s).db := by
  have harrive : ∀ arrival, SagaInv (arrive arrival s.db) := fun arrival =>
    arrived_inv inv (arrive_effect inv arrival)
  cases activity with
  | post p => exact harrive (.posted world (s.tick + p.pause) codecs p.payload p.idempotencyKey)
  | called label => exact harrive (.called label)
  | handed world tick eventId paymentFails => exact harrive (.handed world tick eventId paymentFails)

theorem served_inv (activities : List Activity) (inv : SagaInv s.db) :
    SagaInv (served codecs world activities s).db :=
  run_invariant (I := fun s => SagaInv s.db) (fun _ activity h => serve_inv h activity) activities s inv

theorem reached_inv (reached : s.Reached codecs world) : SagaInv s.db := by
  obtain ⟨start, activities, stocked, rfl⟩ := reached
  exact served_inv activities stocked.inv

/-- **A request**: what it answers and what it leaves behind. -/
theorem post_effect (inv : SagaInv s.db) (p : Post) :
    PostEffect codecs p.payload p.idempotencyKey (Session.begin world (s.tick + p.pause) s.db)
      (p.serve codecs world s).tick (p.reply codecs world s) (p.serve codecs world s).db :=
  createOrderEndpoint_effect codecs p.payload p.idempotencyKey
    (begin_clean world (s.tick + p.pause) s.db) inv.keyed

/-! ## §2. A row stands until it expires. -/

theorem handled_keys {event : EventEnvelope} {db db' : Database} (h : Handled event db db') :
    db'.idempotencyKeys = db.idempotencyKeys := by
  cases h with
  | reserved | released =>
      show (Database.moveAll _ _ db).idempotencyKeys = _
      rw [moveAll_eq]
  | _ => rfl

/-- A call leaves the table of keys alone. -/
theorem effect_keys {call : Call} {db db' : Database} (h : Effect call db db') :
    db'.idempotencyKeys = db.idempotencyKeys := by
  have hpublish : ∀ {db db' : Database}, Publish call db db' →
      db'.idempotencyKeys = db.idempotencyKeys := by
    intro db db' h
    cases h
    rfl
  have hcommit : ∀ {db'}, Commit call db db' → db'.idempotencyKeys = db.idempotencyKeys := by
    intro db' h
    cases h with
    | handled _ _ _ _ _ _ handled _ => exact (handled_keys handled :)
    | published h => exact hpublish h
    | @attempted event policy paymentFails error stamp =>
        obtain ⟨_, _, _, hdb⟩ := attemptFailed_delivery (sagaHandlers paymentFails) policy event
          error stamp db
        rw [hdb]
    | _ => rfl
  cases h with
  | idle => rfl
  | commit h => exact hcommit h
  | publish h₁ h₂ => exact (hpublish h₂).trans (hcommit h₁)

/-- A request under another key, or without one, leaves a key's row alone. -/
theorem PostEffect.other {payload : OrderCreate} {idempotencyKey : Option String}
    {t : Session Database} {final : Nat} {reply : Option Reply} {db' : Database}
    (h : PostEffect codecs payload idempotencyKey t final reply db') {key : String}
    (other : idempotencyKey ≠ some key) :
    db'.findIdempotencyKey key = t.working.findIdempotencyKey key := by
  have hadded : ∀ {own row order items new}, idempotencyKey = some own → row.key = own →
      (t.working.addKeyedOrder row order items new).findIdempotencyKey key
        = t.working.findIdempotencyKey key := by
    intro own row order items new keyed_by hrow
    have hne : key ≠ row.key := by
      rw [hrow]
      rintro rfl
      exact other keyed_by
    show ((t.working.deleteIdempotencyKey row.key).addIdempotencyKey row).findIdempotencyKey key = _
    rw [findIdempotencyKey_add_ne hne, findIdempotencyKey_delete_ne hne]
  cases h with
  | nothing => rfl
  | ordered => rfl
  | placed keyed_by reserved => exact hadded keyed_by (by rw [reserved.row_eq]; rfl)
  | @answered own row readAt startedAt updatedAt order items new keyed_by reserved =>
      have hne : key ≠ own := by
        rintro rfl
        exact other keyed_by
      rw [findIdempotencyKey_answered_ne _ _ _ hne]
      exact hadded keyed_by (by rw [reserved.row_eq]; rfl)

/-- **A row that has not expired answers the request**, and nothing is
created. -/
theorem post_live {p : Post} {key : String} {row : IdempotencyKey}
    (keyed_by : p.idempotencyKey = some key) (found : s.db.findIdempotencyKey key = some row)
    (before : p.Before codecs world s row.expiresAt) :
    (p.serve codecs world s).db = s.db
      ∧ (p.completes codecs world s = true →
          p.reply codecs world s = row.reply? codecs (p.hash codecs)) := by
  have hlive : ∀ n < (after (createOrderEndpoint codecs p.payload (some key)
      (Session.begin world (s.tick + p.pause) s.db))).tick,
      row.isExpired ((Session.begin world (s.tick + p.pause) s.db).world.now n) = false := by
    rw [← keyed_by]
    intro n hn
    have hbefore := before n hn
    exact decide_eq_false (not_le.mpr hbefore)
  obtain ⟨hdb, hok, hraised⟩ := createOrderEndpoint_live found hlive
  rw [← keyed_by] at hdb hok hraised
  refine ⟨hdb, fun hcompletes => ?_⟩
  unfold Post.completes at hcompletes
  unfold Post.reply
  unfold Post.result at hcompletes ⊢
  split at hcompletes
  next reply t hrun => rw [hrun, value?_ok]; exact (hok reply t hrun).symm
  next error t hrun => rw [hrun, value?_error]; exact (hraised error t hrun).symm
  next => simp at hcompletes

/-- An activity leaves a key's row alone while it has not expired. -/
theorem serve_row (inv : SagaInv s.db) (activity : Activity) {key : String} {row : IdempotencyKey}
    (found : s.db.findIdempotencyKey key = some row)
    (before : ∀ n < (activity.serve codecs world s).tick, world.now n < row.expiresAt) :
    (activity.serve codecs world s).db.findIdempotencyKey key = some row := by
  have hkeys : ∀ db' : Database, db'.idempotencyKeys = s.db.idempotencyKeys →
      db'.findIdempotencyKey key = some row := by
    intro db' hdb'
    unfold Database.findIdempotencyKey
    rw [hdb']
    exact found
  cases activity with
  | post p =>
      by_cases hkey : p.idempotencyKey = some key
      · have hlive := post_live hkey found before
        show (p.serve codecs world s).db.findIdempotencyKey key = some row
        rw [hlive.1]
        exact found
      · exact ((post_effect inv p).other hkey).trans found
  | called label => exact hkeys _ (effect_keys (step_effect inv.ready label))
  | handed world tick eventId paymentFails =>
      exact hkeys _ (effect_keys (handOver_effect inv eventId paymentFails
        (begin_clean world tick s.db) rfl))

theorem serve_tick (activity : Activity) : s.tick ≤ (activity.serve codecs world s).tick := by
  cases activity with
  | post p =>
      have hforward := forward_createOrderEndpoint codecs p.payload p.idempotencyKey
        (Session.begin world (s.tick + p.pause) s.db)
      exact (Nat.le_add_right _ _).trans hforward
  | called label => exact Nat.le_refl _
  | handed world tick eventId paymentFails => exact Nat.le_refl _

theorem run_tick (activities : List Activity) :
    s.tick ≤ (served codecs world activities s).tick :=
  run_invariant (I := fun t => s.tick ≤ t.tick) (fun _ activity h => h.trans (serve_tick activity))
    activities s (Nat.le_refl _)

/-- **A key's row stands until it expires**, whatever happens. -/
theorem row_stands (activities : List Activity) {s : Service} (inv : SagaInv s.db) {key : String}
    {row : IdempotencyKey} (found : s.db.findIdempotencyKey key = some row)
    (before : ∀ n < (served codecs world activities s).tick,
      world.now n < row.expiresAt) :
    (served codecs world activities s).db.findIdempotencyKey key = some row := by
  induction activities generalizing s with
  | nil => exact found
  | cons activity activities ih =>
      refine ih (serve_inv inv activity) (serve_row inv activity found fun n hn => ?_) before
      exact before n (lt_of_lt_of_le hn (run_tick activities))

/-! ## §3. The row of an order. -/

/-- A row holds no response, or exactly the response to an order. -/
def IdempotencyKey.Stores (codecs : Codecs) (order : Order) (items : List OrderItem)
    (row : IdempotencyKey) : Prop :=
  (row.responseBody = none ∧ row.statusCode = none)
    ∨ (row.responseBody = some (orderRead codecs order items)
        ∧ row.statusCode = some HTTP_201_CREATED)

/-- What a row tells a request with its hash: the response, or that the first
request is in progress. -/
def IdempotencyKey.tells (row : IdempotencyKey) : Reply :=
  match row.responseBody with
  | some body => .response HTTP_201_CREATED body
  | none => .httpException HTTP_409_CONFLICT REQUEST_IN_PROGRESS

/-- The order and the key row that a request has made durable. -/
structure Post.Commits (codecs : Codecs) (world : World Database) (p : Post) (s : Service)
    (key : String) (row : IdempotencyKey) (order : Order) : Prop where
  orders : (p.serve codecs world s).db.orders = s.db.orders ++ [order]
  found : (p.serve codecs world s).db.findIdempotencyKey key = some row
  requestHash : row.requestHash = p.hash codecs
  expiresAt : ∃ n, s.tick ≤ n ∧ n < (p.serve codecs world s).tick
    ∧ row.expiresAt = world.now n + DEFAULT_TTL
  stores : row.Stores codecs order ((p.serve codecs world s).db.itemsOf order.id)

/-- The request returns what its row holds. -/
structure Post.Creates (codecs : Codecs) (world : World Database) (p : Post) (s : Service)
    (key : String) (row : IdempotencyKey) (order : Order) : Prop
    extends p.Commits codecs world s key row order where
  returns : p.reply codecs world s = row.responseBody.map (.response HTTP_201_CREATED)

/-- **A request with a key that changes anything** commits an order together
with its key row. -/
theorem post_creates (inv : SagaInv s.db) {p : Post} {key : String}
    (keyed_by : p.idempotencyKey = some key) (created : (p.serve codecs world s).db ≠ s.db) :
    ∃ row order, p.Creates codecs world s key row order := by
  have heffect := @post_effect codecs world s inv p
  rw [keyed_by] at heffect
  -- the expiry was computed from a clock reading of the request
  have hexpires : ∀ {final row readAt startedAt},
      Reserved key (p.hash codecs) DEFAULT_TTL (Session.begin world (s.tick + p.pause) s.db) row
        readAt startedAt → startedAt < final →
      ∃ n, s.tick ≤ n ∧ n < final ∧ row.expiresAt = world.now n + DEFAULT_TTL := by
    intro final row readAt startedAt reserved hlt
    have htick : s.tick + p.pause ≤ readAt := reserved.tick_le
    have hread := reserved.readAt_lt
    refine ⟨startedAt, by omega, hlt, ?_⟩
    rw [reserved.row_eq]
    rfl
  have hfound : ∀ {row order items new}, row.key = key →
      (s.db.addKeyedOrder row order items new).findIdempotencyKey key = some row := by
    rintro row order items new rfl
    show ((s.db.deleteIdempotencyKey row.key).addIdempotencyKey row).findIdempotencyKey row.key = _
    exact findIdempotencyKey_add_self findIdempotencyKey_delete_self
  generalize hreply : p.reply codecs world s = reply,
    hdb : (p.serve codecs world s).db = db' at heffect created
  cases heffect with
  | nothing => exact absurd rfl created
  | ordered unkeyed => simp at unkeyed
  | @placed key' row readAt startedAt order items new hkey reserved hlt placed keyed =>
      obtain rfl := Option.some.inj hkey
      refine ⟨row, order, ⟨by rw [hdb]; rfl, ?_, by rw [reserved.row_eq]; rfl,
        hexpires reserved hlt, .inl ⟨?_, ?_⟩⟩, ?_⟩
      · rw [hdb]
        exact hfound (by rw [reserved.row_eq]; rfl)
      · rw [reserved.row_eq]
        rfl
      · rw [reserved.row_eq]
        rfl
      · rw [hreply, reserved.row_eq]
        rfl
  | @answered key' row readAt startedAt updatedAt order items new hkey reserved hlt placed keyed =>
      obtain rfl := Option.some.inj hkey
      refine ⟨row.answered (orderRead codecs order items) HTTP_201_CREATED (world.now updatedAt),
        order, ⟨by rw [hdb]; rfl, ?_, by rw [reserved.row_eq]; rfl, ?_, .inr ⟨?_, rfl⟩⟩, hreply⟩
      · rw [hdb]
        exact findIdempotencyKey_answered_self _ _ _ (hfound (by rw [reserved.row_eq]; rfl))
      · obtain ⟨n, hn, hexpiresAt⟩ := hexpires reserved hlt
        exact ⟨n, hn, hexpiresAt⟩
      · rw [hdb]
        have hread : (s.db.addKeyedOrder row order items new).itemsOf order.id = items :=
          itemsOf_addKeyedOrder inv.keyed placed keyed
        show some (orderRead codecs order items) = some (orderRead codecs order
          ((s.db.addKeyedOrder row order items new).itemsOf order.id))
        rw [hread]

/-- Another body under the key. -/
theorem reply?_conflict {row : IdempotencyKey} {requestHash : String}
    (h : row.requestHash ≠ requestHash) :
    row.reply? codecs requestHash = some (.httpException HTTP_409_CONFLICT REQUEST_CONFLICT) := by
  unfold IdempotencyKey.reply? IdempotencyKey.answer
  rw [if_pos h]
  rfl

/-- The same body under the key: what the row tells. -/
theorem IdempotencyKey.Stores.reply? (lawful : codecs.Lawful) {row : IdempotencyKey} {order : Order}
    {items : List OrderItem} (h : row.Stores codecs order items) :
    row.reply? codecs row.requestHash = some row.tells := by
  unfold IdempotencyKey.reply? IdempotencyKey.answer IdempotencyKey.tells
  rw [if_neg (not_not.mpr rfl)]
  rcases h with ⟨hbody, hcode⟩ | ⟨hbody, hcode⟩
  · rw [hbody]
    rfl
  · rw [hbody, hcode]
    simp only [lawful order items]

/-! ## §4. Replays. -/

/-- What a request gets from a key under which another one was answered: for
the same body that answer, for another one 409. -/
structure Post.Replays (codecs : Codecs) (world : World Database) (first : Post) (reply : Reply)
    (s : Service) (later : Post) : Prop where
  unchanged : (later.serve codecs world s).db = s.db
  same : later.completes codecs world s = true → later.payload = first.payload →
    later.reply codecs world s = some reply
  other : later.completes codecs world s = true → later.payload ≠ first.payload →
    codecs.Distinguishes first.payload later.payload →
      later.reply codecs world s = some (.httpException HTTP_409_CONFLICT REQUEST_CONFLICT)

/-- A request that finds the row of an order alive gets what the row says. -/
theorem Post.Creates.replays (lawful : codecs.Lawful) {first later : Post} {s' : Service}
    {key : String} {row : IdempotencyKey} {order : Order} {reply : Reply}
    (h : first.Creates codecs world s key row order)
    (replied : first.reply codecs world s = some reply)
    (keyed_by : later.idempotencyKey = some key)
    (found : s'.db.findIdempotencyKey key = some row)
    (before : later.Before codecs world s' row.expiresAt) :
    first.Replays codecs world reply s' later := by
  obtain ⟨hdb, hreply⟩ := post_live keyed_by found before
  refine ⟨hdb, fun hcompletes hsame => ?_, fun hcompletes hother hdistinct => ?_⟩
  · have hhash : later.hash codecs = row.requestHash := by
      rw [h.requestHash]
      unfold Post.hash
      rw [hsame]
    rw [hreply hcompletes, hhash, h.stores.reply? lawful]
    -- the first request returned what its row holds
    have hreturns := h.returns
    rw [replied] at hreturns
    obtain ⟨body, hbody, rfl⟩ := Option.map_eq_some_iff.mp hreturns.symm
    unfold IdempotencyKey.tells
    rw [hbody]
  · have hhash : row.requestHash ≠ later.hash codecs := by
      rw [h.requestHash]
      exact hashRequestBody_ne hdistinct (Ne.symm hother)
    rw [hreply hcompletes, reply?_conflict hhash]

/-- **Requests in turn.**  After a request has created an order under its key
and replied, a request with the key gets the same reply for the same body, and
409 for another one, until the row expires; neither changes anything, nor does
a request that ends with 404. -/
theorem replays_in_turn (lawful : codecs.Lawful) (reached : s.Reached codecs world) :
    (∀ (first : Post) (key : String) (reply : Reply), first.idempotencyKey = some key →
      first.reply codecs world s = some reply → (first.serve codecs world s).db ≠ s.db →
      ∃ expiresAt, (∃ n, s.tick ≤ n ∧ n < (first.serve codecs world s).tick
          ∧ expiresAt = world.now n + DEFAULT_TTL)
        ∧ ∀ (between : List Activity) (later : Post), later.idempotencyKey = some key →
            later.Before codecs world
              (served codecs world between (first.serve codecs world s)) expiresAt →
            first.Replays codecs world reply
              (served codecs world between (first.serve codecs world s)) later)
    ∧ ∀ (p : Post) (detail : String),
        p.reply codecs world s = some (.httpException HTTP_404_NOT_FOUND detail) →
          (p.serve codecs world s).db = s.db := by
  have inv := reached_inv reached
  constructor
  · intro first key reply keyed_by replied created
    obtain ⟨row, order, hcreates⟩ := post_creates inv keyed_by created
    refine ⟨row.expiresAt, hcreates.expiresAt, fun between later hkey hbefore => ?_⟩
    refine hcreates.replays lawful replied hkey ?_ hbefore
    refine row_stands between (serve_inv inv (.post first)) hcreates.found fun n hn => ?_
    exact hbefore n (lt_of_lt_of_le hn (serve_tick (.post later)))
  · -- a 404 comes after the rollback of everything
    intro p detail hreply
    have heffect := @post_effect codecs world s inv p
    rw [hreply] at heffect
    generalize (p.serve codecs world s).db = db' at heffect ⊢
    cases heffect with
    | nothing => rfl
    | ordered unkeyed placed keyed answer =>
        have hanswer := answer _ rfl
        simp at hanswer

/-- Ten pencils are on sale. -/
def pencilsOnSale (world : World Database) : Service :=
  served plainCodecs world [.called ⟨.calm, 0, .createInventoryItem (pencils 10)⟩]
    ⟨Database.empty, 100⟩

/-- A request for a pencil, under a key. -/
def keyedPencil : Post := ⟨0, aPencil, some "key-1"⟩

theorem pencilsOnSale_reached (world : World Database) :
    (pencilsOnSale world).Reached plainCodecs world :=
  ⟨_, _, stocked_empty, rfl⟩

theorem plainCodecs_lawful : plainCodecs.Lawful := fun _ _ => rfl

/-- The same request again gets the same reply, and the database stays as it
is. -/
theorem replays_in_turn_pencil :
    ∃ reply, keyedPencil.reply plainCodecs .calm (pencilsOnSale .calm) = some reply
      ∧ keyedPencil.Replays plainCodecs .calm reply
          (keyedPencil.serve plainCodecs .calm (pencilsOnSale .calm)) keyedPencil := by
  have hreply : (keyedPencil.reply plainCodecs .calm (pencilsOnSale .calm)).isSome = true := by
    decide +kernel
  obtain ⟨reply, hreply⟩ := Option.isSome_iff_exists.mp hreply
  have hcreated : (keyedPencil.serve plainCodecs .calm (pencilsOnSale .calm)).db
      ≠ (pencilsOnSale .calm).db := by
    decide +kernel
  obtain ⟨expiresAt, ⟨n, -, -, hexpires⟩, hreplays⟩ :=
    (replays_in_turn plainCodecs_lawful (pencilsOnSale_reached .calm)).1 keyedPencil "key-1" reply
      rfl hreply hcreated
  refine ⟨reply, hreply, hreplays [] keyedPencil rfl fun m hm => ?_⟩
  have htick : (keyedPencil.serve plainCodecs .calm
      (keyedPencil.serve plainCodecs .calm (pencilsOnSale .calm))).tick = 125 := by
    decide +kernel
  have hm : m < 125 := htick ▸ hm
  rw [hexpires]
  show (m : Int) < (n : Int) + 86400000000
  omega

/-! ## §5. Crashes between the COMMITs. -/

/-- A request changes nothing, and is told something if it gets to its end. -/
structure Post.Told (codecs : Codecs) (world : World Database) (reply : Reply) (s : Service)
    (p : Post) : Prop where
  unchanged : (p.serve codecs world s).db = s.db
  replied : p.completes codecs world s = true → p.reply codecs world s = some reply

/-- **What is durable with an order**, when requests come one after another:
its key's row, with the request's hash and either no response or exactly the
order's; and until the row expires, a request with the key and the body is
told the response, or that the first request is in progress when the row holds
none. -/
theorem orders_durable (lawful : codecs.Lawful) (reached : s.Reached codecs world) {p : Post}
    {key : String} (keyed_by : p.idempotencyKey = some key) {order : Order}
    (created : order ∈ (p.serve codecs world s).db.orders) (fresh : order ∉ s.db.orders) :
    ∃ row, p.Commits codecs world s key row order
      ∧ ∀ between : List Activity,
          (∀ n < (served codecs world between (p.serve codecs world s)).tick,
            world.now n < row.expiresAt) →
          (served codecs world between (p.serve codecs world s)).db.findIdempotencyKey key = some row
            ∧ ∀ retry : Post, retry.idempotencyKey = some key → retry.payload = p.payload →
                retry.Before codecs world (served codecs world between (p.serve codecs world s))
                  row.expiresAt →
                retry.Told codecs world row.tells
                  (served codecs world between (p.serve codecs world s)) := by
  have inv := reached_inv reached
  have hchanged : (p.serve codecs world s).db ≠ s.db := by
    intro hsame
    rw [hsame] at created
    exact fresh created
  obtain ⟨row, order', hcreates⟩ := post_creates inv keyed_by hchanged
  obtain rfl : order = order' := by
    rw [hcreates.orders] at created
    rcases List.mem_append.mp created with hold | hnew
    · exact absurd hold fresh
    · exact List.mem_singleton.mp hnew
  refine ⟨row, hcreates.toCommits, fun between hbefore => ?_⟩
  generalize hlater : served codecs world between (p.serve codecs world s) = later at hbefore ⊢
  have hstands : later.db.findIdempotencyKey key = some row := by
    rw [← hlater] at hbefore ⊢
    exact row_stands between (serve_inv inv (.post p)) hcreates.found hbefore
  refine ⟨hstands, fun retry hkey hbody hlive => ?_⟩
  obtain ⟨hdb, hreply⟩ := post_live hkey hstands hlive
  refine ⟨hdb, fun hcompletes => ?_⟩
  have hhash : retry.hash codecs = row.requestHash := by
    rw [hcreates.requestHash]
    unfold Post.hash
    rw [hbody]
  rw [hreply hcompletes, hhash, hcreates.stores.reply? lawful]

/-- A calm world in which the process dies at a request to the outside. -/
def crashAt (n : Nat) : World Database :=
  { (World.calm : World Database) with fault := fun m _ => if m = n then .crash else .none }

theorem crashed_creates :
    ∃ order ∈ (keyedPencil.serve plainCodecs (crashAt 117) (pencilsOnSale (crashAt 117))).db.orders,
      order ∉ (pencilsOnSale (crashAt 117)).db.orders := by
  decide +kernel

/-- The process dies between the COMMITs, and the retry is told to wait. -/
theorem orders_durable_crashed :
    keyedPencil.Told plainCodecs (crashAt 117)
      (.httpException HTTP_409_CONFLICT REQUEST_IN_PROGRESS)
      (keyedPencil.serve plainCodecs (crashAt 117) (pencilsOnSale (crashAt 117))) := by
  obtain ⟨order, hmem, hfresh⟩ := crashed_creates
  obtain ⟨row, hcommits, hlater⟩ := orders_durable plainCodecs_lawful
    (pencilsOnSale_reached (crashAt 117)) (show keyedPencil.idempotencyKey = some "key-1" from rfl)
    hmem hfresh
  have hempty : ((keyedPencil.serve plainCodecs (crashAt 117)
      (pencilsOnSale (crashAt 117))).db.findIdempotencyKey "key-1").bind (·.responseBody) = none := by
    decide +kernel
  have hnone : row.responseBody = none := by
    rw [hcommits.found] at hempty
    exact hempty
  have htick : (keyedPencil.serve plainCodecs (crashAt 117)
      (keyedPencil.serve plainCodecs (crashAt 117) (pencilsOnSale (crashAt 117)))).tick = 120 := by
    decide +kernel
  obtain ⟨n, -, -, hexpires⟩ := hcommits.expiresAt
  have hlive : ∀ m < 120, (crashAt 117).now m < row.expiresAt := by
    intro m hm
    rw [hexpires]
    show (m : Int) < (n : Int) + 86400000000
    omega
  have htold := (hlater [] fun m hm => hlive m ?_).2 keyedPencil rfl rfl fun m hm => hlive m ?_
  · unfold IdempotencyKey.tells at htold
    rw [hnone] at htold
    exact htold
  · exact htick ▸ lt_of_lt_of_le hm (serve_tick (.post keyedPencil))
  · exact htick ▸ hm

/-- The key's row holds the response of an order. -/
def Service.Answers (codecs : Codecs) (s : Service) (key : String) (order : Order) : Prop :=
  ∃ row, s.db.findIdempotencyKey key = some row
    ∧ row.responseBody = some (orderRead codecs order (s.db.itemsOf order.id))
    ∧ row.statusCode = some HTTP_201_CREATED

/-- **An order without its response**: the process dies after the COMMIT of
`create_order`. -/
theorem response_not_durable :
    ¬ ∀ (codecs : Codecs) (world : World Database) (s : Service) (p : Post) (key : String)
        (order : Order), codecs.Lawful → s.Reached codecs world → p.idempotencyKey = some key →
        order ∈ (p.serve codecs world s).db.orders → order ∉ s.db.orders →
          (p.serve codecs world s).Answers codecs key order := by
  intro h
  obtain ⟨order, hmem, hfresh⟩ := crashed_creates
  obtain ⟨row, hrow, hbody, -⟩ := h plainCodecs (crashAt 117) (pencilsOnSale (crashAt 117))
    keyedPencil "key-1" order plainCodecs_lawful (pencilsOnSale_reached (crashAt 117)) rfl hmem
    hfresh
  have hempty : ((keyedPencil.serve plainCodecs (crashAt 117)
      (pencilsOnSale (crashAt 117))).db.findIdempotencyKey "key-1").bind (·.responseBody) = none := by
    decide +kernel
  rw [hrow, Option.bind_some, hbody] at hempty
  simp at hempty

end EventCart
