/-
  EventCart.FailedAttempts
  ────────────────────────
  **WHAT A FAILED ATTEMPT COMMITS.**

  The `except` branch of `dispatch_pending_batch` commits the record of the
  failure together with whatever the handler had changed before it raised.
  Six of the seven handlers, and the reservation among them, read everything
  that can raise before they change anything.  `_release_inventory` does not:
  it adds line by line, and a quantity that is no integer stops it half way.

    • `attempt_committed`            — all that a failed attempt can commit,
    • `failed_attempts_intact_iff`   — any number of attempts leave the
                                       business rows alone, unless the event
                                       is such a release (`PartialRelease`).
-/
import EventCart.Saga.Stock
import EventCart.Survival
import Mathlib.Data.Fintype.EquivFin

namespace EventCart

open EventCart.Lib
open EventCart.Lib.Tx

/-! ## §1. Bookkeeping. -/

/-- The tables differ in the delivery bookkeeping of one event at most: its
attempts, its dead letters, and the delivery columns of its outbox row. -/
structure BookkeepingOnly (eventId : String) (db db' : Database) : Prop where
  orders : db'.orders = db.orders
  orderItems : db'.orderItems = db.orderItems
  inventoryItems : db'.inventoryItems = db.inventoryItems
  payments : db'.payments = db.payments
  invoices : db'.invoices = db.invoices
  notifications : db'.notifications = db.notifications
  inboxEvents : db'.inboxEvents = db.inboxEvents
  idempotencyKeys : db'.idempotencyKeys = db.idempotencyKeys
  /-- No event is new, and none changed its content. -/
  entries : db'.outboxEvents.map (·.entry) = db.outboxEvents.map (·.entry)
  /-- The other events' rows are untouched. -/
  others : db'.outboxEvents.filter (·.eventId ≠ eventId)
    = db.outboxEvents.filter (·.eventId ≠ eventId)
  attempts : ∃ new, db'.attempts = db.attempts ++ new ∧ ∀ row ∈ new, row.eventId = eventId
  deadLetters : ∃ new, db'.deadLetters = db.deadLetters ++ new
    ∧ ∀ row ∈ new, row.eventId = eventId

theorem BookkeepingOnly.refl (eventId : String) (db : Database) : BookkeepingOnly eventId db db :=
  ⟨rfl, rfl, rfl, rfl, rfl, rfl, rfl, rfl, rfl, rfl, ⟨[], (List.append_nil _).symm, by simp⟩,
    ⟨[], (List.append_nil _).symm, by simp⟩⟩

/-- Rows appended twice are rows appended. -/
theorem appended_trans {ρ : Type} {p : ρ → Prop} {a b c : List ρ}
    (h₁ : ∃ new, b = a ++ new ∧ ∀ row ∈ new, p row)
    (h₂ : ∃ new, c = b ++ new ∧ ∀ row ∈ new, p row) :
    ∃ new, c = a ++ new ∧ ∀ row ∈ new, p row := by
  obtain ⟨new₁, rfl, hp₁⟩ := h₁
  obtain ⟨new₂, rfl, hp₂⟩ := h₂
  refine ⟨new₁ ++ new₂, List.append_assoc a new₁ new₂, fun row hrow => ?_⟩
  rcases List.mem_append.mp hrow with hrow | hrow
  · exact hp₁ row hrow
  · exact hp₂ row hrow

theorem BookkeepingOnly.trans {eventId : String} {db₁ db₂ db₃ : Database}
    (h₁ : BookkeepingOnly eventId db₁ db₂) (h₂ : BookkeepingOnly eventId db₂ db₃) :
    BookkeepingOnly eventId db₁ db₃ where
  orders := h₂.orders.trans h₁.orders
  orderItems := h₂.orderItems.trans h₁.orderItems
  inventoryItems := h₂.inventoryItems.trans h₁.inventoryItems
  payments := h₂.payments.trans h₁.payments
  invoices := h₂.invoices.trans h₁.invoices
  notifications := h₂.notifications.trans h₁.notifications
  inboxEvents := h₂.inboxEvents.trans h₁.inboxEvents
  idempotencyKeys := h₂.idempotencyKeys.trans h₁.idempotencyKeys
  entries := h₂.entries.trans h₁.entries
  others := h₂.others.trans h₁.others
  attempts := appended_trans h₁.attempts h₂.attempts
  deadLetters := appended_trans h₁.deadLetters h₂.deadLetters

/-- An assignment of delivery columns is bookkeeping. -/
theorem bookkeeping_updateOutboxEvent {eventId : String} {f : OutboxEvent → OutboxEvent}
    (hf : ∀ event, (f event).entry = event.entry) (db : Database) :
    BookkeepingOnly eventId db (db.updateOutboxEvent eventId f) where
  orders := rfl
  orderItems := rfl
  inventoryItems := rfl
  payments := rfl
  invoices := rfl
  notifications := rfl
  inboxEvents := rfl
  idempotencyKeys := rfl
  entries := map_update_of_eq (fun event _ => hf event) db.outboxEvents
  others := by
    have hfilter : (update (·.eventId) eventId f db.outboxEvents).filter (·.eventId ≠ eventId)
        = update (·.eventId) eventId f (db.outboxEvents.filter (·.eventId ≠ eventId)) :=
      filter_update_of_eq (fun event _ => by rw [eventId_of_entry (hf event)]) db.outboxEvents
    refine hfilter.trans (update_of_absent fun event hevent => ?_)
    simpa using (List.mem_filter.mp hevent).2
  attempts := ⟨[], (List.append_nil _).symm, by simp⟩
  deadLetters := ⟨[], (List.append_nil _).symm, by simp⟩

/-- The record of a failed attempt is bookkeeping. -/
theorem bookkeeping_attemptFailed (handlers : HandlerMap) (policy : RetryPolicy)
    (event : OutboxEvent) (error : String) (stamp : FailureStamp) (db : Database) :
    BookkeepingOnly event.eventId db (db.attemptFailed handlers policy event error stamp) := by
  have hattempt : BookkeepingOnly event.eventId db
      (db.addAttempt (db.failureAttempt handlers event error stamp)) :=
    { BookkeepingOnly.refl event.eventId db with
      attempts := ⟨[_], rfl, fun row hrow => by rw [List.mem_singleton.mp hrow]; rfl⟩ }
  unfold Database.attemptFailed
  split
  · have hletter : ∀ letter : DeadLetterEvent, letter.eventId = event.eventId →
        ∀ db : Database, BookkeepingOnly event.eventId db (db.addDeadLetter letter) := by
      intro letter hid db
      exact { BookkeepingOnly.refl event.eventId db with
        deadLetters := ⟨[letter], rfl, fun row hrow => by rw [List.mem_singleton.mp hrow, hid]⟩ }
    exact (hattempt.trans (hletter _ rfl _)).trans
      (bookkeeping_updateOutboxEvent (by intro _; rfl) _)
  · exact hattempt.trans (bookkeeping_updateOutboxEvent (by intro _; rfl) _)

/-- The row found under an id keeps its content. -/
theorem BookkeepingOnly.find_entry {eventId : String} {db db' : Database}
    (h : BookkeepingOnly eventId db db') {event event' : OutboxEvent}
    (hfind : db.findOutboxEvent eventId = some event)
    (hfind' : db'.findOutboxEvent eventId = some event') : event'.entry = event.entry := by
  have hmap : ∀ rows : List OutboxEvent,
      (rows.map (·.entry)).find? (·.eventId = eventId)
        = (rows.find? (·.eventId = eventId)).map (·.entry) := by
    intro rows
    rw [List.find?_map]
    rfl
  have hrows := (hmap db'.outboxEvents).symm.trans
    ((congrArg (List.find? (·.eventId = eventId)) h.entries).trans (hmap db.outboxEvents))
  unfold Database.findOutboxEvent at hfind hfind'
  rw [hfind, hfind', Option.map_some, Option.map_some, Option.some.injEq] at hrows
  exact hrows

/-! ## §2. Releases that stop half way. -/

/-- The event is a release that adds stock and then raises: every line names
a known SKU, some line has no integer quantity, and the lines before it add
up to a change of some row. -/
structure PartialRelease (db : Database) (event : OutboxEvent) : Prop where
  type : event.eventType = "PaymentFailed"
  valid : ∃ envelope, envelopeFromOutboxEvent event = .ok envelope
  fresh : db.processed "inventory-compensation-worker" event.eventId = false
  order : ∃ orderId, strItem event.payload "order_id" = .ok orderId
  items : ∃ lines, payloadItems event.payload = .ok lines ∧ db.knows lines = true
    ∧ lines.all hasQuantity = false
    ∧ ∃ row ∈ db.inventoryItems, demand row.sku (goodLines lines) ≠ 0

/-- Bookkeeping does not make a release partial. -/
theorem PartialRelease.of_bookkeeping {eventId : String} {db db' : Database}
    (h : BookkeepingOnly eventId db db') {event event' : OutboxEvent}
    (hentry : event'.entry = event.entry) (hp : PartialRelease db' event') :
    PartialRelease db event := by
  have hdraft := draft_of_entry hentry
  have hpayload : event'.payload = event.payload := congrArg (·.payload) hdraft
  obtain ⟨type, valid, fresh, order, lines, items, known, some_bad, row, mem, moved⟩ := hp
  rw [hpayload] at order items
  refine ⟨eventType_of_entry hentry ▸ type, ?_, ?_, order, lines, items, ?_, some_bad, row,
    h.inventoryItems ▸ mem, moved⟩
  · obtain ⟨envelope, valid⟩ := valid
    have hvalid : envelopeFromOutboxEvent event'.entry = .ok envelope := valid
    rw [hentry] at hvalid
    exact ⟨envelope, hvalid⟩
  · unfold Database.processed at fresh ⊢
    rw [h.inboxEvents, eventId_of_entry hentry] at fresh
    exact fresh
  · unfold Database.knows Database.findInventoryItem at known ⊢
    rw [h.inventoryItems] at known
    exact known

/-- Moving lines that add up to nothing moves nothing. -/
theorem moveAll_of_balanced {lines : List Dict} {db : Database}
    (h : ∀ row ∈ db.inventoryItems, demand row.sku lines = 0) : db.moveAll 1 lines = db := by
  rw [moveAll_eq]
  have hrows : db.inventoryItems.map (fun row => row.restocked (1 * demand row.sku lines))
      = db.inventoryItems := by
    rw [List.map_congr_left (g := id), List.map_id]
    intro row hrow
    rw [h row hrow, Int.mul_zero, restocked_zero]
    rfl
  rw [hrows]

/-! ## §3. One failed attempt. -/

/-- The handler the event is delivered to raises an exception of its own. -/
def RaisesOrdinary (eventId : String) (db : Database) (label : Label) : Prop :=
  ∃ policy paymentFails event error u,
    label.call = .deliver eventId policy paymentFails
      ∧ db.findOutboxEvent eventId = some event ∧ event.status = .PENDING
      ∧ callHandler (sagaHandlers paymentFails) event (Session.begin label.world label.tick db)
        = .error (.raised error) u

/-- **What a handler leaves when it raises**: the objects it found, or those
of a half-done release. -/
theorem callHandler_raised {paymentFails : String → Bool} {event : OutboxEvent}
    {s u : Session Database} {error : PyError}
    (h : callHandler (sagaHandlers paymentFails) event s = .error (.raised error) u) :
    u.committed = s.committed
      ∧ (u.working = s.working
        ∨ s.working.processed "inventory-compensation-worker" event.eventId = false
          ∧ ∃ envelope, envelopeFromOutboxEvent event = .ok envelope
            ∧ HalfReleased envelope s.working u.working) := by
  rcases sagaCall paymentFails event with ⟨refused, hcall⟩
    | ⟨registration, envelope, hlookup, valid, hcall, α, body, event', hb⟩
  · rw [hcall] at h
    simp only [raise_apply, EStateM.Result.error.injEq] at h
    rw [← h.2]
    exact ⟨rfl, .inl rfl⟩
  · rw [hcall] at h
    obtain ⟨htype, hid, -, -⟩ := envelope_eventType valid
    have routed := lookup_sagaHandlers hlookup
    rw [← htype] at routed
    refine ⟨hb.handler_error h, ?_⟩
    obtain ⟨fresh, -, hworking | half⟩ := hb.handler_raised h
    · exact .inl hworking
    · -- a release is routed to the compensation worker
      rw [half.type] at routed
      have hname : "inventory-compensation-worker" = registration.consumerName :=
        Option.some.inj routed
      rw [← hname, hid] at fresh
      exact .inr ⟨fresh, envelope, valid, half⟩

/-- Any other error leaves the session waiting for a rollback. -/
theorem callHandler_inactive {paymentFails : String → Bool} {event : OutboxEvent}
    {s u : Session Database} (hs : s.active = true) {e : Failure PyError}
    (h : callHandler (sagaHandlers paymentFails) event s = .error e u)
    (hraised : ∀ error, e ≠ .raised error) (hcrash : e ≠ .crash) : u.active = false := by
  rcases sagaCall paymentFails event with ⟨refused, hcall⟩
    | ⟨registration, envelope, -, -, hcall, α, body, event', hb⟩
  · rw [hcall] at h
    simp only [raise_apply, EStateM.Result.error.injEq] at h
    exact absurd h.1.symm (hraised refused)
  · rw [hcall] at h
    exact hb.handler_inactive hs h hraised hcrash

/-- A half-done release without effect is no partial release. -/
theorem HalfReleased.eq_of_not_partial {db db' : Database} {event : OutboxEvent}
    {envelope : EventEnvelope} (valid : envelopeFromOutboxEvent event = .ok envelope)
    (fresh : db.processed "inventory-compensation-worker" event.eventId = false)
    (h : HalfReleased envelope db db') (hp : ¬ PartialRelease db event) : db' = db := by
  obtain ⟨htype, -, -, hpayload⟩ := envelope_eventType valid
  obtain ⟨type, orderId, lines, order, items, known, bad, rfl⟩ := h
  rw [hpayload] at order items
  rw [htype] at type
  apply moveAll_of_balanced
  intro row mem
  by_contra moved
  exact hp ⟨type, ⟨envelope, valid⟩, fresh, ⟨orderId, order⟩, lines, items, known, bad, row, mem,
    moved⟩

/-- **What a failed attempt commits**: nothing, or the objects its handler
left with the record of the failure. -/
theorem attempt_committed {eventId : String} {db : Database} {label : Label}
    (h : RaisesOrdinary eventId db label) :
    step label db = db
      ∨ ∃ (event : OutboxEvent) (base : Database),
        db.findOutboxEvent eventId = some event
          ∧ (¬ PartialRelease db event → base = db)
          ∧ BookkeepingOnly eventId base (step label db) := by
  obtain ⟨policy, paymentFails, event, error, u, called, hfind, pending, hraise⟩ := h
  have hstep : step label db = (after (dispatchEvent (sagaHandlers paymentFails) policy event
      (Session.begin label.world label.tick db))).committed := by
    unfold step transact
    rw [called]
    show (after (deliver eventId policy paymentFails _)).committed = _
    rw [deliver_of_find (s := Session.begin label.world label.tick db) hfind, if_pos pending]
  have hhandle : handleEvent (sagaHandlers paymentFails) event
      (Session.begin label.world label.tick db) = .error (.raised error) u := by
    rw [handleEvent_eq, bind_of_error hraise]
  obtain ⟨hcommitted, hleft⟩ := callHandler_raised hraise
  have hc := dispatchEvent_committed (sagaHandlers paymentFails) policy event
    (Session.begin label.world label.tick db)
  rw [hhandle, ← hstep] at hc
  -- the COMMIT failed, or it took what the handler left and the record
  rcases hc with hc | ⟨-, -, stamp, -, hc⟩
  · exact .inl (hc.trans hcommitted)
  · have hid : event.eventId = eventId := by simpa using List.find?_some hfind
    refine .inr ⟨event, u.working, hfind, fun hp => ?_, ?_⟩
    · -- only a release that stops halfway leaves anything
      rcases hleft with hworking | ⟨fresh, envelope, valid, half⟩
      · exact hworking
      · exact half.eq_of_not_partial valid fresh hp
    · rw [hc, ← hid]
      exact bookkeeping_attemptFailed _ _ _ _ _ _

/-! ## §4. A partial release does its damage. -/

/-- There is an identifier no row of a list has. -/
theorem exists_fresh (ids : List String) : ∃ id : String, id ≠ "" ∧ id ∉ ids := by
  obtain ⟨id, hid⟩ := Infinite.exists_notMem_finset ("" :: ids).toFinset
  rw [List.mem_toFinset, List.mem_cons, not_or] at hid
  exact ⟨id, hid⟩

/-- A calm world that gives out one identifier, at one time. -/
def oneIdWorld (id : String) (h : id ≠ "") : World Database :=
  { (World.calm : World Database) with
    uuid4 := fun _ => id
    uuid4_ne := fun _ => h
    now := fun _ => 0 }

theorem oneIdWorld_dependable (id : String) (h : id ≠ "") :
    (oneIdWorld id h).Dependable fun _ => none := ⟨fun _ _ => rfl⟩

/-- The handler of a partial release raises, with the lines before the first
bad one added. -/
theorem callHandler_of_partial {db : Database} {event : OutboxEvent}
    (h : PartialRelease db event) {world : World Database} {rejects : Database → Option String}
    (dep : world.Dependable rejects) (accepted : rejects db = none) (tick : Nat)
    (paymentFails : String → Bool) :
    ∃ lines n, payloadItems event.payload = .ok lines
      ∧ (∃ row ∈ db.inventoryItems, demand row.sku (goodLines lines) ≠ 0)
      ∧ callHandler (sagaHandlers paymentFails) event (Session.begin world tick db)
        = .error (.raised quantityError)
            ((Session.begin world tick db).goto (db.moveAll 1 (goodLines lines)) n) := by
  obtain ⟨type, ⟨envelope, valid⟩, fresh, ⟨orderId, order⟩, lines, items, known, bad, moved⟩ := h
  obtain ⟨-, hid, -, hpayload⟩ := envelope_eventType valid
  refine ⟨lines, tick + 2, items, moved, ?_⟩
  have hlookup : (sagaHandlers paymentFails).lookup event.eventType
      = some ⟨"inventory-compensation-worker", discard handlePaymentFailed⟩ := by
    rw [type]
    rfl
  -- the release: load the rows, then add until the bad line
  have hload : loadInventoryItems lines ((Session.begin world tick db).goto db (tick + 1))
      = .ok (db.loaded lines) ((Session.begin world tick db).goto db (tick + 2)) :=
    loadInventoryItems_of_known (s := (Session.begin world tick db).goto db (tick + 1)) known
      (statement_accepted (s := (Session.begin world tick db).goto db (tick + 1)) dep rfl accepted)
  have hmove := moveStock_apply 1 (db.loaded lines) lines
    ((Session.begin world tick db).goto db (tick + 2)) (loaded_has known)
  rw [if_neg (by rw [bad]; decide)] at hmove
  have hbody : releaseInventory envelope ((Session.begin world tick db).goto db (tick + 1))
      = .error (.raised quantityError)
          ((Session.begin world tick db).goto (db.moveAll 1 (goodLines lines)) (tick + 2)) := by
    unfold releaseInventory
    rw [hpayload, ofExcept_bind_ok order, ofExcept_bind_ok items, bind_of_ok hload]
    exact bind_of_error hmove
  -- the inbox around it: not processed yet, so the body runs
  have hquery : hasProcessed INVENTORY_COMPENSATION_CONSUMER_NAME envelope.eventId
      (Session.begin world tick db)
        = .ok false ((Session.begin world tick db).goto db (tick + 1)) := by
    rw [← fresh, ← hid]
    exact query_accepted (s := Session.begin world tick db) dep rfl accepted _
  have honce : processOnce INVENTORY_COMPENSATION_CONSUMER_NAME envelope releaseInventory
      (Session.begin world tick db) = .error (.raised quantityError)
          ((Session.begin world tick db).goto (db.moveAll 1 (goodLines lines)) (tick + 2)) := by
    unfold processOnce
    rw [bind_of_ok hquery]
    exact bind_of_error hbody
  unfold callHandler
  rw [hlookup]
  show (ofExcept (envelopeFromOutboxEvent event) >>= _ : App Unit) _ = _
  rw [ofExcept_bind_ok valid]
  exact bind_of_error (bind_of_error honce)

/-- **A partial release is committed** with the record of its failure: some
attempt changes the stock. -/
theorem partial_release_commits {db : Database} (keyed : db.Keyed) {event : OutboxEvent}
    (hfind : db.findOutboxEvent event.eventId = some event) (pending : event.status = .PENDING)
    (h : PartialRelease db event) :
    ∃ label, RaisesOrdinary event.eventId db label
      ∧ (step label db).inventoryItems ≠ db.inventoryItems := by
  obtain ⟨id, hne, hfresh⟩ := exists_fresh (db.attempts.map (·.id))
  have dep := oneIdWorld_dependable id hne
  obtain ⟨lines, n, items, ⟨row, mem, moved⟩, hcall⟩ :=
    callHandler_of_partial h dep rfl 0 fun _ => false
  let policy : RetryPolicy :=
    { backoffSeconds := 0
      maxAttempts := db.failureNumber (sagaHandlers fun _ => false) event + 1 }
  let s := Session.begin (oneIdWorld id hne) 0 db
  let u := s.goto (db.moveAll 1 (goodLines lines)) n
  refine ⟨⟨oneIdWorld id hne, 0, .deliver event.eventId policy fun _ => false⟩,
    ⟨policy, _, event, _, _, rfl, hfind, pending, hcall⟩, ?_⟩
  have hstep : step ⟨oneIdWorld id hne, 0, .deliver event.eventId policy fun _ => false⟩ db
      = (after (dispatchEvent (sagaHandlers fun _ => false) policy event s)).committed := by
    unfold step transact
    show (after (deliver event.eventId policy (fun _ => false) s)).committed = _
    rw [deliver_of_find (s := s) hfind, if_pos pending]
  have hhandle : handleEvent (sagaHandlers fun _ => false) event s
      = .error (.raised quantityError) u := by
    rw [handleEvent_eq, bind_of_error hcall]
  -- the failure can be recorded, so the round returns
  have hmoved : u.working = db.moveAll 1 (goodLines lines) := rfl
  have hsame : u.working.attempts = db.attempts ∧ u.working.outboxEvents = db.outboxEvents := by
    rw [hmoved, moveAll_eq]
    exact ⟨rfl, rfl⟩
  have hnumber : u.working.failureNumber (sagaHandlers fun _ => false) event
      = db.failureNumber (sagaHandlers fun _ => false) event := by
    rw [hmoved, moveAll_eq]
    rfl
  have husable : Usable (sagaHandlers fun _ => false) policy (fun _ => none) event
      (.error (.raised quantityError) u) := by
    have hfew : u.working.failureNumber (sagaHandlers fun _ => false) event
        < policy.maxAttempts := by
      rw [hnumber]
      exact Int.lt_succ _
    refine ⟨by simp, rfl, rfl,
      { keyed := keyed_moveAll keyed 1 _
        present := findOutboxEvent_isSome.mpr ?_
        attempt := ?_
        letter := fun hmax => absurd hmax (not_le.mpr hfew)
        retry := fun _ => ?_ }⟩
    · rw [hsame.2]
      exact ⟨event, List.mem_of_find?_eq_some hfind, rfl⟩
    · show id ∉ u.working.attempts.map (·.id)
      rw [hsame.1]
      exact hfresh
    · -- without a delay the retry is due at once
      have hnow : (failureStamp (sagaHandlers fun _ => false) policy event u).failedAt = 0 := by
        unfold failureStamp
        split
        · rfl
        · rfl
      rw [hnow]
      exact RetryPolicy.schedules_immediate rfl _ (by decide) (by decide)
  have hworld : u.world = s.world := rfl
  obtain ⟨hreturns, hrecorded⟩ := round_of_error dep (fun _ _ _ _ => rfl) hworld hhandle
  obtain ⟨v, t, hround⟩ := hreturns.mpr husable
  obtain ⟨⟨attempt, hattempt, -, -⟩, -⟩ := hrecorded v t hround
  have hc := dispatchEvent_committed (sagaHandlers fun _ => false) policy event s
  rw [hhandle, hround] at hc
  rw [hstep, hround]
  intro hstock
  rcases hc with hc | ⟨-, -, stamp, -, hc⟩
  · -- then the attempt would not be recorded
    have hlength := congrArg List.length hattempt
    rw [hsame.1] at hlength
    have hcommitted : t.committed = db := hc
    rw [hcommitted, List.length_append, List.length_singleton] at hlength
    omega
  · have hbooks := bookkeeping_attemptFailed (sagaHandlers fun _ => false) policy event
      (failureText (.raised quantityError)) stamp u.working
    rw [← hc] at hbooks
    have hrows := hbooks.inventoryItems.symm.trans hstock
    rw [hmoved, moveAll_eq] at hrows
    have hrow : row.restocked (1 * demand row.sku (goodLines lines)) = row := by
      have hall := List.map_inj_left.mp (hrows.trans (List.map_id _).symm)
      exact hall row mem
    have hquantity := congrArg (·.quantityAvailable) hrow
    have hquantity : row.quantityAvailable + 1 * demand row.sku (goodLines lines)
        = row.quantityAvailable := hquantity
    omega

/-! ## §5. Any number of attempts. -/

/-- However often the handler of the event raises, with whatever retries
between, only the event's bookkeeping is committed. -/
def AttemptsIntact (eventId : String) (db : Database) : Prop :=
  ∀ labels : List Label, Along step (RaisesOrdinary eventId) labels db →
    BookkeepingOnly eventId db (runCalls labels db)

/-- **When failed attempts leave business state intact**: for every database
and every PENDING event, whatever its payload and however often it fails,
exactly unless the event is a release that raises after adding stock. -/
theorem failed_attempts_intact_iff {db : Database} (keyed : db.Keyed) {event : OutboxEvent}
    (hfind : db.findOutboxEvent event.eventId = some event) (pending : event.status = .PENDING) :
    AttemptsIntact event.eventId db ↔ ¬ PartialRelease db event := by
  constructor
  · intro h hp
    obtain ⟨label, hraises, hstock⟩ := partial_release_commits keyed hfind pending hp
    exact hstock (h [label] ⟨hraises, trivial⟩).inventoryItems
  · intro hp labels hall
    refine run_invariant_along (I := fun db' => BookkeepingOnly event.eventId db db') ?_ labels db
      (BookkeepingOnly.refl _ _) hall
    intro db' label hbooks hraises
    rcases attempt_committed hraises with hidle | ⟨event', base, hfind', hbase, hstep⟩
    · rw [hidle]
      exact hbooks
    · have hentry := hbooks.find_entry hfind hfind'
      rw [hbase fun hp' => hp (hp'.of_bookkeeping hbooks hentry)] at hstep
      exact hbooks.trans hstep

/-- A failed payment whose second line has a text for a quantity. -/
def brokenRelease : OutboxEvent :=
  EventDraft.row
    { eventType := "PaymentFailed"
      eventVersion := 1
      aggregateType := "Order"
      aggregateId := "order-1"
      correlationId := "order-1"
      causationId := none
      payload :=
        [("order_id", .str "order-1"), ("items", .arr
          [.obj [("sku", .str "PENCIL"), ("quantity", .int 2)],
           .obj [("sku", .str "PENCIL"), ("quantity", .str "many")]])] }
    "event-1" 0

/-- Three pencils in stock, and the event pending. -/
def brokenReleaseTables : Database :=
  { Database.empty with
    inventoryItems := [pencilRow 3]
    outboxEvents := [brokenRelease] }

/-- One attempt on it. -/
def brokenAttempt : Label := ⟨.calm, 0, .deliver "event-1" {} fun _ => false⟩

/-- The equivalence on these tables. -/
theorem failed_attempts_intact_iff_broken :
    AttemptsIntact "event-1" brokenReleaseTables
      ↔ ¬ PartialRelease brokenReleaseTables brokenRelease :=
  @failed_attempts_intact_iff brokenReleaseTables ((admits_iff _).mp (by decide +kernel))
    brokenRelease rfl rfl

/-- **A failed attempt changes the stock**: two pencils are released, the
handler raises at the second line, and the commit of the failure keeps
them. -/
theorem failed_attempt_adds_stock :
    ¬ ∀ (db : Database) (event : OutboxEvent), db.Keyed →
        db.findOutboxEvent event.eventId = some event → event.status = .PENDING →
        (consumer? event.eventType).isSome = true → AttemptsIntact event.eventId db := by
  intro h
  have hraises : RaisesOrdinary "event-1" brokenReleaseTables brokenAttempt :=
    ⟨{}, fun _ => false, brokenRelease, _, _, rfl, rfl, rfl, rfl⟩
  have hbooks := h brokenReleaseTables brokenRelease ((admits_iff _).mp (by decide +kernel)) rfl
    rfl rfl [brokenAttempt] ⟨hraises, trivial⟩
  have hstock : (runCalls [brokenAttempt] brokenReleaseTables).inventoryItems = [pencilRow 5] := by
    decide +kernel
  have hsame := hbooks.inventoryItems.symm.trans hstock
  have hdiffer : brokenReleaseTables.inventoryItems ≠ [pencilRow 5] := by decide
  exact hdiffer hsame

end EventCart
