/-
  EventCart.Saga.Provenance
  ─────────────────────────
  **WHERE EVERY EVENT COMES FROM.**

  An event names its cause in `causation_id`.  In the dossier of an order the
  handled and waiting events form one chain, each caused by the one before,
  and the refusals hang off its first event.  A replay puts a second refusal
  under the same cause, but only after the first one FAILED: at most one
  refusal of an order is alive, as an event or as a dead letter that was not
  replayed (`Unrivalled`).

    §1  causes, and the chain of a dossier;
    §2  the chain in the outbox;
    §3  at most one refusal is alive;
    §4  `provenance`.
-/
import EventCart.Lib.Chains
import EventCart.Saga.Arrivals

namespace EventCart

open EventCart.Lib

/-! ## §1. Causes. -/

/-- The event types the handler of an event type emits. -/
def causes : List (String × String) :=
  [("OrderCreated", "InventoryReserved"), ("OrderCreated", refusalType),
   ("InventoryReserved", "PaymentAuthorized"), ("InventoryReserved", "PaymentFailed"),
   ("PaymentAuthorized", "InvoiceCreated"), ("InvoiceCreated", "NotificationSent"),
   ("PaymentFailed", "InventoryReleased")]

/-- `event` was emitted when `cause` was handled. -/
structure OutboxEvent.CausedBy (event cause : OutboxEvent) : Prop where
  id : event.causationId = some cause.eventId
  type : (cause.eventType, event.eventType) ∈ causes
  aggregate : event.aggregateId = cause.aggregateId
  correlation : event.correlationId = cause.correlationId
  order : event.payload.get? "order_id" = some (.str event.aggregateId)
  sameOrder : event.payload.get? "order_id" = cause.payload.get? "order_id"

/-- The event an order begins with. -/
structure OutboxEvent.Opens (event : OutboxEvent) : Prop where
  type : event.eventType = "OrderCreated"
  uncaused : event.causationId = none

/-- The events of a dossier hang together. -/
structure Dossier.Linked (d : Dossier) : Prop where
  opening : ∀ e ∈ d.events.head?, e.Opens
  chain : d.events.IsChain fun cause e => e.CausedBy cause
  own : ∀ e ∈ d.events, ∀ order ∈ d.orders, e.aggregateId = order.id
    ∧ e.payload.get? "order_id" = some (.str order.id)
  refusals : ∀ r ∈ d.refusals, ∀ e ∈ d.events.head?, r.CausedBy e

/-- An event emitted for the last event of a dossier is caused by it. -/
theorem causedBy_followUp {e : OutboxEvent} {eventType orderId : String} {payload : Dict}
    {id : String} {occurredAt : DateTime} (type : (e.eventType, eventType) ∈ causes)
    (own : e.aggregateId = orderId ∧ e.payload.get? "order_id" = some (.str orderId))
    (order : payload.get? "order_id" = some (.str orderId)) :
    ((e.followUp eventType orderId payload).row id occurredAt).CausedBy e :=
  ⟨rfl, type, own.1.symm, rfl, order, order.trans own.2.symm⟩

/-- The last event of a trail has the type the phase says. -/
theorem Saga.last_type {p : Phase} {d : Dossier} (h : Saga p d) {e : OutboxEvent} {b : Bool}
    (last : d.trail.getLast? = some (e, b)) :
    p.trail.getLast? = some (e.eventType, b) := by
  rw [← h.trail_eq, List.getLast?_map, last]
  rfl

/-- **A follow-up extends the chain.** -/
theorem Dossier.Linked.extend {p : Phase} {d d' : Dossier} (h : d.Linked) (saga : Saga p d)
    {order : Order} (orders : d.orders = [order]) {e : OutboxEvent} {b : Bool}
    (last : d.trail.getLast? = some (e, b)) {eventType : String} {payload : Dict} {id : String}
    {occurredAt : DateTime} (type : ∀ t ∈ p.trail.getLast?, (t.1, eventType) ∈ causes)
    (payload_order : payload.get? "order_id" = some (.str order.id))
    (orders' : d'.orders = [order])
    (events' : d'.events = d.events ++ [(e.followUp eventType order.id payload).row id occurredAt])
    (refusals' : d'.refusals = []) : d'.Linked := by
  have hlast : d.events.getLast? = some e := by
    rw [Dossier.events, List.getLast?_map, last]
    rfl
  have hmem : e ∈ d.events := List.mem_of_getLast? hlast
  have hown := h.own e hmem order (by rw [orders]; simp)
  have hcaused : ((e.followUp eventType order.id payload).row id occurredAt).CausedBy e :=
    causedBy_followUp (type _ (saga.last_type last)) hown payload_order
  constructor
  · intro a ha
    refine h.opening a ?_
    rw [events'] at ha
    cases hd : d.events with
    | nil =>
        rw [hd] at hmem
        simp at hmem
    | cons b rest => rw [hd] at ha; exact ha
  · rw [events', List.isChain_append]
    refine ⟨h.chain, .singleton _, ?_⟩
    intro a ha b hb
    rw [hlast, Option.mem_some_iff] at ha
    rw [List.head?_cons, Option.mem_some_iff] at hb
    rw [← ha, ← hb]
    exact hcaused
  · intro a ha order' horder
    rw [orders', List.mem_singleton] at horder
    rw [events', List.mem_append] at ha
    subst horder
    rcases ha with ha | ha
    · exact h.own a ha order' (by rw [orders]; simp)
    · rw [List.mem_singleton.mp ha]
      exact ⟨rfl, payload_order⟩
  · rw [refusals']
    simp

/-- A step that changes the status alone keeps the chain. -/
theorem Dossier.Linked.keep {d d' : Dossier} (h : d.Linked)
    (orders : ∀ order' ∈ d'.orders, ∃ order ∈ d.orders, order.id = order'.id)
    (events : d'.events = d.events) (refusals : d'.refusals = []) : d'.Linked := by
  refine ⟨events ▸ h.opening, events ▸ h.chain, ?_, by rw [refusals]; simp⟩
  intro e he order' horder
  obtain ⟨order, hmem, hid⟩ := orders order' horder
  rw [← hid]
  exact h.own e (events ▸ he) order hmem

/-- **The events of every dossier hang together**, by induction on the life of
its order. -/
theorem Saga.linked {p : Phase} {d : Dossier} (h : Saga p d) : d.Linked := by
  induction h with
  | absent => exact ⟨by simp [Dossier.events], .nil, by simp, by simp⟩
  | @placed order items correlationId id at' =>
      refine ⟨?_, .singleton _, ?_, by simp⟩
      · intro e he
        obtain rfl : _ = e := by simpa [Dossier.events] using he
        exact ⟨rfl, rfl⟩
      · intro e he order' horder
        obtain rfl : e = _ := by simpa [Dossier.events] using he
        obtain rfl : order' = order := by simpa using horder
        exact ⟨rfl, rfl⟩
  | @refused order items e refusals before nonempty shape ih =>
      refine ⟨ih.opening, ih.chain, ih.own, ?_⟩
      intro r hr a ha
      obtain rfl : e = a := by simpa [Dossier.events] using ha
      obtain ⟨reason, id, at', -, rfl⟩ := shape r hr
      have htype := (ih.opening e rfl).type
      exact causedBy_followUp (by rw [htype]; decide)
        (ih.own e (by simp [Dossier.events]) order (by simp)) rfl
  | reserved before _ ih => exact ih.extend before rfl rfl (by decide) rfl rfl rfl rfl
  | authorized before _ _ _ _ ih => exact ih.extend before rfl rfl (by decide) rfl rfl rfl rfl
  | invoiced before _ _ _ _ ih => exact ih.extend before rfl rfl (by decide) rfl rfl rfl rfl
  | notified before _ _ _ _ ih => exact ih.extend before rfl rfl (by decide) rfl rfl rfl rfl
  | completed before ih => exact ih.keep (by simp) rfl rfl
  | declined before _ _ _ _ ih => exact ih.extend before rfl rfl (by decide) rfl rfl rfl rfl
  | released before _ ih => exact ih.extend before rfl rfl (by decide) rfl rfl rfl rfl
  | cancelled before ih => exact ih.keep (by simp) rfl rfl

/-! ## §2. The chain in the outbox. -/

/-- The events of an order in the outbox, refusals aside. -/
def Database.storyOf (id : String) (db : Database) : List OutboxEvent :=
  db.outboxEvents.filter fun event => event.aggregateId = id && !event.isRefusal

theorem mem_storyOf {db : Database} {id : String} {event : OutboxEvent} :
    event ∈ db.storyOf id
      ↔ event ∈ db.outboxEvents ∧ event.aggregateId = id ∧ event.isRefusal = false := by
  unfold Database.storyOf
  rw [List.mem_filter]
  simp

theorem events_dossier (id : String) (db : Database) :
    (db.dossier id).events = (db.storyOf id).map OutboxEvent.entry := by
  show ((db.storyOf id).map _).map _ = _
  rw [List.map_map]
  rfl

/-- Delivery bookkeeping says nothing about causes. -/
theorem causedBy_of_entry {event cause : OutboxEvent} (h : event.entry.CausedBy cause.entry) :
    event.CausedBy cause :=
  ⟨h.id, h.type, h.aggregate, h.correlation, h.order, h.sameOrder⟩

theorem opens_of_entry {event : OutboxEvent} (h : event.entry.Opens) : event.Opens :=
  ⟨h.type, h.uncaused⟩

/-- The story of an order begins with its `OrderCreated` event and is a chain
of causes. -/
theorem Saga.story {p : Phase} {db : Database} {id : String} (h : Saga p (db.dossier id)) :
    (db.storyOf id).IsChain (fun cause e => e.CausedBy cause)
      ∧ ∀ e ∈ (db.storyOf id).head?, e.Opens := by
  obtain ⟨opening, chain, -, -⟩ := h.linked
  rw [events_dossier] at opening chain
  constructor
  · rw [List.isChain_map] at chain
    exact chain.imp fun _ _ h => causedBy_of_entry h
  · intro e he
    refine opens_of_entry (opening e.entry ?_)
    rw [List.head?_map, Option.mem_def.mp he]
    rfl

/-- An order that exists has a first event. -/
theorem Saga.story_cons {p : Phase} {db : Database} {id : String} (h : Saga p (db.dossier id))
    (hp : p ≠ .absent) : ∃ root rest, db.storyOf id = root :: rest := by
  have htrail := h.trail_eq
  cases hs : db.storyOf id with
  | cons root rest => exact ⟨root, rest, rfl⟩
  | nil =>
      have hnil : (db.dossier id).trail = [] := by
        show (db.storyOf id).map _ = []
        rw [hs]
        rfl
      rw [hnil] at htrail
      cases p <;> first | exact absurd rfl hp | exact nomatch htrail

/-- The events one step of `causation_id` leads to. -/
def Database.Stems (db : Database) (event cause : OutboxEvent) : Prop :=
  cause ∈ db.outboxEvents ∧ event.CausedBy cause

/-- **Every event stems from the first event of its order.** -/
theorem SagaInv.rooted {db : Database} (inv : SagaInv db) {event : OutboxEvent}
    (mem : event ∈ db.outboxEvents) :
    ∃ root ∈ db.outboxEvents, root.Opens ∧ root.aggregateId = event.aggregateId
      ∧ Relation.ReflTransGen db.Stems event root := by
  obtain ⟨p, h⟩ := inv.dossiers event.aggregateId
  obtain ⟨chain, opening⟩ := h.story
  cases hr : event.isRefusal with
  | false =>
      have hin : event ∈ db.storyOf event.aggregateId := mem_storyOf.mpr ⟨mem, rfl, hr⟩
      cases hs : db.storyOf event.aggregateId with
      | nil => rw [hs] at hin; exact nomatch hin
      | cons root rest =>
          rw [hs] at chain opening hin
          have hroot : root ∈ db.storyOf event.aggregateId := by rw [hs]; simp
          obtain ⟨hmem, haggregate, -⟩ := mem_storyOf.mp hroot
          refine ⟨root, hmem, opening root rfl, haggregate, ?_⟩
          have hstep : ∀ x y, y ∈ root :: rest ∧ x.CausedBy y → db.Stems x y := by
            rintro x y ⟨hy, hcaused⟩
            rw [← hs] at hy
            exact ⟨(mem_storyOf.mp hy).1, hcaused⟩
          exact Relation.ReflTransGen.mono hstep event root (reaches_head chain event hin)
  | true =>
      have hrefusal := mem_refusals mem hr
      have hp : p ≠ .absent := by
        rintro rfl
        rw [h.refusals_eq_nil (by simp)] at hrefusal
        exact nomatch hrefusal
      obtain ⟨root, rest, hs⟩ := h.story_cons hp
      have hroot : root ∈ db.storyOf event.aggregateId := by rw [hs]; simp
      obtain ⟨hmem, haggregate, -⟩ := mem_storyOf.mp hroot
      rw [hs] at opening
      refine ⟨root, hmem, opening root rfl, haggregate, .single ⟨hmem, causedBy_of_entry ?_⟩⟩
      refine h.linked.refusals event.entry hrefusal root.entry ?_
      rw [events_dossier, hs]
      rfl

/-- Every event opens an order or was caused by an event of the outbox. -/
theorem SagaInv.caused {db : Database} (inv : SagaInv db) {event : OutboxEvent}
    (mem : event ∈ db.outboxEvents) :
    event.Opens ∨ ∃ cause ∈ db.outboxEvents, event.CausedBy cause := by
  obtain ⟨root, -, hopens, -, hpath⟩ := inv.rooted mem
  rcases Relation.ReflTransGen.cases_head hpath with rfl | ⟨cause, ⟨hmem, hcaused⟩, -⟩
  · exact .inl hopens
  · exact .inr ⟨cause, hmem, hcaused⟩

/-! ## §3. At most one refusal is alive. -/

/-- A refusal of the order that was not given up. -/
def OutboxEvent.refuses (id : String) (event : OutboxEvent) : Bool :=
  event.aggregateId = id && event.isRefusal && event.status ≠ .FAILED

/-- A dead letter of the order that can still be replayed. -/
def DeadLetterEvent.waits (id : String) (row : DeadLetterEvent) : Bool :=
  row.aggregateId = id && row.replayedAt.isNone

/-- The refusals of an order that can still be delivered, now or after a
replay. -/
def Database.alive (id : String) (db : Database) : Nat :=
  db.outboxEvents.countP (·.refuses id) + db.deadLetters.countP (·.waits id)

def Database.Unrivalled (db : Database) : Prop := ∀ id, db.alive id ≤ 1

/-- An order that was not refused has nothing alive. -/
theorem alive_of_placed {db : Database} (inv : SagaInv db) {id : String} {p : Phase}
    (h : Saga p (db.dossier id)) (hp : p ≠ .refused) : db.alive id = 0 := by
  have hnone : ∀ event ∈ db.outboxEvents, event.aggregateId = id → event.isRefusal = false := by
    intro event mem haggregate
    by_contra hr
    have hmem := mem_refusals mem (by simpa using hr)
    rw [haggregate, h.refusals_eq_nil hp] at hmem
    exact nomatch hmem
  have hevents : db.outboxEvents.countP (·.refuses id) = 0 := by
    rw [List.countP_eq_zero]
    intro event mem halive
    simp only [OutboxEvent.refuses, Bool.and_eq_true, decide_eq_true_eq] at halive
    rw [hnone event mem halive.1.1] at halive
    exact nomatch halive.1.2
  have hletters : db.deadLetters.countP (·.waits id) = 0 := by
    rw [List.countP_eq_zero]
    intro row mem halive
    simp only [DeadLetterEvent.waits, Bool.and_eq_true, decide_eq_true_eq] at halive
    obtain ⟨event, hevent, hr, hdraft⟩ := inv.deadLetters row mem
    have haggregate : event.aggregateId = id := (congrArg EventDraft.aggregateId hdraft).trans halive.1
    rw [hnone event hevent haggregate] at hr
    exact nomatch hr
  unfold Database.alive
  omega

/-- What a handler emits: no refusal, or the refusal of the order whose
`OrderCreated` event it was handed. -/
theorem Handled.emits {db db' : Database} (inv : SagaInv db) {event : OutboxEvent}
    {envelope : EventEnvelope} {consumer : String} (mem : event ∈ db.outboxEvents)
    (valid : envelopeFromOutboxEvent event = .ok envelope)
    (routed : consumer? event.eventType = some consumer)
    (fresh : db.processed consumer event.eventId = false) (h : Handled envelope db db') :
    ∃ new, db'.outboxEvents = db.outboxEvents ++ new
      ∧ ((∀ e ∈ new, e.isRefusal = false)
        ∨ ∃ e, new = [e] ∧ e.aggregateId = event.aggregateId
            ∧ Saga .placed (db.dossier event.aggregateId)) := by
  cases h with
  | reserved => rw [moveAll_eq]; exact ⟨[_], rfl, .inl (by simp [EventDraft.row]; rfl)⟩
  | @refused orderId lines reason id at' type order items stocks id_ne =>
      have hf : Facing db event consumer envelope .placed :=
        inv.facing mem valid routed fresh type rfl
      obtain ⟨o, rows, hd, -, correlationId, hp⟩ := hf.saga.placed_inv hf.front
      have hpay := hf.payload.trans hp
      obtain rfl : o.id = orderId := strItem_unique (by rw [hpay]; rfl) order
      exact ⟨[_], rfl, .inr ⟨_, rfl, order_id_eq hd, hf.saga⟩⟩
  | @paid orderId payment =>
      refine ⟨[_], rfl, .inl fun e he => ?_⟩
      rw [List.mem_singleton.mp he]
      unfold paymentDraft
      split <;> rfl
  | invoiced => exact ⟨[_], rfl, .inl (by simp [EventDraft.row]; rfl)⟩
  | notified => exact ⟨[_], rfl, .inl (by simp [EventDraft.row]; rfl)⟩
  | completed => exact ⟨[], (List.append_nil _).symm, .inl (by simp)⟩
  | released => rw [moveAll_eq]; exact ⟨[_], rfl, .inl (by simp [EventDraft.row]; rfl)⟩
  | cancelled => exact ⟨[], (List.append_nil _).symm, .inl (by simp)⟩

/-- Appended events count in addition. -/
theorem alive_append {db db' : Database} {new : List OutboxEvent}
    (outbox : db'.outboxEvents = db.outboxEvents ++ new)
    (letters : db'.deadLetters = db.deadLetters) (id : String) :
    db'.alive id = db.alive id + new.countP (·.refuses id) := by
  unfold Database.alive
  rw [outbox, letters, List.countP_append]
  omega

/-- Delivery bookkeeping on an event with the same standing before and after. -/
theorem alive_updateOutboxEvent {db : Database} (keyed : (db.outboxEvents.map (·.eventId)).Nodup)
    {event : OutboxEvent} (mem : event ∈ db.outboxEvents) {f : OutboxEvent → OutboxEvent}
    (id : String) :
    (db.updateOutboxEvent event.eventId f).alive id + (if event.refuses id then 1 else 0)
      = db.alive id + (if (f event).refuses id then 1 else 0) := by
  have hcount := countP_update (f := f) (p := fun e => e.refuses id) keyed mem rfl
  unfold Database.alive
  show (update (·.eventId) event.eventId f db.outboxEvents).countP _ + _ + _ = _
  show _ + db.deadLetters.countP _ + _ = _
  omega

theorem refuses_of_not {event : OutboxEvent} (h : event.isRefusal = false) (id : String) :
    event.refuses id = false := by
  unfold OutboxEvent.refuses
  rw [h, Bool.and_false, Bool.false_and]

/-- A publication is no refusal's. -/
theorem Publish.unrivalled {call : Call} {db db' : Database} (inv : SagaInv db)
    (h : db.Unrivalled) (hp : Publish call db db') : db'.Unrivalled := by
  cases hp with
  | @published event consumer policy paymentFails publishedAt called mem pending routed =>
      intro id
      have hcount := alive_updateOutboxEvent inv.keyed.outboxEvents mem
        (f := (·.published publishedAt)) id
      -- a routed event is no refusal, so no count changes
      have hnot := not_refusal_of_routed routed
      have hafter : (event.published publishedAt).refuses id = false := by
        have hnot' : (event.published publishedAt).isRefusal = false := hnot
        exact refuses_of_not hnot' id
      rw [refuses_of_not hnot, hafter] at hcount
      have hid := h id
      omega

/-- A recorded failure of a refusal leaves it alive, or its dead letter in its
place. -/
theorem alive_attemptFailed {db : Database} (keyed : (db.outboxEvents.map (·.eventId)).Nodup)
    {event : OutboxEvent} (mem : event ∈ db.outboxEvents) (pending : event.status = .PENDING)
    (refusal : event.isRefusal = true) (handlers : HandlerMap) (policy : RetryPolicy)
    (error : String) (stamp : FailureStamp) (id : String) :
    (db.attemptFailed handlers policy event error stamp).alive id = db.alive id := by
  have hbefore : event.refuses id = decide (event.aggregateId = id) := by
    unfold OutboxEvent.refuses
    rw [refusal, pending]
    simp
  unfold Database.attemptFailed
  split
  · -- the last attempt: the dead letter waits in the place of the event
    have hcount := countP_update (f := (·.failed error)) (p := fun e => e.refuses id) keyed mem rfl
    have hafter : (event.failed error).refuses id = false := by
      simp [OutboxEvent.refuses, OutboxEvent.failed]
    have hletter : (event.deadLetter stamp.deadLetterId (consumerNameForFailure event.eventType
        handlers) (db.failureNumber handlers event) error stamp.failedAt).waits id
        = decide (event.aggregateId = id) := by
      simp [DeadLetterEvent.waits, OutboxEvent.deadLetter]
      rfl
    unfold Database.alive
    show (update (·.eventId) event.eventId _ db.outboxEvents).countP _
      + (db.deadLetters ++ [_]).countP _ = _
    rw [List.countP_append, List.countP_singleton, hletter]
    rw [hafter, hbefore] at hcount
    simp only [Bool.false_eq_true, if_false, Nat.add_zero] at hcount
    omega
  · -- the event is retried and stays PENDING
    have hcount := alive_updateOutboxEvent keyed mem
      (f := (·.retried error (stamp.failedAt + policy.delay
        (db.failureNumber handlers event)))) id
    have hafter : (event.retried error (stamp.failedAt + policy.delay
        (db.failureNumber handlers event))).refuses id = event.refuses id := by
      simp [OutboxEvent.refuses, OutboxEvent.retried, OutboxEvent.isRefusal, pending]
      rfl
    rw [hafter] at hcount
    have hsame : ((db.addAttempt (db.failureAttempt handlers event error stamp)).updateOutboxEvent
        event.eventId (·.retried error (stamp.failedAt + policy.delay
          (db.failureNumber handlers event)))).alive id
        = (db.updateOutboxEvent event.eventId (·.retried error (stamp.failedAt
            + policy.delay (db.failureNumber handlers event)))).alive id := rfl
    rw [hsame]
    omega

/-- A replay puts a live refusal in the place of its dead letter. -/
theorem alive_replayed {db : Database} (keyed : (db.deadLetters.map (·.id)).Nodup)
    {row : DeadLetterEvent} (mem : row ∈ db.deadLetters) (once : row.replayedAt = none)
    (refusal : row.draft.eventType = refusalType) (eventId : String)
    (occurredAt replayedAt : DateTime) (id : String) :
    ((db.addOutboxEvent (row.draft.row eventId occurredAt)).updateDeadLetter row.id
      (·.replayed replayedAt)).alive id = db.alive id := by
  have hcount := countP_update (f := (·.replayed replayedAt)) (p := fun r => r.waits id) keyed mem
    rfl
  have hbefore : row.waits id = decide (row.aggregateId = id) := by
    simp [DeadLetterEvent.waits, once]
  have hafter : (row.replayed replayedAt).waits id = false := by
    simp [DeadLetterEvent.waits, DeadLetterEvent.replayed]
  -- the new event counts for what the dead letter counted
  have hnew : (row.draft.row eventId occurredAt).refuses id = decide (row.aggregateId = id) := by
    have hisRefusal : (row.draft.row eventId occurredAt).isRefusal = true :=
      decide_eq_true refusal
    unfold OutboxEvent.refuses
    rw [hisRefusal]
    simp [EventDraft.row, DeadLetterEvent.draft]
    rfl
  unfold Database.alive
  show (db.outboxEvents ++ [_]).countP _ + (update (·.id) row.id _ db.deadLetters).countP _ = _
  rw [List.countP_append, List.countP_singleton, hnew]
  rw [hafter, hbefore] at hcount
  simp only [Bool.false_eq_true, if_false, Nat.add_zero] at hcount
  omega

/-- **The step lemma**: every commit keeps at most one refusal alive. -/
theorem commit_unrivalled {call : Call} {db db' : Database} (inv : SagaInv db)
    (h : db.Unrivalled) (hc : Commit call db db') : db'.Unrivalled := by
  cases hc with
  | stocked => exact h
  | @ordered payload order items new called placed keyed =>
      obtain ⟨lines, correlationId, eventId, occurredAt, -, -, -, -, -, hnew⟩ := placed.event
      intro id
      -- an OrderCreated event is no refusal
      have hrefusal : new.isRefusal = false := by
        rw [hnew]
        rfl
      have houtbox : ((db.addOrder order items).addOutboxEvent new).outboxEvents
          = db.outboxEvents ++ [new] := rfl
      have halive := alive_append houtbox rfl id
      rw [List.countP_singleton, refuses_of_not hrefusal] at halive
      have hid := h id
      simp only [Bool.false_eq_true, if_false] at halive
      omega
  | @handled event envelope consumer policy paymentFails db₁ processedAt called mem pending valid
      routed fresh handled keyed =>
      obtain ⟨new, houtbox, hemits⟩ := handled.emits inv mem valid routed fresh
      intro id
      have halive : (db₁.addInboxEvent ⟨consumer, event.eventId, processedAt⟩).alive id
          = db.alive id + new.countP (·.refuses id) :=
        alive_append houtbox handled.outbox.2.2 id
      have hid := h id
      -- a refusal is emitted for an order that had no other event
      rcases hemits with hnot | ⟨e, rfl, haggregate, hplaced⟩
      · have hzero : new.countP (·.refuses id) = 0 := by
          rw [List.countP_eq_zero]
          intro e he
          rw [refuses_of_not (hnot e he)]
          exact Bool.false_ne_true
        omega
      · rw [List.countP_singleton] at halive
        by_cases haid : event.aggregateId = id
        · have hnone := alive_of_placed inv hplaced (by simp)
          rw [haid] at hnone
          split at halive <;> omega
        · have hother : e.refuses id = false := by
            unfold OutboxEvent.refuses
            rw [haggregate, decide_eq_false haid, Bool.false_and, Bool.false_and]
          rw [hother] at halive
          simp only [Bool.false_eq_true, if_false] at halive
          omega
  | published hp => exact hp.unrivalled inv h
  | @attempted event policy paymentFails error stamp called mem pending unrouted keyed =>
      have refusal : event.isRefusal = true := by
        rcases (inv.event mem).2 with hr | ⟨consumer, hr⟩
        · exact hr
        · rw [unrouted] at hr
          exact nomatch hr
      intro id
      rw [alive_attemptFailed inv.keyed.outboxEvents mem pending refusal]
      exact h id
  | @replayed row id occurredAt replayedAt called mem once id_ne keyed =>
      obtain ⟨event, hevent, hr, hdraft⟩ := inv.deadLetters row mem
      have htype : row.draft.eventType = refusalType := by
        rw [← hdraft]
        exact of_decide_eq_true hr
      intro id'
      rw [alive_replayed inv.keyed.deadLetters mem once htype]
      exact h id'

/-! ## §4. Provenance of the log. -/

/-- Two events with one cause are the same, or refusals of one order. -/
theorem SagaInv.siblings {db : Database} (inv : SagaInv db) {a b : OutboxEvent}
    (ha : a ∈ db.outboxEvents) (hb : b ∈ db.outboxEvents) {id : String}
    (hca : a.causationId = some id) (hcb : b.causationId = some id) :
    a = b ∨ a.isRefusal = true ∧ b.isRefusal = true ∧ b.aggregateId = a.aggregateId := by
  -- both were caused by the same event, so they belong to one order
  have hcause : ∀ e ∈ db.outboxEvents, e.causationId = some id →
      ∃ cause ∈ db.outboxEvents, cause.eventId = id ∧ e.aggregateId = cause.aggregateId := by
    intro e he hid
    rcases inv.caused he with hopens | ⟨cause, hmem, hcaused⟩
    · rw [hopens.uncaused] at hid
      exact nomatch hid
    · exact ⟨cause, hmem, Option.some.inj (hcaused.id.symm.trans hid), hcaused.aggregate⟩
  obtain ⟨cause, hmem, hid, haggregate⟩ := hcause a ha hca
  obtain ⟨cause', hmem', hid', haggregate'⟩ := hcause b hb hcb
  obtain rfl : cause' = cause := row_unique inv.keyed.outboxEvents hmem' hmem (hid'.trans hid.symm)
  have hsame : b.aggregateId = a.aggregateId := haggregate'.trans haggregate.symm
  obtain ⟨p, h⟩ := inv.dossiers a.aggregateId
  obtain ⟨chain, opening⟩ := h.story
  have hkeys : ((db.storyOf a.aggregateId).map (·.eventId)).Nodup :=
    (List.filter_sublist.map _).nodup inv.keyed.outboxEvents
  -- an event of the story whose order was refused is the first one
  have hfirst : ∀ e ∈ db.storyOf a.aggregateId, ∀ r ∈ db.outboxEvents, r.isRefusal = true →
      r.aggregateId = a.aggregateId → e.causationId = none := by
    intro e he r hr href hagg
    have hrefusal := mem_refusals hr href
    rw [hagg] at hrefusal
    have hp : p = .refused := by
      by_contra hne
      rw [h.refusals_eq_nil hne] at hrefusal
      exact nomatch hrefusal
    subst hp
    have htrail := h.trail_eq
    have hlen : (db.storyOf a.aggregateId).length = 1 := by
      have hlength := congrArg List.length htrail
      rw [List.length_map] at hlength
      have hmap : (db.dossier a.aggregateId).trail.length = (db.storyOf a.aggregateId).length :=
        List.length_map _
      rw [hmap] at hlength
      exact hlength
    obtain ⟨first, hs⟩ := List.length_eq_one_iff.mp hlen
    rw [hs] at he opening
    rw [List.mem_singleton.mp he]
    exact (opening first rfl).uncaused
  cases hra : a.isRefusal with
  | false =>
      have hina : a ∈ db.storyOf a.aggregateId := mem_storyOf.mpr ⟨ha, rfl, hra⟩
      cases hrb : b.isRefusal with
      | false =>
          exact .inl <| origin_injective chain (·.eventId) (·.causationId) (fun _ _ h => h.id) hkeys
            (fun e he => (opening e he).uncaused) hina (mem_storyOf.mpr ⟨hb, hsame, hrb⟩) hca hcb
      | true =>
          rw [hfirst a hina b hb hrb hsame] at hca
          exact nomatch hca
  | true =>
      cases hrb : b.isRefusal with
      | false =>
          rw [hfirst b (mem_storyOf.mpr ⟨hb, hsame, hrb⟩) a ha hra rfl] at hcb
          exact nomatch hcb
      | true => exact .inr ⟨rfl, rfl, hsame⟩

/-- **No branching**: of two events with one cause, one FAILED. -/
theorem SagaInv.lone {db : Database} (inv : SagaInv db) (unrivalled : db.Unrivalled)
    {a b : OutboxEvent} (ha : a ∈ db.outboxEvents) (hb : b ∈ db.outboxEvents) {id : String}
    (hca : a.causationId = some id) (hcb : b.causationId = some id)
    (hsa : a.status ≠ .FAILED) (hsb : b.status ≠ .FAILED) : a = b := by
  rcases inv.siblings ha hb hca hcb with hab | ⟨hra, hrb, hsame⟩
  · exact hab
  · -- two live refusals of one order
    have hcount : (db.outboxEvents.filter (·.refuses a.aggregateId)).length ≤ 1 := by
      rw [← List.countP_eq_length_filter]
      have hone := unrivalled a.aggregateId
      unfold Database.alive at hone
      omega
    have hina : a ∈ db.outboxEvents.filter (·.refuses a.aggregateId) :=
      List.mem_filter.mpr ⟨ha, by simp [OutboxEvent.refuses, hra, hsa]⟩
    have hinb : b ∈ db.outboxEvents.filter (·.refuses a.aggregateId) :=
      List.mem_filter.mpr ⟨hb, by simp [OutboxEvent.refuses, hrb, hsame, hsb]⟩
    exact eq_of_mem_of_length_le_one hcount hina hinb

/-- The event log tells where everything comes from. -/
structure Database.Provenance (db : Database) : Prop where
  caused : ∀ event ∈ db.outboxEvents,
    event.Opens ∨ ∃ cause ∈ db.outboxEvents, event.CausedBy cause
  rooted : ∀ event ∈ db.outboxEvents, ∃ root ∈ db.outboxEvents, root.Opens
    ∧ root.aggregateId = event.aggregateId ∧ Relation.ReflTransGen db.Stems event root
  lone : ∀ a ∈ db.outboxEvents, ∀ b ∈ db.outboxEvents, ∀ id, a.causationId = some id →
    b.causationId = some id → a.status ≠ .FAILED → b.status ≠ .FAILED → a = b

/-- **Causal provenance**: in every reachable state every event opens its
order or has its cause in the outbox, following the causes ends at the event
its order opened with, and no event has two children that did not fail. -/
theorem provenance (arrivals : List Arrival) :
    (arriveAll arrivals Database.empty).Provenance := by
  obtain ⟨inv, unrivalled⟩ := arrivals_keep (P := Database.Unrivalled) (C := fun _ => True)
    (fun _ _ h => h) (fun _ _ _ _ inv h hc => commit_unrivalled inv h hc) arrivals
    (fun _ _ => trivial) stocked_empty.inv (fun id => Nat.zero_le 1)
  exact ⟨fun event mem => inv.caused mem, fun event mem => inv.rooted mem,
    fun a ha b hb id hca hcb hsa hsb => inv.lone unrivalled ha hb hca hcb hsa hsb⟩

end EventCart
