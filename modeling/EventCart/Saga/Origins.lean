/-
  EventCart.Saga.Origins
  ──────────────────────
  **WHAT AN ORDER BEGAN WITH STAYS WITH IT.**

  The outbox is a log: commits append to it, and what an event said when it
  was inserted (`entry`) is never written again.  Every event of an order
  stems from the one `OrderCreated` event, and inherits two things from it
  that matter outside: the correlation ID and the lines the order is charged
  for.

    §1  the log only grows;
    §2  one root, and one correlation ID, for each order;
    §3  the lines in the payloads of an order.
-/
import EventCart.Saga.Provenance

namespace EventCart

open EventCart.Lib

/-! ## §1. The log. -/

/-- The events of the outbox without their delivery bookkeeping. -/
def Database.log (db : Database) : List OutboxEvent := db.outboxEvents.map OutboxEvent.entry

theorem log_updateOutboxEvent (eventId : String) {f : OutboxEvent → OutboxEvent}
    (hf : ∀ event, (f event).entry = event.entry) (db : Database) :
    (db.updateOutboxEvent eventId f).log = db.log :=
  map_update_of_eq (fun event _ => hf event) _

theorem log_attemptFailed (handlers : HandlerMap) (policy : RetryPolicy) (event : OutboxEvent)
    (error : String) (stamp : FailureStamp) (db : Database) :
    (db.attemptFailed handlers policy event error stamp).log = db.log := by
  unfold Database.attemptFailed
  split
  · exact log_updateOutboxEvent event.eventId (f := (·.failed error)) (fun _ => rfl) _
  · exact log_updateOutboxEvent event.eventId (f := (·.retried error _)) (fun _ => rfl) _

theorem log_append {db db' : Database} (new : List OutboxEvent)
    (outbox : db'.outboxEvents = db.outboxEvents ++ new) : db.log <+: db'.log := by
  unfold Database.log
  rw [outbox, List.map_append]
  exact List.prefix_append _ _

/-- **The step lemma**: a commit appends to the log. -/
theorem Commit.log_prefix {call : Call} {db db' : Database} (h : Commit call db db') :
    db.log <+: db'.log := by
  cases h with
  | stocked => exact List.prefix_refl _
  | ordered => exact log_append [_] rfl
  | handled called mem pending valid routed fresh handled =>
      obtain ⟨⟨new, outbox, -⟩, -⟩ := handled.outbox
      exact log_append new outbox
  | published h =>
      cases h with
      | @published event _ _ _ publishedAt =>
          have hsame := log_updateOutboxEvent event.eventId (f := (·.published publishedAt))
            (fun _ => rfl) db
          exact hsame ▸ List.prefix_refl _
  | @attempted event policy paymentFails error stamp =>
      have hsame := log_attemptFailed (sagaHandlers paymentFails) policy event error stamp db
      exact hsame ▸ List.prefix_refl _
  | replayed => exact log_append [_] rfl

/-- **The run lemma**: arrivals append to the log. -/
theorem arriveAll_log (arrivals : List Arrival) {db : Database} (inv : SagaInv db) :
    db.log <+: (arriveAll arrivals db).log :=
  (arrivals_keep (P := fun db' => db.log <+: db'.log) (C := fun _ => True) (fun _ _ h => h)
    (fun _ _ _ _ _ h hc => h.trans hc.log_prefix) arrivals (fun _ _ => trivial) inv
    (List.prefix_refl _)).2

/-- What an event said stays in the outbox. -/
theorem arriveAll_entry (arrivals : List Arrival) {db : Database} (inv : SagaInv db)
    {event : OutboxEvent} (mem : event ∈ db.outboxEvents) :
    ∃ event' ∈ (arriveAll arrivals db).outboxEvents, event'.entry = event.entry :=
  List.mem_map.mp ((arriveAll_log arrivals inv).subset (List.mem_map_of_mem mem))

/-! ## §2. One root. -/

/-- An event that opens an order is the first of its story. -/
theorem SagaInv.story_of_opens {db : Database} (inv : SagaInv db) {root : OutboxEvent}
    (mem : root ∈ db.outboxEvents) (opens : root.Opens) :
    ∃ rest, db.storyOf root.aggregateId = root :: rest := by
  obtain ⟨p, h⟩ := inv.dossiers root.aggregateId
  obtain ⟨chain, -⟩ := h.story
  have hstory : root ∈ db.storyOf root.aggregateId := by
    exact mem_storyOf.mpr ⟨mem, rfl, isRefusal_of_ne (by rw [opens.type]; decide)⟩
  cases hs : db.storyOf root.aggregateId with
  | nil =>
      rw [hs] at hstory
      cases hstory
  | cons first rest =>
      rw [hs] at chain hstory
      -- following the causes from the root leads to the first event at once
      rcases Relation.ReflTransGen.cases_head (reaches_head chain root hstory) with
        hroot | ⟨cause, ⟨-, caused⟩, -⟩
      · exact ⟨rest, by rw [hroot]⟩
      · have hnone := opens.uncaused
        rw [caused.id] at hnone
        cases hnone

/-- **An order is opened once.** -/
theorem SagaInv.root_unique {db : Database} (inv : SagaInv db) {a b : OutboxEvent}
    (ha : a ∈ db.outboxEvents) (hb : b ∈ db.outboxEvents) (opensA : a.Opens) (opensB : b.Opens)
    (same : a.aggregateId = b.aggregateId) : a = b := by
  obtain ⟨restA, hsa⟩ := inv.story_of_opens ha opensA
  obtain ⟨restB, hsb⟩ := inv.story_of_opens hb opensB
  rw [same, hsb, List.cons.injEq] at hsa
  exact hsa.1.symm

/-- Causes hand the correlation ID on. -/
theorem correlationId_of_stems {db : Database} {event root : OutboxEvent}
    (h : Relation.ReflTransGen db.Stems event root) :
    event.correlationId = root.correlationId := by
  induction h with
  | refl => rfl
  | tail _ stems ih => exact ih.trans stems.2.correlation

/-- **Every event of an order carries the correlation ID it was opened
with.** -/
theorem SagaInv.correlationId_eq {db : Database} (inv : SagaInv db) {event root : OutboxEvent}
    (mem : event ∈ db.outboxEvents) (hroot : root ∈ db.outboxEvents) (opens : root.Opens)
    (same : event.aggregateId = root.aggregateId) :
    event.correlationId = root.correlationId := by
  obtain ⟨first, hfirst, hopens, haggregate, hpath⟩ := inv.rooted mem
  obtain rfl : first = root := inv.root_unique hfirst hroot hopens opens (haggregate.trans same)
  exact correlationId_of_stems hpath

/-! ## §3. The lines of an order. -/

/-- The event types whose payloads an amount is computed from. -/
def amountTypes : List String := ["OrderCreated", "InventoryReserved"]

/-- These payloads carry the lines of the order. -/
def Dossier.Itemized (d : Dossier) : Prop :=
  ∀ e ∈ d.events, e.eventType ∈ amountTypes →
    e.payload.get? "items" = some (itemsJson (linesOf d.items))

/-- A step appends at most one event, and keeps the lines. -/
theorem Dossier.Itemized.extend {d d' : Dossier} {new : OutboxEvent} (h : d.Itemized)
    (items : d'.items = d.items) (events : d'.events = d.events ++ [new])
    (hnew : new.eventType ∈ amountTypes →
      new.payload.get? "items" = some (itemsJson (linesOf d.items))) : d'.Itemized := by
  intro e he
  rw [items]
  rw [events, List.mem_append, List.mem_singleton] at he
  rcases he with he | rfl
  · exact h e he
  · exact hnew

/-- **The lines travel unchanged**, by induction on the life of the order. -/
theorem Saga.itemized {p : Phase} {d : Dossier} (h : Saga p d) : d.Itemized := by
  induction h with
  | absent => simp [Dossier.Itemized, Dossier.events]
  | placed =>
      intro e he _
      obtain rfl : e = _ := by simpa [Dossier.events] using he
      rfl
  | refused before _ _ ih => exact ih
  | reserved before _ ih => exact ih.extend rfl rfl fun _ => rfl
  | authorized before _ _ _ _ ih =>
      exact ih.extend rfl rfl fun h =>
        absurd (show "PaymentAuthorized" ∈ amountTypes from h) (by decide)
  | invoiced before _ _ _ _ ih =>
      exact ih.extend rfl rfl fun h =>
        absurd (show "InvoiceCreated" ∈ amountTypes from h) (by decide)
  | notified before _ _ _ _ ih =>
      exact ih.extend rfl rfl fun h =>
        absurd (show "NotificationSent" ∈ amountTypes from h) (by decide)
  | completed before ih => exact ih
  | declined before _ _ _ _ ih =>
      exact ih.extend rfl rfl fun h =>
        absurd (show "PaymentFailed" ∈ amountTypes from h) (by decide)
  | released before _ ih =>
      exact ih.extend rfl rfl fun h =>
        absurd (show "InventoryReleased" ∈ amountTypes from h) (by decide)
  | cancelled before ih => exact ih

/-- **The amount of an order is computed from its lines**, at its start and
at its reservation. -/
theorem SagaInv.amount_eq {db : Database} (inv : SagaInv db) {event : OutboxEvent}
    (mem : event ∈ db.outboxEvents) (type : event.eventType ∈ amountTypes) :
    event.payload.get? "items" = some (itemsJson (linesOf (db.itemsOf event.aggregateId)))
      ∧ amountCents event.payload = totalCents (db.itemsOf event.aggregateId) := by
  obtain ⟨p, h⟩ := inv.dossiers event.aggregateId
  have hrefusal : event.isRefusal = false := by
    apply isRefusal_of_ne
    intro heq
    rw [heq] at type
    exact absurd type (by decide)
  have hin : event.entry ∈ (db.dossier event.aggregateId).events := by
    rw [events_dossier]
    exact List.mem_map_of_mem (mem_storyOf.mpr ⟨mem, rfl, hrefusal⟩)
  have hitems := h.itemized event.entry hin type
  exact ⟨hitems, amountCents_of_get? hitems⟩

end EventCart
