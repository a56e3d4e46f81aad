/-
  EventCart.Saga.Reachable
  ────────────────────────
  **THE INVARIANT HOLDS IN EVERY REACHABLE STATE.**

  `commit_inv` is the step lemma, one case per kind of commit; `runCalls_inv`
  the run lemma.  A run starts from `Stocked` tables: an inventory and
  nothing else.
-/
import EventCart.Saga.Advance

namespace EventCart

open EventCart.Lib

/-! ## §1. Delivery bookkeeping. -/

section entry
variable {e e' : OutboxEvent} (h : e.entry = e'.entry)
include h

theorem draft_of_entry : e.draft = e'.draft := by
  show e.entry.draft = e'.entry.draft
  rw [h]

theorem eventType_of_entry : e.eventType = e'.eventType := by
  show e.entry.eventType = e'.entry.eventType
  rw [h]

theorem eventId_of_entry : e.eventId = e'.eventId := by
  show e.entry.eventId = e'.entry.eventId
  rw [h]

theorem isRefusal_of_entry : e.isRefusal = e'.isRefusal := by
  unfold OutboxEvent.isRefusal
  rw [eventType_of_entry h]

theorem consumed_of_entry (db : Database) : db.consumed e = db.consumed e' := by
  unfold Database.consumed
  rw [eventType_of_entry h, eventId_of_entry h]

end entry

/-- A row survives an update as a row with the same entry. -/
theorem exists_entry {rows : List OutboxEvent} {eventId : String}
    {f : OutboxEvent → OutboxEvent} (hf : ∀ event, (f event).entry = event.entry)
    {event : OutboxEvent} (mem : event ∈ rows) :
    ∃ event' ∈ update (·.eventId) eventId f rows, event'.entry = event.entry := by
  by_cases hid : event.eventId = eventId
  · exact ⟨f event, mem_update.mpr (.inl ⟨event, mem, hid, rfl⟩), hf event⟩
  · exact ⟨event, mem_update.mpr (.inr ⟨mem, hid⟩), rfl⟩

/-- **Bookkeeping on one event** keeps the tables filed, if it publishes only
a handled event and fails only a refusal. -/
theorem filed_updateOutboxEvent {db : Database} (filed : Filed db) {eventId : String}
    {f : OutboxEvent → OutboxEvent} (hf : ∀ event, (f event).entry = event.entry)
    (published : ∀ event ∈ db.outboxEvents, event.eventId = eventId →
      (f event).status = .PUBLISHED → db.consumed event = true)
    (failed : ∀ event ∈ db.outboxEvents, event.eventId = eventId →
      (f event).status = .FAILED → event.isRefusal = true) :
    Filed (db.updateOutboxEvent eventId f) where
  dossiers id := by
    rw [dossier_updateOutboxEvent id db eventId hf]
    exact filed.dossiers id
  inbox row hrow := by
    obtain ⟨event, mem, hid, hrouted⟩ := filed.inbox row hrow
    obtain ⟨event', mem', he⟩ := exists_entry hf mem
    exact ⟨event', mem', by rw [eventId_of_entry he, hid], by rw [eventType_of_entry he, hrouted]⟩
  published event mem hstatus := by
    rcases mem_update.mp mem with ⟨old, hold, hid, rfl⟩ | ⟨hold, -⟩
    · show db.consumed (f old) = true
      rw [consumed_of_entry (hf old)]
      exact published old hold hid hstatus
    · exact filed.published event hold hstatus
  failed event mem hstatus := by
    rcases mem_update.mp mem with ⟨old, hold, hid, rfl⟩ | ⟨hold, -⟩
    · rw [isRefusal_of_entry (hf old)]
      exact failed old hold hid hstatus
    · exact filed.failed event hold hstatus
  deadLetters row hrow := by
    obtain ⟨event, mem, href, hdraft⟩ := filed.deadLetters row hrow
    obtain ⟨event', mem', he⟩ := exists_entry hf mem
    exact ⟨event', mem', by rw [isRefusal_of_entry he, href], by rw [draft_of_entry he, hdraft]⟩
  onSale := filed.onSale

theorem filed_addAttempt {db : Database} (filed : Filed db) (row : EventProcessingAttempt) :
    Filed (db.addAttempt row) :=
  ⟨filed.dossiers, filed.inbox, filed.published, filed.failed, filed.deadLetters, filed.onSale⟩

theorem filed_addDeadLetter {db : Database} (filed : Filed db) {row : DeadLetterEvent}
    (h : ∃ event ∈ db.outboxEvents, event.isRefusal = true ∧ event.draft = row.draft) :
    Filed (db.addDeadLetter row) where
  dossiers := filed.dossiers
  inbox := filed.inbox
  published := filed.published
  failed := filed.failed
  deadLetters row' hrow := by
    rcases List.mem_append.mp hrow with hrow | hrow
    · exact filed.deadLetters row' hrow
    · rw [List.mem_singleton.mp hrow]
      exact h
  onSale := filed.onSale

theorem dossier_attemptFailed (handlers : HandlerMap) (policy : RetryPolicy)
    (event : OutboxEvent) (error : String) (stamp : FailureStamp) (id : String) (db : Database) :
    (db.attemptFailed handlers policy event error stamp).dossier id = db.dossier id := by
  unfold Database.attemptFailed
  split
  · rw [dossier_updateOutboxEvent _ _ _ (f := (·.failed error)) (fun _ => rfl)]
    rfl
  · rw [dossier_updateOutboxEvent _ _ _ (f := (·.retried error _)) (fun _ => rfl)]
    rfl

/-- A recorded failure of a refusal. -/
theorem filed_attemptFailed {db : Database} (filed : Filed db)
    (keyed : (db.outboxEvents.map (·.eventId)).Nodup) {event : OutboxEvent}
    (mem : event ∈ db.outboxEvents) (refusal : event.isRefusal = true) (handlers : HandlerMap)
    (policy : RetryPolicy) (error : String) (stamp : FailureStamp) :
    Filed (db.attemptFailed handlers policy event error stamp) := by
  have hsame : ∀ other ∈ db.outboxEvents, other.eventId = event.eventId → other = event :=
    fun other hother hid => row_unique keyed hother mem hid
  unfold Database.attemptFailed
  split
  · refine filed_updateOutboxEvent (filed_addDeadLetter (filed_addAttempt filed _)
      ⟨event, mem, refusal, rfl⟩) (fun _ => rfl) (fun _ _ _ h => nomatch h) ?_
    intro other hother hid _
    rw [hsame other hother hid]
    exact refusal
  · exact filed_updateOutboxEvent (filed_addAttempt filed _) (fun _ => rfl)
      (fun _ _ _ h => nomatch h) (fun _ _ _ h => nomatch h)

/-! ## §2. New events and new orders. -/

/-- **Growing tables**: PENDING events are appended, markers of known events
are added, dead letters keep what they carry. -/
theorem Filed.grow {db : Database} (filed : Filed db) (db' : Database) (new : List OutboxEvent)
    (outbox : db'.outboxEvents = db.outboxEvents ++ new)
    (pending : ∀ event ∈ new, event.status = .PENDING)
    (dossiers : ∀ id, ∃ p, Saga p (db'.dossier id))
    (inbox : ∀ row ∈ db'.inboxEvents, row ∈ db.inboxEvents ∨ ∃ event ∈ db.outboxEvents,
      event.eventId = row.eventId ∧ consumer? event.eventType = some row.consumerName)
    (kept : ∀ row ∈ db.inboxEvents, row ∈ db'.inboxEvents)
    (deadLetters : ∀ row ∈ db'.deadLetters, ∃ old ∈ db.deadLetters, row.draft = old.draft)
    (onSale : ∀ row ∈ db'.orderItems, row.sku ∈ db'.inventoryItems.map (·.sku)) :
    Filed db' where
  dossiers := dossiers
  inbox row hrow := by
    have hold : ∃ event ∈ db.outboxEvents, event.eventId = row.eventId
        ∧ consumer? event.eventType = some row.consumerName :=
      (inbox row hrow).elim (filed.inbox row) id
    obtain ⟨event, mem, h⟩ := hold
    exact ⟨event, outbox ▸ List.mem_append_left _ mem, h⟩
  published event mem hstatus := by
    rw [outbox] at mem
    rcases List.mem_append.mp mem with mem | mem
    · have hc := filed.published event mem hstatus
      unfold Database.consumed Database.processed at hc ⊢
      simp only [Option.any_eq_true, List.any_eq_true] at hc ⊢
      obtain ⟨consumer, hconsumer, row, hrow, hkey⟩ := hc
      exact ⟨consumer, hconsumer, row, kept row hrow, hkey⟩
    · rw [pending event mem] at hstatus
      exact nomatch hstatus
  failed event mem hstatus := by
    rw [outbox] at mem
    rcases List.mem_append.mp mem with mem | mem
    · exact filed.failed event mem hstatus
    · rw [pending event mem] at hstatus
      exact nomatch hstatus
  deadLetters row hrow := by
    obtain ⟨old, hold, hdraft⟩ := deadLetters row hrow
    obtain ⟨event, mem, href, he⟩ := filed.deadLetters old hold
    exact ⟨event, outbox ▸ List.mem_append_left _ mem, href, he.trans hdraft.symm⟩
  onSale := onSale

/-- A replay adds one more refusal to an order that has one already. -/
theorem saga_replayed {d : Dossier} {p : Phase} (h : Saga p d) {e new : OutboxEvent}
    {id : String} {occurredAt : DateTime} (mem : e ∈ d.refusals) (id_ne : id ≠ "")
    (hnew : new = e.draft.row id occurredAt) :
    Saga p { d with refusals := d.refusals ++ [new] } := by
  have hp : p = .refused := by
    by_contra hp
    rw [h.refusals_eq_nil hp] at mem
    exact nomatch mem
  subst hp
  cases h with
  | refused before nonempty shape =>
      refine .refused before (by simp) fun r hr => ?_
      rcases List.mem_append.mp hr with hr | hr
      · exact shape r hr
      · obtain ⟨reason, id', at', -, he⟩ := shape e mem
        rw [List.mem_singleton.mp hr, hnew, he]
        exact ⟨reason, id, occurredAt, id_ne, rfl⟩

theorem itemsJson_copies {orderId : String} {lines : List PricedLine}
    {items : List OrderItem} (h : List.Forall₂ (OrderItem.Copies orderId) lines items) :
    Json.arr (lines.map fun line => Json.obj (eventItem line)) = itemsJson (linesOf items) := by
  unfold itemsJson linesOf
  rw [List.map_map]
  congr 1
  induction h with
  | nil => rfl
  | @cons line row lines items hcopy _ ih =>
      obtain ⟨-, hsku, hquantity, hprice, hname⟩ := hcopy
      rw [List.map_cons, List.map_cons, ih]
      congr 1
      show Json.obj (eventItem line) = Json.obj row.line
      unfold eventItem OrderItem.line
      rw [hsku, hquantity, hprice, hname]

theorem forall₂_copies {orderId : String} {lines : List PricedLine} {items : List OrderItem}
    (h : List.Forall₂ (OrderItem.Copies orderId) lines items) :
    ∀ row ∈ items, ∃ line ∈ lines, OrderItem.Copies orderId line row := by
  induction h with
  | nil => simp
  | @cons line row lines items hcopy _ ih =>
      intro r hr
      rcases List.mem_cons.mp hr with rfl | hr
      · exact ⟨line, List.mem_cons_self, hcopy⟩
      · obtain ⟨line', hl, hc⟩ := ih r hr
        exact ⟨line', List.mem_cons_of_mem _ hl, hc⟩

/-- The identifier of a new order is in no dossier yet. -/
theorem dossier_absent {db : Database} (filed : Filed db) {id : String}
    (h : ∀ order ∈ db.orders, order.id ≠ id) : db.dossier id = ⟨[], [], [], [], [], [], []⟩ := by
  obtain ⟨p, hs⟩ := filed.dossiers id
  have hp : p = .absent := by
    by_contra hp
    obtain ⟨order, ho⟩ := hs.orders_of_ne hp
    obtain ⟨mem, hid⟩ := of_mem_orders (show order ∈ (db.dossier id).orders by rw [ho]; simp)
    exact h order mem hid
  subst hp
  generalize db.dossier id = d at hs
  cases hs
  rfl

/-- What `create_order` files: a dossier in phase `placed`, and no other
dossier changes. -/
structure Opened (db db' : Database) (order : Order) : Prop where
  saga : Saga .placed (db'.dossier order.id)
  fresh : ∀ other ∈ db.orders, other.id ≠ order.id
  orders : db'.orders = db.orders ++ [order]
  others : ∀ id, id ≠ order.id → db'.dossier id = db.dossier id

/-- **A new order opens a new dossier.** -/
theorem ordered_opened {db : Database} (filed : Filed db) {payload : OrderCreate} {order : Order}
    {items : List OrderItem} {new : OutboxEvent} (placed : Placed db payload order items new)
    (keyed : ((db.addOrder order items).addOutboxEvent new).Keyed) :
    Opened db ((db.addOrder order items).addOutboxEvent new) order := by
  obtain ⟨lines, correlationId, eventId, occurredAt, hfst, hfound, hcopies, hcorrelation, hevent,
    hnew⟩ := placed.event
  have hrows := forall₂_copies hcopies
  have howned : ∀ row ∈ items, row.orderId = order.id := fun row hrow => by
    obtain ⟨line, -, hcopy⟩ := hrows row hrow
    exact hcopy.1
  have hpositive : ∀ row ∈ items, 0 < row.quantity := fun row hrow => by
    obtain ⟨line, -, hcopy⟩ := hrows row hrow
    rw [hcopy.2.2.1]
    exact line.1.quantity_gt
  have hopening : new = (openingDraft order correlationId items).row eventId occurredAt := by
    rw [hnew]
    unfold orderCreatedDraft openingDraft
    rw [itemsJson_copies hcopies, placed.status]
    rfl
  have haggregate : new.aggregateId = order.id := by rw [hopening]; rfl
  have hids : ((db.orders ++ [order]).map (·.id)).Nodup := keyed.orders
  have hfresh : ∀ other ∈ db.orders, other.id ≠ order.id := fresh_of_nodup hids
  -- nobody can have consumed an event whose id is new
  have hconsumed : (db.addOrder order items).consumed new = false :=
    consumed_fresh (db.addOrder order items) filed.inbox
      (fresh_of_nodup (show ((db.outboxEvents ++ [new]).map _).Nodup from keyed.outboxEvents))
  refine ⟨?_, hfresh, rfl, fun id hid => ?_⟩
  · rw [dossier_addOutboxEvent_self haggregate (by rw [hopening]; rfl),
      dossier_addOrder_self rfl howned, dossier_absent filed hfresh, hconsumed, hopening]
    exact .placed placed.status placed.id_ne hcorrelation hevent hpositive
  · rw [dossier_addOutboxEvent_ne (by rw [haggregate]; exact Ne.symm hid),
      dossier_addOrder_ne (Ne.symm hid) howned]

theorem filed_ordered {db : Database} (filed : Filed db) {payload : OrderCreate} {order : Order}
    {items : List OrderItem} {new : OutboxEvent} (placed : Placed db payload order items new)
    (keyed : ((db.addOrder order items).addOutboxEvent new).Keyed) :
    Filed ((db.addOrder order items).addOutboxEvent new) := by
  have hopened := ordered_opened filed placed keyed
  obtain ⟨lines, correlationId, eventId, occurredAt, -, hfound, hcopies, -, -, hnew⟩ :=
    placed.event
  refine filed.grow ((db.addOrder order items).addOutboxEvent new) [new] rfl ?_ (fun id => ?_)
    (fun row hrow => .inl hrow) (fun row hrow => hrow) (fun row hrow => ⟨row, hrow, rfl⟩) ?_
  · intro event hevent
    rw [List.mem_singleton.mp hevent, hnew]
    rfl
  · by_cases hid : id = order.id
    · subst hid
      exact ⟨.placed, hopened.saga⟩
    · rw [hopened.others id hid]
      exact filed.dossiers id
  · intro row hrow
    rcases List.mem_append.mp hrow with hrow | hrow
    · exact filed.onSale row hrow
    · obtain ⟨line, hline, hcopy⟩ := forall₂_copies hcopies row hrow
      rw [hcopy.2.1]
      exact List.mem_map_of_mem (List.mem_of_find?_eq_some (hfound line hline))

/-! ## §3. The step lemma and the run lemma. -/

/-- Where an advance leaves the dossiers. -/
theorem Advance.dossiers {db db' : Database} {event : OutboxEvent} (h : Advance db db' event)
    (filed : Filed db) (id : String) : ∃ p, Saga p (db'.dossier id) := by
  by_cases hid : id = event.aggregateId
  · obtain ⟨p, sign, p', -, -, hsaga, -⟩ := h.step
    exact ⟨p', hid ▸ hsaga⟩
  · rw [h.others id hid]
    exact filed.dossiers id

theorem filed_publish {call : Call} {db db' : Database} (inv : SagaInv db)
    (h : Publish call db db') : Filed db' := by
  cases h with
  | @published event consumer policy paymentFails publishedAt called mem pending routed processed
      keyed =>
      refine filed_updateOutboxEvent inv.toFiled (fun _ => rfl) ?_ (fun _ _ _ h => nomatch h)
      -- the one row with this id has been consumed before
      intro other hother hid _
      rw [row_unique inv.keyed.outboxEvents hother mem hid]
      exact (consumed_of_routed routed).trans processed

/-- **The step lemma**: every commit keeps the invariant. -/
theorem commit_inv {call : Call} {db db' : Database} (inv : SagaInv db)
    (h : Commit call db db') : SagaInv db' := by
  refine ⟨?_, h.keyed⟩
  cases h with
  | stocked id createdAt called keyed =>
      refine ⟨inv.dossiers, inv.inbox, inv.published, inv.failed, inv.deadLetters, ?_⟩
      intro row hrow
      show row.sku ∈ (db.inventoryItems ++ [_]).map _
      rw [List.map_append]
      exact List.mem_append_left _ (inv.onSale row hrow)
  | ordered called placed keyed => exact filed_ordered inv.toFiled placed keyed
  | @handled event envelope consumer policy paymentFails db₁ processedAt called mem pending valid
      routed fresh handled keyed =>
      have hadvance := handled_advance inv mem valid routed fresh handled keyed
      obtain ⟨⟨new, houtbox, hnew⟩, hinbox, hdead⟩ := handled.outbox
      refine inv.toFiled.grow _ new houtbox hnew (hadvance.dossiers inv.toFiled) ?_ ?_ ?_ ?_
      · intro row hrow
        rcases List.mem_append.mp hrow with hrow | hrow
        · exact .inl (hinbox ▸ hrow)
        · rw [List.mem_singleton.mp hrow]
          exact .inr ⟨event, mem, rfl, routed⟩
      · intro row hrow
        exact List.mem_append_left _ (hinbox ▸ hrow)
      · intro row hrow
        exact ⟨row, hdead ▸ hrow, rfl⟩
      · obtain ⟨p, sign, p', -, -, -, -, hstock, -⟩ := hadvance.step
        rw [hadvance.items, hstock, skus_moveAll]
        exact inv.onSale
  | published h => exact filed_publish inv h
  | @attempted event policy paymentFails error stamp called mem pending unrouted keyed =>
      have refusal : event.isRefusal = true := by
        rcases (inv.event mem).2 with h | ⟨consumer, h⟩
        · exact h
        · rw [unrouted] at h
          exact nomatch h
      exact filed_attemptFailed inv.toFiled inv.keyed.outboxEvents mem refusal _ _ _ _
  | @replayed row id occurredAt replayedAt called mem once id_ne keyed =>
      obtain ⟨event, hevent, refusal, hdraft⟩ := inv.deadLetters row mem
      have haggregate : event.aggregateId = (row.draft.row id occurredAt).aggregateId := by
        show event.draft.aggregateId = row.draft.aggregateId
        rw [hdraft]
      have hrefusal : (row.draft.row id occurredAt).isRefusal = true := by
        rw [← hdraft]
        exact refusal
      refine inv.toFiled.grow ((db.addOutboxEvent (row.draft.row id
        occurredAt)).updateDeadLetter row.id (·.replayed replayedAt)) [_] rfl
        (by simp [EventDraft.row]) (fun id' => ?_) (fun row hrow => .inl hrow)
        (fun row hrow => hrow) ?_ inv.onSale
      · rw [dossier_updateDeadLetter]
        by_cases hid : event.aggregateId = id'
        · subst hid
          obtain ⟨p, hs⟩ := inv.dossiers event.aggregateId
          refine ⟨p, ?_⟩
          rw [dossier_addOutboxEvent_refusal haggregate.symm hrefusal]
          exact saga_replayed hs (mem_refusals hevent refusal) id_ne
            (by rw [← hdraft]; rfl)
        · rw [dossier_addOutboxEvent_ne (by rw [← haggregate]; exact hid)]
          exact inv.dossiers id'
      · intro row' hrow
        rcases mem_update.mp hrow with ⟨old, hold, -, rfl⟩ | ⟨hold, -⟩
        · exact ⟨old, hold, rfl⟩
        · exact ⟨row', hold, rfl⟩

theorem effect_inv {call : Call} {db db' : Database} (inv : SagaInv db)
    (h : Effect call db db') : SagaInv db' := by
  cases h with
  | idle => exact inv
  | commit h => exact commit_inv inv h
  | publish h₁ h₂ => exact commit_inv (commit_inv inv h₁) (.published h₂)

theorem step_inv {db : Database} (label : Label) (inv : SagaInv db) : SagaInv (step label db) :=
  effect_inv inv (step_effect inv.ready label)

/-- **The run lemma**: every run keeps the invariant. -/
theorem runCalls_inv {db : Database} (labels : List Label) (inv : SagaInv db) :
    SagaInv (runCalls labels db) :=
  run_invariant (fun _ label h => step_inv label h) labels db inv

/-- An inventory and nothing else: where runs start. -/
structure Stocked (db : Database) : Prop where
  keyed : db.Keyed
  orders : db.orders = []
  orderItems : db.orderItems = []
  payments : db.payments = []
  invoices : db.invoices = []
  notifications : db.notifications = []
  outboxEvents : db.outboxEvents = []
  deadLetters : db.deadLetters = []
  inboxEvents : db.inboxEvents = []

theorem stocked_empty : Stocked Database.empty :=
  ⟨Database.keyed_empty, rfl, rfl, rfl, rfl, rfl, rfl, rfl, rfl⟩

theorem Stocked.inv {db : Database} (h : Stocked db) : SagaInv db := by
  refine ⟨⟨fun id => ⟨.absent, ?_⟩, ?_, ?_, ?_, ?_, ?_⟩, h.keyed⟩
  · unfold Database.dossier Database.itemsOf
    rw [h.orders, h.orderItems, h.payments, h.invoices, h.notifications, h.outboxEvents]
    exact .absent
  · rw [h.inboxEvents]; simp
  · rw [h.outboxEvents]; simp
  · rw [h.outboxEvents]; simp
  · rw [h.deadLetters]; simp
  · rw [h.orderItems]; simp

end EventCart
