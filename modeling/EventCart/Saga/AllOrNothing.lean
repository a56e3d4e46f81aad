/-
  EventCart.Saga.AllOrNothing
  ───────────────────────────
  **EFFECT, MARKER AND NEXT EVENT ARE ONE TRANSACTION.**

  Every handler flushes its rows, its result event and its inbox marker one
  after another and commits them once; `create_order` does the same with the
  order, its lines and its event.  In whatever state a crash leaves the
  tables, each of these rows is there exactly when the others are.

  Replays are left out here: a replayed refusal has the cause of the first
  one, so after a replay a cause can have two results.

    §1  results: an event was handled exactly when it has one child;
    §2  rows: payments, invoices, notifications and statuses;
    §3  the stock counts the handled events;
    §4  `all_or_nothing`.
-/
import EventCart.Saga.Evidence
import EventCart.Saga.Provenance

namespace EventCart

open EventCart.Lib

/-! ## §1. Results. -/

/-- The events that name `event` as their cause. -/
def Database.children (event : OutboxEvent) (db : Database) : Nat :=
  db.outboxEvents.countP (·.causationId = some event.eventId)

/-- The handler of the event emits one. -/
def OutboxEvent.emits (event : OutboxEvent) : Bool := causes.any (·.1 = event.eventType)

/-- No order has two refusals. -/
def Database.RefusedOnce (db : Database) : Prop := ∀ id, (db.dossier id).refusals.length ≤ 1

theorem length_refusals (id : String) (db : Database) :
    (db.dossier id).refusals.length
      = db.outboxEvents.countP fun event => event.aggregateId = id && event.isRefusal := by
  show ((db.outboxEvents.filter _).map _).length = _
  rw [List.length_map, List.countP_eq_length_filter]

/-- **The step lemma**: without replays nothing is refused twice. -/
theorem commit_refusedOnce {call : Call} {db db' : Database}
    (noReplay : ∀ id, call ≠ .replayDeadLetterEvent id) (inv : SagaInv db) (h : db.RefusedOnce)
    (hc : Commit call db db') : db'.RefusedOnce := by
  cases hc with
  | stocked => exact h
  | @ordered payload order items new called placed keyed =>
      have hopened := ordered_opened inv.toFiled placed keyed
      intro id
      by_cases hid : id = order.id
      · rw [hid, hopened.saga.refusals_eq_nil (by simp)]
        exact Nat.zero_le 1
      · rw [hopened.others id hid]
        exact h id
  | @handled event envelope consumer policy paymentFails db₁ processedAt called mem pending valid
      routed fresh handled keyed =>
      obtain ⟨new, houtbox, hemits⟩ := handled.emits inv mem valid routed fresh
      intro id
      -- the refusals of an order are counted in the outbox
      have hcount : ((db₁.addInboxEvent ⟨consumer, event.eventId, processedAt⟩).dossier
          id).refusals.length = (db.dossier id).refusals.length
            + new.countP fun event => event.aggregateId = id && event.isRefusal := by
        rw [length_refusals, length_refusals]
        show db₁.outboxEvents.countP _ = _
        rw [houtbox, List.countP_append]
      have hid := h id
      -- what was emitted is no refusal, or the first one of an order just placed
      rcases hemits with hnot | ⟨e, rfl, haggregate, hplaced⟩
      · have hzero : (new.countP fun event => event.aggregateId = id && event.isRefusal) = 0 := by
          rw [List.countP_eq_zero]
          intro e he
          rw [hnot e he, Bool.and_false]
          exact Bool.false_ne_true
        omega
      · rw [List.countP_singleton] at hcount
        by_cases haid : event.aggregateId = id
        · rw [← haid, hplaced.refusals_eq_nil (by simp), haid, List.length_nil] at hcount
          split at hcount <;> omega
        · rw [haggregate, decide_eq_false haid, Bool.false_and] at hcount
          simp only [Bool.false_eq_true, if_false] at hcount
          omega
  | published hp =>
      intro id
      rw [hp.dossier]
      exact h id
  | attempted =>
      intro id
      rw [dossier_attemptFailed]
      exact h id
  | replayed _ _ called => exact absurd called (noReplay _)

/-- All events of a trail but the last are handled. -/
theorem Phase.handled_of_lt (p : Phase) {i : Nat} (h : i + 1 < p.trail.length) :
    (p.trail[i]).2 = true := by
  have hall : ∀ t ∈ p.trail.dropLast, t.2 = true := by cases p <;> decide
  have hlast : i < p.trail.dropLast.length := by rw [List.length_dropLast]; omega
  have hget : p.trail.dropLast[i] = p.trail[i] := List.getElem_dropLast hlast
  rw [← hget]
  exact hall _ (List.getElem_mem hlast)

/-- The last event of a trail, if it was handled, emits nothing or was
refused. -/
theorem Phase.last_handled {p : Phase} {eventType : String}
    (h : p.trail.getLast? = some (eventType, true)) :
    p = .refused ∨ (causes.any (·.1 = eventType)) = false := by
  cases p <;> simp [Phase.trail] at h <;> first | exact .inl rfl | (rw [← h]; exact .inr rfl)

/-- The trail of an order, read off its rows. -/
theorem trail_storyOf (id : String) (db : Database) :
    (db.dossier id).trail.map (fun t => (t.1.eventType, t.2))
      = (db.storyOf id).map fun event => (event.eventType, db.consumed event) := by
  show ((db.storyOf id).map _).map _ = _
  rw [List.map_map]
  rfl

section children
variable {db : Database} {event : OutboxEvent} {p : Phase}

/-- Two children of one event are the same, or two refusals of one order. -/
theorem SagaInv.child_unique (inv : SagaInv db) (once : db.RefusedOnce) {a b : OutboxEvent}
    (ha : a ∈ db.outboxEvents) (hb : b ∈ db.outboxEvents) {id : String}
    (hca : a.causationId = some id) (hcb : b.causationId = some id) : a = b := by
  rcases inv.siblings ha hb hca hcb with hab | ⟨hra, hrb, hsame⟩
  · exact hab
  · -- two refusals of one order are one
    have hone := once a.aggregateId
    rw [length_refusals, List.countP_eq_length_filter] at hone
    have hina : a ∈ db.outboxEvents.filter fun event =>
        event.aggregateId = a.aggregateId && event.isRefusal :=
      List.mem_filter.mpr ⟨ha, by simp [hra]⟩
    have hinb : b ∈ db.outboxEvents.filter fun event =>
        event.aggregateId = a.aggregateId && event.isRefusal :=
      List.mem_filter.mpr ⟨hb, by simp [hrb, hsame]⟩
    exact eq_of_mem_of_length_le_one hone hina hinb

/-- **A handled event that emits has a child, and only a handled one.** -/
theorem SagaInv.child_iff (inv : SagaInv db) (mem : event ∈ db.outboxEvents)
    (emits : event.emits = true) :
    db.consumed event = true ↔ ∃ child ∈ db.outboxEvents, child.causationId = some event.eventId := by
  have hnot : event.isRefusal = false := by
    apply isRefusal_of_ne
    intro htype
    unfold OutboxEvent.emits at emits
    rw [htype] at emits
    exact absurd emits (by decide)
  obtain ⟨p, h⟩ := inv.dossiers event.aggregateId
  obtain ⟨chain, opening⟩ := h.story
  have htrail := h.trail_eq
  rw [trail_storyOf] at htrail
  have hlen : (db.storyOf event.aggregateId).length = p.trail.length := by
    rw [← htrail, List.length_map]
  obtain ⟨i, hi, hget⟩ := List.getElem_of_mem (mem_storyOf.mpr ⟨mem, rfl, hnot⟩)
  have hi' : i < p.trail.length := by omega
  have hflag : p.trail[i] = (event.eventType, db.consumed event) := by
    simp only [← htrail, List.getElem_map, hget]
  rw [List.isChain_iff_getElem] at chain
  constructor
  · intro hconsumed
    by_cases hnext : i + 1 < (db.storyOf event.aggregateId).length
    · refine ⟨(db.storyOf event.aggregateId)[i + 1],
        (mem_storyOf.mp (List.getElem_mem hnext)).1, ?_⟩
      rw [(chain i hnext).id, hget]
    · -- the last one: it was refused
      have hlast : p.trail.getLast? = some (event.eventType, true) := by
        have hpos : i = p.trail.length - 1 := by omega
        rw [List.getLast?_eq_getElem?, ← hpos, List.getElem?_eq_getElem hi', hflag, hconsumed]
      rcases Phase.last_handled hlast with rfl | hnone
      · have hzero : i = 0 := by
          have hone : Phase.refused.trail.length = 1 := rfl
          omega
        obtain ⟨r, hr⟩ : ∃ r, r ∈ (db.dossier event.aggregateId).refusals := by
          apply List.exists_mem_of_ne_nil
          generalize db.dossier event.aggregateId = d at h
          cases h with
          | refused before nonempty => exact nonempty
        obtain ⟨child, hchild, rfl⟩ := List.mem_map.mp hr
        refine ⟨child, (List.mem_filter.mp hchild).1, ?_⟩
        have hhead : event.entry ∈ (db.dossier event.aggregateId).events.head? := by
          rw [events_dossier, List.head?_map, List.head?_eq_getElem?]
          subst hzero
          rw [List.getElem?_eq_getElem hi, hget]
          rfl
        exact (h.linked.refusals child.entry hr event.entry hhead).id
      · unfold OutboxEvent.emits at emits
        rw [hnone] at emits
        simp at emits
  · rintro ⟨child, hchild, hcause⟩
    rcases inv.caused hchild with hopens | ⟨cause, hcmem, hcaused⟩
    · rw [hopens.uncaused] at hcause
      simp at hcause
    obtain rfl : cause = event := row_unique inv.keyed.outboxEvents hcmem mem
      (Option.some.inj (hcaused.id.symm.trans hcause))
    cases hr : child.isRefusal with
    | true =>
        have hrefusal := mem_refusals hchild hr
        rw [hcaused.aggregate] at hrefusal
        have hp : p = .refused := by
          by_contra hne
          rw [h.refusals_eq_nil hne] at hrefusal
          simp at hrefusal
        subst hp
        have hall : ∀ t ∈ Phase.refused.trail, t.2 = true := by decide
        have hin := hall _ (List.getElem_mem hi')
        rw [hflag] at hin
        exact hin
    | false =>
        -- the child comes after its cause, so its cause is not the last event
        have hin := mem_storyOf.mpr ⟨hchild, hcaused.aggregate, hr⟩
        obtain ⟨j, hj, hjget⟩ := List.getElem_of_mem hin
        cases j with
        | zero =>
            have hhead := opening child (by
              rw [Option.mem_def, List.head?_eq_getElem?, List.getElem?_eq_getElem hj, hjget])
            rw [hhead.uncaused] at hcause
            simp at hcause
        | succ j =>
            have hbefore := (chain j hj).id
            rw [hjget, hcause, Option.some.injEq] at hbefore
            have hj' : j < (db.storyOf cause.aggregateId).length := by omega
            have hsame : (db.storyOf cause.aggregateId)[j] = cause :=
              row_unique inv.keyed.outboxEvents (mem_storyOf.mp (List.getElem_mem hj')).1 mem
                hbefore.symm
            have hlt : j + 1 < p.trail.length := by omega
            have hhandled := p.handled_of_lt hlt
            have hjflag : p.trail[j] = (cause.eventType, db.consumed cause) := by
              simp only [← htrail, List.getElem_map, hsame]
            rw [hjflag] at hhandled
            exact hhandled

/-- **One result for every handled event, none for the others.** -/
theorem SagaInv.children_eq (inv : SagaInv db) (once : db.RefusedOnce)
    (mem : event ∈ db.outboxEvents) (emits : event.emits = true) :
    db.children event = (db.consumed event).toNat := by
  have hiff := inv.child_iff mem emits
  unfold Database.children
  rw [List.countP_eq_length_filter]
  cases hc : db.consumed event with
  | false =>
      rw [hc] at hiff
      show _ = 0
      rw [List.length_eq_zero_iff, List.filter_eq_nil_iff]
      intro child hchild hcause
      exact nomatch hiff.mpr ⟨child, hchild, of_decide_eq_true hcause⟩
  | true =>
      obtain ⟨child, hchild, hcause⟩ := hiff.mp hc
      show _ = 1
      have hin : child ∈ db.outboxEvents.filter (·.causationId = some event.eventId) :=
        List.mem_filter.mpr ⟨hchild, decide_eq_true hcause⟩
      have hnodup : (db.outboxEvents.filter (·.causationId = some event.eventId)).Nodup :=
        (List.Nodup.of_map _ inv.keyed.outboxEvents).filter _
      refine length_eq_one_of_unique hnodup hin fun other hother => ?_
      obtain ⟨homem, hocause⟩ := List.mem_filter.mp hother
      exact inv.child_unique once homem hchild (of_decide_eq_true hocause) hcause

end children

/-! ## §2. Rows. -/

theorem Phase.types_nodup (p : Phase) : (p.trail.map Prod.fst).Nodup := by
  cases p <;> decide

/-- An event was handled exactly when the phase of its order says so. -/
theorem Saga.consumed_iff {db : Database} {event : OutboxEvent} {p : Phase}
    (h : Saga p (db.dossier event.aggregateId)) (mem : event ∈ db.outboxEvents)
    (hnot : event.isRefusal = false) :
    db.consumed event = true ↔ (event.eventType, true) ∈ p.trail := by
  have hin : (event.eventType, db.consumed event) ∈ p.trail := by
    rw [← h.trail_eq]
    exact List.mem_map.mpr ⟨_, mem_trail mem hnot, rfl⟩
  constructor
  · intro hc
    rw [← hc]
    exact hin
  · intro htrue
    have heq := List.inj_on_of_nodup_map p.types_nodup hin htrue rfl
    exact congrArg Prod.snd heq

/-- The rows of a dossier, by the events that were handled. -/
theorem Saga.rows_iff {p : Phase} {d : Dossier} (h : Saga p d) :
    (d.payments ≠ [] ↔ ("InventoryReserved", true) ∈ p.trail)
      ∧ (d.invoices ≠ [] ↔ ("PaymentAuthorized", true) ∈ p.trail)
      ∧ (d.notifications ≠ [] ↔ ("InvoiceCreated", true) ∈ p.trail) := by
  cases h <;> simp [Phase.trail]

theorem Saga.status_iff {p : Phase} {d : Dossier} (h : Saga p d) :
    ((∃ order ∈ d.orders, order.status = .COMPLETED) ↔ ("NotificationSent", true) ∈ p.trail)
      ∧ ((∃ order ∈ d.orders, order.status = .CANCELLED)
        ↔ ("InventoryReleased", true) ∈ p.trail) := by
  have hmap : ∀ status : OrderStatus,
      (∃ order ∈ d.orders, order.status = status) ↔ status ∈ p.status.toList := by
    intro status
    rw [← h.status_eq, List.mem_map]
  rw [hmap, hmap]
  cases p <;> simp [Phase.status, Phase.trail]

theorem exists_of_filter_ne_nil {ρ : Type} {rows : List ρ} {q : ρ → Bool} :
    rows.filter q ≠ [] ↔ ∃ row ∈ rows, q row = true := by
  rw [Ne, List.filter_eq_nil_iff]
  push Not
  rfl

/-! ## §3. The stock. -/

/-- What the handler of the event moves of a SKU: a reservation takes the
lines of the order out, unless it was refused; a release puts them back. -/
def Database.stockEffect (event : OutboxEvent) (sku : String) (db : Database) : Int :=
  if event.eventType = "OrderCreated" then
    if db.emitted "InventoryReserved" event.aggregateId then -db.listed event.aggregateId sku
    else 0
  else if event.eventType = "PaymentFailed" then db.listed event.aggregateId sku
  else 0

/-- What the handled events moved of a SKU. -/
def Database.moved (sku : String) (db : Database) : Int :=
  (db.outboxEvents.map fun event =>
    if db.consumed event then db.stockEffect event sku else 0).sum

/-- The handled events of an order moved what the order holds. -/
theorem moved_of_order {db : Database} {id : String} {p : Phase} (h : Saga p (db.dossier id))
    (sku : String) :
    ((db.outboxEvents.filter (·.aggregateId = id)).map fun event =>
      if db.consumed event then db.stockEffect event sku else 0).sum
      = -(db.dossier id).held sku := by
  -- refusals move nothing
  have hstory : ((db.outboxEvents.filter (·.aggregateId = id)).map fun event =>
        if db.consumed event then db.stockEffect event sku else 0).sum
      = ((db.storyOf id).map fun event =>
        if db.consumed event then db.stockEffect event sku else 0).sum := by
    unfold Database.storyOf
    rw [sum_map_filter, sum_map_filter]
    congr 1
    apply List.map_congr_left
    intro event _
    cases hr : event.isRefusal with
    | false => simp
    | true =>
        have htype := type_of_isRefusal hr
        have hzero : db.stockEffect event sku = 0 := by
          unfold Database.stockEffect
          rw [htype, if_neg (by decide), if_neg (by decide)]
        simp [hzero]
  have htrail := h.trail_eq
  rw [trail_storyOf] at htrail
  have hread : (db.storyOf id).map (fun event =>
        if db.consumed event then db.stockEffect event sku else 0)
      = p.trail.map fun t => if t.2 then
          (if t.1 = "OrderCreated" then
            if db.emitted "InventoryReserved" id then -db.listed id sku else 0
          else if t.1 = "PaymentFailed" then db.listed id sku else 0)
        else 0 := by
    rw [← htrail, List.map_map]
    apply List.map_congr_left
    intro event hevent
    obtain ⟨-, haggregate, -⟩ := mem_storyOf.mp hevent
    show _ = if db.consumed event then _ else 0
    unfold Database.stockEffect
    rw [haggregate]
  have hlisted : demand sku (linesOf (db.dossier id).items) = db.listed id sku :=
    demand_linesOf _ _
  rw [hstory, hread, emitted_eq (by decide), any_eventType h, h.held_eq, hlisted]
  cases p <;> simp [Phase.trail, Phase.holding]

/-- **The handled events moved what orders hold.** -/
theorem moved_eq {db : Database} (inv : SagaInv db) (sku : String) :
    db.moved sku = -db.outstanding sku := by
  have howned : ∀ event ∈ db.outboxEvents, event.aggregateId ∈ db.orders.map (·.id) := by
    intro event mem
    obtain ⟨root, hroot, hopens, haggregate, -⟩ := inv.rooted mem
    obtain ⟨p, h⟩ := inv.dossiers event.aggregateId
    have hnot : root.isRefusal = false := isRefusal_of_ne (by rw [hopens.type]; decide)
    have hp : p ≠ .absent := by
      rintro rfl
      have hin := mem_trail hroot hnot
      rw [haggregate] at hin
      have hempty := h.trail_eq
      rw [List.eq_nil_of_map_eq_nil hempty] at hin
      exact nomatch hin
    obtain ⟨order, horder, hid⟩ := order_of_dossier h hp
    exact hid ▸ List.mem_map_of_mem horder
  rw [outstanding_eq]
  unfold Database.moved
  rw [sum_map_partition _ inv.keyed.orders howned, List.sum_neg, List.map_map (g := fun n => -n)]
  congr 1
  apply List.map_congr_left
  intro id _
  obtain ⟨p, h⟩ := inv.dossiers id
  exact moved_of_order h sku

/-! ## §4. All or nothing. -/

/-- The event tells of the order with its lines, one for one. -/
structure OutboxEvent.TellsOf (event : OutboxEvent) (id : String) (db : Database) : Prop where
  type : event.eventType = "OrderCreated"
  aggregate : event.aggregateId = id
  items : event.payload.get? "items" = some (itemsJson (linesOf (db.itemsOf id)))

/-- Of everything one transaction writes, all is there or nothing.  `created`
is what the SKUs were put on sale with. -/
structure Database.AllOrNothing (db : Database) (created : String → Int) : Prop where
  ordered : ∀ order ∈ db.orders, ∃ event ∈ db.outboxEvents, event.TellsOf order.id db
  opened : ∀ event ∈ db.outboxEvents, event.eventType = "OrderCreated" →
    event.TellsOf event.aggregateId db ∧ ∃ order ∈ db.orders, order.id = event.aggregateId
  emitted : ∀ event ∈ db.outboxEvents, ∀ consumer, consumer? event.eventType = some consumer →
    event.emits = true →
      db.children event = (db.processed consumer event.eventId).toNat
  stocked : ∀ row ∈ db.inventoryItems,
    row.quantityAvailable = created row.sku + db.moved row.sku
  paid : ∀ event ∈ db.outboxEvents, event.eventType = "InventoryReserved" →
    (db.processed "payment-worker" event.eventId = true
      ↔ ∃ payment ∈ db.payments, payment.orderId = event.aggregateId)
  invoiced : ∀ event ∈ db.outboxEvents, event.eventType = "PaymentAuthorized" →
    (db.processed "invoice-worker" event.eventId = true
      ↔ ∃ invoice ∈ db.invoices, invoice.orderId = event.aggregateId)
  notified : ∀ event ∈ db.outboxEvents, event.eventType = "InvoiceCreated" →
    (db.processed "notification-worker" event.eventId = true
      ↔ ∃ notification ∈ db.notifications, notification.orderId = event.aggregateId)
  completed : ∀ event ∈ db.outboxEvents, event.eventType = "NotificationSent" →
    (db.processed "order-projection-worker" event.eventId = true
      ↔ ∃ order ∈ db.orders, order.id = event.aggregateId ∧ order.status = .COMPLETED)
  cancelled : ∀ event ∈ db.outboxEvents, event.eventType = "InventoryReleased" →
    (db.processed "order-projection-worker" event.eventId = true
      ↔ ∃ order ∈ db.orders, order.id = event.aggregateId ∧ order.status = .CANCELLED)

/-- The first event of a dossier tells of its order. -/
theorem Saga.opening_items {p : Phase} {d : Dossier} (h : Saga p d) :
    ∀ e ∈ d.events.head?, e.payload.get? "items" = some (itemsJson (linesOf d.items)) := by
  induction h with
  | absent => simp [Dossier.events]
  | placed =>
      intro e he
      obtain rfl : _ = e := by simpa [Dossier.events] using he
      rfl
  | refused before _ _ ih => exact ih
  | reserved before _ ih => exact ih
  | authorized before _ _ _ _ ih => exact ih
  | invoiced before _ _ _ _ ih => exact ih
  | notified before _ _ _ _ ih => exact ih
  | completed before ih => exact ih
  | declined before _ _ _ _ ih => exact ih
  | released before _ ih => exact ih
  | cancelled before ih => exact ih

section whole
variable {db : Database}

/-- The first row of an order's story tells of the order. -/
theorem tellsOf_head {id : String} {p : Phase} (h : Saga p (db.dossier id)) {event : OutboxEvent}
    (head : event ∈ (db.storyOf id).head?) : event ∈ db.outboxEvents ∧ event.TellsOf id db := by
  obtain ⟨mem, haggregate, -⟩ := mem_storyOf.mp (List.mem_of_mem_head? head)
  refine ⟨mem, (h.story.2 event head).type, haggregate, ?_⟩
  refine h.opening_items event.entry ?_
  rw [events_dossier, List.head?_map, Option.mem_def.mp head]
  rfl

theorem SagaInv.ordered (inv : SagaInv db) :
    ∀ order ∈ db.orders, ∃ event ∈ db.outboxEvents, event.TellsOf order.id db := by
  intro order mem
  obtain ⟨p, h, hstatus⟩ := inv.phase_of_order mem
  have hp : p ≠ .absent := by
    rintro rfl
    exact nomatch hstatus
  obtain ⟨root, rest, hs⟩ := h.story_cons hp
  have hhead : root ∈ (db.storyOf order.id).head? := by rw [hs]; rfl
  obtain ⟨hmem, htells⟩ := tellsOf_head h hhead
  exact ⟨root, hmem, htells⟩

theorem SagaInv.opened (inv : SagaInv db) :
    ∀ event ∈ db.outboxEvents, event.eventType = "OrderCreated" →
      event.TellsOf event.aggregateId db ∧ ∃ order ∈ db.orders, order.id = event.aggregateId := by
  intro event mem type
  obtain ⟨p, h⟩ := inv.dossiers event.aggregateId
  have hnot : event.isRefusal = false := isRefusal_of_ne (by rw [type]; decide)
  have hin : event ∈ db.storyOf event.aggregateId := mem_storyOf.mpr ⟨mem, rfl, hnot⟩
  have hp : p ≠ .absent := by
    rintro rfl
    have htrail := h.trail_eq
    rw [trail_storyOf] at htrail
    rw [List.eq_nil_of_map_eq_nil htrail] at hin
    exact nomatch hin
  obtain ⟨root, rest, hs⟩ := h.story_cons hp
  have hhead : root ∈ (db.storyOf event.aggregateId).head? := by rw [hs]; rfl
  obtain ⟨hmem, htells⟩ := tellsOf_head h hhead
  -- an order has one event of this type
  have htypes := p.types_nodup
  rw [← h.trail_eq, trail_storyOf, List.map_map] at htypes
  have hroot : event = root := List.inj_on_of_nodup_map htypes hin
    (List.mem_of_mem_head? hhead) (type.trans htells.type.symm)
  exact ⟨hroot ▸ htells, order_of_dossier h hp⟩

/-- A table of the order, by the event that fills it. -/
theorem SagaInv.filled_iff (inv : SagaInv db) {event : OutboxEvent} {eventType consumer : String}
    {ρ : Type} {rows : List ρ} {orderId : ρ → String} (mem : event ∈ db.outboxEvents)
    (type : event.eventType = eventType) (routed : consumer? eventType = some consumer)
    (filled : ∀ p, Saga p (db.dossier event.aggregateId) →
      (rows.filter (fun row => orderId row = event.aggregateId) ≠ []
        ↔ (eventType, true) ∈ p.trail)) :
    db.processed consumer event.eventId = true
      ↔ ∃ row ∈ rows, orderId row = event.aggregateId := by
  subst type
  obtain ⟨p, h⟩ := inv.dossiers event.aggregateId
  rw [← consumed_of_routed routed, h.consumed_iff mem (not_refusal_of_routed routed),
    ← filled p h, exists_of_filter_ne_nil]
  simp only [decide_eq_true_eq]

/-- The status of the order, by the event that sets it. -/
theorem SagaInv.set_iff (inv : SagaInv db) {event : OutboxEvent} {eventType consumer : String}
    {status : OrderStatus} (mem : event ∈ db.outboxEvents) (type : event.eventType = eventType)
    (routed : consumer? eventType = some consumer)
    (set : ∀ p, Saga p (db.dossier event.aggregateId) →
      ((∃ order ∈ (db.dossier event.aggregateId).orders, order.status = status)
        ↔ (eventType, true) ∈ p.trail)) :
    db.processed consumer event.eventId = true
      ↔ ∃ order ∈ db.orders, order.id = event.aggregateId ∧ order.status = status := by
  subst type
  obtain ⟨p, h⟩ := inv.dossiers event.aggregateId
  rw [← consumed_of_routed routed, h.consumed_iff mem (not_refusal_of_routed routed), ← set p h]
  constructor
  · rintro ⟨order, horder, hstatus⟩
    obtain ⟨hmem, hid⟩ := of_mem_orders horder
    exact ⟨order, hmem, hid, hstatus⟩
  · rintro ⟨order, hmem, hid, hstatus⟩
    exact ⟨order, hid ▸ mem_dossier_orders hmem, hstatus⟩

end whole

/-- An arrival on database and ledger. -/
def ledgerArrive (arrival : Arrival) (l : Ledger) : Ledger :=
  l.enter arrival.call.creation (arrive arrival l.db)

/-- What the SKUs were created with, over the arrivals from empty tables. -/
def stockedWith (arrivals : List Arrival) : String → Int :=
  (run ledgerArrive arrivals Ledger.empty).created

theorem ledgerArrive_db : ∀ (arrivals : List Arrival) (l : Ledger),
    (run ledgerArrive arrivals l).db = arriveAll arrivals l.db
  | [], _ => rfl
  | arrival :: arrivals, l => ledgerArrive_db arrivals (ledgerArrive arrival l)

theorem ledgerArrive_balanced {l : Ledger} (inv : SagaInv l.db) (h : l.Balanced)
    (arrival : Arrival) : (ledgerArrive arrival l).Balanced := by
  obtain ⟨before, after, db₁, hbefore, heffect, -, heq⟩ := arrive_effect inv arrival
  have hbalanced := effect_balanced (l := ⟨l.db.withKeys before, l.created⟩)
    (inv_withKeys inv hbefore) h heffect
  unfold ledgerArrive
  rw [heq]
  exact hbalanced

/-- No dead letter is replayed. -/
def Arrival.Unreplayed (arrival : Arrival) : Prop :=
  ∀ deadLetterId, arrival.call ≠ .replayDeadLetterEvent deadLetterId

/-- **All or nothing**: after any requests, deliveries and redeliveries,
wherever they crashed, an order is there exactly with its event and its
lines, and a handled event exactly with its marker, its rows and its one
result. -/
theorem all_or_nothing (arrivals : List Arrival)
    (unreplayed : ∀ arrival ∈ arrivals, arrival.Unreplayed) :
    (arriveAll arrivals Database.empty).AllOrNothing (stockedWith arrivals) := by
  obtain ⟨inv, once⟩ := arrivals_keep (P := Database.RefusedOnce)
    (C := fun call => ∀ deadLetterId, call ≠ .replayDeadLetterEvent deadLetterId)
    (fun _ _ h => h) (fun _ _ _ hC inv h hc => commit_refusedOnce hC inv h hc) arrivals unreplayed
    stocked_empty.inv (fun id => Nat.zero_le 1)
  -- the stock is balanced along the run
  have hbalanced : ∀ row ∈ (arriveAll arrivals Database.empty).inventoryItems,
      row.quantityAvailable + (arriveAll arrivals Database.empty).outstanding row.sku
        = stockedWith arrivals row.sku := by
    have hrun : SagaInv (run ledgerArrive arrivals Ledger.empty).db
        ∧ (run ledgerArrive arrivals Ledger.empty).Balanced := by
      refine run_invariant (I := fun l : Ledger => SagaInv l.db ∧ l.Balanced) ?_ arrivals _
        ⟨stocked_empty.inv, fun row hrow => nomatch hrow⟩
      intro l arrival h
      exact ⟨arrived_inv h.1 (arrive_effect h.1 arrival), ledgerArrive_balanced h.1 h.2 arrival⟩
    have hledger := hrun.2
    unfold Ledger.Balanced at hledger
    rw [ledgerArrive_db] at hledger
    exact hledger
  -- each part is read off the life of one order
  constructor
  · exact inv.ordered
  · exact inv.opened
  · intro event mem consumer routed emits
    rw [inv.children_eq once mem emits, consumed_of_routed routed]
  · intro row hrow
    rw [moved_eq inv, ← hbalanced row hrow]
    omega
  · exact fun event mem type => inv.filled_iff mem type rfl fun p h => h.rows_iff.1
  · exact fun event mem type => inv.filled_iff mem type rfl fun p h => h.rows_iff.2.1
  · exact fun event mem type => inv.filled_iff mem type rfl fun p h => h.rows_iff.2.2
  · exact fun event mem type => inv.set_iff mem type rfl fun p h => h.status_iff.1
  · exact fun event mem type => inv.set_iff mem type rfl fun p h => h.status_iff.2

/-- The reservation of two pencils, with its event delivered once more. -/
theorem all_or_nothing_two_pencils :
    (arriveAll ((reservationRun 2).map .called ++ [.handed .calm 300 "id-108" fun _ => false])
        Database.empty).AllOrNothing
      (stockedWith ((reservationRun 2).map .called
        ++ [.handed .calm 300 "id-108" fun _ => false])) := by
  refine all_or_nothing _ ?_
  intro arrival hmem deadLetterId
  simp only [reservationRun, List.map_cons, List.map_nil, List.cons_append, List.nil_append,
    List.mem_cons, List.not_mem_nil, or_false] at hmem
  rcases hmem with rfl | rfl | rfl | rfl <;> simp [Arrival.call]

end EventCart
