/-
  EventCart.Saga.Fulfilment
  ─────────────────────────
  **EVERY ORDER THAT IS IN STOCK IS FULFILLED.**

  Orders come in, every SKU has what their lines ask of it together, and one
  `dispatch_until_idle` runs.  It returns after exactly five attempts for each
  order, whatever the batch size, the retry policy and the clock are, and it
  leaves every order COMPLETED, every event PUBLISHED and no failure on
  record (`orders_fulfilled`).

    §1  the limit on batches;
    §2  runs in which nothing fails, under every retry policy alike;
    §3  counting events;
    §4  `orders_fulfilled`.
-/
import EventCart.Dispatchers.Reports
import EventCart.Saga.Confluence
import EventCart.Saga.Recovery

namespace EventCart

open EventCart.Lib
open EventCart.Lib.Tx

/-! ## §1. Counting batches. -/

/-- The running total never goes down. -/
theorem dispatchLoop_le {handlers : HandlerMap} {limit : Nat} {policy : RetryPolicy} :
    ∀ (maxBatches dispatchedTotal n : Nat) (s t : Session Database),
      dispatchLoop handlers limit policy maxBatches dispatchedTotal s = .ok n t →
      dispatchedTotal ≤ n := by
  intro maxBatches
  induction maxBatches with
  | zero =>
      intro dispatchedTotal n s t h
      cases h
  | succ maxBatches ih =>
      intro dispatchedTotal n s t h
      obtain ⟨dispatchedCount, u, hbatch, hrest⟩ := bind_eq_ok.mp h
      by_cases hzero : dispatchedCount = 0
      · rw [if_pos hzero, pure_apply, EStateM.Result.ok.injEq] at hrest
        omega
      · rw [if_neg hzero] at hrest
        have hle := ih _ n u t hrest
        omega

/-- **Enough batches are enough**: every batch but the last one counts
something, so the limit on batches plays no part above the final count. -/
theorem dispatchLoop_of_fewer {handlers : HandlerMap} {limit : Nat} {policy : RetryPolicy} :
    ∀ (maxBatches maxBatches' dispatchedTotal n : Nat) (s t : Session Database),
      dispatchLoop handlers limit policy maxBatches' dispatchedTotal s = .ok n t →
      n < dispatchedTotal + maxBatches →
      dispatchLoop handlers limit policy maxBatches dispatchedTotal s = .ok n t := by
  intro maxBatches
  induction maxBatches with
  | zero =>
      intro maxBatches' dispatchedTotal n s t h hfew
      -- no batches left: the total is below what was counted already
      have hle := dispatchLoop_le _ _ _ _ _ h
      omega
  | succ maxBatches ih =>
      intro maxBatches' dispatchedTotal n s t h hfew
      cases maxBatches' with
      | zero => cases h
      | succ maxBatches' =>
          obtain ⟨dispatchedCount, u, hbatch, hrest⟩ := bind_eq_ok.mp h
          refine bind_eq_ok.mpr ⟨dispatchedCount, u, hbatch, ?_⟩
          by_cases hzero : dispatchedCount = 0
          · rw [if_pos hzero] at hrest ⊢
            exact hrest
          · rw [if_neg hzero] at hrest ⊢
            exact ih maxBatches' _ n u t hrest (by omega)

/-! ## §2. Runs in which nothing fails. -/

/-- No failure is on record. -/
structure Unfailed (db : Database) : Prop where
  attempts : db.attempts = []
  deadLetters : db.deadLetters = []

/-- A refusal is an event of a refused order. -/
theorem Database.Unrefused.not_refusal {db : Database} (h : db.Unrefused) (inv : SagaInv db) :
    ∀ event ∈ db.outboxEvents, event.isRefusal = false := by
  intro event mem
  by_contra hrefusal
  rw [Bool.not_eq_false] at hrefusal
  obtain ⟨p, hp⟩ := inv.dossiers event.aggregateId
  have hmem := mem_refusals mem hrefusal
  by_cases hrefused : p = .refused
  · subst hrefused
    exact h _ hp
  · rw [hp.refusals_eq_nil hrefused] at hmem
    exact absurd hmem List.not_mem_nil

/-- **Without refusals nothing fails**: every other event has a handler, and
the handler does not raise. -/
theorem Commit.unfailed {call : Call} {db db' : Database} (hc : Commit call db db')
    (inv : SagaInv db) (unrefused : db.Unrefused) (h : Unfailed db) : Unfailed db' := by
  cases hc with
  | stocked => exact ⟨h.attempts, h.deadLetters⟩
  | ordered => exact ⟨h.attempts, h.deadLetters⟩
  | handled called mem pending valid routed fresh handled keyed =>
      have left := handled.appends
      exact ⟨left.attempts.trans h.attempts, left.deadLetters.trans h.deadLetters⟩
  | published hp =>
      cases hp
      exact ⟨h.attempts, h.deadLetters⟩
  | @attempted event policy paymentFails error stamp called mem pending unrouted =>
      -- what has no handler is a refusal, and there are none
      have hnot := unrefused.not_refusal inv event mem
      rcases (inv.event mem).2 with hrefusal | ⟨consumer, routed⟩
      · rw [hnot] at hrefusal
        cases hrefusal
      · rw [unrouted] at routed
        cases routed
  | @replayed row id occurredAt replayedAt called mem =>
      -- nothing to replay: there are no dead letters
      rw [h.deadLetters] at mem
      cases mem

theorem step_unfailed {db : Database} (label : Label) (inv : SagaInv db)
    (unrefused : db.Unrefused) (h : Unfailed db) : Unfailed (step label db) := by
  have heffect := step_effect inv.ready label
  generalize step label db = db' at heffect
  cases heffect with
  | idle => exact h
  | commit hc => exact hc.unfailed inv unrefused h
  | publish hc hp =>
      have hfirst := hc.unfailed inv unrefused h
      cases hp
      exact ⟨hfirst.attempts, hfirst.deadLetters⟩

/-- A run of deliveries to the default handlers, without a failure so far. -/
structure Smooth (start db : Database) : Prop extends Underway (fun _ => false) start db where
  unfailed : Unfailed db

/-- **The step lemma.** -/
theorem Smooth.step {start db : Database} (h : Smooth start db) (provided : start.Provided)
    (world : World Database) (tick : Nat) (eventId : String) (policy : RetryPolicy) :
    Smooth start (step ⟨world, tick, .deliver eventId policy fun _ => false⟩ db) := by
  have hlabel : (⟨world, tick, eventId, policy⟩ : DeliverCall).label (fun _ => false) db
      = ⟨world, tick, .deliver eventId policy fun _ => false⟩ := by
    have hfails : db.paymentFails (fun _ => false) = fun _ => false := by
      funext id
      unfold Database.paymentFails
      cases db.findOutboxEvent id <;> rfl
    show (⟨world, tick, .deliver eventId policy (db.paymentFails fun _ => false)⟩ : Label) = _
    rw [hfails]
  have hunderway := h.toUnderway.deliver provided ⟨world, tick, eventId, policy⟩
  unfold deliverNext at hunderway
  rw [hlabel] at hunderway
  exact ⟨hunderway, step_unfailed _ h.inv h.unrefused h.unfailed⟩

/-- A dispatcher on its way through such a run. -/
structure Fulfilling (start : Database) (eventIds : List String) (s : Session Database) : Prop where
  clean : s.Clean
  sane : Sane (Database.Books eventIds) s
  smooth : Smooth start s.committed
  prompt : Prompt s.committed

section fulfilling
variable {start : Database} {eventIds : List String} {s : Session Database}

/-- **A round publishes its event**, whatever the retry policy. -/
theorem Fulfilling.round (h : Fulfilling start eventIds s) (provided : start.Provided)
    {event : OutboxEvent} (listed : event.eventId ∈ eventIds)
    (mem : event ∈ s.committed.outboxEvents) (pending : event.status = .PENDING) :
    ∃ u t, (∀ policy, dispatchEvent (sagaHandlers fun _ => false) policy event s = .ok u t)
      ∧ Fulfilling start eventIds t
      ∧ ∀ other ∈ s.committed.outboxEvents, other.eventId ≠ event.eventId →
          other ∈ t.committed.outboxEvents := by
  have inv := h.smooth.inv
  obtain ⟨consumer, routed⟩ : ∃ consumer, consumer? event.eventType = some consumer := by
    rcases (inv.event mem).2 with hrefusal | hrouted
    · rw [h.smooth.unrefused.not_refusal inv event mem] at hrefusal
      cases hrefusal
    · exact hrouted
  obtain ⟨u, t, hround, hsane⟩ := dispatchEvent_returns (fun _ => false) inv h.clean h.sane listed
    mem routed
  -- what it committed is the delivery of its event
  have hstep : t.committed = step ⟨s.world, s.tick, .deliver event.eventId {} fun _ => false⟩
      s.committed := by
    have heq := dispatchRound_eq_step inv mem pending {} (fun _ => false) s.world s.tick
    unfold dispatchRound transact at heq
    rw [← h.clean.eq_begin, hround {}] at heq
    exact heq
  refine ⟨u, t, hround, ⟨dispatchEvent_clean (hround {}), hsane, ?_, ?_⟩, fun other hother hne => ?_⟩
  · rw [hstep]
    exact h.smooth.step provided s.world s.tick event.eventId {}
  · rw [hstep]
    exact (runCalls_prompt [⟨s.world, s.tick, .deliver event.eventId {} fun _ => false⟩] inv
      h.prompt).2
  · rw [hstep]
    exact step_keeps inv _ hother fun policy paymentFails hcall =>
      hne (Call.deliver.inj hcall).1.symm

/-- So do the rounds of a batch. -/
theorem Fulfilling.rounds (provided : start.Provided) :
    ∀ (events : List OutboxEvent) (s : Session Database), Fulfilling start eventIds s →
      (events.map (·.eventId)).Nodup →
      (∀ event ∈ events, event.eventId ∈ eventIds ∧ event ∈ s.committed.outboxEvents
        ∧ event.status = .PENDING) →
      ∃ u t, (∀ policy, events.forM (dispatchEvent (sagaHandlers fun _ => false) policy) s
          = .ok u t)
        ∧ Fulfilling start eventIds t := by
  intro events
  induction events with
  | nil => exact fun s h _ _ => ⟨PUnit.unit, s, fun _ => rfl, h⟩
  | cons event events ih =>
      intro s h hnodup hevents
      obtain ⟨hnotin, hnodup⟩ := List.nodup_cons.mp hnodup
      obtain ⟨listed, mem, pending⟩ := hevents event List.mem_cons_self
      obtain ⟨u, t, hround, h', hothers⟩ := h.round provided listed mem pending
      -- the other events are where they were
      obtain ⟨v, w, hrest, h''⟩ := ih t h' hnodup fun other hother => by
        obtain ⟨listed', mem', pending'⟩ := hevents other (List.mem_cons_of_mem _ hother)
        refine ⟨listed', hothers other mem' fun hid => ?_, pending'⟩
        exact hnotin (List.mem_map.mpr ⟨other, hother, hid⟩)
      exact ⟨v, w, fun policy => (bind_of_ok (hround policy)).trans (hrest policy), h''⟩

/-- **A batch returns**, whatever the retry policy. -/
theorem Fulfilling.batch (h : Fulfilling start [] s) (provided : start.Provided) (limit : Nat) :
    ∃ n t, (∀ policy, dispatchPendingBatch (sagaHandlers fun _ => false) limit policy s = .ok n t)
      ∧ Fulfilling start [] t := by
  have hfetch : Meets (Sane (Database.Books [])) (fetchPending limit)
      (fun events => Sane (Database.Books (events.map (·.eventId)))) fun _ _ => False :=
    meets_fetchPending limit
  have hlands := hfetch s h.sane
  cases hfetched : fetchPending limit s with
  | error e t =>
      rw [hfetched] at hlands
      cases e <;> exact hlands.elim
  | ok events u =>
      rw [hfetched] at hlands
      obtain ⟨hevents, n, hu⟩ := fetchPending_ok hfetched
      have hcommitted : u.committed = s.committed := by rw [hu]; rfl
      have hworking : s.working = s.committed := h.clean.2
      -- the SELECT changes nothing
      have h' : Fulfilling start (events.map (·.eventId)) u := by
        refine ⟨⟨?_, ?_⟩, hlands, hcommitted ▸ h.smooth, hcommitted ▸ h.prompt⟩
        · rw [hu]
          exact h.clean.1
        · rw [hu]
          exact h.clean.2
      obtain ⟨v, t, hrun, h''⟩ := Fulfilling.rounds provided events u h' (by
        rw [hevents]
        unfold fetchedEvents
        rw [hworking]
        exact pending_nodup h.smooth.inv.keyed.outboxEvents _ _) fun event hevent => by
          rw [hevents] at hevent
          obtain ⟨mem, pending⟩ := mem_pending hevent
          rw [hworking] at mem
          rw [hcommitted]
          exact ⟨List.mem_map_of_mem (hevents ▸ hevent), mem, pending⟩
      refine ⟨events.length, t, fun policy => ?_, ⟨h''.clean, ?_, h''.smooth, h''.prompt⟩⟩
      · show (fetchPending limit >>= fun events =>
          events.forM (dispatchEvent (sagaHandlers fun _ => false) policy) >>= fun _ =>
            (pure events.length : App Nat)) s = _
        rw [bind_of_ok hfetched, bind_of_ok (hrun policy)]
        rfl
      · -- the next batch starts with no events of its own
        exact h''.sane.imp fun _ books =>
          ⟨fun _ hid => absurd hid List.not_mem_nil, books.counted⟩

/-- **`dispatch_until_idle` does the same under every retry policy.** -/
theorem Fulfilling.loop (provided : start.Provided) (limit : Nat) (policy policy' : RetryPolicy) :
    ∀ (maxBatches dispatchedTotal : Nat) (s : Session Database), Fulfilling start [] s →
      dispatchLoop (sagaHandlers fun _ => false) limit policy maxBatches dispatchedTotal s
          = dispatchLoop (sagaHandlers fun _ => false) limit policy' maxBatches dispatchedTotal s
        ∧ ∀ n t, dispatchLoop (sagaHandlers fun _ => false) limit policy maxBatches dispatchedTotal s
            = .ok n t → Fulfilling start [] t := by
  intro maxBatches
  induction maxBatches with
  | zero =>
      intro dispatchedTotal s _
      exact ⟨rfl, fun n t h => by cases h⟩
  | succ maxBatches ih =>
      intro dispatchedTotal s h
      obtain ⟨dispatchedCount, u, hbatch, h'⟩ := h.batch provided limit
      unfold dispatchLoop
      rw [bind_of_ok (hbatch policy), bind_of_ok (hbatch policy')]
      by_cases hzero : dispatchedCount = 0
      · rw [if_pos hzero, if_pos hzero]
        refine ⟨rfl, fun n t hpure => ?_⟩
        rw [pure_apply, EStateM.Result.ok.injEq] at hpure
        exact hpure.2 ▸ h'
      · rw [if_neg hzero, if_neg hzero]
        exact ih _ u h'

end fulfilling

/-- No order is refused before its event is handled. -/
theorem Database.Untouched.unrefused {db : Database} (h : db.Untouched) : db.Unrefused := by
  intro id hrefused
  rcases h id _ hrefused with hp | hp <;> cases hp

theorem runCalls_unfailed : ∀ (openings : List Label) {db : Database}, SagaInv db → db.Untouched →
    Unfailed db → (∀ label ∈ openings, label.call.opens = true) → Unfailed (runCalls openings db)
  | [], _, _, _, h, _ => h
  | label :: openings, _, inv, untouched, h, opens =>
      runCalls_unfailed openings (step_inv label inv)
        (step_untouched inv untouched (opens label List.mem_cons_self))
        (step_unfailed label inv untouched.unrefused h)
        fun l hl => opens l (List.mem_cons_of_mem _ hl)

/-! ## §3. Counting events. -/

/-- Every event belongs to an order. -/
theorem SagaInv.order_of_event {db : Database} (inv : SagaInv db) {event : OutboxEvent}
    (mem : event ∈ db.outboxEvents) : event.aggregateId ∈ db.orders.map (·.id) := by
  obtain ⟨p, hp⟩ := inv.dossiers event.aggregateId
  -- an order that is absent has no trail and no refusals
  have hne : p ≠ .absent := by
    rintro rfl
    cases hrefusal : event.isRefusal with
    | true =>
        have hin := mem_refusals mem hrefusal
        rw [hp.refusals_eq_nil (by decide)] at hin
        cases hin
    | false =>
        have hin := mem_trail mem hrefusal
        have htype := List.mem_map_of_mem (f := fun t => (t.1.eventType, t.2)) hin
        rw [hp.trail_eq] at htype
        cases htype
  obtain ⟨order, horder, hid⟩ := order_of_dossier hp hne
  exact List.mem_map.mpr ⟨order, horder, hid⟩

/-- So as many events for every order make as many times the orders. -/
theorem SagaInv.length_outboxEvents {db : Database} (inv : SagaInv db) {k : Nat}
    (each : ∀ order ∈ db.orders,
      (db.outboxEvents.filter (·.aggregateId = order.id)).length = k) :
    db.outboxEvents.length = k * db.orders.length := by
  have hone : ∀ rows : List OutboxEvent, (rows.map fun _ => (1 : Int)).sum = rows.length := by
    intro rows
    simp
  -- the events, counted order by order
  have hsum := sum_map_partition (fun _ => (1 : Int)) inv.keyed.orders
    fun (event : OutboxEvent) mem => inv.order_of_event mem
  have hk : ((db.orders.map (·.id)).map fun id =>
        ((db.outboxEvents.filter (·.aggregateId = id)).map fun _ => (1 : Int)).sum)
      = db.orders.map fun _ => (k : Int) := by
    rw [List.map_map]
    apply List.map_congr_left
    intro order mem
    show ((db.outboxEvents.filter (·.aggregateId = order.id)).map fun _ => (1 : Int)).sum = k
    rw [hone, each order mem]
  rw [hone, hk, List.map_const', List.sum_replicate, nsmul_eq_mul, mul_comm] at hsum
  exact_mod_cast hsum

/-- The events of an order are its trail, unless it was refused. -/
theorem length_trail {db : Database} (unrefused : ∀ event ∈ db.outboxEvents, event.isRefusal = false)
    {id : String} {p : Phase} (h : Saga p (db.dossier id)) :
    (db.outboxEvents.filter (·.aggregateId = id)).length = p.trail.length := by
  have hfilter : db.outboxEvents.filter (·.aggregateId = id)
      = db.outboxEvents.filter fun event => event.aggregateId = id && !event.isRefusal :=
    List.filter_congr fun event mem => by rw [unrefused event mem]; simp
  rw [← h.trail_eq, List.length_map]
  show _ = ((db.outboxEvents.filter _).map _).length
  rw [List.length_map, hfilter]

/-! ## §4. Fulfilment. -/

/-- Nothing is delivered before the first delivery. -/
theorem Database.Untouched.results {db : Database} (h : db.Untouched) (inv : SagaInv db)
    (unfailed : Unfailed db) : db.results = 0 := by
  have hnone : ∀ event ∈ db.outboxEvents, event.delivered = 0 := by
    intro event mem
    refine if_neg fun hpublished => ?_
    have hconsumed := inv.published event mem hpublished
    obtain ⟨p, hp⟩ := inv.dossiers event.aggregateId
    have hin := mem_trail mem (h.unrefused.not_refusal inv event mem)
    rw [hconsumed] at hin
    have htype := List.mem_map_of_mem (f := fun t => (t.1.eventType, t.2)) hin
    rw [hp.trail_eq] at htype
    -- an event of a new order is still to be handled
    rcases h _ p hp with rfl | rfl
    · cases htype
    · simp [Phase.trail] at htype
  unfold Database.results
  rw [unfailed.attempts]
  exact List.sum_eq_zero fun n hn => by
    obtain ⟨event, mem, rfl⟩ := List.mem_map.mp hn
    exact hnone event mem

/-- Every event is a result when all are published. -/
theorem results_of_published {db : Database} (unfailed : Unfailed db)
    (published : ∀ event ∈ db.outboxEvents, event.status = .PUBLISHED) :
    db.results = db.outboxEvents.length := by
  have hone : db.outboxEvents.map (·.delivered) = db.outboxEvents.map fun _ => 1 :=
    List.map_congr_left fun event mem => if_pos (published event mem)
  unfold Database.results
  rw [unfailed.attempts, hone]
  simp

/-- Every order of a complete smooth run has its five events. -/
theorem Smooth.length_outboxEvents {start db : Database} (h : Smooth start db) (idle : db.Idle) :
    db.outboxEvents.length = 5 * start.orders.length := by
  have horders : db.orders.length = start.orders.length := by
    have hlength := congrArg List.length h.ids
    rwa [List.length_map, List.length_map] at hlength
  rw [← horders]
  refine h.inv.length_outboxEvents fun order mem => ?_
  have hfinal := h.toUnderway.final idle (List.mem_map_of_mem mem)
  exact length_trail (h.unrefused.not_refusal h.inv) hfinal

/-- **Every order that is in stock is fulfilled.**  Items go on sale and
orders come in, in any number and any order, and every SKU has what the lines
of all orders ask of it.  Then, on a database that executes every statement (no
row is rejected by its columns) and with fresh identifiers,
`dispatch_until_idle` with the default handlers returns five times the number
of orders, unless its limit on batches is no higher than that; whatever the
batch size, the retry policy and the clock, the orders are COMPLETED, with the
stock, the payments and the invoices that can be read off them at the start,
and nothing failed on the way. -/
theorem orders_fulfilled (openings : List Label)
    (opens : ∀ label ∈ openings, label.call.opens = true)
    (suffices_ : (runCalls openings Database.empty).Suffices) {world : World Database}
    (faultless : world.Dependable fun _ => none) (distinct : Function.Injective world.uuid4)
    {tick : Nat} (fresh : ∀ n, tick ≤ n → world.uuid4 n ∉ (runCalls openings Database.empty).ids)
    (policy : RetryPolicy) {limit maxBatches : Nat} (positive : 1 ≤ limit)
    (many : 5 * (runCalls openings Database.empty).orders.length < maxBatches) :
    ∃ t, dispatchUntilIdle defaultEventHandlers limit maxBatches policy
          (Session.begin world tick (runCalls openings Database.empty))
            = .ok (5 * (runCalls openings Database.empty).orders.length) t
      ∧ t.committed.settlement = (runCalls openings Database.empty).prospect (fun _ => false)
      ∧ (∀ order ∈ t.committed.orders, order.status = .COMPLETED)
      ∧ (∀ event ∈ t.committed.outboxEvents, event.status = .PUBLISHED)
      ∧ t.committed.attempts = [] ∧ t.committed.deadLetters = [] := by
  obtain ⟨inv, prompt⟩ := runCalls_prompt openings stocked_empty.inv
    (prompt_stocked stocked_empty rfl)
  have untouched := runCalls_untouched openings stocked_empty.inv stocked_empty.untouched opens
  have unfailed := runCalls_unfailed openings stocked_empty.inv stocked_empty.untouched ⟨rfl, rfl⟩
    opens
  generalize runCalls openings Database.empty = db at *
  have provided := untouched.provided inv suffices_
  have sane : Sane (Database.Books []) (Session.begin world tick db) :=
    sane_begin faultless distinct inv.keyed fresh
      ⟨fun _ hid => absurd hid List.not_mem_nil, prompt.counted⟩
  have fulfilling : Fulfilling db [] (Session.begin world tick db) :=
    ⟨begin_clean world tick db, sane, ⟨untouched.underway inv _, unfailed⟩, prompt⟩
  rw [← sagaHandlers_default]
  -- with one attempt for each event nothing is scheduled, and some limit on batches is enough
  let once : RetryPolicy := { maxAttempts := 1 }
  obtain ⟨t, honce, hnothing, hcommitted⟩ := dispatchLoop_returns positive
    (db.debt (sagaHandlers fun _ => false) once + 1) 0 (Session.begin world tick db)
    (begin_clean world tick db) ⟨sane, schedulable_of_last (le_refl 1) world⟩
    (Nat.lt_succ_self _)
  generalize hn : (0 + (idleRounds (sagaHandlers fun _ => false) once limit _
    (Session.begin world tick db)).length) = n at honce
  obtain ⟨hsame, hkept⟩ := Fulfilling.loop provided limit policy once
    (db.debt (sagaHandlers fun _ => false) once + 1) 0 (Session.begin world tick db) fulfilling
  have hreturned := hsame.trans honce
  obtain ⟨-, -, smooth, prompt'⟩ := hkept n t hreturned
  unfold NothingDue at hnothing
  rw [← hcommitted] at hnothing
  -- no event is a refusal, so nothing due means everything published
  have hpublished : ∀ event ∈ t.committed.outboxEvents, event.status = .PUBLISHED :=
    fun event mem => prompt'.published smooth.inv hnothing event mem
      (smooth.unrefused.not_refusal smooth.inv event mem)
  have idle : t.committed.Idle := fun event mem hpending => by
    rw [hpublished event mem] at hpending
    cases hpending
  -- the count is the number of events, and every order has five
  have hcount : n = 5 * db.orders.length := by
    have hresults := results_dispatchLoop (sagaHandlers_append fun _ => false).orDefault _ 0 n _ t
      (begin_clean world tick db) inv.keyed hreturned
    have hstart : (Session.begin world tick db).committed.results = 0 :=
      untouched.results inv unfailed
    rw [results_of_published smooth.unfailed hpublished, smooth.length_outboxEvents idle, hstart]
      at hresults
    omega
  refine ⟨t, ?_, smooth.toUnderway.settlement idle untouched inv, fun order mem => ?_, hpublished,
    smooth.unfailed.attempts, smooth.unfailed.deadLetters⟩
  · rw [← hcount]
    exact dispatchLoop_of_fewer maxBatches _ 0 n _ t hreturned (by omega)
  · exact smooth.toUnderway.status idle mem

/-- Two orders of two pencils, with four in stock: ten attempts. -/
theorem orders_fulfilled_pencils :
    ∃ t, dispatchUntilIdle defaultEventHandlers 1 11 { maxAttempts := 1 }
          (Session.begin World.calm 300 (runCalls twoOrders Database.empty)) = .ok 10 t
      ∧ t.committed.settlement = (runCalls twoOrders Database.empty).prospect (fun _ => false)
      ∧ (∀ order ∈ t.committed.orders, order.status = .COMPLETED)
      ∧ (∀ event ∈ t.committed.outboxEvents, event.status = .PUBLISHED)
      ∧ t.committed.attempts = [] ∧ t.committed.deadLetters = [] := by
  have htwo : (runCalls twoOrders Database.empty).orders.length = 2 := by decide +kernel
  have hten : 10 = 5 * (runCalls twoOrders Database.empty).orders.length := by rw [htwo]
  rw [hten]
  exact orders_fulfilled twoOrders (by decide) (by decide +kernel) World.calm_dependable
    calm_distinct (calm_fresh (by decide +kernel)) { maxAttempts := 1 } (by decide)
    (by rw [htwo]; decide)

end EventCart
