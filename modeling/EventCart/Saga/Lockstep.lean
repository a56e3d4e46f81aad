/-
  EventCart.Saga.Lockstep
  ───────────────────────
  **EVERY STEP OF THE SHOP IS A DELIVERY.**

  `shop_refined` says that the system does nothing a shop cannot do.  Here is
  the other half: whatever step an order could take in the shop, the delivery
  of the event it waits for takes it, in every state the system can be in, on
  a database that executes every statement.  So no order is ever stuck between
  two steps, and what crashes, redeliveries and replays left behind is never in
  the way.
-/
import EventCart.Dispatchers.Reports
import EventCart.Saga.Deliveries
import EventCart.Saga.Recovery
import EventCart.Saga.Shop

namespace EventCart

open EventCart.Lib
open EventCart.Lib.Tx

/-! ## §1. Deliveries that have an effect. -/

/-- A commit of the delivery of an event that was not handled handles it. -/
theorem Commit.advance {db db' : Database} (inv : SagaInv db) {event : OutboxEvent}
    {policy : RetryPolicy} {paymentFails : String → Bool}
    (h : Commit (.deliver event.eventId policy paymentFails) db db')
    (mem : event ∈ db.outboxEvents) {consumer : String}
    (routed : consumer? event.eventType = some consumer)
    (fresh : db.processed consumer event.eventId = false) : Advance db db' event := by
  have hevent : ∀ {other : OutboxEvent} {policy' : RetryPolicy} {fails' : String → Bool},
      Call.deliver event.eventId policy paymentFails = .deliver other.eventId policy' fails' →
        other ∈ db.outboxEvents → other = event := by
    intro other policy' fails' hcall hmem
    exact row_unique inv.keyed.outboxEvents hmem mem (Call.deliver.inj hcall).1.symm
  cases h with
  | stocked id createdAt called => exact nomatch called
  | ordered called => exact nomatch called
  | replayed occurredAt replayedAt called => exact nomatch called
  | @handled other envelope consumer' policy' fails' db₁ processedAt called hmem pending valid
      routed' fresh' handled keyed =>
      obtain rfl := hevent called hmem
      exact handled_advance inv hmem valid routed' fresh' handled keyed
  | published h =>
      cases h with
      | published publishedAt called hmem pending routed' processed =>
          obtain rfl := hevent called hmem
          rw [Option.some.inj (routed'.symm.trans routed), fresh] at processed
          exact nomatch processed
  | attempted error stamp called hmem pending unrouted =>
      obtain rfl := hevent called hmem
      rw [unrouted] at routed
      exact nomatch routed

/-- So does a delivery that changes anything, but for the status of the event. -/
theorem Effect.advance {db db' : Database} (inv : SagaInv db) {event : OutboxEvent}
    {policy : RetryPolicy} {paymentFails : String → Bool}
    (h : Effect (.deliver event.eventId policy paymentFails) db db') (changed : db' ≠ db)
    (mem : event ∈ db.outboxEvents) {consumer : String}
    (routed : consumer? event.eventType = some consumer)
    (fresh : db.processed consumer event.eventId = false) :
    ∃ db₁, Advance db db₁ event ∧ db'.shop = db₁.shop ∧ ∀ id, db'.dossier id = db₁.dossier id := by
  cases h with
  | idle => exact absurd rfl changed
  | commit h => exact ⟨db', h.advance inv mem routed fresh, rfl, fun _ => rfl⟩
  | publish h₁ h₂ => exact ⟨_, h₁.advance inv mem routed fresh, h₂.shop, h₂.dossier⟩

/-! ## §2. Steps and their outcomes. -/

/-- An order that can take a step waits for an event. -/
theorem Phase.Step.waiting {p p' : Phase} {sign : Int} (h : Phase.Step p sign p') :
    ∃ eventType, p.waiting = some eventType := by
  cases h <;> exact ⟨_, rfl⟩

/-- A step keeps the outcome of the payment. -/
theorem Phase.Step.keepsOutcome {p p' : Phase} {sign : Int} (h : Phase.Step p sign p') {b : Bool}
    (hb : p.declines = some b) : p'.declines = some b := by
  cases h <;> first | exact hb | exact nomatch hb

/-- The check of the reservation and the outcome of the payment decide which
step an order takes. -/
theorem Phase.Step.unique {p q q' : Phase} {sign sign' : Int} (h : Phase.Step p sign q)
    (h' : Phase.Step p sign' q') (reserve : p = .placed → (q' = .reserved ↔ q = .reserved))
    (outcome : ∀ b, q'.declines = some b → b = decide (q.declines = some true)) :
    sign' = sign ∧ q' = q := by
  -- only a reservation and a payment have two ways to go
  cases h with
  | reserve =>
      cases h' with
      | reserve => exact ⟨rfl, rfl⟩
      | refuse => exact nomatch (reserve rfl).mpr rfl
  | refuse =>
      cases h' with
      | reserve => exact nomatch (reserve rfl).mp rfl
      | refuse => exact ⟨rfl, rfl⟩
  | authorize =>
      cases h' with
      | authorize => exact ⟨rfl, rfl⟩
      | decline => exact nomatch outcome true rfl
  | decline =>
      cases h' with
      | authorize => exact nomatch outcome false rfl
      | decline => exact ⟨rfl, rfl⟩
  | invoice => cases h'; exact ⟨rfl, rfl⟩
  | notify => cases h'; exact ⟨rfl, rfl⟩
  | complete => cases h'; exact ⟨rfl, rfl⟩
  | release => cases h'; exact ⟨rfl, rfl⟩
  | cancel => cases h'; exact ⟨rfl, rfl⟩

/-- The outcomes of payments that the shop shows. -/
def Shop.fails (shop : Shop String String) (id : String) : Bool :=
  (shop.phase id).declines = some true

/-- After any step, these agree with the payments made before it. -/
theorem chosen_advance {db : Database} {id : String} {sign : Int} {next : Phase}
    (h : Phase.Step (db.shop.phase id) sign next) :
    db.Chosen (db.shop.act (.advance id sign next)).fails := by
  intro other q hq b hb
  have hphase : db.shop.phase other = q := hq.phase_eq
  have hdeclines : ((db.shop.act (.advance id sign next)).phase other).declines = some b := by
    show (Function.update db.shop.phase id next other).declines = some b
    by_cases hid : other = id
    · subst hid
      rw [Function.update_self]
      rw [hphase] at h
      exact h.keepsOutcome hb
    · rw [Function.update_of_ne hid, hphase]
      exact hb
  unfold Shop.fails
  rw [hdeclines]
  cases b <;> rfl

/-! ## §3. Every step is taken. -/

section taken
variable {db : Database} {event : OutboxEvent} {world : World Database} {tick : Nat}

/-- The delivery of an event that has a handler changes a database that
executes every statement. -/
theorem deliver_changes (inv : SagaInv db) (counted : Counted db)
    (faultless : world.Dependable fun _ => none) (distinct : Function.Injective world.uuid4)
    (fresh : ∀ n, tick ≤ n → world.uuid4 n ∉ db.ids) (mem : event ∈ db.outboxEvents)
    (pending : event.status = .PENDING) {consumer : String}
    (routed : consumer? event.eventType = some consumer) (policy : RetryPolicy)
    (paymentFails : String → Bool) :
    step ⟨world, tick, .deliver event.eventId policy paymentFails⟩ db ≠ db := by
  have hfind : (Session.begin world tick db).working.findOutboxEvent event.eventId = some event :=
    find_row inv.keyed.outboxEvents mem
  have hstep : step ⟨world, tick, .deliver event.eventId policy paymentFails⟩ db
      = (after (dispatchEvent (sagaHandlers paymentFails) policy event
          (Session.begin world tick db))).committed := by
    show (after (deliver event.eventId policy paymentFails (Session.begin world tick db))).committed
      = _
    rw [deliver_of_find hfind, if_pos pending]
  have books : db.Books [event.eventId] := by
    refine ⟨fun id hid => ?_, counted⟩
    rw [List.mem_singleton.mp hid]
    exact List.mem_map_of_mem mem
  obtain ⟨u, t, hround, -⟩ := dispatchEvent_returns paymentFails inv (begin_clean world tick db)
    (sane_begin faultless distinct inv.keyed fresh books) (List.mem_singleton.mpr rfl) mem routed
  -- the round has a result, so the tables differ
  have hresults := results_round (sagaHandlers_append paymentFails) (begin_clean world tick db)
    inv.keyed mem pending (hround policy)
  rw [hstep, hround policy, after_ok]
  intro hsame
  rw [hsame] at hresults
  exact absurd hresults (Nat.succ_ne_self _).symm

end taken

/-- **The system takes every step of the shop.**  In every state it can be in:
if an order could take a step in the shop, some event is there whose delivery
takes it, with the payment outcome the step asks for.  The same event, with
the same outcome, does so under every retry policy, in every world that
executes every statement (no row is rejected by its columns) and draws fresh
identifiers. -/
theorem steps_delivered (arrivals : List Arrival) {id : String} {sign : Int} {next : Phase}
    (can : (arriveAll arrivals Database.empty).shop.Can (.advance id sign next)) :
    ∃ eventId paymentFails, ∀ (world : World Database) (tick : Nat) (policy : RetryPolicy),
      world.Dependable (fun _ => none) → Function.Injective world.uuid4 →
      (∀ n, tick ≤ n → world.uuid4 n ∉ (arriveAll arrivals Database.empty).ids) →
      (step ⟨world, tick, .deliver eventId policy paymentFails⟩
          (arriveAll arrivals Database.empty)).shop
        = (arriveAll arrivals Database.empty).shop.act (.advance id sign next) := by
  obtain ⟨inv, prompt⟩ := arrivals_prompt arrivals stocked_empty.inv
    (prompt_stocked stocked_empty rfl)
  generalize arriveAll arrivals Database.empty = db at *
  obtain ⟨hstep, hcovers⟩ := can
  obtain ⟨p, hp⟩ := inv.dossiers id
  have hphase : db.shop.phase id = p := hp.phase_eq
  have hchosen := chosen_advance hstep
  rw [hphase] at hstep hcovers
  -- the event the order waits for
  obtain ⟨eventType, waiting⟩ := hstep.waiting
  obtain ⟨e, hfront, htype⟩ := hp.mem_of_waiting waiting
  obtain ⟨event, mem, hentry, haggregate, hnot, hconsumed⟩ := of_mem_trail hfront
  subst haggregate
  have pending := inv.pending_of_unconsumed mem hnot hconsumed
  obtain ⟨consumer, routed⟩ : ∃ consumer, consumer? event.eventType = some consumer := by
    rcases (inv.event mem).2 with hrefusal | hrouted
    · rw [hnot] at hrefusal
      exact nomatch hrefusal
    · exact hrouted
  have unprocessed : db.processed consumer event.eventId = false :=
    (consumed_of_routed routed).symm.trans hconsumed
  -- its delivery, with the outcome the step asks for
  let fails := (db.shop.act (.advance event.aggregateId sign next)).fails
  refine ⟨event.eventId, db.paymentFails fails, fun world tick policy faultless distinct fresh => ?_⟩
  let call : DeliverCall := ⟨world, tick, event.eventId, policy⟩
  have hchosen' : (deliverNext fails call db).Chosen fails := deliverNext_chosen inv hchosen call
  obtain ⟨db₁, hadvance, hshop, hdossier⟩ :=
    (step_effect inv.ready (call.label fails db)).advance inv
      (deliver_changes inv prompt.counted faultless distinct fresh mem pending routed policy _)
      mem routed unprocessed
  obtain ⟨p₁, sign', q, -, hp₁, hq, hstep', hstock, hchecked⟩ := hadvance.step
  obtain rfl := hp.phase_unique hp₁
  obtain ⟨rfl, rfl⟩ : sign' = sign ∧ q = next := by
    refine hstep.unique hstep' (fun hplaced => ?_) fun b hb => ?_
    · rw [reserved_iff_covers (hchecked hplaced)]
      exact (hcovers hplaced).symm
    · have hq' : Saga q ((deliverNext fails call db).dossier event.aggregateId) := by
        show Saga q ((step (call.label fails db) db).dossier event.aggregateId)
        rw [hdossier]
        exact hq
      rw [hchosen' _ q hq' b hb]
      show decide ((Function.update db.shop.phase event.aggregateId next event.aggregateId).declines
        = some true) = _
      rw [Function.update_self]
  show (step (call.label fails db) db).shop = _
  rw [hshop]
  exact hadvance.shop hq hstock

/-- The order whose reservation was interrupted can still be declined. -/
theorem steps_delivered_interrupted :
    ∃ eventId paymentFails,
      (step ⟨World.calm, 300, .deliver eventId {} paymentFails⟩
          (arriveAll interrupted Database.empty)).shop
        = (arriveAll interrupted Database.empty).shop.act (.advance "id-102" 0 .declined) := by
  have hphase : (arriveAll interrupted Database.empty).shop.phase "id-102" = .reserved := by
    decide +kernel
  have can : (arriveAll interrupted Database.empty).shop.Can (.advance "id-102" 0 .declined) := by
    refine ⟨?_, fun hplaced => ?_⟩
    · rw [hphase]
      exact .decline
    · rw [hphase] at hplaced
      exact nomatch hplaced
  obtain ⟨eventId, paymentFails, htaken⟩ := steps_delivered interrupted can
  exact ⟨eventId, paymentFails, htaken World.calm 300 {} World.calm_dependable calm_distinct
    (calm_fresh (by decide +kernel))⟩

end EventCart
