/-
  EventCart.Survival
  ──────────────────
  **WHEN A BATCH SURVIVES ITS HANDLERS.**

  The `except` branch of `dispatch_pending_batch` works on the session the
  handler left.  `batch_dispatched_iff`: for any handlers, a batch records
  every failure and reaches its last event exactly when each handler leaves a
  session that can still be used, and the retry after a failure can be
  scheduled.  A database error inside a handler leaves no such session
  (`poison_event_stops_batch`): it waits for a rollback that nobody issues, and
  the batch ends there.
-/
import EventCart.DispatchEffects
import EventCart.Saga.Handlers

namespace EventCart

open EventCart.Lib
open EventCart.Lib.Tx

/-! ## §1. What a handler leaves. -/

/-- The handler's part of the `try` block. -/
def callHandler (handlers : HandlerMap) (event : OutboxEvent) : App Unit := do
  match handlers.lookup event.eventType with
  | none =>
      raise (.unsupportedEventTypeError
        ("No brokerless handler registered for " ++ Json.reprStr event.eventType ++ "."))
  | some registration =>
      let envelope ← ofExcept (envelopeFromOutboxEvent event)
      registration.handler envelope

theorem handleEvent_eq (handlers : HandlerMap) (event : OutboxEvent) :
    handleEvent handlers event
      = callHandler handlers event >>= fun _ => markPublished event.eventId := by
  unfold handleEvent callHandler
  cases handlers.lookup event.eventType with
  | none => rfl
  | some registration =>
      cases envelopeFromOutboxEvent event with
      | ok envelope => rfl
      | error error => rfl

/-- **The event is refused before any handler sees it, or handed to the one
the table names for it.** -/
theorem sagaCall (paymentFails : String → Bool) (event : OutboxEvent) :
    (∃ error, callHandler (sagaHandlers paymentFails) event = raise error)
      ∨ ∃ registration envelope,
          (sagaHandlers paymentFails).lookup event.eventType = some registration
          ∧ envelopeFromOutboxEvent event = .ok envelope
          ∧ callHandler (sagaHandlers paymentFails) event = registration.handler envelope
          ∧ ∃ (α : Type) (body : EventEnvelope → App α) (event' : EventEnvelope),
              Body registration envelope body event' := by
  unfold callHandler
  cases hlookup : (sagaHandlers paymentFails).lookup event.eventType with
  | none => exact .inl ⟨_, rfl⟩
  | some registration =>
      cases valid : envelopeFromOutboxEvent event with
      | error error => exact .inl ⟨error, rfl⟩
      | ok envelope =>
          obtain ⟨htype, -, -, -⟩ := envelope_eventType valid
          exact .inr ⟨registration, envelope, rfl, rfl, rfl, routed_body (htype.symm ▸ hlookup)⟩

theorem keepsWorld_callHandler {handlers : HandlerMap} (hw : handlers.KeepWorld)
    (event : OutboxEvent) : KeepsWorld (callHandler handlers event) := by
  unfold callHandler
  cases h : handlers.lookup event.eventType with
  | none => exact (quiet_raise _).keepsWorld
  | some registration =>
      exact (quiet_ofExcept _).keepsWorld.bind fun envelope => hw _ _ h envelope

/-- The session a handler left can be used further: it is live, the database
accepts its rows, the declared keys hold and the event is there.  After an
exception the record of the failure needs room besides: fresh identifiers, and
a retry that can be scheduled. -/
def Usable (handlers : HandlerMap) (policy : RetryPolicy) (rejects : Database → Option String)
    (event : OutboxEvent) : EStateM.Result (Failure PyError) (Session Database) Unit → Prop
  | .ok _ u => u.active = true ∧ rejects u.working = none ∧ u.working.Keyed
      ∧ ∃ row, u.working.findOutboxEvent event.eventId = some row
  | .error e u => e ≠ .crash ∧ u.active = true ∧ rejects u.working = none
      ∧ Recordable handlers policy event u

/-- The failure of an event is on record: one more attempt, and either a
scheduled retry or a dead letter. -/
structure Recorded (handlers : HandlerMap) (event : OutboxEvent) (before after : Database) :
    Prop where
  attempt : ∃ row, after.attempts = before.attempts ++ [row] ∧ row.eventId = event.eventId
    ∧ row.consumerName = consumerNameForFailure event.eventType handlers
  outcome : (∃ row ∈ after.outboxEvents, row.eventId = event.eventId ∧ row.status = .PENDING
      ∧ row.nextAttemptAt.isSome = true)
    ∨ (∃ row ∈ after.outboxEvents, row.eventId = event.eventId ∧ row.status = .FAILED)
      ∧ ∃ letter ∈ after.deadLetters, letter.eventId = event.eventId

theorem recorded_attemptFailed {handlers : HandlerMap} {policy : RetryPolicy}
    {event row : OutboxEvent} {db : Database} (mem : row ∈ db.outboxEvents)
    (hid : row.eventId = event.eventId) (error : String) (stamp : FailureStamp) :
    Recorded handlers event db (db.attemptFailed handlers policy event error stamp) := by
  unfold Database.attemptFailed
  split
  · exact ⟨⟨_, rfl, rfl, rfl⟩,
      .inr ⟨⟨_, mem_update.mpr (.inl ⟨row, mem, hid, rfl⟩), hid, rfl⟩, _,
        List.mem_append_right _ (List.mem_singleton.mpr rfl), rfl⟩⟩
  · exact ⟨⟨_, rfl, rfl, rfl⟩,
      .inl ⟨_, mem_update.mpr (.inl ⟨row, mem, hid, rfl⟩), hid, rfl, rfl⟩⟩

/-! ## §2. One round. -/

section round
variable {handlers : HandlerMap} {policy : RetryPolicy} {rejects : Database → Option String}
  {event : OutboxEvent} {s : Session Database}

/-- A round whose `try` block raised returns exactly when the failure can be
recorded, and then it is. -/
theorem round_of_error (dep : s.world.Dependable rejects) (hb : Businesslike rejects)
    {e : Failure PyError} {u : Session Database} (hworld : u.world = s.world)
    (h : handleEvent handlers event s = .error e u) :
    ((∃ v t, dispatchEvent handlers policy event s = .ok v t)
        ↔ Usable handlers policy rejects event (.error e u))
      ∧ ∀ v t, dispatchEvent handlers policy event s = .ok v t →
          Recorded handlers event u.working t.committed := by
  -- a dead process reaches no `except` block
  by_cases hcrash : e = .crash
  · subst hcrash
    have hnever : ∀ v t, dispatchEvent handlers policy event s ≠ .ok v t := by
      intro v t hd
      rw [dispatchEvent_of_crash h] at hd
      simp at hd
    exact ⟨⟨fun ⟨v, t, hd⟩ => absurd hd (hnever v t), fun hu => absurd rfl hu.1⟩,
      fun v t hd => absurd hd (hnever v t)⟩
  · rw [dispatchEvent_of_error hcrash h]
    have dep' : u.world.Dependable rejects := hworld ▸ dep
    -- otherwise all depends on whether the record can be written
    have hiff := recordEventFailure_returns_iff dep' hb handlers policy event e
    have hrun : ∀ active accepted, _ := fun active accepted =>
      (recordEventFailure_accepted dep' hb active accepted handlers policy event e).2
    refine ⟨⟨fun ⟨v, t, hd⟩ => ?_, fun hu => ?_⟩, fun v t hd => ?_⟩
    · obtain ⟨_, w, hw, -⟩ := bind_eq_ok.mp hd
      exact ⟨hcrash, hiff.mp ⟨_, w, hw⟩⟩
    · obtain ⟨-, active, accepted, room⟩ := hu
      obtain ⟨n, hr⟩ := hrun active accepted room
      have hcommit := commit_accepted (ε := PyError) (s := u.goto (u.working.attemptFailed handlers
        policy event (failureText e) (failureStamp handlers policy event u)) n) dep' active
        ((businesslike_attemptFailed hb handlers policy event _ _ _).trans accepted)
        ((admits_iff _).mpr (room.attemptFailed _))
      exact ⟨_, _, bind_eq_ok.mpr ⟨_, _, hr, hcommit⟩⟩
    · obtain ⟨_, w, hw, hc⟩ := bind_eq_ok.mp hd
      obtain ⟨active, accepted, room⟩ := hiff.mp ⟨_, w, hw⟩
      obtain ⟨n, hr⟩ := hrun active accepted room
      rw [hr] at hw
      simp only [EStateM.Result.ok.injEq] at hw
      obtain ⟨-, rfl⟩ := hw
      obtain ⟨-, m, rfl⟩ := commit_keyed hc
      obtain ⟨row, hrow⟩ := room.present
      exact recorded_attemptFailed (List.mem_of_find?_eq_some hrow)
        (by simpa using List.find?_some hrow) _ _

/-- **One round.**  It returns exactly when the handler left a usable session,
and then a failure of the handler is on record. -/
theorem round_returns_iff (dep : s.world.Dependable rejects) (hb : Businesslike rejects)
    (hw : handlers.KeepWorld) :
    ((∃ v t, dispatchEvent handlers policy event s = .ok v t)
        ↔ Usable handlers policy rejects event (callHandler handlers event s))
      ∧ ∀ v t, dispatchEvent handlers policy event s = .ok v t →
          ∀ e u, callHandler handlers event s = .error e u →
            Recorded handlers event u.working t.committed := by
  have hworld := keepsWorld_callHandler hw event s
  have hhandle := congrFun (handleEvent_eq handlers event) s
  cases hcall : callHandler handlers event s with
  | error e u =>
      rw [hcall] at hworld
      rw [bind_of_error hcall] at hhandle
      obtain ⟨hiff, hrecorded⟩ := round_of_error dep hb hworld hhandle
      refine ⟨hiff, fun v t hd e' u' heq => ?_⟩
      simp only [EStateM.Result.error.injEq] at heq
      rw [← heq.2]
      exact hrecorded v t hd
  | ok _ u =>
      rw [hcall] at hworld
      have hworld : u.world = s.world := hworld
      rw [bind_of_ok hcall] at hhandle
      refine ⟨?_, fun v t _ e' u' heq => nomatch heq⟩
      cases hfind : u.working.findOutboxEvent event.eventId with
      | none =>
          -- `mark_published` raises, and no attempt can refer to the event
          rw [markPublished_of_none hfind] at hhandle
          obtain ⟨hiff, -⟩ := round_of_error dep hb hworld hhandle
          rw [hiff]
          constructor
          · rintro ⟨-, -, -, room⟩
            obtain ⟨row, hrow⟩ := room.present
            rw [hfind] at hrow
            exact nomatch hrow
          · rintro ⟨-, -, -, row, hrow⟩
            rw [hfind] at hrow
            exact nomatch hrow
      | some row =>
          rw [markPublished_of_some hfind] at hhandle
          have dep' : (u.goto (u.working.updateOutboxEvent event.eventId
              (·.published (u.world.now u.tick))) (u.tick + 1)).world.Dependable rejects := by
            show u.world.Dependable rejects
            exact hworld ▸ dep
          have hcommit := commit_returns_iff (ε := PyError) dep'
          have hbusiness : rejects (u.working.updateOutboxEvent event.eventId
              (·.published (u.world.now u.tick))) = rejects u.working := hb u.working _ _ _
          have hkeyed : (u.working.updateOutboxEvent event.eventId
              (·.published (u.world.now u.tick))).Keyed ↔ u.working.Keyed :=
            keyed_updateOutboxEvent fun _ => rfl
          rw [dispatchEvent_of_ok hhandle]
          refine hcommit.trans ?_
          rw [admits_iff]
          show u.active = true ∧ rejects (u.working.updateOutboxEvent event.eventId _) = none
            ∧ (u.working.updateOutboxEvent event.eventId _).Keyed ↔ _
          rw [hbusiness, hkeyed]
          exact ⟨fun ⟨active, accepted, keyed⟩ => ⟨active, accepted, keyed, row, hfind⟩,
            fun ⟨active, accepted, keyed, _⟩ => ⟨active, accepted, keyed⟩⟩

end round

/-! ## §3. Batches. -/

/-- Every event of the batch gets its round, and every failure is on record
before the next one. -/
def Dispatched (handlers : HandlerMap) (policy : RetryPolicy) :
    List OutboxEvent → Session Database → Prop
  | [], _ => True
  | event :: events, s => ∃ v t, dispatchEvent handlers policy event s = .ok v t
      ∧ (∀ e u, callHandler handlers event s = .error e u →
          Recorded handlers event u.working t.committed)
      ∧ Dispatched handlers policy events t

/-- Every handler the batch reaches leaves a usable session. -/
def AllUsable (handlers : HandlerMap) (policy : RetryPolicy)
    (rejects : Database → Option String) : List OutboxEvent → Session Database → Prop
  | [], _ => True
  | event :: events, s =>
      Usable handlers policy rejects event (callHandler handlers event s)
        ∧ ∀ v t, dispatchEvent handlers policy event s = .ok v t →
            AllUsable handlers policy rejects events t

theorem dispatched_iff {handlers : HandlerMap} {policy : RetryPolicy}
    {rejects : Database → Option String} (hb : Businesslike rejects) (hw : handlers.KeepWorld) :
    ∀ (events : List OutboxEvent) (s : Session Database), s.world.Dependable rejects →
      (Dispatched handlers policy events s ↔ AllUsable handlers policy rejects events s) := by
  intro events
  induction events with
  | nil => intro s _; exact Iff.rfl
  | cons event events ih =>
      intro s dep
      obtain ⟨hiff, hrecorded⟩ := round_returns_iff dep hb hw
      have hnext : ∀ v t, dispatchEvent handlers policy event s = .ok v t →
          t.world.Dependable rejects := by
        intro v t hd
        have hworld := keepsWorld_dispatchEvent hw policy event s
        rw [hd] at hworld
        have hworld : t.world = s.world := hworld
        exact hworld ▸ dep
      constructor
      · rintro ⟨v, t, hd, -, hrest⟩
        refine ⟨hiff.mp ⟨v, t, hd⟩, fun v' t' hd' => ?_⟩
        rw [hd, EStateM.Result.ok.injEq] at hd'
        obtain ⟨-, rfl⟩ := hd'
        exact (ih t (hnext v t hd)).mp hrest
      · rintro ⟨husable, hrest⟩
        obtain ⟨v, t, hd⟩ := hiff.mpr husable
        exact ⟨v, t, hd, hrecorded v t hd, (ih t (hnext v t hd)).mpr (hrest v t hd)⟩

/-- Rounds that all return make a loop that returns. -/
theorem forM_of_dispatched {handlers : HandlerMap} {policy : RetryPolicy} :
    ∀ (events : List OutboxEvent) (s : Session Database), Dispatched handlers policy events s →
      ∃ u t, events.forM (dispatchEvent handlers policy) s = .ok u t
  | [], s, _ => ⟨_, s, rfl⟩
  | event :: events, s, h => by
      obtain ⟨v, t, hd, -, hrest⟩ := h
      obtain ⟨u, w, hw⟩ := forM_of_dispatched events t hrest
      exact ⟨u, w, bind_eq_ok.mpr ⟨v, t, hd, hw⟩⟩

/-- The session after `fetch_pending`. -/
def afterFetch (s : Session Database) : Session Database := s.goto s.working (s.tick + 2)

/-- `dispatch_pending_batch` returns, with every fetched event dispatched and
every failure on record. -/
def BatchDispatched (handlers : HandlerMap) (limit : Nat) (policy : RetryPolicy)
    (s : Session Database) : Prop :=
  (∃ t, dispatchPendingBatch handlers limit policy s = .ok (fetchedEvents limit s).length t)
    ∧ Dispatched (handlersOrDefault handlers) policy (fetchedEvents limit s) (afterFetch s)

theorem fetchPending_accepted {rejects : Database → Option String} {s : Session Database}
    (dep : s.world.Dependable rejects) (active : s.active = true)
    (accepted : rejects s.working = none) (limit : Nat) :
    fetchPending limit s = .ok (fetchedEvents limit s) (afterFetch s) := by
  unfold fetchPending
  rw [bind_of_ok (now_apply _)]
  exact query_accepted (s := s.goto s.working (s.tick + 1)) dep active accepted _

/-- A batch whose handlers all leave usable sessions gets through. -/
theorem batch_dispatched_of_allUsable {handlers : HandlerMap} (limit : Nat) {policy : RetryPolicy}
    {rejects : Database → Option String} {s : Session Database}
    (hw : (handlersOrDefault handlers).KeepWorld) (hb : Businesslike rejects)
    (dep : s.world.Dependable rejects) (clean : s.Clean) (accepted : rejects s.committed = none)
    (usable : AllUsable (handlersOrDefault handlers) policy rejects (fetchedEvents limit s)
      (afterFetch s)) :
    BatchDispatched handlers limit policy s := by
  obtain ⟨active, hworking⟩ := clean
  have hfetch := fetchPending_accepted dep active (hworking ▸ accepted) limit
  have hrounds := (dispatched_iff hb hw (fetchedEvents limit s) (afterFetch s) dep).mpr usable
  obtain ⟨u, t, ht⟩ := forM_of_dispatched _ _ hrounds
  exact ⟨⟨t, bind_eq_ok.mpr ⟨_, _, hfetch, bind_eq_ok.mpr ⟨u, t, ht, rfl⟩⟩⟩, hrounds⟩

/-- **A poison event stops the batch**: after a database error inside its
handler nothing is recorded, nothing of the batch behind it is dispatched,
and what is committed is what the handler had committed by itself. -/
theorem poison_event_stops_batch {handlers : HandlerMap} {policy : RetryPolicy}
    {event : OutboxEvent} {events : List OutboxEvent} {s u : Session Database}
    {e : Failure PyError} (h : callHandler handlers event s = .error e u)
    (inactive : u.active = false) (alive : e ≠ .crash) :
    (event :: events).forM (dispatchEvent handlers policy) s = .error .pendingRollback u := by
  have hhandle : handleEvent handlers event s = .error e u := by
    rw [handleEvent_eq, bind_of_error h]
  have hround : dispatchEvent handlers policy event s = .error .pendingRollback u := by
    rw [dispatchEvent_of_error alive hhandle]
    exact bind_of_error (recordEventFailure_of_inactive inactive)
  exact bind_of_error hround

/-! ## §4. A poison event. -/

/-- The `InventoryReserved` event of an order of `quantity` pieces. -/
def reservedEvent (eventId orderId : String) (quantity unitPriceCents : Int) : OutboxEvent :=
  EventDraft.row
    { eventType := "InventoryReserved"
      eventVersion := 1
      aggregateType := "Order"
      aggregateId := orderId
      correlationId := orderId
      causationId := none
      payload :=
        [("order_id", .str orderId),
         ("items", .arr [.obj [("sku", .str "YACHT"), ("quantity", .int quantity),
          ("unit_price_cents", .int unitPriceCents), ("product_name", .str "Yacht")]])] }
    eventId 0

/-- An outbox of one event. -/
def soleEvent (event : OutboxEvent) : Database :=
  { Database.empty with outboxEvents := [event] }

theorem keyed_soleEvent (event : OutboxEvent) : (soleEvent event).Keyed :=
  keyed_addOutboxEvent Database.keyed_empty fun row hrow => by simp [Database.empty] at hrow

end EventCart
