/-
  EventCart.Dispatchers.Reports
  ─────────────────────────────
  **WHAT THE DISPATCHER REPORTS IS WHAT IT DID.**

  `dispatch_pending_batch` returns the length of the list it fetched, and
  `dispatch_until_idle` the sum over its batches; neither looks at what became
  of the events.  For handlers that insert events and no more, the number is
  right all the same: the tables show that many events newly PUBLISHED and
  failures newly recorded, together (`reports_results`).

    §1  the results on record, and the step lemma of a round;
    §2  batches and `dispatch_until_idle`.
-/
import EventCart.Dispatchers.Draining

namespace EventCart

open EventCart.Lib
open EventCart.Lib.Tx

/-! ## §1. Results. -/

/-- 1 for an event that was delivered. -/
def OutboxEvent.delivered (event : OutboxEvent) : Nat :=
  if event.status = .PUBLISHED then 1 else 0

/-- The results on record: delivered events and failed attempts. -/
def Database.results (db : Database) : Nat :=
  (db.outboxEvents.map (·.delivered)).sum + db.attempts.length

/-- Inserted events are not delivered yet. -/
theorem Appends.results {db base : Database} (left : Appends db base) :
    base.results = db.results := by
  obtain ⟨new, hnew, fresh⟩ := left.outboxEvents
  have hzero : (new.map (·.delivered)).sum = 0 := by
    apply List.sum_eq_zero
    intro n hn
    obtain ⟨event, mem, rfl⟩ := List.mem_map.mp hn
    unfold OutboxEvent.delivered
    rw [(fresh event mem).status]
    rfl
  unfold Database.results
  rw [hnew, left.attempts, List.map_append, List.sum_append, hzero, Nat.add_zero]

/-- One event is rewritten. -/
theorem results_updateOutboxEvent {db : Database} (nodup : (db.outboxEvents.map (·.eventId)).Nodup)
    {event : OutboxEvent} (mem : event ∈ db.outboxEvents) (f : OutboxEvent → OutboxEvent) :
    (db.updateOutboxEvent event.eventId f).results + event.delivered
      = db.results + (f event).delivered := by
  have hsum : ((update (·.eventId) event.eventId f db.outboxEvents).map (·.delivered)).sum
        + event.delivered
      = (db.outboxEvents.map (·.delivered)).sum + (f event).delivered :=
    sum_update nodup mem rfl fun _ _ _ => rfl
  show ((update (·.eventId) event.eventId f db.outboxEvents).map (·.delivered)).sum
      + db.attempts.length + _ = (db.outboxEvents.map (·.delivered)).sum + db.attempts.length + _
  omega

theorem eventIds_attemptFailed (db : Database) (handlers : HandlerMap) (policy : RetryPolicy)
    (event : OutboxEvent) (error : String) (stamp : FailureStamp) :
    (db.attemptFailed handlers policy event error stamp).outboxEvents.map (·.eventId)
      = db.outboxEvents.map (·.eventId) := by
  unfold Database.attemptFailed Database.updateOutboxEvent
  split
  · exact map_update_of_eq (by intro _ _; rfl) db.outboxEvents
  · exact map_update_of_eq (by intro _ _; rfl) db.outboxEvents

section round
variable {handlers : HandlerMap} {policy : RetryPolicy} {event : OutboxEvent}
  {s t : Session Database} {a : PUnit}

/-- A recorded failure is one more result. -/
theorem results_attemptFailed {db : Database} (nodup : (db.outboxEvents.map (·.eventId)).Nodup)
    (mem : event ∈ db.outboxEvents) (pending : event.status = .PENDING) (error : String)
    (stamp : FailureStamp) :
    (db.attemptFailed handlers policy event error stamp).results = db.results + 1 := by
  have hnone : event.delivered = 0 := if_neg (by rw [pending]; decide)
  -- the event is rewritten on top of the attempt, and is not delivered
  have hrewritten : ∀ (base : Database) (f : OutboxEvent → OutboxEvent),
      base.outboxEvents = db.outboxEvents →
      base.attempts = db.attempts ++ [db.failureAttempt handlers event error stamp] →
      (f event).delivered = 0 →
      (base.updateOutboxEvent event.eventId f).results = db.results + 1 := by
    intro base f hevents hattempts hf
    have hupdate := results_updateOutboxEvent (hevents ▸ nodup) (hevents ▸ mem) f
    have hbase : base.results = db.results + 1 := by
      unfold Database.results
      rw [hevents, hattempts, List.length_append]
      rfl
    omega
  unfold Database.attemptFailed
  split
  · exact hrewritten _ _ rfl rfl (if_neg (by simp [OutboxEvent.failed]))
  · exact hrewritten _ _ rfl rfl (if_neg (by simp [OutboxEvent.retried]))

/-- **A round that returns has one result.** -/
theorem results_round (append : handlers.Append) (clean : s.Clean) (keyed : s.committed.Keyed)
    (mem : event ∈ s.committed.outboxEvents) (pending : event.status = .PENDING)
    (h : dispatchEvent handlers policy event s = .ok a t) :
    t.committed.results = s.committed.results + 1 := by
  have hleft : Appends s.committed (after (callHandler handlers event s)).working
      ∧ Appends s.committed (after (callHandler handlers event s)).committed :=
    callHandler_within appends_frame clean fun registration hlookup envelope _ =>
      (append.within _ registration hlookup envelope).of_clean appends_frame clean
  have hkeyed := append.keyed policy event keyed
  rw [h] at hkeyed
  have hkeyed : t.committed.Keyed := hkeyed
  have hnone : event.delivered = 0 := if_neg (by rw [pending]; decide)
  cases dispatchEvent_returned h with
  -- one event more is delivered: the handler only inserted
  | @published _ u v call handled row found publishedAt committed =>
      rw [call] at hleft
      have left : Appends s.committed u.working := hleft.1
      rw [committed] at hkeyed ⊢
      have hupdate := results_updateOutboxEvent
        ((keyed_updateOutboxEvent (by intro _; rfl)).mp hkeyed).outboxEvents (left.mem mem)
        (·.published publishedAt)
      rw [hnone, left.results] at hupdate
      exact hupdate
  | @failed e u alive call handled active stamp committed later =>
      -- raised by the handler, or after it: either way it only inserted
      have left : Appends s.committed u.working := by
        rcases call with call | ⟨⟨b, call⟩, -⟩
        · rw [call] at hleft
          exact hleft.1
        · rw [call] at hleft
          exact hleft.1
      have hnodup : (u.working.outboxEvents.map (·.eventId)).Nodup := by
        have hids := hkeyed.outboxEvents
        rw [committed, eventIds_attemptFailed] at hids
        exact hids
      rw [committed, results_attemptFailed hnodup (left.mem mem) pending, left.results]

end round

/-! ## §2. Batches. -/

section batch
variable {handlers : HandlerMap} {policy : RetryPolicy}

/-- The loop of a batch has one result for each event. -/
theorem results_loop (append : handlers.Append) :
    ∀ (events : List OutboxEvent) (s t : Session Database) (u : PUnit),
      s.Clean → s.committed.Keyed →
      (∀ row ∈ events, row ∈ s.committed.outboxEvents ∧ row.status = .PENDING) →
      (events.map (·.eventId)).Nodup →
      events.forM (dispatchEvent handlers policy) s = .ok u t →
      t.Clean ∧ t.committed.Keyed ∧ t.committed.results = s.committed.results + events.length := by
  intro events
  induction events with
  | nil =>
      intro s t u clean keyed _ _ hloop
      change (pure _ : App PUnit) s = .ok u t at hloop
      rw [pure_apply, EStateM.Result.ok.injEq] at hloop
      obtain ⟨-, rfl⟩ := hloop
      exact ⟨clean, keyed, rfl⟩
  | cons row events ih =>
      intro s t u clean keyed hrows hnodup hloop
      obtain ⟨_, v, hround, hloop⟩ := bind_eq_ok.mp hloop
      rw [List.map_cons, List.nodup_cons] at hnodup
      obtain ⟨mem, pending⟩ := hrows row List.mem_cons_self
      have hone := results_round append clean keyed mem pending hround
      have hkeyed := append.keyed policy row keyed
      have heffect := append.round policy row clean
      rw [hround] at hkeyed heffect
      -- the round left the events still to come as they were selected
      have hrest : ∀ other ∈ events, other ∈ v.committed.outboxEvents ∧ other.status = .PENDING := by
        intro other hother
        obtain ⟨mem', pending'⟩ := hrows other (List.mem_cons_of_mem _ hother)
        exact ⟨heffect.others mem' fun heq => hnodup.1 (heq ▸ List.mem_map_of_mem hother), pending'⟩
      obtain ⟨hclean, hkeyed', hresults⟩ :=
        ih v t u (dispatchEvent_clean hround) hkeyed hrest hnodup.2 hloop
      refine ⟨hclean, hkeyed', ?_⟩
      rw [hresults, hone, List.length_cons]
      omega

/-- **A batch that returns** reports its results. -/
theorem results_batch {limit n : Nat} {s t : Session Database}
    (append : (handlersOrDefault handlers).Append) (clean : s.Clean) (keyed : s.committed.Keyed)
    (h : dispatchPendingBatch handlers limit policy s = .ok n t) :
    t.Clean ∧ t.committed.Keyed ∧ t.committed.results = s.committed.results + n := by
  obtain ⟨events, v, hfetch, hrest⟩ := bind_eq_ok.mp h
  obtain ⟨_, w, hloop, hpure⟩ := bind_eq_ok.mp hrest
  rw [pure_apply, EStateM.Result.ok.injEq] at hpure
  obtain ⟨rfl, rfl⟩ := hpure
  obtain ⟨rfl, m, rfl⟩ := fetchPending_ok hfetch
  exact results_loop append (fetchedEvents limit s) (s.goto s.working m) w _ clean keyed
    (fun row mem => clean.2 ▸ mem_pending mem)
    (pending_nodup (clean.2 ▸ keyed.outboxEvents) _ _) hloop

/-- The loop of `dispatch_until_idle`, from a running total. -/
theorem results_dispatchLoop {limit : Nat} (append : (handlersOrDefault handlers).Append) :
    ∀ (maxBatches dispatchedTotal n : Nat) (s t : Session Database), s.Clean → s.committed.Keyed →
      dispatchLoop handlers limit policy maxBatches dispatchedTotal s = .ok n t →
      t.committed.results + dispatchedTotal = s.committed.results + n := by
  intro maxBatches
  induction maxBatches with
  | zero =>
      intro dispatchedTotal n s t _ _ h
      cases h
  | succ maxBatches ih =>
      intro dispatchedTotal n s t clean keyed h
      obtain ⟨dispatchedCount, u, hbatch, hrest⟩ := bind_eq_ok.mp h
      obtain ⟨hclean, hkeyed, hresults⟩ := results_batch append clean keyed hbatch
      -- an empty batch ends the loop with the total it has
      by_cases hzero : dispatchedCount = 0
      · rw [if_pos hzero, pure_apply, EStateM.Result.ok.injEq] at hrest
        obtain ⟨rfl, rfl⟩ := hrest
        omega
      · rw [if_neg hzero] at hrest
        have hlater := ih (dispatchedTotal + dispatchedCount) n u t hclean hkeyed hrest
        omega

end batch

/-- **The reports are right.**  For any handlers that insert events and no
more, whichever of them return, raise or are missing: the number that
`dispatch_pending_batch` or `dispatch_until_idle` returns is the number of
events it published and failures it recorded, as the tables show them. -/
theorem reports_results {handlers : HandlerMap} (append : (handlersOrDefault handlers).Append)
    (policy : RetryPolicy) (limit : Nat) {world : World Database} {tick : Nat} {db : Database}
    (keyed : db.Keyed) :
    (∀ n t, dispatchPendingBatch handlers limit policy (Session.begin world tick db) = .ok n t →
      t.committed.results = db.results + n)
    ∧ ∀ maxBatches n t, dispatchUntilIdle handlers limit maxBatches policy
          (Session.begin world tick db) = .ok n t →
        t.committed.results = db.results + n := by
  refine ⟨fun n t h => ?_, fun maxBatches n t h => ?_⟩
  · exact (results_batch append (begin_clean world tick db) keyed h).2.2
  · have hloop := results_dispatchLoop append maxBatches 0 n _ t (begin_clean world tick db) keyed h
    exact hloop

/-- An `InventoryReserved` event of an order nobody placed. -/
def strayReservation : Session Database :=
  Session.begin World.calm 0 (soleEvent (reservedEvent "event-1" "order-1" 1 250))

/-- The default handlers, on the event of an order nobody placed: three events
are published, and the fourth fails. -/
theorem reports_results_stray :
    ∃ t, dispatchUntilIdle defaultEventHandlers 50 16 {} strayReservation = .ok 4 t
      ∧ t.committed.results = 4 := by
  have hvalue : value? (dispatchUntilIdle defaultEventHandlers 50 16 {} strayReservation)
      = some 4 := by decide +kernel
  cases hrun : dispatchUntilIdle defaultEventHandlers 50 16 {} strayReservation with
  | error e t =>
      rw [hrun] at hvalue
      cases hvalue
  | ok n t =>
      rw [hrun] at hvalue
      obtain rfl : n = 4 := Option.some.inj hvalue
      refine ⟨t, rfl, ?_⟩
      exact (reports_results (sagaHandlers_append fun _ => false).orDefault {} 50
        (keyed_soleEvent (reservedEvent "event-1" "order-1" 1 250))).2 16 4 t hrun

end EventCart
