/-
  EventCart.DispatchEffects
  ─────────────────────────
  **ONE ROUND OF THE DISPATCHER, FOR ANY HANDLERS.**

  A round calls the handler of one event, marks the event published or
  records the failure, and commits.  What the round leaves committed is one
  of three states:

    • what the handler had committed by itself (the process died, or the
      session was left waiting for a rollback),
    • the handler's objects and the published event,
    • the handler's objects and the recorded failure (`attemptFailed`).

  A batch is a run of rounds (`dispatchPendingBatch_run`), because a round
  that returns leaves a clean session.  In a database that rejects rows and
  nothing else, a failure is recorded exactly on a session that can still be
  flushed and when the retry it needs can be scheduled
  (`recordEventFailure_returns_iff`).
-/
import EventCart.Dispatcher
import EventCart.Effects

namespace EventCart

open EventCart.Lib
open EventCart.Lib.Tx

/-! ## §1. Recording a failure. -/

/-- The identifiers and times drawn while a failure is recorded. -/
structure FailureStamp where
  attemptId : String
  attemptedAt : DateTime
  deadLetterId : String
  failedAt : DateTime

/-- The number the next recorded failure of the event gets. -/
def Database.failureNumber (handlers : HandlerMap) (event : OutboxEvent) (db : Database) : Int :=
  db.nextAttempt event.eventId (consumerNameForFailure event.eventType handlers)

/-- The attempt row of a failure. -/
def Database.failureAttempt (handlers : HandlerMap) (event : OutboxEvent) (error : String)
    (stamp : FailureStamp) (db : Database) : EventProcessingAttempt :=
  ⟨stamp.attemptId, event.eventId, consumerNameForFailure event.eventType handlers,
    db.failureNumber handlers event, clip error, stamp.attemptedAt⟩

/-- The rows after a failed attempt was recorded: an attempt, and a retry or
a dead letter. -/
def Database.attemptFailed (handlers : HandlerMap) (policy : RetryPolicy) (event : OutboxEvent)
    (error : String) (stamp : FailureStamp) (db : Database) : Database :=
  if db.failureNumber handlers event ≥ policy.maxAttempts then
    ((db.addAttempt (db.failureAttempt handlers event error stamp)).addDeadLetter
      (event.deadLetter stamp.deadLetterId (consumerNameForFailure event.eventType handlers)
        (db.failureNumber handlers event) error stamp.failedAt)).updateOutboxEvent event.eventId
      (·.failed error)
  else
    (db.addAttempt (db.failureAttempt handlers event error stamp)).updateOutboxEvent
      event.eventId (·.retried error
        (stamp.failedAt + policy.delay (db.failureNumber handlers event)))

/-- The record of a failure leaves the other events alone. -/
theorem mem_attemptFailed {db : Database} {handlers : HandlerMap} {policy : RetryPolicy}
    {event other : OutboxEvent} {error : String} {stamp : FailureStamp}
    (mem : other ∈ db.outboxEvents) (hne : other.eventId ≠ event.eventId) :
    other ∈ (db.attemptFailed handlers policy event error stamp).outboxEvents := by
  unfold Database.attemptFailed
  split
  · exact mem_update.mpr (.inr ⟨mem, hne⟩)
  · exact mem_update.mpr (.inr ⟨mem, hne⟩)

/-- The record of a failure is one more attempt. -/
theorem attempts_attemptFailed (db : Database) (handlers : HandlerMap) (policy : RetryPolicy)
    (event : OutboxEvent) (error : String) (stamp : FailureStamp) :
    (db.attemptFailed handlers policy event error stamp).attempts
      = db.attempts ++ [db.failureAttempt handlers event error stamp] := by
  unfold Database.attemptFailed
  split
  · rfl
  · rfl

/-- The record of a failure is written to the three tables of delivery. -/
theorem attemptFailed_delivery (handlers : HandlerMap) (policy : RetryPolicy) (event : OutboxEvent)
    (error : String) (stamp : FailureStamp) (db : Database) :
    ∃ outboxEvents attempts deadLetters, db.attemptFailed handlers policy event error stamp
      = { db with outboxEvents, attempts, deadLetters } := by
  unfold Database.attemptFailed
  split
  · exact ⟨_, _, _, rfl⟩
  · exact ⟨_, _, _, rfl⟩

theorem forward_recordFailure (eventId consumerName error : String) :
    Forward (recordFailure eventId consumerName error) :=
  ((forward_query _).bind fun _ => forward_pure _).bind fun _ => forward_uuid4.bind fun _ =>
    forward_now.bind fun _ => (forward_write _).bind fun _ => forward_flush.bind fun _ =>
      forward_pure _

/-- A recorded failure is `attemptFailed`; a retry is scheduled, from a time
after the handler raised. -/
theorem recordEventFailure_stamped {handlers : HandlerMap} {policy : RetryPolicy}
    {event : OutboxEvent} {error : Failure PyError} {s t : Session Database} {u : Unit}
    (h : recordEventFailure handlers policy event error s = .ok u t) :
    ∃ stamp n, t = s.goto
      (s.working.attemptFailed handlers policy event (failureText error) stamp) n
        ∧ (s.working.failureNumber handlers event < policy.maxAttempts →
            (∃ m ≥ s.tick, stamp.failedAt = s.world.now m)
              ∧ policy.Schedules (s.working.failureNumber handlers event) stamp.failedAt) := by
  obtain ⟨attempt, v, hv, h⟩ := bind_eq_ok.mp h
  have htick := (forward_recordFailure _ _ _).tick_le hv
  obtain ⟨id, at', n, rfl, -, rfl⟩ := recordFailure_ok hv
  unfold Database.attemptFailed
  split at h
  next hmax =>
    obtain ⟨row, w, hw, h⟩ := bind_eq_ok.mp h
    obtain ⟨did, dat, m, rfl, -, rfl⟩ := moveToDeadLetter_ok hw
    have hmax : s.working.failureNumber handlers event ≥ policy.maxAttempts := hmax
    refine ⟨⟨id, at', did, dat⟩, m, ?_, fun hfew => absurd hmax (not_le.mpr hfew)⟩
    rw [if_pos hmax]
    exact markFailed_ok h
  next hmax =>
    obtain ⟨failedAt, w, hw, h⟩ := bind_eq_ok.mp h
    simp only [now_apply, EStateM.Result.ok.injEq] at hw
    obtain ⟨rfl, rfl⟩ := hw
    obtain ⟨nextAttemptAt, hnext, h⟩ := ofExcept_bind_eq_ok.mp h
    obtain ⟨hscheduled, rfl⟩ := nextAttemptAt_eq_ok.mp hnext
    refine ⟨⟨id, at', "", s.world.now n⟩, n + 1, ?_, fun _ => ⟨⟨n, htick, rfl⟩, hscheduled⟩⟩
    rw [if_neg (show ¬ s.working.failureNumber handlers event ≥ policy.maxAttempts from hmax)]
    exact markRetryableFailure_ok h

theorem recordEventFailure_ok {handlers : HandlerMap} {policy : RetryPolicy}
    {event : OutboxEvent} {error : Failure PyError} {s t : Session Database} {u : Unit}
    (h : recordEventFailure handlers policy event error s = .ok u t) :
    ∃ stamp n, t = s.goto
      (s.working.attemptFailed handlers policy event (failureText error) stamp) n := by
  obtain ⟨stamp, n, ht, -⟩ := recordEventFailure_stamped h
  exact ⟨stamp, n, ht⟩

/-- On a session that waits for a rollback no failure can be recorded. -/
theorem recordEventFailure_of_inactive {handlers : HandlerMap} {policy : RetryPolicy}
    {event : OutboxEvent} {error : Failure PyError} {s : Session Database}
    (h : s.active = false) :
    recordEventFailure handlers policy event error s = .error .pendingRollback s :=
  bind_of_error (bind_of_error (bind_of_error (bind_of_error (statement_of_inactive h))))

theorem quiet_getEvent (eventId : String) : Quiet (getEvent eventId) := by
  refine (quiet_peek _).bind fun found => ?_
  cases found with
  | none => exact quiet_raise _
  | some event => exact quiet_pure _

theorem quiet_markPublished (eventId : String) : Quiet (markPublished eventId) :=
  (quiet_getEvent _).bind fun _ => quiet_now.bind fun _ => quiet_write _

theorem quiet_recordFailure (eventId consumerName error : String) :
    Quiet (recordFailure eventId consumerName error) :=
  ((quiet_query _).bind fun _ => quiet_pure _).bind fun _ => quiet_uuid4.bind fun _ =>
    quiet_now.bind fun _ => (quiet_write _).bind fun _ => quiet_flush.bind fun _ => quiet_pure _

theorem quiet_moveToDeadLetter (event : OutboxEvent) (consumerName : String)
    (attemptNumber : Int) (error : String) :
    Quiet (moveToDeadLetter event consumerName attemptNumber error) :=
  quiet_uuid4.bind fun _ => quiet_now.bind fun _ => (quiet_write _).bind fun _ =>
    quiet_flush.bind fun _ => quiet_pure _

theorem quiet_markFailed (eventId error : String) : Quiet (markFailed eventId error) :=
  (quiet_getEvent _).bind fun _ => quiet_write _

theorem quiet_markRetryableFailure (eventId error : String) (nextAttemptAt : DateTime) :
    Quiet (markRetryableFailure eventId error nextAttemptAt) :=
  (quiet_getEvent _).bind fun _ => quiet_write _

theorem quiet_recordEventFailure (handlers : HandlerMap) (policy : RetryPolicy)
    (event : OutboxEvent) (error : Failure PyError) :
    Quiet (recordEventFailure handlers policy event error) := by
  refine (quiet_recordFailure _ _ _).bind fun attempt => quiet_ite ?_ ?_
  · exact (quiet_moveToDeadLetter _ _ _ _).bind fun _ => quiet_markFailed _ _
  · exact quiet_now.bind fun _ => (quiet_ofExcept _).bind fun _ =>
      quiet_markRetryableFailure _ _ _

/-! ## §2. One round. -/

/-- The committed state a round leads to. -/
def dispatchRound (handlers : HandlerMap) (policy : RetryPolicy) (event : OutboxEvent)
    (world : World Database) (tick : Nat) (db : Database) : Database :=
  transact (dispatchEvent handlers policy event) world tick db

section round
variable {handlers : HandlerMap} {policy : RetryPolicy} {event : OutboxEvent}
  {s u : Session Database}

/-- The `try` block returned: the round ends with its COMMIT. -/
theorem dispatchEvent_of_ok {a : Unit} (h : handleEvent handlers event s = .ok a u) :
    dispatchEvent handlers policy event s = (commit : App Unit) u :=
  bind_of_ok (tryExcept_of_ok h)

/-- The process died in the `try` block. -/
theorem dispatchEvent_of_crash (h : handleEvent handlers event s = .error .crash u) :
    dispatchEvent handlers policy event s = .error .crash u :=
  bind_of_error (tryExcept_of_crash h)

/-- The `try` block raised: the failure is recorded before the COMMIT. -/
theorem dispatchEvent_of_error {e : Failure PyError} (alive : e ≠ .crash)
    (h : handleEvent handlers event s = .error e u) :
    dispatchEvent handlers policy event s
      = (recordEventFailure handlers policy event e >>= fun _ => (commit : App Unit)) u := by
  have htry : tryExcept (handleEvent handlers event) (recordEventFailure handlers policy event) s
      = recordEventFailure handlers policy event e u := tryExcept_of_error alive h
  show (tryExcept (handleEvent handlers event) (recordEventFailure handlers policy event) >>=
    fun _ => (commit : App Unit)) s = _
  cases hr : recordEventFailure handlers policy event e u with
  | ok a v => rw [bind_of_ok (htry.trans hr), bind_of_ok hr]
  | error e' v => rw [bind_of_error (htry.trans hr), bind_of_error hr]

end round

/-- A commit leaves what was committed, or exactly the working objects. -/
theorem commit_committed (s : Session Database) :
    (after ((commit : App Unit) s)).committed = s.committed
      ∨ s.active = true ∧ s.working.Keyed
        ∧ (after ((commit : App Unit) s)).committed = s.working := by
  cases h : (commit : App Unit) s with
  | ok u t =>
      obtain ⟨ha, hk, n, rfl⟩ := commit_ok h
      exact .inr ⟨ha, (admits_iff _).mp hk, rfl⟩
  | error e t => exact .inl (commit_error h).1

/-- **What a round commits**, by how the handler ended. -/
theorem dispatchEvent_committed (handlers : HandlerMap) (policy : RetryPolicy)
    (event : OutboxEvent) (s : Session Database) :
    let committed := (after (dispatchEvent handlers policy event s)).committed
    match handleEvent handlers event s with
    | .ok _ u => committed = u.committed ∨ u.working.Keyed ∧ committed = u.working
    | .error e u => committed = u.committed ∨ (e ≠ .crash ∧ u.active = true ∧ ∃ stamp,
        (u.working.attemptFailed handlers policy event (failureText e) stamp).Keyed
          ∧ committed = u.working.attemptFailed handlers policy event (failureText e) stamp) := by
  intro committed
  cases h : handleEvent handlers event s with
  | ok _ u =>
      have hround : committed = (after ((commit : App Unit) u)).committed :=
        congrArg (fun r => (after r).committed) (dispatchEvent_of_ok h)
      rcases commit_committed u with hc | ⟨-, hk, hc⟩
      · exact .inl (hround.trans hc)
      · exact .inr ⟨hk, hround.trans hc⟩
  | error e u =>
      -- a crash ends the round here; any other failure reaches the `except` block
      by_cases hcrash : e = .crash
      · subst hcrash
        exact .inl (congrArg (fun r => (after r).committed) (dispatchEvent_of_crash h))
      · have hround : committed = (after ((recordEventFailure handlers policy event e >>= fun _ =>
            (commit : App Unit)) u)).committed :=
          congrArg (fun r => (after r).committed) (dispatchEvent_of_error hcrash h)
        have hq := quiet_recordEventFailure handlers policy event e u
        -- the block itself may fail, and then nothing is committed
        cases hr : recordEventFailure handlers policy event e u with
        | error e' v =>
            rw [hr] at hq
            rw [bind_of_error hr] at hround
            exact .inl (hround.trans hq.1)
        | ok _ v =>
            obtain ⟨stamp, n, hv⟩ := recordEventFailure_ok hr
            have hactive : u.active = true := by
              by_contra hinactive
              rw [recordEventFailure_of_inactive (by simpa using hinactive)] at hr
              simp at hr
            rw [hr] at hq
            rw [bind_of_ok hr] at hround
            rcases commit_committed v with hc | ⟨-, hk, hc⟩
            · exact .inl ((hround.trans hc).trans hq.1)
            · rw [hv] at hk hc
              exact .inr ⟨hcrash, hactive, stamp, hk, by rw [hround, hv]; exact hc⟩

/-! ## §3. Batches. -/

/-- The handlers of a map keep the environment. -/
def HandlerMap.KeepWorld (handlers : HandlerMap) : Prop :=
  ∀ eventType registration, handlers.lookup eventType = some registration →
    ∀ event, KeepsWorld (registration.handler event)

theorem keepsWorld_handleEvent {handlers : HandlerMap} (hw : handlers.KeepWorld)
    (event : OutboxEvent) : KeepsWorld (handleEvent handlers event) := by
  unfold handleEvent
  cases h : handlers.lookup event.eventType with
  | none => exact (quiet_raise _).keepsWorld
  | some registration =>
      exact (quiet_ofExcept _).keepsWorld.bind fun envelope =>
        (hw _ _ h envelope).bind fun _ => (quiet_markPublished _).keepsWorld

theorem keepsWorld_dispatchEvent {handlers : HandlerMap} (hw : handlers.KeepWorld)
    (policy : RetryPolicy) (event : OutboxEvent) :
    KeepsWorld (dispatchEvent handlers policy event) :=
  (KeepsWorld.tryExcept (keepsWorld_handleEvent hw event)
    fun _ => (quiet_recordEventFailure _ _ _ _).keepsWorld).bind fun _ => keepsWorld_commit

theorem dispatchEvent_clean {handlers : HandlerMap} {policy : RetryPolicy} {event : OutboxEvent}
    {s t : Session Database} {u : PUnit} (h : dispatchEvent handlers policy event s = .ok u t) :
    t.Clean := by
  obtain ⟨_, v, _, h⟩ := bind_eq_ok.mp h
  exact commit_clean h

theorem quiet_fetchPending (limit : Nat) : Quiet (fetchPending limit) :=
  quiet_now.bind fun _ => quiet_query _

/-- What `fetch_pending` returns on a session. -/
def fetchedEvents (limit : Nat) (s : Session Database) : List OutboxEvent :=
  s.working.pending limit (s.world.now s.tick)

theorem fetchPending_ok {limit : Nat} {s t : Session Database} {events : List OutboxEvent}
    (h : fetchPending limit s = .ok events t) :
    events = fetchedEvents limit s ∧ ∃ n, t = s.goto s.working n := by
  unfold fetchPending at h
  rw [bind_of_ok (now_apply _)] at h
  obtain ⟨rfl, n, rfl⟩ := query_ok h
  exact ⟨rfl, n, rfl⟩

/-- **A batch opens with `fetch_pending`**: it ends there, with nothing
committed, or goes on with the events fetched. -/
theorem fetchPending_bind {α : Type} (limit : Nat) (f : List OutboxEvent → App α)
    (s : Session Database) :
    (∃ e t, (fetchPending limit >>= f) s = .error e t ∧ t.committed = s.committed)
      ∨ ∃ n, (fetchPending limit >>= f) s = f (fetchedEvents limit s) (s.goto s.working n) := by
  cases hf : fetchPending limit s with
  | error e t =>
      have hquiet := (quiet_fetchPending limit s).1
      rw [hf] at hquiet
      exact .inl ⟨e, t, bind_of_error hf, hquiet⟩
  | ok events t =>
      obtain ⟨rfl, n, rfl⟩ := fetchPending_ok hf
      exact .inr ⟨n, bind_of_ok hf⟩

/-- **A batch is a run of rounds** over some of the events it fetched, in
order. -/
theorem dispatchPendingBatch_run {handlers : HandlerMap}
    (hw : (handlersOrDefault handlers).KeepWorld) (limit : Nat) (policy : RetryPolicy)
    {s : Session Database} (hs : s.Clean) :
    ∃ readyAt, ∃ as : List (OutboxEvent × Nat),
      as.map Prod.fst <+: s.committed.pending limit readyAt
        ∧ (after (dispatchPendingBatch handlers limit policy s)).committed
            = run (fun a db => dispatchRound (handlersOrDefault handlers) policy a.1 s.world
                a.2 db) as s.committed
        ∧ ∀ n t, dispatchPendingBatch handlers limit policy s = .ok n t →
            t.Clean ∧ t.world = s.world := by
  obtain ⟨hactive, hworking⟩ := hs
  unfold dispatchPendingBatch
  -- either the SELECT fails, or the loop runs on what it returned
  rcases fetchPending_bind limit (fun events =>
    events.forM (dispatchEvent (handlersOrDefault handlers) policy) >>= fun _ =>
      (pure events.length : App Nat)) s with ⟨e, t, hbatch, hcommitted⟩ | ⟨n, hbatch⟩
  · refine ⟨0, [], List.nil_prefix, ?_, fun n t' h => ?_⟩
    · rw [hbatch]
      exact hcommitted
    · rw [hbatch] at h
      exact nomatch h
  · obtain ⟨as, hpre, hrun, hok⟩ := forM_run
      (fun event => keepsWorld_dispatchEvent hw policy event)
      (fun event s u t h => dispatchEvent_clean h)
      (fetchedEvents limit s) (s.goto s.working n) ⟨hactive, hworking⟩
    refine ⟨s.world.now s.tick, as, hworking ▸ hpre, ?_, fun m t h => ?_⟩
    · rw [hbatch]
      exact (congrArg Session.committed (after_bind_pure _ _ _)).trans hrun
    · rw [hbatch] at h
      obtain ⟨u, v, hv, h⟩ := bind_eq_ok.mp h
      simp only [pure_apply, EStateM.Result.ok.injEq] at h
      obtain ⟨-, rfl⟩ := h
      obtain ⟨-, hclean, hworld⟩ := hok u v hv
      exact ⟨hclean, hworld⟩

/-! ## §4. Recording a failure in a dependable database. -/

/-- What the database rejects does not depend on the outbox and on the
bookkeeping of failures. -/
def Businesslike (rejects : Database → Option String) : Prop :=
  ∀ (db : Database) outboxEvents attempts deadLetters,
    rejects { db with outboxEvents, attempts, deadLetters } = rejects db

/-- What a session draws while it records a failure. -/
def failureStamp (handlers : HandlerMap) (policy : RetryPolicy) (event : OutboxEvent)
    (s : Session Database) : FailureStamp where
  attemptId := s.world.uuid4 (s.tick + 1)
  attemptedAt := s.world.now (s.tick + 2)
  deadLetterId := s.world.uuid4 (s.tick + 4)
  failedAt :=
    if s.working.failureNumber handlers event ≥ policy.maxAttempts then s.world.now (s.tick + 5)
    else s.world.now (s.tick + 4)

theorem businesslike_attemptFailed {rejects : Database → Option String}
    (h : Businesslike rejects) (handlers : HandlerMap) (policy : RetryPolicy)
    (event : OutboxEvent) (error : String) (stamp : FailureStamp) (db : Database) :
    rejects (db.attemptFailed handlers policy event error stamp) = rejects db := by
  unfold Database.attemptFailed
  split
  · exact h db _ _ _
  · exact h db _ _ _

/-- Delivery bookkeeping leaves the declared keys alone. -/
theorem keyed_updateOutboxEvent {db : Database} {eventId : String}
    {f : OutboxEvent → OutboxEvent} (hf : ∀ event, (f event).eventId = event.eventId) :
    (db.updateOutboxEvent eventId f).Keyed ↔ db.Keyed := by
  have hids : (db.updateOutboxEvent eventId f).outboxEvents.map (·.eventId)
      = db.outboxEvents.map (·.eventId) :=
    map_update_of_eq (fun event _ => hf event) db.outboxEvents
  have hforeign : ∀ key, (∃ event ∈ (db.updateOutboxEvent eventId f).outboxEvents,
      event.eventId = key) ↔ ∃ event ∈ db.outboxEvents, event.eventId = key := by
    intro key
    have hmem := congrArg (key ∈ ·) hids
    simpa only [List.mem_map, eq_iff_iff] using hmem
  constructor
  · intro h
    exact { h with
      outboxEvents := hids ▸ h.outboxEvents
      attemptsEvents := fun row hrow => (hforeign _).mp (h.attemptsEvents row hrow) }
  · intro h
    exact { h with
      outboxEvents := hids.symm ▸ h.outboxEvents
      attemptsEvents := fun row hrow => (hforeign _).mpr (h.attemptsEvents row hrow) }

theorem keyed_addAttempt {db : Database} (keyed : db.Keyed) {row : EventProcessingAttempt}
    (fresh : row.id ∉ db.attempts.map (·.id))
    (event : ∃ event ∈ db.outboxEvents, event.eventId = row.eventId) :
    (db.addAttempt row).Keyed := by
  refine { keyed with
    attempts := nodup_insert keyed.attempts fun other hother hid => ?_
    attemptsEvents := fun other hother => ?_ }
  · exact fresh (hid ▸ List.mem_map_of_mem hother)
  · rcases List.mem_append.mp hother with hother | hother
    · exact keyed.attemptsEvents other hother
    · rw [List.mem_singleton.mp hother]
      exact event

theorem keyed_addAttempt_iff {db : Database} {row : EventProcessingAttempt} :
    (db.addAttempt row).Keyed ↔ db.Keyed ∧ row.id ∉ db.attempts.map (·.id)
      ∧ ∃ event ∈ db.outboxEvents, event.eventId = row.eventId := by
  refine ⟨fun h => ?_, fun ⟨keyed, fresh, event⟩ => keyed_addAttempt keyed fresh event⟩
  have hids : ((db.attempts ++ [row]).map (·.id)).Nodup := h.attempts
  rw [List.map_append, List.map_singleton] at hids
  obtain ⟨hnodup, -, hfresh⟩ := List.nodup_append.mp hids
  refine ⟨{ h with attempts := hnodup, attemptsEvents := fun other hother => ?_ },
    fun hmem => hfresh _ hmem _ (List.mem_singleton.mpr rfl) rfl, ?_⟩
  · exact h.attemptsEvents other (List.mem_append_left _ hother)
  · exact h.attemptsEvents row (List.mem_append_right _ (List.mem_singleton.mpr rfl))

theorem keyed_addDeadLetter {db : Database} (keyed : db.Keyed) {row : DeadLetterEvent}
    (fresh : row.id ∉ db.deadLetters.map (·.id)) : (db.addDeadLetter row).Keyed := by
  refine { keyed with deadLetters := nodup_insert keyed.deadLetters fun other hother hid => ?_ }
  exact fresh (hid ▸ List.mem_map_of_mem hother)

theorem keyed_addDeadLetter_iff {db : Database} {row : DeadLetterEvent} :
    (db.addDeadLetter row).Keyed ↔ db.Keyed ∧ row.id ∉ db.deadLetters.map (·.id) := by
  refine ⟨fun h => ?_, fun ⟨keyed, fresh⟩ => keyed_addDeadLetter keyed fresh⟩
  have hids : ((db.deadLetters ++ [row]).map (·.id)).Nodup := h.deadLetters
  rw [List.map_append, List.map_singleton] at hids
  obtain ⟨hnodup, -, hfresh⟩ := List.nodup_append.mp hids
  exact ⟨{ h with deadLetters := hnodup },
    fun hmem => hfresh _ hmem _ (List.mem_singleton.mpr rfl) rfl⟩

/-- **The record of a failure can be flushed** with the rows there are exactly
under fresh identifiers, for an event of the table. -/
theorem keyed_attemptFailed_iff {db : Database} {handlers : HandlerMap} {policy : RetryPolicy}
    {event : OutboxEvent} {error : String} {stamp : FailureStamp} :
    (db.attemptFailed handlers policy event error stamp).Keyed
      ↔ db.Keyed ∧ (∃ row ∈ db.outboxEvents, row.eventId = event.eventId)
        ∧ stamp.attemptId ∉ db.attempts.map (·.id)
        ∧ (db.failureNumber handlers event ≥ policy.maxAttempts →
            stamp.deadLetterId ∉ db.deadLetters.map (·.id)) := by
  have hattempt : (db.addAttempt (db.failureAttempt handlers event error stamp)).Keyed
      ↔ db.Keyed ∧ stamp.attemptId ∉ db.attempts.map (·.id)
        ∧ ∃ row ∈ db.outboxEvents, row.eventId = event.eventId := keyed_addAttempt_iff
  unfold Database.attemptFailed
  split
  next hmax =>
    rw [keyed_updateOutboxEvent (by intro _; rfl), keyed_addDeadLetter_iff, hattempt]
    exact ⟨fun ⟨⟨keyed, fresh, mem⟩, freshLetter⟩ => ⟨keyed, mem, fresh, fun _ => freshLetter⟩,
      fun ⟨keyed, mem, fresh, freshLetter⟩ => ⟨⟨keyed, fresh, mem⟩, freshLetter hmax⟩⟩
  next hfew =>
    rw [keyed_updateOutboxEvent (by intro _; rfl), hattempt]
    exact ⟨fun ⟨keyed, fresh, mem⟩ => ⟨keyed, mem, fresh, fun hmax => absurd hmax hfew⟩,
      fun ⟨keyed, mem, fresh, _⟩ => ⟨keyed, fresh, mem⟩⟩

/-- An event of the table is found. -/
theorem findOutboxEvent_isSome {db : Database} {eventId : String} :
    (∃ row, db.findOutboxEvent eventId = some row)
      ↔ ∃ row ∈ db.outboxEvents, row.eventId = eventId := by
  rw [← Option.isSome_iff_exists]
  unfold Database.findOutboxEvent
  rw [List.find?_isSome]
  simp only [decide_eq_true_eq]

/-- A session leaves room for the record of a failure: its rows satisfy the
declared keys, the event is among them, the identifiers the session draws are
in no row, and a retry can be scheduled. -/
structure Recordable (handlers : HandlerMap) (policy : RetryPolicy) (event : OutboxEvent)
    (s : Session Database) : Prop where
  keyed : s.working.Keyed
  present : ∃ row, s.working.findOutboxEvent event.eventId = some row
  attempt : (failureStamp handlers policy event s).attemptId ∉ s.working.attempts.map (·.id)
  letter : s.working.failureNumber handlers event ≥ policy.maxAttempts →
    (failureStamp handlers policy event s).deadLetterId ∉ s.working.deadLetters.map (·.id)
  retry : s.working.failureNumber handlers event < policy.maxAttempts →
    policy.Schedules (s.working.failureNumber handlers event)
      (failureStamp handlers policy event s).failedAt

/-- Then the record can be flushed. -/
theorem Recordable.attemptFailed {handlers : HandlerMap} {policy : RetryPolicy}
    {event : OutboxEvent} {s : Session Database} (h : Recordable handlers policy event s)
    (error : String) :
    (s.working.attemptFailed handlers policy event error
      (failureStamp handlers policy event s)).Keyed :=
  keyed_attemptFailed_iff.mpr
    ⟨h.keyed, findOutboxEvent_isSome.mp h.present, h.attempt, h.letter⟩

section record
variable {rejects : Database → Option String} {s : Session Database}

theorem recordFailure_accepted (dep : s.world.Dependable rejects) (hb : Businesslike rejects)
    (active : s.active = true) (accepted : rejects s.working = none)
    (eventId consumerName error : String) :
    let attempt : EventProcessingAttempt := ⟨s.world.uuid4 (s.tick + 1), eventId, consumerName,
      s.working.nextAttempt eventId consumerName, clip error, s.world.now (s.tick + 2)⟩
    ((∃ a t, recordFailure eventId consumerName error s = .ok a t)
        ↔ (s.working.addAttempt attempt).Keyed)
      ∧ ((s.working.addAttempt attempt).Keyed →
        recordFailure eventId consumerName error s
          = .ok attempt (s.goto (s.working.addAttempt attempt) (s.tick + 4))) := by
  intro attempt
  have hnext : nextAttemptNumber eventId consumerName s
      = .ok (s.working.nextAttempt eventId consumerName) (s.goto s.working (s.tick + 1)) := by
    unfold nextAttemptNumber
    rw [bind_of_ok (query_accepted dep active accepted _)]
    rfl
  have hrun : recordFailure eventId consumerName error s
      = (write (·.addAttempt attempt) >>= fun _ => flush >>= fun _ =>
          (pure attempt : App EventProcessingAttempt)) (s.goto s.working (s.tick + 3)) := by
    unfold recordFailure
    rw [bind_of_ok hnext, bind_of_ok (uuid4_apply _), bind_of_ok (now_apply _)]
    rfl
  rw [hrun, ← admits_iff]
  exact insert_accepted (s := s.goto s.working (s.tick + 3)) dep active
    ((hb s.working _ _ _).trans accepted) attempt

theorem moveToDeadLetter_accepted (dep : s.world.Dependable rejects) (hb : Businesslike rejects)
    (active : s.active = true) (accepted : rejects s.working = none) (event : OutboxEvent)
    (consumerName : String) (attemptNumber : Int) (error : String) :
    let row := event.deadLetter (s.world.uuid4 s.tick) consumerName attemptNumber error
      (s.world.now (s.tick + 1))
    ((∃ a t, moveToDeadLetter event consumerName attemptNumber error s = .ok a t)
        ↔ (s.working.addDeadLetter row).Keyed)
      ∧ ((s.working.addDeadLetter row).Keyed →
        moveToDeadLetter event consumerName attemptNumber error s
          = .ok row (s.goto (s.working.addDeadLetter row) (s.tick + 3))) := by
  intro row
  have hrun : moveToDeadLetter event consumerName attemptNumber error s
      = (write (·.addDeadLetter row) >>= fun _ => flush >>= fun _ =>
          (pure row : App DeadLetterEvent)) (s.goto s.working (s.tick + 2)) := by
    unfold moveToDeadLetter
    rw [bind_of_ok (uuid4_apply _), bind_of_ok (now_apply _)]
    rfl
  rw [hrun, ← admits_iff]
  exact insert_accepted (s := s.goto s.working (s.tick + 2)) dep active
    ((hb s.working _ _ _).trans accepted) row

/-- **A failure is recorded exactly when it can be**: on a live session that
leaves room for the record. -/
theorem recordEventFailure_accepted (dep : s.world.Dependable rejects) (hb : Businesslike rejects)
    (active : s.active = true) (accepted : rejects s.working = none) (handlers : HandlerMap)
    (policy : RetryPolicy) (event : OutboxEvent) (error : Failure PyError) :
    ((∃ u t, recordEventFailure handlers policy event error s = .ok u t)
        ↔ Recordable handlers policy event s)
      ∧ (Recordable handlers policy event s →
          ∃ n, recordEventFailure handlers policy event error s
            = .ok () (s.goto (s.working.attemptFailed handlers policy event (failureText error)
                (failureStamp handlers policy event s)) n)) := by
  obtain ⟨hattempt, hrecord⟩ := recordFailure_accepted dep hb active accepted event.eventId
    (consumerNameForFailure event.eventType handlers) (failureText error)
  -- the attempt goes in under a fresh identifier, for an event of the table
  have hroom : (s.working.addAttempt (s.working.failureAttempt handlers event
      (failureText error) (failureStamp handlers policy event s))).Keyed
      ↔ s.working.Keyed
        ∧ (failureStamp handlers policy event s).attemptId ∉ s.working.attempts.map (·.id)
        ∧ ∃ row ∈ s.working.outboxEvents, row.eventId = event.eventId := keyed_addAttempt_iff
  by_cases hmax : s.working.failureNumber handlers event ≥ policy.maxAttempts
  · -- the last attempt: a dead letter follows the attempt
    obtain ⟨hletter, hmove⟩ := moveToDeadLetter_accepted
      (s := s.goto (s.working.addAttempt (s.working.failureAttempt handlers event
        (failureText error) (failureStamp handlers policy event s))) (s.tick + 4)) dep hb active
      ((hb s.working _ _ _).trans accepted) event
      (consumerNameForFailure event.eventType handlers) (s.working.failureNumber handlers event)
      (failureText error)
    have hforward : Recordable handlers policy event s →
        ∃ n, recordEventFailure handlers policy event error s
          = .ok () (s.goto (s.working.attemptFailed handlers policy event (failureText error)
              (failureStamp handlers policy event s)) n) := by
      intro h
      have hk := hroom.mpr ⟨h.keyed, h.attempt, findOutboxEvent_isSome.mp h.present⟩
      obtain ⟨row, hrow⟩ := h.present
      refine ⟨s.tick + 7, ?_⟩
      unfold recordEventFailure Database.attemptFailed
      rw [bind_of_ok (hrecord hk)]
      show (if s.working.failureNumber handlers event ≥ policy.maxAttempts then _ else _ :
        App Unit) _ = _
      rw [if_pos hmax, if_pos hmax]
      have hfresh := h.letter hmax
      unfold failureStamp
      rw [if_pos hmax]
      exact (bind_of_ok (hmove (keyed_addDeadLetter hk hfresh))).trans (markFailed_of_some hrow)
    refine ⟨⟨fun ⟨u, t, h⟩ => ?_, fun hr => ?_⟩, hforward⟩
    · obtain ⟨a, v, hv, h⟩ := bind_eq_ok.mp h
      have hk := hattempt.mp ⟨a, v, hv⟩
      rw [hrecord hk] at hv
      simp only [EStateM.Result.ok.injEq] at hv
      obtain ⟨rfl, rfl⟩ := hv
      obtain ⟨keyed, fresh, present⟩ := hroom.mp hk
      refine ⟨keyed, findOutboxEvent_isSome.mpr present, fresh, fun _ => ?_,
        fun hfew => absurd hmax (not_le.mpr hfew)⟩
      split at h
      next =>
        obtain ⟨row, w, hw, -⟩ := bind_eq_ok.mp h
        exact (keyed_addDeadLetter_iff.mp (hletter.mp ⟨row, w, hw⟩)).2
      next hfew => exact absurd hmax hfew
    · obtain ⟨n, h⟩ := hforward hr
      exact ⟨_, _, h⟩
  · have hstamp : (failureStamp handlers policy event s).failedAt = s.world.now (s.tick + 4) :=
      if_neg hmax
    have hforward : Recordable handlers policy event s →
        ∃ n, recordEventFailure handlers policy event error s
          = .ok () (s.goto (s.working.attemptFailed handlers policy event (failureText error)
              (failureStamp handlers policy event s)) n) := by
      intro h
      have hk := hroom.mpr ⟨h.keyed, h.attempt, findOutboxEvent_isSome.mp h.present⟩
      obtain ⟨row, hrow⟩ := h.present
      refine ⟨s.tick + 5, ?_⟩
      unfold recordEventFailure Database.attemptFailed
      rw [bind_of_ok (hrecord hk)]
      show (if s.working.failureNumber handlers event ≥ policy.maxAttempts then _ else _ :
        App Unit) _ = _
      have hretry := h.retry (not_le.mp hmax)
      rw [if_neg hmax, if_neg hmax, bind_of_ok (now_apply _)]
      rw [hstamp] at hretry ⊢
      refine Eq.trans (ofExcept_bind_eq_ok.mpr ⟨_, hretry.nextAttemptAt, ?_⟩) rfl
      exact markRetryableFailure_of_some hrow
    refine ⟨⟨fun ⟨u, t, h⟩ => ?_, fun hr => ?_⟩, hforward⟩
    · obtain ⟨a, v, hv, h⟩ := bind_eq_ok.mp h
      have hk := hattempt.mp ⟨a, v, hv⟩
      rw [hrecord hk] at hv
      simp only [EStateM.Result.ok.injEq] at hv
      obtain ⟨rfl, rfl⟩ := hv
      obtain ⟨keyed, fresh, present⟩ := hroom.mp hk
      refine ⟨keyed, findOutboxEvent_isSome.mpr present, fresh, fun hlast => absurd hlast hmax,
        fun _ => ?_⟩
      split at h
      next hlast => exact absurd hlast hmax
      next =>
        rw [bind_of_ok (now_apply _)] at h
        obtain ⟨nextAttemptAt, hnext, -⟩ := ofExcept_bind_eq_ok.mp h
        rw [hstamp]
        exact (nextAttemptAt_eq_ok.mp hnext).1
    · obtain ⟨n, h⟩ := hforward hr
      exact ⟨_, _, h⟩

/-- **Recording a failure** needs a live session, accepted rows, and room for
the record. -/
theorem recordEventFailure_returns_iff (dep : s.world.Dependable rejects)
    (hb : Businesslike rejects) (handlers : HandlerMap) (policy : RetryPolicy)
    (event : OutboxEvent) (error : Failure PyError) :
    (∃ u t, recordEventFailure handlers policy event error s = .ok u t)
      ↔ s.active = true ∧ rejects s.working = none ∧ Recordable handlers policy event s := by
  constructor
  · rintro ⟨u, t, h⟩
    obtain ⟨a, v, hv, -⟩ := bind_eq_ok.mp h
    obtain ⟨number, w, hw, -⟩ := bind_eq_ok.mp hv
    obtain ⟨latest, x, hx, -⟩ := bind_eq_ok.mp hw
    obtain ⟨active, accepted⟩ := accepted_of_query dep hx
    exact ⟨active, accepted,
      (recordEventFailure_accepted dep hb active accepted handlers policy event error).1.mp
        ⟨u, t, h⟩⟩
  · rintro ⟨active, accepted, room⟩
    exact (recordEventFailure_accepted dep hb active accepted handlers policy event error).1.mpr
      room

end record

end EventCart
