/-
  EventCart.Saga.Recovery
  ───────────────────────
  **AFTER ANY OUTAGE THE DISPATCHER CATCHES UP.**

  Crashes, rejected statements, redeliveries and replays leave orders half
  way.  Nothing has to be repaired: once the database executes every statement
  and `uuid4()` draws fresh identifiers, `dispatch_until_idle` with the default
  handlers returns, and every order it leaves behind is final.

    §1  only refusals wait for a retry (`Prompt`), however the state came
        about;
    §2  on a sound database every batch gets through
        (`default_batch_dispatched`), and no event that has a handler fails;
    §3  `dispatch_until_idle` (`recovers`).
-/
import EventCart.Dispatchers.Draining
import EventCart.Saga.Availability
import EventCart.Saga.History

namespace EventCart

open EventCart.Lib
open EventCart.Lib.Tx

/-! ## §1. Prompt events. -/

/-- Every event that has a handler is due, and attempts are numbered from
one. -/
structure Prompt (db : Database) : Prop where
  unscheduled : ∀ event ∈ db.outboxEvents, event.isRefusal = false → event.nextAttemptAt = none
  counted : Counted db

/-- Inserted events are due. -/
theorem Prompt.grow {db db' : Database} (h : Prompt db) (left : Appends db db') : Prompt db' := by
  obtain ⟨new, hnew, fresh⟩ := left.outboxEvents
  refine ⟨fun event mem hnot => ?_, fun row hrow => h.counted row (left.attempts ▸ hrow)⟩
  rw [hnew] at mem
  rcases List.mem_append.mp mem with mem | mem
  · exact h.unscheduled event mem hnot
  · exact (fresh event mem).nextAttemptAt

/-- An update of one event, a refusal or one that becomes due. -/
theorem Prompt.update {db : Database} (h : Prompt db) {eventId : String}
    {f : OutboxEvent → OutboxEvent} (type : ∀ event, (f event).eventType = event.eventType)
    (due : ∀ event ∈ db.outboxEvents, event.eventId = eventId →
      event.isRefusal = true ∨ (f event).nextAttemptAt = none) :
    Prompt (db.updateOutboxEvent eventId f) := by
  refine ⟨fun event mem hnot => ?_, h.counted⟩
  rcases mem_update.mp mem with ⟨old, hold, hid, rfl⟩ | ⟨hold, -⟩
  · rcases due old hold hid with hrefusal | hdue
    · have hsame : (f old).isRefusal = old.isRefusal := by
        unfold OutboxEvent.isRefusal
        rw [type]
      rw [hsame, hrefusal] at hnot
      cases hnot
    · exact hdue
  · exact h.unscheduled event hold hnot

/-- A body of a handler inserts events and leaves the other books alone. -/
theorem Handled.appends {event : EventEnvelope} {db db' : Database} (h : Handled event db db') :
    Appends db db' := by
  have hone : ∀ {base : Database} {draft : EventDraft} {id : String} {occurredAt : DateTime},
      base.outboxEvents = db.outboxEvents → base.attempts = db.attempts →
      base.deadLetters = db.deadLetters → Appends db (base.addOutboxEvent (draft.row id occurredAt)) := by
    intro base draft id occurredAt hevents hattempts hletters
    exact appends_frame.trans (appends_of_eq hevents hattempts hletters)
      (appends_addOutboxEvent base (fresh_row draft id occurredAt))
  -- stock movements and payments leave the books alone; at most one event is new
  cases h with
  | reserved => exact hone (by rw [moveAll_eq]) (by rw [moveAll_eq]) (by rw [moveAll_eq])
  | released => exact hone (by rw [moveAll_eq]) (by rw [moveAll_eq]) (by rw [moveAll_eq])
  | refused => exact hone rfl rfl rfl
  | paid => exact hone rfl rfl rfl
  | invoiced => exact hone rfl rfl rfl
  | notified => exact hone rfl rfl rfl
  | completed => exact appends_of_eq rfl rfl rfl
  | cancelled => exact appends_of_eq rfl rfl rfl

/-- A recorded failure of a refusal. -/
theorem Prompt.attemptFailed {db : Database} (h : Prompt db)
    (keyed : (db.outboxEvents.map (·.eventId)).Nodup) {event : OutboxEvent}
    (mem : event ∈ db.outboxEvents) (refusal : event.isRefusal = true) (handlers : HandlerMap)
    (policy : RetryPolicy) (error : String) (stamp : FailureStamp) :
    Prompt (db.attemptFailed handlers policy event error stamp) := by
  have hsame : ∀ other ∈ db.outboxEvents, other.eventId = event.eventId → other.isRefusal = true :=
    fun other hother hid => row_unique keyed hother mem hid ▸ refusal
  have hattempt : Prompt (db.addAttempt (db.failureAttempt handlers event error stamp)) := by
    refine ⟨h.unscheduled, fun row hrow => ?_⟩
    rcases List.mem_append.mp hrow with hrow | hrow
    · exact h.counted row hrow
    · rw [List.mem_singleton.mp hrow]
      exact Int.le_of_lt (h.counted.nextAttempt _ _)
  unfold Database.attemptFailed
  -- dead or to be retried, only a refusal is rewritten
  split
  · refine Prompt.update ?_ (fun _ => rfl) fun other hother hid => .inl (hsame other hother hid)
    exact ⟨hattempt.unscheduled, hattempt.counted⟩
  · exact hattempt.update (fun _ => rfl) fun other hother hid => .inl (hsame other hother hid)

/-- **The step lemma**: a commit keeps it. -/
theorem Prompt.commit {call : Call} {db db' : Database} (h : Prompt db) (inv : SagaInv db)
    (hc : Commit call db db') : Prompt db' := by
  cases hc with
  | stocked => exact ⟨h.unscheduled, h.counted⟩
  | @ordered payload order items new called placed keyed =>
      obtain ⟨lines, correlationId, eventId, occurredAt, -, -, -, -, -, hnew⟩ := placed.event
      have hfresh : new.Fresh := hnew ▸ fresh_row _ eventId occurredAt
      have hadded := h.grow (appends_addOutboxEvent db hfresh)
      exact ⟨hadded.unscheduled, hadded.counted⟩
  | handled called mem pending valid routed fresh handled keyed =>
      have hleft := h.grow handled.appends
      exact ⟨hleft.unscheduled, hleft.counted⟩
  | published hp =>
      cases hp with
      | published => exact h.update (fun _ => rfl) fun _ _ _ => .inr rfl
  | @attempted event policy paymentFails error stamp called mem pending unrouted =>
      -- an event without a handler is a refusal, which may wait for its next attempt
      have refusal : event.isRefusal = true := by
        rcases (inv.event mem).2 with hrefusal | ⟨consumer, routed⟩
        · exact hrefusal
        · rw [unrouted] at routed
          cases routed
      exact h.attemptFailed inv.keyed.outboxEvents mem refusal _ _ _ _
  | @replayed row id occurredAt =>
      have hadded := h.grow (appends_addOutboxEvent db (fresh_row row.draft id occurredAt))
      exact ⟨hadded.unscheduled, hadded.counted⟩

theorem prompt_stocked {db : Database} (start : Stocked db) (noAttempts : db.attempts = []) :
    Prompt db := by
  refine ⟨fun event mem _ => ?_, fun row hrow => ?_⟩
  · rw [start.outboxEvents] at mem
    cases mem
  · rw [noAttempts] at hrow
    cases hrow

/-- **The run lemma**: whatever reached the system. -/
theorem arrivals_prompt (arrivals : List Arrival) {db : Database} (inv : SagaInv db)
    (h : Prompt db) : SagaInv (arriveAll arrivals db) ∧ Prompt (arriveAll arrivals db) :=
  arrivals_keep (P := Prompt) (C := fun _ => True)
    (fun _ _ h => ⟨h.unscheduled, h.counted⟩) (fun _ _ _ _ inv h hc => h.commit inv hc) arrivals
    (fun _ _ => trivial) inv h

/-- So do the calls of a dispatcher. -/
theorem runCalls_prompt (labels : List Label) {db : Database} (inv : SagaInv db)
    (h : Prompt db) : SagaInv (runCalls labels db) ∧ Prompt (runCalls labels db) := by
  refine run_invariant (I := fun db => SagaInv db ∧ Prompt db) ?_ labels db ⟨inv, h⟩
  rintro db label ⟨inv, h⟩
  refine ⟨step_inv label inv, ?_⟩
  have heffect := step_effect inv.ready label
  generalize step label db = db' at heffect
  cases heffect with
  | idle => exact h
  | commit hc => exact h.commit inv hc
  | publish hc hp => exact (h.commit inv hc).commit (commit_inv inv hc) (.published hp)

/-! ## §2. Batches. -/

/-- **A batch of the default handlers always gets through.**  Whatever the
rows and the payloads, as long as the declared keys hold, no attempt has a
negative number, the database executes every statement (no row is rejected by
its columns), `uuid4()` draws fresh identifiers and the retries of the policy
can be scheduled: the batch returns, reaches its last event and records every
failure. -/
theorem default_batch_dispatched {world : World Database}
    (faultless : world.Dependable fun _ => none) (distinct : Function.Injective world.uuid4)
    {policy : RetryPolicy} (schedulable : policy.Schedulable world) {tick : Nat} {db : Database}
    (keyed : db.Keyed) (counted : Counted db) (fresh : ∀ n, tick ≤ n → world.uuid4 n ∉ db.ids)
    (limit : Nat) :
    BatchDispatched defaultEventHandlers limit policy (Session.begin world tick db) := by
  have ordinary : (handlersOrDefault defaultEventHandlers).Ordinary :=
    sagaHandlers_ordinary fun _ => false
  have keepWorld : (handlersOrDefault defaultEventHandlers).KeepWorld :=
    sagaHandlers_keepWorld fun _ => false
  exact ordinary_batch_dispatched ordinary keepWorld (begin_clean world tick db)
    (steady_begin faultless distinct schedulable keyed counted fresh) limit

/-- A batch over a payload that carries nothing its handler reads. -/
theorem default_batch_dispatched_stray :
    BatchDispatched defaultEventHandlers 10 {} (Session.begin oneDay 300
      (soleEvent { reservedEvent "id-7" "order-1" 1 250 with payload := [] })) :=
  default_batch_dispatched oneDay_faultless calm_distinct (oneDay_schedulable rfl (by decide))
    (keyed_soleEvent _) (fun _ mem => absurd mem List.not_mem_nil) (calm_fresh (by decide +kernel))
    10

section published
variable {eventIds : List String} {event : OutboxEvent} {s : Session Database}

/-- **An event that has a handler does not fail**: in no state of the system,
as long as the session is healthy. -/
theorem handleEvent_returns (paymentFails : String → Bool) (inv : SagaInv s.committed)
    (clean : s.Clean) (sane : Sane (Database.Books eventIds) s) (listed : event.eventId ∈ eventIds)
    (mem : event ∈ s.committed.outboxEvents) {consumer : String}
    (routed : consumer? event.eventType = some consumer) :
    ∃ a u, handleEvent (sagaHandlers paymentFails) event s = .ok a u := by
  have hhandler : Meets (Sane (Database.Books eventIds))
      (callHandler (sagaHandlers paymentFails) event) (fun _ => Sane (Database.Books eventIds))
      fun _ => Sane (Database.Books eventIds) :=
    meets_callHandler (sagaHandlers_ordinary paymentFails) event
  have hlands := hhandler s sane
  rw [handleEvent_eq]
  cases hcall : callHandler (sagaHandlers paymentFails) event s with
  | ok a u =>
      rw [hcall] at hlands
      have hmarked : Meets (Sane (Database.Books eventIds)) (markPublished event.eventId)
          (fun _ => Sane (Database.Books eventIds)) fun _ _ => False := meets_markPublished listed
      have hpublished := hmarked u hlands
      rw [bind_of_ok hcall]
      cases hmark : markPublished event.eventId u with
      | ok b v => exact ⟨b, v, rfl⟩
      | error e v =>
          rw [hmark] at hpublished
          cases e <;> exact hpublished.elim
  | error e u =>
      -- only a raised exception could end the handler, and none is raised
      rw [hcall] at hlands
      cases e with
      | database message => exact hlands.elim
      | pendingRollback => exact hlands.elim
      | crash => exact hlands.elim
      | raised error =>
          obtain ⟨envelope, valid⟩ := inv.ready.valid event mem
          unfold callHandler at hcall
          cases hlookup : (sagaHandlers paymentFails).lookup event.eventType with
          | none =>
              rw [lookup_sagaHandlers_none hlookup] at routed
              cases routed
          | some registration =>
              have hrouted := lookup_sagaHandlers hlookup
              obtain ⟨htype, hid, -, -⟩ := envelope_eventType valid
              obtain ⟨α, body, event', hb⟩ := routed_body (htype.symm ▸ hlookup)
              simp only [hlookup, valid] at hcall
              obtain ⟨unprocessed, unsound, -⟩ := hb.handler_raised hcall
              rw [clean.2, hid] at unprocessed
              rw [clean.2] at unsound
              exact absurd (inv.ready.sound event mem envelope _ valid hrouted unprocessed) unsound

/-- So its round returns, and there is no failure to record: the retry policy
plays no part. -/
theorem dispatchEvent_returns (paymentFails : String → Bool) (inv : SagaInv s.committed)
    (clean : s.Clean) (sane : Sane (Database.Books eventIds) s) (listed : event.eventId ∈ eventIds)
    (mem : event ∈ s.committed.outboxEvents) {consumer : String}
    (routed : consumer? event.eventType = some consumer) :
    ∃ u t, (∀ policy, dispatchEvent (sagaHandlers paymentFails) policy event s = .ok u t)
      ∧ Sane (Database.Books eventIds) t := by
  obtain ⟨a, u, hhandle⟩ := handleEvent_returns paymentFails inv clean sane listed mem routed
  -- one attempt can always be made, and what follows the handler is one COMMIT
  have hlands := meets_dispatchEvent (sagaHandlers_ordinary paymentFails)
    (sagaHandlers_keepWorld paymentFails) { maxAttempts := 1 } listed s
    ⟨sane, schedulable_of_last (le_refl 1) s.world⟩
  rw [dispatchEvent_of_ok hhandle] at hlands
  cases hcommit : (commit : App Unit) u with
  | ok b t =>
      rw [hcommit] at hlands
      exact ⟨b, t, fun policy => (dispatchEvent_of_ok hhandle).trans hcommit, hlands.1⟩
  | error e t =>
      rw [hcommit] at hlands
      cases e <;> exact hlands.elim

end published

/-! ## §3. Catching up. -/

/-- Every order is final, or its reservation was refused. -/
def Database.Settled (db : Database) : Prop :=
  ∀ order ∈ db.orders, order.status = .COMPLETED ∨ order.status = .CANCELLED
    ∨ order.status = .PENDING
      ∧ ∃ event ∈ db.outboxEvents, event.isRefusal = true ∧ event.aggregateId = order.id

/-- The events of a refused order. -/
theorem Saga.refused_event {db : Database} {id : String} (h : Saga .refused (db.dossier id)) :
    ∃ event ∈ db.outboxEvents, event.isRefusal = true ∧ event.aggregateId = id := by
  have hne : (db.dossier id).refusals ≠ [] := by
    generalize db.dossier id = d at h
    cases h with
    | refused before nonempty shape => exact nonempty
  obtain ⟨e, he⟩ := List.exists_mem_of_ne_nil _ hne
  obtain ⟨event, hevent, rfl⟩ := List.mem_map.mp he
  obtain ⟨mem, hboth⟩ := List.mem_filter.mp hevent
  rw [Bool.and_eq_true] at hboth
  exact ⟨event, mem, by simpa [and_comm] using hboth⟩

/-- **Where every routed event is published, every order is settled.** -/
theorem SagaInv.settled {db : Database} (inv : SagaInv db)
    (published : ∀ event ∈ db.outboxEvents, event.isRefusal = false → event.status = .PUBLISHED) :
    db.Settled := by
  intro order mem
  obtain ⟨p, hp, hstatus⟩ := inv.phase_of_order mem
  -- a refused order stays PENDING; any other phase waits for an event or is an end
  by_cases hrefused : p = .refused
  · subst hrefused
    exact .inr (.inr ⟨(Option.some.inj hstatus).symm, hp.refused_event⟩)
  · have hwaiting : p.waiting = none := by
      cases hw : p.waiting with
      | none => rfl
      | some eventType =>
          -- the event the order waits for was handled, so it waits no more
          obtain ⟨e, hmem, -⟩ := hp.mem_of_waiting hw
          obtain ⟨event, hevent, -, -, hnot, hconsumed⟩ := of_mem_trail hmem
          have hdone := inv.published event hevent (published event hevent hnot)
          rw [hconsumed] at hdone
          cases hdone
    rcases Phase.settled hwaiting hrefused hstatus with h | h
    · exact .inl h
    · exact .inr (.inl h)

/-- Nothing that has a handler is left when nothing is due. -/
theorem Prompt.published {db : Database} (h : Prompt db) (inv : SagaInv db) {readyAt : DateTime}
    (quiet : ∀ row ∈ db.outboxEvents, row.isDue readyAt = false) :
    ∀ event ∈ db.outboxEvents, event.isRefusal = false → event.status = .PUBLISHED := by
  intro event mem hnot
  -- only a refusal ends FAILED, and whatever else is PENDING is due
  cases hstatus : event.status with
  | PUBLISHED => rfl
  | FAILED =>
      have hrefusal := inv.failed event mem hstatus
      rw [hnot] at hrefusal
      cases hrefusal
  | PENDING =>
      have hdue := quiet event mem
      unfold OutboxEvent.isDue at hdue
      rw [hstatus, h.unscheduled event mem hnot] at hdue
      simp at hdue

/-- A run of calls is a run of arrivals. -/
theorem arriveAll_called :
    ∀ (labels : List Label) (db : Database), arriveAll (labels.map .called) db = runCalls labels db
  | [], _ => rfl
  | label :: labels, db => arriveAll_called labels (step label db)

/-- **The dispatcher catches up.**  From every state the system can be in,
whatever crashed, was rejected, delivered twice or replayed on the way there:
on a database that executes every statement from now on (no row is rejected by
its columns), with fresh identifiers and retries that can be scheduled,
`dispatch_until_idle` with the default handlers returns when it may poll often
enough.  Then every event that has a handler is PUBLISHED, every order is
COMPLETED, CANCELLED or refused, and every order from before is there. -/
theorem recovers (arrivals : List Arrival) {world : World Database}
    (faultless : world.Dependable fun _ => none) (distinct : Function.Injective world.uuid4)
    {tick : Nat}
    (fresh : ∀ n, tick ≤ n → world.uuid4 n ∉ (arriveAll arrivals Database.empty).ids)
    {policy : RetryPolicy} (schedulable : policy.Schedulable world) {limit maxBatches : Nat}
    (positive : 1 ≤ limit) (many : 5 * max 1 policy.maxAttempts
        * (arriveAll arrivals Database.empty).pendingEvents.length < (maxBatches : Int)) :
    ∃ n t, dispatchUntilIdle defaultEventHandlers limit maxBatches policy
          (Session.begin world tick (arriveAll arrivals Database.empty)) = .ok n t
      ∧ (∀ event ∈ t.committed.outboxEvents, event.isRefusal = false →
          event.status = .PUBLISHED)
      ∧ t.committed.Settled
      ∧ ∀ order ∈ (arriveAll arrivals Database.empty).orders,
          t.committed.Keeps order ((arriveAll arrivals Database.empty).itemsOf order.id) := by
  obtain ⟨inv, prompt⟩ := arrivals_prompt arrivals stocked_empty.inv
    (prompt_stocked stocked_empty rfl)
  generalize arriveAll arrivals Database.empty = db at *
  rw [← sagaHandlers_default]
  -- each poll pays at least one attempt of a bounded debt, so the polls suffice
  have hdebt : db.debt (sagaHandlers fun _ => false) policy < maxBatches := by
    have hle : db.debt (sagaHandlers fun _ => false) policy
        ≤ 5 * policy.budget * db.pendingEvents.length := prompt.counted.debt_le
    have hmany : ((5 * policy.budget * db.pendingEvents.length : Nat) : Int) < maxBatches := by
      push_cast
      rw [cast_budget]
      exact many
    exact Nat.lt_of_le_of_lt hle (Int.ofNat_lt.mp hmany)
  obtain ⟨t, hreturned, hnothing, hcommitted⟩ := dispatchLoop_returns positive maxBatches 0
    (Session.begin world tick db) (begin_clean _ _ _)
    (steady_begin faultless distinct schedulable inv.keyed prompt.counted fresh) hdebt
  -- what the loop did is a run of calls, and runs keep the invariants
  obtain ⟨labels, -, hrun, -⟩ := delivers_dispatchLoop limit policy (fun _ => false) maxBatches 0
    (Session.begin world tick db) (begin_clean _ _ _) inv
  rw [hreturned, after_ok] at hrun
  have hrun : t.committed = runCalls labels db := hrun
  obtain ⟨inv', prompt'⟩ := runCalls_prompt labels inv prompt
  rw [← hrun] at inv' prompt'
  unfold NothingDue at hnothing
  rw [← hcommitted] at hnothing
  -- nothing is due any more, so nothing that has a handler is left
  have hpublished := prompt'.published inv' hnothing
  refine ⟨_, t, hreturned, hpublished, inv'.settled hpublished, fun order mem => ?_⟩
  rw [hrun, ← arriveAll_called]
  exact arrivals_keepOrder _ inv mem

/-- The dispatcher dies between the COMMIT of a reservation and its own: the
event is handled, and still PENDING. -/
def interrupted : List Arrival :=
  [.called ⟨.calm, 0, .createInventoryItem (pencils 2)⟩,
   .called ⟨.calm, 100, .createOrder twoPencils⟩,
   .called ⟨crashAt 211, 200, .deliver "id-108" {} fun _ => false⟩]

/-- The order is taken to its end all the same. -/
theorem recovers_interrupted :
    ∃ n t, dispatchUntilIdle defaultEventHandlers 10 31 {}
          (Session.begin oneDay 300 (arriveAll interrupted Database.empty)) = .ok n t
      ∧ (∀ event ∈ t.committed.outboxEvents, event.isRefusal = false →
          event.status = .PUBLISHED)
      ∧ t.committed.Settled
      ∧ ∀ order ∈ (arriveAll interrupted Database.empty).orders,
          t.committed.Keeps order ((arriveAll interrupted Database.empty).itemsOf order.id) :=
  recovers interrupted oneDay_faultless calm_distinct (calm_fresh (by decide +kernel))
    (oneDay_schedulable rfl (by decide)) (by decide) (by decide +kernel)

end EventCart
