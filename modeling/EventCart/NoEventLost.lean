/-
  EventCart.NoEventLost
  ─────────────────────
  **IS EVERY EVENT PUBLISHED, WAITING, OR IN A DEAD LETTER?**

  Two delivery paths write the status column.  The dispatcher fails an event
  and writes its dead letter in one commit; the publisher of the broker path
  fails it and writes none, and nothing fetches a FAILED event again.

    • `no_event_lost`        — under crashes and database errors, in every run
                               whose publish batches are accepted by the
                               transport and whose handlers strand no event
                               themselves,
    • `refused_event_lost`   — one refused publish loses the event.
-/
import EventCart.Dispatchers.Contract
import EventCart.Saga.Stock

namespace EventCart

open EventCart.Lib
open EventCart.Lib.Tx

/-! ## §1. Accounting for events. -/

/-- The event is published, or a later batch picks it up, or an operator can
replay it. -/
def Database.AccountsFor (db : Database) (event : OutboxEvent) : Prop :=
  event.status = .PUBLISHED ∨ event.status = .PENDING
    ∨ event.status = .FAILED ∧ ∃ row ∈ db.deadLetters, row.eventId = event.eventId

/-- No event is lost. -/
def Database.NoneLost (db : Database) : Prop := ∀ event ∈ db.outboxEvents, db.AccountsFor event

/-- What handlers may do to the outbox: no row becomes FAILED, and every dead
letter still has its event. -/
structure EventsKept (db db' : Database) : Prop where
  events : ∀ event ∈ db'.outboxEvents, event ∈ db.outboxEvents ∨ event.status ≠ .FAILED
  deadLetters : ∀ row ∈ db.deadLetters, ∃ row' ∈ db'.deadLetters, row'.eventId = row.eventId

theorem eventsKept_frame : Frame EventsKept where
  refl _ := ⟨fun _ mem => .inl mem, fun row mem => ⟨row, mem, rfl⟩⟩
  trans h₁ h₂ :=
    { events := fun event mem => (h₂.events event mem).elim (h₁.events event) .inr
      deadLetters := fun row mem => by
        obtain ⟨row₂, mem₂, hid₂⟩ := h₁.deadLetters row mem
        obtain ⟨row₃, mem₃, hid₃⟩ := h₂.deadLetters row₂ mem₂
        exact ⟨row₃, mem₃, hid₃.trans hid₂⟩ }

/-- An event that did not fail is accounted for. -/
theorem accountsFor_of_not_failed {db : Database} {event : OutboxEvent}
    (h : event.status ≠ .FAILED) : db.AccountsFor event := by
  cases hstatus : event.status with
  | PENDING => exact .inr (.inl hstatus)
  | PUBLISHED => exact .inl hstatus
  | FAILED => exact absurd hstatus h

/-- More dead letters account for as many events. -/
theorem Database.AccountsFor.mono {db db' : Database} {event : OutboxEvent}
    (h : db.AccountsFor event)
    (hletters : ∀ row ∈ db.deadLetters, ∃ row' ∈ db'.deadLetters, row'.eventId = row.eventId) :
    db'.AccountsFor event := by
  rcases h with h | h | ⟨h, row, mem, hid⟩
  · exact .inl h
  · exact .inr (.inl h)
  · obtain ⟨row', mem', hid'⟩ := hletters row mem
    exact .inr (.inr ⟨h, row', mem', hid'.trans hid⟩)

theorem EventsKept.noneLost {db db' : Database} (h : EventsKept db db') (none : db.NoneLost) :
    db'.NoneLost := by
  intro event mem
  rcases h.events event mem with hold | hnew
  · exact (none event hold).mono h.deadLetters
  · exact accountsFor_of_not_failed hnew

/-- Publishing an event loses none. -/
theorem noneLost_published {db : Database} (h : db.NoneLost) (eventId : String)
    (publishedAt : DateTime) :
    (db.updateOutboxEvent eventId (·.published publishedAt)).NoneLost := by
  intro event mem
  rcases mem_update.mp mem with ⟨old, -, -, rfl⟩ | ⟨mem, -⟩
  · exact .inl rfl
  · exact h event mem

/-- **A failed attempt** leaves its event pending, or failed with a dead
letter. -/
theorem noneLost_attemptFailed {db : Database} (h : db.NoneLost) (handlers : HandlerMap)
    (policy : RetryPolicy) (event : OutboxEvent) (error : String) (stamp : FailureStamp) :
    (db.attemptFailed handlers policy event error stamp).NoneLost := by
  unfold Database.attemptFailed
  split
  · intro row mem
    rcases mem_update.mp mem with ⟨old, -, hid, rfl⟩ | ⟨mem, -⟩
    · refine .inr (.inr ⟨rfl, _, List.mem_append_right _ (List.mem_singleton.mpr rfl), ?_⟩)
      exact hid.symm
    · exact (h row mem).mono fun letter mem => ⟨letter, List.mem_append_left _ mem, rfl⟩
  · intro row mem
    rcases mem_update.mp mem with ⟨old, -, -, rfl⟩ | ⟨mem, -⟩
    · exact .inr (.inl rfl)
    · exact h row mem

/-- **A PENDING event is picked up** by every batch that is late and large
enough. -/
theorem pending_picked_up {db : Database} {event : OutboxEvent} (mem : event ∈ db.outboxEvents)
    (pending : event.status = .PENDING) :
    ∃ dueAt, ∀ readyAt ≥ dueAt, ∀ limit ≥ db.outboxEvents.length,
      event ∈ db.pending limit readyAt := by
  refine ⟨event.nextAttemptAt.getD 0, fun readyAt hready limit hlimit => ?_⟩
  have hdue : event.isDue readyAt = true := by
    unfold OutboxEvent.isDue
    rw [pending]
    cases hnext : event.nextAttemptAt with
    | none => rfl
    | some dueAt =>
        rw [hnext] at hready
        have hle : dueAt ≤ readyAt := hready
        simp [hle]
  have hsorted : event ∈ (db.outboxEvents.filter (·.isDue readyAt)).insertionSort
      OutboxEvent.notAfter :=
    (List.mem_insertionSort _).mpr (List.mem_filter.mpr ⟨mem, hdue⟩)
  unfold Database.pending
  rw [List.take_of_length_le]
  · exact hsorted
  · rw [List.length_insertionSort]
    exact (List.length_filter_le _ _).trans hlimit

/-! ## §2. Handlers. -/

/-- No event is lost on the way from one database to the other. -/
def LosesNone (db db' : Database) : Prop := db.NoneLost → db'.NoneLost

theorem losesNone_frame : Frame LosesNone where
  refl _ none := none
  trans h₁ h₂ none := h₂ (h₁ none)

/-- **The handlers of a map strand no event.**  A handler is a program of its
own: it may fail any event, but then it writes the dead letter as well. -/
def HandlerMap.StrandsNone (handlers : HandlerMap) : Prop :=
  ∀ eventType registration, handlers.lookup eventType = some registration →
    ∀ event s, s.Clean →
      LosesNone s.committed (after (registration.handler event s)).working
        ∧ LosesNone s.committed (after (registration.handler event s)).committed

/-- Writes to the other tables keep the events. -/
theorem eventsKept_of_eq {db db' : Database} (hevents : db'.outboxEvents = db.outboxEvents)
    (hletters : db'.deadLetters = db.deadLetters) : EventsKept db db' :=
  ⟨fun _ mem => .inl (hevents ▸ mem), fun row mem => ⟨row, hletters ▸ mem, rfl⟩⟩

theorem eventsKept_addOutboxEvent {db : Database} {event : OutboxEvent}
    (h : event.status ≠ .FAILED) : EventsKept db (db.addOutboxEvent event) where
  events other mem := by
    rcases List.mem_append.mp mem with mem | mem
    · exact .inl mem
    · exact .inr (List.mem_singleton.mp mem ▸ h)
  deadLetters row mem := ⟨row, mem, rfl⟩

/-- A replay marks its dead letter and keeps it. -/
theorem eventsKept_replayed (db : Database) (deadLetterId : String) (replayedAt : DateTime) :
    EventsKept db (db.updateDeadLetter deadLetterId (·.replayed replayedAt)) where
  events _ mem := .inl mem
  deadLetters row mem := by
    by_cases hid : row.id = deadLetterId
    · exact ⟨row.replayed replayedAt, mem_update.mpr (.inl ⟨row, mem, hid, rfl⟩), rfl⟩
    · exact ⟨row, mem_update.mpr (.inr ⟨mem, hid⟩), rfl⟩

/-- An event with its column defaults has not failed. -/
theorem row_not_failed (draft : EventDraft) (id : String) (occurredAt : DateTime) :
    (draft.row id occurredAt).status ≠ .FAILED := by
  show OutboxEventStatus.PENDING ≠ .FAILED
  decide

/-- Fresh events have not failed. -/
theorem Appends.eventsKept {db db' : Database} (h : Appends db db') : EventsKept db db' where
  events event mem := by
    obtain ⟨new, hnew, fresh⟩ := h.outboxEvents
    rw [hnew] at mem
    rcases List.mem_append.mp mem with mem | mem
    · exact .inl mem
    · refine .inr ?_
      rw [(fresh event mem).status]
      decide
  deadLetters row mem := ⟨row, h.deadLetters ▸ mem, rfl⟩

/-- **The default handlers strand no event**, whatever the payment outcomes:
they insert events and fail none. -/
theorem sagaHandlers_strandsNone (paymentFails : String → Bool) :
    (sagaHandlers paymentFails).StrandsNone := by
  intro eventType registration hlookup event s hs
  obtain ⟨hworking, hcommitted⟩ := Within.of_clean appends_frame
    ((sagaHandlers_append paymentFails).within eventType registration hlookup event) hs
  exact ⟨hworking.eventsKept.noneLost, hcommitted.eventsKept.noneLost⟩

/-- Passing no table means the default one. -/
theorem HandlerMap.StrandsNone.orDefault {handlers : HandlerMap} (h : handlers.StrandsNone) :
    (handlersOrDefault handlers).StrandsNone := by
  unfold handlersOrDefault
  split
  · rw [← sagaHandlers_default]
    exact sagaHandlers_strandsNone _
  · exact h

/-! ## §3. The dispatcher. -/

/-- What a round commits loses no event. -/
theorem RoundEffect.noneLost {handlers : HandlerMap} {policy : RetryPolicy} {event : OutboxEvent}
    {db db' : Database} (h : RoundEffect LosesNone handlers policy event db db')
    (none : db.NoneLost) : db'.NoneLost := by
  cases h with
  | stopped left => exact left none
  | published left found publishedAt keyed => exact noneLost_published (left none) _ _
  | failed left error stamp keyed => exact noneLost_attemptFailed (left none) _ _ _ _ _

/-- **One round loses no event**, wherever it stops. -/
theorem dispatchEvent_noneLost {handlers : HandlerMap} (h : handlers.StrandsNone)
    (policy : RetryPolicy) (event : OutboxEvent) {s : Session Database} (hs : s.Clean)
    (none : s.committed.NoneLost) :
    (after (dispatchEvent handlers policy event s)).committed.NoneLost := by
  have hcall := callHandler_within losesNone_frame hs fun registration hlookup envelope _ =>
    h event.eventType registration hlookup envelope s hs
  exact (dispatchEvent_effect hcall policy).noneLost none

/-- **A batch loses no event.** -/
theorem dispatchPendingBatch_noneLost {handlers : HandlerMap} (h : handlers.StrandsNone)
    (limit : Nat) (policy : RetryPolicy) {s : Session Database} (hs : s.Clean)
    (none : s.committed.NoneLost) :
    (after (dispatchPendingBatch handlers limit policy s)).committed.NoneLost := by
  unfold dispatchPendingBatch
  rcases fetchPending_bind limit (fun events =>
    events.forM (dispatchEvent (handlersOrDefault handlers) policy) >>= fun _ =>
      (pure events.length : App Nat)) s with ⟨e, t, hbatch, hcommitted⟩ | ⟨n, hbatch⟩
  · rw [hbatch, after_error, hcommitted]
    exact none
  · rw [hbatch, after_bind_pure]
    exact forM_keeps (f := dispatchEvent (handlersOrDefault handlers) policy)
      (fun event s u t h => dispatchEvent_clean h)
      (fun event s hs none => dispatchEvent_noneLost h.orDefault policy event hs none)
      (fetchedEvents limit s) (s.goto s.working n) hs none

/-! ## §4. The publisher. -/

/-- The transport takes the event. -/
def accepts (publisher : EventPublisher) (event : OutboxEvent) : Bool :=
  match envelopeFromOutboxEvent event with
  | .ok envelope => (publisher envelope).isOk
  | .error _ => false

theorem publishEvent_of_accepts {publisher : EventPublisher} {event : OutboxEvent}
    (h : accepts publisher event = true) :
    publishEvent publisher event = markPublished event.eventId := by
  unfold accepts at h
  unfold publishEvent
  cases henvelope : envelopeFromOutboxEvent event with
  | error error => rw [henvelope] at h; cases h
  | ok envelope =>
      rw [henvelope] at h
      rw [ofExcept_bind_ok rfl]
      cases hpublish : publisher envelope with
      | error error => simp [hpublish, Except.isOk, Except.toBool] at h
      | ok u => rw [ofExcept_bind_ok rfl]

/-- An accepted event is published, if its row is there. -/
theorem publishOne_ok {publisher : EventPublisher} {event : OutboxEvent}
    (h : accepts publisher event = true) {s t : Session Database} {u : PUnit}
    (hone : publishOne publisher event s = .ok u t) :
    ∃ publishedAt n, t = s.goto (s.working.updateOutboxEvent event.eventId
      (·.published publishedAt)) n := by
  unfold publishOne tryExcept at hone
  rw [publishEvent_of_accepts h] at hone
  cases hmark : markPublished event.eventId s with
  | ok v w =>
      rw [hmark] at hone
      obtain ⟨publishedAt, n, rfl⟩ := markPublished_ok hmark
      simp only [EStateM.Result.ok.injEq] at hone
      exact ⟨publishedAt, n, hone.2.symm⟩
  | error e w =>
      -- without the row, recording the failure raises as well
      rw [hmark] at hone
      cases hfind : s.working.findOutboxEvent event.eventId with
      | some row =>
          rw [markPublished_of_some hfind] at hmark
          cases hmark
      | none =>
          have hget : getEvent event.eventId s = .error (.raised (.lookupError
              ("Outbox event " ++ Json.reprStr event.eventId ++ " was not found."))) s := by
            rw [getEvent_apply, hfind]
          have hsame := hmark.symm.trans (bind_of_error hget)
          simp only [EStateM.Result.error.injEq] at hsame
          obtain ⟨rfl, rfl⟩ := hsame
          have hfailed := (bind_of_error hget (f := fun _ => (write
            (·.updateOutboxEvent event.eventId (·.failed (failureText (.raised (.lookupError
              ("Outbox event " ++ Json.reprStr event.eventId ++ " was not found.")))))) :
                App Unit)))
          have hone : markFailed event.eventId _ w = .ok u t := hone
          exact nomatch hone.symm.trans hfailed

theorem quiet_publishOne (publisher : EventPublisher) (event : OutboxEvent) :
    Quiet (publishOne publisher event) :=
  ((quiet_ofExcept _).bind fun _ => (quiet_ofExcept _).bind fun _ =>
    quiet_markPublished _).tryExcept fun _ => (quiet_getEvent _).bind fun _ => quiet_write _

/-- The rows after a loop over accepted events. -/
theorem forM_publishOne_noneLost {publisher : EventPublisher} :
    ∀ (events : List OutboxEvent) {s t : Session Database} {u : PUnit},
      events.all (accepts publisher) = true → s.working.NoneLost →
      events.forM (publishOne publisher) s = .ok u t → t.working.NoneLost := by
  intro events
  induction events with
  | nil =>
      intro s t u _ none h
      have ht : s = t := by simpa using congrArg after h
      exact ht ▸ none
  | cons event events ih =>
      intro s t u hall none h
      rw [List.all_cons, Bool.and_eq_true] at hall
      obtain ⟨_, v, hv, h⟩ := bind_eq_ok.mp h
      obtain ⟨publishedAt, n, rfl⟩ := publishOne_ok hall.1 hv
      exact ih hall.2 (noneLost_published none _ _) h

/-- **A publish batch loses no event** if the transport accepts every event
it fetches. -/
theorem publishPendingBatch_noneLost {publisher : EventPublisher} {limit : Nat}
    {s : Session Database} (hs : s.Clean) (none : s.committed.NoneLost)
    (hall : (fetchedEvents limit s).all (accepts publisher) = true) :
    (after (publishPendingBatch publisher limit s)).committed.NoneLost := by
  unfold publishPendingBatch
  rcases fetchPending_bind limit (fun events =>
    events.forM (publishOne publisher) >>= fun _ => commit >>= fun _ =>
      (pure events.length : App Nat)) s with ⟨e, t, hbatch, hcommitted⟩ | ⟨n, hbatch⟩
  · rw [hbatch, after_error, hcommitted]
    exact none
  · rw [hbatch]
    rcases (quiet_forM (quiet_publishOne publisher) (fetchedEvents limit s)).commits_once
      (fun _ => quiet_pure (fetchedEvents limit s).length) (s.goto s.working n)
      with h | ⟨u, v, hv, -, h⟩
    · rw [h]
      exact none
    · rw [h]
      exact forM_publishOne_noneLost _ hall (hs.2 ▸ none) hv

/-! ## §5. The API's own transactions. -/

theorem createInventoryItem_noneLost (payload : InventoryItemCreate) {s : Session Database}
    (hs : s.Clean) (none : s.committed.NoneLost) :
    (after (createInventoryItem payload s)).committed.NoneLost := by
  rcases createInventoryItem_committed payload s with h | ⟨id, at', -, h⟩
  · rw [h]
    exact none
  · have hkept : EventsKept s.working (s.working.addInventoryItem (payload.row id at')) :=
      eventsKept_of_eq rfl rfl
    rw [h]
    exact hkept.noneLost (hs.2 ▸ none)

theorem createOrder_noneLost (payload : OrderCreate) {s : Session Database}
    (hs : s.Clean) (none : s.committed.NoneLost) :
    (after (createOrder payload s)).committed.NoneLost := by
  rcases createOrder_committed payload s with h | ⟨order, items, new, placed, -, h⟩
  · rw [h]
    exact none
  · obtain ⟨lines, correlationId, id, at', -, -, -, -, -, hnew⟩ := placed.event
    have horder : EventsKept s.working (s.working.addOrder order items) :=
      eventsKept_of_eq rfl rfl
    have hevent : EventsKept (s.working.addOrder order items)
        ((s.working.addOrder order items).addOutboxEvent new) :=
      eventsKept_addOutboxEvent (hnew ▸ row_not_failed _ _ _)
    rw [h]
    exact (eventsKept_frame.trans horder hevent).noneLost (hs.2 ▸ none)

/-- **A replay** puts a fresh event into the outbox and keeps the dead
letter of the failed one. -/
theorem replayDeadLetterEvent_noneLost (deadLetterId : String) {s : Session Database}
    (hs : s.Clean) (none : s.committed.NoneLost) :
    (after (replayDeadLetterEvent deadLetterId s)).committed.NoneLost := by
  rcases replayDeadLetterEvent_committed deadLetterId s with h | ⟨row, id, at', rat, -, -, -, -, h⟩
  · rw [h]
    exact none
  · have hevent : EventsKept s.working (s.working.addOutboxEvent (row.draft.row id at')) :=
      eventsKept_addOutboxEvent (row_not_failed _ _ _)
    rw [h]
    exact (eventsKept_frame.trans hevent (eventsKept_replayed _ _ _)).noneLost (hs.2 ▸ none)

/-! ## §6. Whole runs. -/

/-- What is run against the outbox, one after another. -/
inductive Job where
  | createInventoryItem (payload : InventoryItemCreate)
  | createOrder (payload : OrderCreate)
  | dispatchPendingBatch (handlers : HandlerMap) (limit : Nat) (policy : RetryPolicy)
  | publishPendingBatch (publisher : EventPublisher) (limit : Nat)
  | replayDeadLetterEvent (deadLetterId : String)

/-- A job and everything outside it. -/
structure Shift where
  world : World Database
  tick : Nat
  job : Job

/-- The committed database after a job. -/
def perform (shift : Shift) (db : Database) : Database :=
  match shift.job with
  | .createInventoryItem payload =>
      transact (EventCart.createInventoryItem payload) shift.world shift.tick db
  | .createOrder payload => transact (EventCart.createOrder payload) shift.world shift.tick db
  | .dispatchPendingBatch handlers limit policy =>
      transact (EventCart.dispatchPendingBatch handlers limit policy) shift.world shift.tick db
  | .publishPendingBatch publisher limit =>
      transact (EventCart.publishPendingBatch publisher limit) shift.world shift.tick db
  | .replayDeadLetterEvent deadLetterId =>
      transact (EventCart.replayDeadLetterEvent deadLetterId) shift.world shift.tick db

/-- A publish batch fetches only events the transport accepts, and a dispatch
batch is given handlers that strand no event. -/
def Safe (db : Database) (shift : Shift) : Prop :=
  match shift.job with
  | .publishPendingBatch publisher limit =>
      (fetchedEvents limit (Session.begin shift.world shift.tick db)).all (accepts publisher) = true
  | .dispatchPendingBatch handlers _ _ => handlers.StrandsNone
  | _ => True

/-- **Every job keeps every event accounted for**, one case per job. -/
theorem perform_noneLost {db : Database} (none : db.NoneLost) (shift : Shift)
    (h : Safe db shift) : (perform shift db).NoneLost := by
  have hclean := begin_clean shift.world shift.tick db
  unfold perform
  unfold Safe at h
  cases hjob : shift.job with
  | createInventoryItem payload => exact createInventoryItem_noneLost payload hclean none
  | createOrder payload => exact createOrder_noneLost payload hclean none
  | dispatchPendingBatch handlers limit policy =>
      rw [hjob] at h
      exact dispatchPendingBatch_noneLost h limit policy hclean none
  | publishPendingBatch publisher limit =>
      rw [hjob] at h
      exact publishPendingBatch_noneLost hclean none h
  | replayDeadLetterEvent deadLetterId =>
      exact replayDeadLetterEvent_noneLost deadLetterId hclean none

/-- **No event is lost.**  Whatever handlers, crashes and database errors, and
any jobs one after another: as long as the transport accepts what the publish
batches fetch and the handlers strand no event themselves, every event is
published, pending, or failed with a dead letter. -/
theorem no_event_lost {db : Database} (start : db.NoneLost) (shifts : List Shift)
    (h : Along perform Safe shifts db) : (run perform shifts db).NoneLost := by
  refine run_invariant_along (I := Database.NoneLost) ?_ shifts db start h
  intro db shift none hshift
  exact perform_noneLost none shift hshift

/-- An order is created, its event is dispatched, and what the handler emitted
is handed to a broker. -/
def dispatchedRun (publisher : EventPublisher) : List Shift :=
  [⟨.calm, 0, .createInventoryItem (pencils 2)⟩, ⟨.calm, 100, .createOrder twoPencils⟩,
   ⟨.calm, 200, .dispatchPendingBatch (sagaHandlers fun _ => false) 50 {}⟩,
   ⟨.calm, 300, .publishPendingBatch publisher 50⟩]

/-- A broker that takes everything and the default handlers lose nothing. -/
theorem no_event_lost_accepting :
    (run perform (dispatchedRun fun _ => .ok ()) Database.empty).NoneLost :=
  no_event_lost (fun _ mem => absurd mem List.not_mem_nil) (dispatchedRun fun _ => .ok ())
    ⟨trivial, trivial, sagaHandlers_strandsNone _, by unfold Safe; decide +kernel, trivial⟩

/-- An order is created and its event is handed to a broker. -/
def brokerRun (publisher : EventPublisher) : List Shift :=
  [⟨.calm, 0, .createInventoryItem (pencils 2)⟩, ⟨.calm, 100, .createOrder twoPencils⟩,
   ⟨.calm, 200, .publishPendingBatch publisher 50⟩]

/-- **A refused publish loses its event**: the row becomes FAILED, and there
is no dead letter to replay. -/
theorem refused_event_lost :
    ¬ ∀ shifts : List Shift, (run perform shifts Database.empty).NoneLost := by
  intro h
  have hfailed : (run perform (brokerRun fun _ => .error (.other "no servers available"))
      Database.empty).outboxEvents.map (·.status) = [.FAILED] := by decide +kernel
  have hletters : (run perform (brokerRun fun _ => .error (.other "no servers available"))
      Database.empty).deadLetters.length = 0 := by decide +kernel
  have hstatus : OutboxEventStatus.FAILED ∈ (run perform
      (brokerRun fun _ => .error (.other "no servers available"))
        Database.empty).outboxEvents.map (·.status) := by
    rw [hfailed]
    exact List.mem_singleton.mpr rfl
  obtain ⟨event, mem, hevent⟩ := List.mem_map.mp hstatus
  rcases h _ event mem with hpublished | hpending | ⟨-, row, hrow, -⟩
  · rw [hevent] at hpublished
    cases hpublished
  · rw [hevent] at hpending
    cases hpending
  · rw [List.length_eq_zero_iff.mp hletters] at hrow
    cases hrow

end EventCart
