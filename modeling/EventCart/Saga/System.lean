/-
  EventCart.Saga.System
  ─────────────────────
  **THE RUNNING SYSTEM.**

  A call is one request of the API, one round of the single dispatcher, or
  one replay; each opens a session on the committed database, under a world
  that may kill the process or reject a statement anywhere.  `step` is the
  committed database afterwards.

  `Commit` says once what a COMMIT of a call can change.  Every call is at
  most two of them (`step_effect`), as long as the pending events carry what
  their handlers read (`Ready`); every invariant is proved on `Commit` alone.
-/
import EventCart.OrderEffects
import EventCart.Saga.Handlers

namespace EventCart

open EventCart.Lib
open EventCart.Lib.Tx

/-! ## §1. Calls and steps. -/

/-- What can be asked of the system. -/
inductive Call where
  | createInventoryItem (payload : InventoryItemCreate)
  | createOrder (payload : OrderCreate)
  /-- One round of the dispatcher on the PENDING event with this id. -/
  | deliver (eventId : String) (policy : RetryPolicy) (paymentFails : String → Bool)
  | replayDeadLetterEvent (deadLetterId : String)

/-- One round of the dispatcher on an event, if it is PENDING. -/
def deliver (eventId : String) (policy : RetryPolicy) (paymentFails : String → Bool) :
    App Unit := do
  match ← peek (·.findOutboxEvent eventId) with
  | none => return ()
  | some event =>
      if event.status = .PENDING then
        dispatchEvent (sagaHandlers paymentFails) policy event
      else return ()

/-- The program a call runs. -/
def Call.program : Call → App Unit
  | .createInventoryItem payload => do
      let _ ← EventCart.createInventoryItem payload
      return ()
  | .createOrder payload => do
      let _ ← EventCart.createOrder payload
      return ()
  | .deliver eventId policy paymentFails => EventCart.deliver eventId policy paymentFails
  | .replayDeadLetterEvent deadLetterId => do
      let _ ← EventCart.replayDeadLetterEvent deadLetterId
      return ()

/-- The item a call wants to put on sale. -/
def Call.creation : Call → Option InventoryItemCreate
  | .createInventoryItem payload => some payload
  | _ => none

/-- A call and everything outside it. -/
structure Label where
  world : World Database
  tick : Nat
  call : Call

/-- The committed database after a call. -/
def step (label : Label) (db : Database) : Database :=
  transact label.call.program label.world label.tick db

/-- The committed database after a list of calls, one after another. -/
abbrev runCalls (labels : List Label) (db : Database) : Database := run step labels db

/-! ## §2. Commits. -/

/-- The dispatcher publishes a processed event. -/
inductive Publish (call : Call) (db : Database) : Database → Prop where
  | published {event : OutboxEvent} {consumer : String} {policy : RetryPolicy}
      {paymentFails : String → Bool} (publishedAt : DateTime)
      (called : call = .deliver event.eventId policy paymentFails)
      (mem : event ∈ db.outboxEvents) (pending : event.status = .PENDING)
      (routed : consumer? event.eventType = some consumer)
      (processed : db.processed consumer event.eventId = true)
      (keyed : (db.updateOutboxEvent event.eventId (·.published publishedAt)).Keyed) :
      Publish call db (db.updateOutboxEvent event.eventId (·.published publishedAt))

/-- What one COMMIT of a call changes. -/
inductive Commit (call : Call) (db : Database) : Database → Prop where
  | stocked {payload : InventoryItemCreate} (id : String) (createdAt : DateTime)
      (called : call = .createInventoryItem payload)
      (keyed : (db.addInventoryItem (payload.row id createdAt)).Keyed) :
      Commit call db (db.addInventoryItem (payload.row id createdAt))
  | ordered {payload : OrderCreate} {order : Order} {items : List OrderItem}
      {new : OutboxEvent} (called : call = .createOrder payload)
      (placed : Placed db payload order items new)
      (keyed : ((db.addOrder order items).addOutboxEvent new).Keyed) :
      Commit call db ((db.addOrder order items).addOutboxEvent new)
  | handled {event : OutboxEvent} {envelope : EventEnvelope} {consumer : String}
      {policy : RetryPolicy} {paymentFails : String → Bool} {db' : Database}
      {processedAt : DateTime}
      (called : call = .deliver event.eventId policy paymentFails)
      (mem : event ∈ db.outboxEvents) (pending : event.status = .PENDING)
      (valid : envelopeFromOutboxEvent event = .ok envelope)
      (routed : consumer? event.eventType = some consumer)
      (fresh : db.processed consumer event.eventId = false)
      (handled : Handled envelope db db')
      (keyed : (db'.addInboxEvent ⟨consumer, event.eventId, processedAt⟩).Keyed) :
      Commit call db (db'.addInboxEvent ⟨consumer, event.eventId, processedAt⟩)
  | published {db' : Database} (h : Publish call db db') : Commit call db db'
  | attempted {event : OutboxEvent} {policy : RetryPolicy} {paymentFails : String → Bool}
      (error : String) (stamp : FailureStamp)
      (called : call = .deliver event.eventId policy paymentFails)
      (mem : event ∈ db.outboxEvents) (pending : event.status = .PENDING)
      (unrouted : consumer? event.eventType = none)
      (keyed : (db.attemptFailed (sagaHandlers paymentFails) policy event error stamp).Keyed) :
      Commit call db (db.attemptFailed (sagaHandlers paymentFails) policy event error stamp)
  | replayed {row : DeadLetterEvent} {id : String} (occurredAt replayedAt : DateTime)
      (called : call = .replayDeadLetterEvent row.id)
      (mem : row ∈ db.deadLetters) (once : row.replayedAt = none) (id_ne : id ≠ "")
      (keyed : ((db.addOutboxEvent (row.draft.row id occurredAt)).updateDeadLetter row.id
        (·.replayed replayedAt)).Keyed) :
      Commit call db ((db.addOutboxEvent (row.draft.row id occurredAt)).updateDeadLetter row.id
        (·.replayed replayedAt))

/-- What a whole call changes: nothing, one commit, or a handler's commit
and the publication after it. -/
inductive Effect (call : Call) (db : Database) : Database → Prop where
  | idle : Effect call db db
  | commit {db' : Database} (h : Commit call db db') : Effect call db db'
  | publish {db₁ db' : Database} (h₁ : Commit call db db₁) (h₂ : Publish call db₁ db') :
      Effect call db db'

theorem Publish.keyed {call : Call} {db db' : Database} (h : Publish call db db') :
    db'.Keyed := by
  cases h
  assumption

/-- Every commit passed the key check. -/
theorem Commit.keyed {call : Call} {db db' : Database} (h : Commit call db db') :
    db'.Keyed := by
  cases h with
  | published h => exact h.keyed
  | _ => assumption

/-- The pending events carry what their handlers read. -/
structure Ready (db : Database) : Prop where
  valid : ∀ event ∈ db.outboxEvents, ∃ envelope, envelopeFromOutboxEvent event = .ok envelope
  sound : ∀ event ∈ db.outboxEvents, ∀ envelope consumer,
    envelopeFromOutboxEvent event = .ok envelope → consumer? event.eventType = some consumer →
      db.processed consumer event.eventId = false → Sound envelope db

/-! ## §3. Calls are commits. -/

/-- A body only appends to the outbox and leaves the inbox alone. -/
theorem Handled.outbox {event : EventEnvelope} {db db' : Database} (h : Handled event db db') :
    (∃ new, db'.outboxEvents = db.outboxEvents ++ new ∧ ∀ e ∈ new, e.status = .PENDING)
      ∧ db'.inboxEvents = db.inboxEvents ∧ db'.deadLetters = db.deadLetters := by
  cases h with
  | reserved => rw [moveAll_eq]; exact ⟨⟨[_], rfl, by simp [EventDraft.row]⟩, rfl, rfl⟩
  | refused => exact ⟨⟨[_], rfl, by simp [EventDraft.row]⟩, rfl, rfl⟩
  | paid => exact ⟨⟨[_], rfl, by simp [EventDraft.row]⟩, rfl, rfl⟩
  | invoiced => exact ⟨⟨[_], rfl, by simp [EventDraft.row]⟩, rfl, rfl⟩
  | notified => exact ⟨⟨[_], rfl, by simp [EventDraft.row]⟩, rfl, rfl⟩
  | completed => exact ⟨⟨[], (List.append_nil _).symm, by simp⟩, rfl, rfl⟩
  | released => rw [moveAll_eq]; exact ⟨⟨[_], rfl, by simp [EventDraft.row]⟩, rfl, rfl⟩
  | cancelled => exact ⟨⟨[], (List.append_nil _).symm, by simp⟩, rfl, rfl⟩

theorem processed_addInboxEvent_self (consumer eventId : String) (processedAt : DateTime)
    (db : Database) :
    (db.addInboxEvent ⟨consumer, eventId, processedAt⟩).processed consumer eventId = true := by
  simp [Database.processed, Database.addInboxEvent, InboxEvent.key]

theorem findOutboxEvent_of_mem {event : OutboxEvent} {db : Database}
    (mem : event ∈ db.outboxEvents) :
    ∃ row, db.findOutboxEvent event.eventId = some row := by
  rw [← Option.isSome_iff_exists]
  unfold Database.findOutboxEvent
  rw [List.find?_isSome]
  exact ⟨event, mem, by simp⟩

/-- After the handler returned, a round commits nothing more, or the
publication on top of the handler's objects. -/
theorem markPublished_committed {event : OutboxEvent} {handlers : HandlerMap}
    {policy : RetryPolicy} {t : Session Database} {committed : Database}
    (mem : event ∈ t.working.outboxEvents)
    (h : match markPublished event.eventId t with
      | .ok _ u => committed = u.committed ∨ u.working.Keyed ∧ committed = u.working
      | .error e u => committed = u.committed ∨ (e ≠ .crash ∧ u.active = true ∧ ∃ stamp,
          (u.working.attemptFailed handlers policy event (failureText e) stamp).Keyed
            ∧ committed
              = u.working.attemptFailed handlers policy event (failureText e) stamp)) :
    committed = t.committed
      ∨ ∃ publishedAt,
          (t.working.updateOutboxEvent event.eventId (·.published publishedAt)).Keyed
            ∧ committed
              = t.working.updateOutboxEvent event.eventId (·.published publishedAt) := by
  obtain ⟨row, hrow⟩ := findOutboxEvent_of_mem mem
  rw [markPublished_of_some hrow] at h
  rcases h with h | ⟨hk, h⟩
  · exact .inl h
  · exact .inr ⟨_, hk, h⟩

/-- **A round of the dispatcher is at most two commits**: the handler's and
the dispatcher's. -/
theorem deliverEvent_effect {db : Database} (ready : Ready db) {event : OutboxEvent}
    (mem : event ∈ db.outboxEvents) (pending : event.status = .PENDING)
    (paymentFails : String → Bool) (policy : RetryPolicy) {s : Session Database}
    (hs : s.Clean) (hdb : s.committed = db) :
    Effect (.deliver event.eventId policy paymentFails) db
      (after (dispatchEvent (sagaHandlers paymentFails) policy event s)).committed := by
  obtain ⟨hactive, hworking⟩ := hs
  rw [hdb] at hworking
  have hc := dispatchEvent_committed (sagaHandlers paymentFails) policy event s
  obtain ⟨envelope, valid⟩ := ready.valid event mem
  obtain ⟨htype, hid, -, -⟩ := envelope_eventType valid
  cases hlookup : (sagaHandlers paymentFails).lookup event.eventType with
  | none =>
      -- no handler: the failure is all that can be committed
      have hhandle : handleEvent (sagaHandlers paymentFails) event s = .error
          (.raised (.unsupportedEventTypeError
            ("No brokerless handler registered for " ++ Json.reprStr event.eventType ++ "."))) s := by
        unfold handleEvent
        rw [hlookup]
        rfl
      rw [hhandle] at hc
      rcases hc with hc | ⟨-, -, stamp, hk, hc⟩
      · rw [hc, hdb]
        exact .idle
      · rw [hworking] at hk hc
        rw [hc]
        exact .commit (.attempted _ stamp rfl mem pending (lookup_sagaHandlers_none hlookup) hk)
  | some registration =>
      have routed := lookup_sagaHandlers hlookup
      rw [← htype] at hlookup
      obtain ⟨α, body, event', hb⟩ := routed_body hlookup
      rw [htype] at hlookup
      have hhandle : handleEvent (sagaHandlers paymentFails) event s
          = (registration.handler envelope >>= fun _ => markPublished event.eventId) s := by
        unfold handleEvent
        rw [hlookup]
        show (ofExcept (envelopeFromOutboxEvent event) >>= _ : App Unit) s = _
        rw [ofExcept_bind_ok valid]
      rw [hhandle] at hc
      cases hh : registration.handler envelope s with
      | error e t =>
          -- a session that raised an exception of its own met an unsound payload
          have hcommitted := hb.handler_error hh
          rw [bind_of_error hh] at hc
          rcases hc with hc | ⟨hcrash, hlive, -⟩
          · rw [hc, hcommitted, hdb]
            exact .idle
          · cases e with
            | raised error =>
                obtain ⟨fresh, hunsound, -⟩ := hb.handler_raised hh
                rw [hworking, hid] at fresh
                rw [hworking] at hunsound
                exact absurd (ready.sound event mem envelope _ valid routed fresh) hunsound
            | crash => exact absurd rfl hcrash
            | database message =>
                rw [hb.handler_inactive hactive hh (by simp) hcrash] at hlive
                exact nomatch hlive
            | pendingRollback =>
                rw [hb.handler_inactive hactive hh (by simp) hcrash] at hlive
                exact nomatch hlive
      | ok u t =>
          rw [bind_of_ok hh] at hc
          rcases hb.handler_ok hh with ⟨processed, n, rfl⟩
            | ⟨fresh, db', at', n, handled, hk, rfl⟩
          · -- a duplicate: only the publication is committed
            rw [hid, hworking] at processed
            rw [hworking] at hc
            rcases markPublished_committed (t := s.goto db n) mem hc with hc | ⟨pat, hk, hc⟩
            · rw [hc, goto_committed, hdb]
              exact .idle
            · rw [hc]
              exact .commit (.published (.published pat rfl mem pending routed processed hk))
          · -- the handler's own commit comes first
            rw [hworking, hid] at fresh
            rw [hworking] at handled
            rw [hid] at hk hc
            obtain ⟨⟨new, houtbox, -⟩, -, -⟩ := handled.outbox
            have hfirst : Commit (.deliver event.eventId policy paymentFails) db
                (db'.addInboxEvent ⟨registration.consumerName, event.eventId, at'⟩) :=
              .handled rfl mem pending valid routed fresh handled hk
            have mem' : event ∈ (db'.addInboxEvent
                ⟨registration.consumerName, event.eventId, at'⟩).outboxEvents := by
              show event ∈ db'.outboxEvents
              rw [houtbox]
              exact List.mem_append_left _ mem
            rcases markPublished_committed mem' hc with hc | ⟨pat, hk', hc⟩
            · rw [hc]
              exact .commit hfirst
            · rw [hc]
              exact .publish hfirst (.published pat rfl mem' pending routed
                (processed_addInboxEvent_self _ _ _ _) hk')

/-- A delivery is the dispatcher's round on the row it finds. -/
theorem deliver_of_find {eventId : String} {event : OutboxEvent} {s : Session Database}
    (hfind : s.working.findOutboxEvent eventId = some event) (policy : RetryPolicy)
    (paymentFails : String → Bool) :
    deliver eventId policy paymentFails s
      = (if event.status = .PENDING then
          dispatchEvent (sagaHandlers paymentFails) policy event else pure ()) s := by
  unfold deliver
  rw [bind_of_ok (peek_apply _ s), hfind]

theorem deliver_effect {db : Database} (ready : Ready db) (eventId : String)
    (paymentFails : String → Bool) (policy : RetryPolicy) {s : Session Database}
    (hs : s.Clean) (hdb : s.committed = db) :
    Effect (.deliver eventId policy paymentFails) db
      (after (deliver eventId policy paymentFails s)).committed := by
  have hworking : s.working = db := hs.2.trans hdb
  cases hfind : s.working.findOutboxEvent eventId with
  | none =>
      have hd : deliver eventId policy paymentFails s = .ok () s := by
        unfold deliver
        rw [bind_of_ok (peek_apply _ s), hfind]
        rfl
      rw [hd, after_ok, hdb]
      exact .idle
  | some event =>
      rw [deliver_of_find hfind]
      have mem : event ∈ db.outboxEvents := hworking ▸ List.mem_of_find?_eq_some hfind
      have hid : event.eventId = eventId := by simpa using List.find?_some hfind
      by_cases pending : event.status = .PENDING
      · rw [if_pos pending, ← hid]
        exact deliverEvent_effect ready mem pending paymentFails policy hs hdb
      · rw [if_neg pending, pure_apply, after_ok, hdb]
        exact .idle

/-- **Every call is at most two commits.** -/
theorem step_effect {db : Database} (ready : Ready db) (label : Label) :
    Effect label.call db (step label db) := by
  unfold step transact
  cases label.call with
  | createInventoryItem payload =>
      show Effect _ db (after ((createInventoryItem payload >>= fun _ =>
        (pure () : App Unit)) _)).committed
      rw [after_bind_pure]
      rcases createInventoryItem_committed payload
        (Session.begin label.world label.tick db) with h | ⟨id, at', hk, h⟩
      · rw [h]; exact .idle
      · rw [h]; exact .commit (.stocked id at' rfl hk)
  | createOrder payload =>
      show Effect _ db (after ((createOrder payload >>= fun _ =>
        (pure () : App Unit)) _)).committed
      rw [after_bind_pure]
      rcases createOrder_committed payload
        (Session.begin label.world label.tick db) with h | ⟨order, items, new, placed, hk, h⟩
      · rw [h]; exact .idle
      · rw [h]; exact .commit (.ordered rfl placed hk)
  | deliver eventId policy paymentFails =>
      exact deliver_effect ready eventId paymentFails policy
        (begin_clean label.world label.tick db) rfl
  | replayDeadLetterEvent deadLetterId =>
      show Effect _ db (after ((replayDeadLetterEvent deadLetterId >>= fun _ =>
        (pure () : App Unit)) _)).committed
      rw [after_bind_pure]
      rcases replayDeadLetterEvent_committed deadLetterId
        (Session.begin label.world label.tick db)
        with h | ⟨row, id, at', rat, hrow, once, hid, hk, h⟩
      · rw [h]; exact .idle
      · have hkey : row.id = deadLetterId := by simpa using List.find?_some hrow
        subst hkey
        rw [h]
        exact .commit (.replayed at' rat rfl (List.mem_of_find?_eq_some hrow) once hid hk)

end EventCart
