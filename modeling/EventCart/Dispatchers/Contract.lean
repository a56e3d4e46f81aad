/-
  EventCart.Dispatchers.Contract
  ──────────────────────────────
  **WHAT A HANDLER OWES THE DISPATCHER.**

  The dispatcher keeps its books in three tables: the outbox, the processing
  attempts and the dead letters.  A handler may insert events into the outbox
  and leaves everything else in these tables alone (`Appends`); the default
  handlers do (`sagaHandlers_append`).

  `dispatchEvent_effect` says once what a round can then commit: what the
  handler left, by itself, or with the event published, or with the failure
  on record.
-/
import EventCart.Lib.Frames
import EventCart.Survival

namespace EventCart

open EventCart.Lib
open EventCart.Lib.Tx

/-! ## §1. Inserting events. -/

/-- An event as it is inserted: pending, and never attempted. -/
structure OutboxEvent.Fresh (event : OutboxEvent) : Prop where
  status : event.status = .PENDING
  publishedAt : event.publishedAt = none
  nextAttemptAt : event.nextAttemptAt = none
  failureCount : event.failureCount = 0
  lastError : event.lastError = none

theorem fresh_row (draft : EventDraft) (eventId : String) (occurredAt : DateTime) :
    (draft.row eventId occurredAt).Fresh := ⟨rfl, rfl, rfl, rfl, rfl⟩

/-- What a handler may do to the books of delivery: insert fresh events. -/
structure Appends (db db' : Database) : Prop where
  outboxEvents : ∃ new, db'.outboxEvents = db.outboxEvents ++ new ∧ ∀ event ∈ new, event.Fresh
  attempts : db'.attempts = db.attempts
  deadLetters : db'.deadLetters = db.deadLetters

theorem appends_frame : Frame Appends where
  refl db := ⟨⟨[], (List.append_nil _).symm, by simp⟩, rfl, rfl⟩
  trans h₁ h₂ :=
    { outboxEvents := by
        obtain ⟨new₁, hnew₁, fresh₁⟩ := h₁.outboxEvents
        obtain ⟨new₂, hnew₂, fresh₂⟩ := h₂.outboxEvents
        refine ⟨new₁ ++ new₂, by rw [hnew₂, hnew₁, List.append_assoc], fun event mem => ?_⟩
        exact (List.mem_append.mp mem).elim (fresh₁ event) (fresh₂ event)
      attempts := h₂.attempts.trans h₁.attempts
      deadLetters := h₂.deadLetters.trans h₁.deadLetters }

/-- Writes to the other tables. -/
theorem appends_of_eq {db db' : Database} (hevents : db'.outboxEvents = db.outboxEvents)
    (hattempts : db'.attempts = db.attempts) (hletters : db'.deadLetters = db.deadLetters) :
    Appends db db' :=
  ⟨⟨[], hevents.trans (List.append_nil _).symm, by simp⟩, hattempts, hletters⟩

theorem appends_addOutboxEvent (db : Database) {event : OutboxEvent} (fresh : event.Fresh) :
    Appends db (db.addOutboxEvent event) :=
  ⟨⟨[event], rfl, fun _ mem => List.mem_singleton.mp mem ▸ fresh⟩, rfl, rfl⟩

/-- A handler map whose handlers keep to that, wherever they stop, and COMMIT
as the database lets them. -/
structure HandlerMap.Append (handlers : HandlerMap) : Prop where
  within : ∀ eventType registration, handlers.lookup eventType = some registration →
    ∀ envelope, Within Appends (registration.handler envelope)
  admitted : ∀ eventType registration, handlers.lookup eventType = some registration →
    ∀ envelope, CommitsAdmitted (registration.handler envelope)

/-! ## §2. The default handlers. -/

section within

/-- An event goes in within every frame that lets fresh events in. -/
theorem emit_within {R : Database → Database → Prop} (F : Frame R)
    (hadd : ∀ db event, event.Fresh → R db (db.addOutboxEvent event)) (draft : EventDraft) :
    Within R (emit draft) := by
  have hevent : Within R (addEvent draft) :=
    (within_uuid4 F).bind F fun id => (within_now F).bind F fun occurredAt =>
      (within_write fun db => hadd db _ (fresh_row draft id occurredAt)).bind F fun _ =>
        within_pure F _
  have hnotify : Within R notifyOutboxEvent :=
    (within_flush F).bind F fun _ => (within_dialect F).bind F fun _ =>
      within_ite (within_pure F _) ((within_statement F).bind F fun _ => within_pure F _)
  exact hevent.bind F fun _ => hnotify.bind F fun _ => within_pure F _

/-- The inbox around a body, and the commit after it, stay within a frame when
the body does. -/
theorem handleOnce_within {R : Database → Database → Prop} (F : Frame R)
    (hinbox : ∀ db row, R db (db.addInboxEvent row)) {α : Type} {body : EventEnvelope → App α}
    {event : EventEnvelope} (h : Within R (body event)) (consumerName : String) :
    Within R (discard (handleOnce consumerName body) event) := by
  have honce : Within R (processOnce consumerName event body) :=
    (within_query F _).bind F fun _ => within_ite (within_pure F _)
      (h.bind F fun _ => (within_now F).bind F fun _ =>
        (within_write fun db => hinbox db _).bind F fun _ =>
          (within_flush F).bind F fun _ => within_pure F _)
  exact (honce.bind F fun _ => within_ite
    ((within_commit F).bind F fun _ => within_pure F _) (within_pure F _)).bind F fun _ =>
      within_pure F _

theorem within_emit (draft : EventDraft) : Within Appends (emit draft) :=
  emit_within appends_frame (fun db _ fresh => appends_addOutboxEvent db fresh) draft

theorem within_handleOnce {α : Type} {body : EventEnvelope → App α} {event : EventEnvelope}
    (h : Within Appends (body event)) (consumerName : String) :
    Within Appends (discard (handleOnce consumerName body) event) :=
  handleOnce_within appends_frame (by intro _ _; exact appends_of_eq rfl rfl rfl) h consumerName

theorem within_loadInventoryItems (lines : List Dict) :
    Within Appends (loadInventoryItems lines) := by
  have F := appends_frame
  rw [loadInventoryItems_eq]
  refine within_ite ((within_query F _).bind F fun rows => ?_) (within_raise F _)
  cases missingSkus (lines.map lineSku) rows with
  | nil => exact within_pure F _
  | cons sku skus => exact within_raise F _

theorem within_moveStock (sign : Int) (rows : List InventoryItem) (lines : List Dict) :
    Within Appends (moveStock sign rows lines) := by
  have F := appends_frame
  exact within_forM F (fun line => (within_ofExcept F _).bind F fun _ =>
    (within_ofExcept F _).bind F fun _ => (within_ofExcept F _).bind F fun _ =>
      within_write (by intro _; exact appends_of_eq rfl rfl rfl)) lines

theorem within_reserveInventory (event : EventEnvelope) :
    Within Appends (reserveInventory event) := by
  have F := appends_frame
  refine (within_ofExcept F _).bind F fun _ => (within_ofExcept F _).bind F fun lines =>
    (((within_loadInventoryItems lines).bind F fun _ => (within_ofExcept F _).bind F fun _ =>
      within_pure F _).attempt).bind F fun r => ?_
  cases r with
  | inl reason => exact within_emit _
  | inr rows => exact (within_moveStock _ _ _).bind F fun _ => within_emit _

theorem within_releaseInventory (event : EventEnvelope) :
    Within Appends (releaseInventory event) := by
  have F := appends_frame
  exact (within_ofExcept F _).bind F fun _ => (within_ofExcept F _).bind F fun lines =>
    (within_loadInventoryItems lines).bind F fun _ => (within_moveStock _ _ _).bind F fun _ =>
      within_emit _

theorem within_authorizePayment (event : EventEnvelope) :
    Within Appends (authorizePayment event) := by
  have F := appends_frame
  rw [authorizePayment_eq]
  refine (within_ofExcept F _).bind F fun _ => ((within_uuid4 F).bind F fun _ =>
    (within_now F).bind F fun _ => (within_write (by intro _; exact appends_of_eq rfl rfl rfl)).bind F
      fun _ => (within_flush F).bind F fun _ => within_pure F _).bind F fun payment => ?_
  cases paymentStatus event.payload with
  | FAILED => exact within_emit _
  | AUTHORIZED => exact within_emit _

theorem within_createInvoice (event : EventEnvelope) :
    Within Appends (createInvoice event) := by
  have F := appends_frame
  exact (within_ofExcept F _).bind F fun _ => (within_ofExcept F _).bind F fun _ =>
    (within_ofExcept F _).bind F fun _ => (within_uuid4 F).bind F fun _ =>
      (within_now F).bind F fun _ => (within_write (by intro _; exact appends_of_eq rfl rfl rfl)).bind F
        fun _ => (within_flush F).bind F fun _ => within_emit _

theorem within_sendInvoiceNotification (event : EventEnvelope) :
    Within Appends (sendInvoiceNotification event) := by
  have F := appends_frame
  exact (within_ofExcept F _).bind F fun _ => (within_ofExcept F _).bind F fun _ =>
    (within_uuid4 F).bind F fun _ => (within_now F).bind F fun _ => (within_now F).bind F
      fun _ => (within_write (by intro _; exact appends_of_eq rfl rfl rfl)).bind F fun _ =>
        (within_flush F).bind F fun _ => within_emit _

theorem within_markOrder (status : OrderStatus) (event : EventEnvelope) :
    Within Appends (markOrder status event) := by
  have F := appends_frame
  refine (within_ofExcept F _).bind F fun orderId => (within_query F _).bind F fun found => ?_
  cases found with
  | none => exact within_raise F _
  | some row => exact (within_write (by intro _; exact appends_of_eq rfl rfl rfl)).bind F fun _ =>
      (within_flush F).bind F fun _ => within_pure F _

end within

/-- A program of the inbox commits as its COMMIT does. -/
theorem commitsAdmitted_handleOnce {α : Type} {body : EventEnvelope → App α}
    {event : EventEnvelope} (h : Quiet (body event)) (consumerName : String) :
    CommitsAdmitted (discard (handleOnce consumerName body) event) :=
  ((quiet_processOnce h consumerName).commitsAdmitted.bind fun _ =>
    commitsAdmitted_ite (commitsAdmitted_commit.bind fun _ => (quiet_pure _).commitsAdmitted)
      (quiet_pure _).commitsAdmitted).bind fun _ => (quiet_pure _).commitsAdmitted

/-- **The default handlers insert events and no more**, whatever the payment
outcomes. -/
theorem sagaHandlers_append (paymentFails : String → Bool) :
    (sagaHandlers paymentFails).Append := by
  have hboth : ∀ eventType registration,
      (sagaHandlers paymentFails).lookup eventType = some registration → ∀ event,
        Within Appends (registration.handler event)
          ∧ CommitsAdmitted (registration.handler event) := by
    intro eventType registration hlookup event
    refine sagaHandlers_rule (P := fun _ registration => Within Appends (registration.handler event)
      ∧ CommitsAdmitted (registration.handler event)) ?_ ?_ ?_ ?_ ?_ ?_ ?_ hlookup
    · exact ⟨within_handleOnce (within_reserveInventory _) _,
        commitsAdmitted_handleOnce (quiet_reserveInventory _) _⟩
    · exact ⟨within_handleOnce (within_authorizePayment _) _,
        commitsAdmitted_handleOnce (quiet_authorizePayment _) _⟩
    · exact ⟨within_handleOnce (within_createInvoice _) _,
        commitsAdmitted_handleOnce (quiet_createInvoice _) _⟩
    · exact ⟨within_handleOnce (within_sendInvoiceNotification _) _,
        commitsAdmitted_handleOnce (quiet_sendInvoiceNotification _) _⟩
    · exact ⟨within_handleOnce (within_markOrder _ _) _,
        commitsAdmitted_handleOnce (quiet_markOrder _ _) _⟩
    · exact ⟨within_handleOnce (within_releaseInventory _) _,
        commitsAdmitted_handleOnce (quiet_releaseInventory _) _⟩
    · exact ⟨within_handleOnce (within_markOrder _ _) _,
        commitsAdmitted_handleOnce (quiet_markOrder _ _) _⟩
  exact ⟨fun _ _ h event => (hboth _ _ h event).1, fun _ _ h event => (hboth _ _ h event).2⟩

/-- Passing no table means the default one. -/
theorem HandlerMap.Append.orDefault {handlers : HandlerMap} (h : handlers.Append) :
    (handlersOrDefault handlers).Append := by
  unfold handlersOrDefault
  split
  · rw [← sagaHandlers_default]
    exact sagaHandlers_append _
  · exact h

/-! ## §3. What a round commits. -/

/-- What a round of the dispatcher can commit, when what the handler leaves
is related by `R` to what it found. -/
inductive RoundEffect (R : Database → Database → Prop) (handlers : HandlerMap)
    (policy : RetryPolicy) (event : OutboxEvent) (db : Database) : Database → Prop where
  /-- The round stopped early; the handler may have committed by itself. -/
  | stopped {base : Database} (left : R db base) : RoundEffect R handlers policy event db base
  | published {base : Database} (left : R db base) {row : OutboxEvent}
      (found : base.findOutboxEvent event.eventId = some row) (publishedAt : DateTime)
      (keyed : (base.updateOutboxEvent event.eventId (·.published publishedAt)).Keyed) :
      RoundEffect R handlers policy event db
        (base.updateOutboxEvent event.eventId (·.published publishedAt))
  | failed {base : Database} (left : R db base) (error : String) (stamp : FailureStamp)
      (keyed : (base.attemptFailed handlers policy event error stamp).Keyed) :
      RoundEffect R handlers policy event db
        (base.attemptFailed handlers policy event error stamp)

/-- **What a round commits**, wherever it stops. -/
theorem dispatchEvent_effect {R : Database → Database → Prop} {handlers : HandlerMap}
    {event : OutboxEvent} {s : Session Database}
    (h : R s.committed (after (callHandler handlers event s)).working
      ∧ R s.committed (after (callHandler handlers event s)).committed) (policy : RetryPolicy) :
    RoundEffect R handlers policy event s.committed
      (after (dispatchEvent handlers policy event s)).committed := by
  have hc := dispatchEvent_committed handlers policy event s
  have hhandle := congrFun (handleEvent_eq handlers event) s
  -- what a failure commits, on top of what the handler left
  have hfailed : ∀ (u : Session Database) (committed : Database) (e : Failure PyError),
      R s.committed u.working → R s.committed u.committed →
      (committed = u.committed ∨ (e ≠ .crash ∧ u.active = true ∧ ∃ stamp,
        (u.working.attemptFailed handlers policy event (failureText e) stamp).Keyed
          ∧ committed = u.working.attemptFailed handlers policy event (failureText e) stamp)) →
      RoundEffect R handlers policy event s.committed committed := by
    intro u committed e hworking hcommitted hc
    rcases hc with hc | ⟨-, -, stamp, keyed, hc⟩
    · rw [hc]
      exact .stopped hcommitted
    · rw [hc]
      exact .failed hworking _ stamp keyed
  obtain ⟨hworking, hcommitted⟩ := h
  cases hcall : callHandler handlers event s with
  | error e u =>
      rw [hcall] at hworking hcommitted
      rw [bind_of_error hcall] at hhandle
      rw [hhandle] at hc
      exact hfailed u _ e hworking hcommitted hc
  | ok _ u =>
      rw [hcall] at hworking hcommitted
      rw [bind_of_ok hcall] at hhandle
      cases hfind : u.working.findOutboxEvent event.eventId with
      | none =>
          rw [markPublished_of_none hfind] at hhandle
          rw [hhandle] at hc
          exact hfailed u _ _ hworking hcommitted hc
      | some row =>
          rw [markPublished_of_some hfind] at hhandle
          rw [hhandle] at hc
          rcases hc with hc | ⟨keyed, hc⟩
          · rw [hc]
            exact .stopped hcommitted
          · rw [hc]
            exact .published hworking hfind _ keyed

/-- A handler call within a frame: an unknown type or an invalid row calls
none. -/
theorem callHandler_within {R : Database → Database → Prop} (F : Frame R) {handlers : HandlerMap}
    {event : OutboxEvent} {s : Session Database} (hs : s.Clean)
    (h : ∀ registration, handlers.lookup event.eventType = some registration →
      ∀ envelope, envelopeFromOutboxEvent event = .ok envelope →
        R s.committed (after (registration.handler envelope s)).working
          ∧ R s.committed (after (registration.handler envelope s)).committed) :
    R s.committed (after (callHandler handlers event s)).working
      ∧ R s.committed (after (callHandler handlers event s)).committed := by
  have hstill : R s.committed s.working ∧ R s.committed s.committed := by
    rw [hs.2]
    exact ⟨F.refl _, F.refl _⟩
  unfold callHandler
  cases hlookup : handlers.lookup event.eventType with
  | none => exact hstill
  | some registration =>
      cases henvelope : envelopeFromOutboxEvent event with
      | error error => exact hstill
      | ok envelope => exact h registration hlookup envelope henvelope

/-- The round of a handler that inserts events. -/
theorem HandlerMap.Append.round {handlers : HandlerMap} (h : handlers.Append)
    (policy : RetryPolicy) (event : OutboxEvent) {s : Session Database} (hs : s.Clean) :
    RoundEffect Appends handlers policy event s.committed
      (after (dispatchEvent handlers policy event s)).committed :=
  dispatchEvent_effect (callHandler_within appends_frame hs fun registration hlookup envelope _ =>
    (h.within _ registration hlookup envelope).of_clean appends_frame hs) policy

/-- A round keeps the declared keys. -/
theorem HandlerMap.Append.keyed {handlers : HandlerMap} (h : handlers.Append)
    (policy : RetryPolicy) (event : OutboxEvent) {s : Session Database}
    (keyed : s.committed.Keyed) :
    (after (dispatchEvent handlers policy event s)).committed.Keyed := by
  have hhandle : CommitsAdmitted (handleEvent handlers event) := by
    unfold handleEvent
    cases hlookup : handlers.lookup event.eventType with
    | none => exact (quiet_raise _).commitsAdmitted
    | some registration =>
        exact (quiet_ofExcept _).commitsAdmitted.bind fun envelope =>
          (h.admitted _ registration hlookup envelope).bind fun _ =>
            (quiet_markPublished _).commitsAdmitted
  have hround : CommitsAdmitted (dispatchEvent handlers policy event) :=
    (hhandle.tryExcept fun _ => (quiet_recordEventFailure _ _ _ _).commitsAdmitted).bind
      fun _ => commitsAdmitted_commit
  rcases hround s with hsame | hadmitted
  · rw [hsame]
    exact keyed
  · exact (admits_iff _).mp hadmitted

/-! ## §4. A round that returns. -/

/-- How a round that returned went. -/
inductive Round (handlers : HandlerMap) (policy : RetryPolicy) (event : OutboxEvent)
    (s t : Session Database) : Prop where
  | published {a : Unit} {u v : Session Database} (call : callHandler handlers event s = .ok a u)
      (handled : handleEvent handlers event s = .ok () v) {row : OutboxEvent}
      (found : u.working.findOutboxEvent event.eventId = some row) (publishedAt : DateTime)
      (committed : t.committed
        = u.working.updateOutboxEvent event.eventId (·.published publishedAt))
  /-- The handler raised, or its event was gone when it returned. -/
  | failed {e : Failure PyError} {u : Session Database} (alive : e ≠ .crash)
      (call : callHandler handlers event s = .error e u
        ∨ (∃ a, callHandler handlers event s = .ok a u)
          ∧ u.working.findOutboxEvent event.eventId = none)
      (handled : handleEvent handlers event s = .error e u) (active : u.active = true)
      (stamp : FailureStamp)
      (committed : t.committed
        = u.working.attemptFailed handlers policy event (failureText e) stamp)
      (later : u.working.failureNumber handlers event < policy.maxAttempts →
        ∃ m ≥ u.tick, stamp.failedAt = u.world.now m)

/-- **A round that returns** published its event or recorded a failure. -/
theorem dispatchEvent_returned {handlers : HandlerMap} {policy : RetryPolicy} {event : OutboxEvent}
    {s t : Session Database} {a : PUnit} (h : dispatchEvent handlers policy event s = .ok a t) :
    Round handlers policy event s t := by
  have hhandle := congrFun (handleEvent_eq handlers event) s
  -- a failure of the `try` block
  have hfailed : ∀ (e : Failure PyError) (u : Session Database),
      handleEvent handlers event s = .error e u →
      (callHandler handlers event s = .error e u
        ∨ (∃ a, callHandler handlers event s = .ok a u)
          ∧ u.working.findOutboxEvent event.eventId = none) →
      Round handlers policy event s t := by
    intro e u hraise hcall
    by_cases hcrash : e = .crash
    · rw [dispatchEvent_of_crash (hcrash ▸ hraise)] at h
      simp at h
    · rw [dispatchEvent_of_error hcrash hraise] at h
      obtain ⟨_, w, hrecord, hcommit⟩ := bind_eq_ok.mp h
      have hactive : u.active = true := by
        by_contra hinactive
        rw [recordEventFailure_of_inactive (by simpa using hinactive)] at hrecord
        simp at hrecord
      obtain ⟨stamp, n, rfl, hlater⟩ := recordEventFailure_stamped hrecord
      obtain ⟨-, m, rfl⟩ := commit_keyed hcommit
      exact .failed hcrash hcall hraise hactive stamp rfl fun hfew => (hlater hfew).1
  cases hcall : callHandler handlers event s with
  | error e u =>
      rw [bind_of_error hcall] at hhandle
      exact hfailed e u hhandle (.inl hcall)
  | ok a u =>
      rw [bind_of_ok hcall] at hhandle
      cases hfind : u.working.findOutboxEvent event.eventId with
      | none =>
          rw [markPublished_of_none hfind] at hhandle
          exact hfailed _ u hhandle (.inr ⟨⟨a, hcall⟩, hfind⟩)
      | some row =>
          rw [markPublished_of_some hfind] at hhandle
          rw [dispatchEvent_of_ok hhandle] at h
          obtain ⟨-, m, rfl⟩ := commit_keyed h
          exact .published hcall hhandle hfind _ rfl

end EventCart
