/-
  EventCart.Dispatchers.Broker
  ────────────────────────────
  **PUBLISHING TO A BROKER.**

  `publish_pending_batch` hands the events of a batch to a transport one by
  one and commits their status once, at the end.  A message that the
  transport took stays taken: a crash rolls the status of any prefix of the
  batch back, and the events are handed over again.

  The offers made to the transport are a record beside the session
  (`Lib.Watched`).  The transport answers each one as it likes, in view of
  all offers before it: it may take the message and answer, take it and
  raise, refuse it, or never answer because the process died before or after
  it took the message.

    • `erases_publishPendingBatchTo` — with a transport that only looks at the
                                       envelope this is `publishPendingBatch`,
    • `brokerStep_accounted`         — what one batch keeps, wherever it stops,
    • `published_at_least_once`      — what every run of batches guarantees.
-/
import EventCart.Lib.Watched
import EventCart.NoEventLost

namespace EventCart

open EventCart.Lib
open EventCart.Lib.Tx

/-! ## §1. The transport. -/

/-- What JetStream is handed: subject, payload and the `Nats-Msg-Id`
header. -/
structure Message where
  subject : String
  payload : String
  natsMsgId : String
  deriving DecidableEq, Repr

/-- The text functions a message is made with: `str.lower` and
`model_dump_json`. -/
structure Codec where
  lower : String → String
  modelDumpJson : EventEnvelope → String

/-- `subject_for_event`. -/
def subjectForEvent (codec : Codec) (envelope : EventEnvelope) : String :=
  "eventcart." ++ codec.lower envelope.aggregateType ++ "." ++ codec.lower envelope.eventType

/-- The arguments `NatsEventPublisher.publish` gives the JetStream client. -/
def natsMessage (codec : Codec) (envelope : EventEnvelope) : Message where
  subject := subjectForEvent codec envelope
  payload := codec.modelDumpJson envelope
  natsMsgId := envelope.eventId

/-- What becomes of an offered message. -/
inductive Delivery where
  | accepted
  /-- Taken, but the acknowledgement was lost. -/
  | acceptedThenRaised (error : PyError)
  /-- Not taken, or no connection. -/
  | refused (error : PyError)
  | crashedBefore
  | crashedAfter
  deriving DecidableEq

/-- The transport has the message. -/
def Delivery.accepts : Delivery → Bool
  | .accepted => true
  | .acceptedThenRaised _ => true
  | .refused _ => false
  | .crashedBefore => false
  | .crashedAfter => true

/-- A message, and what became of it. -/
structure Offer where
  message : Message
  delivery : Delivery
  deriving DecidableEq

/-- A transport answers in view of all earlier offers. -/
abbrev Transport := List Offer → Message → Delivery

/-- How the call of the client ends. -/
def Delivery.outcome : Delivery → Watched Offer Database PyError Unit
  | .accepted => pure ()
  | .acceptedThenRaised error => Watched.stop (.raised error)
  | .refused error => Watched.stop (.raised error)
  | .crashedBefore => Watched.stop .crash
  | .crashedAfter => Watched.stop .crash

/-- `NatsEventPublisher.publish`. -/
def natsPublish (codec : Codec) (transport : Transport) (envelope : EventEnvelope) :
    Watched Offer Database PyError Unit := do
  let offers ← Watched.recorded
  Watched.record ⟨natsMessage codec envelope, transport offers (natsMessage codec envelope)⟩
  (transport offers (natsMessage codec envelope)).outcome

/-! ## §2. Batches. -/

/-- The `try` block of `publish_pending_batch` for one event. -/
def publishEventTo (codec : Codec) (transport : Transport) (event : OutboxEvent) :
    Watched Offer Database PyError Unit := do
  let envelope ← Watched.lift (ofExcept (envelopeFromOutboxEvent event))
  natsPublish codec transport envelope
  Watched.lift (markPublished event.eventId)

/-- One round of the loop of `publish_pending_batch`. -/
def publishOneTo (codec : Codec) (transport : Transport) (event : OutboxEvent) :
    Watched Offer Database PyError PUnit :=
  Watched.tryExcept (publishEventTo codec transport event) fun error =>
    Watched.lift (markFailed event.eventId (failureText error))

def publishPendingBatchTo (codec : Codec) (transport : Transport) (limit : Nat) :
    Watched Offer Database PyError Nat := do
  let events ← Watched.lift (fetchPending limit)
  events.forM (publishOneTo codec transport)
  Watched.lift commit
  return events.length

/-- What a publisher that returns or raises has done with the message. -/
def Delivery.ofAnswer : Except PyError Unit → Delivery
  | .ok _ => .accepted
  | .error error => .refused error

/-- The transport answers as a publisher that knows the envelope only. -/
def Answers (codec : Codec) (transport : Transport) (publisher : EventPublisher) : Prop :=
  ∀ offers envelope,
    transport offers (natsMessage codec envelope) = .ofAnswer (publisher envelope)

/-- **The same batch**: with such a transport, and without the record, this
is `publishPendingBatch`. -/
theorem erases_publishPendingBatchTo {codec : Codec} {transport : Transport}
    {publisher : EventPublisher} (h : Answers codec transport publisher) (limit : Nat) :
    Watched.Erases (publishPendingBatchTo codec transport limit)
      (publishPendingBatch publisher limit) := by
  have hpublish : ∀ envelope, Watched.Erases (natsPublish codec transport envelope)
      (ofExcept (publisher envelope)) := by
    intro envelope
    apply Watched.Erases.after_recorded
    intro offers
    apply Watched.Erases.after_record
    rw [h offers envelope]
    cases publisher envelope with
    | ok u => exact fun _ => rfl
    | error error => exact fun _ => rfl
  have hone : ∀ event, Watched.Erases (publishOneTo codec transport event)
      (publishOne publisher event) := by
    intro event
    exact ((Watched.erases_lift _).bind fun envelope => (hpublish envelope).bind fun _ =>
      Watched.erases_lift _).tryExcept fun _ => Watched.erases_lift _
  exact (Watched.erases_lift _).bind fun events => (Watched.Erases.forM hone events).bind fun _ =>
    (Watched.erases_lift _).bind fun _ => fun _ => rfl

/-! ## §3. One round. -/

/-- Where a round stands once the transport has answered. -/
def settle (eventId : String) (s : Session Database) (offers : List Offer) :
    Delivery → EStateM.Result (Failure PyError) (Session Database × List Offer) PUnit
  | .accepted => .ok ⟨⟩ (s.goto (s.working.updateOutboxEvent eventId
      (·.published (s.world.now s.tick))) (s.tick + 1), offers)
  | .acceptedThenRaised error =>
      .ok ⟨⟩ (s.goto (s.working.updateOutboxEvent eventId (·.failed error.text)) s.tick, offers)
  | .refused error =>
      .ok ⟨⟩ (s.goto (s.working.updateOutboxEvent eventId (·.failed error.text)) s.tick, offers)
  | .crashedBefore => .error .crash (s, offers)
  | .crashedAfter => .error .crash (s, offers)

section round
variable {codec : Codec} {transport : Transport} {event row : OutboxEvent}
  {s : Session Database} {offers : List Offer}

/-- The offer an envelope makes next. -/
def nextOffer (codec : Codec) (transport : Transport) (offers : List Offer)
    (envelope : EventEnvelope) : Offer :=
  ⟨natsMessage codec envelope, transport offers (natsMessage codec envelope)⟩

/-- The round of an event with an envelope. -/
theorem publishOneTo_valid (hfind : s.working.findOutboxEvent event.eventId = some row)
    {envelope : EventEnvelope} (valid : envelopeFromOutboxEvent event = .ok envelope) :
    publishOneTo codec transport event (s, offers)
      = settle event.eventId s (offers ++ [nextOffer codec transport offers envelope])
          (transport offers (natsMessage codec envelope)) := by
  -- the `try` body: one offer, then the status
  have hbody : publishEventTo codec transport event
      = natsPublish codec transport envelope >>= fun _ =>
          Watched.lift (markPublished event.eventId) := by
    unfold publishEventTo
    rw [valid]
    rfl
  have hfailed : ∀ error : PyError, (Watched.lift (markFailed event.eventId error.text) :
      Watched Offer Database PyError Unit)
        (s, offers ++ [nextOffer codec transport offers envelope])
      = .ok () (s.goto (s.working.updateOutboxEvent event.eventId (·.failed error.text)) s.tick,
          offers ++ [nextOffer codec transport offers envelope]) :=
    fun error => Watched.lift_of_ok (p := (s, offers ++ _)) (markFailed_of_some hfind)
  have hsend : natsPublish codec transport envelope (s, offers)
      = (transport offers (natsMessage codec envelope)).outcome
          (s, offers ++ [nextOffer codec transport offers envelope]) := rfl
  unfold publishOneTo Watched.tryExcept
  rw [hbody]
  -- a crash leaves the offer behind and no status, any other answer sets one
  cases hdelivery : transport offers (natsMessage codec envelope) with
  | accepted =>
      rw [hdelivery] at hsend
      rw [Watched.bind_of_ok hsend, Watched.lift_of_ok (p := (s, offers ++ _))
        (markPublished_of_some hfind)]
      rfl
  | acceptedThenRaised error =>
      rw [hdelivery] at hsend
      rw [Watched.bind_of_error hsend]
      exact hfailed error
  | refused error =>
      rw [hdelivery] at hsend
      rw [Watched.bind_of_error hsend]
      exact hfailed error
  | crashedBefore =>
      rw [hdelivery] at hsend
      rw [Watched.bind_of_error hsend]
      rfl
  | crashedAfter =>
      rw [hdelivery] at hsend
      rw [Watched.bind_of_error hsend]
      rfl

/-- The round of a row that the schema of the envelope refuses. -/
theorem publishOneTo_invalid (hfind : s.working.findOutboxEvent event.eventId = some row)
    {error : PyError} (invalid : envelopeFromOutboxEvent event = .error error) :
    publishOneTo codec transport event (s, offers)
      = .ok ⟨⟩ (s.goto (s.working.updateOutboxEvent event.eventId (·.failed error.text)) s.tick,
          offers) := by
  have hbody : publishEventTo codec transport event (s, offers)
      = .error (.raised error) (s, offers) := by
    unfold publishEventTo
    rw [invalid]
    rfl
  unfold publishOneTo Watched.tryExcept
  rw [hbody]
  exact Watched.lift_of_ok (p := (s, offers)) (markFailed_of_some hfind)

end round

/-! ## §4. What a batch keeps. -/

/-- The offer is one of the event: its envelope, under its event id. -/
def Offer.IsOf (codec : Codec) (event : OutboxEvent) (offer : Offer) : Prop :=
  ∃ envelope, envelopeFromOutboxEvent event = .ok envelope
    ∧ offer.message = natsMessage codec envelope

/-- The transport took a message with this id. -/
def Taken (eventId : String) (offers : List Offer) : Prop :=
  ∃ offer ∈ offers, offer.delivery.accepts = true ∧ offer.message.natsMsgId = eventId

/-- The message of an event goes by the event id. -/
theorem Offer.IsOf.natsMsgId {codec : Codec} {event : OutboxEvent} {offer : Offer}
    (h : offer.IsOf codec event) : offer.message.natsMsgId = event.eventId := by
  obtain ⟨envelope, valid, hmessage⟩ := h
  obtain ⟨-, hid, -, -⟩ := envelope_eventType valid
  rw [hmessage]
  exact hid

/-- An event has one message. -/
theorem Offer.IsOf.message_eq {codec : Codec} {event : OutboxEvent} {offer offer' : Offer}
    (h : offer.IsOf codec event) (h' : offer'.IsOf codec event) :
    offer.message = offer'.message := by
  obtain ⟨envelope, valid, hmessage⟩ := h
  obtain ⟨envelope', valid', hmessage'⟩ := h'
  rw [valid, Except.ok.injEq] at valid'
  rw [hmessage, hmessage', valid']

/-- The message depends on the content of the event, not on its status. -/
theorem Offer.IsOf.of_entry {codec : Codec} {event event' : OutboxEvent} {offer : Offer}
    (h : offer.IsOf codec event) (hentry : event'.entry = event.entry) :
    offer.IsOf codec event' := by
  obtain ⟨envelope, valid, hmessage⟩ := h
  have hvalid : envelopeFromOutboxEvent event.entry = .ok envelope := valid
  rw [← hentry] at hvalid
  exact ⟨envelope, hvalid, hmessage⟩

theorem Taken.mono {eventId : String} {offers offers' : List Offer} (h : Taken eventId offers)
    (hpre : offers <+: offers') : Taken eventId offers' := by
  obtain ⟨offer, mem, htaken⟩ := h
  exact ⟨offer, hpre.subset mem, htaken⟩

/-- Outbox and transport agree: an event that became PUBLISHED was taken, and
an offer was made for an event of the outbox.  The events in `old` had been
PUBLISHED before the first offer of the record. -/
structure Accounted (codec : Codec) (old : List String) (p : Database × List Offer) : Prop where
  keyed : p.1.Keyed
  published : ∀ event ∈ p.1.outboxEvents, event.status = .PUBLISHED →
    event.eventId ∈ old ∨ Taken event.eventId p.2
  offered : ∀ offer ∈ p.2, ∃ event ∈ p.1.outboxEvents, offer.IsOf codec event

/-- A batch between two rounds. -/
structure InBatch (codec : Codec) (old : List String) (world : World Database) (db : Database)
    (history : List Offer) (p : Session Database × List Offer) : Prop where
  active : p.1.active = true
  world_eq : p.1.world = world
  committed : p.1.committed = db
  /-- Only outbox rows were assigned to, and only their delivery columns. -/
  tables : ∃ outboxEvents, p.1.working = { db with outboxEvents }
  entries : p.1.working.outboxEvents.map (·.entry) = db.outboxEvents.map (·.entry)
  keyed : p.1.working.Keyed
  grown : history <+: p.2
  published : ∀ row ∈ p.1.working.outboxEvents, row.status = .PUBLISHED →
    row.eventId ∈ old ∨ Taken row.eventId p.2
  offered : ∀ offer ∈ p.2, ∃ event ∈ db.outboxEvents, offer.IsOf codec event

section batch
variable {codec : Codec} {old : List String} {transport : Transport} {world : World Database}
  {db : Database} {history offers : List Offer} {s : Session Database} {event : OutboxEvent}

/-- The row of an event of the batch is in the session. -/
theorem InBatch.find (h : InBatch codec old world db history (s, offers))
    (mem : event ∈ db.outboxEvents) :
    ∃ row, s.working.findOutboxEvent event.eventId = some row := by
  have hentry : event.entry ∈ s.working.outboxEvents.map (·.entry) :=
    h.entries ▸ List.mem_map_of_mem mem
  obtain ⟨row, hrow, heq⟩ := List.mem_map.mp hentry
  rw [← Option.isSome_iff_exists]
  unfold Database.findOutboxEvent
  rw [List.find?_isSome]
  exact ⟨row, hrow, decide_eq_true (eventId_of_entry heq)⟩

/-- A row is marked: as PUBLISHED only when its message was taken. -/
theorem InBatch.mark (h : InBatch codec old world db history (s, offers)) {eventId : String}
    {f : OutboxEvent → OutboxEvent} (hf : ∀ row, (f row).entry = row.entry)
    (taken : ∀ row, (f row).status = .PUBLISHED → Taken eventId offers) (n : Nat) :
    InBatch codec old world db history (s.goto (s.working.updateOutboxEvent eventId f) n, offers) where
  active := h.active
  world_eq := h.world_eq
  committed := h.committed
  tables := by
    obtain ⟨rows, hrows⟩ := h.tables
    have hrows : s.working = { db with outboxEvents := rows } := hrows
    exact ⟨update (·.eventId) eventId f rows, by rw [hrows]; rfl⟩
  entries := (map_update_of_eq (fun row _ => hf row) s.working.outboxEvents).trans h.entries
  keyed := (keyed_updateOutboxEvent fun row => eventId_of_entry (hf row)).mpr h.keyed
  grown := h.grown
  published := by
    intro row mem status
    rcases mem_update.mp mem with ⟨before, -, hid, rfl⟩ | ⟨mem, -⟩
    · have hkey : (f before).eventId = eventId := (eventId_of_entry (hf before)).trans hid
      rw [hkey]
      exact .inr (taken before status)
    · exact h.published row mem status
  offered := h.offered

/-- An event of the batch is offered. -/
theorem InBatch.offer (h : InBatch codec old world db history (s, offers)) {offer : Offer}
    (mem : event ∈ db.outboxEvents) (isOf : offer.IsOf codec event) :
    InBatch codec old world db history (s, offers ++ [offer]) where
  active := h.active
  world_eq := h.world_eq
  committed := h.committed
  tables := h.tables
  entries := h.entries
  keyed := h.keyed
  grown := h.grown.trans (List.prefix_append _ _)
  published := fun row hrow status => (h.published row hrow status).imp_right
    fun taken => taken.mono (List.prefix_append _ _)
  offered := by
    intro other hother
    rcases List.mem_append.mp hother with hother | hother
    · exact h.offered other hother
    · rw [List.mem_singleton.mp hother]
      exact ⟨event, mem, isOf⟩

/-- The status column follows the transport. -/
theorem InBatch.settle (h : InBatch codec old world db history (s, offers)) (delivery : Delivery)
    (taken : delivery = .accepted → Taken event.eventId offers) :
    InBatch codec old world db history (Watched.final (settle event.eventId s offers delivery)) := by
  cases delivery with
  | accepted => exact h.mark (by intro _; rfl) (fun _ _ => taken rfl) _
  | acceptedThenRaised error =>
      refine h.mark (by intro _; rfl) (fun row status => ?_) _
      simp [OutboxEvent.failed] at status
  | refused error =>
      refine h.mark (by intro _; rfl) (fun row status => ?_) _
      simp [OutboxEvent.failed] at status
  | crashedBefore => exact h
  | crashedAfter => exact h

/-- **One round** keeps the books, whatever the transport does. -/
theorem keeps_publishOneTo (mem : event ∈ db.outboxEvents) :
    Watched.Keeps (InBatch codec old world db history) (publishOneTo codec transport event) := by
  rintro ⟨s, offers⟩ h
  obtain ⟨row, hfind⟩ := h.find mem
  cases henvelope : envelopeFromOutboxEvent event with
  | error error =>
      rw [publishOneTo_invalid hfind henvelope]
      refine h.mark (by intro _; rfl) (fun row status => ?_) _
      simp [OutboxEvent.failed] at status
  | ok envelope =>
      rw [publishOneTo_valid hfind henvelope]
      have isOf : (nextOffer codec transport offers envelope).IsOf codec event :=
        ⟨envelope, henvelope, rfl⟩
      refine (h.offer mem isOf).settle _ fun haccepted => ?_
      refine ⟨_, List.mem_append_right _ (List.mem_singleton.mpr rfl), ?_, isOf.natsMsgId⟩
      show (transport offers (natsMessage codec envelope)).accepts = true
      rw [haccepted]
      rfl

/-- What is committed when a batch stops before its COMMIT. -/
theorem InBatch.accounted_before {p : Session Database × List Offer}
    (h : InBatch codec old world db history p) (start : Accounted codec old (db, history)) :
    Accounted codec old (db, p.2) where
  keyed := start.keyed
  published := fun row mem status => (start.published row mem status).imp_right
    fun taken => taken.mono h.grown
  offered := h.offered

/-- What is committed when it does not. -/
theorem InBatch.accounted_after {p : Session Database × List Offer}
    (h : InBatch codec old world db history p) : Accounted codec old (p.1.working, p.2) where
  keyed := h.keyed
  published := h.published
  offered := by
    intro offer mem
    obtain ⟨event, hevent, isOf⟩ := h.offered offer mem
    have hentry : event.entry ∈ p.1.working.outboxEvents.map (·.entry) :=
      h.entries ▸ List.mem_map_of_mem hevent
    obtain ⟨row, hrow, heq⟩ := List.mem_map.mp hentry
    exact ⟨row, hrow, isOf.of_entry heq⟩

/-- A batch has read its events. -/
theorem Accounted.inBatch (start : Accounted codec old (db, history)) (world : World Database)
    (n : Nat) : InBatch codec old world db history (Session.begin world n db, history) where
  active := rfl
  world_eq := rfl
  committed := rfl
  tables := ⟨db.outboxEvents, rfl⟩
  entries := rfl
  keyed := start.keyed
  grown := List.prefix_refl _
  published := start.published
  offered := start.offered

end batch

/-! ## §5. Batches as steps. -/

/-- What one batch meets: database and clock, its size, and the transport. -/
structure BrokerLabel where
  world : World Database
  tick : Nat
  limit : Nat
  transport : Transport

/-- How a batch ends, on the committed tables. -/
def brokerBatch (codec : Codec) (a : BrokerLabel) (p : Database × List Offer) :
    EStateM.Result (Failure PyError) (Session Database × List Offer) Nat :=
  publishPendingBatchTo codec a.transport a.limit (Session.begin a.world a.tick p.1, p.2)

/-- The committed tables and the offers after a batch. -/
def brokerStep (codec : Codec) (a : BrokerLabel) (p : Database × List Offer) :
    Database × List Offer :=
  ((Watched.final (brokerBatch codec a p)).1.committed, (Watched.final (brokerBatch codec a p)).2)

/-- The events the SELECT of a batch returns. -/
def BrokerLabel.selected (a : BrokerLabel) (db : Database) : List OutboxEvent :=
  db.pending a.limit (a.world.now a.tick)

section step
variable {codec : Codec} {old : List String} {a : BrokerLabel} {p : Database × List Offer}

/-- The rounds of a batch keep the books. -/
theorem keeps_selected (codec : Codec) (old : List String) (a : BrokerLabel) (db : Database)
    (history : List Offer) :
    ∀ event ∈ a.selected db, Watched.Keeps (InBatch codec old a.world db history)
      (publishOneTo codec a.transport event) :=
  fun _ mem => keeps_publishOneTo (mem_pending mem).1

/-- A batch is its SELECT, its rounds and its COMMIT. -/
theorem brokerBatch_eq (codec : Codec) (a : BrokerLabel) (p : Database × List Offer) :
    (∃ e, brokerBatch codec a p = .error e ((after (fetchPending a.limit
        (Session.begin a.world a.tick p.1))), p.2))
      ∨ ∃ n, brokerBatch codec a p = ((a.selected p.1).forM (publishOneTo codec a.transport)
          >>= fun _ => Watched.lift commit >>= fun _ =>
            (pure (a.selected p.1).length : Watched Offer Database PyError Nat))
              (Session.begin a.world n p.1, p.2) := by
  cases hf : fetchPending a.limit (Session.begin a.world a.tick p.1) with
  | error e t => exact .inl ⟨e, Watched.bind_of_error (Watched.lift_of_error (p := (_, p.2)) hf)⟩
  | ok events t =>
      obtain ⟨rfl, n, rfl⟩ := fetchPending_ok hf
      exact .inr ⟨n, Watched.bind_of_ok (Watched.lift_of_ok (p := (_, p.2)) hf)⟩

/-- **What one batch keeps**, and what it commits: nothing, or the status of
all its events. -/
theorem brokerStep_accounted (start : Accounted codec old p) :
    Accounted codec old (brokerStep codec a p)
      ∧ ((∀ n q, brokerBatch codec a p ≠ .ok n q) → (brokerStep codec a p).1 = p.1) := by
  unfold brokerStep
  -- a failing SELECT commits nothing, and neither does a loop that stops
  rcases brokerBatch_eq codec a p with ⟨e, hbatch⟩ | ⟨n, hbatch⟩
  · have hcommitted := (quiet_fetchPending a.limit (Session.begin a.world a.tick p.1)).1
    rw [hbatch]
    show Accounted codec old ((after _).committed, p.2) ∧ (_ → (after _).committed = p.1)
    rw [hcommitted]
    exact ⟨start, fun _ => rfl⟩
  · have hloop := Watched.Keeps.forM _ (keeps_selected codec old a p.1 p.2) _
      (start.inBatch a.world n)
    cases hrun : (a.selected p.1).forM (publishOneTo codec a.transport)
        (Session.begin a.world n p.1, p.2) with
    | error e q =>
        rw [hrun, Watched.final_error] at hloop
        rw [hbatch, Watched.bind_of_error hrun]
        show Accounted codec old (q.1.committed, q.2) ∧ (_ → q.1.committed = p.1)
        rw [hloop.committed]
        exact ⟨hloop.accounted_before start, fun _ => rfl⟩
    | ok u q =>
        rw [hrun, Watched.final_ok] at hloop
        -- the loop is through: the one COMMIT of the batch decides
        have hfinal : Watched.final (brokerBatch codec a p)
            = (after ((commit : App Unit) q.1), q.2) := by
          rw [hbatch, Watched.bind_of_ok hrun, Watched.final_bind_pure, Watched.final_lift]
        rw [hfinal]
        refine ⟨?_, fun stopped => ?_⟩
        · rcases commit_committed q.1 with hc | ⟨-, -, hc⟩
          · show Accounted codec old ((after _).committed, q.2)
            rw [hc, hloop.committed]
            exact hloop.accounted_before start
          · show Accounted codec old ((after _).committed, q.2)
            rw [hc]
            exact hloop.accounted_after
        · cases hcommit : (commit : App Unit) q.1 with
          | error e t => exact (commit_error hcommit).1.trans hloop.committed
          | ok v t =>
              refine absurd ?_ (stopped (a.selected p.1).length (t, q.2))
              rw [hbatch, Watched.bind_of_ok hrun, Watched.bind_of_ok (Watched.lift_of_ok hcommit)]
              rfl

/-- A settled round adds nothing to the offers. -/
theorem settle_offers (eventId : String) (s : Session Database) (offers : List Offer)
    (delivery : Delivery) :
    (Watched.final (settle eventId s offers delivery)).2 = offers := by
  cases delivery <;> rfl

/-- **A batch that returns has offered all its events.** -/
theorem brokerBatch_offers (start : Accounted codec old p) {n : Nat}
    {q : Session Database × List Offer} (h : brokerBatch codec a p = .ok n q)
    {event : OutboxEvent} (mem : event ∈ a.selected p.1) {envelope : EventEnvelope}
    (valid : envelopeFromOutboxEvent event = .ok envelope) :
    ∃ new, q.2 = p.2 ++ new ∧ ∃ offer ∈ new, offer.message = natsMessage codec envelope := by
  rcases brokerBatch_eq codec a p with ⟨e, hbatch⟩ | ⟨m, hbatch⟩
  · rw [hbatch] at h
    simp at h
  rw [hbatch] at h
  obtain ⟨u, r, hrun, h⟩ := Watched.bind_eq_ok.mp h
  have hfinal : q = (after ((commit : App Unit) r.1), r.2) := by
    have hpure := Watched.final_bind_pure (Watched.lift (L := Offer) (commit : App Unit))
      (fun _ => (a.selected p.1).length) r
    rw [h, Watched.final_lift] at hpure
    exact hpure
  have hq : q.2 = r.2 := congrArg (·.2) hfinal
  have hfind : ∀ event ∈ a.selected p.1, ∀ r, InBatch codec old a.world p.1 p.2 r →
      ∃ row, r.1.working.findOutboxEvent event.eventId = some row :=
    fun event hevent r hr => hr.find (mem_pending hevent).1
  -- offers are only added, so what one round offers is there at the end
  have hgrows : ∀ event ∈ a.selected p.1, ∀ r, InBatch codec old a.world p.1 p.2 r →
      r.2 <+: (Watched.final (publishOneTo codec a.transport event r)).2 := by
    intro event hevent r hr
    obtain ⟨row, hrow⟩ := hfind event hevent r hr
    cases henvelope : envelopeFromOutboxEvent event with
    | error error =>
        rw [publishOneTo_invalid hrow henvelope]
        exact List.prefix_refl _
    | ok envelope =>
        rw [publishOneTo_valid hrow henvelope, settle_offers]
        exact List.prefix_append _ _
  obtain ⟨-, hran⟩ := Watched.Keeps.forM_ran _ (keeps_selected codec old a p.1 p.2) hgrows _ u r
    (start.inBatch a.world m) hrun
  -- the round of this event, between what was offered before and after it
  obtain ⟨r₁, v, r₂, hr₁, hround, ⟨before, hbefore⟩, ⟨later, hlater⟩⟩ := hran event mem
  obtain ⟨row, hrow⟩ := hfind event mem r₁ hr₁
  have hoffers : r₂.2 = r₁.2 ++ [nextOffer codec a.transport r₁.2 envelope] := by
    have hsettled := settle_offers event.eventId r₁.1
      (r₁.2 ++ [nextOffer codec a.transport r₁.2 envelope])
      (a.transport r₁.2 (natsMessage codec envelope))
    rw [← publishOneTo_valid hrow valid, hround] at hsettled
    exact hsettled
  refine ⟨before ++ [nextOffer codec a.transport r₁.2 envelope] ++ later, ?_,
    nextOffer codec a.transport r₁.2 envelope, by simp, rfl⟩
  rw [hq, ← hlater, hoffers, ← hbefore]
  simp only [List.append_assoc]

/-- The process lives on after the call. -/
def Delivery.survives : Delivery → Bool
  | .accepted => true
  | .acceptedThenRaised _ => true
  | .refused _ => true
  | .crashedBefore => false
  | .crashedAfter => false

/-- **A batch returns** when nothing dies and the database takes its rows,
whatever else the transport answers. -/
theorem brokerBatch_returns (start : Accounted codec old p) {rejects : Database → Option String}
    (dep : a.world.Dependable rejects) (hb : Businesslike rejects) (accepted : rejects p.1 = none)
    (survives : ∀ offers message, (a.transport offers message).survives = true) :
    ∃ n q, brokerBatch codec a p = .ok n q := by
  have hfetch := fetchPending_accepted (s := Session.begin a.world a.tick p.1) dep rfl accepted
    a.limit
  have hstart : InBatch codec old a.world p.1 p.2
      (afterFetch (Session.begin a.world a.tick p.1), p.2) := start.inBatch a.world (a.tick + 2)
  -- a refused event is marked FAILED: only a crash stops the loop
  have hreturns : ∀ event ∈ a.selected p.1, ∀ r, InBatch codec old a.world p.1 p.2 r →
      ∃ u q, publishOneTo codec a.transport event r = .ok u q := by
    rintro event hevent ⟨s, offers⟩ hr
    obtain ⟨row, hrow⟩ := hr.find (mem_pending hevent).1
    cases henvelope : envelopeFromOutboxEvent event with
    | error error => exact ⟨_, _, publishOneTo_invalid hrow henvelope⟩
    | ok envelope =>
        have halive := survives offers (natsMessage codec envelope)
        rw [publishOneTo_valid hrow henvelope]
        cases hdelivery : a.transport offers (natsMessage codec envelope) with
        | accepted => exact ⟨_, _, rfl⟩
        | acceptedThenRaised error => exact ⟨_, _, rfl⟩
        | refused error => exact ⟨_, _, rfl⟩
        | crashedBefore =>
            rw [hdelivery] at halive
            cases halive
        | crashedAfter =>
            rw [hdelivery] at halive
            cases halive
  obtain ⟨u, q, hrun⟩ := Watched.Keeps.forM_returns _ (keeps_selected codec old a p.1 p.2) hreturns _
    hstart
  have hq := Watched.Keeps.forM _ (keeps_selected codec old a p.1 p.2) _ hstart
  rw [hrun, Watched.final_ok] at hq
  obtain ⟨rows, hrows⟩ := hq.tables
  -- the statuses are business rows, which the database takes
  have hcommit := commit_accepted (ε := PyError) (s := q.1) (hq.world_eq ▸ dep) hq.active
    (by rw [hrows]; exact (hb p.1 rows p.1.attempts p.1.deadLetters).trans accepted)
    ((admits_iff _).mpr hq.keyed)
  refine ⟨_, _, (Watched.bind_of_ok (Watched.lift_of_ok (p := (_, p.2)) hfetch)).trans
    ((Watched.bind_of_ok hrun).trans (Watched.bind_of_ok (Watched.lift_of_ok hcommit)))⟩

end step

/-! ## §6. At least once. -/

/-- The ids of the PUBLISHED events. -/
def Database.published (db : Database) : List String :=
  (db.outboxEvents.filter (·.status = .PUBLISHED)).map (·.eventId)

/-- What a stream holds that drops every message whose id it has seen, however
long ago: its window for duplicates never closes. -/
def stream (offers : List Offer) : List Message :=
  ((offers.filter (·.delivery.accepts)).map (·.message)).foldl (insertNew (·.natsMsgId)) []

/-- **The contract of broker mode**, for committed tables and the offers made
since the tables were `db`. -/
structure AtLeastOnce (codec : Codec) (db : Database) (p : Database × List Offer) : Prop where
  /-- An event that became PUBLISHED was taken by the transport. -/
  published : ∀ event ∈ p.1.outboxEvents, event.status = .PUBLISHED →
    event.eventId ∈ db.published ∨ Taken event.eventId p.2
  /-- Whatever was taken is in the committed outbox. -/
  taken : ∀ offer ∈ p.2, offer.delivery.accepts = true →
    ∃ event ∈ p.1.outboxEvents, event.eventId = offer.message.natsMsgId ∧ offer.IsOf codec event
  /-- All offers of an event carry its id and one envelope. -/
  repeated : ∀ event ∈ p.1.outboxEvents, ∀ offer ∈ p.2,
    offer.message.natsMsgId = event.eventId → offer.IsOf codec event
  /-- A batch that stops early leaves every status as it was. -/
  stopped : ∀ a, (∀ n q, brokerBatch codec a p ≠ .ok n q) → (brokerStep codec a p).1 = p.1
  /-- A PENDING event is selected by every batch that is late and large
  enough. -/
  selected : ∀ event ∈ p.1.outboxEvents, event.status = .PENDING →
    ∃ dueAt, ∀ a : BrokerLabel, a.world.now a.tick ≥ dueAt → a.limit ≥ p.1.outboxEvents.length →
      event ∈ a.selected p.1
  /-- A batch that returns has offered what it selected, again or for the
  first time. -/
  again : ∀ a n q, brokerBatch codec a p = .ok n q → ∀ event ∈ a.selected p.1, ∀ envelope,
    envelopeFromOutboxEvent event = .ok envelope →
      ∃ new, q.2 = p.2 ++ new ∧ ∃ offer ∈ new, offer.message = natsMessage codec envelope
  /-- And a batch does return when nothing dies and the database takes its
  rows. -/
  returns : ∀ a rejects, a.world.Dependable rejects → Businesslike rejects →
    rejects p.1 = none → (∀ offers message, (a.transport offers message).survives = true) →
      ∃ n q, brokerBatch codec a p = .ok n q
  /-- A stream that never forgets an id has each event that became PUBLISHED
  exactly once. -/
  deduplicated : ∀ event ∈ p.1.outboxEvents, event.status = .PUBLISHED →
    event.eventId ∉ db.published → ∃ envelope, envelopeFromOutboxEvent event = .ok envelope
      ∧ (stream p.2).filter (·.natsMsgId = event.eventId) = [natsMessage codec envelope]

section contract
variable {codec : Codec} {old : List String} {p : Database × List Offer} {event : OutboxEvent}

/-- The row an id stands for decides the message. -/
theorem Accounted.isOf (h : Accounted codec old p) (mem : event ∈ p.1.outboxEvents)
    {offer : Offer} (made : offer ∈ p.2) (hid : offer.message.natsMsgId = event.eventId) :
    offer.IsOf codec event := by
  obtain ⟨other, hother, isOf⟩ := h.offered offer made
  have hsame : other = event := row_unique h.keyed.outboxEvents hother mem (isOf.natsMsgId ▸ hid)
  exact hsame ▸ isOf

/-- What the stream holds for an event that was taken. -/
theorem Accounted.streamed (h : Accounted codec old p) (mem : event ∈ p.1.outboxEvents)
    (taken : Taken event.eventId p.2) :
    ∃ envelope, envelopeFromOutboxEvent event = .ok envelope
      ∧ (stream p.2).filter (·.natsMsgId = event.eventId) = [natsMessage codec envelope] := by
  obtain ⟨offer, made, accepted, hid⟩ := taken
  obtain ⟨envelope, valid, hmessage⟩ := h.isOf mem made hid
  have hempty : (([] : List Message).map (·.natsMsgId)).Nodup := List.nodup_nil
  obtain ⟨hnodup, hfrom, hkept⟩ := foldl_insertNew
    ((p.2.filter (·.delivery.accepts)).map (·.message)) hempty
  have hoffered : offer.message ∈ (p.2.filter (·.delivery.accepts)).map (·.message) :=
    List.mem_map_of_mem (List.mem_filter.mpr ⟨made, accepted⟩)
  -- every message of the stream under this id is the message of the event
  have hunique : ∀ message ∈ (stream p.2).filter (·.natsMsgId = event.eventId),
      message = natsMessage codec envelope := by
    intro message hmem
    obtain ⟨hstream, hkey⟩ := List.mem_filter.mp hmem
    obtain ⟨other, hother, rfl⟩ := List.mem_map.mp
      ((hfrom message hstream).resolve_left List.not_mem_nil)
    have isOf := h.isOf mem (List.mem_filter.mp hother).1 (of_decide_eq_true hkey)
    exact (isOf.message_eq ⟨envelope, valid, hmessage⟩).trans hmessage
  obtain ⟨kept, hstream, hkey⟩ := hkept offer.message (.inr hoffered)
  have hmem : kept ∈ (stream p.2).filter (·.natsMsgId = event.eventId) :=
    List.mem_filter.mpr ⟨hstream, decide_eq_true (hkey.trans hid)⟩
  have hlength := length_filter_le_one hnodup event.eventId
  refine ⟨envelope, valid, ?_⟩
  cases hlist : (stream p.2).filter (·.natsMsgId = event.eventId) with
  | nil =>
      rw [hlist] at hmem
      simp at hmem
  | cons first rest =>
      rw [hlist] at hunique
      have hone : (first :: rest).length ≤ 1 := hlist ▸ hlength
      rw [List.length_cons] at hone
      obtain rfl : rest = [] := List.length_eq_zero_iff.mp (by omega)
      rw [hunique first List.mem_cons_self]

theorem Accounted.atLeastOnce {db : Database} (h : Accounted codec db.published p) :
    AtLeastOnce codec db p where
  published := h.published
  taken := by
    intro offer made _
    obtain ⟨event, mem, isOf⟩ := h.offered offer made
    exact ⟨event, mem, isOf.natsMsgId.symm, isOf⟩
  repeated := fun event mem offer made hid => h.isOf mem made hid
  stopped := fun a hstop => (brokerStep_accounted h).2 hstop
  selected := by
    intro event mem status
    obtain ⟨dueAt, hdue⟩ := pending_picked_up mem status
    exact ⟨dueAt, fun a hnow hlimit => hdue _ hnow _ hlimit⟩
  again := fun a n q hbatch event mem envelope valid => brokerBatch_offers h hbatch mem valid
  returns := fun a rejects dep hb accepted survives =>
    brokerBatch_returns h dep hb accepted survives
  deduplicated := fun event mem status new =>
    h.streamed mem ((h.published event mem status).resolve_left new)

/-- Before the first offer. -/
theorem accounted_start (codec : Codec) {db : Database} (keyed : db.Keyed) :
    Accounted codec db.published (db, []) where
  keyed := keyed
  published := fun _ mem status => .inl (List.mem_map_of_mem
    (List.mem_filter.mpr ⟨mem, decide_eq_true status⟩))
  offered := fun _ mem => absurd mem List.not_mem_nil

end contract

/-- **At least once, and deduplicable.**  From any outbox, after every run of
publish batches, with every database, clock, batch size and transport in every
batch, and wherever each batch stopped. -/
theorem published_at_least_once (codec : Codec) {db : Database} (keyed : db.Keyed)
    (labels : List BrokerLabel) :
    AtLeastOnce codec db (run (brokerStep codec) labels (db, [])) := by
  have hrun : Accounted codec db.published (run (brokerStep codec) labels (db, [])) :=
    run_invariant (I := Accounted codec db.published) (fun p a h => (brokerStep_accounted h).1)
      labels (db, []) (accounted_start codec keyed)
  exact hrun.atLeastOnce

/-- An event without a payload that waits to be published. -/
def unsentEvent : OutboxEvent :=
  EventDraft.row
    { eventType := "OrderCreated"
      eventVersion := 1
      aggregateType := "Order"
      aggregateId := "order-1"
      correlationId := "order-1"
      causationId := none
      payload := [] }
    "event-1" 0

/-- The text of that event. -/
def unsentCodec : Codec where
  lower := String.toLower
  modelDumpJson _ :=
    "\x7b\"event_id\":\"event-1\",\"event_type\":\"OrderCreated\",\"event_version\":1,"
      ++ "\"aggregate_type\":\"Order\",\"aggregate_id\":\"order-1\","
      ++ "\"correlation_id\":\"order-1\",\"causation_id\":null,"
      ++ "\"occurred_at\":\"1970-01-01T00:00:00Z\",\"payload\":\x7b\x7d\x7d"

/-- The process dies right after the first message was taken. -/
def diesOnce : BrokerLabel where
  world := World.calm
  tick := 0
  limit := 50
  transport offers _ := if offers.isEmpty then .crashedAfter else .accepted

/-- Two batches with that transport. -/
def crashedRun : Database × List Offer :=
  run (brokerStep unsentCodec) [diesOnce, diesOnce] (soleEvent unsentEvent, [])

/-- The crash rolls the status back, the event is offered again, and the
stream has it once. -/
theorem published_at_least_once_crashed :
    (crashedRun.1.published = ["event-1"] ∧ crashedRun.2.length = 2
        ∧ (stream crashedRun.2).length = 1)
      ∧ AtLeastOnce unsentCodec (soleEvent unsentEvent) crashedRun :=
  ⟨by decide +kernel, published_at_least_once unsentCodec (keyed_soleEvent unsentEvent) _⟩

end EventCart
