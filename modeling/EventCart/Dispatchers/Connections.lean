/-
  EventCart.Dispatchers.Connections
  ─────────────────────────────────
  **THE PUBLISHER AND ITS CONNECTION.**

  `NatsEventPublisher` is an object with two fields, a client and its
  JetStream context, that `connect` sets, `close` clears and `publish` reads.
  The worker `run_once` connects, publishes a batch and closes, whatever
  fails in between.

  Everything the publisher does is on record, the assignments to its fields
  included, so its fields are a function of the record (`publisherOf`).

    • `mirrors_publishPendingBatchOn` — on an open connection the batch is
                                        `publishPendingBatchTo`;
    • `runOnce_served`                — what one run of the worker does;
    • `workers_refine_batches`        — every run of workers is the run of the
                                        broker batches of those that got a
                                        connection, offers nothing without an
                                        open one and leaves none open.
-/
import EventCart.Dispatchers.Broker
import EventCart.Lib.Runs

namespace EventCart

open EventCart.Lib
open EventCart.Lib.Tx

/-! ## §1. The publisher. -/

/-- What the publisher does, in order.  Clients are numbered by their place on
the record. -/
inductive NatsAction where
  /-- `NatsEventPublisher()` -/
  | created
  /-- `self._nats_client = await nats.connect(…)` -/
  | connected (client : Nat)
  /-- `self._jetstream = self._nats_client.jetstream()` -/
  | jetstream (client : Nat)
  | offered (client : Nat) (offer : Offer)
  /-- `await self._nats_client.close()` -/
  | closed (client : Nat)
  /-- Both fields are `None` again. -/
  | cleared
  deriving DecidableEq

/-- The fields of the publisher. -/
structure NatsEventPublisher where
  jetstream : Option Nat
  natsClient : Option Nat
  deriving DecidableEq

def NatsEventPublisher.assign (publisher : NatsEventPublisher) : NatsAction → NatsEventPublisher
  | .created => ⟨none, none⟩
  | .connected client => { publisher with natsClient := some client }
  | .jetstream client => { publisher with jetstream := some client }
  | .offered _ _ => publisher
  | .closed _ => publisher
  | .cleared => ⟨none, none⟩

/-- The fields after everything on record. -/
def publisherOf (actions : List NatsAction) : NatsEventPublisher :=
  actions.foldl NatsEventPublisher.assign ⟨none, none⟩

def NatsAction.offer? : NatsAction → Option Offer
  | .offered _ offer => some offer
  | _ => none

/-- The offers made to the stream. -/
def offersOf (actions : List NatsAction) : List Offer := actions.filterMap NatsAction.offer?

/-- How a call into the client library ends. -/
inductive ClientReply where
  | returned
  | raised (error : PyError)
  | died

/-- The network, in view of everything before. -/
structure Network where
  connect : List NatsAction → ClientReply
  jetstream : List NatsAction → ClientReply
  close : List NatsAction → ClientReply
  transport : Transport

def ClientReply.ends : ClientReply → Watched NatsAction Database PyError PUnit
  | .returned => pure ⟨⟩
  | .raised error => Watched.stop (.raised error)
  | .died => Watched.stop .crash

/-- How the client's `publish` ends. -/
def Delivery.reply : Delivery → ClientReply
  | .accepted => .returned
  | .acceptedThenRaised error => .raised error
  | .refused error => .raised error
  | .crashedBefore => .died
  | .crashedAfter => .died

/-- `NatsEventPublisher.connect`. -/
def NatsEventPublisher.connect (network : Network) : Watched NatsAction Database PyError PUnit := do
  let actions ← Watched.recorded
  (network.connect actions).ends
  Watched.record (.connected actions.length)
  let actions' ← Watched.recorded
  (network.jetstream actions').ends
  Watched.record (.jetstream actions.length)

/-- `NatsEventPublisher.close`. -/
def NatsEventPublisher.close (network : Network) : Watched NatsAction Database PyError PUnit := do
  let actions ← Watched.recorded
  match (publisherOf actions).natsClient with
  | none => pure ⟨⟩
  | some client =>
      (network.close actions).ends
      Watched.record (.closed client)
      Watched.record .cleared

/-- `publish` once it has a client, if it has one. -/
def NatsEventPublisher.publishOn (codec : Codec) (network : Network) (envelope : EventEnvelope)
    (actions : List NatsAction) : Watched NatsAction Database PyError PUnit :=
  match (publisherOf actions).jetstream with
  | none => Watched.stop (.raised (.runtimeError "NATS JetStream client is not connected."))
  | some client => do
      let delivery := network.transport (offersOf actions) (natsMessage codec envelope)
      Watched.record (.offered client ⟨natsMessage codec envelope, delivery⟩)
      delivery.reply.ends

/-- `NatsEventPublisher.publish`: a publisher that is not connected connects
first. -/
def NatsEventPublisher.publish (codec : Codec) (network : Network) (envelope : EventEnvelope) :
    Watched NatsAction Database PyError PUnit := do
  let actions ← Watched.recorded
  match (publisherOf actions).jetstream with
  | none => NatsEventPublisher.connect network
  | some _ => pure ⟨⟩
  let actions' ← Watched.recorded
  NatsEventPublisher.publishOn codec network envelope actions'

/-! ## §2. The worker. -/

/-- The `try` block of `publish_pending_batch` for one event. -/
def publishEventOn (codec : Codec) (network : Network) (event : OutboxEvent) :
    Watched NatsAction Database PyError Unit := do
  let envelope ← Watched.lift (ofExcept (envelopeFromOutboxEvent event))
  NatsEventPublisher.publish codec network envelope
  Watched.lift (markPublished event.eventId)

/-- One round of the loop of `publish_pending_batch`. -/
def publishOneOn (codec : Codec) (network : Network) (event : OutboxEvent) :
    Watched NatsAction Database PyError PUnit :=
  Watched.tryExcept (publishEventOn codec network event) fun error =>
    Watched.lift (markFailed event.eventId (failureText error))

/-- `publish_pending_batch` with this publisher. -/
def publishPendingBatchOn (codec : Codec) (network : Network) (limit : Nat) :
    Watched NatsAction Database PyError Nat := do
  let events ← Watched.lift (fetchPending limit)
  events.forM (publishOneOn codec network)
  Watched.lift commit
  return events.length

/-- `run_once` of the outbox publisher. -/
def runOnce (codec : Codec) (network : Network) (limit : Nat) :
    Watched NatsAction Database PyError Nat := do
  Watched.record .created
  Watched.tryFinally
    (NatsEventPublisher.connect network >>= fun _ => publishPendingBatchOn codec network limit)
    (NatsEventPublisher.close network)

/-! ## §3. A batch on an open connection. -/

section connection
variable {codec : Codec} {network : Network} {client : Nat} {base : List NatsAction}

@[simp] theorem publisherOf_append (actions actions' : List NatsAction) :
    publisherOf (actions ++ actions')
      = actions'.foldl NatsEventPublisher.assign (publisherOf actions) :=
  List.foldl_append

@[simp] theorem offersOf_append (actions actions' : List NatsAction) :
    offersOf (actions ++ actions') = offersOf actions ++ offersOf actions' :=
  List.filterMap_append

/-- Offers assign to no field. -/
theorem publisherOf_offered (base : List NatsAction) (client : Nat) (made : List Offer) :
    publisherOf (base ++ made.map (.offered client)) = publisherOf base := by
  rw [publisherOf_append]
  induction made with
  | nil => rfl
  | cons offer made ih => exact ih

theorem offersOf_offered (made : List Offer) : offersOf (made.map (.offered client)) = made := by
  unfold offersOf
  rw [List.filterMap_map]
  exact List.filterMap_some

/-- Since `base` only offers were made, all on the one client, and these are
the broker's. -/
structure OnConnection (base : List NatsAction) (client : Nat) (actions : List NatsAction)
    (offers : List Offer) : Prop where
  made : ∃ made : List Offer, actions = base ++ made.map (.offered client)
  offers : offersOf actions = offers

theorem OnConnection.offer {actions : List NatsAction} {offers : List Offer}
    (h : OnConnection base client actions offers) (offer : Offer) :
    OnConnection base client (actions ++ [.offered client offer]) (offers ++ [offer]) := by
  obtain ⟨⟨made, rfl⟩, hoffers⟩ := h
  refine ⟨⟨made ++ [offer], ?_⟩, ?_⟩
  · rw [List.map_append, ← List.append_assoc]
    rfl
  · rw [offersOf_append, hoffers]
    rfl

/-- A connected publisher publishes on its client. -/
theorem publish_connected {actions : List NatsAction} (s : Session Database)
    (connected : publisherOf actions = ⟨some client, some client⟩) (envelope : EventEnvelope) :
    NatsEventPublisher.publish codec network envelope (s, actions)
      = (network.transport (offersOf actions) (natsMessage codec envelope)).reply.ends
          (s, actions ++ [.offered client ⟨natsMessage codec envelope,
            network.transport (offersOf actions) (natsMessage codec envelope)⟩]) := by
  -- it has a JetStream context, so it does not connect again
  have hon : NatsEventPublisher.publishOn codec network envelope actions (s, actions)
      = (network.transport (offersOf actions) (natsMessage codec envelope)).reply.ends
          (s, actions ++ [.offered client ⟨natsMessage codec envelope,
            network.transport (offersOf actions) (natsMessage codec envelope)⟩]) := by
    unfold NatsEventPublisher.publishOn
    rw [connected]
    rfl
  unfold NatsEventPublisher.publish
  rw [Watched.bind_of_ok (Watched.recorded_apply _), connected]
  exact hon

theorem mirrors_publish (connected : publisherOf base = ⟨some client, some client⟩)
    (envelope : EventEnvelope) :
    Watched.Mirrors (OnConnection base client) (NatsEventPublisher.publish codec network envelope)
      (natsPublish codec network.transport envelope) := by
  intro s actions offers h
  obtain ⟨made, hmade⟩ := h.made
  have hpublisher : publisherOf actions = ⟨some client, some client⟩ := by
    rw [hmade, publisherOf_offered, connected]
  have hsend : natsPublish codec network.transport envelope (s, offers)
      = (network.transport offers (natsMessage codec envelope)).outcome
          (s, offers ++ [⟨natsMessage codec envelope,
            network.transport offers (natsMessage codec envelope)⟩]) := rfl
  rw [publish_connected s hpublisher, hsend, h.offers]
  have hoffer := h.offer ⟨natsMessage codec envelope,
    network.transport offers (natsMessage codec envelope)⟩
  -- the offer is on both records, however it ends
  cases hdelivery : network.transport offers (natsMessage codec envelope) with
  | accepted => exact .ok _ s (hdelivery ▸ hoffer)
  | acceptedThenRaised error => exact .error _ s (hdelivery ▸ hoffer)
  | refused error => exact .error _ s (hdelivery ▸ hoffer)
  | crashedBefore => exact .error _ s (hdelivery ▸ hoffer)
  | crashedAfter => exact .error _ s (hdelivery ▸ hoffer)

/-- **On an open connection** the batch is that of `publishPendingBatchTo`,
offer by offer. -/
theorem mirrors_publishPendingBatchOn (codec : Codec) (network : Network)
    (connected : publisherOf base = ⟨some client, some client⟩) (limit : Nat) :
    Watched.Mirrors (OnConnection base client) (publishPendingBatchOn codec network limit)
      (publishPendingBatchTo codec network.transport limit) := by
  have hone : ∀ event, Watched.Mirrors (OnConnection base client)
      (publishOneOn codec network event) (publishOneTo codec network.transport event) := by
    intro event
    -- only `publish` itself is recorded differently
    refine Watched.Mirrors.tryExcept ?_ fun error => Watched.mirrors_lift _
    refine (Watched.mirrors_lift _).bind fun envelope => ?_
    exact (mirrors_publish connected envelope).bind fun _ => Watched.mirrors_lift _
  refine (Watched.mirrors_lift _).bind fun events => ?_
  refine (Watched.Mirrors.forM hone events).bind fun _ => ?_
  exact (Watched.mirrors_lift _).bind fun _ => Watched.mirrors_lift (pure events.length)

/-- What the batch leaves, on either record. -/
theorem final_publishPendingBatchOn (codec : Codec) (network : Network)
    (connected : publisherOf base = ⟨some client, some client⟩) (limit : Nat)
    (s : Session Database) :
    ∃ (t : Session Database) (made : List Offer),
      Watched.final (publishPendingBatchOn codec network limit (s, base))
          = (t, base ++ made.map (.offered client))
        ∧ Watched.final (publishPendingBatchTo codec network.transport limit (s, offersOf base))
          = (t, offersOf base ++ made) := by
  have hmirror := mirrors_publishPendingBatchOn codec network connected limit s base
    (offersOf base) ⟨⟨[], (List.append_nil base).symm⟩, rfl⟩
  generalize publishPendingBatchOn codec network limit (s, base) = res at hmirror ⊢
  generalize publishPendingBatchTo codec network.transport limit (s, offersOf base) = res'
    at hmirror ⊢
  cases hmirror with
  | ok n t rel =>
      obtain ⟨⟨made, rfl⟩, rfl⟩ := rel
      exact ⟨t, made, rfl, by rw [offersOf_append, offersOf_offered]; rfl⟩
  | error e t rel =>
      obtain ⟨⟨made, rfl⟩, rfl⟩ := rel
      exact ⟨t, made, rfl, by rw [offersOf_append, offersOf_offered]; rfl⟩

end connection

/-! ## §4. One run of the worker. -/

/-- The connections that are open after some actions. -/
def openAfter : List Nat → List NatsAction → List Nat
  | clients, [] => clients
  | clients, .connected client :: actions => openAfter (client :: clients) actions
  | clients, .closed client :: actions => openAfter (clients.erase client) actions
  | clients, .created :: actions => openAfter clients actions
  | clients, .jetstream _ :: actions => openAfter clients actions
  | clients, .offered _ _ :: actions => openAfter clients actions
  | clients, .cleared :: actions => openAfter clients actions

/-- Every offer is made on a connection that is open at that moment. -/
def Attended : List Nat → List NatsAction → Prop
  | _, [] => True
  | clients, .connected client :: actions => Attended (client :: clients) actions
  | clients, .closed client :: actions => Attended (clients.erase client) actions
  | clients, .created :: actions => Attended clients actions
  | clients, .jetstream _ :: actions => Attended clients actions
  | clients, .offered client _ :: actions => client ∈ clients ∧ Attended clients actions
  | clients, .cleared :: actions => Attended clients actions

theorem openAfter_append (actions actions' : List NatsAction) : ∀ clients,
    openAfter clients (actions ++ actions') = openAfter (openAfter clients actions) actions' := by
  induction actions with
  | nil => exact fun _ => rfl
  | cons action actions ih => intro clients; cases action <;> exact ih _

theorem attended_append (actions actions' : List NatsAction) : ∀ clients,
    Attended clients (actions ++ actions')
      ↔ Attended clients actions ∧ Attended (openAfter clients actions) actions' := by
  induction actions with
  | nil => exact fun _ => ⟨fun h => ⟨trivial, h⟩, fun h => h.2⟩
  | cons action actions ih =>
      intro clients
      cases action with
      | offered client offer => exact (and_congr_right fun _ => ih _).trans and_assoc.symm
      | created => exact ih _
      | connected client => exact ih _
      | jetstream client => exact ih _
      | closed client => exact ih _
      | cleared => exact ih _

/-- Offers on one client. -/
theorem openAfter_offered (client : Nat) (clients : List Nat) (made : List Offer) :
    openAfter clients (made.map (.offered client)) = clients := by
  induction made with
  | nil => rfl
  | cons offer made ih => exact ih

theorem attended_offered {client : Nat} {clients : List Nat} (h : client ∈ clients)
    (made : List Offer) : Attended clients (made.map (.offered client)) := by
  induction made with
  | nil => trivial
  | cons offer made ih => exact ⟨h, ih⟩

/-- What one run of the worker puts on record. -/
inductive Visit (client : Nat) : List NatsAction → Prop where
  /-- No connection. -/
  | unconnected : Visit client [.created]
  /-- A connection, closed again or left. -/
  | connected {streamed : List NatsAction} {closing : List NatsAction}
      (stream : streamed = [] ∨ ∃ made : List Offer,
        streamed = .jetstream client :: made.map (.offered client))
      (ends : closing = [] ∨ closing = [.closed client, .cleared]) :
      Visit client (.created :: .connected client :: (streamed ++ closing))

section worker
variable {codec : Codec} {network : Network}

/-- How `connect` ends. -/
theorem connect_cases (network : Network) (s : Session Database) (r : List NatsAction) :
    (∃ e, NatsEventPublisher.connect network (s, r) = .error e (s, r))
      ∨ (∃ e, NatsEventPublisher.connect network (s, r) = .error e (s, r ++ [.connected r.length]))
      ∨ NatsEventPublisher.connect network (s, r)
        = .ok ⟨⟩ (s, r ++ [.connected r.length, .jetstream r.length]) := by
  have hconnect : NatsEventPublisher.connect network (s, r)
      = ((network.connect r).ends >>= fun _ => Watched.record (.connected r.length) >>= fun _ =>
          Watched.recorded >>= fun actions => (network.jetstream actions).ends >>= fun _ =>
            Watched.record (.jetstream r.length)) (s, r) := rfl
  rw [hconnect]
  -- by the two calls into the client library
  cases network.connect r with
  | raised error => exact .inl ⟨.raised error, rfl⟩
  | died => exact .inl ⟨.crash, rfl⟩
  | returned =>
      have hjetstream : (ClientReply.returned.ends >>= fun _ => Watched.record (.connected r.length)
            >>= fun _ => Watched.recorded >>= fun actions => (network.jetstream actions).ends
              >>= fun _ => Watched.record (.jetstream r.length) :
            Watched NatsAction Database PyError PUnit) (s, r)
          = ((network.jetstream (r ++ [.connected r.length])).ends >>= fun _ =>
              Watched.record (.jetstream r.length)) (s, r ++ [.connected r.length]) := rfl
      rw [hjetstream]
      cases network.jetstream (r ++ [.connected r.length]) with
      | raised error => exact .inr (.inl ⟨.raised error, rfl⟩)
      | died => exact .inr (.inl ⟨.crash, rfl⟩)
      | returned =>
          refine .inr (.inr ?_)
          rw [List.append_cons r (.connected r.length) [.jetstream r.length]]
          rfl

/-- `close` without a client does nothing. -/
theorem close_of_none {r : List NatsAction} (h : (publisherOf r).natsClient = none)
    (s : Session Database) : NatsEventPublisher.close network (s, r) = .ok ⟨⟩ (s, r) := by
  unfold NatsEventPublisher.close
  rw [Watched.bind_of_ok (Watched.recorded_apply _), h]
  rfl

/-- `close` closes the client of the publisher, unless the client library
fails. -/
theorem close_of_some {r : List NatsAction} {client : Nat}
    (h : (publisherOf r).natsClient = some client) (s : Session Database) :
    NatsEventPublisher.close network (s, r)
      = ((network.close r).ends >>= fun _ => Watched.record (.closed client) >>= fun _ =>
          Watched.record .cleared) (s, r) := by
  unfold NatsEventPublisher.close
  rw [Watched.bind_of_ok (Watched.recorded_apply _), h]

/-- A network whose `close` returns unless the process dies. -/
def Network.Closes (network : Network) : Prop :=
  ∀ actions error, network.close actions ≠ .raised error

/-- **The `finally` block**: the client, if there is one, is closed. -/
theorem finally_close {body : Watched NatsAction Database PyError Nat}
    {p : Session Database × List NatsAction} {s : Session Database} {r : List NatsAction}
    (hbody : Watched.final (body p) = (s, r)) {client : Nat}
    (h : (publisherOf r).natsClient = some client) :
    ∃ closing, Watched.final (Watched.tryFinally body (NatsEventPublisher.close network) p)
        = (s, r ++ closing)
      ∧ (closing = [] ∨ closing = [.closed client, .cleared])
      ∧ (network.Closes →
          (∀ q, Watched.tryFinally body (NatsEventPublisher.close network) p ≠ .error .crash q) →
          closing = [.closed client, .cleared]) := by
  -- a process that died runs no `finally` block
  rcases Watched.tryFinally_cases body (NatsEventPublisher.close network) p
    with hcrash | ⟨ending, hlast, hending⟩
  · rw [hcrash, hbody]
    refine ⟨[], ?_, .inl rfl, fun _ alive => absurd rfl (alive _)⟩
    rw [List.append_nil]
    rfl
  · rw [hlast, hbody]
    cases hclose : network.close r with
    | returned =>
        have hdone : NatsEventPublisher.close network (s, r)
            = .ok ⟨⟩ (s, r ++ [.closed client, .cleared]) := by
          rw [close_of_some h, hclose, List.append_cons r (.closed client) [.cleared]]
          rfl
        rw [Watched.bind_of_ok hdone]
        exact ⟨[.closed client, .cleared], hending _, .inr rfl, fun _ _ => rfl⟩
    | raised error =>
        have hraised : NatsEventPublisher.close network (s, r) = .error (.raised error) (s, r) := by
          rw [close_of_some h, hclose]
          rfl
        rw [Watched.bind_of_error hraised]
        refine ⟨[], ?_, .inl rfl, fun closes _ => absurd hclose (closes r error)⟩
        rw [List.append_nil]
        rfl
    | died =>
        have hdied : NatsEventPublisher.close network (s, r) = .error .crash (s, r) := by
          rw [close_of_some h, hclose]
          rfl
        rw [Watched.bind_of_error hdied]
        refine ⟨[], ?_, .inl rfl, fun _ alive => absurd rfl (alive _)⟩
        rw [List.append_nil]
        rfl

/-- `connect()` returns. -/
def connects (network : Network) (s : Session Database) (r : List NatsAction) : Bool :=
  match NatsEventPublisher.connect network (s, r ++ [.created]) with
  | .ok _ _ => true
  | .error _ _ => false

theorem connects_of_ok {s : Session Database} {r : List NatsAction} {u : PUnit}
    {q : Session Database × List NatsAction}
    (h : NatsEventPublisher.connect network (s, r ++ [.created]) = .ok u q) :
    connects network s r = true := by
  unfold connects
  rw [h]

theorem connects_of_error {s : Session Database} {r : List NatsAction} {e : Failure PyError}
    {q : Session Database × List NatsAction}
    (h : NatsEventPublisher.connect network (s, r ++ [.created]) = .error e q) :
    connects network s r = false := by
  unfold connects
  rw [h]

/-- What one run of the worker did on a session, and what it put behind `r` on
record. -/
structure Served (codec : Codec) (network : Network) (limit : Nat) (s : Session Database)
    (r visit : List NatsAction) : Prop where
  recorded : (Watched.final (runOnce codec network limit (s, r))).2 = r ++ visit
  shape : Visit (r.length + 1) visit
  /-- Connected, it is the broker's batch; otherwise it committed nothing and
  offered nothing. -/
  batch : ((Watched.final (runOnce codec network limit (s, r))).1, offersOf (r ++ visit))
    = if connects network s r then
        Watched.final (publishPendingBatchTo codec network.transport limit (s, offersOf r))
      else (s, offersOf r)
  /-- What it opened it closed, unless the process died or `close` failed. -/
  released : network.Closes → (∀ q, runOnce codec network limit (s, r) ≠ .error .crash q) →
    ∀ clients, openAfter clients visit = clients

/-- The connection that a visit opened is closed again. -/
theorem openAfter_visit {client : Nat} {streamed : List NatsAction} (clients : List Nat)
    (stream : streamed = [] ∨ ∃ made : List Offer,
      streamed = .jetstream client :: made.map (.offered client)) :
    openAfter clients (.created :: .connected client :: (streamed ++ [.closed client, .cleared]))
      = clients := by
  show openAfter (client :: clients) (streamed ++ [.closed client, .cleared]) = clients
  have hstreamed : openAfter (client :: clients) streamed = client :: clients := by
    rcases stream with rfl | ⟨made, rfl⟩
    · rfl
    · exact openAfter_offered client (client :: clients) made
  rw [openAfter_append, hstreamed]
  exact List.erase_cons_head client clients

/-- A run whose body left an open connection behind. -/
theorem served_of_connected {limit : Nat} {s t : Session Database} {r : List NatsAction}
    (streamed : List NatsAction)
    (hbody : Watched.final ((NatsEventPublisher.connect network >>= fun _ =>
        publishPendingBatchOn codec network limit) (s, r ++ [.created]))
      = (t, r ++ .created :: .connected (r.length + 1) :: streamed))
    (stream : streamed = [] ∨ ∃ made : List Offer,
      streamed = .jetstream (r.length + 1) :: made.map (.offered (r.length + 1)))
    (batch : (t, offersOf r ++ offersOf streamed)
      = if connects network s r then
          Watched.final (publishPendingBatchTo codec network.transport limit (s, offersOf r))
        else (s, offersOf r)) :
    ∃ visit, Served codec network limit s r visit := by
  have hclient : (publisherOf (r ++ .created :: .connected (r.length + 1) :: streamed)).natsClient
      = some (r.length + 1) := by
    rw [publisherOf_append]
    rcases stream with rfl | ⟨made, rfl⟩
    · rfl
    · have hoffered := publisherOf_offered [.created, .connected (r.length + 1),
        .jetstream (r.length + 1)] (r.length + 1) made
      rw [publisherOf_append] at hoffered
      exact congrArg NatsEventPublisher.natsClient hoffered
  obtain ⟨closing, hfinal, hends, hclosed⟩ := finally_close hbody hclient
  have hrun : Watched.final (runOnce codec network limit (s, r))
      = (t, r ++ .created :: .connected (r.length + 1) :: (streamed ++ closing)) := by
    rw [List.append_assoc] at hfinal
    exact hfinal
  -- closing offers nothing
  have hoffers : offersOf (.created :: .connected (r.length + 1) :: (streamed ++ closing))
      = offersOf streamed := by
    show offersOf (streamed ++ closing) = offersOf streamed
    rw [offersOf_append]
    rcases hends with rfl | rfl <;> exact List.append_nil _
  refine ⟨_, congrArg Prod.snd hrun, .connected stream hends, ?_, fun closes alive clients => ?_⟩
  · rw [hrun, offersOf_append, hoffers]
    exact batch
  · rw [hclosed closes alive]
    exact openAfter_visit clients stream

/-- **One run of the worker**, by how far `connect` got. -/
theorem runOnce_served (codec : Codec) (network : Network) (limit : Nat) (s : Session Database)
    (r : List NatsAction) : ∃ visit, Served codec network limit s r visit := by
  have hlength : (r ++ [NatsAction.created]).length = r.length + 1 := by simp
  have hconnect := connect_cases network s (r ++ [.created])
  rw [hlength] at hconnect
  rcases hconnect with ⟨e, hconnect⟩ | ⟨e, hconnect⟩ | hconnect
  · -- no connection: there is nothing to close
    have hbody := Watched.bind_of_error (f := fun _ => publishPendingBatchOn codec network limit)
      hconnect
    have hnone : (publisherOf (r ++ [.created])).natsClient = none := by
      rw [publisherOf_append]
      rfl
    have hrun : Watched.final (runOnce codec network limit (s, r)) = (s, r ++ [.created]) := by
      show Watched.final (Watched.tryFinally (NatsEventPublisher.connect network >>= fun _ =>
        publishPendingBatchOn codec network limit) (NatsEventPublisher.close network)
        (s, r ++ [.created])) = _
      rcases Watched.tryFinally_cases (NatsEventPublisher.connect network >>= fun _ =>
          publishPendingBatchOn codec network limit) (NatsEventPublisher.close network)
          (s, r ++ [.created]) with hcrash | ⟨ending, hlast, hending⟩
      · rw [hcrash, hbody]
        rfl
      · rw [hlast, hbody, Watched.final_error, Watched.bind_of_ok (close_of_none hnone s)]
        exact hending _
    refine ⟨[.created], congrArg Prod.snd hrun, .unconnected, ?_, fun _ _ _ => rfl⟩
    rw [connects_of_error hconnect, hrun, offersOf_append]
    exact congrArg (s, ·) (List.append_nil _)
  · -- a connection, but no JetStream context
    have hbody := Watched.bind_of_error (f := fun _ => publishPendingBatchOn codec network limit)
      hconnect
    refine served_of_connected (t := s) [] ?_ (.inl rfl) ?_
    · rw [hbody, List.append_assoc]
      rfl
    · rw [connects_of_error hconnect]
      exact congrArg (s, ·) (List.append_nil _)
  · -- connected: the batch is the broker's
    have hbody := Watched.bind_of_ok (f := fun _ => publishPendingBatchOn codec network limit)
      hconnect
    rw [List.append_assoc] at hbody
    have hbase : publisherOf (r ++ [.created, .connected (r.length + 1),
        .jetstream (r.length + 1)]) = ⟨some (r.length + 1), some (r.length + 1)⟩ := by
      rw [publisherOf_append]
      rfl
    have hoffers : offersOf (r ++ [.created, .connected (r.length + 1),
        .jetstream (r.length + 1)]) = offersOf r := by
      rw [offersOf_append]
      exact List.append_nil _
    obtain ⟨t, made, hon, hto⟩ := final_publishPendingBatchOn codec network hbase limit s
    rw [hoffers] at hto
    refine served_of_connected (t := t)
      (.jetstream (r.length + 1) :: made.map (.offered (r.length + 1))) ?_
      (.inr ⟨made, rfl⟩) ?_
    · refine (congrArg Watched.final hbody).trans (hon.trans ?_)
      rw [List.append_assoc]
      rfl
    · rw [connects_of_ok hconnect, if_pos rfl, hto]
      exact congrArg (fun offers => (t, offersOf r ++ offers)) (offersOf_offered made)

end worker

/-! ## §5. Runs of workers. -/

/-- What one run of the worker meets. -/
structure WorkerLabel where
  world : World Database
  tick : Nat
  limit : Nat
  network : Network

/-- The run on the committed tables. -/
def WorkerLabel.program (codec : Codec) (label : WorkerLabel) (p : Database × List NatsAction) :
    EStateM.Result (Failure PyError) (Session Database × List NatsAction) Nat :=
  runOnce codec label.network label.limit (Session.begin label.world label.tick p.1, p.2)

/-- The committed tables and the record afterwards. -/
def WorkerLabel.serve (codec : Codec) (label : WorkerLabel) (p : Database × List NatsAction) :
    Database × List NatsAction :=
  ((Watched.final (label.program codec p)).1.committed, (Watched.final (label.program codec p)).2)

/-- The broker batch of the run, if there is a connection. -/
def WorkerLabel.batch (label : WorkerLabel) : BrokerLabel where
  world := label.world
  tick := label.tick
  limit := label.limit
  transport := label.network.transport

/-- `connect()` returns in this run. -/
def WorkerLabel.connects (label : WorkerLabel) (p : Database × List NatsAction) : Bool :=
  EventCart.connects label.network (Session.begin label.world label.tick p.1) p.2

/-- The batches of the runs whose `connect()` returned. -/
def connectedBatches (codec : Codec) : List WorkerLabel → Database × List NatsAction →
    List BrokerLabel
  | [], _ => []
  | label :: labels, p =>
      if label.connects p then label.batch :: connectedBatches codec labels (label.serve codec p)
      else connectedBatches codec labels (label.serve codec p)

/-- The process does not die, and `close` does not fail. -/
def WorkerLabel.Orderly (codec : Codec) (p : Database × List NatsAction) (label : WorkerLabel) :
    Prop :=
  label.network.Closes ∧ ∀ q, label.program codec p ≠ .error .crash q

/-- Offers are made while the connection is open. -/
theorem Visit.attended {client : Nat} {visit : List NatsAction} (h : Visit client visit)
    (clients : List Nat) : Attended clients visit := by
  cases h with
  | unconnected => trivial
  | @connected streamed closing stream ends =>
      show Attended (client :: clients) (streamed ++ closing)
      rw [attended_append]
      constructor
      · rcases stream with rfl | ⟨made, rfl⟩
        · trivial
        · exact attended_offered List.mem_cons_self made
      · rcases ends with rfl | rfl <;> trivial

/-- One run of the worker, on tables and record. -/
theorem serve_eq (codec : Codec) (label : WorkerLabel) (db : Database) (r : List NatsAction) :
    ∃ visit, label.serve codec (db, r) = ((label.serve codec (db, r)).1, r ++ visit)
      ∧ (∀ clients, Attended clients visit)
      ∧ ((label.serve codec (db, r)).1, offersOf (r ++ visit))
        = (if label.connects (db, r) then brokerStep codec label.batch (db, offersOf r)
          else (db, offersOf r))
      ∧ (label.Orderly codec (db, r) → ∀ clients, openAfter clients visit = clients) := by
  obtain ⟨visit, served⟩ := runOnce_served codec label.network label.limit
    (Session.begin label.world label.tick db) r
  refine ⟨visit, Prod.ext rfl served.recorded, served.shape.attended, ?_,
    fun orderly => served.released orderly.1 orderly.2⟩
  refine (congrArg (fun q : Session Database × List Offer => (q.1.committed, q.2))
    served.batch).trans ?_
  unfold WorkerLabel.connects
  split <;> rfl

/-- **Workers refine broker batches.**  For every sequence of runs of the
worker, from any tables, whatever the network does and wherever a run stops:
the tables and the offers are those of the broker batches of exactly those
runs whose `connect()` returned, one batch for each and in their order;
nothing is offered but on a connection that is open at that moment; and if no
process died and no `close` failed, no connection is left open. -/
theorem workers_refine_batches (codec : Codec) (labels : List WorkerLabel) (db : Database) :
    run (brokerStep codec) (connectedBatches codec labels (db, [])) (db, [])
        = ((run (WorkerLabel.serve codec) labels (db, [])).1,
          offersOf (run (WorkerLabel.serve codec) labels (db, [])).2)
      ∧ Attended [] (run (WorkerLabel.serve codec) labels (db, [])).2
      ∧ (Along (WorkerLabel.serve codec) (WorkerLabel.Orderly codec) labels (db, []) →
          openAfter [] (run (WorkerLabel.serve codec) labels (db, [])).2 = []) := by
  -- the invariant: a record in order, from any start
  have hrun : ∀ (labels : List WorkerLabel) (db : Database) (r : List NatsAction),
      run (brokerStep codec) (connectedBatches codec labels (db, r)) (db, offersOf r)
          = ((run (WorkerLabel.serve codec) labels (db, r)).1,
            offersOf (run (WorkerLabel.serve codec) labels (db, r)).2)
        ∧ (Attended [] r → Attended [] (run (WorkerLabel.serve codec) labels (db, r)).2)
        ∧ (Along (WorkerLabel.serve codec) (WorkerLabel.Orderly codec) labels (db, r) →
            openAfter [] (run (WorkerLabel.serve codec) labels (db, r)).2 = openAfter [] r) := by
    intro labels
    induction labels with
    | nil => exact fun db r => ⟨rfl, id, fun _ => rfl⟩
    | cons label labels ih =>
        intro db r
        obtain ⟨visit, hserve, hattended, hbatch, hreleased⟩ := serve_eq codec label db r
        obtain ⟨hbatches, hlater, hclosed⟩ := ih (label.serve codec (db, r)).1 (r ++ visit)
        unfold connectedBatches
        rw [run_cons, hserve]
        refine ⟨?_, fun h => hlater ?_, fun h => ?_⟩
        · rw [hbatch] at hbatches
          split at hbatches
          next hconnects =>
            rw [if_pos hconnects, run_cons]
            exact hbatches
          next hconnects =>
            rw [if_neg hconnects]
            exact hbatches
        · exact (attended_append r visit []).mpr ⟨h, hattended _⟩
        · obtain ⟨horderly, hrest⟩ := h
          rw [hserve] at hrest
          rw [hclosed hrest, openAfter_append, hreleased horderly]
  obtain ⟨hbatches, hattended, hclosed⟩ := hrun labels db []
  exact ⟨hbatches, hattended trivial, hclosed⟩

/-- A network that is down at the first call, and up from then on. -/
def lateNetwork : Network where
  connect actions := if actions.length ≤ 1 then .raised (.other "no servers available") else .returned
  jetstream _ := .returned
  close _ := .returned
  transport _ _ := .accepted

/-- Two runs of the worker on that network. -/
def lateWorkers : List WorkerLabel :=
  [⟨.calm, 0, 50, lateNetwork⟩, ⟨.calm, 100, 50, lateNetwork⟩]

/-- The first run publishes nothing; the second publishes the event and closes
its connection. -/
theorem workers_refine_batches_late :
    (connectedBatches unsentCodec lateWorkers (soleEvent unsentEvent, [])).length = 1
      ∧ (run (WorkerLabel.serve unsentCodec) lateWorkers (soleEvent unsentEvent, [])).1.published
        = ["event-1"]
      ∧ run (brokerStep unsentCodec)
          (connectedBatches unsentCodec lateWorkers (soleEvent unsentEvent, []))
          (soleEvent unsentEvent, [])
        = ((run (WorkerLabel.serve unsentCodec) lateWorkers (soleEvent unsentEvent, [])).1,
          offersOf (run (WorkerLabel.serve unsentCodec) lateWorkers (soleEvent unsentEvent, [])).2) :=
  ⟨by decide +kernel, by decide +kernel,
    (workers_refine_batches unsentCodec lateWorkers (soleEvent unsentEvent)).1⟩

end EventCart
