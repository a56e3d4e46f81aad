/-
  EventCart.Dispatchers.Logs
  ──────────────────────────
  **THE DISPATCHER'S LOG IS THE LIST OF ITS HANDLER CALLS.**

  `dispatch_pending_batch` sets the correlation id and logs a line before it
  calls a handler, and resets the id after the commit.  A round that ends in a
  failing commit leaves the id behind, and texts of an event may hold
  anything, line ends and quotes included.

  The batch is recorded twice, once with its logging (`loggedDispatchPendingBatch`)
  and once with its handler calls (`Dispatchers.Routing`); the two records
  mirror each other wherever the batch stops (`mirrors_dispatchPendingBatch`).

    • `log_reads_calls` — the log of a process, read back line by line, is
                          its handler calls in order, each line with the
                          correlation id of its own event.
-/
import EventCart.Logging
import EventCart.Dispatchers.Routing

namespace EventCart

open EventCart.Lib
open EventCart.Lib.Tx

/-! ## §1. The batch with its logging. -/

/-- The record `dispatch_pending_batch` logs before it calls a handler. -/
def dispatchRecord (call : HandlerCall) : LogRecord where
  levelname := "INFO"
  name := "eventcart.workers.brokerless_dispatcher"
  message := "dispatching brokerless event"
  eventId := some call.2.eventId
  eventType := some call.2.eventType
  consumerName := some call.1.consumerName

/-- `handleEvent`, with its logging. -/
def loggedHandleEvent (handlers : HandlerMap) (event : OutboxEvent) :
    Watched LogAction Database PyError Unit := do
  match handlers.lookup event.eventType with
  | none =>
      Watched.lift (raise (.unsupportedEventTypeError
        ("No brokerless handler registered for " ++ Json.reprStr event.eventType ++ ".")))
  | some registration =>
      let envelope ← Watched.lift (ofExcept (envelopeFromOutboxEvent event))
      Watched.record (.setCorrelationId (some envelope.correlationId))
      Watched.record (.info (dispatchRecord (registration, envelope)))
      Watched.lift (registration.handler envelope)
      Watched.lift (markPublished event.eventId)

/-- `dispatchEvent`, with its logging. -/
def loggedDispatchEvent (handlers : HandlerMap) (policy : RetryPolicy) (event : OutboxEvent) :
    Watched LogAction Database PyError PUnit := do
  Watched.tryExcept (loggedHandleEvent handlers event) fun error =>
    Watched.lift (recordEventFailure handlers policy event error)
  Watched.lift commit
  Watched.record (.setCorrelationId none)

/-- `dispatchPendingBatch`, with its logging. -/
def loggedDispatchPendingBatch (handlers : HandlerMap) (limit : Nat) (policy : RetryPolicy) :
    Watched LogAction Database PyError Nat := do
  let events ← Watched.lift (fetchPending limit)
  events.forM (loggedDispatchEvent (handlersOrDefault handlers) policy)
  return events.length

/-! ## §2. Log and calls, side by side. -/

/-- The records logged are those of the calls, each with the correlation id of
its own event. -/
def LogsCalls (actions : List LogAction) (calls : List HandlerCall) : Prop :=
  emitted none actions = calls.map fun call => (some call.2.correlationId, dispatchRecord call)

/-- Setting the id logs nothing. -/
theorem LogsCalls.set {actions : List LogAction} {calls : List HandlerCall}
    (h : LogsCalls actions calls) (value : Option String) :
    LogsCalls (actions ++ [.setCorrelationId value]) calls := by
  unfold LogsCalls
  rw [emitted_append]
  exact (List.append_nil _).trans h

/-- The id is set before the record is logged: the one left behind by an
earlier round does not matter. -/
theorem LogsCalls.call {actions : List LogAction} {calls : List HandlerCall}
    (h : LogsCalls actions calls) (call : HandlerCall) :
    LogsCalls (actions ++ [.setCorrelationId (some call.2.correlationId),
      .info (dispatchRecord call)]) (calls ++ [call]) := by
  unfold LogsCalls
  rw [emitted_append, List.map_append, ← h]
  rfl

theorem mirrors_handleEvent (handlers : HandlerMap) (event : OutboxEvent) :
    Watched.Mirrors LogsCalls (loggedHandleEvent handlers event)
      (watchedHandleEvent handlers event) := by
  unfold loggedHandleEvent watchedHandleEvent
  cases handlers.lookup event.eventType with
  -- no handler: nothing is logged and nothing is called
  | none => exact Watched.mirrors_lift _
  | some registration =>
      refine (Watched.mirrors_lift _).bind fun envelope => ?_
      intro s actions calls hlogs
      have hrest : Watched.Mirrors LogsCalls
          (Watched.lift (registration.handler envelope) >>= fun _ =>
            Watched.lift (markPublished event.eventId))
          (Watched.lift (registration.handler envelope) >>= fun _ =>
            Watched.lift (markPublished event.eventId)) :=
        (Watched.mirrors_lift _).bind fun _ => Watched.mirrors_lift _
      have hcall := hrest s _ _ (hlogs.call (registration, envelope))
      rw [List.append_cons] at hcall
      exact hcall

theorem mirrors_dispatchEvent (handlers : HandlerMap) (policy : RetryPolicy)
    (event : OutboxEvent) :
    Watched.Mirrors LogsCalls (loggedDispatchEvent handlers policy event)
      (watchedDispatchEvent handlers policy event) := by
  have hround := (mirrors_handleEvent handlers event).tryExcept fun error =>
    Watched.mirrors_lift (recordEventFailure handlers policy event error)
  exact hround.bind fun _ =>
    (Watched.mirrors_lift commit).before_record fun _ _ hlogs => hlogs.set none

/-- **The two records of a batch** mirror each other, wherever it stops. -/
theorem mirrors_dispatchPendingBatch (handlers : HandlerMap) (limit : Nat)
    (policy : RetryPolicy) :
    Watched.Mirrors LogsCalls (loggedDispatchPendingBatch handlers limit policy)
      (watchedDispatchPendingBatch handlers limit policy) := by
  unfold loggedDispatchPendingBatch watchedDispatchPendingBatch
  refine (Watched.mirrors_lift _).bind fun events => ?_
  refine (Watched.Mirrors.forM
    (mirrors_dispatchEvent (handlersOrDefault handlers) policy) events).bind fun _ => ?_
  exact Watched.mirrors_lift (pure events.length)

/-! ## §3. A process and its log. -/

/-- A batch of a process: what it is given, and the database and clock it
meets. -/
structure ProcessBatch where
  world : World Database
  tick : Nat
  handlers : HandlerMap
  limit : Nat
  policy : RetryPolicy

/-- The session of a batch on the committed tables. -/
def ProcessBatch.session (batch : ProcessBatch) (db : Database) : Session Database :=
  Session.begin batch.world batch.tick db

/-- The committed tables after a batch. -/
def ProcessBatch.dispatched (batch : ProcessBatch) (db : Database) : Database :=
  transact (dispatchPendingBatch batch.handlers batch.limit batch.policy) batch.world batch.tick db

/-- The committed tables and the actions of the process after a batch. -/
def ProcessBatch.logged (batch : ProcessBatch) (p : Database × List LogAction) :
    Database × List LogAction :=
  let q := Watched.final
    (loggedDispatchPendingBatch batch.handlers batch.limit batch.policy (batch.session p.1, p.2))
  (q.1.committed, q.2)

/-- The committed tables and the handler calls of the process after a batch. -/
def ProcessBatch.called (batch : ProcessBatch) (p : Database × List HandlerCall) :
    Database × List HandlerCall :=
  let q := Watched.final
    (watchedDispatchPendingBatch batch.handlers batch.limit batch.policy (batch.session p.1, p.2))
  (q.1.committed, q.2)

/-- Tables and log on the one side, tables and calls on the other. -/
structure Alongside (p : Database × List LogAction) (q : Database × List HandlerCall) : Prop where
  tables : p.1 = q.1
  logs : LogsCalls p.2 q.2

/-- **One batch.** -/
theorem Alongside.batch {p : Database × List LogAction} {q : Database × List HandlerCall}
    (h : Alongside p q) (batch : ProcessBatch) : Alongside (batch.logged p) (batch.called q) := by
  obtain ⟨db, actions⟩ := p
  obtain ⟨db', calls⟩ := q
  obtain rfl : db = db' := h.tables
  have hmirror := mirrors_dispatchPendingBatch batch.handlers batch.limit batch.policy
    (batch.session db) actions calls h.logs
  unfold ProcessBatch.logged ProcessBatch.called
  generalize loggedDispatchPendingBatch batch.handlers batch.limit batch.policy
    (batch.session db, actions) = res at hmirror ⊢
  generalize watchedDispatchPendingBatch batch.handlers batch.limit batch.policy
    (batch.session db, calls) = res' at hmirror ⊢
  cases hmirror with
  | ok n t rel => exact ⟨rfl, rel⟩
  | error e t rel => exact ⟨rfl, rel⟩

/-- **A run of batches**, by induction on the batches. -/
theorem Alongside.run (batches : List ProcessBatch) : ∀ {p : Database × List LogAction}
    {q : Database × List HandlerCall}, Alongside p q →
      Alongside (Lib.run ProcessBatch.logged batches p)
        (Lib.run ProcessBatch.called batches q) := by
  induction batches with
  | nil => exact fun h => h
  | cons batch batches ih => exact fun h => ih (h.batch batch)

/-- A batch with its calls on record does to the tables what the batch does. -/
theorem called_tables (batches : List ProcessBatch) : ∀ p : Database × List HandlerCall,
    (run ProcessBatch.called batches p).1 = run ProcessBatch.dispatched batches p.1 := by
  induction batches with
  | nil => intro p; rfl
  | cons batch batches ih =>
      intro p
      have herase := erases_watchedDispatchPendingBatch batch.handlers batch.limit batch.policy
        (batch.session p.1, p.2)
      have hbatch : (batch.called p).1 = batch.dispatched p.1 := by
        show (Watched.final _).1.committed = (after (dispatchPendingBatch batch.handlers
          batch.limit batch.policy (batch.session p.1))).committed
        rw [Watched.final_fst, herase]
      exact (ih (batch.called p)).trans (congrArg (run ProcessBatch.dispatched batches) hbatch)

/-- The line of a call, decoded: its members in the order of the keys. -/
def dispatchLine (timestamp : String) (call : HandlerCall) : Dict :=
  [("consumer_name", .str call.1.consumerName), ("correlation_id", .str call.2.correlationId),
   ("event_id", .str call.2.eventId), ("event_type", .str call.2.eventType),
   ("level", .str "INFO"), ("logger", .str "eventcart.workers.brokerless_dispatcher"),
   ("message", .str "dispatching brokerless event"), ("timestamp", .str timestamp)]

theorem sorted_dispatchRecord (timestamp : String) (call : HandlerCall) :
    Json.sorted ((dispatchRecord call).payload timestamp (some call.2.correlationId))
      = dispatchLine timestamp call := by
  have hpayload : (dispatchRecord call).payload timestamp (some call.2.correlationId)
      = [("timestamp", .str timestamp), ("level", .str "INFO"),
         ("logger", .str "eventcart.workers.brokerless_dispatcher"),
         ("message", .str "dispatching brokerless event"),
         ("correlation_id", .str call.2.correlationId), ("event_id", .str call.2.eventId),
         ("event_type", .str call.2.eventType), ("consumer_name", .str call.1.consumerName)] := rfl
  rw [hpayload]
  -- eight distinct keys, sorted by insertion
  simp [Json.sorted, List.insertionSort, List.orderedInsert, dispatchLine]

/-- **The log of a process is the list of its handler calls.**  However often
logging was configured before, at whatever level that lets `INFO` pass; for
every sequence of batches from any tables, with any handlers, wherever a batch
stops: the log, read back line by line, has one line for each handler call, in
order, with the event and the correlation id of that call; and the logging
changes nothing of the tables. -/
theorem log_reads_calls (parseFloat : List Char → String) {upper : String → String}
    {levels : List String} {root : RootLogger}
    (configured : levels.foldlM (fun root level => configureLogging upper level root) .initial
      = .ok root) (passes : root.level ≤ 20) (clock : Nat → String)
    (batches : List ProcessBatch) (db : Database) :
    (run ProcessBatch.logged batches (db, [])).1 = run ProcessBatch.dispatched batches db
      ∧ readLog parseFloat
          (root.output clock (emitted none (run ProcessBatch.logged batches (db, [])).2))
        = (run ProcessBatch.called batches (db, [])).2.zipIdx.map fun call =>
            some (.obj (dispatchLine (clock call.2) call.1)) := by
  have hhandlers : root.handlers = [jsonLogFormatter] :=
    handlers_of_configured (fun h => absurd h (by decide)) configured passes
  have hrun : Alongside (run ProcessBatch.logged batches (db, []))
      (run ProcessBatch.called batches (db, [])) := Alongside.run batches ⟨rfl, rfl⟩
  refine ⟨hrun.tables.trans (called_tables batches (db, [])), ?_⟩
  -- line by line, and the line of a call is `dispatchLine`
  rw [hrun.logs, readLog_output parseFloat passes hhandlers, List.zipIdx_map,
    List.map_map]
  refine List.map_congr_left fun call _ => ?_
  exact congrArg (fun d => some (Json.obj d)) (sorted_dispatchRecord (clock call.2) call.1)

/-- An event of an order whose correlation id breaks lines and quotes. -/
def awkwardReserved : OutboxEvent :=
  { reservedEvent "event-1" "order-1" 1 250 with correlationId := "order\n\"1\"" }

/-- A calm world in which the database refuses one request. -/
def refusesAt (n : Nat) : World Database :=
  { (World.calm : World Database) with
    fault := fun m _ => if m = n then .reject "server closed the connection" else .none }

/-- The last commit of the first batch is refused, and the payment worker is
called again by the second. -/
def refusedThenCalm : List ProcessBatch :=
  [⟨refusesAt 15, 0, [], 50, {}⟩, ⟨.calm, 100, [], 50, {}⟩]

/-- Logging is configured twice, and has one handler. -/
theorem configured_twice :
    ["debug", "info"].foldlM (fun root level => configureLogging String.toUpper level root) .initial
      = .ok ⟨[jsonLogFormatter], 20⟩ := by
  have hdebug : levelNumbers.lookup "debug".toUpper = some 10 := by decide +kernel
  have hinfo : levelNumbers.lookup "info".toUpper = some 20 := by decide +kernel
  simp only [List.foldlM_cons, List.foldlM_nil, configureLogging, hdebug, hinfo]
  rfl

/-- The first batch leaves the correlation id behind, and the log of both is
read back. -/
theorem log_reads_calls_refused :
    contextAfter none (run ProcessBatch.logged (refusedThenCalm.take 1)
        (soleEvent awkwardReserved, [])).2 = some "order\n\"1\""
      ∧ (run ProcessBatch.called refusedThenCalm (soleEvent awkwardReserved, [])).2.map
          (·.1.consumerName)
        = ["payment-worker", "payment-worker", "invoice-worker"]
      ∧ (run ProcessBatch.logged refusedThenCalm (soleEvent awkwardReserved, [])).1
        = run ProcessBatch.dispatched refusedThenCalm (soleEvent awkwardReserved)
      ∧ readLog String.ofList (RootLogger.output ⟨[jsonLogFormatter], 20⟩ toString
          (emitted none
            (run ProcessBatch.logged refusedThenCalm (soleEvent awkwardReserved, [])).2))
        = (run ProcessBatch.called refusedThenCalm (soleEvent awkwardReserved, [])).2.zipIdx.map
            fun call =>
            some (.obj (dispatchLine (toString call.2) call.1)) :=
  ⟨by decide +kernel, by decide +kernel,
    log_reads_calls String.ofList configured_twice (Nat.le_refl 20) toString refusedThenCalm
      (soleEvent awkwardReserved)⟩

end EventCart
