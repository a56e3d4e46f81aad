/-
  EventCart.Dispatchers.Schedule
  ──────────────────────────────
  **THE RETRY SCHEDULE.**

  The delay before a retry is computed from the number of the failed attempt
  (a query on the attempts table), stored on the outbox row, and enforced by
  the WHERE clause of the next `fetch_pending` only.

  One dispatcher polls on one clock that does not go back.  `rounds` lists
  the handling attempts of a batch as it makes them, with the time each one
  starts and the time its handler raised, if it did.  `Stage` is what the
  tables and the attempts so far say of one event; a round moves the event
  from stage to stage (`RoundResult.own`), and a run of batches never leaves them
  (`retries_scheduled`).
-/
import EventCart.Dispatchers.Bookkeeping
import EventCart.Dispatchers.Ordinary
import EventCart.Saga.Lifecycle

namespace EventCart

open EventCart.Lib
open EventCart.Lib.Tx

/-! ## §1. Handling attempts. -/

/-- One handling attempt. -/
structure Attempted where
  eventId : String
  startedAt : DateTime
  /-- When the handler raised; nothing if it returned. -/
  failedAt : Option DateTime
  deriving DecidableEq

/-- When a `try` block raised. -/
def raisedAt : EStateM.Result (Failure PyError) (Session Database) Unit → Option DateTime
  | .ok _ _ => none
  | .error _ u => some (u.world.now u.tick)

/-- The attempt a round makes on a session. -/
def attempted (handlers : HandlerMap) (event : OutboxEvent) (s : Session Database) : Attempted where
  eventId := event.eventId
  startedAt := s.world.now s.tick
  failedAt := raisedAt (handleEvent handlers event s)

/-- The attempts of the loop of `dispatch_pending_batch`, in order. -/
def rounds (handlers : HandlerMap) (policy : RetryPolicy) :
    List OutboxEvent → Session Database → List Attempted
  | [], _ => []
  | event :: events, s =>
      attempted handlers event s ::
        match dispatchEvent handlers policy event s with
        | .ok _ t => rounds handlers policy events t
        | .error _ _ => []

theorem rounds_cons {handlers : HandlerMap} {policy : RetryPolicy} {event : OutboxEvent}
    {events : List OutboxEvent} {s t : Session Database} {u : PUnit}
    (h : dispatchEvent handlers policy event s = .ok u t) :
    rounds handlers policy (event :: events) s
      = attempted handlers event s :: rounds handlers policy events t := by
  show _ :: (match dispatchEvent handlers policy event s with
    | .ok _ t => rounds handlers policy events t
    | .error _ _ => []) = _
  rw [h]

/-- The attempts of a batch. -/
def batchRounds (handlers : HandlerMap) (policy : RetryPolicy) (limit : Nat)
    (s : Session Database) : List Attempted :=
  match fetchPending limit s with
  | .ok events t => rounds (handlersOrDefault handlers) policy events t
  | .error _ _ => []

/-- The committed tables, the tick of the clock, and all attempts so far. -/
structure Polled where
  db : Database
  tick : Nat
  attempts : List Attempted

/-- How long the dispatcher waits before a batch, and how large the batch
is. -/
structure Poll where
  wait : Nat
  limit : Nat

section polling
variable (world : World Database) (handlers : HandlerMap) (policy : RetryPolicy)

/-- The session of the next batch. -/
def Polled.session (a : Poll) (p : Polled) : Session Database :=
  Session.begin world (p.tick + a.wait) p.db

/-- One batch. -/
def poll (a : Poll) (p : Polled) : Polled where
  db := (after (dispatchPendingBatch handlers a.limit policy (p.session world a))).committed
  tick := (after (dispatchPendingBatch handlers a.limit policy (p.session world a))).tick
  attempts := p.attempts ++ batchRounds handlers policy a.limit (p.session world a)

/-- The batch returns. -/
def PollReturns (p : Polled) (a : Poll) : Prop :=
  returned (dispatchPendingBatch handlers a.limit policy (p.session world a)) = true

end polling

/-- The attempts on one event. -/
def attemptsIn (eventId : String) (attempts : List Attempted) : List Attempted :=
  attempts.filter (·.eventId = eventId)

def Polled.attemptsOn (eventId : String) (p : Polled) : List Attempted :=
  attemptsIn eventId p.attempts

/-! ## §2. A round that returns. -/

/-- Handlers that insert events and leave clock and environment alone. -/
structure HandlerMap.Timely (handlers : HandlerMap) : Prop where
  append : handlers.Append
  keepWorld : handlers.KeepWorld
  forward : ∀ eventType registration, handlers.lookup eventType = some registration →
    ∀ envelope, Forward (registration.handler envelope)

section round
variable {handlers : HandlerMap} {policy : RetryPolicy} {event : OutboxEvent}
  {s t : Session Database} {u : PUnit}

theorem forward_handleEvent (forward : ∀ eventType registration,
    handlers.lookup eventType = some registration →
      ∀ envelope, Forward (registration.handler envelope)) (event : OutboxEvent) :
    Forward (handleEvent handlers event) := by
  have hmark : Forward (markPublished event.eventId) := by
    refine ((forward_peek _).bind fun found => ?_).bind fun _ => forward_now.bind fun _ =>
      forward_write _
    cases found with
    | none => exact forward_raise _
    | some row => exact forward_pure _
  unfold handleEvent
  cases h : handlers.lookup event.eventType with
  | none => exact forward_raise _
  | some registration =>
      exact (forward_ofExcept _).bind fun envelope =>
        (forward _ _ h envelope).bind fun _ => hmark

theorem forward_recordEventFailure (handlers : HandlerMap) (policy : RetryPolicy)
    (event : OutboxEvent) (error : Failure PyError) :
    Forward (recordEventFailure handlers policy event error) := by
  have hget : ∀ eventId, Forward (getEvent eventId) := by
    intro eventId
    refine (forward_peek _).bind fun found => ?_
    cases found with
    | none => exact forward_raise _
    | some row => exact forward_pure _
  refine (forward_recordFailure _ _ _).bind fun attempt => ?_
  split
  · exact (forward_uuid4.bind fun _ => forward_now.bind fun _ => (forward_write _).bind fun _ =>
      forward_flush.bind fun _ => forward_pure _).bind fun _ => (hget _).bind fun _ =>
        forward_write _
  · exact forward_now.bind fun _ => (forward_ofExcept _).bind fun _ =>
      (hget _).bind fun _ => forward_write _

theorem forward_dispatchEvent (timely : handlers.Timely) (policy : RetryPolicy)
    (event : OutboxEvent) : Forward (dispatchEvent handlers policy event) :=
  ((forward_handleEvent timely.forward event).tryExcept fun _ =>
    forward_recordEventFailure _ _ _ _).bind fun _ => forward_commit

/-- What a returned round committed, and when its handler raised. -/
inductive RoundResult (handlers : HandlerMap) (policy : RetryPolicy) (event : OutboxEvent)
    (s : Session Database) (failedAt : Option DateTime) (db : Database) : Prop where
  | published {base : Database} (left : Appends s.committed base) (publishedAt : DateTime)
      (result : db = base.updateOutboxEvent event.eventId (·.published publishedAt))
      (never : failedAt = none)
  | failed {base : Database} (left : Appends s.committed base) (error : String)
      (stamp : FailureStamp)
      (result : db = base.attemptFailed handlers policy event error stamp)
      {raised : DateTime} (at_ : failedAt = some raised)
      (later : base.failureNumber handlers event < policy.maxAttempts → raised ≤ stamp.failedAt)

/-- **A round that returns** on a clock that does not go back. -/
theorem roundResult (timely : handlers.Timely) (ordered : s.world.Ordered) (hs : s.Clean)
    (h : dispatchEvent handlers policy event s = .ok u t) :
    RoundResult handlers policy event s (attempted handlers event s).failedAt t.committed := by
  have hleft : Appends s.committed (after (callHandler handlers event s)).working
      ∧ Appends s.committed (after (callHandler handlers event s)).committed :=
    callHandler_within appends_frame hs fun registration hlookup envelope _ =>
      (timely.append.within _ registration hlookup envelope).of_clean appends_frame hs
  show RoundResult handlers policy event s (raisedAt (handleEvent handlers event s)) t.committed
  cases dispatchEvent_returned h with
  | published call handled found publishedAt committed =>
      rw [call] at hleft
      rw [handled]
      exact .published hleft.1 publishedAt committed rfl
  | @failed e v alive call handled active stamp committed later =>
      have left : Appends s.committed v.working := by
        rcases call with call | ⟨⟨a, call⟩, -⟩
        · rw [call] at hleft
          exact hleft.1
        · rw [call] at hleft
          exact hleft.1
      have hworld := keepsWorld_handleEvent timely.keepWorld event s
      rw [handled] at hworld
      have hworld : v.world = s.world := hworld
      rw [handled]
      refine .failed left (failureText e) stamp committed rfl fun hfew => ?_
      obtain ⟨k, hk, hstamp⟩ := later hfew
      rw [hstamp, hworld]
      exact ordered _ _ hk

end round

/-! ## §3. Stages of one event. -/

/-- How many handling attempts an event gets. -/
def RetryPolicy.budget (policy : RetryPolicy) : Nat := (max 1 policy.maxAttempts).toNat

/-- The first failure with no attempts left spends the budget. -/
theorem spent_of_few {policy : RetryPolicy} {k : Nat} (few : k < policy.budget)
    (hlast : (k : Int) + 1 ≥ policy.maxAttempts) : k + 1 = policy.budget := by
  unfold RetryPolicy.budget at few ⊢
  omega

theorem few_of_lt {policy : RetryPolicy} {k : Nat} (hmore : ¬ (k : Int) + 1 ≥ policy.maxAttempts) :
    k + 1 < policy.budget := by
  unfold RetryPolicy.budget
  omega

/-- The delay after the `k`-th attempt is over before attempt `k + 1`. -/
def SpacedOut (policy : RetryPolicy) (attempts : List Attempted) : Prop :=
  ∀ (k : Nat) (a b : Attempted) (raised : DateTime), attempts[k]? = some a →
    attempts[k + 1]? = some b → a.failedAt = some raised →
      raised + policy.delay ((k : Int) + 1) ≤ b.startedAt

/-- One more attempt, after the delay of the last one. -/
theorem SpacedOut.append {policy : RetryPolicy} {attempts : List Attempted}
    (h : SpacedOut policy attempts) {next : Attempted}
    (later : ∀ last raised, attempts.getLast? = some last → last.failedAt = some raised →
      raised + policy.delay (attempts.length : Int) ≤ next.startedAt) :
    SpacedOut policy (attempts ++ [next]) := by
  intro k a b raised ha hb hraised
  by_cases hk : k + 1 < attempts.length
  · rw [List.getElem?_append_left (by omega)] at ha
    rw [List.getElem?_append_left hk] at hb
    exact h k a b raised ha hb hraised
  · -- `b` is the new attempt and `a` the last of the others
    have hlength : k + 1 = attempts.length := by
      obtain ⟨hlt, -⟩ := List.getElem?_eq_some_iff.mp hb
      rw [List.length_append, List.length_singleton] at hlt
      omega
    rw [List.getElem?_append_left (by omega)] at ha
    rw [hlength, List.getElem?_append_right (Nat.le_refl _), Nat.sub_self] at hb
    obtain rfl : next = b := Option.some.inj hb
    have hlast : attempts.getLast? = some a := by
      rw [List.getLast?_eq_getElem?, ← hlength, Nat.add_sub_cancel]
      exact ha
    have hlater := later a raised hlast hraised
    rw [← hlength, Nat.cast_add, Nat.cast_one] at hlater
    exact hlater

section stage
variable {handlers : HandlerMap} {policy : RetryPolicy} {event : OutboxEvent}

/-- The row of the event, with its status. -/
structure RowOf (event : OutboxEvent) (status : OutboxEventStatus) (db : Database)
    (row : OutboxEvent) : Prop where
  mem : row ∈ db.outboxEvents
  eventId : row.eventId = event.eventId
  draft : row.draft = event.draft
  status : row.status = status

/-- What the tables and the attempts so far say of an event. -/
inductive Stage (handlers : HandlerMap) (policy : RetryPolicy) (event : OutboxEvent)
    (db : Database) (attempts : List Attempted) : Prop where
  /-- All attempts failed, and there are some left. -/
  | waiting (row : OutboxEvent) (is : RowOf event .PENDING db row)
      (raised : ∀ a ∈ attempts, a.failedAt.isSome = true)
      (few : attempts.length < policy.budget)
      (numbered : (db.attemptsOf event.eventId
          (consumerNameForFailure event.eventType handlers)).map (·.attemptNumber)
        = oneTo attempts.length)
      (unlettered : db.lettersFor event.eventId = [])
      (due : ∀ last raised, attempts.getLast? = some last → last.failedAt = some raised →
        ∃ due, row.nextAttemptAt = some due
          ∧ raised + policy.delay (attempts.length : Int) ≤ due)
  /-- The last attempt returned. -/
  | published (row : OutboxEvent) (is : RowOf event .PUBLISHED db row)
      (front : List Attempted) (last : Attempted) (split : attempts = front ++ [last])
      (raised : ∀ a ∈ front, a.failedAt.isSome = true) (succeeded : last.failedAt = none)
      (few : attempts.length ≤ policy.budget)
      (unlettered : db.lettersFor event.eventId = [])
  /-- All attempts failed, and none is left. -/
  | failed (row : OutboxEvent) (is : RowOf event .FAILED db row)
      (raised : ∀ a ∈ attempts, a.failedAt.isSome = true)
      (spent : attempts.length = policy.budget)
      (letter : DeadLetterEvent) (lettered : db.lettersFor event.eventId = [letter])
      (number : letter.attemptNumber = (policy.budget : Int))
      (draft : letter.draft = event.draft)

/-- A handler that inserts events leaves the event where it is. -/
theorem Stage.of_same {db db' : Database} {attempts : List Attempted}
    (h : Stage handlers policy event db attempts)
    (hrows : ∀ row ∈ db.outboxEvents, row.eventId = event.eventId → row ∈ db'.outboxEvents)
    (hattempts : db'.attemptsFor event.eventId = db.attemptsFor event.eventId)
    (hletters : db'.lettersFor event.eventId = db.lettersFor event.eventId) :
    Stage handlers policy event db' attempts := by
  have hof : ∀ consumerName, db'.attemptsOf event.eventId consumerName
      = db.attemptsOf event.eventId consumerName := by
    intro consumerName
    rw [attemptsOf_eq, attemptsOf_eq, hattempts]
  have hrow : ∀ {row status}, RowOf event status db row → RowOf event status db' row :=
    fun is => ⟨hrows _ is.mem is.eventId, is.eventId, is.draft, is.status⟩
  cases h with
  | waiting row is raised few numbered unlettered due =>
      exact .waiting row (hrow is) raised few (by rw [hof]; exact numbered)
        (hletters.trans unlettered) due
  | published row is front last split raised succeeded few unlettered =>
      exact .published row (hrow is) front last split raised succeeded few
        (hletters.trans unlettered)
  | failed row is raised spent letter lettered number draft =>
      exact .failed row (hrow is) raised spent letter (hletters.trans lettered) number draft

/-- The record of a failure is about one event. -/
theorem attemptsFor_attemptFailed {db : Database} {other : OutboxEvent} {error : String}
    {stamp : FailureStamp} {eventId : String} (hne : other.eventId ≠ eventId) :
    (db.attemptFailed handlers policy other error stamp).attemptsFor eventId
      = db.attemptsFor eventId := by
  unfold Database.attemptsFor
  have hnone : [db.failureAttempt handlers other error stamp].filter
      (fun row => row.eventId = eventId) = [] :=
    List.filter_eq_nil_iff.mpr fun row mem heq => by
      rw [List.mem_singleton.mp mem] at heq
      exact hne (of_decide_eq_true heq)
  rw [attempts_attemptFailed, List.filter_append, hnone]
  exact List.append_nil _

theorem lettersFor_attemptFailed {db : Database} {other : OutboxEvent} {error : String}
    {stamp : FailureStamp} {eventId : String} (hne : other.eventId ≠ eventId) :
    (db.attemptFailed handlers policy other error stamp).lettersFor eventId
      = db.lettersFor eventId := by
  unfold Database.lettersFor Database.attemptFailed
  split
  · have hnone : [other.deadLetter stamp.deadLetterId (consumerNameForFailure other.eventType handlers)
        (db.failureNumber handlers other) error stamp.failedAt].filter
        (fun row => row.eventId = eventId) = [] :=
      List.filter_eq_nil_iff.mpr fun row mem heq => by
        rw [List.mem_singleton.mp mem] at heq
        exact hne (of_decide_eq_true heq)
    show (db.deadLetters ++ [_]).filter _ = _
    rw [List.filter_append, hnone]
    exact List.append_nil _
  · rfl

/-- The round of another event. -/
theorem RoundResult.others {other : OutboxEvent} {s : Session Database}
    {failedAt : Option DateTime} {db' : Database} {attempts : List Attempted}
    (h : RoundResult handlers policy other s failedAt db') (hne : other.eventId ≠ event.eventId)
    (stage : Stage handlers policy event s.committed attempts) :
    Stage handlers policy event db' attempts := by
  cases h with
  | published left publishedAt result never =>
      refine stage.of_same (fun row mem hid => ?_) ?_ ?_
      · rw [result]
        exact mem_update.mpr (.inr ⟨left.mem mem, fun heq => hne (heq.symm.trans hid)⟩)
      · rw [result]
        exact left.attemptsFor _
      · rw [result]
        exact left.lettersFor _
  | @failed base left error stamp result raised at_ later =>
      refine stage.of_same (fun row mem hid => ?_) ?_ ?_
      · rw [result]
        exact mem_attemptFailed (left.mem mem) fun heq => hne (heq.symm.trans hid)
      · rw [result, ← left.attemptsFor]
        exact attemptsFor_attemptFailed hne
      · rw [result, ← left.lettersFor]
        exact lettersFor_attemptFailed hne

/-- The attempts of a consumer, when the attempts of the event are the same. -/
theorem Appends.attemptsOf {db base : Database} (left : Appends db base)
    (eventId consumerName : String) :
    base.attemptsOf eventId consumerName = db.attemptsOf eventId consumerName := by
  unfold Database.attemptsOf
  rw [left.attempts]

/-- The last attempt of a list that ends with it. -/
theorem getLast?_snoc {α : Type} {front : List α} {a last : α}
    (h : (front ++ [a]).getLast? = some last) : a = last := by
  rw [List.getLast?_concat] at h
  exact Option.some.inj h

/-- An event that is PENDING waits. -/
theorem Stage.of_pending {db : Database} {attempts : List Attempted} {row : OutboxEvent}
    (stage : Stage handlers policy event db attempts) (keyed : db.Keyed)
    (mem : row ∈ db.outboxEvents) (pending : row.status = .PENDING)
    (hid : row.eventId = event.eventId) :
    row.draft = event.draft ∧ (∀ a ∈ attempts, a.failedAt.isSome = true)
      ∧ attempts.length < policy.budget
      ∧ (db.attemptsOf event.eventId
          (consumerNameForFailure event.eventType handlers)).map (·.attemptNumber)
            = oneTo attempts.length
      ∧ db.lettersFor event.eventId = []
      ∧ ∀ last raised, attempts.getLast? = some last → last.failedAt = some raised →
          ∃ due, row.nextAttemptAt = some due
            ∧ raised + policy.delay (attempts.length : Int) ≤ due := by
  have hsame : ∀ {other status}, RowOf event status db other → other = row :=
    fun is => row_unique keyed.outboxEvents is.mem mem (is.eventId.trans hid.symm)
  have hnever : ∀ {other status}, RowOf event status db other → status = .PENDING := by
    intro other status is
    rw [← is.status, hsame is]
    exact pending
  cases stage with
  | waiting other is raised few numbered unlettered due =>
      obtain rfl := hsame is
      exact ⟨is.draft, raised, few, numbered, unlettered, due⟩
  | published other is front last split raised succeeded few unlettered => cases hnever is
  | failed other is raised spent letter lettered number draft => cases hnever is

/-- **The round of the event** moves it to its next stage. -/
theorem RoundResult.own {s : Session Database} {row : OutboxEvent} {next : Attempted}
    {db' : Database} {attempts : List Attempted}
    (h : RoundResult handlers policy row s next.failedAt db') (keyed : s.committed.Keyed)
    (mem : row ∈ s.committed.outboxEvents) (pending : row.status = .PENDING)
    (hid : row.eventId = event.eventId)
    (stage : Stage handlers policy event s.committed attempts) :
    Stage handlers policy event db' (attempts ++ [next]) := by
  obtain ⟨draft, raised, few, numbered, unlettered, due⟩ :=
    stage.of_pending keyed mem pending hid
  have htype : row.eventType = event.eventType := congrArg EventDraft.eventType draft
  have hlength : (attempts ++ [next]).length = attempts.length + 1 := by simp
  cases h with
  | @published base left publishedAt result never =>
      refine .published (row.published publishedAt) ⟨?_, hid, draft, rfl⟩ attempts next rfl
        raised never (by omega) ?_
      · rw [result]
        exact mem_update.mpr (.inl ⟨row, left.mem mem, rfl, rfl⟩)
      · rw [result]
        exact (left.lettersFor _).trans unlettered
  | @failed base left error stamp result at' hat later =>
      have hraised : ∀ a ∈ attempts ++ [next], a.failedAt.isSome = true := by
        intro a ha
        rcases List.mem_append.mp ha with ha | ha
        · exact raised a ha
        · rw [List.mem_singleton.mp ha, hat]
          rfl
      have hnumbers : (base.attemptsOf row.eventId (consumerNameForFailure row.eventType
          handlers)).map (·.attemptNumber) = oneTo attempts.length := by
        rw [left.attemptsOf, hid, htype]
        exact numbered
      have hnumber : base.failureNumber handlers row = (attempts.length : Int) + 1 :=
        nextAttempt_of_numbered hnumbers
      by_cases hlast : base.failureNumber handlers row ≥ policy.maxAttempts
      · -- the last attempt: a dead letter
        have hspent : attempts.length + 1 = policy.budget :=
          spent_of_few few (hnumber ▸ hlast)
        unfold Database.attemptFailed at result
        rw [if_pos hlast] at result
        refine .failed (row.failed error) ⟨?_, hid, draft, rfl⟩ hraised (by omega)
          (row.deadLetter stamp.deadLetterId (consumerNameForFailure row.eventType handlers)
            (base.failureNumber handlers row) error stamp.failedAt) ?_ ?_ draft
        · rw [result]
          exact mem_update.mpr (.inl ⟨row, left.mem mem, rfl, rfl⟩)
        · rw [result]
          show (base.deadLetters ++ [_]).filter _ = _
          have hnone := (left.lettersFor event.eventId).trans unlettered
          unfold Database.lettersFor at hnone
          rw [List.filter_append, hnone]
          exact List.filter_eq_self.mpr fun letter hletter => by
            rw [List.mem_singleton.mp hletter]
            exact decide_eq_true hid
        · show base.failureNumber handlers row = _
          rw [hnumber, ← hspent]
          rfl
      · -- a retry, once the delay is over
        have hmore : attempts.length + 1 < policy.budget :=
          few_of_lt (hnumber ▸ hlast)
        have hfirst := result
        unfold Database.attemptFailed at result
        rw [if_neg hlast] at result
        refine .waiting (row.retried error (stamp.failedAt
          + policy.delay (base.failureNumber handlers row))) ⟨?_, hid, draft, rfl⟩
          hraised (by omega) ?_ ?_ ?_
        · rw [result]
          exact mem_update.mpr (.inl ⟨row, left.mem mem, rfl, rfl⟩)
        · rw [hlength, hfirst, ← hid, ← htype]
          exact numbered_append rfl rfl (attempts_attemptFailed _ _ _ _ _ _) hnumbers
        · rw [result]
          exact (left.lettersFor _).trans unlettered
        · intro last raised' hget hraised'
          obtain rfl := getLast?_snoc hget
          rw [hat] at hraised'
          obtain rfl : at' = raised' := Option.some.inj hraised'
          refine ⟨_, rfl, ?_⟩
          rw [hlength, hnumber, Nat.cast_add, Nat.cast_one]
          exact Int.add_le_add_right (later (not_le.mp hlast)) _

/-- The attempt starts after the delay. -/
theorem Stage.spaced {db : Database} {attempts : List Attempted} {row : OutboxEvent}
    {next : Attempted} (stage : Stage handlers policy event db attempts) (keyed : db.Keyed)
    (mem : row ∈ db.outboxEvents) (pending : row.status = .PENDING)
    (hid : row.eventId = event.eventId)
    (hdue : ∀ due, row.nextAttemptAt = some due → due ≤ next.startedAt)
    (h : SpacedOut policy attempts) : SpacedOut policy (attempts ++ [next]) := by
  obtain ⟨-, -, -, -, -, due⟩ := stage.of_pending keyed mem pending hid
  refine h.append fun last raised hlast hraised => ?_
  obtain ⟨at', hat, hle⟩ := due last raised hlast hraised
  exact hle.trans (hdue at' hat)

end stage

/-! ## §4. Batches and runs. -/

/-- An event in one of its stages, with its attempts spaced. -/
structure OnSchedule (handlers : HandlerMap) (policy : RetryPolicy) (event : OutboxEvent)
    (db : Database) (attempts : List Attempted) : Prop where
  keyed : db.Keyed
  stage : Stage handlers policy event db (attemptsIn event.eventId attempts)
  spaced : SpacedOut policy (attemptsIn event.eventId attempts)

section batch
variable {handlers : HandlerMap} {policy : RetryPolicy} {event : OutboxEvent}

/-- One round, of any event. -/
theorem OnSchedule.round (timely : handlers.Timely) {row : OutboxEvent} {s t : Session Database}
    {u : PUnit} {attempts : List Attempted}
    (h : OnSchedule handlers policy event s.committed attempts) (ordered : s.world.Ordered)
    (hs : s.Clean) (mem : row ∈ s.committed.outboxEvents) (pending : row.status = .PENDING)
    (hdue : ∀ due, row.nextAttemptAt = some due → due ≤ s.world.now s.tick)
    (hround : dispatchEvent handlers policy row s = .ok u t) :
    OnSchedule handlers policy event t.committed (attempts ++ [attempted handlers row s]) := by
  have result := roundResult timely ordered hs hround
  have keyed := timely.append.keyed policy row h.keyed
  rw [hround] at keyed
  -- the attempt is one of this event, or it leaves its stage alone
  by_cases hid : row.eventId = event.eventId
  · have hin : attemptsIn event.eventId (attempts ++ [attempted handlers row s])
        = attemptsIn event.eventId attempts ++ [attempted handlers row s] := by
      unfold attemptsIn
      rw [List.filter_append]
      congr 1
      exact List.filter_eq_self.mpr fun a ha => by
        rw [List.mem_singleton.mp ha]
        exact decide_eq_true hid
    refine ⟨keyed, ?_, ?_⟩
    · rw [hin]
      exact result.own h.keyed mem pending hid h.stage
    · rw [hin]
      exact h.stage.spaced h.keyed mem pending hid hdue h.spaced
  · have hin : attemptsIn event.eventId (attempts ++ [attempted handlers row s])
        = attemptsIn event.eventId attempts := by
      unfold attemptsIn
      rw [List.filter_append]
      refine (congrArg _ (List.filter_eq_nil_iff.mpr fun a ha heq => ?_)).trans (List.append_nil _)
      rw [List.mem_singleton.mp ha] at heq
      exact hid (of_decide_eq_true heq)
    refine ⟨keyed, ?_, ?_⟩
    · rw [hin]
      exact result.others hid h.stage
    · rw [hin]
      exact h.spaced

/-- The loop of a batch.  The rows it still has to visit are PENDING and due,
and nobody has touched them. -/
theorem OnSchedule.loop (timely : handlers.Timely) :
    ∀ (events : List OutboxEvent) (s t : Session Database) (u : PUnit) (attempts : List Attempted),
      OnSchedule handlers policy event s.committed attempts → s.world.Ordered → s.Clean →
      (∀ row ∈ events, row ∈ s.committed.outboxEvents ∧ row.status = .PENDING
        ∧ ∀ due, row.nextAttemptAt = some due → due ≤ s.world.now s.tick) →
      (events.map (·.eventId)).Nodup →
      events.forM (dispatchEvent handlers policy) s = .ok u t →
      OnSchedule handlers policy event t.committed (attempts ++ rounds handlers policy events s)
        ∧ s.tick ≤ t.tick := by
  intro events
  -- over the rows to visit: a round leaves the others as they were, and time goes on
  induction events with
  | nil =>
      intro s t u attempts h _ _ _ _ hloop
      change (pure _ : App PUnit) s = .ok u t at hloop
      rw [pure_apply, EStateM.Result.ok.injEq] at hloop
      obtain ⟨-, rfl⟩ := hloop
      refine ⟨?_, Nat.le_refl _⟩
      show OnSchedule handlers policy event s.committed (attempts ++ [])
      rw [List.append_nil]
      exact h
  | cons row events ih =>
      intro s t u attempts h ordered hs hrows hnodup hloop
      obtain ⟨_, v, hround, hloop⟩ := bind_eq_ok.mp hloop
      rw [List.map_cons, List.nodup_cons] at hnodup
      obtain ⟨mem, pending, hdue⟩ := hrows row List.mem_cons_self
      have hnext := h.round timely ordered hs mem pending hdue hround
      have htick := (forward_dispatchEvent timely policy row).tick_le hround
      have hworld := keepsWorld_dispatchEvent timely.keepWorld policy row s
      rw [hround] at hworld
      have hworld : v.world = s.world := hworld
      have heffect := timely.append.round policy row hs
      rw [hround] at heffect
      obtain ⟨hdone, hlater⟩ := ih v t u _ hnext (hworld ▸ ordered) (dispatchEvent_clean hround)
        (fun other hother => by
          obtain ⟨mem', pending', hdue'⟩ := hrows other (List.mem_cons_of_mem _ hother)
          refine ⟨heffect.others mem' fun heq => hnodup.1 (heq ▸ List.mem_map_of_mem hother),
            pending', fun due hat => ?_⟩
          rw [hworld]
          exact (hdue' due hat).trans (ordered _ _ htick)) hnodup.2 hloop
      rw [rounds_cons hround]
      rw [List.append_assoc] at hdone
      exact ⟨hdone, htick.trans hlater⟩

end batch

/-- The rows `fetch_pending` returns are due. -/
theorem due_of_mem_pending {db : Database} {limit : Nat} {readyAt due : DateTime}
    {row : OutboxEvent} (h : row ∈ db.pending limit readyAt) (hat : row.nextAttemptAt = some due) :
    due ≤ readyAt := by
  have hsorted := List.mem_of_mem_take h
  rw [List.mem_insertionSort, List.mem_filter] at hsorted
  have hdue := hsorted.2
  unfold OutboxEvent.isDue at hdue
  rw [Bool.and_eq_true, hat] at hdue
  exact of_decide_eq_true hdue.2

section run
variable {world : World Database} {handlers : HandlerMap} {policy : RetryPolicy}
  {event : OutboxEvent}

/-- **One batch.** -/
theorem OnSchedule.poll (timely : (handlersOrDefault handlers).Timely) (ordered : world.Ordered)
    {p : Polled} {a : Poll}
    (h : OnSchedule (handlersOrDefault handlers) policy event p.db p.attempts)
    (returns : PollReturns world handlers policy p a) :
    OnSchedule (handlersOrDefault handlers) policy event (poll world handlers policy a p).db
      (poll world handlers policy a p).attempts := by
  unfold PollReturns at returns
  show OnSchedule _ policy event
    (after (dispatchPendingBatch handlers a.limit policy (p.session world a))).committed
    (p.attempts ++ batchRounds handlers policy a.limit (p.session world a))
  cases hbatch : dispatchPendingBatch handlers a.limit policy (p.session world a) with
  | error e t =>
      rw [hbatch] at returns
      cases returns
  | ok n t =>
      obtain ⟨events, v, hfetch, hrest⟩ := bind_eq_ok.mp hbatch
      obtain ⟨_, w, hloop, hpure⟩ := bind_eq_ok.mp hrest
      rw [pure_apply, EStateM.Result.ok.injEq] at hpure
      obtain ⟨-, rfl⟩ := hpure
      have htick := (forward_now.bind fun _ => forward_query _ : Forward (fetchPending a.limit)).tick_le
        hfetch
      unfold batchRounds
      rw [hfetch]
      obtain ⟨rfl, m, rfl⟩ := fetchPending_ok hfetch
      refine (OnSchedule.loop timely _ _ _ _ p.attempts h ordered ⟨rfl, rfl⟩ (fun row mem => ?_)
        (pending_nodup h.keyed.outboxEvents _ _) hloop).1
      obtain ⟨hmem, hpending⟩ := mem_pending mem
      exact ⟨hmem, hpending, fun due hat =>
        (due_of_mem_pending mem hat).trans (ordered _ _ htick)⟩

end run

/-- The tables between two batches: the declared keys hold, no attempt has a
negative number, and the identifiers still to be drawn are in no row. -/
structure Polled.Sound (world : World Database) (p : Polled) : Prop where
  keyed : p.db.Keyed
  counted : Counted p.db
  fresh : ∀ n, p.tick ≤ n → world.uuid4 n ∉ p.db.ids

section sound
variable {world : World Database} {handlers : HandlerMap} {policy : RetryPolicy} {p : Polled}

/-- The next batch starts on a healthy session. -/
theorem Polled.Sound.session (h : p.Sound world) (faultless : world.Dependable fun _ => none)
    (distinct : Function.Injective world.uuid4) (schedulable : policy.Schedulable world)
    (a : Poll) : Steady policy (Database.Books []) (p.session world a) :=
  steady_begin faultless distinct schedulable h.keyed h.counted
    fun n hn => h.fresh n (Nat.le_trans (Nat.le_add_right _ _) hn)

/-- **Ordinary handlers never stop a run of batches**: each returns, on tables
as sound as before. -/
theorem Polled.Sound.poll (h : p.Sound world)
    (ordinary : (handlersOrDefault handlers).Ordinary)
    (keepWorld : (handlersOrDefault handlers).KeepWorld)
    (faultless : world.Dependable fun _ => none) (distinct : Function.Injective world.uuid4)
    (schedulable : policy.Schedulable world) (a : Poll) :
    PollReturns world handlers policy p a ∧ (poll world handlers policy a p).Sound world := by
  have hlands := meets_dispatchPendingBatch ordinary keepWorld a.limit policy (p.session world a)
    (h.session faultless distinct schedulable a)
  obtain ⟨-, -, -, -, hok⟩ := dispatchPendingBatch_run keepWorld a.limit policy
    (begin_clean world (p.tick + a.wait) p.db)
  unfold PollReturns EventCart.poll
  cases hrun : dispatchPendingBatch handlers a.limit policy (p.session world a) with
  | error e t =>
      rw [hrun] at hlands
      cases e <;> exact hlands.elim
  | ok n t =>
      rw [hrun] at hlands
      obtain ⟨⟨healthy, books⟩, -⟩ : Steady policy (Database.Books []) t := hlands
      obtain ⟨clean, hworld⟩ := hok n t hrun
      have hworld : t.world = world := hworld
      refine ⟨rfl, ?_, ?_, fun m hm => ?_⟩
      · exact clean.2 ▸ (admits_iff _).mp healthy.admitted
      · exact clean.2 ▸ books.counted
      · have hunused := healthy.unused m hm
        rw [hworld, clean.2] at hunused
        exact hunused

end sound

/-- The retry schedule of an event. -/
structure Scheduled (policy : RetryPolicy) (event : OutboxEvent) (p : Polled) : Prop where
  /-- Attempt `k + 1` starts at least `k * backoff_seconds` after attempt `k`
  failed. -/
  spaced : ∀ (k : Nat) (a b : Attempted) (raised : DateTime),
    (p.attemptsOn event.eventId)[k]? = some a → (p.attemptsOn event.eventId)[k + 1]? = some b →
      a.failedAt = some raised →
        raised + policy.backoffSeconds * ((k : Int) + 1) * 1000000 ≤ b.startedAt
  bounded : ((p.attemptsOn event.eventId).length : Int) ≤ max 1 policy.maxAttempts
  /-- All attempts failed, and there were as many as the policy allows. -/
  exhausted : ((p.attemptsOn event.eventId).length : Int) = max 1 policy.maxAttempts →
    (∀ a ∈ p.attemptsOn event.eventId, a.failedAt.isSome = true) →
      ∃ row, RowOf event .FAILED p.db row ∧ ∃ letter, p.db.lettersFor event.eventId = [letter]
        ∧ letter.attemptNumber = max 1 policy.maxAttempts ∧ letter.draft = event.draft
  /-- Before that, the event waits for its next attempt. -/
  retried : ((p.attemptsOn event.eventId).length : Int) < max 1 policy.maxAttempts →
    (∀ a ∈ p.attemptsOn event.eventId, a.failedAt.isSome = true) →
      ∃ row, RowOf event .PENDING p.db row ∧ p.db.lettersFor event.eventId = []
  /-- One of the attempts returned. -/
  succeeded : ∀ a ∈ p.attemptsOn event.eventId, a.failedAt = none →
    (∃ row, RowOf event .PUBLISHED p.db row) ∧ p.db.lettersFor event.eventId = []

/-- Nothing is left to attempt. -/
def Polled.settledOn (policy : RetryPolicy) (eventId : String) (p : Polled) : Prop :=
  ((p.attemptsOn eventId).length : Int) = max 1 policy.maxAttempts
    ∨ ∃ a ∈ p.attemptsOn eventId, a.failedAt = none

theorem cast_budget (policy : RetryPolicy) : (policy.budget : Int) = max 1 policy.maxAttempts := by
  unfold RetryPolicy.budget
  omega

section scheduled
variable {handlers : HandlerMap} {policy : RetryPolicy} {event : OutboxEvent}

/-- What the stages say of the schedule. -/
theorem OnSchedule.scheduled {p : Polled}
    (h : OnSchedule handlers policy event p.db p.attempts) : Scheduled policy event p := by
  have hspaced : SpacedOut policy (p.attemptsOn event.eventId) := h.spaced
  have hstage : Stage handlers policy event p.db (p.attemptsOn event.eventId) := h.stage
  have hbudget := cast_budget policy
  cases hstage with
  | waiting row is raised few numbered unlettered due =>
      refine ⟨hspaced, by omega, fun hall _ => by omega, fun _ _ => ⟨row, is, unlettered⟩,
        fun a ha hnone => ?_⟩
      have hsome := raised a ha
      rw [hnone] at hsome
      cases hsome
  | published row is front last split raised succeeded few unlettered =>
      have hlast : last ∈ p.attemptsOn event.eventId := by
        rw [split]
        exact List.mem_append_right _ (List.mem_singleton.mpr rfl)
      have hnever : ¬ ∀ a ∈ p.attemptsOn event.eventId, a.failedAt.isSome = true := by
        intro hall
        have hsome := hall last hlast
        rw [succeeded] at hsome
        cases hsome
      exact ⟨hspaced, by omega, fun _ hall => absurd hall hnever,
        fun _ hall => absurd hall hnever, fun _ _ _ => ⟨⟨row, is⟩, unlettered⟩⟩
  | failed row is raised spent letter lettered number draft =>
      refine ⟨hspaced, by omega, fun _ _ => ⟨row, is, letter, lettered, by omega, draft⟩,
        fun hfew _ => by omega, fun a ha hnone => ?_⟩
      have hsome := raised a ha
      rw [hnone] at hsome
      cases hsome

/-- A settled event is attempted no more. -/
theorem OnSchedule.settled {p q : Polled} (h : OnSchedule handlers policy event q.db q.attempts)
    (hkept : p.attempts <+: q.attempts) (settled : p.settledOn policy event.eventId) :
    q.attemptsOn event.eventId = p.attemptsOn event.eventId := by
  have hon : p.attemptsOn event.eventId <+: q.attemptsOn event.eventId := hkept.filter _
  rcases settled with hspent | ⟨a, ha, hnone⟩
  · have hbounded := h.scheduled.bounded
    have hle := hon.length_le
    exact (hon.eq_of_length (by omega)).symm
  · have hnot : ∀ {attempts : List Attempted}, a ∈ attempts →
        ¬ ∀ b ∈ attempts, b.failedAt.isSome = true := by
      intro attempts hmem hall
      have hsome := hall a hmem
      rw [hnone] at hsome
      cases hsome
    have hstage : Stage handlers policy event q.db (q.attemptsOn event.eventId) := h.stage
    cases hstage with
    | waiting row is raised few numbered unlettered due => exact absurd raised (hnot (hon.subset ha))
    | failed row is raised spent letter lettered number draft =>
        exact absurd raised (hnot (hon.subset ha))
    | published row is front last split raised succeeded few unlettered =>
        -- only the last attempt returned, so it is among the earlier ones
        rw [split, List.prefix_concat_iff] at hon
        rcases hon with heq | hfront
        · rw [split, heq]
        · exact absurd raised (hnot (hfront.subset ha))

end scheduled

/-- Attempts are never forgotten. -/
theorem attempts_kept (world : World Database) (handlers : HandlerMap) (policy : RetryPolicy)
    (polls : List Poll) (p : Polled) :
    p.attempts <+: (run (poll world handlers policy) polls p).attempts :=
  run_invariant (I := fun q => p.attempts <+: q.attempts)
    (fun _ _ h => h.trans (List.prefix_append _ _)) polls p (List.prefix_refl _)

/-- An event nobody has attempted is on schedule. -/
theorem OutboxEvent.Fresh.onSchedule {handlers : HandlerMap} {policy : RetryPolicy}
    {event : OutboxEvent} {db : Database} (fresh : event.Fresh) (keyed : db.Keyed)
    (mem : event ∈ db.outboxEvents) (unattempted : db.attemptsFor event.eventId = [])
    (unlettered : db.lettersFor event.eventId = []) :
    OnSchedule handlers policy event db [] := by
  refine ⟨keyed, .waiting event ⟨mem, rfl, rfl, fresh.status⟩ ?_ ?_ ?_ unlettered ?_, ?_⟩
  · exact fun _ ha => absurd ha List.not_mem_nil
  · show 0 < policy.budget
    unfold RetryPolicy.budget
    omega
  · rw [attemptsOf_eq, unattempted]
    rfl
  · exact fun _ _ hlast => absurd hlast (by simp [attemptsIn])
  · intro k a b raised ha
    exact absurd ha (by simp [attemptsIn])

/-- **The retry schedule.**  Over every sequence of batches on a clock that
does not go back, with handlers that raise ordinary exceptions and leave the
delivery of other events alone, under a policy whose retries can be scheduled:
a freshly inserted event is attempted on schedule; once an attempt returned or
the last one failed, no later batch attempts it again. -/
theorem retries_scheduled {world : World Database} {handlers : HandlerMap}
    (timely : (handlersOrDefault handlers).Timely) (ordinary : (handlersOrDefault handlers).Ordinary)
    (ordered : world.Ordered) (faultless : world.Dependable fun _ => none)
    (distinct : Function.Injective world.uuid4) {policy : RetryPolicy}
    (schedulable : policy.Schedulable world) {db : Database} {tick : Nat} (keyed : db.Keyed)
    (counted : Counted db) (unused : ∀ n, tick ≤ n → world.uuid4 n ∉ db.ids)
    {event : OutboxEvent} (mem : event ∈ db.outboxEvents) (fresh : event.Fresh)
    (unattempted : db.attemptsFor event.eventId = []) (unlettered : db.lettersFor event.eventId = [])
    (polls more : List Poll) :
    Scheduled policy event (run (poll world handlers policy) polls ⟨db, tick, []⟩)
      ∧ ((run (poll world handlers policy) polls ⟨db, tick, []⟩).settledOn policy event.eventId →
          (run (poll world handlers policy) (polls ++ more) ⟨db, tick, []⟩).attemptsOn event.eventId
            = (run (poll world handlers policy) polls ⟨db, tick, []⟩).attemptsOn event.eventId) := by
  -- the invariant of the polls, for the first ones and for those after them
  have hkeep : ∀ as p, p.Sound world
        ∧ OnSchedule (handlersOrDefault handlers) policy event p.db p.attempts →
      (run (poll world handlers policy) as p).Sound world
        ∧ OnSchedule (handlersOrDefault handlers) policy event
          (run (poll world handlers policy) as p).db
          (run (poll world handlers policy) as p).attempts := by
    refine run_invariant (I := fun p : Polled => p.Sound world
      ∧ OnSchedule (handlersOrDefault handlers) policy event p.db p.attempts) ?_
    rintro p a ⟨sound, onSchedule⟩
    obtain ⟨returns, sound'⟩ :=
      sound.poll ordinary timely.keepWorld faultless distinct schedulable a
    exact ⟨sound', onSchedule.poll timely ordered returns⟩
  have hpolls := hkeep polls ⟨db, tick, []⟩
    ⟨⟨keyed, counted, unused⟩, fresh.onSchedule keyed mem unattempted unlettered⟩
  have hmore := hkeep more _ hpolls
  refine ⟨hpolls.2.scheduled, fun settled => ?_⟩
  rw [run_append]
  exact hmore.2.settled (attempts_kept _ _ _ _ _) settled

/-- A table that routes one type of event, to a handler that always raises. -/
def brokenPing : HandlerMap :=
  [("Ping", ⟨"ping-worker", fun _ => raise (.runtimeError "no answer")⟩)]

theorem brokenPing_timely : brokenPing.Timely := by
  have hraise : ∀ eventType registration, brokenPing.lookup eventType = some registration →
      registration.handler = fun _ => raise (.runtimeError "no answer") := by
    intro eventType registration h
    have mem := mem_of_lookup h
    rw [brokenPing, List.mem_singleton, Prod.mk.injEq] at mem
    rw [mem.2]
  refine ⟨⟨fun eventType registration h envelope => ?_, fun eventType registration h envelope => ?_⟩,
    fun eventType registration h envelope => ?_, fun eventType registration h envelope => ?_⟩
  · rw [hraise eventType registration h]
    exact within_raise appends_frame _
  · rw [hraise eventType registration h]
    exact (quiet_raise _).commitsAdmitted
  · rw [hraise eventType registration h]
    exact (quiet_raise _).keepsWorld
  · rw [hraise eventType registration h]
    exact forward_raise _

theorem brokenPing_ordinary : brokenPing.Ordinary := by
  intro eventType registration h envelope eventIds
  have mem := mem_of_lookup h
  rw [brokenPing, List.mem_singleton, Prod.mk.injEq] at mem
  rw [mem.2]
  exact meets_raise _ fun _ hs => hs

/-- An event for it. -/
def pingEvent : OutboxEvent :=
  EventDraft.row
    { eventType := "Ping"
      eventVersion := 1
      aggregateType := "Ping"
      aggregateId := "ping-1"
      correlationId := "ping-1"
      causationId := none
      payload := [] }
    "id-0" 0

/-- Its dispatcher, before the first batch. -/
def pinged : Polled := ⟨soleEvent pingEvent, 1, []⟩

/-- Two attempts five seconds apart, and none after that: the batch in between
comes too early, and the last one too late. -/
theorem retries_scheduled_ping :
    ((run (poll oneDay brokenPing { maxAttempts := 2 })
        [⟨0, 50⟩, ⟨1000000, 50⟩, ⟨4000000, 50⟩] pinged).attemptsOn "id-0").length = 2
      ∧ Scheduled { maxAttempts := 2 } pingEvent
          (run (poll oneDay brokenPing { maxAttempts := 2 })
            [⟨0, 50⟩, ⟨1000000, 50⟩, ⟨4000000, 50⟩] pinged) :=
  ⟨by decide +kernel,
    (retries_scheduled (show (handlersOrDefault brokenPing).Timely from brokenPing_timely)
      brokenPing_ordinary oneDay_ordered oneDay_faultless calm_distinct
      (oneDay_schedulable rfl (by decide)) (keyed_soleEvent _)
      (fun _ mem => absurd mem List.not_mem_nil) (calm_fresh (by decide +kernel))
      (List.mem_singleton.mpr rfl) (fresh_row _ _ _) rfl rfl
      [⟨0, 50⟩, ⟨1000000, 50⟩, ⟨4000000, 50⟩] [⟨4000000, 50⟩]).1⟩

/-- A handler that deletes the attempts, and raises. -/
def clearingPing : HandlerMap :=
  [("Ping", ⟨"ping-worker", fun _ => do
    write fun db => { db with attempts := [] }
    raise (.runtimeError "no answer")⟩)]

/-- A handler that leaves two rows under one key, and raises. -/
def doublingPing : HandlerMap :=
  [("Ping", ⟨"ping-worker", fun _ => do
    write (·.addInboxEvent ⟨"ping-worker", "id-0", 0⟩)
    write (·.addInboxEvent ⟨"ping-worker", "id-0", 0⟩)
    raise (.runtimeError "no answer")⟩)]

/-- The second attempt on an event comes a back-off after the first. -/
theorem Scheduled.second {policy : RetryPolicy} {event : OutboxEvent} {p : Polled} {a b : Attempted}
    {raised : DateTime} (h : Scheduled policy event p) (two : p.attemptsOn event.eventId = [a, b])
    (hraised : a.failedAt = some raised) :
    raised + policy.backoffSeconds * 1 * 1000000 ≤ b.startedAt := by
  have hspaced := h.spaced 0 a b raised (by rw [two]; rfl) (by rw [two]; rfl) hraised
  exact hspaced

/-- **The schedule is not kept** under a delay no `timedelta` can hold: the
failure is not recorded, and the event is attempted again at once.  Nor is it
kept with a handler that deletes the attempts (the event gets a third of two
attempts), or with one that leaves rows the key check refuses (again nothing
is recorded). -/
theorem schedule_not_kept :
    ¬ Scheduled { backoffSeconds := 100000000000000 } pingEvent
        (run (poll oneDay brokenPing { backoffSeconds := 100000000000000 })
          [⟨0, 50⟩, ⟨0, 50⟩] pinged)
      ∧ ¬ Scheduled { backoffSeconds := 0, maxAttempts := 2 } pingEvent
        (run (poll oneDay clearingPing { backoffSeconds := 0, maxAttempts := 2 })
          [⟨0, 50⟩, ⟨0, 50⟩, ⟨0, 50⟩] pinged)
      ∧ ¬ Scheduled {} pingEvent
        (run (poll oneDay doublingPing {}) [⟨0, 50⟩, ⟨0, 50⟩] pinged) := by
  refine ⟨fun h => ?_, fun h => ?_, fun h => ?_⟩
  · have hearly := h.second (a := ⟨"id-0", 3, some 3⟩) (b := ⟨"id-0", 10, some 10⟩)
      (by decide +kernel) rfl
    exact absurd hearly (by decide)
  · have hthree : ((run (poll oneDay clearingPing { backoffSeconds := 0, maxAttempts := 2 })
        [⟨0, 50⟩, ⟨0, 50⟩, ⟨0, 50⟩] pinged).attemptsOn "id-0").length = 3 := by decide +kernel
    have hbounded := h.bounded
    rw [show pingEvent.eventId = "id-0" from rfl, hthree] at hbounded
    exact absurd hbounded (by decide)
  · have hearly := h.second (a := ⟨"id-0", 3, some 3⟩) (b := ⟨"id-0", 9, some 9⟩)
      (by decide +kernel) rfl
    exact absurd hearly (by decide)

end EventCart
