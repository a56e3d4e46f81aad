/-
  EventCart.Dispatchers.Draining
  ──────────────────────────────
  **THE DISPATCHER DRAINS THE OUTBOX.**

  Handlers insert events while the loop works through them, and a failure
  puts an event back.  What bounds the work is the debt of the outbox: a
  PENDING event owes the attempts it has left, and a full budget for every
  event that can still come out of it.

    • `chainLength`        — an event and its longest line of descendants,
    • `debt_round`         — a round pays at least one attempt, whether the
                             event is published, retried or given up,
    • `dispatcher_drains`  — so all batches together make a bounded number of
                             attempts, and `dispatch_until_idle` returns.
-/
import EventCart.Dispatchers.Schedule
import EventCart.FailedAttempts
import EventCart.Saga.Availability

namespace EventCart

open EventCart.Lib
open EventCart.Lib.Tx

/-! ## §1. The debt. -/

/-- The length of the longest chain of events an event of the type can
start. -/
def chainLengths : List (String × Nat) :=
  [("OrderCreated", 5),
   ("InventoryReserved", 4),
   ("PaymentAuthorized", 3),
   ("InvoiceCreated", 2),
   ("PaymentFailed", 2)]

def chainLength (eventType : String) : Nat := (chainLengths.lookup eventType).getD 1

theorem one_le_chainLength (eventType : String) : 1 ≤ chainLength eventType := by
  unfold chainLength
  cases h : chainLengths.lookup eventType with
  | none => exact Nat.le_refl 1
  | some n =>
      have hall : ∀ p ∈ chainLengths, 1 ≤ p.2 := by decide
      exact hall _ (mem_of_lookup h)

theorem chainLength_le (eventType : String) : chainLength eventType ≤ 5 := by
  unfold chainLength
  cases h : chainLengths.lookup eventType with
  | none => exact (by decide : 1 ≤ 5)
  | some n =>
      have hall : ∀ p ∈ chainLengths, p.2 ≤ 5 := by decide
      exact hall _ (mem_of_lookup h)

/-- The attempts a PENDING event still gets, the next one included. -/
def attemptsLeft (handlers : HandlerMap) (policy : RetryPolicy) (db : Database)
    (event : OutboxEvent) : Nat :=
  (max 1 (policy.maxAttempts + 1 - db.failureNumber handlers event)).toNat

/-- What an event owes: its own attempts, and a full budget for each
descendant. -/
def debtOf (handlers : HandlerMap) (policy : RetryPolicy) (db : Database)
    (event : OutboxEvent) : Nat :=
  if event.status = .PENDING then
    (chainLength event.eventType - 1) * policy.budget + attemptsLeft handlers policy db event
  else 0

def Database.debt (handlers : HandlerMap) (policy : RetryPolicy) (db : Database) : Nat :=
  (db.outboxEvents.map (debtOf handlers policy db)).sum

/-- The PENDING events. -/
def Database.pendingEvents (db : Database) : List OutboxEvent :=
  db.outboxEvents.filter (·.status = .PENDING)

section debt
variable {handlers : HandlerMap} {policy : RetryPolicy}

theorem one_le_attemptsLeft (db : Database) (event : OutboxEvent) :
    1 ≤ attemptsLeft handlers policy db event := by
  unfold attemptsLeft
  omega

/-- No event has more than a full budget left. -/
theorem Counted.attemptsLeft_le {db : Database} (h : Counted db) (event : OutboxEvent) :
    attemptsLeft handlers policy db event ≤ policy.budget := by
  have hpos : 0 < db.failureNumber handlers event := h.nextAttempt _ _
  unfold attemptsLeft RetryPolicy.budget
  omega

/-- Nor does it owe more than a budget for every event of its chain. -/
theorem Counted.debtOf_le {db : Database} (h : Counted db) (event : OutboxEvent) :
    debtOf handlers policy db event ≤ chainLength event.eventType * policy.budget := by
  unfold debtOf
  split
  · have hleft : attemptsLeft handlers policy db event ≤ policy.budget := h.attemptsLeft_le event
    have hchain := one_le_chainLength event.eventType
    calc (chainLength event.eventType - 1) * policy.budget + attemptsLeft handlers policy db event
        ≤ (chainLength event.eventType - 1) * policy.budget + policy.budget :=
          Nat.add_le_add_left hleft _
      _ = (chainLength event.eventType - 1 + 1) * policy.budget := (Nat.succ_mul _ _).symm
      _ = chainLength event.eventType * policy.budget := by rw [Nat.sub_add_cancel hchain]
  · exact Nat.zero_le _

/-- A list of events owes no more than all its chains. -/
theorem Counted.sum_debtOf_le {db : Database} (h : Counted db) :
    ∀ events : List OutboxEvent, (events.map (debtOf handlers policy db)).sum
      ≤ (events.map fun event => chainLength event.eventType).sum * policy.budget := by
  intro events
  induction events with
  | nil => exact Nat.zero_le _
  | cons event events ih =>
      rw [List.map_cons, List.map_cons, List.sum_cons, List.sum_cons, Nat.add_mul]
      exact Nat.add_le_add (h.debtOf_le event) ih

/-- **The debt of the outbox** is at most five budgets for every PENDING
event. -/
theorem Counted.debt_le {db : Database} (h : Counted db) :
    db.debt handlers policy ≤ 5 * policy.budget * db.pendingEvents.length := by
  unfold Database.debt Database.pendingEvents
  induction db.outboxEvents with
  | nil => exact Nat.zero_le _
  | cons event events ih =>
      rw [List.map_cons, List.sum_cons]
      by_cases hpending : event.status = .PENDING
      · have hevent : debtOf handlers policy db event ≤ 5 * policy.budget :=
          (h.debtOf_le event).trans (Nat.mul_le_mul_right _ (chainLength_le _))
        rw [List.filter_cons_of_pos (by simpa using hpending), List.length_cons, Nat.mul_succ]
        omega
      · have hevent : debtOf handlers policy db event = 0 := if_neg hpending
        rw [List.filter_cons_of_neg (by simpa using hpending)]
        omega

end debt

/-! ## §2. What a handler adds to it. -/

/-- **What a handler inserts**: a list of events whose chains are shorter than
that of the event it was handed. -/
structure Spawns (eventType : String) (db db' : Database) : Prop where
  outboxEvents : ∃ new, db'.outboxEvents = db.outboxEvents ++ new
    ∧ (new.map fun event => chainLength event.eventType).sum + 1 ≤ chainLength eventType
  attempts : db'.attempts = db.attempts

/-- A handler that inserts nothing. -/
theorem spawns_nothing {eventType : String} {db db' : Database}
    (hevents : db'.outboxEvents = db.outboxEvents) (hattempts : db'.attempts = db.attempts) :
    Spawns eventType db db' :=
  ⟨⟨[], hevents.trans (List.append_nil _).symm, one_le_chainLength _⟩, hattempts⟩

/-- A handler that inserts one event. -/
theorem spawns_one {eventType : String} (spawned : String) {db db' : Database} {event : OutboxEvent}
    (hevents : db'.outboxEvents = db.outboxEvents ++ [event])
    (hattempts : db'.attempts = db.attempts) (htype : event.eventType = spawned)
    (shorter : chainLength spawned + 1 ≤ chainLength eventType) : Spawns eventType db db' := by
  refine ⟨⟨[event], hevents, ?_⟩, hattempts⟩
  rw [List.map_singleton, List.sum_singleton, htype]
  exact shorter

/-- **The chains of the saga get shorter** with every handler. -/
theorem Handled.spawns {event : EventEnvelope} {db db' : Database} (h : Handled event db db') :
    Spawns event.eventType db db' := by
  cases h with
  | reserved type => rw [moveAll_eq, type]; exact spawns_one "InventoryReserved" rfl rfl rfl (by decide)
  | refused type => rw [type]; exact spawns_one "InventoryReservationFailed" rfl rfl rfl (by decide)
  | @paid orderId payment id at' type =>
      rw [type]
      have hdraft : (paymentDraft event orderId payment).eventType = "PaymentFailed"
          ∨ (paymentDraft event orderId payment).eventType = "PaymentAuthorized" := by
        unfold paymentDraft
        split
        · exact .inl rfl
        · exact .inr rfl
      rcases hdraft with hdraft | hdraft
      · exact spawns_one _ rfl rfl hdraft (by decide)
      · exact spawns_one _ rfl rfl hdraft (by decide)
  | invoiced type => rw [type]; exact spawns_one "InvoiceCreated" rfl rfl rfl (by decide)
  | notified type => rw [type]; exact spawns_one "NotificationSent" rfl rfl rfl (by decide)
  | completed => exact spawns_nothing rfl rfl
  | released type => rw [moveAll_eq, type]; exact spawns_one "InventoryReleased" rfl rfl rfl (by decide)
  | cancelled => exact spawns_nothing rfl rfl

section handlers
variable {paymentFails : String → Bool} {event : OutboxEvent} {s u : Session Database}

/-- A handler that returns. -/
theorem callHandler_spawns {a : Unit}
    (h : callHandler (sagaHandlers paymentFails) event s = .ok a u) :
    Spawns event.eventType s.working u.working := by
  rcases sagaCall paymentFails event with ⟨refused, hcall⟩
    | ⟨registration, envelope, -, valid, hcall, α, body, event', hb⟩
  · rw [hcall] at h
    simp at h
  · rw [hcall] at h
    obtain ⟨htype, -, -, -⟩ := envelope_eventType valid
    rcases hb.handler_ok h with ⟨-, n, rfl⟩ | ⟨-, db', at', n, handled, -, rfl⟩
    · exact spawns_nothing rfl rfl
    · have hspawns := handled.spawns
      rw [htype] at hspawns
      exact ⟨hspawns.outboxEvents, hspawns.attempts⟩

/-- A handler that raises, on a session that can still be used, leaves outbox
and attempts as they were. -/
theorem callHandler_raised_outbox (hs : s.active = true) {e : Failure PyError}
    (h : callHandler (sagaHandlers paymentFails) event s = .error e u) (alive : e ≠ .crash)
    (active : u.active = true) :
    u.working.outboxEvents = s.working.outboxEvents ∧ u.working.attempts = s.working.attempts := by
  cases e with
  | crash => exact absurd rfl alive
  | raised error =>
      obtain ⟨-, hworking | ⟨-, envelope, -, half⟩⟩ := callHandler_raised h
      · rw [hworking]
        exact ⟨rfl, rfl⟩
      · obtain ⟨-, orderId, lines, -, -, -, -, hdb⟩ := half
        rw [hdb, moveAll_eq]
        exact ⟨rfl, rfl⟩
  | database message =>
      rw [callHandler_inactive hs h (by simp) (by simp)] at active
      cases active
  | pendingRollback =>
      rw [callHandler_inactive hs h (by simp) (by simp)] at active
      cases active

end handlers

/-! ## §3. What a round pays. -/

/-- The next attempt after a recorded one gets the next number. -/
theorem nextAttempt_append {db db' : Database} {row : EventProcessingAttempt}
    (hattempts : db'.attempts = db.attempts ++ [row])
    (hnumber : row.attemptNumber = db.nextAttempt row.eventId row.consumerName) :
    db'.nextAttempt row.eventId row.consumerName = row.attemptNumber + 1 := by
  have hof : db'.attemptsOf row.eventId row.consumerName
      = db.attemptsOf row.eventId row.consumerName ++ [row] := by
    unfold Database.attemptsOf
    rw [hattempts, List.filter_append]
    congr 1
    exact List.filter_eq_self.mpr fun r hr => by
      rw [List.mem_singleton.mp hr]
      simp
  have hmax : ((db'.attemptsOf row.eventId row.consumerName).map (·.attemptNumber)).max?
      = some row.attemptNumber := by
    rw [hof, List.map_append, List.map_singleton, List.max?_eq_some_iff]
    refine ⟨List.mem_append_right _ (List.mem_singleton.mpr rfl), fun n hn => ?_⟩
    rcases List.mem_append.mp hn with hn | hn
    · -- an older number is at most the largest
      rw [hnumber]
      unfold Database.nextAttempt Database.latestAttempt
      cases hold : ((db.attemptsOf row.eventId row.consumerName).map (·.attemptNumber)).max? with
      | none =>
          rw [List.max?_eq_none_iff] at hold
          rw [hold] at hn
          exact absurd hn List.not_mem_nil
      | some m =>
          have hle := (List.max?_eq_some_iff.mp hold).2 n hn
          show n ≤ m + 1
          omega
    · rw [List.mem_singleton.mp hn]
  unfold Database.nextAttempt Database.latestAttempt
  rw [hmax]
  rfl

/-- Another event's attempts leave its own numbers alone. -/
theorem failureNumber_other {db db' : Database} {row : EventProcessingAttempt}
    {handlers : HandlerMap} {event : OutboxEvent}
    (hattempts : db'.attempts = db.attempts ++ [row]) (hne : event.eventId ≠ row.eventId) :
    db'.failureNumber handlers event = db.failureNumber handlers event := by
  have hof : ∀ consumerName, db'.attemptsOf event.eventId consumerName
      = db.attemptsOf event.eventId consumerName := by
    intro consumerName
    unfold Database.attemptsOf
    rw [hattempts, List.filter_append]
    refine (congrArg _ (List.filter_eq_nil_iff.mpr fun r hr heq => ?_)).trans (List.append_nil _)
    rw [List.mem_singleton.mp hr, Bool.and_eq_true] at heq
    exact hne (of_decide_eq_true heq.1).symm
  unfold Database.failureNumber Database.nextAttempt Database.latestAttempt
  rw [hof]

/-- What an event owes depends on its own attempts. -/
theorem debtOf_congr {db db' : Database} {handlers : HandlerMap} {policy : RetryPolicy}
    {event : OutboxEvent}
    (h : db'.failureNumber handlers event = db.failureNumber handlers event) :
    debtOf handlers policy db' event = debtOf handlers policy db event := by
  unfold debtOf attemptsLeft
  rw [h]

theorem failureNumber_of_same {db db' : Database} {handlers : HandlerMap} {event : OutboxEvent}
    (hattempts : db'.attempts = db.attempts) :
    db'.failureNumber handlers event = db.failureNumber handlers event := by
  unfold Database.failureNumber Database.nextAttempt Database.latestAttempt Database.attemptsOf
  rw [hattempts]

section paid
variable {handlers : HandlerMap} {policy : RetryPolicy} {event : OutboxEvent} {db db' : Database}

/-- One event is rewritten and others are inserted; the debt goes down when
what they owe together is less than what the event owed. -/
theorem debt_paid {f : OutboxEvent → OutboxEvent} {new : List OutboxEvent}
    (nodup : ((db.outboxEvents ++ new).map (·.eventId)).Nodup) (mem : event ∈ db.outboxEvents)
    (hevents : db'.outboxEvents = update (·.eventId) event.eventId f (db.outboxEvents ++ new))
    (hothers : ∀ other : OutboxEvent, other.eventId ≠ event.eventId →
      db'.failureNumber handlers other = db.failureNumber handlers other)
    (hpaid : debtOf handlers policy db' (f event) + (new.map (debtOf handlers policy db)).sum + 1
      ≤ debtOf handlers policy db event) :
    db'.debt handlers policy + 1 ≤ db.debt handlers policy := by
  have hsum : ((update (·.eventId) event.eventId f (db.outboxEvents ++ new)).map
        (debtOf handlers policy db')).sum + debtOf handlers policy db event
      = ((db.outboxEvents ++ new).map (debtOf handlers policy db)).sum
        + debtOf handlers policy db' (f event) :=
    sum_update nodup (List.mem_append_left _ mem) rfl
      fun other _ hne => debtOf_congr (hothers other hne)
  rw [← hevents, List.map_append, List.sum_append] at hsum
  unfold Database.debt
  omega

end paid

section outcomes
variable {handlers : HandlerMap} {policy : RetryPolicy} {event : OutboxEvent}
  {db base : Database}

theorem debtOf_pending (handlers : HandlerMap) (policy : RetryPolicy) (db : Database)
    (pending : event.status = .PENDING) :
    debtOf handlers policy db event
      = (chainLength event.eventType - 1) * policy.budget
        + attemptsLeft handlers policy db event := if_pos pending

/-- **A published event has paid**: the events its handler inserted have
shorter chains. -/
theorem debt_published (counted : Counted db) (mem : event ∈ db.outboxEvents)
    (pending : event.status = .PENDING) (spawns : Spawns event.eventType db base)
    (keyed : base.Keyed) (publishedAt : DateTime) :
    (base.updateOutboxEvent event.eventId (·.published publishedAt)).debt handlers policy + 1
      ≤ db.debt handlers policy := by
  obtain ⟨⟨new, hnew, hshort⟩, hattempts⟩ := spawns
  refine debt_paid (f := (·.published publishedAt)) (hnew ▸ keyed.outboxEvents) mem ?_
    (fun other _ => failureNumber_of_same hattempts) ?_
  · rw [← hnew]
    rfl
  · -- the descendants owe less than the event did
    have howed := debtOf_pending handlers policy db pending
    have hleft : 1 ≤ attemptsLeft handlers policy db event := one_le_attemptsLeft _ _
    have hnone : debtOf handlers policy (base.updateOutboxEvent event.eventId
        (·.published publishedAt)) (event.published publishedAt) = 0 :=
      if_neg (by simp [OutboxEvent.published])
    have hsum : (new.map (debtOf handlers policy db)).sum
        ≤ (new.map fun event => chainLength event.eventType).sum * policy.budget :=
      counted.sum_debtOf_le new
    have hchain : (new.map fun event => chainLength event.eventType).sum * policy.budget
        ≤ (chainLength event.eventType - 1) * policy.budget :=
      Nat.mul_le_mul_right _ (by omega)
    omega

/-- **A failed event has paid**: it is given up, or has an attempt less. -/
theorem debt_attemptFailed (keyed : db.Keyed) (mem : event ∈ db.outboxEvents)
    (pending : event.status = .PENDING) (hevents : base.outboxEvents = db.outboxEvents)
    (hattempts : base.attempts = db.attempts) (error : String) (stamp : FailureStamp) :
    (base.attemptFailed handlers policy event error stamp).debt handlers policy + 1
      ≤ db.debt handlers policy := by
  have howed := debtOf_pending handlers policy db pending
  have hleft : 1 ≤ attemptsLeft handlers policy db event := one_le_attemptsLeft _ _
  have happend := attempts_attemptFailed base handlers policy event error stamp
  have hothers : ∀ other : OutboxEvent, other.eventId ≠ event.eventId →
      (base.attemptFailed handlers policy event error stamp).failureNumber handlers other
        = db.failureNumber handlers other :=
    fun other hne => (failureNumber_other happend hne).trans (failureNumber_of_same hattempts)
  have hnodup : ((db.outboxEvents ++ ([] : List OutboxEvent)).map (·.eventId)).Nodup := by
    rw [List.append_nil]
    exact keyed.outboxEvents
  have hnumber : base.failureNumber handlers event = db.failureNumber handlers event :=
    failureNumber_of_same hattempts
  -- the attempt that is on record now
  have hnext : (base.attemptFailed handlers policy event error stamp).failureNumber handlers event
      = base.failureNumber handlers event + 1 := nextAttempt_append happend rfl
  by_cases hlast : base.failureNumber handlers event ≥ policy.maxAttempts
  · refine debt_paid (f := (·.failed error)) hnodup mem ?_ hothers ?_
    · unfold Database.attemptFailed
      rw [if_pos hlast, List.append_nil, ← hevents]
      rfl
    · have hnone : debtOf handlers policy (base.attemptFailed handlers policy event error stamp)
          (event.failed error) = 0 := if_neg (by simp [OutboxEvent.failed])
      rw [hnone, List.map_nil, List.sum_nil]
      omega
  · refine debt_paid (f := (·.retried error (stamp.failedAt
      + policy.delay (base.failureNumber handlers event)))) hnodup mem ?_ hothers ?_
    · unfold Database.attemptFailed
      rw [if_neg hlast, List.append_nil, ← hevents]
      rfl
    · -- one attempt less is left
      have hless : attemptsLeft handlers policy
            (base.attemptFailed handlers policy event error stamp) event + 1
          ≤ attemptsLeft handlers policy db event := by
        unfold attemptsLeft
        rw [hnext, ← hnumber]
        omega
      have hagain : debtOf handlers policy (base.attemptFailed handlers policy event error stamp)
          (event.retried error (stamp.failedAt
            + policy.delay (base.failureNumber handlers event)))
          = (chainLength event.eventType - 1) * policy.budget
            + attemptsLeft handlers policy
                (base.attemptFailed handlers policy event error stamp) event := if_pos rfl
      rw [hagain, List.map_nil, List.sum_nil]
      omega

/-- The new attempt has a positive number. -/
theorem Counted.attemptFailed (counted : Counted base) (error : String) (stamp : FailureStamp) :
    Counted (base.attemptFailed handlers policy event error stamp) := by
  intro row hrow
  rw [attempts_attemptFailed] at hrow
  rcases List.mem_append.mp hrow with hrow | hrow
  · exact counted row hrow
  · rw [List.mem_singleton.mp hrow]
    exact Int.le_of_lt (counted.nextAttempt _ _)

end outcomes

section round
variable {paymentFails : String → Bool} {policy : RetryPolicy} {event : OutboxEvent}
  {s t : Session Database} {a : PUnit}

/-- **A round pays.**  The event was PENDING; the round published it, gave it
back with an attempt less, or gave it up. -/
theorem debt_round (clean : s.Clean) (keyed : s.committed.Keyed) (counted : Counted s.committed)
    (mem : event ∈ s.committed.outboxEvents) (pending : event.status = .PENDING)
    (h : dispatchEvent (sagaHandlers paymentFails) policy event s = .ok a t) :
    t.committed.debt (sagaHandlers paymentFails) policy + 1
        ≤ s.committed.debt (sagaHandlers paymentFails) policy
      ∧ Counted t.committed := by
  have hkeyed := (sagaHandlers_append paymentFails).keyed policy event keyed
  rw [h] at hkeyed
  have hkeyed : t.committed.Keyed := hkeyed
  cases dispatchEvent_returned h with
  | @published _ u v call handled row found publishedAt committed =>
      have hspawns := callHandler_spawns call
      rw [clean.2] at hspawns
      rw [committed] at hkeyed ⊢
      have hbase : u.working.Keyed := (keyed_updateOutboxEvent (by intro _; rfl)).mp hkeyed
      refine ⟨debt_published counted mem pending hspawns hbase publishedAt, fun row hrow => ?_⟩
      exact counted row (hspawns.attempts ▸ hrow)
  | @failed e u alive call handled active stamp committed later =>
      have hsame : u.working.outboxEvents = s.committed.outboxEvents
          ∧ u.working.attempts = s.committed.attempts := by
        rw [← clean.2]
        rcases call with call | ⟨⟨b, call⟩, hnone⟩
        · exact callHandler_raised_outbox clean.1 call alive active
        · -- the event cannot be gone
          obtain ⟨⟨new, hnew, -⟩, -⟩ := callHandler_spawns call
          have hmem : event ∈ u.working.outboxEvents := by
            rw [hnew, clean.2]
            exact List.mem_append_left _ mem
          obtain ⟨row, hrow⟩ := findOutboxEvent_of_mem hmem
          rw [hnone] at hrow
          cases hrow
      obtain ⟨hevents, hattempts⟩ := hsame
      have hcounted : Counted u.working := fun row hrow => counted row (hattempts ▸ hrow)
      rw [committed]
      exact ⟨debt_attemptFailed keyed mem pending hevents hattempts _ stamp,
        hcounted.attemptFailed _ stamp⟩

end round

/-! ## §4. Batches. -/

section batch
variable {paymentFails : String → Bool} {policy : RetryPolicy}

/-- The loop of a batch makes one attempt for each event, and pays for it. -/
theorem debt_loop :
    ∀ (events : List OutboxEvent) (s t : Session Database) (u : PUnit),
      s.Clean → s.committed.Keyed → Counted s.committed →
      (∀ row ∈ events, row ∈ s.committed.outboxEvents ∧ row.status = .PENDING) →
      (events.map (·.eventId)).Nodup →
      events.forM (dispatchEvent (sagaHandlers paymentFails) policy) s = .ok u t →
      t.Clean ∧ t.committed.Keyed ∧ Counted t.committed
        ∧ (rounds (sagaHandlers paymentFails) policy events s).length = events.length
        ∧ t.committed.debt (sagaHandlers paymentFails) policy + events.length
            ≤ s.committed.debt (sagaHandlers paymentFails) policy := by
  intro events
  -- over the events of the batch; the rows behind the head are untouched by its round
  induction events with
  | nil =>
      intro s t u clean keyed counted _ _ hloop
      change (pure _ : App PUnit) s = .ok u t at hloop
      rw [pure_apply, EStateM.Result.ok.injEq] at hloop
      obtain ⟨-, rfl⟩ := hloop
      exact ⟨clean, keyed, counted, rfl, Nat.le_refl _⟩
  | cons row events ih =>
      intro s t u clean keyed counted hrows hnodup hloop
      obtain ⟨_, v, hround, hloop⟩ := bind_eq_ok.mp hloop
      rw [List.map_cons, List.nodup_cons] at hnodup
      obtain ⟨mem, pending⟩ := hrows row List.mem_cons_self
      obtain ⟨hpaid, hcounted⟩ := debt_round clean keyed counted mem pending hround
      have hkeyed := (sagaHandlers_append paymentFails).keyed policy row keyed
      have heffect := (sagaHandlers_append paymentFails).round policy row clean
      rw [hround] at hkeyed heffect
      obtain ⟨hclean, hkeyed', hcounted', hlength, hrest⟩ :=
        ih v t u (dispatchEvent_clean hround) hkeyed hcounted
          (fun other hother => by
            obtain ⟨mem', pending'⟩ := hrows other (List.mem_cons_of_mem _ hother)
            exact ⟨heffect.others mem' fun heq => hnodup.1 (heq ▸ List.mem_map_of_mem hother),
              pending'⟩) hnodup.2 hloop
      have hpaid : v.committed.debt (sagaHandlers paymentFails) policy + 1
          ≤ s.committed.debt (sagaHandlers paymentFails) policy := hpaid
      rw [rounds_cons hround, List.length_cons, List.length_cons]
      exact ⟨hclean, hkeyed', hcounted', by omega, by omega⟩

/-- **A batch that returns** counts its attempts, and pays for them. -/
theorem debt_batch {limit n : Nat} {s t : Session Database} (clean : s.Clean)
    (keyed : s.committed.Keyed) (counted : Counted s.committed)
    (h : dispatchPendingBatch (sagaHandlers paymentFails) limit policy s = .ok n t) :
    t.Clean ∧ t.committed.Keyed ∧ Counted t.committed
      ∧ n = (fetchedEvents limit s).length
      ∧ (batchRounds (sagaHandlers paymentFails) policy limit s).length = n
      ∧ t.committed.debt (sagaHandlers paymentFails) policy + n
          ≤ s.committed.debt (sagaHandlers paymentFails) policy := by
  obtain ⟨events, v, hfetch, hrest⟩ := bind_eq_ok.mp h
  obtain ⟨_, w, hloop, hpure⟩ := bind_eq_ok.mp hrest
  rw [pure_apply, EStateM.Result.ok.injEq] at hpure
  obtain ⟨rfl, rfl⟩ := hpure
  unfold batchRounds
  rw [hfetch]
  obtain ⟨rfl, m, rfl⟩ := fetchPending_ok hfetch
  obtain ⟨hclean, hkeyed, hcounted, hlength, hpaid⟩ := debt_loop (fetchedEvents limit s)
    (s.goto s.working m) w _ clean keyed counted
    (fun row mem => clean.2 ▸ mem_pending mem)
    (pending_nodup (clean.2 ▸ keyed.outboxEvents) _ _) hloop
  exact ⟨hclean, hkeyed, hcounted, rfl, hlength, hpaid⟩

end batch

/-! ## §5. `dispatch_until_idle`. -/

/-- The attempts `dispatch_until_idle` makes, with the batches still
allowed. -/
def idleRounds (handlers : HandlerMap) (policy : RetryPolicy) (limit : Nat) :
    Nat → Session Database → List Attempted
  | 0, _ => []
  | maxBatches + 1, s =>
      batchRounds handlers policy limit s ++
        match dispatchPendingBatch handlers limit policy s with
        | .ok n t => if n = 0 then [] else idleRounds handlers policy limit maxBatches t
        | .error _ _ => []

/-- The session of its last poll. -/
def lastPoll (handlers : HandlerMap) (policy : RetryPolicy) (limit : Nat) :
    Nat → Session Database → Session Database
  | 0, s => s
  | maxBatches + 1, s =>
      match dispatchPendingBatch handlers limit policy s with
      | .ok n t => if n = 0 then s else lastPoll handlers policy limit maxBatches t
      | .error _ _ => s

section idle
variable {handlers : HandlerMap} {policy : RetryPolicy} {limit n : Nat} {s t : Session Database}

/-- The first poll that finds nothing is the last one. -/
theorem idle_last (maxBatches dispatchedTotal : Nat)
    (h : dispatchPendingBatch handlers limit policy s = .ok 0 t) :
    idleRounds handlers policy limit (maxBatches + 1) s = batchRounds handlers policy limit s
      ∧ lastPoll handlers policy limit (maxBatches + 1) s = s
      ∧ dispatchLoop handlers limit policy (maxBatches + 1) dispatchedTotal s
          = .ok dispatchedTotal t := by
  unfold idleRounds lastPoll dispatchLoop
  rw [bind_of_ok h, h]
  exact ⟨List.append_nil _, rfl, rfl⟩

/-- After any other the loop goes on. -/
theorem idle_next (maxBatches dispatchedTotal : Nat)
    (h : dispatchPendingBatch handlers limit policy s = .ok n t) (hn : n ≠ 0) :
    idleRounds handlers policy limit (maxBatches + 1) s
        = batchRounds handlers policy limit s ++ idleRounds handlers policy limit maxBatches t
      ∧ lastPoll handlers policy limit (maxBatches + 1) s
        = lastPoll handlers policy limit maxBatches t
      ∧ dispatchLoop handlers limit policy (maxBatches + 1) dispatchedTotal s
        = dispatchLoop handlers limit policy maxBatches (dispatchedTotal + n) t := by
  refine ⟨?_, ?_, ?_⟩
  · simp only [idleRounds, h, if_neg hn]
  · simp only [lastPoll, h, if_neg hn]
  · show (dispatchPendingBatch handlers limit policy >>= _) s = _
    rw [bind_of_ok h, if_neg hn]

end idle

/-- A batch of no events commits nothing. -/
theorem committed_of_batch_zero {handlers : HandlerMap} {policy : RetryPolicy} {limit : Nat}
    {s t : Session Database} (h : dispatchPendingBatch handlers limit policy s = .ok 0 t) :
    fetchedEvents limit s = [] ∧ t.committed = s.committed := by
  obtain ⟨events, v, hfetch, hrest⟩ := bind_eq_ok.mp h
  obtain ⟨_, w, hloop, hpure⟩ := bind_eq_ok.mp hrest
  rw [pure_apply, EStateM.Result.ok.injEq] at hpure
  obtain ⟨hlength, rfl⟩ := hpure
  obtain rfl := List.eq_nil_of_length_eq_zero hlength
  change (pure _ : App PUnit) v = .ok _ w at hloop
  rw [pure_apply, EStateM.Result.ok.injEq] at hloop
  obtain ⟨-, rfl⟩ := hloop
  obtain ⟨hfetched, m, rfl⟩ := fetchPending_ok hfetch
  exact ⟨hfetched.symm, rfl⟩

/-- Nothing is due on a session. -/
def NothingDue (s : Session Database) : Prop :=
  ∀ row ∈ s.committed.outboxEvents, row.isDue (s.world.now s.tick) = false

/-- A poll that fetched nothing found nothing due. -/
theorem nothingDue_of_fetched {limit : Nat} {s : Session Database} (clean : s.Clean)
    (positive : 1 ≤ limit) (h : (fetchedEvents limit s).length = 0) : NothingDue s := by
  intro row mem
  by_contra hdue
  rw [Bool.not_eq_false] at hdue
  have hin : row ∈ (s.working.outboxEvents.filter (·.isDue (s.world.now s.tick))).insertionSort
      OutboxEvent.notAfter := by
    rw [List.mem_insertionSort, List.mem_filter, clean.2]
    exact ⟨mem, hdue⟩
  unfold fetchedEvents Database.pending at h
  rw [List.length_take] at h
  have hlength := List.length_pos_of_mem hin
  omega

/-- **`dispatch_until_idle` returns** the number of its attempts when it may
poll more often than the outbox owes attempts. -/
theorem dispatchLoop_returns {paymentFails : String → Bool} {policy : RetryPolicy} {limit : Nat}
    (positive : 1 ≤ limit) :
    ∀ (maxBatches dispatchedTotal : Nat) (s : Session Database), s.Clean →
      Steady policy (Database.Books []) s →
      s.committed.debt (sagaHandlers paymentFails) policy < maxBatches →
      ∃ t, dispatchLoop (sagaHandlers paymentFails) limit policy maxBatches dispatchedTotal s
          = .ok (dispatchedTotal
              + (idleRounds (sagaHandlers paymentFails) policy limit maxBatches s).length) t
        ∧ NothingDue (lastPoll (sagaHandlers paymentFails) policy limit maxBatches s)
        ∧ t.committed
            = (lastPoll (sagaHandlers paymentFails) policy limit maxBatches s).committed := by
  intro maxBatches
  -- over the polls left, which are more than the debt
  induction maxBatches with
  | zero =>
      intro dispatchedTotal s _ _ hfew
      exact absurd hfew (Nat.not_lt_zero _)
  | succ maxBatches ih =>
      intro dispatchedTotal s clean steady hfew
      have ordinary : (handlersOrDefault (sagaHandlers paymentFails)).Ordinary :=
        sagaHandlers_ordinary paymentFails
      have hlands := meets_dispatchPendingBatch ordinary (sagaHandlers_keepWorld paymentFails)
        limit policy s steady
      cases hrun : dispatchPendingBatch (sagaHandlers paymentFails) limit policy s with
      | error e t =>
          rw [hrun] at hlands
          cases e <;> exact hlands.elim
      | ok n t =>
          rw [hrun] at hlands
          have steady' : Steady policy (Database.Books []) t := hlands
          obtain ⟨hclean, -, -, hn, hlength, hpaid⟩ :=
            debt_batch clean (clean.2 ▸ (admits_iff _).mp steady.1.1.admitted)
              (clean.2 ▸ steady.1.2.counted) hrun
          -- an empty batch ends the loop; any other one paid for its events
          by_cases hzero : n = 0
          · subst hzero
            obtain ⟨hrounds, hlast, hloop⟩ := idle_last maxBatches dispatchedTotal hrun
            obtain ⟨hnone, hcommitted⟩ := committed_of_batch_zero hrun
            rw [hrounds, hlast, hloop, hlength]
            exact ⟨t, rfl, nothingDue_of_fetched clean positive (by rw [hnone]; rfl), hcommitted⟩
          · obtain ⟨hrounds, hlast, hloop⟩ := idle_next maxBatches dispatchedTotal hrun hzero
            obtain ⟨v, hreturned, hdue, hcommitted⟩ := ih (dispatchedTotal + n) t hclean steady'
              (by omega)
            rw [hrounds, hlast, hloop, List.length_append, hlength, ← Nat.add_assoc]
            exact ⟨v, hreturned, hdue, hcommitted⟩

/-! ## §6. All future batches. -/

/-- The attempts of a run of polls, and what the outbox still owes, are no
more than what it owed at first. -/
structure PaidFor (world : World Database) (paymentFails : String → Bool) (policy : RetryPolicy)
    (bound : Nat) (p : Polled) : Prop where
  sound : p.Sound world
  paid : p.attempts.length + p.db.debt (sagaHandlers paymentFails) policy ≤ bound

theorem PaidFor.poll {paymentFails : String → Bool} {policy : RetryPolicy} {bound : Nat}
    {world : World Database} (faultless : world.Dependable fun _ => none)
    (distinct : Function.Injective world.uuid4) (schedulable : policy.Schedulable world)
    {p : Polled} (a : Poll) (h : PaidFor world paymentFails policy bound p) :
    PaidFor world paymentFails policy bound
      (poll world (sagaHandlers paymentFails) policy a p) := by
  have ordinary : (handlersOrDefault (sagaHandlers paymentFails)).Ordinary :=
    sagaHandlers_ordinary paymentFails
  obtain ⟨hreturns, hsound⟩ := h.sound.poll ordinary (sagaHandlers_keepWorld paymentFails)
    faultless distinct schedulable a
  refine ⟨hsound, ?_⟩
  unfold PollReturns at hreturns
  unfold EventCart.poll
  cases hrun : dispatchPendingBatch (sagaHandlers paymentFails) a.limit policy
      (p.session world a) with
  | error e t =>
      rw [hrun] at hreturns
      cases hreturns
  | ok n t =>
      obtain ⟨-, -, -, -, hlength, hpaid⟩ := debt_batch (s := p.session world a)
        (begin_clean _ _ _) h.sound.keyed h.sound.counted hrun
      have hpaid : t.committed.debt (sagaHandlers paymentFails) policy + n
          ≤ p.db.debt (sagaHandlers paymentFails) policy := hpaid
      have hbound := h.paid
      show (p.attempts ++ _).length + t.committed.debt _ _ ≤ bound
      rw [List.length_append, hlength]
      omega

/-- **What a dispatcher with the default handlers does on a database**: all
its batches together make at most five attempts for every attempt the policy
allows and every PENDING event; and `dispatch_until_idle`, allowed more batches
than that, returns the number of attempts it made, its last poll finding
nothing due. -/
def Drains (world : World Database) (policy : RetryPolicy) (tick : Nat) (db : Database) : Prop :=
  (∀ polls, ((run (poll world defaultEventHandlers policy) polls ⟨db, tick, []⟩).attempts.length
      : Int) ≤ 5 * max 1 policy.maxAttempts * db.pendingEvents.length)
    ∧ ∀ limit maxBatches : Nat, 1 ≤ limit →
        5 * max 1 policy.maxAttempts * db.pendingEvents.length < (maxBatches : Int) →
        ∃ t, dispatchUntilIdle defaultEventHandlers limit maxBatches policy
            (Session.begin world tick db)
              = .ok (idleRounds defaultEventHandlers policy limit maxBatches
                  (Session.begin world tick db)).length t
          ∧ NothingDue (lastPoll defaultEventHandlers policy limit maxBatches
              (Session.begin world tick db))
          ∧ t.committed = (lastPoll defaultEventHandlers policy limit maxBatches
              (Session.begin world tick db)).committed

/-- **The dispatcher always drains**, from every state, whatever its PENDING
events and earlier attempts and whatever the clock does, as long as the
database executes every statement and the retries of the policy can be
scheduled. -/
theorem dispatcher_drains {world : World Database} (faultless : world.Dependable fun _ => none)
    (distinct : Function.Injective world.uuid4) {policy : RetryPolicy}
    (schedulable : policy.Schedulable world) {db : Database} {tick : Nat} (keyed : db.Keyed)
    (counted : Counted db) (fresh : ∀ n, tick ≤ n → world.uuid4 n ∉ db.ids) :
    Drains world policy tick db := by
  have hdebt : db.debt (sagaHandlers fun _ => false) policy
      ≤ 5 * policy.budget * db.pendingEvents.length := counted.debt_le
  -- the stated bound, as a natural number
  have hbound : ((5 * policy.budget * db.pendingEvents.length : Nat) : Int)
      = 5 * max 1 policy.maxAttempts * db.pendingEvents.length := by
    rw [← cast_budget]
    push_cast
    rfl
  unfold Drains
  rw [← sagaHandlers_default]
  refine ⟨fun polls => ?_, fun limit maxBatches positive hmany => ?_⟩
  · have hstart : PaidFor world (fun _ => false) policy
        (5 * policy.budget * db.pendingEvents.length) ⟨db, tick, []⟩ :=
      ⟨⟨keyed, counted, fresh⟩, by simpa using hdebt⟩
    have hend : PaidFor world (fun _ => false) policy
        (5 * policy.budget * db.pendingEvents.length)
        (run (poll world (sagaHandlers fun _ => false) policy) polls ⟨db, tick, []⟩) :=
      run_invariant (I := PaidFor world (fun _ => false) policy
        (5 * policy.budget * db.pendingEvents.length))
        (fun _ a h => h.poll faultless distinct schedulable a) polls _ hstart
    rw [← hbound]
    exact Int.ofNat_le.mpr ((Nat.le_add_right _ _).trans hend.paid)
  · obtain ⟨t, hreturned, hdue, hcommitted⟩ := dispatchLoop_returns positive maxBatches 0
      (Session.begin world tick db) (begin_clean _ _ _)
      (steady_begin faultless distinct schedulable keyed counted fresh)
      (by rw [← hbound] at hmany; exact Nat.lt_of_le_of_lt hdebt (Int.ofNat_lt.mp hmany))
    rw [Nat.zero_add] at hreturned
    exact ⟨t, hreturned, hdue, hcommitted⟩

/-- An `InventoryReserved` event of an order nobody placed, in that one day. -/
def strayInOneDay : Session Database :=
  Session.begin oneDay 1 (soleEvent (reservedEvent "id-0" "order-1" 1 250))

/-- Payment, invoice and notification are made; the order is not found, and
that event waits for its retry. -/
theorem dispatcher_drains_stray :
    value? (dispatchUntilIdle defaultEventHandlers 50 16 {} strayInOneDay) = some 4
      ∧ NothingDue (lastPoll defaultEventHandlers {} 50 16 strayInOneDay) := by
  refine ⟨by decide +kernel, ?_⟩
  have hdrains : Drains oneDay {} 1 (soleEvent (reservedEvent "id-0" "order-1" 1 250)) :=
    dispatcher_drains oneDay_faultless calm_distinct (oneDay_schedulable rfl (by decide))
      (keyed_soleEvent _) (fun _ mem => absurd mem List.not_mem_nil)
      (calm_fresh (by decide +kernel))
  obtain ⟨t, -, hdue, -⟩ := hdrains.2 50 16 (by decide) (by decide)
  exact hdue

/-- **Under a delay no `timedelta` can hold nothing drains**: the failure of
an event without a handler is not recorded, and `dispatch_until_idle`
raises. -/
theorem endless_delay_never_drains :
    ¬ ∀ (world : World Database) (policy : RetryPolicy) (tick : Nat) (db : Database),
        world.Dependable (fun _ => none) → Function.Injective world.uuid4 → db.Keyed →
        Counted db → (∀ n, tick ≤ n → world.uuid4 n ∉ db.ids) → Drains world policy tick db := by
  intro h
  obtain ⟨t, hreturned, -, -⟩ := (h oneDay { backoffSeconds := 100000000000000 } 1
    (soleEvent pingEvent) oneDay_faultless calm_distinct (keyed_soleEvent pingEvent)
    (fun _ mem => absurd mem List.not_mem_nil) (calm_fresh (by decide +kernel))).2 50 16
    (by decide) (by decide)
  have hraised : value? (dispatchUntilIdle defaultEventHandlers 50 16
      { backoffSeconds := 100000000000000 } (Session.begin oneDay 1 (soleEvent pingEvent)))
        = none := by decide +kernel
  rw [hreturned] at hraised
  cases hraised

end EventCart
