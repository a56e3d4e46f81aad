/-
  EventCart.Dispatchers.Bookkeeping
  ─────────────────────────────────
  **THE BOOKS OF DELIVERY AGREE.**

  A round writes three tables on three branches: the status of the event, an
  attempt for the consumer the failure is put down to, and a dead letter
  after the last attempt.  The consumer changes with the routing table, and
  every batch may come with another one.

    • `Books`              — what the three tables say of one event,
    • `RoundEffect.books`  — a round keeps the books, on each branch,
    • `books_consistent`   — so does every run of batches, and an event that
                             is PUBLISHED or FAILED stays as it is.
-/
import EventCart.Dispatchers.Contract

namespace EventCart

open EventCart.Lib
open EventCart.Lib.Tx

/-! ## §1. The books. -/

/-- `1, …, k`. -/
def oneTo (k : Nat) : List Int := (List.range k).map fun i : Nat => (i : Int) + 1

theorem oneTo_succ (k : Nat) : oneTo (k + 1) = oneTo k ++ [(k : Int) + 1] := by
  unfold oneTo
  rw [List.range_succ, List.map_append]
  rfl

/-- The largest of them is the last. -/
theorem max?_oneTo (k : Nat) : (oneTo k).max?.getD 0 = k := by
  cases k with
  | zero => rfl
  | succ k =>
      have hmax : (oneTo (k + 1)).max? = some ((k : Int) + 1) := by
        rw [List.max?_eq_some_iff]
        refine ⟨by simp [oneTo_succ], fun n mem => ?_⟩
        obtain ⟨i, hi, rfl⟩ := List.mem_map.mp mem
        rw [List.mem_range] at hi
        omega
      rw [hmax]
      simp

/-- The attempts recorded for an event, whoever made them. -/
def Database.attemptsFor (eventId : String) (db : Database) : List EventProcessingAttempt :=
  db.attempts.filter (·.eventId = eventId)

/-- The dead letters of an event. -/
def Database.lettersFor (eventId : String) (db : Database) : List DeadLetterEvent :=
  db.deadLetters.filter (·.eventId = eventId)

theorem attemptsOf_eq (eventId consumerName : String) (db : Database) :
    db.attemptsOf eventId consumerName
      = (db.attemptsFor eventId).filter (·.consumerName = consumerName) := by
  unfold Database.attemptsOf Database.attemptsFor
  rw [List.filter_filter]
  exact List.filter_congr fun row _ => by rw [Bool.and_comm]

/-- What the three tables say of an event. -/
structure Books (db : Database) (event : OutboxEvent) : Prop where
  /-- The counter on the row counts the attempt rows. -/
  counted : event.failureCount = (db.attemptsFor event.eventId).length
  /-- The attempts of each consumer are numbered `1, …, count_failures`. -/
  numbered : ∀ consumerName,
    (db.attemptsOf event.eventId consumerName).map (·.attemptNumber)
      = oneTo (db.attemptsOf event.eventId consumerName).length
  /-- A FAILED event has one dead letter, of its consumer's last attempt. -/
  failed : event.status = .FAILED → ∃ letter, db.lettersFor event.eventId = [letter]
    ∧ ((db.attemptsOf event.eventId letter.consumerName).map (·.attemptNumber)).getLast?
        = some letter.attemptNumber
  /-- Any other event has none. -/
  spared : event.status ≠ .FAILED → db.lettersFor event.eventId = []
  scheduled : event.nextAttemptAt.isSome = true →
    event.status = .PENDING ∧ 0 < event.failureCount
  published : event.status = .PUBLISHED →
    event.publishedAt.isSome = true ∧ event.lastError = none

/-- The books of all events, and no stray rows. -/
structure Consistent (db : Database) : Prop where
  keyed : db.Keyed
  owned : ∀ letter ∈ db.deadLetters, ∃ event ∈ db.outboxEvents, event.eventId = letter.eventId
  books : ∀ event ∈ db.outboxEvents, Books db event

/-- The books of an event depend on its own rows. -/
theorem Books.of_same {db db' : Database} {event : OutboxEvent} (h : Books db event)
    (hattempts : db'.attemptsFor event.eventId = db.attemptsFor event.eventId)
    (hletters : db'.lettersFor event.eventId = db.lettersFor event.eventId) : Books db' event := by
  have hof : ∀ consumerName, db'.attemptsOf event.eventId consumerName
      = db.attemptsOf event.eventId consumerName := by
    intro consumerName
    rw [attemptsOf_eq, attemptsOf_eq, hattempts]
  refine ⟨?_, fun consumerName => ?_, fun hfailed => ?_, fun hspared => ?_, h.scheduled,
    h.published⟩
  · rw [hattempts]
    exact h.counted
  · rw [hof]
    exact h.numbered consumerName
  · obtain ⟨letter, hone, hlast⟩ := h.failed hfailed
    exact ⟨letter, hletters.trans hone, by rw [hof]; exact hlast⟩
  · rw [hletters]
    exact h.spared hspared

/-- An event nobody attempted. -/
theorem OutboxEvent.Fresh.books {db : Database} {event : OutboxEvent} (fresh : event.Fresh)
    (hattempts : db.attemptsFor event.eventId = []) (hletters : db.lettersFor event.eventId = []) :
    Books db event := by
  have hof : ∀ consumerName, db.attemptsOf event.eventId consumerName = [] := by
    intro consumerName
    rw [attemptsOf_eq, hattempts]
    rfl
  refine ⟨?_, fun consumerName => ?_, fun hfailed => ?_, fun _ => hletters, fun hnext => ?_,
    fun hpublished => ?_⟩
  · rw [fresh.failureCount, hattempts]
    rfl
  · rw [hof]
    rfl
  · rw [fresh.status] at hfailed
    cases hfailed
  · rw [fresh.nextAttemptAt] at hnext
    cases hnext
  · rw [fresh.status] at hpublished
    cases hpublished

/-! ## §2. What a handler leaves. -/

/-- The attempts of an event are the handler's to read only. -/
theorem Appends.attemptsFor {db base : Database} (left : Appends db base) (eventId : String) :
    base.attemptsFor eventId = db.attemptsFor eventId := by
  unfold Database.attemptsFor
  rw [left.attempts]

/-- So are its dead letters. -/
theorem Appends.lettersFor {db base : Database} (left : Appends db base) (eventId : String) :
    base.lettersFor eventId = db.lettersFor eventId := by
  unfold Database.lettersFor
  rw [left.deadLetters]

/-- Inserted events have no attempts and no dead letters yet. -/
theorem Appends.consistent {db base : Database} (h : Appends db base) (keyed : base.Keyed)
    (c : Consistent db) : Consistent base := by
  obtain ⟨new, hnew, fresh⟩ := h.outboxEvents
  have hids : ((db.outboxEvents ++ new).map (·.eventId)).Nodup := hnew ▸ keyed.outboxEvents
  have hapart := apart_of_nodup hids
  refine ⟨keyed, fun letter mem => ?_, fun event mem => ?_⟩
  · obtain ⟨event, hevent, hid⟩ := c.owned letter (h.deadLetters ▸ mem)
    exact ⟨event, hnew ▸ List.mem_append_left _ hevent, hid⟩
  · rw [hnew] at mem
    rcases List.mem_append.mp mem with mem | mem
    · exact (c.books event mem).of_same (h.attemptsFor _) (h.lettersFor _)
    · refine (fresh event mem).books ?_ ?_
      · rw [h.attemptsFor]
        refine List.filter_eq_nil_iff.mpr fun row hrow hid => ?_
        obtain ⟨old, hold, heq⟩ := c.keyed.attemptsEvents row hrow
        exact hapart old hold event mem (heq.trans (of_decide_eq_true hid))
      · rw [h.lettersFor]
        refine List.filter_eq_nil_iff.mpr fun row hrow hid => ?_
        obtain ⟨old, hold, heq⟩ := c.owned row hrow
        exact hapart old hold event mem (heq.trans (of_decide_eq_true hid))

/-! ## §3. What a round writes. -/

/-- A row is rewritten, with what its books then say. -/
theorem Consistent.update {db : Database} (c : Consistent db) {event : OutboxEvent}
    (mem : event ∈ db.outboxEvents) {f : OutboxEvent → OutboxEvent}
    (hf : ∀ row, (f row).eventId = row.eventId)
    {attempts : List EventProcessingAttempt} {letters : List DeadLetterEvent}
    (hattempts : ∀ row ∈ attempts, row.eventId = event.eventId)
    (hletters : ∀ letter ∈ letters, letter.eventId = event.eventId) {db' : Database}
    (hdb' : db' = { db with
      outboxEvents := Lib.update (·.eventId) event.eventId f db.outboxEvents
      attempts := db.attempts ++ attempts
      deadLetters := db.deadLetters ++ letters })
    (keyed : db'.Keyed) (books : Books db' (f event)) : Consistent db' := by
  have hexists : ∀ id, (∃ row ∈ db.outboxEvents, row.eventId = id) →
      ∃ row ∈ db'.outboxEvents, row.eventId = id := by
    rintro _ ⟨row, hrow, rfl⟩
    rw [hdb']
    by_cases hid : row.eventId = event.eventId
    · exact ⟨f row, mem_update.mpr (.inl ⟨row, hrow, hid, rfl⟩), hf row⟩
    · exact ⟨row, mem_update.mpr (.inr ⟨hrow, hid⟩), rfl⟩
  refine ⟨keyed, fun letter hletter => ?_, fun row hrow => ?_⟩
  · rw [hdb'] at hletter
    rcases List.mem_append.mp hletter with hletter | hletter
    · exact hexists _ (c.owned letter hletter)
    · exact hexists _ ⟨event, mem, (hletters letter hletter).symm⟩
  · have hrow' : row ∈ Lib.update (·.eventId) event.eventId f db.outboxEvents := by
      rw [hdb'] at hrow
      exact hrow
    rcases mem_update.mp hrow' with ⟨old, hold, hid, rfl⟩ | ⟨hrow, hid⟩
    · rw [row_unique c.keyed.outboxEvents hold mem hid]
      exact books
    · -- the rows of another event are the same
      have hnone : attempts.filter (·.eventId = row.eventId) = [] :=
        List.filter_eq_nil_iff.mpr fun attempt hattempt heq =>
          hid ((of_decide_eq_true heq).symm.trans (hattempts attempt hattempt))
      have hnone' : letters.filter (·.eventId = row.eventId) = [] :=
        List.filter_eq_nil_iff.mpr fun letter hletter heq =>
          hid ((of_decide_eq_true heq).symm.trans (hletters letter hletter))
      refine (c.books row hrow).of_same ?_ ?_
      · rw [hdb']
        show (db.attempts ++ attempts).filter _ = _
        rw [List.filter_append, hnone, List.append_nil]
        rfl
      · rw [hdb']
        show (db.deadLetters ++ letters).filter _ = _
        rw [List.filter_append, hnone', List.append_nil]
        rfl

/-- A published event keeps its counters and attempts. -/
theorem Books.published_row {db : Database} {event : OutboxEvent} (h : Books db event)
    (pending : event.status = .PENDING) (publishedAt : DateTime) :
    Books db (event.published publishedAt) where
  counted := h.counted
  numbered := h.numbered
  failed hfailed := by simp [OutboxEvent.published] at hfailed
  spared _ := h.spared (by rw [pending]; decide)
  scheduled hnext := by simp [OutboxEvent.published] at hnext
  published _ := ⟨rfl, rfl⟩

section attempt
variable {db db' : Database} {event : OutboxEvent} {row : EventProcessingAttempt}

/-- One more attempt of an event. -/
theorem attemptsFor_append (hrow : row.eventId = event.eventId)
    (hattempts : db'.attempts = db.attempts ++ [row]) :
    db'.attemptsFor event.eventId = db.attemptsFor event.eventId ++ [row] := by
  unfold Database.attemptsFor
  rw [hattempts, List.filter_append, List.filter_singleton, hrow]
  simp

/-- The next attempt of a consumer gets the next number. -/
theorem nextAttempt_of_numbered {eventId consumerName : String} {k : Nat}
    (h : (db.attemptsOf eventId consumerName).map (·.attemptNumber) = oneTo k) :
    db.nextAttempt eventId consumerName = (k : Int) + 1 := by
  unfold Database.nextAttempt Database.latestAttempt
  rw [h, max?_oneTo]

/-- It is numbered after the last one of its consumer. -/
theorem numbered_append (hrow : row.eventId = event.eventId)
    (hnumber : row.attemptNumber = db.nextAttempt event.eventId row.consumerName)
    (hattempts : db'.attempts = db.attempts ++ [row]) {k : Nat}
    (hnumbers : (db.attemptsOf event.eventId row.consumerName).map (·.attemptNumber) = oneTo k) :
    (db'.attemptsOf event.eventId row.consumerName).map (·.attemptNumber) = oneTo (k + 1) := by
  rw [nextAttempt_of_numbered hnumbers] at hnumber
  rw [attemptsOf_eq, attemptsFor_append hrow hattempts, List.filter_append, ← attemptsOf_eq,
    List.filter_singleton, decide_eq_true rfl]
  show ((db.attemptsOf event.eventId row.consumerName) ++ [row]).map (·.attemptNumber) = _
  rw [List.map_append, hnumbers, List.map_singleton, oneTo_succ, hnumber]

/-- The attempts of another consumer stay as they are. -/
theorem attemptsOf_append_other (hrow : row.eventId = event.eventId)
    (hattempts : db'.attempts = db.attempts ++ [row]) {consumerName : String}
    (hname : row.consumerName ≠ consumerName) :
    db'.attemptsOf event.eventId consumerName = db.attemptsOf event.eventId consumerName := by
  rw [attemptsOf_eq, attemptsFor_append hrow hattempts, List.filter_append, ← attemptsOf_eq,
    List.filter_singleton, decide_eq_false hname]
  exact List.append_nil _

theorem length_oneTo (k : Nat) : (oneTo k).length = k := by
  unfold oneTo
  rw [List.length_map, List.length_range]

theorem Books.numbered_append (h : Books db event) (hrow : row.eventId = event.eventId)
    (hnumber : row.attemptNumber = db.nextAttempt event.eventId row.consumerName)
    (hattempts : db'.attempts = db.attempts ++ [row]) (consumerName : String) :
    (db'.attemptsOf event.eventId consumerName).map (·.attemptNumber)
      = oneTo (db'.attemptsOf event.eventId consumerName).length := by
  have hnumbers := h.numbered consumerName
  by_cases hname : row.consumerName = consumerName
  · subst hname
    have hnext := EventCart.numbered_append hrow hnumber hattempts hnumbers
    have hlength := congrArg List.length hnext
    rw [List.length_map, length_oneTo] at hlength
    rw [hnext, hlength]
  · rw [attemptsOf_append_other hrow hattempts hname]
    exact hnumbers

/-- The last attempt of its consumer is the new one. -/
theorem getLast?_attemptsOf (hrow : row.eventId = event.eventId)
    (hattempts : db'.attempts = db.attempts ++ [row]) :
    ((db'.attemptsOf event.eventId row.consumerName).map (·.attemptNumber)).getLast?
      = some row.attemptNumber := by
  rw [attemptsOf_eq, attemptsFor_append hrow hattempts, List.filter_append, List.filter_singleton]
  simp

end attempt

/-- **A recorded failure keeps the books**, on either branch. -/
theorem Consistent.attemptFailed {db : Database} (c : Consistent db) {event : OutboxEvent}
    (mem : event ∈ db.outboxEvents) (pending : event.status = .PENDING) {handlers : HandlerMap}
    {policy : RetryPolicy} {error : String} {stamp : FailureStamp}
    (keyed : (db.attemptFailed handlers policy event error stamp).Keyed) :
    Consistent (db.attemptFailed handlers policy event error stamp) := by
  have books := c.books event mem
  have hspared := books.spared (by rw [pending]; decide)
  have hcounted : ∀ db' : Database,
      db'.attempts = db.attempts ++ [db.failureAttempt handlers event error stamp] →
        event.failureCount + 1 = (db'.attemptsFor event.eventId).length := by
    intro db' hattempts
    have happend : db'.attemptsFor event.eventId
        = db.attemptsFor event.eventId ++ [db.failureAttempt handlers event error stamp] :=
      attemptsFor_append rfl hattempts
    rw [happend, List.length_append, books.counted]
    simp
  by_cases hlast : db.failureNumber handlers event ≥ policy.maxAttempts
  · -- the last attempt: the event is FAILED, with a dead letter
    have hdb : db.attemptFailed handlers policy event error stamp = { db with
        outboxEvents := Lib.update (·.eventId) event.eventId (·.failed error) db.outboxEvents
        attempts := db.attempts ++ [db.failureAttempt handlers event error stamp]
        deadLetters := db.deadLetters ++ [event.deadLetter stamp.deadLetterId
          (consumerNameForFailure event.eventType handlers) (db.failureNumber handlers event)
          error stamp.failedAt] } := by
      unfold Database.attemptFailed
      rw [if_pos hlast]
      rfl
    refine c.update mem (by intro _; rfl) ?_ ?_ hdb keyed ?_
    · intro row hrow
      rw [List.mem_singleton.mp hrow]
      rfl
    · intro letter hletter
      rw [List.mem_singleton.mp hletter]
      rfl
    rw [hdb]
    have hnumber : ∀ db' : Database,
        db'.attempts = db.attempts ++ [db.failureAttempt handlers event error stamp] →
          ((db'.attemptsOf event.eventId (db.failureAttempt handlers event error stamp).consumerName).map
            (·.attemptNumber)).getLast? = some (db.failureAttempt handlers event error stamp).attemptNumber :=
      fun db' hattempts => getLast?_attemptsOf rfl hattempts
    refine ⟨hcounted _ rfl, books.numbered_append rfl rfl rfl, fun _ => ?_, fun hne => ?_,
      fun hnext => ?_, fun hpublished => ?_⟩
    · refine ⟨event.deadLetter stamp.deadLetterId (consumerNameForFailure event.eventType handlers)
        (db.failureNumber handlers event) error stamp.failedAt, ?_, hnumber _ rfl⟩
      show (db.deadLetters ++ [_]).filter _ = _
      rw [List.filter_append, List.filter_singleton]
      show db.lettersFor event.eventId ++ _ = _
      rw [hspared]
      simp [OutboxEvent.failed, OutboxEvent.deadLetter]
    · exact absurd rfl hne
    · simp [OutboxEvent.failed] at hnext
    · simp [OutboxEvent.failed] at hpublished
  · -- a retry: the event stays PENDING
    have hdb : db.attemptFailed handlers policy event error stamp = { db with
        outboxEvents := Lib.update (·.eventId) event.eventId (·.retried error (stamp.failedAt
          + policy.delay (db.failureNumber handlers event))) db.outboxEvents
        attempts := db.attempts ++ [db.failureAttempt handlers event error stamp]
        deadLetters := db.deadLetters ++ [] } := by
      unfold Database.attemptFailed
      rw [if_neg hlast, List.append_nil]
      rfl
    refine c.update mem (by intro _; rfl) ?_ (fun letter hletter => ?_) hdb keyed ?_
    · intro row hrow
      rw [List.mem_singleton.mp hrow]
      rfl
    · exact absurd hletter List.not_mem_nil
    rw [hdb]
    refine ⟨hcounted _ rfl, books.numbered_append rfl rfl rfl, fun hfailed => ?_, fun _ => ?_,
      fun _ => ⟨rfl, ?_⟩, fun hpublished => ?_⟩
    · simp [OutboxEvent.retried] at hfailed
    · show (db.deadLetters ++ []).filter _ = []
      rw [List.append_nil]
      exact hspared
    · show 0 < event.failureCount + 1
      rw [books.counted]
      omega
    · simp [OutboxEvent.retried] at hpublished

/-- Rows that can be flushed after a failure was recorded could be flushed
before. -/
theorem keyed_of_attemptFailed {db : Database} {handlers : HandlerMap} {policy : RetryPolicy}
    {event : OutboxEvent} {error : String} {stamp : FailureStamp}
    (h : (db.attemptFailed handlers policy event error stamp).Keyed) : db.Keyed :=
  (keyed_attemptFailed_iff.mp h).1

section round
variable {handlers : HandlerMap} {policy : RetryPolicy} {event : OutboxEvent} {db db' : Database}

/-- Events a handler found are still there. -/
theorem Appends.mem {base : Database} (h : Appends db base) {row : OutboxEvent}
    (mem : row ∈ db.outboxEvents) : row ∈ base.outboxEvents := by
  obtain ⟨new, hnew, -⟩ := h.outboxEvents
  rw [hnew]
  exact List.mem_append_left _ mem

/-- **A round keeps the books.** -/
theorem RoundEffect.consistent (h : RoundEffect Appends handlers policy event db db')
    (c : Consistent db) (keyed : db'.Keyed) (mem : event ∈ db.outboxEvents)
    (pending : event.status = .PENDING) : Consistent db' := by
  cases h with
  | stopped left => exact left.consistent keyed c
  | @published base left row found publishedAt hkeyed =>
      have hbase : base.Keyed := (keyed_updateOutboxEvent (by intro _; rfl)).mp hkeyed
      have cbase := left.consistent hbase c
      have hdb : base.updateOutboxEvent event.eventId (·.published publishedAt) = { base with
          outboxEvents := Lib.update (·.eventId) event.eventId (·.published publishedAt)
            base.outboxEvents
          attempts := base.attempts ++ []
          deadLetters := base.deadLetters ++ [] } := by
        rw [List.append_nil, List.append_nil]
        rfl
      have books : Books base (event.published publishedAt) :=
        (cbase.books event (left.mem mem)).published_row pending publishedAt
      exact cbase.update (left.mem mem) (by intro _; rfl)
        (fun _ h => absurd h List.not_mem_nil) (fun _ h => absurd h List.not_mem_nil) hdb keyed
        (books.of_same rfl rfl)
  | failed left error stamp hkeyed =>
      exact (left.consistent (keyed_of_attemptFailed hkeyed) c).attemptFailed (left.mem mem)
        pending hkeyed

/-- It leaves the other events as they are. -/
theorem RoundEffect.others (h : RoundEffect Appends handlers policy event db db')
    {row : OutboxEvent} (mem : row ∈ db.outboxEvents) (hne : row.eventId ≠ event.eventId) :
    row ∈ db'.outboxEvents := by
  cases h with
  | stopped left => exact left.mem mem
  | published left found publishedAt keyed => exact mem_update.mpr (.inr ⟨left.mem mem, hne⟩)
  | failed left error stamp keyed => exact mem_attemptFailed (left.mem mem) hne

end round

/-! ## §4. Batches. -/

/-- An event that is PUBLISHED or FAILED stays as it is. -/
def StaysSettled (db db' : Database) : Prop :=
  ∀ event ∈ db.outboxEvents, event.status ≠ .PENDING → event ∈ db'.outboxEvents

/-- What holds of the tables and the events of a batch that still wait for
their round. -/
structure Waiting (db : Database) (rest : List OutboxEvent) (db' : Database) : Prop where
  consistent : Consistent db'
  settles : StaysSettled db db'
  rows : ∀ event ∈ rest, event ∈ db'.outboxEvents ∧ event.status = .PENDING
  distinct : (rest.map (·.eventId)).Nodup

/-- One round of a batch. -/
theorem Waiting.round {db db' db'' : Database} {handlers : HandlerMap} {policy : RetryPolicy}
    {event : OutboxEvent} {rest : List OutboxEvent} (h : Waiting db (event :: rest) db')
    (effect : RoundEffect Appends handlers policy event db' db'') (keyed : db''.Keyed) :
    Waiting db rest db'' := by
  obtain ⟨mem, pending⟩ := h.rows event List.mem_cons_self
  have hdistinct := h.distinct
  rw [List.map_cons, List.nodup_cons] at hdistinct
  refine ⟨effect.consistent h.consistent keyed mem pending, fun row hrow hstatus => ?_,
    fun row hrow => ?_, hdistinct.2⟩
  · have hrow' := h.settles row hrow hstatus
    refine effect.others hrow' fun hid => hstatus ?_
    rw [row_unique h.consistent.keyed.outboxEvents hrow' mem hid]
    exact pending
  · obtain ⟨hmem, hpending⟩ := h.rows row (List.mem_cons_of_mem _ hrow)
    exact ⟨effect.others hmem fun hid => hdistinct.1 (hid ▸ List.mem_map_of_mem hrow), hpending⟩

/-- A call of `dispatch_pending_batch`, with a routing table of its own. -/
structure DispatchCall where
  world : World Database
  tick : Nat
  handlers : HandlerMap
  nonempty : handlers ≠ []
  append : handlers.Append
  limit : Nat
  policy : RetryPolicy

/-- The committed tables after a call. -/
def batchStep (a : DispatchCall) (db : Database) : Database :=
  transact (dispatchPendingBatch a.handlers a.limit a.policy) a.world a.tick db

/-- **A batch keeps the books**, wherever it stops. -/
theorem batchStep_consistent (a : DispatchCall) {db : Database} (c : Consistent db) :
    Consistent (batchStep a db) ∧ StaysSettled db (batchStep a db) := by
  have hstill : Consistent db ∧ StaysSettled db db := ⟨c, fun _ mem _ => mem⟩
  have huses : handlersOrDefault a.handlers = a.handlers := by
    unfold handlersOrDefault
    rw [if_neg fun hempty => a.nonempty (List.isEmpty_iff.mp hempty)]
  show Consistent (after (dispatchPendingBatch a.handlers a.limit a.policy
    (Session.begin a.world a.tick db))).committed ∧ StaysSettled db (after _).committed
  unfold dispatchPendingBatch
  rw [huses]
  rcases fetchPending_bind a.limit (fun events =>
    events.forM (dispatchEvent a.handlers a.policy) >>= fun _ => (pure events.length : App Nat))
      (Session.begin a.world a.tick db) with ⟨e, t, hbatch, hcommitted⟩ | ⟨n, hbatch⟩
  · have hcommitted : t.committed = db := hcommitted
    rw [hbatch, after_error, hcommitted]
    exact hstill
  · rw [hbatch, after_bind_pure]
    have hstart : Waiting db (fetchedEvents a.limit (Session.begin a.world a.tick db)) db :=
      ⟨c, hstill.2, fun _ mem => mem_pending mem, pending_nodup c.keyed.outboxEvents _ _⟩
    exact forM_keeps_rest (P := Waiting db) (Q := fun db' => Consistent db' ∧ StaysSettled db db')
      (fun event s u t h => dispatchEvent_clean h)
      (fun _ h => ⟨h.consistent, h.settles⟩)
      (fun event rest s hs h => by
        have hnext := h.round (a.append.round a.policy event hs)
          (a.append.keyed a.policy event h.consistent.keyed)
        refine ⟨⟨hnext.consistent, hnext.settles⟩, fun u t hround => ?_⟩
        rw [hround] at hnext
        exact hnext)
      _ _ (begin_clean a.world n db) hstart

/-- Outbox events nobody has dispatched yet. -/
structure Undispatched (db : Database) : Prop where
  keyed : db.Keyed
  fresh : ∀ event ∈ db.outboxEvents, event.Fresh
  attempts : db.attempts = []
  deadLetters : db.deadLetters = []

theorem Undispatched.consistent {db : Database} (h : Undispatched db) : Consistent db := by
  refine ⟨h.keyed, fun letter mem => ?_, fun event mem => (h.fresh event mem).books ?_ ?_⟩
  · rw [h.deadLetters] at mem
    exact absurd mem List.not_mem_nil
  · unfold Database.attemptsFor
    rw [h.attempts]
    rfl
  · unfold Database.lettersFor
    rw [h.deadLetters]
    rfl

/-- **The books of delivery agree** after every run of batches, each with its
own routing table, handlers, policy, size and clock, and wherever it stopped;
what is PUBLISHED or FAILED then stays so in every longer run. -/
theorem books_consistent {db : Database} (start : Undispatched db) (calls more : List DispatchCall) :
    Consistent (run batchStep calls db)
      ∧ StaysSettled (run batchStep calls db) (run batchStep (calls ++ more) db) := by
  have hcalls : Consistent (run batchStep calls db) :=
    run_invariant (I := Consistent) (fun _ a c => (batchStep_consistent a c).1) calls db
      start.consistent
  have hmore : Consistent (run batchStep more (run batchStep calls db))
      ∧ StaysSettled (run batchStep calls db) (run batchStep more (run batchStep calls db)) :=
    run_invariant (I := fun db' => Consistent db' ∧ StaysSettled (run batchStep calls db) db')
      (fun db' a h => by
        obtain ⟨hconsistent, hsettles⟩ := batchStep_consistent a h.1
        exact ⟨hconsistent, fun event mem status => hsettles event (h.2 event mem status) status⟩)
      more _ ⟨hcalls, fun _ mem _ => mem⟩
  rw [run_append]
  exact ⟨hcalls, hmore.2⟩

/-- A table that routes one type of event, to a handler that does nothing. -/
def pingHandlers : HandlerMap := [("Ping", ⟨"ping-worker", fun _ => pure ()⟩)]

theorem pingHandlers_append : pingHandlers.Append := by
  have hpure : ∀ eventType registration, pingHandlers.lookup eventType = some registration →
      registration.handler = fun _ => pure () := by
    intro eventType registration h
    have mem := mem_of_lookup h
    rw [pingHandlers, List.mem_singleton, Prod.mk.injEq] at mem
    rw [mem.2]
  refine ⟨fun eventType registration h envelope => ?_, fun eventType registration h envelope => ?_⟩
  · rw [hpure eventType registration h]
    exact within_pure appends_frame ()
  · rw [hpure eventType registration h]
    exact (quiet_pure ()).commitsAdmitted

/-- A batch without an entry for the event, and a later one by the default
table. -/
def mixedCalls : List DispatchCall :=
  [⟨World.calm, 0, pingHandlers, List.cons_ne_nil _ _, pingHandlers_append, 50, {}⟩,
   ⟨World.calm, 10000000, sagaHandlers fun _ => false, List.cons_ne_nil _ _,
    sagaHandlers_append _, 50, {}⟩]

/-- One failed attempt under the name of the dispatcher, then the payment. -/
theorem books_consistent_mixed :
    ((run batchStep mixedCalls (soleEvent (reservedEvent "event-1" "order-1" 1 250))).outboxEvents.map
        fun event => (event.eventType, event.status, event.failureCount))
      = [("InventoryReserved", .PUBLISHED, 1), ("PaymentAuthorized", .PENDING, 0)]
      ∧ Consistent (run batchStep mixedCalls
          (soleEvent (reservedEvent "event-1" "order-1" 1 250))) :=
  ⟨by decide +kernel, (books_consistent
    ⟨keyed_soleEvent _, fun _ mem => List.mem_singleton.mp mem ▸ fresh_row _ _ _, rfl, rfl⟩
    mixedCalls []).1⟩

end EventCart
