/-
  EventCart.Dispatchers.Ordinary
  ──────────────────────────────
  **ORDINARY HANDLERS NEVER STOP A DISPATCHER.**

  When the database executes every statement, `uuid4()` does not repeat
  itself and every retry can be scheduled, all that can stop a batch is a
  handler.  A table is `Ordinary` when its handlers return or raise exceptions
  of their own, on a session that stays healthy; then the record of a failure
  can always be written, every round returns, and so does every batch
  (`ordinary_batch_dispatched`).

    §1  identifiers, and what a step of a handler may change;
    §2  the record of a failure;
    §3  rounds and batches.
-/
import EventCart.Lib.JsonTexts
import EventCart.Lib.Triples
import EventCart.Survival

namespace EventCart

open EventCart.Lib
open EventCart.Lib.Tx

/-! ## §1. Healthy sessions. -/

/-- The primary keys that come from `uuid4()`. -/
def Database.ids (db : Database) : List String :=
  db.orders.map (·.id) ++ db.orderItems.map (·.id) ++ db.inventoryItems.map (·.id)
    ++ db.payments.map (·.id) ++ db.invoices.map (·.id) ++ db.notifications.map (·.id)
    ++ db.outboxEvents.map (·.eventId) ++ db.attempts.map (·.id) ++ db.deadLetters.map (·.id)

theorem mem_ids {db : Database} {id : String} :
    id ∈ db.ids ↔ id ∈ db.orders.map (·.id) ∨ id ∈ db.orderItems.map (·.id)
      ∨ id ∈ db.inventoryItems.map (·.id) ∨ id ∈ db.payments.map (·.id)
      ∨ id ∈ db.invoices.map (·.id) ∨ id ∈ db.notifications.map (·.id)
      ∨ id ∈ db.outboxEvents.map (·.eventId) ∨ id ∈ db.attempts.map (·.id)
      ∨ id ∈ db.deadLetters.map (·.id) := by
  unfold Database.ids
  simp only [List.mem_append, or_assoc]

/-- A healthy session whose rows satisfy `P`. -/
abbrev Sane (P : Database → Prop) : Session Database → Prop := On Database.ids [] P

/-- No attempt has a negative number. -/
def Counted (db : Database) : Prop := ∀ row ∈ db.attempts, 0 ≤ row.attemptNumber

/-- So the next one gets a positive number. -/
theorem Counted.nextAttempt {db : Database} (h : Counted db) (eventId consumerName : String) :
    0 < db.nextAttempt eventId consumerName := by
  unfold Database.nextAttempt Database.latestAttempt
  cases hmax : ((db.attemptsOf eventId consumerName).map (·.attemptNumber)).max? with
  | none => exact (by decide : (0 : Int) < 0 + 1)
  | some n =>
      obtain ⟨row, hrow, hn⟩ := List.mem_map.mp (List.max?_mem hmax)
      have hpos := h row (List.mem_of_mem_filter hrow)
      show 0 < n + 1
      omega

/-- The events of a batch are in the outbox, and no attempt has a negative
number. -/
structure Database.Books (eventIds : List String) (db : Database) : Prop where
  lists : ∀ id ∈ eventIds, id ∈ db.outboxEvents.map (·.eventId)
  counted : Counted db

/-- Every retry the policy allows can be scheduled, whatever the clock
shows. -/
def RetryPolicy.Schedulable (policy : RetryPolicy) (world : World Database) : Prop :=
  ∀ attemptNumber n, 1 ≤ attemptNumber → attemptNumber < policy.maxAttempts →
    policy.Schedules attemptNumber (world.now n)

/-- A healthy session in a world where the policy can be followed. -/
abbrev Steady (policy : RetryPolicy) (P : Database → Prop) (s : Session Database) : Prop :=
  Sane P s ∧ policy.Schedulable s.world

/-- One attempt needs no retry. -/
theorem schedulable_of_last {policy : RetryPolicy} (last : policy.maxAttempts ≤ 1)
    (world : World Database) : policy.Schedulable world :=
  fun _ _ positive hfew => absurd (Int.lt_of_lt_of_le hfew last) (not_lt.mpr positive)

/-- What survives every change that leaves inbox and attempts alone and
removes no event. -/
def Stable (P : Database → Prop) : Prop :=
  ∀ db db' : Database, db'.inboxEvents = db.inboxEvents → db'.attempts = db.attempts →
    db.outboxEvents.map (·.eventId) ⊆ db'.outboxEvents.map (·.eventId) → P db → P db'

theorem stable_books (eventIds : List String) : Stable (Database.Books eventIds) :=
  fun _ _ _ attempts outbox h =>
    ⟨fun id hid => outbox (h.lists id hid), fun row hrow => h.counted row (attempts ▸ hrow)⟩

/-- What one more event leaves as it is. -/
theorem Stable.emits {P : Database → Prop} (stable : Stable P) (db : Database)
    (event : OutboxEvent) (h : P db) : P (db.addOutboxEvent event) :=
  stable db _ rfl rfl (List.map_subset _ (List.subset_append_left _ _)) h

/-- The identifier of a row is none of those in use. -/
theorem ne_of_spare {ρ : Type} {key : ρ → String} {rows : List ρ} {used : List String}
    {id : String} (sub : rows.map key ⊆ used) (spare : id ∉ used) :
    ∀ row ∈ rows, key row ≠ id := by
  intro row hrow heq
  exact spare (heq ▸ sub (List.mem_map_of_mem hrow))

section writes
variable {P : Database → Prop} {E : PyError → Session Database → Prop} {drawn : List String}

/-- A change under drawn identifiers that leaves inbox and attempts alone. -/
theorem meets_change {f : Database → Database} (stable : Stable P)
    (keyed : ∀ db : Database, db.Keyed → (∀ id ∈ drawn, id ∉ db.ids) → (f db).Keyed)
    (inbox : ∀ db, (f db).inboxEvents = db.inboxEvents)
    (attempts : ∀ db, (f db).attempts = db.attempts)
    (outbox : ∀ db, db.outboxEvents.map (·.eventId) ⊆ (f db).outboxEvents.map (·.eventId))
    (ids : ∀ db, ∀ id ∈ (f db).ids, id ∈ db.ids ∨ id ∈ drawn) :
    Meets (On Database.ids drawn P) (write f : App Unit) (fun _ => Sane P) E := by
  apply meets_write
  intro db admitted hP _ spare
  have hkeyed := keyed db ((admits_iff db).mp admitted) spare
  exact ⟨(admits_iff _).mpr hkeyed, stable db (f db) (inbox db) (attempts db) (outbox db) hP, ids db⟩

/-- One more event. -/
theorem meets_addOutboxEvent (emits : ∀ db event, P db → P (db.addOutboxEvent event))
    (draft : EventDraft) (id : String) (occurredAt : DateTime) :
    Meets (On Database.ids [id] P) (write (·.addOutboxEvent (draft.row id occurredAt)) : App Unit)
      (fun _ => Sane P) E := by
  apply meets_write
  intro db admitted hP _ spare
  -- the key is new, `P` survives one more event, and the drawn identifier is the only new one
  refine ⟨(admits_iff _).mpr (keyed_addOutboxEvent ((admits_iff db).mp admitted)
    (ne_of_spare (fun _ hid => mem_ids.mpr ?_) (spare id ?_))), emits db _ hP,
    fun other hother => ?_⟩
  · tauto
  · exact List.mem_singleton.mpr rfl
  · simp only [mem_ids, Database.addOutboxEvent, EventDraft.row, List.map_append,
      List.map_cons, List.map_nil, List.mem_append, List.mem_singleton] at hother ⊢
    tauto

/-- One more row of another table. -/
theorem meets_addRow {f : Database → Database} (stable : Stable P) (id : String)
    (keyed : ∀ db : Database, db.Keyed → id ∉ db.ids → (f db).Keyed)
    (inbox : ∀ db, (f db).inboxEvents = db.inboxEvents)
    (attempts : ∀ db, (f db).attempts = db.attempts)
    (outbox : ∀ db, (f db).outboxEvents = db.outboxEvents)
    (ids : ∀ db, ∀ other ∈ (f db).ids, other ∈ db.ids ∨ other = id) :
    Meets (On Database.ids [id] P) (write f : App Unit) (fun _ => Sane P) E := by
  refine meets_change stable (fun db hkeyed spare => ?_) inbox attempts (fun db => ?_)
    fun db other h => ?_
  · exact keyed db hkeyed (spare id (List.mem_singleton.mpr rfl))
  · rw [outbox]
    exact List.Subset.refl _
  · exact (ids db other h).imp_right List.mem_singleton.mpr

/-- A change of rows that are there. -/
theorem meets_update {f : Database → Database} (stable : Stable P)
    (keyed : ∀ db : Database, db.Keyed → (f db).Keyed)
    (inbox : ∀ db, (f db).inboxEvents = db.inboxEvents)
    (attempts : ∀ db, (f db).attempts = db.attempts)
    (outbox : ∀ db, (f db).outboxEvents.map (·.eventId) = db.outboxEvents.map (·.eventId))
    (ids : ∀ db, (f db).ids = db.ids) :
    Meets (Sane P) (write f : App Unit) (fun _ => Sane P) E := by
  refine meets_change stable (fun db hkeyed _ => keyed db hkeyed) inbox attempts (fun db => ?_)
    fun db other h => ?_
  · rw [outbox]
    exact List.Subset.refl _
  · rw [ids] at h
    exact .inl h

end writes

/-! ## §2. The record of a failure. -/

/-- What a payload says is read without touching the session. -/
theorem meets_read {α : Type} {P : Database → Prop} (x : Except PyError α) :
    Meets (Sane P) (ofExcept x) (fun _ => Sane P) fun _ => Sane P :=
  meets_ofExcept (fun _ _ _ hs => hs) fun _ _ _ hs => hs

section record
variable {eventIds : List String} {E : PyError → Session Database → Prop}

/-- A row of the outbox is found. -/
theorem meets_getEvent {eventId : String} (mem : eventId ∈ eventIds) :
    Meets (Sane (Database.Books eventIds)) (getEvent eventId)
      (fun _ => Sane (Database.Books eventIds)) E := by
  refine (meets_peek _).bind fun found => ?_
  cases found with
  | some event => exact meets_pure _ fun _ hs => hs.imp fun _ h => h.1
  | none =>
      -- the batch is in the outbox
      rintro s ⟨-, books, hnone⟩
      obtain ⟨row, hrow, hid⟩ := List.mem_map.mp (books.lists eventId mem)
      have habsent := List.find?_eq_none.mp hnone.symm row hrow
      rw [hid] at habsent
      simp at habsent

/-- An update of the delivery columns of an event. -/
theorem meets_updateOutboxEvent {P : Database → Prop} (stable : Stable P) (eventId : String)
    {f : OutboxEvent → OutboxEvent} (hf : ∀ event, (f event).eventId = event.eventId) :
    Meets (Sane P) (write (·.updateOutboxEvent eventId f)) (fun _ => Sane P) E := by
  have hids : ∀ db : Database, (db.updateOutboxEvent eventId f).outboxEvents.map (·.eventId)
      = db.outboxEvents.map (·.eventId) := by
    intro db
    unfold Database.updateOutboxEvent
    apply map_update_of_eq
    exact fun row _ => hf row
  refine meets_update stable (fun db keyed => (keyed_updateOutboxEvent hf).mpr keyed)
    (fun _ => rfl) (fun _ => rfl) hids fun db => ?_
  unfold Database.ids
  rw [hids]
  rfl

theorem meets_markPublished {eventId : String} (mem : eventId ∈ eventIds) :
    Meets (Sane (Database.Books eventIds)) (markPublished eventId)
      (fun _ => Sane (Database.Books eventIds)) E :=
  (meets_getEvent mem).bind fun _ => meets_now.bind fun _ =>
    meets_updateOutboxEvent (stable_books eventIds) eventId fun _ => rfl

theorem meets_markFailed {eventId : String} (mem : eventId ∈ eventIds) (error : String) :
    Meets (Sane (Database.Books eventIds)) (markFailed eventId error)
      (fun _ => Sane (Database.Books eventIds)) E :=
  (meets_getEvent mem).bind fun _ =>
    meets_updateOutboxEvent (stable_books eventIds) eventId fun _ => rfl

theorem meets_markRetryableFailure {eventId : String} (mem : eventId ∈ eventIds) (error : String)
    (nextAttemptAt : DateTime) :
    Meets (Sane (Database.Books eventIds)) (markRetryableFailure eventId error nextAttemptAt)
      (fun _ => Sane (Database.Books eventIds)) E :=
  (meets_getEvent mem).bind fun _ =>
    meets_updateOutboxEvent (stable_books eventIds) eventId fun _ => rfl

/-- The attempt goes in: its event is there, and its number is positive. -/
theorem meets_recordFailure {eventId : String} (mem : eventId ∈ eventIds)
    (consumerName error : String) :
    Meets (Sane (Database.Books eventIds)) (recordFailure eventId consumerName error)
      (fun attempt s => Sane (Database.Books eventIds) s ∧ 1 ≤ attempt.attemptNumber) E := by
  have hnumber : Meets (Sane (Database.Books eventIds)) (nextAttemptNumber eventId consumerName)
      (fun number s => Sane (fun db => db.Books eventIds ∧ 1 ≤ number) s) E := by
    refine (meets_query _).bind fun latest => meets_pure _ fun s hs => hs.imp fun db h => ?_
    obtain ⟨books, rfl⟩ := h
    exact ⟨books, books.counted.nextAttempt eventId consumerName⟩
  refine hnumber.bind fun attemptNumber => meets_uuid4.bind fun id => meets_now.bind fun at' =>
    Meets.bind (Q := fun _ => Sane fun db => db.Books eventIds ∧ 1 ≤ attemptNumber) ?_
      fun _ => meets_flush.bind fun _ => meets_pure _ fun s hs =>
        ⟨hs.imp fun _ h => h.1, hs.2.2⟩
  apply meets_write
  rintro db admitted ⟨books, positive⟩ _ spare
  -- the foreign key of the attempt: its event is in the outbox
  obtain ⟨event, hevent, hid⟩ := List.mem_map.mp (books.lists eventId mem)
  have hfresh : id ∉ db.attempts.map (·.id) := fun hmem =>
    spare id (List.mem_singleton.mpr rfl) (mem_ids.mpr (by tauto))
  refine ⟨(admits_iff _).mpr (keyed_addAttempt ((admits_iff db).mp admitted) hfresh
    ⟨event, hevent, hid⟩), ⟨⟨books.lists, fun row hrow => ?_⟩, positive⟩, fun other hother => ?_⟩
  · rcases List.mem_append.mp hrow with hrow | hrow
    · exact books.counted row hrow
    · rw [List.mem_singleton.mp hrow]
      exact Int.le_trans (by decide) positive
  · simp only [mem_ids, Database.addAttempt, List.map_append, List.map_cons, List.map_nil,
      List.mem_append, List.mem_singleton] at hother ⊢
    tauto

theorem meets_moveToDeadLetter (event : OutboxEvent) (consumerName : String)
    (attemptNumber : Int) (error : String) :
    Meets (Sane (Database.Books eventIds)) (moveToDeadLetter event consumerName attemptNumber error)
      (fun _ => Sane (Database.Books eventIds)) E := by
  refine meets_uuid4.bind fun id => meets_now.bind fun failedAt => Meets.bind ?_ fun _ =>
    meets_flush.bind fun _ => meets_pure _ fun _ hs => hs
  apply meets_addRow (stable_books eventIds) id
  · intro db keyed spare
    exact keyed_addDeadLetter keyed fun hmem => spare (mem_ids.mpr (by tauto))
  · exact fun _ => rfl
  · exact fun _ => rfl
  · exact fun _ => rfl
  · intro db other hother
    simp only [mem_ids, Database.addDeadLetter, List.map_append, List.map_cons, List.map_nil,
      List.mem_append, List.mem_singleton] at hother ⊢
    tauto

/-- The time of a retry: some time the clock shows. -/
theorem meets_failedAt {policy : RetryPolicy} {P : Database → Prop} {positive : Prop} :
    Meets (fun s => (Sane P s ∧ positive) ∧ policy.Schedulable s.world) now
      (fun failedAt s => Steady policy P s ∧ positive ∧ ∃ n, failedAt = s.world.now n) E :=
  fun _ ⟨⟨hs, hpositive⟩, hw⟩ => ⟨⟨hs.later (Nat.le_succ _), hw⟩, hpositive, _, rfl⟩

/-- **The `except` block always returns.** -/
theorem meets_recordEventFailure (handlers : HandlerMap) (policy : RetryPolicy)
    {event : OutboxEvent} (mem : event.eventId ∈ eventIds) (error : Failure PyError) :
    Meets (Steady policy (Database.Books eventIds))
      (recordEventFailure handlers policy event error)
      (fun _ => Steady policy (Database.Books eventIds)) fun _ _ => False := by
  have hworld : ∀ {α : Type} {m : App α} {Q : α → Session Database → Prop}
      {P : Session Database → Prop}, Quiet m → Meets P m Q (fun _ _ => False) →
      Meets (fun s => P s ∧ policy.Schedulable s.world) m
        (fun a s => Q a s ∧ policy.Schedulable s.world) fun _ _ => False :=
    fun quiet h => (h.inWorld quiet.keepsWorld).weaken (fun _ hs => hs) (fun _ _ hs => hs)
      fun _ _ hs => hs.1
  refine (hworld (quiet_recordFailure _ _ _) (meets_recordFailure mem _ _)).bind fun attempt => ?_
  -- the last attempt goes to the dead letters, an earlier one waits
  split
  next hlast =>
    refine Meets.pre (P := Steady policy (Database.Books eventIds)) ?_ fun s hs => ⟨hs.1.1, hs.2⟩
    exact (hworld (quiet_moveToDeadLetter _ _ _ _) (meets_moveToDeadLetter event _ _ _)).bind
      fun _ => hworld (quiet_markFailed _ _) (meets_markFailed mem _)
  next hfew =>
    refine meets_failedAt.bind fun failedAt => Meets.bind
      (Q := fun _ => Steady policy (Database.Books eventIds))
      (meets_ofExcept (fun _ _ s hs => hs.1) fun overflow hraised s hs => ?_)
      fun nextAttemptAt => hworld (quiet_markRetryableFailure _ _ _)
        (meets_markRetryableFailure mem _ _)
    -- the retry can be scheduled
    obtain ⟨⟨-, schedulable⟩, positive, n, rfl⟩ := hs
    have hnext := (schedulable _ n positive (not_le.mp hfew)).nextAttemptAt
    rw [hraised] at hnext
    cases hnext

end record

/-! ## §3. Rounds and batches. -/

/-- **Handlers that raise ordinary exceptions only.**  On a healthy session
each returns or raises an exception of its own, and leaves a healthy session:
rows that satisfy the declared keys, with all events still there and no
attempt under a negative number. -/
def HandlerMap.Ordinary (handlers : HandlerMap) : Prop :=
  ∀ eventType registration, handlers.lookup eventType = some registration →
    ∀ envelope eventIds, Meets (Sane (Database.Books eventIds)) (registration.handler envelope)
      (fun _ => Sane (Database.Books eventIds)) fun _ => Sane (Database.Books eventIds)

section rounds
variable {handlers : HandlerMap} {policy : RetryPolicy} {eventIds : List String}

/-- The handler's part of the `try` block. -/
theorem meets_callHandler (ordinary : handlers.Ordinary) (event : OutboxEvent) :
    Meets (Sane (Database.Books eventIds)) (callHandler handlers event)
      (fun _ => Sane (Database.Books eventIds)) fun _ => Sane (Database.Books eventIds) := by
  unfold callHandler
  cases hlookup : handlers.lookup event.eventType with
  | none => exact meets_raise _ fun _ hs => hs
  | some registration =>
      exact (meets_read _).bind fun envelope => ordinary _ _ hlookup envelope eventIds

/-- **A round returns**, whatever its handler does. -/
theorem meets_dispatchEvent (ordinary : handlers.Ordinary) (keepWorld : handlers.KeepWorld)
    (policy : RetryPolicy) {event : OutboxEvent} (mem : event.eventId ∈ eventIds) :
    Meets (Steady policy (Database.Books eventIds)) (dispatchEvent handlers policy event)
      (fun _ => Steady policy (Database.Books eventIds)) fun _ _ => False := by
  have hhandle : Meets (Sane (Database.Books eventIds)) (handleEvent handlers event)
      (fun _ => Sane (Database.Books eventIds)) fun _ => Sane (Database.Books eventIds) := by
    rw [handleEvent_eq]
    exact (meets_callHandler ordinary event).bind fun _ => meets_markPublished mem
  have htry := (hhandle.inWorld (W := policy.Schedulable)
    (keepsWorld_handleEvent keepWorld event)).tryExcept
      fun error => meets_recordEventFailure handlers policy mem (.raised error)
  exact htry.bind fun _ => (meets_commit.inWorld keepsWorld_commit).weaken (fun _ hs => hs)
    (fun _ _ hs => hs) fun _ _ hs => hs.1

/-- What was selected is in the outbox. -/
theorem meets_fetchPending (limit : Nat) :
    Meets (Sane (Database.Books [])) (fetchPending limit)
      (fun events => Sane (Database.Books (events.map (·.eventId)))) fun _ _ => False := by
  refine meets_now.bind fun readyAt => (meets_query _).post fun events s hs => hs.imp ?_
  rintro db ⟨books, rfl⟩
  refine ⟨fun id hid => ?_, books.counted⟩
  obtain ⟨row, hrow, rfl⟩ := List.mem_map.mp hid
  exact List.mem_map_of_mem (mem_pending hrow).1

/-- **A batch returns**: from every healthy session, whatever the events and
their payloads. -/
theorem meets_dispatchPendingBatch (ordinary : (handlersOrDefault handlers).Ordinary)
    (keepWorld : (handlersOrDefault handlers).KeepWorld) (limit : Nat) (policy : RetryPolicy) :
    Meets (Steady policy (Database.Books [])) (dispatchPendingBatch handlers limit policy)
      (fun _ => Steady policy (Database.Books [])) fun _ _ => False := by
  have hfetch := (meets_fetchPending limit).inWorld (W := policy.Schedulable)
    (quiet_fetchPending limit).keepsWorld
  refine Meets.bind (hfetch.weaken (fun _ hs => hs) (fun _ _ hs => hs) fun _ _ hs => hs.1)
    fun events => ?_
  -- no round removes an event, so each finds its own
  have hloop : Meets (Steady policy (Database.Books (events.map (·.eventId))))
      (events.forM (dispatchEvent (handlersOrDefault handlers) policy))
      (fun _ => Steady policy (Database.Books (events.map (·.eventId)))) fun _ _ => False :=
    meets_forM events fun event hevent =>
      meets_dispatchEvent ordinary keepWorld policy (List.mem_map_of_mem hevent)
  exact hloop.bind fun _ => meets_pure _ fun _ hs =>
    ⟨hs.1.imp fun _ h => ⟨fun _ hid => absurd hid List.not_mem_nil, h.counted⟩, hs.2⟩

/-- A handler leaves a session that can be used further. -/
theorem usable_callHandler (ordinary : handlers.Ordinary) (keepWorld : handlers.KeepWorld)
    {s : Session Database} (steady : Steady policy (Database.Books eventIds) s)
    {event : OutboxEvent} (mem : event.eventId ∈ eventIds) :
    Usable handlers policy (fun _ => none) event (callHandler handlers event s) := by
  have hmeets : Meets (Sane (Database.Books eventIds)) (callHandler handlers event)
      (fun _ => Sane (Database.Books eventIds)) fun _ => Sane (Database.Books eventIds) :=
    meets_callHandler ordinary event
  have hlands := hmeets.inWorld (W := policy.Schedulable) (keepsWorld_callHandler keepWorld event)
    s steady
  cases hcall : callHandler handlers event s with
  | ok a u =>
      rw [hcall] at hlands
      obtain ⟨⟨healthy, books⟩, -⟩ : Steady policy (Database.Books eventIds) u := hlands
      exact ⟨healthy.active, rfl, (admits_iff _).mp healthy.admitted,
        findOutboxEvent_isSome.mpr (List.mem_map.mp (books.lists _ mem))⟩
  | error e u =>
      rw [hcall] at hlands
      cases e with
      | raised error =>
          have hu : Steady policy (Database.Books eventIds) u := hlands
          -- the record of the failure was written, so there was room for it
          have hrecord := meets_recordEventFailure handlers policy mem (.raised error) u hu
          cases hrun : recordEventFailure handlers policy event (.raised error) u with
          | ok b v =>
              have hiff := (recordEventFailure_accepted hu.1.1.faultless (fun _ _ _ _ => rfl)
                hu.1.1.active rfl handlers policy event (.raised error)).1
              exact ⟨by simp, hu.1.1.active, rfl, hiff.mp ⟨b, v, hrun⟩⟩
          | error f v =>
              rw [hrun] at hrecord
              cases f <;> exact hrecord.elim
      | database message => exact hlands.elim
      | pendingRollback => exact hlands.elim
      | crash => exact hlands.elim

theorem allUsable_of_steady (ordinary : handlers.Ordinary) (keepWorld : handlers.KeepWorld) :
    ∀ (events : List OutboxEvent) (s : Session Database),
      Steady policy (Database.Books eventIds) s → (∀ event ∈ events, event.eventId ∈ eventIds) →
      AllUsable handlers policy (fun _ => none) events s := by
  intro events
  induction events with
  | nil =>
      intro s _ _
      trivial
  | cons event events ih =>
      intro s steady hmem
      have mem := hmem event List.mem_cons_self
      -- what a round leaves behind is steady again, for the rounds after it
      refine ⟨usable_callHandler ordinary keepWorld steady mem, fun v t hround => ?_⟩
      have hlands := meets_dispatchEvent ordinary keepWorld policy mem s steady
      rw [hround] at hlands
      exact ih t hlands fun other hother => hmem other (List.mem_cons_of_mem _ hother)

/-- **A batch of ordinary handlers gets through**: it reaches its last event
and records every failure. -/
theorem ordinary_batch_dispatched (ordinary : (handlersOrDefault handlers).Ordinary)
    (keepWorld : (handlersOrDefault handlers).KeepWorld) {s : Session Database}
    (clean : s.Clean) (steady : Steady policy (Database.Books []) s) (limit : Nat) :
    BatchDispatched handlers limit policy s := by
  refine (batch_dispatched_of_allUsable limit keepWorld (fun _ _ _ _ => rfl) steady.1.1.faultless
    clean rfl ?_)
  refine allUsable_of_steady ordinary keepWorld (fetchedEvents limit s) (afterFetch s) ⟨⟨?_, ?_⟩, ?_⟩
    fun event hevent =>
      (List.mem_map_of_mem hevent : event.eventId ∈ (fetchedEvents limit s).map (·.eventId))
  · exact steady.1.1.later (Nat.le_add_right _ _)
  · refine ⟨fun id hid => ?_, steady.1.2.counted⟩
    obtain ⟨row, hrow, rfl⟩ := List.mem_map.mp hid
    exact List.mem_map_of_mem (mem_pending hrow).1
  · exact steady.2

end rounds

/-- A session that starts on a sound database, with fresh identifiers to
come. -/
theorem sane_begin {world : World Database} (faultless : world.Dependable fun _ => none)
    (distinct : Function.Injective world.uuid4) {tick : Nat} {db : Database} (keyed : db.Keyed)
    (fresh : ∀ n, tick ≤ n → world.uuid4 n ∉ db.ids) {P : Database → Prop} (h : P db) :
    Sane P (Session.begin world tick db) :=
  ⟨{ active := rfl
     faultless := faultless
     distinct := distinct
     unused := fresh
     undrawn := fun _ _ => List.not_mem_nil
     spare := fun _ hid => absurd hid List.not_mem_nil
     nodup := List.nodup_nil
     admitted := (admits_iff db).mpr keyed }, h⟩

/-- With a policy that can be followed it is steady. -/
theorem steady_begin {world : World Database} (faultless : world.Dependable fun _ => none)
    (distinct : Function.Injective world.uuid4) {policy : RetryPolicy}
    (schedulable : policy.Schedulable world) {tick : Nat} {db : Database} (keyed : db.Keyed)
    (counted : Counted db) (fresh : ∀ n, tick ≤ n → world.uuid4 n ∉ db.ids) :
    Steady policy (Database.Books []) (Session.begin world tick db) :=
  ⟨sane_begin faultless distinct keyed fresh
    ⟨fun _ hid => absurd hid List.not_mem_nil, counted⟩, schedulable⟩

theorem calm_distinct : Function.Injective (World.calm : World Database).uuid4 := by
  intro m n h
  have htext := congrArg String.toList (show "id-" ++ m.repr = "id-" ++ n.repr from h)
  rw [String.toList_append, String.toList_append] at htext
  exact Json.nat_repr_inj (String.toList_injective (List.append_cancel_left htext))

/-- Identifiers a calm world has drawn are not drawn again. -/
theorem calm_fresh {ids : List String} {tick : Nat}
    (drawn : ∀ id ∈ ids, id ∈ (List.range tick).map (World.calm : World Database).uuid4) :
    ∀ n, tick ≤ n → (World.calm : World Database).uuid4 n ∉ ids := by
  intro n hn hmem
  -- an identifier comes from one tick only, and the ticks of `ids` are over
  obtain ⟨m, hm, heq⟩ := List.mem_map.mp (drawn _ hmem)
  have hlt := List.mem_range.mp hm
  obtain rfl := calm_distinct heq
  omega

/-- A calm world whose clock stops after a day. -/
def oneDay : World Database :=
  { (World.calm : World Database) with now := fun n => min n 86400000000 }

theorem oneDay_faultless : oneDay.Dependable fun _ => none := ⟨fun _ _ => rfl⟩

theorem oneDay_ordered : oneDay.Ordered := by
  intro m n h
  show min (m : Int) 86400000000 ≤ min (n : Int) 86400000000
  omega

/-- The default policy can be followed there. -/
theorem oneDay_schedulable {policy : RetryPolicy} (backoff : policy.backoffSeconds = 5)
    (few : policy.maxAttempts ≤ 3) : policy.Schedulable oneDay := by
  intro attemptNumber n positive hfew
  unfold RetryPolicy.Schedules RetryPolicy.delay
  rw [backoff]
  -- at most ten seconds after some time of that day
  have htime : -62135596800000000 ≤ min (n : Int) 86400000000 + 5 * attemptNumber * 1000000
      ∧ min (n : Int) 86400000000 + 5 * attemptNumber * 1000000 ≤ 253402300799999999 := by
    omega
  exact ⟨by omega, htime⟩

end EventCart
