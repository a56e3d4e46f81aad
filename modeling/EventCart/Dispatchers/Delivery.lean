/-
  EventCart.Dispatchers.Delivery
  ──────────────────────────────
  **IS AN EVENT SETTLED ONCE?**

  Nothing ties a round to the state of the event in the table: the batch was
  read without a lock, and `mark_published` and `mark_failed` set the status
  whatever it has become.  A dispatcher can therefore settle an event that
  another one has settled the other way.

    • `delivered_once`    — one dead letter per event, none beside an inbox
                            row, and no event leaves PUBLISHED or FAILED, in
                            every run in which nobody commits against what
                            another dispatcher has committed,
    • `dead_letter_twice` — two dispatchers fetch an event that has failed
                            twice, and both give it up.
-/
import EventCart.Dispatchers.System

namespace EventCart

open EventCart.Lib
open EventCart.Lib.Tx

/-! ## §1. Deliveries. -/

/-- An event is given up at most once, and not if it was handled. -/
structure Database.DeliveredOnce (D : Dispatching) (db : Database) : Prop where
  deadLetters : ∀ eventId, (db.deadLetters.filter (·.eventId = eventId)).length ≤ 1
  apart : ∀ event ∈ db.outboxEvents, db.processed (D.consumer event) event.eventId = true →
    ∀ row ∈ db.deadLetters, row.eventId ≠ event.eventId

/-- No event leaves PUBLISHED or FAILED. -/
def Settles (db db' : Database) : Prop :=
  ∀ event ∈ db.outboxEvents, event.status ≠ .PENDING →
    ∃ event' ∈ db'.outboxEvents, event'.eventId = event.eventId ∧ event'.status = event.status

/-- Events that nobody has worked on. -/
structure Undelivered (db : Database) : Prop where
  keyed : (db.outboxEvents.map (·.eventId)).Nodup
  pending : ∀ event ∈ db.outboxEvents, event.status = .PENDING
  deadLetters : db.deadLetters = []
  inboxEvents : db.inboxEvents = []

/-! ## §2. The invariant. -/

/-- A failed event has its dead letter, and no inbox row. -/
structure Delivered (D : Dispatching) (db : Database) : Prop where
  keyed : (db.outboxEvents.map (·.eventId)).Nodup
  failed : ∀ event ∈ db.outboxEvents,
    event.status = .FAILED ↔ ∃ row ∈ db.deadLetters, row.eventId = event.eventId
  owned : ∀ row ∈ db.deadLetters, ∃ event ∈ db.outboxEvents, event.eventId = row.eventId
  once : (db.deadLetters.map (·.eventId)).Nodup
  apart : ∀ event ∈ db.outboxEvents, db.processed (D.consumer event) event.eventId = true →
    event.status ≠ .FAILED

/-- A dispatcher works on events of the table as they were when they were
PENDING. -/
structure Dispatcher.Working (D : Dispatching) (db : Database) (d : Dispatcher) : Prop where
  fetched : ∀ event ∈ d.batch, event.status = .PENDING
    ∧ ∃ row ∈ db.outboxEvents, row.eventId = event.eventId ∧ row.eventType = event.eventType
  handled : ∀ event rest, d = ⟨event :: rest, .handled⟩ →
    db.processed (D.consumer event) event.eventId = true

/-- What holds between the steps. -/
structure DispatchInv (D : Dispatching) {ι : Type} (s : DispatchState ι) : Prop where
  delivered : Delivered D s.db
  working : ∀ i, (s.dispatcher i).Working D s.db

/-- The status of an event in the table. -/
def Database.statusOf (eventId : String) (db : Database) : Option OutboxEventStatus :=
  (db.findOutboxEvent eventId).map (·.status)

section steps
variable {ι : Type}

/-- If the step settles an event, no other dispatcher has settled it
otherwise: a handler commits on an event that is not FAILED, and a dead letter
finds it PENDING, without the inbox row of its consumer. -/
def Dispatching.agrees (D : Dispatching) (s : DispatchState ι) : DispatchStep ι → Bool
  | .insert i _ =>
      match s.dispatcher i with
      | ⟨event :: _, .ran⟩ =>
          s.db.processed (D.consumer event) event.eventId
            || s.db.statusOf event.eventId ≠ some .FAILED
      | _ => true
  | .record i _ =>
      match s.dispatcher i with
      | ⟨event :: _, .numbered _ attemptNumber⟩ =>
          attemptNumber < D.policy.maxAttempts
            || (s.db.statusOf event.eventId = some .PENDING
              && !s.db.processed (D.consumer event) event.eventId)
      | _ => true
  | _ => true

end steps

/-! ## §3. Changes of one event. -/

section changes
variable {D : Dispatching} {db : Database} {row : OutboxEvent}

theorem statusOf_of_mem (keyed : (db.outboxEvents.map (·.eventId)).Nodup)
    (mem : row ∈ db.outboxEvents) : db.statusOf row.eventId = some row.status := by
  unfold Database.statusOf Database.findOutboxEvent
  rw [find_row keyed mem]
  rfl

/-- The row of an event in hand is in the table. -/
theorem Dispatcher.Working.inTable {event : OutboxEvent} {rest : List OutboxEvent}
    {phase : RoundPhase} (h : (⟨event :: rest, phase⟩ : Dispatcher).Working D db) :
    event.status = .PENDING ∧ ∃ row ∈ db.outboxEvents, row.eventId = event.eventId
      ∧ D.consumer row = D.consumer event := by
  obtain ⟨hpending, row, hmem, hid, htype⟩ := h.fetched event List.mem_cons_self
  refine ⟨hpending, row, hmem, hid, ?_⟩
  unfold Dispatching.consumer
  rw [htype]

/-- The outbox after an UPDATE of one row by an object that was loaded. -/
theorem of_mem_changes {loaded object event : OutboxEvent}
    (keyed : (db.outboxEvents.map (·.eventId)).Nodup) (mem : row ∈ db.outboxEvents)
    (h : event ∈ (db.updateOutboxEvent row.eventId (loaded.changes object)).outboxEvents) :
    event = loaded.changes object row ∨ (event ∈ db.outboxEvents ∧ event.eventId ≠ row.eventId) := by
  rcases mem_update.mp h with ⟨other, hother, hid, rfl⟩ | hkept
  · rw [row_unique keyed hother mem hid]
    exact .inl rfl
  · exact .inr hkept

theorem keyed_changes {loaded object : OutboxEvent} (eventId : String)
    (keyed : (db.outboxEvents.map (·.eventId)).Nodup) :
    ((db.updateOutboxEvent eventId (loaded.changes object)).outboxEvents.map (·.eventId)).Nodup := by
  show ((update (·.eventId) eventId (loaded.changes object) db.outboxEvents).map _).Nodup
  rw [map_update_of_eq (fun _ _ => by rfl)]
  exact keyed

/-- Every row of the table keeps its identifier and its type. -/
theorem exists_changes {loaded object event : OutboxEvent} (eventId : String)
    (mem : event ∈ db.outboxEvents) :
    ∃ event' ∈ (db.updateOutboxEvent eventId (loaded.changes object)).outboxEvents,
      event'.eventId = event.eventId ∧ event'.eventType = event.eventType := by
  by_cases h : event.eventId = eventId
  · exact ⟨loaded.changes object event, mem_update.mpr (.inl ⟨event, mem, h, rfl⟩), rfl, rfl⟩
  · exact ⟨event, mem_update.mpr (.inr ⟨mem, h⟩), rfl, rfl⟩

/-- A change that neither fails an event nor takes a failure back. -/
theorem Delivered.remark (h : Delivered D db) (mem : row ∈ db.outboxEvents)
    {loaded object : OutboxEvent}
    (status : (loaded.changes object row).status = .FAILED ↔ row.status = .FAILED) :
    Delivered D (db.updateOutboxEvent row.eventId (loaded.changes object)) where
  keyed := keyed_changes _ h.keyed
  failed event hevent := by
    rcases of_mem_changes h.keyed mem hevent with rfl | ⟨hold, -⟩
    · rw [status]
      exact h.failed row mem
    · exact h.failed event hold
  owned letter hletter := by
    obtain ⟨event, hevent, hid⟩ := h.owned letter hletter
    obtain ⟨event', hevent', hid', -⟩ := exists_changes row.eventId hevent
    exact ⟨event', hevent', hid'.trans hid⟩
  once := h.once
  apart event hevent hprocessed := by
    rcases of_mem_changes h.keyed mem hevent with rfl | ⟨hold, -⟩
    · rw [Ne, status]
      exact h.apart row mem hprocessed
    · exact h.apart event hold hprocessed

/-- A PENDING event without an inbox row is given up. -/
theorem Delivered.giveUp (h : Delivered D db) (mem : row ∈ db.outboxEvents)
    (pending : row.status = .PENDING)
    (unprocessed : db.processed (D.consumer row) row.eventId = false) {loaded object : OutboxEvent}
    (status : (loaded.changes object row).status = .FAILED) {letter : DeadLetterEvent}
    (letter_id : letter.eventId = row.eventId) :
    Delivered D ((db.addDeadLetter letter).updateOutboxEvent row.eventId
      (loaded.changes object)) := by
  -- no letter of this event yet: it would be FAILED
  have hnone : ∀ other ∈ db.deadLetters, other.eventId ≠ row.eventId := by
    intro other hother hid
    have hfailed := (h.failed row mem).mpr ⟨other, hother, hid⟩
    rw [pending] at hfailed
    simp at hfailed
  -- FAILED exactly with a letter; letters have owners; one each; none processed
  refine ⟨keyed_changes _ h.keyed, ?_, ?_, ?_, ?_⟩
  · intro event hevent
    rcases of_mem_changes h.keyed mem hevent with rfl | ⟨hold, hne⟩
    · rw [status]
      exact ⟨fun _ => ⟨letter, List.mem_append_right _ (List.mem_singleton.mpr rfl), letter_id⟩,
        fun _ => rfl⟩
    · rw [h.failed event hold]
      constructor
      · rintro ⟨other, hother, hid⟩
        exact ⟨other, List.mem_append_left _ hother, hid⟩
      · rintro ⟨other, hother, hid⟩
        rcases List.mem_append.mp hother with hother | hother
        · exact ⟨other, hother, hid⟩
        · rw [List.mem_singleton.mp hother, letter_id] at hid
          exact absurd hid.symm hne
  · intro other hother
    obtain ⟨event, hevent, hid⟩ : ∃ event ∈ db.outboxEvents, event.eventId = other.eventId := by
      rcases List.mem_append.mp hother with hother | hother
      · exact h.owned other hother
      · rw [List.mem_singleton.mp hother, letter_id]
        exact ⟨row, mem, rfl⟩
    obtain ⟨event', hevent', hid', -⟩ := exists_changes row.eventId hevent
    exact ⟨event', hevent', hid'.trans hid⟩
  · exact nodup_insert h.once fun other hother heq => hnone other hother (heq.trans letter_id)
  · intro event hevent hprocessed
    rcases of_mem_changes h.keyed mem hevent with rfl | ⟨hold, -⟩
    · have hfalse : db.processed (D.consumer row) row.eventId = true := hprocessed
      rw [unprocessed] at hfalse
      simp at hfalse
    · exact h.apart event hold hprocessed

end changes

/-! ## §4. Every step keeps the invariant. -/

section keeps
variable {D : Dispatching} {db db' : Database}

theorem Settles.refl (db : Database) : Settles db db :=
  fun event mem _ => ⟨event, mem, rfl, rfl⟩

theorem Settles.trans {db₁ db₂ : Database} (h : Settles db db₁) (h' : Settles db₁ db₂) :
    Settles db db₂ := by
  intro event mem settled
  obtain ⟨event₁, mem₁, hid₁, hstatus₁⟩ := h event mem settled
  obtain ⟨event₂, mem₂, hid₂, hstatus₂⟩ := h' event₁ mem₁ (hstatus₁ ▸ settled)
  exact ⟨event₂, mem₂, hid₂.trans hid₁, hstatus₂.trans hstatus₁⟩

/-- A change of one event that leaves a settled status alone. -/
theorem settles_changes {row loaded object : OutboxEvent}
    (same : db'.outboxEvents = db.outboxEvents)
    (keyed : (db'.outboxEvents.map (·.eventId)).Nodup) (mem : row ∈ db'.outboxEvents)
    (status : row.status ≠ .PENDING → (loaded.changes object row).status = row.status) :
    Settles db (db'.updateOutboxEvent row.eventId (loaded.changes object)) := by
  intro event hevent settled
  rw [← same] at hevent
  by_cases hid : event.eventId = row.eventId
  · obtain rfl := row_unique keyed hevent mem hid
    exact ⟨_, mem_update.mpr (.inl ⟨event, mem, rfl, rfl⟩), rfl, status settled⟩
  · exact ⟨event, mem_update.mpr (.inr ⟨hevent, hid⟩), rfl, rfl⟩

/-- Work goes on in tables that have kept their events and inbox rows. -/
theorem Dispatcher.Working.mono {d : Dispatcher} (h : d.Working D db)
    (events : ∀ event ∈ db.outboxEvents, ∃ event' ∈ db'.outboxEvents,
      event'.eventId = event.eventId ∧ event'.eventType = event.eventType)
    (inbox : ∀ consumer eventId, db.processed consumer eventId = true →
      db'.processed consumer eventId = true) : d.Working D db' where
  fetched event hevent := by
    obtain ⟨hpending, row, hmem, hid, htype⟩ := h.fetched event hevent
    obtain ⟨row', hmem', hid', htype'⟩ := events row hmem
    exact ⟨hpending, row', hmem', hid'.trans hid, htype'.trans htype⟩
  handled event rest hd := inbox _ _ (h.handled event rest hd)

/-- The rest of a batch. -/
theorem Dispatcher.Working.tail {event : OutboxEvent} {rest : List OutboxEvent}
    {phase : RoundPhase} (h : (⟨event :: rest, phase⟩ : Dispatcher).Working D db) :
    (⟨rest, .taken⟩ : Dispatcher).Working D db where
  fetched other hother := h.fetched other (List.mem_cons_of_mem _ hother)
  handled other rest' hd := by simp at hd

/-- A turn keeps the work going. -/
theorem DispatchTurn.working {ι : Type} [DecidableEq ι] {s : DispatchState ι} {i : ι} {d : Dispatcher}
    (h : (s.dispatcher i).Working D s.db) (turn : DispatchTurn D s i d) : d.Working D s.db := by
  cases turn with
  | fetched limit readyAt empty =>
      refine ⟨fun event hevent => ?_, fun event rest hd => by simp at hd⟩
      obtain ⟨hmem, hpending⟩ := mem_pending hevent
      exact ⟨hpending, event, hmem, rfl, rfl⟩
  | @goes event rest phase phase' hat unhandled =>
      rw [hat] at h
      refine ⟨h.fetched, fun other rest' hd => ?_⟩
      rw [Dispatcher.mk.injEq] at hd
      exact absurd hd.2 unhandled
  | @skipped event rest phase hat processed =>
      rw [hat] at h
      refine ⟨h.fetched, fun other rest' hd => ?_⟩
      rw [Dispatcher.mk.injEq, List.cons.injEq] at hd
      rw [← hd.1.1]
      exact processed
  | gaveUp => exact ⟨fun event hevent => by simp at hevent, fun event rest hd => by simp at hd⟩

/-- An event comes in. -/
theorem Delivered.emit (h : Delivered D db) {event : OutboxEvent}
    (absent : db.findOutboxEvent event.eventId = none) (pending : event.status = .PENDING) :
    Delivered D (db.addOutboxEvent event) := by
  have hne : ∀ other ∈ db.outboxEvents, other.eventId ≠ event.eventId := by
    intro other hother hid
    have hnot := List.find?_eq_none.mp absent other hother
    simp [hid] at hnot
  have hmem : ∀ other, other ∈ (db.addOutboxEvent event).outboxEvents →
      other ∈ db.outboxEvents ∨ other = event := by
    intro other hother
    rcases List.mem_append.mp hother with hold | hnew
    · exact .inl hold
    · exact .inr (List.mem_singleton.mp hnew)
  -- the letters are those from before, and none of them is of the new event
  refine ⟨?_, ?_, ?_, h.once, ?_⟩
  · exact nodup_insert h.keyed hne
  · intro other hother
    rcases hmem other hother with hold | rfl
    · exact h.failed other hold
    · rw [pending]
      refine ⟨fun hfailed => by simp at hfailed, fun hletter => ?_⟩
      obtain ⟨letter, hletter, hid⟩ := hletter
      obtain ⟨owner, howner, hid'⟩ := h.owned letter hletter
      exact absurd (hid'.trans hid) (hne owner howner)
  · intro letter hletter
    obtain ⟨owner, howner, hid⟩ := h.owned letter hletter
    exact ⟨owner, List.mem_append_left _ howner, hid⟩
  · intro other hother hprocessed
    rcases hmem other hother with hold | rfl
    · exact h.apart other hold hprocessed
    · rw [pending]
      simp

/-- A handler commits its inbox row, on an event that is not FAILED. -/
theorem Delivered.inbox (h : Delivered D db) {row : OutboxEvent} (mem : row ∈ db.outboxEvents)
    (status : row.status ≠ .FAILED) {marker : InboxEvent} (marker_id : marker.eventId = row.eventId) :
    Delivered D (db.addInboxEvent marker) := by
  refine ⟨h.keyed, h.failed, h.owned, h.once, fun event hevent hprocessed => ?_⟩
  have hany : (db.inboxEvents ++ [marker]).any
      (fun r => r.key = (D.consumer event, event.eventId)) = true := hprocessed
  rw [List.any_append, Bool.or_eq_true] at hany
  rcases hany with hold | hnew
  · exact h.apart event hevent hold
  · have hkey : marker.key = (D.consumer event, event.eventId) := by simpa using hnew
    have hid : event.eventId = row.eventId := by
      rw [← marker_id]
      exact (congrArg Prod.snd hkey).symm
    rw [row_unique h.keyed hevent mem hid]
    exact status

/-- A round that failed is recorded: a retry leaves the status as it is, and
the last attempt gives up an event that is PENDING and was not handled. -/
theorem Delivered.recorded (h : Delivered D db) {event row : OutboxEvent}
    (loaded : event.status = .PENDING) (mem : row ∈ db.outboxEvents)
    (id : row.eventId = event.eventId) (error : String) (attemptNumber : Int) (stamp : FailureStamp)
    (agree : attemptNumber < D.policy.maxAttempts ∨ (row.status = .PENDING
      ∧ db.processed (D.consumer row) row.eventId = false)) :
    Delivered D (D.recorded event error attemptNumber stamp db)
      ∧ Settles db (D.recorded event error attemptNumber stamp db) := by
  have hadded : ∀ attempt, Delivered D (db.addAttempt attempt) :=
    fun _ => ⟨h.keyed, h.failed, h.owned, h.once, h.apart⟩
  unfold Dispatching.recorded
  rw [← id]
  by_cases hmax : attemptNumber ≥ D.policy.maxAttempts
  · rw [if_pos hmax]
    obtain ⟨hpending, hunprocessed⟩ := agree.resolve_left (not_lt.mpr hmax)
    have hstatus : (event.changes (event.failed error) row).status = .FAILED := by
      simp [OutboxEvent.changes, OutboxEvent.failed, loaded]
    refine ⟨(hadded _).giveUp mem hpending hunprocessed hstatus id.symm, ?_⟩
    exact settles_changes rfl h.keyed mem fun hsettled => absurd hpending hsettled
  · rw [if_neg hmax]
    have hstatus : ∀ at', (event.changes (event.retried error at') row).status = row.status := by
      intro at'
      simp [OutboxEvent.changes, OutboxEvent.retried, loaded]
    refine ⟨(hadded _).remark mem (by rw [hstatus]), ?_⟩
    exact settles_changes rfl h.keyed mem fun _ => hstatus _

section moves
variable {ι : Type} [DecidableEq ι] {s s' : DispatchState ι} {a : DispatchStep ι}

/-- One dispatcher commits. -/
theorem DispatchInv.commit (h : DispatchInv D s) {i : ι} {d : Dispatcher} {db' : Database}
    (delivered : Delivered D db') (working : d.Working D db')
    (events : ∀ event ∈ s.db.outboxEvents, ∃ event' ∈ db'.outboxEvents,
      event'.eventId = event.eventId ∧ event'.eventType = event.eventType)
    (inbox : ∀ consumer eventId, s.db.processed consumer eventId = true →
      db'.processed consumer eventId = true) : DispatchInv D (s.commit i d db') where
  delivered := delivered
  working j := by
    show (if j = i then d else s.dispatcher j).Working D db'
    by_cases hji : j = i
    · rw [if_pos hji]
      exact working
    · rw [if_neg hji]
      exact (h.working j).mono events inbox

/-- **Every move keeps the invariant, and leaves settled events alone**, if
nobody commits against what is committed. -/
theorem DispatchInv.keep (h : DispatchInv D s) (agree : D.agrees s a = true)
    (m : DispatchMove D a s s') : DispatchInv D s' ∧ Settles s.db s'.db := by
  cases m with
  | @emitted draft eventId occurredAt absent =>
      have hgrown : ∀ event ∈ s.db.outboxEvents,
          ∃ event' ∈ (s.db.addOutboxEvent (draft.row eventId occurredAt)).outboxEvents,
            event'.eventId = event.eventId ∧ event'.eventType = event.eventType :=
        fun event hevent => ⟨event, List.mem_append_left _ hevent, rfl, rfl⟩
      refine ⟨⟨h.delivered.emit absent rfl, fun i => (h.working i).mono hgrown fun _ _ hp => hp⟩, ?_⟩
      exact fun event hevent _ => ⟨event, List.mem_append_left _ hevent, rfl, rfl⟩
  | @turned i d turn =>
      refine ⟨⟨h.delivered, fun j => ?_⟩, Settles.refl _⟩
      show (if j = i then d else s.dispatcher j).Working D s.db
      by_cases hji : j = i
      · rw [if_pos hji]
        exact turn.working (h.working i)
      · rw [if_neg hji]
        exact h.working j
  | @inserted i processedAt event rest label hat absent =>
      have hwork := h.working i
      rw [hat] at hwork
      obtain ⟨-, row, hmem, hid, -⟩ := hwork.inTable
      have habsent : s.db.processed (D.consumer event) row.eventId = false := hid ▸ absent
      have hstatus : row.status ≠ .FAILED := by
        rw [label] at agree
        simp only [Dispatching.agrees, hat, ← hid, habsent, statusOf_of_mem h.delivered.keyed hmem]
          at agree
        simpa using agree
      have hevents : ∀ other ∈ s.db.outboxEvents, ∃ other' ∈ (s.db.addInboxEvent
          ⟨D.consumer event, event.eventId, processedAt⟩).outboxEvents,
            other'.eventId = other.eventId ∧ other'.eventType = other.eventType :=
        fun other hother => ⟨other, hother, rfl, rfl⟩
      have hmarked : ∀ consumer eventId, s.db.processed consumer eventId = true →
          (s.db.addInboxEvent ⟨D.consumer event, event.eventId, processedAt⟩).processed consumer
            eventId = true := by
        intro consumer eventId hp
        show (s.db.inboxEvents ++ _).any _ = true
        rw [List.any_append, Bool.or_eq_true]
        exact .inl hp
      refine ⟨h.commit (h.delivered.inbox hmem hstatus hid.symm)
        ⟨(hwork.mono hevents hmarked).fetched, fun other rest' hd => ?_⟩ hevents hmarked,
        Settles.refl _⟩
      rw [Dispatcher.mk.injEq, List.cons.injEq] at hd
      rw [← hd.1.1]
      show (s.db.inboxEvents ++ _).any _ = true
      rw [List.any_append, Bool.or_eq_true]
      exact .inr (by simp [InboxEvent.key])
  | @published i publishedAt event rest _ hat =>
      have hwork := h.working i
      rw [hat] at hwork
      obtain ⟨hpending, row, hmem, hid, hconsumer⟩ := hwork.inTable
      -- the inbox row of the round is committed
      have hstatus : row.status ≠ .FAILED := by
        apply h.delivered.apart row hmem
        rw [hconsumer, hid]
        exact hwork.handled event rest rfl
      have hset : (event.changes (event.published publishedAt) row).status = .PUBLISHED := by
        simp [OutboxEvent.changes, OutboxEvent.published, hpending]
      have hevents : ∀ other ∈ s.db.outboxEvents, ∃ other' ∈ (s.db.updateOutboxEvent row.eventId
          (event.changes (event.published publishedAt))).outboxEvents,
            other'.eventId = other.eventId ∧ other'.eventType = other.eventType :=
        fun other hother => exists_changes _ hother
      rw [← hid]
      refine ⟨h.commit (h.delivered.remark hmem ?_) (hwork.tail.mono hevents fun _ _ hp => hp) hevents
        fun _ _ hp => hp, settles_changes rfl h.delivered.keyed hmem fun hsettled => ?_⟩
      · rw [hset]
        simp [hstatus]
      · rw [hset]
        cases hrow : row.status with
        | PENDING => exact absurd hrow hsettled
        | PUBLISHED => rfl
        | FAILED => exact absurd hrow hstatus
  | @recorded i stamp event rest error attemptNumber label hat =>
      have hwork := h.working i
      rw [hat] at hwork
      obtain ⟨hpending, row, hmem, hid, hconsumer⟩ := hwork.inTable
      have hagree : attemptNumber < D.policy.maxAttempts ∨ (row.status = .PENDING
          ∧ s.db.processed (D.consumer row) row.eventId = false) := by
        rw [label] at agree
        simp only [Dispatching.agrees, hat, ← hid, ← hconsumer,
          statusOf_of_mem h.delivered.keyed hmem] at agree
        simpa using agree
      obtain ⟨hdelivered, hsettles⟩ :=
        h.delivered.recorded hpending hmem hid error attemptNumber stamp hagree
      have hevents : ∀ other ∈ s.db.outboxEvents,
          ∃ other' ∈ (D.recorded event error attemptNumber stamp s.db).outboxEvents,
            other'.eventId = other.eventId ∧ other'.eventType = other.eventType := by
        intro other hother
        unfold Dispatching.recorded
        split
        · exact exists_changes _ hother
        · exact exists_changes _ hother
      have hinbox : ∀ consumer eventId, s.db.processed consumer eventId = true →
          (D.recorded event error attemptNumber stamp s.db).processed consumer eventId = true := by
        intro consumer eventId hp
        unfold Dispatching.recorded
        split <;> exact hp
      exact ⟨h.commit hdelivered (hwork.tail.mono hevents hinbox) hevents hinbox, hsettles⟩

end moves

end keeps

/-! ## §5. Delivery once. -/

theorem Undelivered.delivered {D : Dispatching} {db : Database} (h : Undelivered db) :
    Delivered D db := by
  refine ⟨h.keyed, fun event hevent => ?_, ?_, ?_, fun event hevent _ => ?_⟩
  · rw [h.pending event hevent, h.deadLetters]
    simp
  · rw [h.deadLetters]
    simp
  · rw [h.deadLetters]
    exact List.nodup_nil
  · rw [h.pending event hevent]
    simp

theorem Delivered.deliveredOnce {D : Dispatching} {db : Database} (h : Delivered D db) :
    db.DeliveredOnce D where
  deadLetters eventId := length_filter_le_one h.once eventId
  apart event hevent hprocessed row hrow hid :=
    h.apart event hevent hprocessed ((h.failed event hevent).mpr ⟨row, hrow, hid⟩)

section runs
variable {ι : Type} [DecidableEq ι]

/-- **Every event is settled once**: any number of dispatchers, any handlers,
any retry policy, any interleaving and any crashes, as long as nobody commits
an outcome against what another dispatcher has committed. -/
theorem delivered_once (D : Dispatching) {db : Database} (start : Undelivered db)
    (earlier later : List (DispatchStep ι))
    (agree : Along D.step (fun s a => D.agrees s a = true) (earlier ++ later)
      (DispatchState.start db)) :
    (run D.step (earlier ++ later) (DispatchState.start db)).db.DeliveredOnce D
      ∧ Settles (run D.step earlier (DispatchState.start db)).db
          (run D.step (earlier ++ later) (DispatchState.start db)).db := by
  have hstart : DispatchInv D (DispatchState.start db : DispatchState ι) :=
    ⟨start.delivered, fun i => ⟨fun event hevent => by simp [DispatchState.start] at hevent,
      fun event rest hd => by simp [DispatchState.start] at hd⟩⟩
  obtain ⟨hearlier, hlater⟩ := (along_append D.step _ earlier later _).mp agree
  have hreached : DispatchInv D (run D.step earlier (DispatchState.start db : DispatchState ι)) :=
    dispatches_keep (fun s s' a h hc m => (h.keep hc m).1) earlier hstart hearlier
  have hkept := dispatches_keep (I := fun s => DispatchInv D s
      ∧ Settles (run D.step earlier (DispatchState.start db : DispatchState ι)).db s.db)
    (fun s s' a h hc m => ⟨(h.1.keep hc m).1, h.2.trans (h.1.keep hc m).2⟩) later
    ⟨hreached, Settles.refl _⟩ hlater
  rw [run_append]
  exact ⟨hkept.1.delivered.deliveredOnce, hkept.2⟩

end runs

/-- An order's event, not yet delivered. -/
def waitingOrder : Database :=
  { Database.empty with
    outboxEvents := [⟨"event-1", "OrderCreated", 1, "Order", "order-1", "correlation-1", none, 0, [],
      .PENDING, none, none, 0, none⟩] }

theorem waitingOrder_undelivered : Undelivered waitingOrder :=
  ⟨by decide +kernel, by decide +kernel, rfl, rfl⟩

/-- The default handlers and the default policy. -/
def defaultDispatching : Dispatching := ⟨defaultEventHandlers, {}⟩

/-- A dispatcher fetches a batch. -/
def fetches (i : Bool) : DispatchStep Bool := .fetch i 50 1000000000

/-- A round in which the handler raises. -/
def fails (i : Bool) (id : String) : List (DispatchStep Bool) :=
  [.look i, .body i (.error (.other "down")), .number i, .record i ⟨id, 0, id, 0⟩]

/-- A round in which the handler returns. -/
def succeeds (i : Bool) : List (DispatchStep Bool) :=
  [.look i, .body i (.ok ()), .insert i 0, .publish i 0]

/-- The event fails twice, and is handled by one of two dispatchers that have
fetched it; the other one finds its inbox row. -/
def handledOnce : List (DispatchStep Bool) :=
  [fetches true] ++ fails true "id-1" ++ [fetches true] ++ fails true "id-2"
    ++ [fetches true, fetches false] ++ succeeds true ++ [.look false, .publish false 0]

/-- The event fails twice, and both dispatchers that have fetched it fail
once more. -/
def givenUpTwice : List (DispatchStep Bool) :=
  [fetches true] ++ fails true "id-1" ++ [fetches true] ++ fails true "id-2"
    ++ [fetches true, fetches false] ++ fails true "id-3" ++ fails false "id-4"

/-- Both dispatchers publish the event. -/
theorem delivered_once_in_turn :
    (run defaultDispatching.step handledOnce (DispatchState.start waitingOrder)).db.statusOf "event-1"
        = some .PUBLISHED
      ∧ (run defaultDispatching.step handledOnce (DispatchState.start waitingOrder)).db.DeliveredOnce
          defaultDispatching := by
  refine ⟨by decide +kernel, ?_⟩
  exact (delivered_once defaultDispatching waitingOrder_undelivered handledOnce []
    (by decide +kernel)).1

/-- **Two dead letters of one event**: the second dispatcher gives up an event
that is FAILED already. -/
theorem dead_letter_twice :
    ¬ ∀ (D : Dispatching) (db : Database), Undelivered db →
        ∀ earlier later : List (DispatchStep Bool),
          (run D.step (earlier ++ later) (DispatchState.start db)).db.DeliveredOnce D
            ∧ Settles (run D.step earlier (DispatchState.start db)).db
                (run D.step (earlier ++ later) (DispatchState.start db)).db := by
  intro h
  have honce := (h defaultDispatching waitingOrder waitingOrder_undelivered givenUpTwice
    []).1.deadLetters "event-1"
  have htwice : ((run defaultDispatching.step (givenUpTwice ++ [])
      (DispatchState.start waitingOrder)).db.deadLetters.filter (·.eventId = "event-1")).length
        = 2 := by
    decide +kernel
  omega

/-- The second dispatcher may also succeed: the event leaves FAILED, with a
dead letter beside its inbox row. -/
example : (run defaultDispatching.step ([fetches true] ++ fails true "id-1" ++ [fetches true]
      ++ fails true "id-2" ++ [fetches true, fetches false] ++ fails true "id-3" ++ succeeds false)
      (DispatchState.start waitingOrder)).db.statusOf "event-1" = some .PUBLISHED := by
  decide +kernel

end EventCart
