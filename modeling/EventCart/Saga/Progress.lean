/-
  EventCart.Saga.Progress
  ───────────────────────
  **WHAT A CALL DOES TO EACH ORDER.**

  Every order is in exactly one phase, and a call leaves it there, opens it,
  or takes it one step further (`Progress`).  A step is taken by the delivery
  of the one event the order waits for, so redeliveries, crashes and replays
  take none.
-/
import EventCart.Saga.Reachable

namespace EventCart

open EventCart.Lib

/-! ## §1. The phase of an order. -/

theorem Phase.trail_injective {p q : Phase} (h : p.trail = q.trail) : p = q := by
  cases p <;> cases q <;> first | rfl | simp [Phase.trail] at h

/-- An order is in one phase only. -/
theorem Saga.phase_unique {p q : Phase} {d : Dossier} (hp : Saga p d) (hq : Saga q d) : p = q :=
  Phase.trail_injective (hp.trail_eq.symm.trans hq.trail_eq)

/-- The phase of an order that exists, with its status. -/
theorem SagaInv.phase_of_order {db : Database} (inv : SagaInv db) {order : Order}
    (mem : order ∈ db.orders) :
    ∃ p, Saga p (db.dossier order.id) ∧ p.status = some order.status := by
  obtain ⟨p, h⟩ := inv.dossiers order.id
  have hin : order ∈ (db.dossier order.id).orders := List.mem_filter.mpr ⟨mem, by simp⟩
  refine ⟨p, h, ?_⟩
  have hstatus : order.status ∈ p.status.toList := by
    rw [← h.status_eq]
    exact List.mem_map_of_mem hin
  exact Option.mem_toList.mp hstatus

/-- The call delivers this unprocessed event. -/
structure Delivering (db : Database) (call : Call) (event : OutboxEvent) : Prop where
  called : ∃ policy paymentFails, call = .deliver event.eventId policy paymentFails
  mem : event ∈ db.outboxEvents
  pending : event.status = .PENDING
  fresh : db.consumed event = false

/-- The call delivers this unprocessed `OrderCreated` event. -/
def Reserving (db : Database) (label : Label) (event : OutboxEvent) : Prop :=
  Delivering db label.call event ∧ event.eventType = "OrderCreated"

/-- How far a call can take the order `id`. -/
inductive Progress (call : Call) (db : Database) (id : String) : Phase → Phase → Prop where
  | stay {p : Phase} : Progress call db id p p
  | opened (absent : ∀ order ∈ db.orders, order.id ≠ id) : Progress call db id .absent .placed
  | stepped {event : OutboxEvent} {p p' : Phase} {sign : Int}
      (delivering : Delivering db call event) (aggregate : event.aggregateId = id)
      (waiting : p.waiting = some event.eventType) (step : Phase.Step p sign p')
      (checked : p = .placed →
        db.stocks (linesOf (db.itemsOf id)) = decide (p' = .reserved)) :
      Progress call db id p p'

/-- From phase to phase along one call. -/
def Database.Moves (call : Call) (id : String) (db db' : Database) : Prop :=
  ∃ p p', Saga p (db.dossier id) ∧ Saga p' (db'.dossier id) ∧ Progress call db id p p'

/-! ## §2. The step lemma. -/

theorem Publish.dossier {call : Call} {db db' : Database} (h : Publish call db db')
    (id : String) : db'.dossier id = db.dossier id := by
  cases h with
  | published publishedAt => exact dossier_updateOutboxEvent id db _ (fun _ => rfl)

/-- A dossier that did not change did not move. -/
theorem SagaInv.stays {db db' : Database} (inv : SagaInv db) {id : String}
    (h : db'.dossier id = db.dossier id) (call : Call) : db.Moves call id db' := by
  obtain ⟨p, hp⟩ := inv.dossiers id
  exact ⟨p, p, hp, h ▸ hp, .stay⟩

theorem Advance.moves {call : Call} {db db' : Database} {event : OutboxEvent} (inv : SagaInv db)
    (h : Advance db db' event) (delivering : Delivering db call event) (id : String) :
    db.Moves call id db' := by
  by_cases hid : id = event.aggregateId
  · subst hid
    obtain ⟨p, sign, p', hwaiting, hp, hp', hstep, -, hchecked⟩ := h.step
    exact ⟨p, p', hp, hp', .stepped delivering rfl hwaiting hstep hchecked⟩
  · exact inv.stays (h.others id hid) call

theorem Opened.moves {call : Call} {db db' : Database} {order : Order} (inv : SagaInv db)
    (h : Opened db db' order) (id : String) : db.Moves call id db' := by
  by_cases hid : id = order.id
  · subst hid
    refine ⟨.absent, .placed, ?_, h.saga, .opened h.fresh⟩
    rw [dossier_absent inv.toFiled h.fresh]
    exact .absent
  · exact inv.stays (h.others id hid) call

/-- **The step lemma**: a commit takes every order one step at most. -/
theorem Commit.moves {call : Call} {db db' : Database} (inv : SagaInv db)
    (h : Commit call db db') (id : String) : db.Moves call id db' := by
  cases h with
  | stocked => exact inv.stays rfl call
  | ordered called placed keyed => exact (ordered_opened inv.toFiled placed keyed).moves inv id
  | @handled event envelope consumer policy paymentFails db₁ processedAt called mem pending valid
      routed fresh handled keyed =>
      have hfresh := (consumed_of_routed routed).trans fresh
      exact (handled_advance inv mem valid routed fresh handled keyed).moves inv
        ⟨⟨policy, paymentFails, called⟩, mem, pending, hfresh⟩ id
  | published h => exact inv.stays (h.dossier id) call
  | attempted => exact inv.stays (dossier_attemptFailed ..) call
  | @replayed row newId occurredAt replayedAt called mem once id_ne keyed =>
      obtain ⟨event, hevent, refusal, hdraft⟩ := inv.deadLetters row mem
      have haggregate : event.aggregateId = (row.draft.row newId occurredAt).aggregateId := by
        show event.draft.aggregateId = row.draft.aggregateId
        rw [hdraft]
      have hrefusal : (row.draft.row newId occurredAt).isRefusal = true := by
        rw [← hdraft]
        exact refusal
      by_cases hid : event.aggregateId = id
      · -- one more refusal: the phase stays what it is
        subst hid
        obtain ⟨p, hp⟩ := inv.dossiers event.aggregateId
        refine ⟨p, p, hp, ?_, .stay⟩
        rw [dossier_updateDeadLetter, dossier_addOutboxEvent_refusal haggregate.symm hrefusal]
        exact saga_replayed hp (mem_refusals hevent refusal) id_ne (by rw [← hdraft]; rfl)
      · refine inv.stays ?_ call
        rw [dossier_updateDeadLetter, dossier_addOutboxEvent_ne (by rw [← haggregate]; exact hid)]

theorem Effect.moves {call : Call} {db db' : Database} (inv : SagaInv db)
    (h : Effect call db db') (id : String) : db.Moves call id db' := by
  cases h with
  | idle => exact inv.stays rfl call
  | commit h => exact h.moves inv id
  | publish h₁ h₂ =>
      obtain ⟨p, p', hp, hp', hprogress⟩ := h₁.moves inv id
      exact ⟨p, p', hp, h₂.dossier id ▸ hp', hprogress⟩

/-- **A whole call** takes every order one step at most. -/
theorem step_moves {db : Database} (inv : SagaInv db) (label : Label) (id : String) :
    db.Moves label.call id (step label db) :=
  (step_effect inv.ready label).moves inv id

end EventCart
