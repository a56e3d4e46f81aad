/-
  EventCart.Saga.Deliveries
  ─────────────────────────
  **DELIVERIES, WITH THE PAYMENT OUTCOME CHOSEN ORDER BY ORDER.**

  A run of deliveries is a list of `DeliverCall`s: which event the dispatcher
  takes next, under which policy, in which world.  Whether an order's payment
  fails is chosen once for the order, so it does not depend on the event the
  outcome is asked for, nor on when it is asked (`deliverNext_chosen`).
-/
import EventCart.Dispatchers.Contract
import EventCart.Saga.Completion

namespace EventCart

open EventCart.Lib
open EventCart.Lib.Tx

/-! ## §1. Deliveries. -/

/-- The delivery of one event, and everything outside it. -/
structure DeliverCall where
  world : World Database
  tick : Nat
  eventId : String
  policy : RetryPolicy

/-- The outcome chosen for the order of an event. -/
def Database.paymentFails (fails : String → Bool) (db : Database) (eventId : String) : Bool :=
  (db.findOutboxEvent eventId).any fun event => fails event.aggregateId

/-- The call on the default handlers. -/
def DeliverCall.label (fails : String → Bool) (call : DeliverCall) (db : Database) : Label :=
  ⟨call.world, call.tick, .deliver call.eventId call.policy (db.paymentFails fails)⟩

/-- The committed database after a delivery. -/
def deliverNext (fails : String → Bool) (call : DeliverCall) (db : Database) : Database :=
  step (call.label fails db) db

/-- The committed database after deliveries, one after another. -/
abbrev deliverAll (fails : String → Bool) (calls : List DeliverCall) (db : Database) : Database :=
  run (deliverNext fails) calls db

/-- No event is PENDING. -/
def Database.Idle (db : Database) : Prop :=
  ∀ event ∈ db.outboxEvents, event.status ≠ .PENDING

instance (db : Database) : Decidable db.Idle :=
  inferInstanceAs (Decidable (∀ event ∈ db.outboxEvents, _))

/-- An event of the outbox gets the outcome of its order. -/
theorem paymentFails_of_mem {fails : String → Bool} {db : Database} (keyed : db.Keyed)
    {event : OutboxEvent} (mem : event ∈ db.outboxEvents) :
    db.paymentFails fails event.eventId = fails event.aggregateId := by
  have hfind : db.findOutboxEvent event.eventId = some event := find_row keyed.outboxEvents mem
  unfold Database.paymentFails
  rw [hfind]
  rfl

/-! ## §2. What a delivery charges. -/

/-- Payments may be added: for this order, and with this outcome. -/
def Charges (orderId : String) (status : PaymentStatus) (db db' : Database) : Prop :=
  ∀ payment ∈ db'.payments,
    payment ∈ db.payments ∨ payment.orderId = orderId ∧ payment.status = status

section charges
variable {orderId : String} {status : PaymentStatus}

theorem charges_frame : Frame (Charges orderId status) where
  refl _ _ mem := .inl mem
  trans h₁ h₂ payment mem := (h₂ payment mem).elim (h₁ payment) .inr

/-- Writes to the other tables. -/
theorem charges_of_eq {db db' : Database} (h : db'.payments = db.payments) :
    Charges orderId status db db' :=
  fun _ mem => .inl (h ▸ mem)

theorem charges_addPayment (db : Database) {payment : Payment} (horder : payment.orderId = orderId)
    (hstatus : payment.status = status) : Charges orderId status db (db.addPayment payment) := by
  intro other mem
  rcases List.mem_append.mp mem with mem | mem
  · exact .inl mem
  · rw [List.mem_singleton.mp mem]
    exact .inr ⟨horder, hstatus⟩

/-- **The payment worker charges as the payload asks**, wherever it stops. -/
theorem charges_authorizePayment {event : EventEnvelope}
    (order : strItem event.payload "order_id" = .ok orderId) :
    Within (Charges orderId (paymentStatus event.payload)) (authorizePayment event) := by
  have F : Frame (Charges orderId (paymentStatus event.payload)) := charges_frame
  rw [authorizePayment_eq, ofExcept_bind_ok order]
  refine ((within_uuid4 F).bind F fun _ => (within_now F).bind F fun _ =>
    (within_write fun db => charges_addPayment db rfl rfl).bind F fun _ =>
      (within_flush F).bind F fun _ => within_pure F _).bind F fun payment => ?_
  have hemit := emit_within F fun _ _ _ => charges_of_eq rfl
  split
  · exact hemit _
  · exact hemit _

end charges

theorem payments_attemptFailed (handlers : HandlerMap) (policy : RetryPolicy)
    (event : OutboxEvent) (error : String) (stamp : FailureStamp) (db : Database) :
    (db.attemptFailed handlers policy event error stamp).payments = db.payments := by
  obtain ⟨_, _, _, h⟩ := attemptFailed_delivery handlers policy event error stamp db
  rw [h]

/-- The dispatcher's own writes charge nobody. -/
theorem RoundEffect.charges {orderId : String} {status : PaymentStatus} {handlers : HandlerMap}
    {policy : RetryPolicy} {event : OutboxEvent} {db db' : Database}
    (h : RoundEffect (Charges orderId status) handlers policy event db db') :
    Charges orderId status db db' := by
  cases h with
  | stopped left => exact left
  | published left found publishedAt keyed => exact left
  | failed left error stamp keyed =>
      exact charges_frame.trans left (charges_of_eq (payments_attemptFailed ..))

/-- The payload with the outcome asks for the outcome. -/
theorem paymentStatus_decidePayment (paymentFails : String → Bool) (event : EventEnvelope) :
    paymentStatus (decidePayment paymentFails event).payload
      = if paymentFails event.eventId then .FAILED else paymentStatus event.payload := by
  unfold decidePayment
  split
  · exact paymentStatus_of_true (Dict.get?_set_self _ _ _)
  · rfl

/-- **A round on an `InventoryReserved` event** charges its order with the
outcome decided for the event. -/
theorem dispatchEvent_charges (paymentFails : String → Bool) {event : OutboxEvent}
    {envelope : EventEnvelope} {orderId : String} {s : Session Database} (hs : s.Clean)
    (type : event.eventType = "InventoryReserved")
    (valid : envelopeFromOutboxEvent event = .ok envelope)
    (order : strItem envelope.payload "order_id" = .ok orderId) (policy : RetryPolicy) :
    Charges orderId (paymentStatus (decidePayment paymentFails envelope).payload) s.committed
      (after (dispatchEvent (sagaHandlers paymentFails) policy event s)).committed := by
  have F : Frame (Charges orderId (paymentStatus (decidePayment paymentFails envelope).payload)) :=
    charges_frame
  have hlookup : (sagaHandlers paymentFails).lookup event.eventType
      = some ⟨"payment-worker", fun event =>
          discard handleInventoryReserved (decidePayment paymentFails event)⟩ := by
    rw [type]
    rfl
  apply RoundEffect.charges
  refine dispatchEvent_effect (callHandler_within F hs ?_) policy
  intro registration hregistration envelope' valid'
  obtain rfl : envelope = envelope' := Except.ok.inj (valid.symm.trans valid')
  obtain rfl := Option.some.inj (hlookup.symm.trans hregistration)
  refine (handleOnce_within F (fun _ _ => charges_of_eq rfl) ?_ PAYMENT_CONSUMER_NAME).of_clean F hs
  apply charges_authorizePayment
  rw [decidePayment_order]
  exact order

/-! ## §3. The chosen outcomes. -/

/-- Does the payment fail, in this phase? -/
def Phase.declines : Phase → Option Bool
  | .authorized | .invoiced | .notified | .completed => some false
  | .declined | .released | .cancelled => some true
  | .absent | .placed | .refused | .reserved => none

/-- Every order that was charged got the outcome chosen for it. -/
def Database.Chosen (fails : String → Bool) (db : Database) : Prop :=
  ∀ id p, Saga p (db.dossier id) → ∀ b, p.declines = some b → b = fails id

/-- The step on which the outcome is decided; no other step changes it. -/
theorem Phase.Step.declines {p p' : Phase} {sign : Int} (h : Phase.Step p sign p') {b : Bool}
    (hb : p'.declines = some b) : p = .reserved ∨ p.declines = some b := by
  cases h with
  | authorize | decline => exact .inl rfl
  | reserve | refuse => exact nomatch hb
  | invoice | notify | complete | release | cancel => exact .inr hb

/-- What the outcome says of the payment. -/
theorem Saga.payment_of_declines {p : Phase} {d : Dossier} (h : Saga p d) {b : Bool}
    (hb : p.declines = some b) :
    ∃ payment ∈ d.payments, payment.status = if b then .FAILED else .AUTHORIZED := by
  induction h with
  | absent | placed | refused | reserved => exact nomatch hb
  | authorized _ _ status =>
      obtain rfl := Option.some.inj hb
      exact ⟨_, List.mem_singleton.mpr rfl, status⟩
  | declined _ _ status =>
      obtain rfl := Option.some.inj hb
      exact ⟨_, List.mem_singleton.mpr rfl, status⟩
  | invoiced _ _ _ _ _ ih => exact ih hb
  | notified _ _ _ _ _ ih => exact ih hb
  | completed _ ih => exact ih hb
  | released _ _ ih => exact ih hb
  | cancelled _ ih => exact ih hb

/-- **A delivery charges an order as chosen for it.** -/
theorem deliverNext_charges {fails : String → Bool} {call : DeliverCall} {db : Database}
    (inv : SagaInv db) {event : OutboxEvent}
    (delivering : Delivering db (call.label fails db).call event)
    (type : event.eventType = "InventoryReserved") :
    Charges event.aggregateId (if fails event.aggregateId then .FAILED else .AUTHORIZED) db
      (deliverNext fails call db) := by
  obtain ⟨⟨policy, paymentFails, called⟩, mem, pending, fresh⟩ := delivering
  obtain ⟨heventId, -, -⟩ := Call.deliver.inj called
  obtain ⟨envelope, valid⟩ := inv.ready.valid event mem
  obtain ⟨-, hid, -, hpayload⟩ := envelope_eventType valid
  have routed : consumer? event.eventType = some PAYMENT_CONSUMER_NAME := by
    rw [type]
    rfl
  have unprocessed : db.processed PAYMENT_CONSUMER_NAME event.eventId = false :=
    (consumed_of_routed routed).symm.trans fresh
  -- the payload is the one the reservation wrote: it names the order and asks for no failure
  obtain ⟨p, hsaga, hwaiting, hfront⟩ := inv.waiting mem routed unprocessed
  obtain rfl : p = .reserved := Phase.eq_of_waiting hwaiting (by rw [type]; rfl)
  obtain ⟨order, items, e₀, hd, -, hwritten⟩ := hsaga.reserved_inv hfront
  have hpay : envelope.payload = reservedPayload order items := hpayload.trans hwritten
  have horder : order.id = event.aggregateId := order_id_eq hd
  have hread : strItem envelope.payload "order_id" = .ok event.aggregateId := by
    rw [← horder]
    exact strItem_of_get? (by rw [hpay]; rfl)
  have hstatus : paymentStatus (decidePayment (db.paymentFails fails) envelope).payload
      = if fails event.aggregateId then .FAILED else .AUTHORIZED := by
    rw [paymentStatus_decidePayment, hid, paymentFails_of_mem inv.keyed mem, hpay]
    rfl
  have hfind : db.findOutboxEvent call.eventId = some event := by
    rw [heventId]
    exact find_row inv.keyed.outboxEvents mem
  have hround := dispatchEvent_charges (db.paymentFails fails)
    (begin_clean call.world call.tick db) type valid hread call.policy
  rw [hstatus] at hround
  have hstep : deliverNext fails call db
      = (after (dispatchEvent (sagaHandlers (db.paymentFails fails)) call.policy event
          (Session.begin call.world call.tick db))).committed := by
    show (after (deliver call.eventId call.policy (db.paymentFails fails)
      (Session.begin call.world call.tick db))).committed = _
    rw [deliver_of_find (s := Session.begin call.world call.tick db) hfind, if_pos pending]
  rw [hstep]
  exact hround

/-- **The step lemma**: a delivery keeps the chosen outcomes. -/
theorem deliverNext_chosen {fails : String → Bool} {db : Database} (inv : SagaInv db)
    (h : db.Chosen fails) (call : DeliverCall) : (deliverNext fails call db).Chosen fails := by
  intro id q hq b hb
  obtain ⟨p, p', hp, hp', hprogress⟩ := step_moves inv (call.label fails db) id
  obtain rfl : p' = q := hp'.phase_unique hq
  cases hprogress with
  | stay => exact h id _ hp b hb
  | opened => exact nomatch hb
  | @stepped event _ _ sign delivering aggregate waiting hstep checked =>
      rcases hstep.declines hb with rfl | hsame
      · -- the order was charged just now, and before that it had no payment
        have type : event.eventType = "InventoryReserved" := (Option.some.inj waiting).symm
        obtain ⟨payment, mem, hstatus⟩ := hq.payment_of_declines hb
        obtain ⟨hmem, hid⟩ := List.mem_filter.mp mem
        have hcharged := deliverNext_charges inv delivering type payment hmem
        rw [aggregate] at hcharged
        rcases hcharged with hold | ⟨-, hchosen⟩
        · obtain ⟨e, hfront, -⟩ := hp.mem_of_waiting waiting
          obtain ⟨order, items, e₀, hd, -⟩ := hp.reserved_inv hfront
          have hin : payment ∈ (db.dossier id).payments := List.mem_filter.mpr ⟨hold, hid⟩
          rw [hd] at hin
          cases hin
        · rw [hstatus] at hchosen
          cases b <;> cases hf : fails id <;> simp [hf] at hchosen ⊢
      · exact h id _ hp b hsame

end EventCart
