/-
  EventCart.Workers.BillingEffects
  ────────────────────────────────
  **WHAT THE PAYMENT, INVOICE, NOTIFICATION AND PROJECTION WORKERS WRITE**,
  on every payload.

  Each body has the same three facts: what it wrote when it returned, what
  was wrong with the payload when it raised (and that nothing was touched
  then), and that it commits nothing itself.
-/
import EventCart.Effects
import EventCart.Workers.Billing

namespace EventCart

open EventCart.Lib
open EventCart.Lib.Tx

/-! ## §1. The payment worker. -/

/-- The event a payment emits, by its outcome. -/
def paymentDraft (event : EventEnvelope) (orderId : String) (payment : Payment) : EventDraft :=
  match payment.status with
  | .FAILED =>
      buildResultEvent event "PaymentFailed" orderId
        [("order_id", .str orderId), ("payment_id", .str payment.id),
          ("amount_cents", .int payment.amountCents), ("reason", .str simulatedFailure),
          ("items", event.payload.getD "items" (.arr []))]
  | .AUTHORIZED =>
      buildResultEvent event "PaymentAuthorized" orderId
        [("order_id", .str orderId), ("payment_id", .str payment.id),
          ("amount_cents", .int payment.amountCents)]

/-- The reason stored with a payment. -/
def PaymentStatus.failureReason : PaymentStatus → Option String
  | .FAILED => some simulatedFailure
  | .AUTHORIZED => none

/-- The outcome the payload asks for. -/
def paymentStatus (payload : Dict) : PaymentStatus :=
  match payload.get? "payment_should_fail" with
  | some (.bool true) => .FAILED
  | _ => .AUTHORIZED

theorem paymentStatus_of_true {payload : Dict}
    (h : payload.get? "payment_should_fail" = some (.bool true)) :
    paymentStatus payload = .FAILED := by
  unfold paymentStatus
  rw [h]

theorem paymentStatus_of_ne {payload : Dict}
    (h : payload.get? "payment_should_fail" = some (.bool true) → False) :
    paymentStatus payload = .AUTHORIZED := by
  unfold paymentStatus
  split
  next ht => exact (h ht).elim
  next => rfl

theorem addPayment_ok {orderId : String} {status : PaymentStatus} {amount : Int}
    {reason : Option String} {s t : Session Database} {payment : Payment}
    (h : addPayment orderId status amount reason s = .ok payment t) :
    ∃ id createdAt n, payment = ⟨id, orderId, status, amount, reason, createdAt⟩
      ∧ t = s.goto (s.working.addPayment payment) n := by
  unfold addPayment at h
  rw [bind_of_ok (uuid4_apply _), bind_of_ok (now_apply _), bind_of_ok (write_apply _ _)] at h
  obtain ⟨_, w, hw, h⟩ := bind_eq_ok.mp h
  obtain ⟨-, n, rfl⟩ := flush_keyed hw
  simp only [pure_apply, EStateM.Result.ok.injEq] at h
  obtain ⟨rfl, rfl⟩ := h
  exact ⟨_, _, n, rfl, rfl⟩

/-- The two branches of `_authorize_payment` differ in the outcome alone. -/
theorem authorizePayment_eq (event : EventEnvelope) :
    authorizePayment event = (do
      let orderId ← ofExcept (strItem event.payload "order_id")
      let payment ← addPayment orderId (paymentStatus event.payload)
        (amountCents event.payload) (paymentStatus event.payload).failureReason
      match paymentStatus event.payload with
      | .FAILED =>
          emit (buildResultEvent event "PaymentFailed" orderId
            [("order_id", .str orderId), ("payment_id", .str payment.id),
              ("amount_cents", .int (amountCents event.payload)),
              ("reason", .str simulatedFailure),
              ("items", event.payload.getD "items" (.arr []))])
      | .AUTHORIZED =>
          emit (buildResultEvent event "PaymentAuthorized" orderId
            [("order_id", .str orderId), ("payment_id", .str payment.id),
              ("amount_cents", .int (amountCents event.payload))])) := by
  unfold authorizePayment
  congr 1
  funext orderId
  split
  next h =>
    rw [paymentStatus_of_true h]
    rfl
  next h =>
    rw [paymentStatus_of_ne h]
    rfl

/-- **A returned payment** is one row with the amount of the payload's lines,
and the event that tells its outcome. -/
theorem authorizePayment_ok {event : EventEnvelope} {s t : Session Database}
    {new : OutboxEvent} (h : authorizePayment event s = .ok new t) :
    ∃ orderId payment, strItem event.payload "order_id" = .ok orderId
      ∧ (∃ id createdAt, payment = ⟨id, orderId, paymentStatus event.payload,
          amountCents event.payload, (paymentStatus event.payload).failureReason, createdAt⟩)
      ∧ ∃ id occurredAt n, id ≠ ""
        ∧ new = (paymentDraft event orderId payment).row id occurredAt
        ∧ t = s.goto ((s.working.addPayment payment).addOutboxEvent new) n := by
  rw [authorizePayment_eq] at h
  obtain ⟨orderId, horder, h⟩ := ofExcept_bind_eq_ok.mp h
  obtain ⟨payment, u, hu, h⟩ := bind_eq_ok.mp h
  obtain ⟨id, at', n, rfl, rfl⟩ := addPayment_ok hu
  refine ⟨orderId, _, horder, ⟨id, at', rfl⟩, ?_⟩
  cases hp : paymentStatus event.payload with
  | FAILED =>
      rw [hp] at h
      obtain ⟨eid, eat, m, hid, hnew, -, ht⟩ := emit_ok h
      exact ⟨eid, eat, m, hid, hnew, ht⟩
  | AUTHORIZED =>
      rw [hp] at h
      obtain ⟨eid, eat, m, hid, hnew, -, ht⟩ := emit_ok h
      exact ⟨eid, eat, m, hid, hnew, ht⟩

theorem noRaise_addPayment (orderId : String) (status : PaymentStatus) (amount : Int)
    (reason : Option String) : NoRaise (addPayment orderId status amount reason) :=
  noRaise_uuid4.bind fun _ => noRaise_now.bind fun _ => (noRaise_write _).bind fun _ =>
    noRaise_flush.bind fun _ => noRaise_pure _

theorem authorizePayment_raised {event : EventEnvelope} {s t : Session Database}
    {error : PyError} (h : authorizePayment event s = .error (.raised error) t) :
    t = s ∧ strItem event.payload "order_id" = .error error := by
  rw [authorizePayment_eq] at h
  rcases ofExcept_bind_eq_raised.mp h with ⟨horder, rfl⟩ | ⟨orderId, -, h⟩
  · exact ⟨rfl, horder⟩
  refine absurd h (NoRaise.bind (noRaise_addPayment _ _ _ _) (fun payment => ?_) _ _ _)
  cases paymentStatus event.payload with
  | FAILED => exact noRaise_emit _
  | AUTHORIZED => exact noRaise_emit _

theorem quiet_authorizePayment (event : EventEnvelope) : Quiet (authorizePayment event) := by
  rw [authorizePayment_eq]
  refine (quiet_ofExcept _).bind fun _ => (quiet_uuid4.bind fun _ => quiet_now.bind fun _ =>
    (quiet_write _).bind fun _ => quiet_flush.bind fun _ => quiet_pure _).bind fun payment => ?_
  cases paymentStatus event.payload with
  | FAILED => exact quiet_emit _
  | AUTHORIZED => exact quiet_emit _

theorem tidy_authorizePayment (event : EventEnvelope) : Tidy (authorizePayment event) := by
  rw [authorizePayment_eq]
  refine (tidy_ofExcept _).bind fun _ => (tidy_uuid4.bind fun _ => tidy_now.bind fun _ =>
    (tidy_write _).bind fun _ => tidy_flush.bind fun _ => tidy_pure _).bind fun payment => ?_
  cases paymentStatus event.payload with
  | FAILED => exact tidy_emit _
  | AUTHORIZED => exact tidy_emit _

/-! ## §2. The invoice worker. -/

/-- The event an invoice emits; `amount` is the payload value it was read
from. -/
def invoiceDraft (event : EventEnvelope) (invoice : Invoice) (amount : Json) : EventDraft :=
  buildResultEvent event "InvoiceCreated" invoice.orderId
    [("order_id", .str invoice.orderId), ("payment_id", .str invoice.paymentId),
      ("invoice_id", .str invoice.id), ("amount_cents", amount)]

/-- **A returned invoice** is one row that copies order, payment and amount
from the payload. -/
theorem createInvoice_ok {event : EventEnvelope} {s t : Session Database} {new : OutboxEvent}
    (h : createInvoice event s = .ok new t) :
    ∃ orderId paymentId amount id createdAt, strItem event.payload "order_id" = .ok orderId
      ∧ strItem event.payload "payment_id" = .ok paymentId
      ∧ intPayloadValue event.payload "amount_cents" = .ok amount
      ∧ ∃ eventId occurredAt n, eventId ≠ ""
        ∧ new = (invoiceDraft event ⟨id, orderId, paymentId, .CREATED, amount.num, createdAt⟩
            amount.value).row eventId occurredAt
        ∧ t = s.goto ((s.working.addInvoice
            ⟨id, orderId, paymentId, .CREATED, amount.num, createdAt⟩).addOutboxEvent new) n := by
  obtain ⟨orderId, horder, h⟩ := ofExcept_bind_eq_ok.mp h
  obtain ⟨paymentId, hpayment, h⟩ := ofExcept_bind_eq_ok.mp h
  obtain ⟨amount, hamount, h⟩ := ofExcept_bind_eq_ok.mp h
  rw [bind_of_ok (uuid4_apply _), bind_of_ok (now_apply _), bind_of_ok (write_apply _ _)] at h
  obtain ⟨_, w, hw, h⟩ := bind_eq_ok.mp h
  obtain ⟨-, n, rfl⟩ := flush_keyed hw
  obtain ⟨eid, eat, m, hid, hnew, -, ht⟩ := emit_ok h
  exact ⟨orderId, paymentId, amount, _, _, horder, hpayment, hamount, eid, eat, m, hid,
    hnew, ht⟩

theorem createInvoice_raised {event : EventEnvelope} {s t : Session Database}
    {error : PyError} (h : createInvoice event s = .error (.raised error) t) :
    t = s ∧ (strItem event.payload "order_id" = .error error
      ∨ strItem event.payload "payment_id" = .error error
      ∨ intPayloadValue event.payload "amount_cents" = .error error) := by
  rcases ofExcept_bind_eq_raised.mp h with ⟨horder, rfl⟩ | ⟨orderId, -, h⟩
  · exact ⟨rfl, .inl horder⟩
  rcases ofExcept_bind_eq_raised.mp h with ⟨hpayment, rfl⟩ | ⟨paymentId, -, h⟩
  · exact ⟨rfl, .inr (.inl hpayment)⟩
  rcases ofExcept_bind_eq_raised.mp h with ⟨hamount, rfl⟩ | ⟨amount, -, h⟩
  · exact ⟨rfl, .inr (.inr hamount)⟩
  exact absurd h (NoRaise.bind noRaise_uuid4 (fun _ => noRaise_now.bind fun _ =>
    (noRaise_write _).bind fun _ => noRaise_flush.bind fun _ => noRaise_emit _) _ _ _)

theorem quiet_createInvoice (event : EventEnvelope) : Quiet (createInvoice event) :=
  (quiet_ofExcept _).bind fun _ => (quiet_ofExcept _).bind fun _ =>
    (quiet_ofExcept _).bind fun _ => quiet_uuid4.bind fun _ => quiet_now.bind fun _ =>
      (quiet_write _).bind fun _ => quiet_flush.bind fun _ => quiet_emit _

theorem tidy_createInvoice (event : EventEnvelope) : Tidy (createInvoice event) :=
  (tidy_ofExcept _).bind fun _ => (tidy_ofExcept _).bind fun _ =>
    (tidy_ofExcept _).bind fun _ => tidy_uuid4.bind fun _ => tidy_now.bind fun _ =>
      (tidy_write _).bind fun _ => tidy_flush.bind fun _ => tidy_emit _

/-! ## §3. The notification worker. -/

/-- The row a notification is. -/
def invoiceNotification (payload : Dict) (orderId invoiceId id : String)
    (sentAt createdAt : DateTime) : Notification :=
  { id := id
    orderId := orderId
    notificationType := invoiceCreatedNotification
    status := .SENT
    recipientEmail := recipientEmail payload
    payload := [("invoice_id", .str invoiceId),
      ("amount_cents", payload.getD "amount_cents" .null)]
    sentAt := sentAt
    createdAt := createdAt }

/-- The event a notification emits. -/
def notificationDraft (event : EventEnvelope) (orderId invoiceId id : String) : EventDraft :=
  buildResultEvent event "NotificationSent" orderId
    [("order_id", .str orderId), ("invoice_id", .str invoiceId),
      ("notification_id", .str id), ("notification_type", .str invoiceCreatedNotification)]

theorem sendInvoiceNotification_ok {event : EventEnvelope} {s t : Session Database}
    {new : OutboxEvent} (h : sendInvoiceNotification event s = .ok new t) :
    ∃ orderId invoiceId id sentAt createdAt, strItem event.payload "order_id" = .ok orderId
      ∧ strItem event.payload "invoice_id" = .ok invoiceId
      ∧ ∃ eventId occurredAt n, eventId ≠ ""
        ∧ new = (notificationDraft event orderId invoiceId id).row eventId occurredAt
        ∧ t = s.goto ((s.working.addNotification
            (invoiceNotification event.payload orderId invoiceId id sentAt
              createdAt)).addOutboxEvent new) n := by
  obtain ⟨orderId, horder, h⟩ := ofExcept_bind_eq_ok.mp h
  obtain ⟨invoiceId, hinvoice, h⟩ := ofExcept_bind_eq_ok.mp h
  rw [bind_of_ok (uuid4_apply _), bind_of_ok (now_apply _), bind_of_ok (now_apply _),
    bind_of_ok (write_apply _ _)] at h
  obtain ⟨_, w, hw, h⟩ := bind_eq_ok.mp h
  obtain ⟨-, n, rfl⟩ := flush_keyed hw
  obtain ⟨eid, eat, m, hid, hnew, -, ht⟩ := emit_ok h
  exact ⟨orderId, invoiceId, _, _, _, horder, hinvoice, eid, eat, m, hid, hnew, ht⟩

theorem sendInvoiceNotification_raised {event : EventEnvelope} {s t : Session Database}
    {error : PyError} (h : sendInvoiceNotification event s = .error (.raised error) t) :
    t = s ∧ (strItem event.payload "order_id" = .error error
      ∨ strItem event.payload "invoice_id" = .error error) := by
  rcases ofExcept_bind_eq_raised.mp h with ⟨horder, rfl⟩ | ⟨orderId, -, h⟩
  · exact ⟨rfl, .inl horder⟩
  rcases ofExcept_bind_eq_raised.mp h with ⟨hinvoice, rfl⟩ | ⟨invoiceId, -, h⟩
  · exact ⟨rfl, .inr hinvoice⟩
  exact absurd h (NoRaise.bind noRaise_uuid4 (fun _ => noRaise_now.bind fun _ =>
    noRaise_now.bind fun _ => (noRaise_write _).bind fun _ => noRaise_flush.bind fun _ =>
      noRaise_emit _) _ _ _)

theorem quiet_sendInvoiceNotification (event : EventEnvelope) :
    Quiet (sendInvoiceNotification event) :=
  (quiet_ofExcept _).bind fun _ => (quiet_ofExcept _).bind fun _ =>
    quiet_uuid4.bind fun _ => quiet_now.bind fun _ => quiet_now.bind fun _ =>
      (quiet_write _).bind fun _ => quiet_flush.bind fun _ => quiet_emit _

theorem tidy_sendInvoiceNotification (event : EventEnvelope) :
    Tidy (sendInvoiceNotification event) :=
  (tidy_ofExcept _).bind fun _ => (tidy_ofExcept _).bind fun _ =>
    tidy_uuid4.bind fun _ => tidy_now.bind fun _ => tidy_now.bind fun _ =>
      (tidy_write _).bind fun _ => tidy_flush.bind fun _ => tidy_emit _

/-! ## §4. The order projection worker. -/

/-- **A returned projection** found its order and set the status. -/
theorem markOrder_ok {status : OrderStatus} {event : EventEnvelope} {s t : Session Database}
    {order : Order} (h : markOrder status event s = .ok order t) :
    ∃ orderId, strItem event.payload "order_id" = .ok orderId
      ∧ (s.working.findOrder orderId).isSome = true
      ∧ ∃ n, t = s.goto (s.working.setStatus orderId status) n := by
  obtain ⟨orderId, horder, h⟩ := ofExcept_bind_eq_ok.mp h
  obtain ⟨found, u, hu, h⟩ := bind_eq_ok.mp h
  obtain ⟨rfl, n, rfl⟩ := query_ok hu
  cases hf : s.working.findOrder orderId with
  | none => simp [hf] at h
  | some row =>
      rw [hf] at h
      obtain ⟨_, u, hu, h⟩ := bind_eq_ok.mp h
      simp only [write_apply, EStateM.Result.ok.injEq] at hu
      obtain ⟨-, rfl⟩ := hu
      obtain ⟨_, w, hw, h⟩ := bind_eq_ok.mp h
      obtain ⟨-, m, rfl⟩ := flush_keyed hw
      simp only [pure_apply, EStateM.Result.ok.injEq] at h
      exact ⟨orderId, horder, by rw [hf]; rfl, m, h.2.symm⟩

theorem markOrder_raised {status : OrderStatus} {event : EventEnvelope} {s t : Session Database}
    {error : PyError} (h : markOrder status event s = .error (.raised error) t) :
    t.working = s.working ∧ (strItem event.payload "order_id" = .error error
      ∨ ∃ orderId, strItem event.payload "order_id" = .ok orderId
        ∧ s.working.findOrder orderId = none) := by
  rcases ofExcept_bind_eq_raised.mp h with ⟨horder, rfl⟩ | ⟨orderId, horder, h⟩
  · exact ⟨rfl, .inl horder⟩
  rcases bind_eq_error.mp h with h | ⟨found, u, hu, h⟩
  · exact absurd h (noRaise_query _ _ _ _)
  · obtain ⟨rfl, n, rfl⟩ := query_ok hu
    cases hf : s.working.findOrder orderId with
    | none =>
        simp only [hf, raise_apply, EStateM.Result.error.injEq] at h
        exact ⟨by rw [← h.2]; rfl, .inr ⟨orderId, horder, hf⟩⟩
    | some row =>
        rw [hf] at h
        exact absurd h (NoRaise.bind (noRaise_write _) (fun _ => noRaise_flush.bind fun _ =>
          noRaise_pure _) _ _ _)

theorem quiet_markOrder (status : OrderStatus) (event : EventEnvelope) :
    Quiet (markOrder status event) := by
  refine (quiet_ofExcept _).bind fun orderId => (quiet_query _).bind fun found => ?_
  cases found with
  | none => exact quiet_raise _
  | some row => exact (quiet_write _).bind fun _ => quiet_flush.bind fun _ => quiet_pure _

theorem tidy_markOrder (status : OrderStatus) (event : EventEnvelope) :
    Tidy (markOrder status event) := by
  refine (tidy_ofExcept _).bind fun orderId => (tidy_query _).bind fun found => ?_
  cases found with
  | none => exact tidy_raise _
  | some row => exact (tidy_write _).bind fun _ => tidy_flush.bind fun _ => tidy_pure _

end EventCart
