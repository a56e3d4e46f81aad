/-
  EventCart.Workers.Reservation
  ─────────────────────────────
  **A RESERVATION IS ALL OR NOTHING, ON EVERY PAYLOAD.**

  `_reserve_inventory` can stop at five places of its two passes over the
  lines.  A payload without an order id, without a list of items, or with a
  line without a SKU is `Unreadable`: the handler raises before it writes.
  Otherwise a line that cannot be served (`Unservable`) leads to a refusal,
  and nothing else does; the subtracting loop behind the checks raises
  nothing any more.

    §1  the two conditions, in the words of the payload;
    §2  how a reservation ends, whatever the database does;
    §3  a reservation in a database that executes its statements;
    §4  `reservation_all_or_nothing`.
-/
import EventCart.Workers.InventoryEffects

namespace EventCart

open EventCart.Lib
open EventCart.Lib.Tx

/-! ## §1. Reading a payload. -/

/-- The lines of a payload: its items, less what is no dictionary. -/
def payloadLines (payload : Dict) : List Dict :=
  match payload.get? "items" with
  | some (.arr items) => dicts items
  | _ => []

/-- There is no order id, no list of items, or a line without a SKU. -/
def Unreadable (payload : Dict) : Prop :=
  payload.get? "order_id" = none
    ∨ (∀ items, payload.get? "items" ≠ some (.arr items))
    ∨ ∃ line ∈ payloadLines payload, line.get? "sku" = none

/-- Some SKU is unknown, some quantity is no integer, or some line asks for
more than there is. -/
def Unservable (db : Database) (lines : List Dict) : Prop :=
  ∃ line ∈ lines, (∀ row ∈ db.inventoryItems, row.sku ≠ lineSku line)
    ∨ (line.get? "quantity").bind Json.int? = none
    ∨ ∃ row ∈ db.inventoryItems, row.sku = lineSku line
        ∧ row.quantityAvailable < lineQuantity line

theorem payloadItems_eq {payload : Dict} {items : List Json}
    (h : payload.get? "items" = some (.arr items)) :
    payloadItems payload = .ok (payloadLines payload) := by
  unfold payloadItems payloadLines
  rw [h]

theorem payloadItems_ok {payload : Dict} {lines : List Dict}
    (h : payloadItems payload = .ok lines) :
    (∃ items, payload.get? "items" = some (.arr items)) ∧ lines = payloadLines payload := by
  unfold payloadItems at h
  split at h
  next items hitems =>
    rw [Except.ok.injEq] at h
    refine ⟨⟨items, hitems⟩, ?_⟩
    unfold payloadLines
    rw [hitems]
    exact h.symm
  next => cases h

/-- A readable payload is read. -/
theorem readable_iff {payload : Dict} :
    ¬ Unreadable payload ↔ (∃ orderId, strItem payload "order_id" = .ok orderId)
      ∧ payloadItems payload = .ok (payloadLines payload)
      ∧ (payloadLines payload).all hasSku = true := by
  have horder : (∃ orderId, strItem payload "order_id" = .ok orderId)
      ↔ payload.get? "order_id" ≠ none := by
    unfold strItem item
    cases payload.get? "order_id" with
    | none => simp [Except.map]
    | some value => simp [Except.map]
  have hitems : payloadItems payload = .ok (payloadLines payload)
      ↔ ∃ items, payload.get? "items" = some (.arr items) := by
    constructor
    · intro h
      exact (payloadItems_ok h).1
    · rintro ⟨items, h⟩
      exact payloadItems_eq h
  have hsku : (payloadLines payload).all hasSku = true
      ↔ ¬ ∃ line ∈ payloadLines payload, line.get? "sku" = none := by
    rw [List.all_eq_true]
    unfold hasSku
    simp only [Option.isSome_iff_ne_none, not_exists, not_and, ne_eq]
  rw [horder, hitems, hsku]
  unfold Unreadable
  rw [not_or, not_or, not_forall]
  simp only [ne_eq, not_not]

/-- The checks of a reservation, in the words of the payload. -/
theorem stocks_iff {db : Database} (skus : (db.inventoryItems.map (·.sku)).Nodup)
    {lines : List Dict} (readable : lines.all hasSku = true) :
    db.stocks lines = true ↔ ¬ Unservable db lines := by
  unfold Database.stocks Unservable
  rw [List.all_eq_true]
  simp only [not_exists, not_and, not_or]
  refine forall_congr' fun line => forall_congr' fun hline => ?_
  have hsku := List.all_eq_true.mp readable line hline
  unfold Database.stocksLine
  rw [hsku, Bool.true_and, Bool.and_eq_true]
  -- the SKUs are unique, so one row decides for a line
  cases hfind : db.findInventoryItem (lineSku line) with
  | none =>
      have habsent : ∀ row ∈ db.inventoryItems, row.sku ≠ lineSku line := by
        intro row hrow
        simpa using List.find?_eq_none.mp hfind row hrow
      constructor
      · rintro ⟨-, hstock⟩
        rw [Option.any_none] at hstock
        exact absurd hstock (by decide)
      · rintro ⟨hknown, -⟩
        exact absurd habsent hknown
  | some row =>
      have hmem : row ∈ db.inventoryItems := List.mem_of_find?_eq_some hfind
      have hrow : row.sku = lineSku line := by simpa using List.find?_some hfind
      rw [Option.any_some, decide_eq_true_eq]
      constructor
      · rintro ⟨hquantity, hstock⟩
        refine ⟨fun habsent => habsent row hmem hrow, ?_, ?_⟩
        · unfold hasQuantity at hquantity
          rw [Option.isSome_iff_ne_none] at hquantity
          exact hquantity
        · intro other hother hother_sku
          rw [row_unique skus hother hmem (hother_sku.trans hrow.symm)]
          omega
      · rintro ⟨-, hquantity, hstock⟩
        refine ⟨?_, ?_⟩
        · unfold hasQuantity
          rw [Option.isSome_iff_ne_none]
          exact hquantity
        · have := hstock row hmem hrow
          omega

/-! ## §2. How a reservation ends. -/

/-- The stock after a confirmation. -/
theorem moveAll_reserved (db : Database) (lines : List Dict) :
    db.moveAll (-1) lines = { db with inventoryItems := db.inventoryItems.map fun row =>
      { row with quantityAvailable := row.quantityAvailable - demand row.sku lines } } := by
  have hrows : (fun row : InventoryItem => row.restocked (-1 * demand row.sku lines))
      = fun row => { row with quantityAvailable :=
          row.quantityAvailable - demand row.sku lines } := by
    funext row
    unfold InventoryItem.restocked
    rw [Int.neg_mul, Int.one_mul, Int.sub_eq_add_neg]
  rw [moveAll_eq, hrows]

section outcomes
variable (event : EventEnvelope) (s : Session Database)

/-- It raises, and the session is as it was. -/
def Raises : Prop :=
  ∃ error t, handleOrderCreated event s = .error (.raised error) t
    ∧ t.working = s.working ∧ t.committed = s.committed

/-- It emits one event of this type, next to the event's inbox row, and
leaves these inventory rows; all of it is committed. -/
def Emits (eventType : String) (inventoryItems : List InventoryItem) : Prop :=
  ∃ new processedAt t, handleOrderCreated event s = .ok (some new) t
    ∧ new.eventType = eventType
    ∧ t.working = { s.working with
        inventoryItems := inventoryItems
        outboxEvents := s.working.outboxEvents ++ [new]
        inboxEvents := s.working.inboxEvents
          ++ [⟨INVENTORY_CONSUMER_NAME, event.eventId, processedAt⟩] }
    ∧ t.committed = t.working

/-- It confirms: every row drops by what the lines naming its SKU add up to. -/
def Reserves : Prop :=
  Emits event s "InventoryReserved" (s.working.inventoryItems.map fun row =>
    { row with quantityAvailable :=
        row.quantityAvailable - demand row.sku (payloadLines event.payload) })

/-- It refuses: no quantity changes. -/
def Refuses : Prop :=
  Emits event s "InventoryReservationFailed" s.working.inventoryItems

end outcomes

section ends
variable {event : EventEnvelope} {s : Session Database}

/-- What a handler that returned a result has committed. -/
theorem handleOnce_some {α : Type} {consumerName : String} {body : EventEnvelope → App α}
    {t : Session Database} {a : α} (h : handleOnce consumerName body event s = .ok (some a) t) :
    ∃ m u processedAt n, body event (s.goto s.working m) = .ok a u
      ∧ t = { u.goto (u.working.addInboxEvent ⟨consumerName, event.eventId, processedAt⟩) n with
          committed := u.working.addInboxEvent ⟨consumerName, event.eventId, processedAt⟩ } := by
  obtain ⟨r, u, hu, h⟩ := bind_eq_ok.mp h
  rcases processOnce_ok hu with ⟨-, rfl, n, rfl⟩ | ⟨-, m, b, v, at', n, hv, rfl, -, rfl⟩
  · simp only [Option.isSome_none, Bool.false_eq_true, if_false, pure_apply,
      EStateM.Result.ok.injEq] at h
    exact absurd h.1 (by simp)
  · simp only [Option.isSome_some, if_true] at h
    obtain ⟨_, w, hw, h⟩ := bind_eq_ok.mp h
    obtain ⟨-, k, rfl⟩ := commit_keyed hw
    simp only [pure_apply, EStateM.Result.ok.injEq, Option.some.injEq] at h
    obtain ⟨rfl, rfl⟩ := h
    exact ⟨m, v, at', k, hv, rfl⟩

/-- A body that returned could read the payload. -/
theorem reserveInventory_readable {new : OutboxEvent} {t : Session Database}
    (h : reserveInventory event s = .ok new t) : ¬ Unreadable event.payload := by
  obtain ⟨orderId, order, h⟩ := ofExcept_bind_eq_ok.mp h
  obtain ⟨lines, items, h⟩ := ofExcept_bind_eq_ok.mp h
  obtain ⟨r, u, hchecked, -⟩ := bind_eq_ok.mp h
  obtain ⟨hsku, -⟩ := checkStock_ok hchecked
  obtain ⟨-, rfl⟩ := payloadItems_ok items
  exact readable_iff.mpr ⟨⟨orderId, order⟩, items, hsku⟩

/-- A body that raised could not. -/
theorem reserveInventory_unreadable {error : PyError} {t : Session Database}
    (h : reserveInventory event s = .error (.raised error) t) : Unreadable event.payload := by
  obtain ⟨-, hcause⟩ := reserveInventory_raised h
  by_contra hreadable
  obtain ⟨⟨orderId, order⟩, items, hsku⟩ := readable_iff.mp hreadable
  rcases hcause with horder | hitems | ⟨lines, hlines, hnone⟩
  · rw [order] at horder
    cases horder
  · rw [items] at hitems
    cases hitems
  · rw [items, Except.ok.injEq] at hlines
    rw [← hlines, hsku] at hnone
    cases hnone

/-- **A reservation that returned** could read its payload; it confirmed what
could be served, and refused the rest. -/
theorem reservation_returned (skus : (s.working.inventoryItems.map (·.sku)).Nodup)
    {new : OutboxEvent} {t : Session Database}
    (h : handleOrderCreated event s = .ok (some new) t) :
    ¬ Unreadable event.payload
      ∧ (¬ Unservable s.working (payloadLines event.payload) ∧ Reserves event s
        ∨ Unservable s.working (payloadLines event.payload) ∧ Refuses event s) := by
  obtain ⟨m, u, processedAt, n, hbody, rfl⟩ := handleOnce_some h
  have hreadable := reserveInventory_readable hbody
  obtain ⟨-, -, hsku⟩ := readable_iff.mp hreadable
  have hstocks := stocks_iff skus hsku
  obtain ⟨orderId, lines, -, items, hends⟩ := reserveInventory_ok hbody
  obtain ⟨-, rfl⟩ := payloadItems_ok items
  refine ⟨hreadable, ?_⟩
  rw [goto_working] at hends
  rcases hends with ⟨stocks, id, at', k, -, rfl, rfl⟩ | ⟨refused, reason, id, at', k, -, rfl, rfl⟩
  · refine .inl ⟨hstocks.mp stocks, _, processedAt, _, h, rfl, ?_, rfl⟩
    show ((s.working.moveAll (-1) (payloadLines event.payload)).addOutboxEvent _).addInboxEvent _ = _
    rw [moveAll_reserved]
    rfl
  · have hunserved : Unservable s.working (payloadLines event.payload) := by
      by_contra hserved
      rw [hstocks.mpr hserved] at refused
      cases refused
    exact .inr ⟨hunserved, _, processedAt, _, h, rfl, rfl, rfl⟩

/-- **A reservation that raised** could not read its payload, and left the
session as it was. -/
theorem reservation_raised {error : PyError} {t : Session Database}
    (h : handleOrderCreated event s = .error (.raised error) t) :
    Unreadable event.payload ∧ t.working = s.working ∧ t.committed = s.committed := by
  obtain ⟨-, m, hbody⟩ := handleOnce_raised h
  obtain ⟨rfl, -⟩ := reserveInventory_raised hbody
  exact ⟨reserveInventory_unreadable hbody, rfl, rfl⟩

end ends

/-! ## §3. In a database that rejects rows for their columns only. -/

/-- The database executes what the session sends unless its columns reject a
row, the rows in it obey their declared keys, and `uuid4()` gives out
identifiers no event has. -/
structure Serving (rejects : Database → Option String) (s : Session Database) : Prop where
  executes : s.world.Dependable rejects
  active : s.active = true
  accepted : rejects s.working = none
  keyed : s.working.Keyed
  fresh : ∀ n, ∀ row ∈ s.working.outboxEvents, row.eventId ≠ s.world.uuid4 n

/-- How a program ends that writes these rows: it returns, or the columns
reject them and the session waits for a rollback. -/
inductive Flushes (rejects : Database → Option String) (s : Session Database) (rows : Database)
    {α : Type} (a : α) : EStateM.Result (Failure PyError) (Session Database) α → Prop where
  | accepted (accepted : rejects rows = none) (n : Nat) :
      Flushes rejects s rows a (.ok a (s.goto rows n))
  | rejected {message : String} (rejected : rejects rows = some message) (n : Nat) :
      Flushes rejects s rows a
        (.error (.database message) { s.goto rows n with active := false })

theorem Flushes.of_goto {rejects : Database → Option String} {s : Session Database}
    {db rows : Database} {n : Nat} {α : Type} {a : α}
    {r : EStateM.Result (Failure PyError) (Session Database) α}
    (h : Flushes rejects (s.goto db n) rows a r) : Flushes rejects s rows a r := by
  cases h with
  | accepted accepted m => exact .accepted accepted m
  | rejected rejected m => exact .rejected rejected m

/-- The rows that answer a payload: a confirmation when every line can be
served, a refusal otherwise. -/
inductive AnswerRows (event : EventEnvelope) (db : Database) (new : OutboxEvent) : Database → Prop where
  | reserved (served : ¬ Unservable db (payloadLines event.payload))
      (type : new.eventType = "InventoryReserved") :
      AnswerRows event db new
        { db with
          inventoryItems := db.inventoryItems.map fun row =>
            { row with quantityAvailable :=
                row.quantityAvailable - demand row.sku (payloadLines event.payload) }
          outboxEvents := db.outboxEvents ++ [new] }
  | refused (unserved : Unservable db (payloadLines event.payload))
      (type : new.eventType = "InventoryReservationFailed") :
      AnswerRows event db new { db with outboxEvents := db.outboxEvents ++ [new] }

/-- **The columns reject the answer**, with or without the event's inbox row:
the handler ends in a database error, and nothing is committed. -/
def Rejected (rejects : Database → Option String) (event : EventEnvelope) (s : Session Database) :
    Prop :=
  ∃ message t new rows, handleOrderCreated event s = .error (.database message) t
    ∧ t.committed = s.committed ∧ rejects t.working = some message
    ∧ AnswerRows event s.working new rows
    ∧ (t.working = rows ∨ ∃ processedAt, t.working
        = rows.addInboxEvent ⟨INVENTORY_CONSUMER_NAME, event.eventId, processedAt⟩)

section serving
variable {rejects : Database → Option String} {event : EventEnvelope} {s : Session Database}

/-- An event is emitted, or its row is rejected. -/
theorem emit_flushes (executes : s.world.Dependable rejects) (active : s.active = true)
    (keyed : s.working.Keyed)
    (fresh : ∀ n, ∀ row ∈ s.working.outboxEvents, row.eventId ≠ s.world.uuid4 n)
    (draft : EventDraft) :
    ∃ new, new.eventType = draft.eventType ∧ (s.working.addOutboxEvent new).Keyed
      ∧ Flushes rejects s (s.working.addOutboxEvent new) new (emit draft s) := by
  let new := draft.row (s.world.uuid4 s.tick) (s.world.now (s.tick + 1))
  have hkeyed : (s.working.addOutboxEvent new).Keyed := keyed_addOutboxEvent keyed (fresh s.tick)
  have hadd : addEvent draft s
      = .ok new (s.goto (s.working.addOutboxEvent new) (s.tick + 2)) := rfl
  refine ⟨new, rfl, hkeyed, ?_⟩
  unfold emit
  rw [bind_of_ok hadd]
  cases hrejects : rejects (s.working.addOutboxEvent new) with
  | none =>
      obtain ⟨b, n, hnotify⟩ := notifyOutboxEvent_accepted
        (s := s.goto (s.working.addOutboxEvent new) (s.tick + 2)) executes active hrejects hkeyed
      rw [bind_of_ok hnotify]
      exact .accepted hrejects n
  | some message =>
      have hflush := flush_rejected (ε := PyError)
        (s := s.goto (s.working.addOutboxEvent new) (s.tick + 2)) executes active hrejects
      have hnotify : notifyOutboxEvent (s.goto (s.working.addOutboxEvent new) (s.tick + 2))
          = .error _ _ := bind_of_error hflush
      rw [bind_of_error hnotify]
      exact .rejected hrejects _

/-- **A readable payload is answered** with one event, if the columns take the
rows. -/
theorem Serving.reserve (serving : Serving rejects s) (readable : ¬ Unreadable event.payload) :
    ∃ new rows, AnswerRows event s.working new rows ∧ rows.Keyed
      ∧ rows.inboxEvents = s.working.inboxEvents
      ∧ Flushes rejects s rows new (reserveInventory event s) := by
  obtain ⟨⟨orderId, order⟩, items, hsku⟩ := readable_iff.mp readable
  have hst : (statement : App Unit) s = .ok () (s.goto s.working (s.tick + 1)) :=
    statement_accepted serving.executes serving.active serving.accepted
  have hchecked := checkStock_of_statement hsku hst
  have hstocks := stocks_iff serving.keyed.skus hsku
  unfold reserveInventory
  rw [ofExcept_bind_ok order, ofExcept_bind_ok items]
  split at hchecked
  next stocks =>
    -- the loop behind the checks raises nothing
    have hmove := moveStock_apply (-1) (s.working.loaded (payloadLines event.payload))
      (payloadLines event.payload) (s.goto s.working (s.tick + 1))
      (loaded_has (knows_of_stocks stocks))
    rw [if_pos (hasQuantity_of_stocks stocks)] at hmove
    obtain ⟨new, htype, hkeyed, hflushes⟩ := emit_flushes
      (s := s.goto (s.working.moveAll (-1) (payloadLines event.payload)) (s.tick + 1))
      serving.executes serving.active (keyed_moveAll serving.keyed _ _)
      (by rw [goto_working, moveAll_eq]; exact serving.fresh)
      (reservedDraft event orderId (payloadLines event.payload))
    refine ⟨new, (s.working.moveAll (-1) (payloadLines event.payload)).addOutboxEvent new, ?_,
      hkeyed, ?_, ?_⟩
    · rw [moveAll_reserved]
      exact .reserved (hstocks.mp stocks) htype
    · rw [moveAll_eq]
      rfl
    · rw [bind_of_ok hchecked]
      show Flushes rejects s _ new ((moveStock (-1) _ _ >>= _ : App OutboxEvent) _)
      rw [bind_of_ok hmove]
      exact hflushes.of_goto
  next unstocked =>
    obtain ⟨reason, hchecked⟩ := hchecked
    have hunserved : Unservable s.working (payloadLines event.payload) := by
      by_contra hserved
      exact unstocked (hstocks.mpr hserved)
    obtain ⟨new, htype, hkeyed, hflushes⟩ := emit_flushes
      (s := s.goto s.working (s.tick + 1)) serving.executes serving.active serving.keyed
      serving.fresh (refusalDraft event orderId reason (payloadLines event.payload))
    refine ⟨new, _, .refused hunserved htype, hkeyed, rfl, ?_⟩
    rw [bind_of_ok hchecked]
    exact hflushes.of_goto

/-- **Any other payload is rejected** before anything is written. -/
theorem reserveInventory_rejects (s : Session Database) (unreadable : Unreadable event.payload) :
    ∃ error, reserveInventory event s = .error (.raised error) s := by
  unfold reserveInventory
  cases horder : strItem event.payload "order_id" with
  | error error => exact ⟨error, by rw [ofExcept_bind_error rfl, raise_apply]⟩
  | ok orderId =>
      rw [ofExcept_bind_ok rfl]
      cases hitems : payloadItems event.payload with
      | error error => exact ⟨error, by rw [ofExcept_bind_error rfl, raise_apply]⟩
      | ok lines =>
          rw [ofExcept_bind_ok rfl]
          obtain ⟨-, rfl⟩ := payloadItems_ok hitems
          cases hsku : (payloadLines event.payload).all hasSku with
          | true =>
              exact absurd unreadable (readable_iff.mpr ⟨⟨orderId, horder⟩, hitems, hsku⟩)
          | false => exact ⟨_, bind_of_error (checkStock_of_no_sku hsku)⟩

/-- The handler raises exactly what its body raises. -/
theorem Serving.raises (serving : Serving rejects s)
    (unprocessed : s.working.processed INVENTORY_CONSUMER_NAME event.eventId = false)
    (unreadable : Unreadable event.payload) : Raises event s := by
  obtain ⟨error, hbody⟩ := reserveInventory_rejects (s.goto s.working (s.tick + 1)) unreadable
  have honce : processOnce INVENTORY_CONSUMER_NAME event reserveInventory s
      = .error (.raised error) (s.goto s.working (s.tick + 1)) := by
    unfold processOnce
    rw [bind_of_ok (hasProcessed_accepted serving.executes serving.active serving.accepted
      unprocessed)]
    exact bind_of_error hbody
  exact ⟨error, _, bind_of_error honce, rfl, rfl⟩

/-- **A readable payload**: the handler returns, or the columns reject the
answer. -/
theorem Serving.answers (serving : Serving rejects s)
    (unprocessed : s.working.processed INVENTORY_CONSUMER_NAME event.eventId = false)
    (readable : ¬ Unreadable event.payload) :
    (∃ new t, handleOrderCreated event s = .ok (some new) t) ∨ Rejected rejects event s := by
  have serving' : Serving rejects (s.goto s.working (s.tick + 1)) :=
    ⟨serving.executes, serving.active, serving.accepted, serving.keyed, serving.fresh⟩
  obtain ⟨new, rows, hanswers, hkeyed, hinbox, hflushes⟩ := serving'.reserve readable
  have hquery := hasProcessed_accepted serving.executes serving.active serving.accepted unprocessed
  generalize hbody : reserveInventory event (s.goto s.working (s.tick + 1)) = r at hflushes
  cases hflushes with
  | rejected rejected n =>
      have honce : processOnce INVENTORY_CONSUMER_NAME event reserveInventory s = .error _ _ :=
        (bind_of_ok hquery).trans (bind_of_error hbody)
      exact .inr ⟨_, _, new, rows, bind_of_error honce, rfl, rejected, hanswers, .inl rfl⟩
  | accepted accepted n =>
      have hunprocessed : rows.processed INVENTORY_CONSUMER_NAME event.eventId = false := by
        unfold Database.processed
        rw [hinbox]
        exact unprocessed
      -- the inbox row is flushed next
      cases hrejects : rejects (rows.addInboxEvent
          ⟨INVENTORY_CONSUMER_NAME, event.eventId, s.world.now n⟩) with
      | none =>
          exact .inl ⟨new, handleOnce_accepted hquery hbody serving.executes serving.active hrejects
            hkeyed hunprocessed⟩
      | some message =>
          obtain ⟨k, hrun⟩ := handleOnce_rejected hquery hbody serving.executes serving.active
            hrejects
          exact .inr ⟨message, _, new, rows, hrun, rfl, hrejects, hanswers, .inr ⟨_, rfl⟩⟩

end serving

/-! ## §4. The four outcomes. -/

section exclusive
variable {event : EventEnvelope} {s : Session Database}

/-- A handler that raises emits nothing. -/
theorem Raises.not_emits (h : Raises event s) {eventType : String} {rows : List InventoryItem} :
    ¬ Emits event s eventType rows := by
  obtain ⟨error, t, hraise, -⟩ := h
  rintro ⟨new, processedAt, u, hemit, -⟩
  rw [hraise] at hemit
  cases hemit

/-- A handler that confirms does not refuse. -/
theorem Reserves.not_refuses (h : Reserves event s) : ¬ Refuses event s := by
  obtain ⟨new, -, t, hreserve, htype, -⟩ := h
  rintro ⟨new', -, t', hrefuse, htype', -⟩
  rw [hreserve] at hrefuse
  simp only [EStateM.Result.ok.injEq, Option.some.injEq] at hrefuse
  obtain ⟨rfl, -⟩ := hrefuse
  rw [htype] at htype'
  exact absurd htype' (by decide)

/-- A handler whose rows are rejected neither raises nor emits. -/
theorem Rejected.not_raises {rejects : Database → Option String} (h : Rejected rejects event s) :
    ¬ Raises event s := by
  obtain ⟨message, t, new, rows, hrun, -⟩ := h
  rintro ⟨error, u, hraise, -⟩
  rw [hrun] at hraise
  cases hraise

theorem Rejected.not_emits {rejects : Database → Option String} (h : Rejected rejects event s)
    {eventType : String} {rows : List InventoryItem} : ¬ Emits event s eventType rows := by
  obtain ⟨message, t, new, -, hrun, -⟩ := h
  rintro ⟨new', processedAt, u, hemit, -⟩
  rw [hrun] at hemit
  cases hemit

end exclusive

/-- **A reservation is all or nothing on every payload.**  The handler raises
exactly when the payload cannot be read, and then nothing was written.
Otherwise the columns may reject the rows of its answer, and then nothing is
committed; or else it refuses exactly when some line cannot be served, and no
quantity changes, and it confirms exactly when all can, and every SKU drops by
what its lines add up to. -/
theorem reservation_all_or_nothing (event : EventEnvelope) {rejects : Database → Option String}
    {s : Session Database} (serving : Serving rejects s)
    (unprocessed : s.working.processed INVENTORY_CONSUMER_NAME event.eventId = false) :
    (Raises event s ↔ Unreadable event.payload)
      ∧ (Rejected rejects event s → ¬ Unreadable event.payload)
      ∧ (Refuses event s ↔ ¬ Unreadable event.payload ∧ ¬ Rejected rejects event s
          ∧ Unservable s.working (payloadLines event.payload))
      ∧ (Reserves event s ↔ ¬ Unreadable event.payload ∧ ¬ Rejected rejects event s
          ∧ ¬ Unservable s.working (payloadLines event.payload)) := by
  by_cases hread : Unreadable event.payload
  · have hraises := serving.raises unprocessed hread
    refine ⟨⟨fun _ => hread, fun _ => hraises⟩, fun h => absurd hraises h.not_raises,
      ⟨fun h => ?_, fun h => absurd hread h.1⟩, ⟨fun h => ?_, fun h => absurd hread h.1⟩⟩
    · exact absurd h hraises.not_emits
    · exact absurd h hraises.not_emits
  rcases serving.answers unprocessed hread with ⟨new, t, hrun⟩ | hrejected
  · have hraises : ¬ Raises event s := by
      rintro ⟨error, u, hraise, -⟩
      rw [hrun] at hraise
      cases hraise
    have hrejected : ¬ Rejected rejects event s := by
      rintro ⟨message, u, -, -, hreject, -⟩
      rw [hrun] at hreject
      cases hreject
    obtain ⟨-, hends⟩ := reservation_returned serving.keyed.skus hrun
    refine ⟨⟨fun h => absurd h hraises, fun h => absurd h hread⟩, fun h => absurd h hrejected, ?_⟩
    rcases hends with ⟨hserved, hreserves⟩ | ⟨hunserved, hrefuses⟩
    · exact ⟨⟨fun h => absurd h hreserves.not_refuses, fun h => absurd h.2.2 hserved⟩,
        fun _ => ⟨hread, hrejected, hserved⟩, fun _ => hreserves⟩
    · exact ⟨⟨fun _ => ⟨hread, hrejected, hunserved⟩, fun _ => hrefuses⟩,
        fun h => absurd hrefuses h.not_refuses, fun h => absurd hunserved h.2.2⟩
  · -- the answer was rejected: it is none of the other three
    refine ⟨⟨fun h => absurd h hrejected.not_raises, fun h => absurd h hread⟩, fun _ => hread,
      ⟨fun h => ?_, fun h => absurd hrejected h.2.1⟩, ⟨fun h => ?_, fun h => absurd hrejected h.2.1⟩⟩
    · exact absurd h hrejected.not_emits
    · exact absurd h hrejected.not_emits

theorem orderCreated_ne : "OrderCreated" ≠ "" := by decide

theorem orderAggregate_ne : "Order" ≠ "" := by decide

theorem firstVersion_ge : (1 : Int) ≤ 1 := by decide

/-- Three pencils on two lines, and an item that is no dictionary. -/
def pencilRequest : EventEnvelope where
  eventId := "event-7"
  eventType := "OrderCreated"
  eventVersion := 1
  aggregateType := "Order"
  aggregateId := "order-7"
  correlationId := "correlation-7"
  causationId := none
  occurredAt := 0
  payload :=
    [("order_id", .str "order-7"),
     ("items", .arr [.obj [("sku", .str "PENCIL"), ("quantity", .int 2)], .str "gift",
      .obj [("sku", .str "PENCIL"), ("quantity", .int 1)]])]
  eventId_ne := by decide
  eventType_ne := orderCreated_ne
  eventVersion_ge := firstVersion_ge
  aggregateType_ne := orderAggregate_ne
  aggregateId_ne := by decide
  correlationId_ne := by decide

/-- Two pencils in stock. -/
def pencilStock : Database :=
  { Database.empty with inventoryItems := [⟨"item-1", "PENCIL", "Pencil", 2, 150, 0⟩] }

/-- An `int4` column holds no such quantity. -/
def quantityOverflow (db : Database) : Option String :=
  if db.inventoryItems.any fun row =>
      row.quantityAvailable < -2147483648 || 2147483647 < row.quantityAvailable then
    some "integer out of range"
  else none

/-- A calm world over a database whose quantities are `int4` columns. -/
def stockWorld : World Database :=
  { (World.calm : World Database) with
    fault := fun _ db => (quantityOverflow db).elim .none .reject }

theorem stockWorld_serving : Serving quantityOverflow (Session.begin stockWorld 0 pencilStock) where
  executes := ⟨fun _ _ => rfl⟩
  active := rfl
  accepted := by decide
  keyed := (admits_iff _).mp (by decide +kernel)
  fresh := fun _ _ mem => absurd mem List.not_mem_nil

/-- The outcomes at three pencils, with two in stock: each line asks for no
more than there is. -/
theorem reservation_all_or_nothing_pencils :
    (Raises pencilRequest (Session.begin stockWorld 0 pencilStock)
        ↔ Unreadable pencilRequest.payload)
      ∧ (Rejected quantityOverflow pencilRequest (Session.begin stockWorld 0 pencilStock)
        → ¬ Unreadable pencilRequest.payload)
      ∧ (Refuses pencilRequest (Session.begin stockWorld 0 pencilStock)
        ↔ ¬ Unreadable pencilRequest.payload
          ∧ ¬ Rejected quantityOverflow pencilRequest (Session.begin stockWorld 0 pencilStock)
          ∧ Unservable pencilStock (payloadLines pencilRequest.payload))
      ∧ (Reserves pencilRequest (Session.begin stockWorld 0 pencilStock)
        ↔ ¬ Unreadable pencilRequest.payload
          ∧ ¬ Rejected quantityOverflow pencilRequest (Session.begin stockWorld 0 pencilStock)
          ∧ ¬ Unservable pencilStock (payloadLines pencilRequest.payload)) :=
  reservation_all_or_nothing pencilRequest stockWorld_serving rfl

/-- A line that gives back more pencils than the column can count. -/
def returnRequest : EventEnvelope :=
  { pencilRequest with
    payload :=
      [("order_id", .str "order-7"),
       ("items", .arr [.obj [("sku", .str "PENCIL"), ("quantity", .int (-2147483648))]])] }

/-- The run ends in a database error. -/
def databaseError {α : Type} : EStateM.Result (Failure PyError) (Session Database) α → Bool
  | .error (.database _) _ => true
  | _ => false

/-- **A fourth outcome**: the stock goes up by 2^31 in the session, and the
column rejects it at the flush. -/
theorem rejected_rows_do_not_answer :
    ¬ ∀ (event : EventEnvelope) (rejects : Database → Option String) (s : Session Database),
        Serving rejects s →
        s.working.processed INVENTORY_CONSUMER_NAME event.eventId = false →
        (Raises event s ↔ Unreadable event.payload)
          ∧ (Refuses event s ↔ ¬ Unreadable event.payload
              ∧ Unservable s.working (payloadLines event.payload))
          ∧ (Reserves event s ↔ ¬ Unreadable event.payload
              ∧ ¬ Unservable s.working (payloadLines event.payload)) := by
  intro h
  obtain ⟨hraises, hrefuses, hreserves⟩ := h returnRequest quantityOverflow
    (Session.begin stockWorld 0 pencilStock) stockWorld_serving rfl
  have hdatabase : databaseError (handleOrderCreated returnRequest
      (Session.begin stockWorld 0 pencilStock)) = true := by decide +kernel
  -- the run ends in a database error, so it is none of the three
  by_cases hread : Unreadable returnRequest.payload
  · obtain ⟨error, t, hrun, -⟩ := hraises.mpr hread
    rw [hrun] at hdatabase
    cases hdatabase
  by_cases hserved : Unservable pencilStock (payloadLines returnRequest.payload)
  · obtain ⟨new, at', t, hrun, -⟩ := hrefuses.mpr ⟨hread, hserved⟩
    rw [hrun] at hdatabase
    cases hdatabase
  · obtain ⟨new, at', t, hrun, -⟩ := hreserves.mpr ⟨hread, hserved⟩
    rw [hrun] at hdatabase
    cases hdatabase

end EventCart
