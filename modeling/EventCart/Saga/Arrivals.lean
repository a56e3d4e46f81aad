/-
  EventCart.Saga.Arrivals
  ───────────────────────
  **EVERYTHING THAT REACHES THE SYSTEM.**

  Beside the calls of `Saga.System` an event can be handed to its handler
  again, whatever its delivery status, and an order can come in through the
  POST route with an idempotency key around it.  `arrive_effect` says that
  neither is more than a call on the saga's tables: a redelivered event that
  is still fresh is PENDING, and the route's extra commits touch the table of
  keys only.  Every invariant of calls that does not look at the keys is
  therefore one of arrivals (`arrivals_keep`).
-/
import EventCart.IdempotencyEffects
import EventCart.Saga.Requests
import EventCart.Survival

namespace EventCart

open EventCart.Lib
open EventCart.Lib.Tx

/-! ## §1. Arrivals. -/

/-- An event is handed to its handler, published or not. -/
def handOver (eventId : String) (paymentFails : String → Bool) : App Unit := do
  match ← peek (·.findOutboxEvent eventId) with
  | none => return ()
  | some event => callHandler (sagaHandlers paymentFails) event

/-- What reaches the system, with everything outside it. -/
inductive Arrival where
  | called (label : Label)
  | handed (world : World Database) (tick : Nat) (eventId : String) (paymentFails : String → Bool)
  | posted (world : World Database) (tick : Nat) (codecs : Codecs) (payload : OrderCreate)
      (idempotencyKey : Option String)

/-- The committed database afterwards. -/
def arrive : Arrival → Database → Database
  | .called label, db => step label db
  | .handed world tick eventId paymentFails, db =>
      transact (handOver eventId paymentFails) world tick db
  | .posted world tick codecs payload idempotencyKey, db =>
      transact (createOrderEndpoint codecs payload idempotencyKey) world tick db

abbrev arriveAll (arrivals : List Arrival) (db : Database) : Database := run arrive arrivals db

/-- The call an arrival amounts to. -/
def Arrival.call : Arrival → Call
  | .called label => label.call
  | .handed _ _ eventId paymentFails => .deliver eventId {} paymentFails
  | .posted _ _ _ payload _ => .createOrder payload

/-! ## §2. The table of keys aside. -/

/-- The database with another table of keys. -/
def Database.withKeys (keys : List IdempotencyKey) (db : Database) : Database :=
  { db with idempotencyKeys := keys }

/-- An arrival is its call, up to the table of keys. -/
def Arrived (call : Call) (db db' : Database) : Prop :=
  ∃ before after db₁, (db.withKeys before).Keyed ∧ Effect call (db.withKeys before) db₁
    ∧ (db₁.withKeys after).Keyed ∧ db' = db₁.withKeys after

theorem Effect.arrived {call : Call} {db db' : Database} (keyed : db.Keyed)
    (h : Effect call db db') (keyed' : db'.Keyed) : Arrived call db db' :=
  ⟨db.idempotencyKeys, db'.idempotencyKeys, db', keyed, h, keyed', rfl⟩

theorem keyed_withKeys {db : Database} (keyed : db.Keyed) {keys : List IdempotencyKey}
    (h : (keys.map (·.key)).Nodup) : (db.withKeys keys).Keyed :=
  { keyed with idempotencyKeys := h }

theorem inv_withKeys {db : Database} (inv : SagaInv db) {keys : List IdempotencyKey}
    (keyed : (db.withKeys keys).Keyed) : SagaInv (db.withKeys keys) :=
  ⟨⟨inv.dossiers, inv.inbox, inv.published, inv.failed, inv.deadLetters, inv.onSale⟩, keyed⟩

/-! ## §3. Arrivals are calls. -/

/-- A routed event that was not processed is PENDING. -/
theorem SagaInv.pending_of_fresh {db : Database} (inv : SagaInv db) {event : OutboxEvent}
    (mem : event ∈ db.outboxEvents) {consumer : String}
    (routed : consumer? event.eventType = some consumer)
    (fresh : db.processed consumer event.eventId = false) : event.status = .PENDING :=
  inv.pending_of_unconsumed mem (not_refusal_of_routed routed)
    ((consumed_of_routed routed).trans fresh)

/-- **A redelivery** commits what a delivery would, or nothing. -/
theorem handOver_effect {db : Database} (inv : SagaInv db) (eventId : String)
    (paymentFails : String → Bool) {s : Session Database} (hs : s.Clean) (hdb : s.committed = db) :
    Effect (.deliver eventId {} paymentFails) db
      (after (handOver eventId paymentFails s)).committed := by
  have hworking : s.working = db := hs.2.trans hdb
  unfold handOver
  rw [bind_of_ok (peek_apply _ s)]
  -- an unknown event, or one without a handler, is left alone
  cases hfind : s.working.findOutboxEvent eventId with
  | none =>
      show Effect _ db s.committed
      rw [hdb]
      exact .idle
  | some event =>
      have mem : event ∈ db.outboxEvents := hworking ▸ List.mem_of_find?_eq_some hfind
      obtain rfl : event.eventId = eventId := by simpa using List.find?_some hfind
      show Effect _ db (after (callHandler (sagaHandlers paymentFails) event s)).committed
      unfold callHandler
      cases hlookup : (sagaHandlers paymentFails).lookup event.eventType with
      | none =>
          show Effect _ db s.committed
          rw [hdb]
          exact .idle
      | some registration =>
          have routed := lookup_sagaHandlers hlookup
          obtain ⟨envelope, valid⟩ := inv.ready.valid event mem
          obtain ⟨htype, hid, -, -⟩ := envelope_eventType valid
          rw [← htype] at hlookup
          obtain ⟨α, body, event', hb⟩ := routed_body hlookup
          show Effect _ db (after ((ofExcept (envelopeFromOutboxEvent event) >>= fun envelope =>
            registration.handler envelope : App Unit) s)).committed
          rw [ofExcept_bind_ok valid]
          cases hh : registration.handler envelope s with
          | error e t =>
              rw [after_error, hb.handler_error hh, hdb]
              exact .idle
          | ok u t =>
              rcases hb.handler_ok hh with ⟨-, n, rfl⟩ | ⟨fresh, db', at', n, handled, hk, rfl⟩
              · rw [after_ok, goto_committed, hdb]
                exact .idle
              · rw [hworking, hid] at fresh
                rw [hworking] at handled
                rw [hid] at hk ⊢
                exact .commit (.handled rfl mem (inv.pending_of_fresh mem routed fresh) valid
                  routed fresh handled hk)

/-- **A POST request** is a call to `create_order`, up to the table of keys. -/
theorem PostEffect.arrived {codecs : Codecs} {payload : OrderCreate}
    {idempotencyKey : Option String} {s : Session Database} (keyed : s.working.Keyed) {final : Nat}
    {reply : Option Reply} {db' : Database}
    (h : PostEffect codecs payload idempotencyKey s final reply db') :
    Arrived (.createOrder payload) s.working db' := by
  cases h with
  | nothing => exact Effect.arrived keyed .idle keyed
  | ordered unkeyed placed hk => exact Effect.arrived keyed (.commit (.ordered rfl placed hk)) hk
  | @placed key row readAt startedAt order items new keyed_by reserved lt placed hk =>
      refine ⟨((s.working.deleteIdempotencyKey row.key).addIdempotencyKey row).idempotencyKeys, _,
        s.working.addKeyedOrder row order items new, keyed_withKeys keyed hk.idempotencyKeys,
        .commit (.ordered rfl ?_ hk), hk, rfl⟩
      exact placed.of_inventory rfl
  | @answered key row readAt startedAt updatedAt order items new keyed_by reserved lt placed hk =>
      refine ⟨((s.working.deleteIdempotencyKey row.key).addIdempotencyKey row).idempotencyKeys, _,
        s.working.addKeyedOrder row order items new, keyed_withKeys keyed hk.idempotencyKeys,
        .commit (.ordered rfl ?_ hk), keyed_withKeys hk ?_, rfl⟩
      · exact placed.of_inventory rfl
      · have hkeys := keys_updateIdempotencyKey (s.working.addKeyedOrder row order items new) key
          (f := (·.answered (orderRead codecs order items) HTTP_201_CREATED
            (s.world.now updatedAt))) (fun _ => rfl)
        exact hkeys ▸ hk.idempotencyKeys

/-- **Every arrival is a call**, up to the table of keys. -/
theorem arrive_effect {db : Database} (inv : SagaInv db) (arrival : Arrival) :
    Arrived arrival.call db (arrive arrival db) := by
  cases arrival with
  | called label =>
      exact Effect.arrived inv.keyed (step_effect inv.ready label) (step_inv label inv).keyed
  | handed world tick eventId paymentFails =>
      have heffect := handOver_effect inv eventId paymentFails (begin_clean world tick db) rfl
      exact Effect.arrived inv.keyed heffect (effect_inv inv heffect).keyed
  | posted world tick codecs payload idempotencyKey =>
      exact (createOrderEndpoint_effect codecs payload idempotencyKey
        (begin_clean world tick db) inv.keyed).arrived inv.keyed

/-! ## §4. Invariants of arrivals. -/

theorem arrived_inv {call : Call} {db db' : Database} (inv : SagaInv db)
    (h : Arrived call db db') : SagaInv db' := by
  obtain ⟨before, after, db₁, hbefore, heffect, hafter, rfl⟩ := h
  exact inv_withKeys (effect_inv (inv_withKeys inv hbefore) heffect) hafter

/-- **The invariant rule of arrivals**: what every commit keeps, whatever the
table of keys is, holds after any arrivals. -/
theorem arrivals_keep {P : Database → Prop} {C : Call → Prop}
    (keys : ∀ db keys, P db → P (db.withKeys keys))
    (commit : ∀ call db db', C call → SagaInv db → P db → Commit call db db' → P db')
    (arrivals : List Arrival) (hC : ∀ arrival ∈ arrivals, C arrival.call) {db : Database}
    (inv : SagaInv db) (hP : P db) :
    SagaInv (arriveAll arrivals db) ∧ P (arriveAll arrivals db) := by
  induction arrivals generalizing db with
  | nil => exact ⟨inv, hP⟩
  | cons arrival arrivals ih =>
      have harrived := arrive_effect inv arrival
      refine ih (fun a ha => hC a (List.mem_cons_of_mem _ ha)) (arrived_inv inv harrived) ?_
      have hcall := hC arrival List.mem_cons_self
      obtain ⟨before, after, db₁, hbefore, heffect, -, heq⟩ := harrived
      rw [heq]
      apply keys
      have inv' := inv_withKeys inv hbefore
      have hP' := keys db before hP
      cases heffect with
      | idle => exact hP'
      | commit h => exact commit _ _ _ hcall inv' hP' h
      | publish h₁ h₂ =>
          exact commit _ _ _ hcall (commit_inv inv' h₁) (commit _ _ _ hcall inv' hP' h₁)
            (.published h₂)

/-- **The run lemma**: any arrivals keep the invariant of the sagas. -/
theorem arriveAll_inv (arrivals : List Arrival) {db : Database} (inv : SagaInv db) :
    SagaInv (arriveAll arrivals db) :=
  (arrivals_keep (P := fun _ => True) (C := fun _ => True) (fun _ _ _ => trivial)
    (fun _ _ _ _ _ _ _ => trivial) arrivals (fun _ _ => trivial) inv trivial).1

end EventCart
