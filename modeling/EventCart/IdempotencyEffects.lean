/-
  EventCart.IdempotencyEffects
  ────────────────────────────
  **WHAT A POST REQUEST COMMITS.**

  A request with a key commits twice: the key row together with the order,
  then the response.  `createOrderEndpoint_effect` lists what is durable
  wherever the request stops, and `createOrderEndpoint_live` what a request
  gets from a key that has not expired.
-/
import EventCart.Idempotency
import EventCart.OrderEffects

namespace EventCart

open EventCart.Lib
open EventCart.Lib.Tx

/-! ## §1. The table of keys. -/

section keys
variable {key other : String} {db : Database} {row : IdempotencyKey}

theorem findIdempotencyKey_delete_self :
    (db.deleteIdempotencyKey key).findIdempotencyKey key = none := by
  unfold Database.findIdempotencyKey Database.deleteIdempotencyKey
  rw [List.find?_eq_none]
  intro row hrow hkey
  obtain ⟨-, hne⟩ := List.mem_filter.mp hrow
  simp only [decide_eq_true_eq] at hkey hne
  exact hne hkey

theorem findIdempotencyKey_delete_ne (h : other ≠ key) :
    (db.deleteIdempotencyKey key).findIdempotencyKey other = db.findIdempotencyKey other := by
  unfold Database.findIdempotencyKey Database.deleteIdempotencyKey
  rw [List.find?_filter]
  congr 1
  funext row
  by_cases hrow : row.key = other
  · simp [hrow, h]
  · simp [hrow]

/-- Deleting a key that is not there changes nothing. -/
theorem deleteIdempotencyKey_absent (h : db.findIdempotencyKey key = none) :
    db.deleteIdempotencyKey key = db := by
  have hrows : db.idempotencyKeys.filter (·.key ≠ key) = db.idempotencyKeys := by
    rw [List.filter_eq_self]
    intro row hrow
    have hne := List.find?_eq_none.mp h row hrow
    simpa using hne
  unfold Database.deleteIdempotencyKey
  rw [hrows]

theorem findIdempotencyKey_add_self (absent : db.findIdempotencyKey row.key = none) :
    (db.addIdempotencyKey row).findIdempotencyKey row.key = some row := by
  unfold Database.findIdempotencyKey at absent ⊢
  unfold Database.addIdempotencyKey
  rw [List.find?_append, absent]
  simp

theorem findIdempotencyKey_add_ne (h : other ≠ row.key) :
    (db.addIdempotencyKey row).findIdempotencyKey other = db.findIdempotencyKey other := by
  unfold Database.findIdempotencyKey Database.addIdempotencyKey
  rw [List.find?_append]
  have hnone : [row].find? (·.key = other) = none := by
    rw [List.find?_singleton]
    simp [Ne.symm h]
  rw [hnone, Option.or_none]

variable {f : IdempotencyKey → IdempotencyKey}

theorem findIdempotencyKey_update_self (hf : ∀ row, (f row).key = row.key) :
    (db.updateIdempotencyKey key f).findIdempotencyKey key
      = (db.findIdempotencyKey key).map f := by
  unfold Database.findIdempotencyKey Database.updateIdempotencyKey update
  rw [List.find?_map]
  have htest : ((fun row : IdempotencyKey => decide (row.key = key)) ∘ fun row =>
      if row.key = key then f row else row) = fun row => decide (row.key = key) := by
    funext row
    by_cases h : row.key = key
    · simp [h, hf]
    · simp [h]
  rw [htest]
  cases h : db.idempotencyKeys.find? (fun row => decide (row.key = key)) with
  | none => rfl
  | some row =>
      have hkey : row.key = key := by simpa using List.find?_some h
      simp [hkey]

theorem findIdempotencyKey_update_ne (hf : ∀ row, (f row).key = row.key) (h : other ≠ key) :
    (db.updateIdempotencyKey key f).findIdempotencyKey other = db.findIdempotencyKey other := by
  unfold Database.findIdempotencyKey Database.updateIdempotencyKey update
  rw [List.find?_map]
  have htest : ((fun row : IdempotencyKey => decide (row.key = other)) ∘ fun row =>
      if row.key = key then f row else row) = fun row => decide (row.key = other) := by
    funext row
    by_cases hrow : row.key = key
    · simp [hrow, hf]
    · simp [hrow]
  rw [htest]
  cases hfind : db.idempotencyKeys.find? (fun row => decide (row.key = other)) with
  | none => rfl
  | some row =>
      have hkey : row.key = other := by simpa using List.find?_some hfind
      simp [hkey, h]

theorem findIdempotencyKey_answered_self (response : Dict) (statusCode : Int)
    (updatedAt : DateTime) (found : db.findIdempotencyKey key = some row) :
    (db.updateIdempotencyKey key (·.answered response statusCode updatedAt)).findIdempotencyKey key
      = some (row.answered response statusCode updatedAt) := by
  rw [findIdempotencyKey_update_self (fun _ => by rfl), found]
  rfl

theorem findIdempotencyKey_answered_ne (response : Dict) (statusCode : Int) (updatedAt : DateTime)
    (h : other ≠ key) :
    (db.updateIdempotencyKey key (·.answered response statusCode updatedAt)).findIdempotencyKey
        other = db.findIdempotencyKey other := by
  rw [findIdempotencyKey_update_ne (fun _ => by rfl) h]

theorem keys_updateIdempotencyKey (db : Database) (key : String)
    (hf : ∀ row, (f row).key = row.key) :
    (db.updateIdempotencyKey key f).idempotencyKeys.map (·.key)
      = db.idempotencyKeys.map (·.key) :=
  map_update_of_eq (fun row _ => hf row) _

end keys

/-! ## §2. `start_request`. -/

/-- A flush takes a statement, and the clock moves on. -/
theorem flush_later {s t : Session Database} {u : Unit} (h : (flush : App Unit) s = .ok u t) :
    ∃ n, s.tick < n ∧ t = s.goto s.working n := by
  obtain ⟨_, v, hv, h⟩ := bind_eq_ok.mp h
  obtain ⟨-, rfl⟩ := statement_ok hv
  unfold checkKeys at h
  split at h
  next =>
    simp only [EStateM.Result.ok.injEq] at h
    exact ⟨s.tick + 1, by omega, h.2.symm⟩
  next => exact nomatch h

theorem quiet_reserveKey (key requestHash : String) (ttl : Int) :
    Quiet (reserveKey key requestHash ttl) :=
  quiet_now.bind fun _ => quiet_now.bind fun _ => quiet_now.bind fun _ =>
    (quiet_write _).bind fun _ => quiet_flush

theorem reserveKey_ok {key requestHash : String} {ttl : Int} {s t : Session Database} {u : Unit}
    (h : reserveKey key requestHash ttl s = .ok u t) :
    ∃ n, s.tick + 3 ≤ n ∧ t = s.goto (s.working.addIdempotencyKey (newIdempotencyKey key
        requestHash (s.world.now s.tick + ttl) (s.world.now (s.tick + 1))
        (s.world.now (s.tick + 2)))) n := by
  unfold reserveKey at h
  rw [bind_of_ok (now_apply _), bind_of_ok (now_apply _), bind_of_ok (now_apply _),
    bind_of_ok (write_apply _ _)] at h
  obtain ⟨n, hn, rfl⟩ := flush_later h
  exact ⟨n, le_of_lt hn, rfl⟩

/-- The row a request flushes when its key is new or has expired: the times
are readings of its clock, one after another. -/
structure Reserved (key requestHash : String) (ttl : Int) (s : Session Database)
    (row : IdempotencyKey) (readAt startedAt : Nat) : Prop where
  row_eq : row = newIdempotencyKey key requestHash (s.world.now startedAt + ttl)
    (s.world.now (startedAt + 1)) (s.world.now (startedAt + 2))
  tick_le : s.tick ≤ readAt
  readAt_lt : readAt < startedAt
  expired : ∀ existing, s.working.findIdempotencyKey key = some existing →
    existing.isExpired (s.world.now readAt) = true

/-- The row a request finds under its key, alive when it reads the clock. -/
structure Living (key : String) (s : Session Database) (existing : IdempotencyKey)
    (readAt : Nat) : Prop where
  found : s.working.findIdempotencyKey key = some existing
  tick_le : s.tick ≤ readAt
  live : existing.isExpired (s.world.now readAt) = false

/-- **`start_request` returned**: it answered from a live row, or it put its
own row in place of an expired one. -/
theorem startRequest_ok {codecs : Codecs} {ttl : Int} {key : String} {body : Dict}
    {s t : Session Database} {result : Option IdempotencyRecord}
    (h : startRequest codecs ttl key body s = .ok result t) :
    (∃ existing readAt record n, Living key s existing readAt ∧ readAt < n
        ∧ existing.answer (hashRequestBody codecs body) = .ok record
        ∧ result = some record ∧ t = s.goto s.working n)
      ∨ (result = none ∧ ∃ row readAt startedAt n,
          Reserved key (hashRequestBody codecs body) ttl s row readAt startedAt
            ∧ startedAt + 3 ≤ n
            ∧ t = s.goto ((s.working.deleteIdempotencyKey key).addIdempotencyKey row) n) := by
  obtain ⟨found, v, hv, h⟩ := bind_eq_ok.mp h
  obtain ⟨rfl, rfl⟩ := query_tick hv
  cases hfind : s.working.findIdempotencyKey key with
  | none =>
      rw [hfind] at h
      obtain ⟨_, w, hw, h⟩ := bind_eq_ok.mp h
      obtain ⟨n, hn, rfl⟩ := reserveKey_ok hw
      simp only [pure_apply, EStateM.Result.ok.injEq] at h
      obtain ⟨rfl, rfl⟩ := h
      refine .inr ⟨rfl, _, s.tick, s.tick + 1, n, ⟨rfl, le_refl _, by omega, ?_⟩, hn, ?_⟩
      · intro existing hexisting
        rw [hfind] at hexisting
        exact nomatch hexisting
      · rw [deleteIdempotencyKey_absent hfind]
        rfl
  | some existing =>
      rw [hfind] at h
      obtain ⟨readAt, v, hv, h⟩ := bind_eq_ok.mp h
      simp only [now_apply, goto_world, goto_tick, goto_working, goto_goto,
        EStateM.Result.ok.injEq] at hv
      -- an expired row is deleted and replaced, a live one answers
      by_cases hexpired : existing.isExpired readAt = true
      · rw [if_pos hexpired] at h
        obtain ⟨rfl, rfl⟩ := hv
        obtain ⟨_, v, hv, h⟩ := bind_eq_ok.mp h
        simp only [write_apply, goto_working, goto_tick, goto_goto, EStateM.Result.ok.injEq] at hv
        obtain ⟨-, rfl⟩ := hv
        obtain ⟨_, v, hv, h⟩ := bind_eq_ok.mp h
        obtain ⟨m, hm, rfl⟩ := flush_later hv
        obtain ⟨_, w, hw, h⟩ := bind_eq_ok.mp h
        obtain ⟨n, hn, rfl⟩ := reserveKey_ok hw
        simp only [goto_tick] at hm hn
        simp only [pure_apply, EStateM.Result.ok.injEq] at h
        obtain ⟨rfl, rfl⟩ := h
        refine .inr ⟨rfl, _, s.tick + 1, m, n, ⟨rfl, by omega, by omega, ?_⟩, hn, rfl⟩
        intro existing' hexisting
        rw [hfind, Option.some.injEq] at hexisting
        rw [← hexisting]
        exact hexpired
      · rw [if_neg hexpired] at h
        obtain ⟨rfl, rfl⟩ := hv
        obtain ⟨record, hrecord, h⟩ := ofExcept_bind_eq_ok.mp h
        simp only [pure_apply, EStateM.Result.ok.injEq] at h
        obtain ⟨rfl, rfl⟩ := h
        exact .inl ⟨existing, s.tick + 1, record, s.tick + 2,
          ⟨hfind, by omega, Bool.eq_false_iff.mpr hexpired⟩, by omega, hrecord, rfl, rfl⟩

theorem noRaise_reserveKey (key requestHash : String) (ttl : Int) :
    NoRaise (reserveKey key requestHash ttl) :=
  noRaise_now.bind fun _ => noRaise_now.bind fun _ => noRaise_now.bind fun _ =>
    (noRaise_write _).bind fun _ => noRaise_flush

/-- **`start_request` raised**: a live row refused the request. -/
theorem startRequest_raised {codecs : Codecs} {ttl : Int} {key : String} {body : Dict}
    {s t : Session Database} {error : PyError}
    (h : startRequest codecs ttl key body s = .error (.raised error) t) :
    ∃ existing readAt, Living key s existing readAt ∧ readAt < t.tick
      ∧ existing.answer (hashRequestBody codecs body) = .error error := by
  rcases bind_eq_error.mp h with h | ⟨found, v, hv, h⟩
  · exact absurd h (noRaise_query _ s error t)
  obtain ⟨rfl, rfl⟩ := query_tick hv
  cases hfind : s.working.findIdempotencyKey key with
  | none =>
      rw [hfind] at h
      exact absurd h (((noRaise_reserveKey _ _ _).bind fun _ => noRaise_pure _) _ error t)
  | some existing =>
      rw [hfind] at h
      rcases bind_eq_error.mp h with h | ⟨readAt, v, hv, h⟩
      · exact absurd h (noRaise_now _ error t)
      simp only [now_apply, goto_world, goto_tick, goto_working, goto_goto,
        EStateM.Result.ok.injEq] at hv
      -- only a live row raises: replacing an expired one does not
      by_cases hexpired : existing.isExpired readAt = true
      · rw [if_pos hexpired] at h
        have hreplace := (noRaise_write (·.deleteIdempotencyKey key)).bind fun _ =>
          noRaise_flush.bind fun _ =>
          (noRaise_reserveKey key (hashRequestBody codecs body) ttl).bind fun _ =>
            noRaise_pure (none : Option IdempotencyRecord)
        exact absurd h (hreplace _ error t)
      · rw [if_neg hexpired] at h
        obtain ⟨rfl, rfl⟩ := hv
        rcases ofExcept_bind_eq_raised.mp h with ⟨herror, rfl⟩ | ⟨record, -, h⟩
        · exact ⟨existing, s.tick + 1, ⟨hfind, by omega, Bool.eq_false_iff.mpr hexpired⟩,
            Nat.lt_succ_self _, herror⟩
        · exact nomatch h

theorem quiet_startRequest (codecs : Codecs) (ttl : Int) (key : String) (body : Dict) :
    Quiet (startRequest codecs ttl key body) := by
  refine (quiet_query _).bind fun found => ?_
  cases found with
  | none => exact (quiet_reserveKey _ _ _).bind fun _ => quiet_pure _
  | some existing =>
      refine quiet_now.bind fun readAt => quiet_ite ?_ ?_
      · exact (quiet_write _).bind fun _ => quiet_flush.bind fun _ =>
          (quiet_reserveKey _ _ _).bind fun _ => quiet_pure _
      · exact (quiet_ofExcept _).bind fun _ => quiet_pure _

/-! ## §3. The route before and after `create_order`. -/

theorem quiet_answerFromKey (codecs : Codecs) (payload : OrderCreate)
    (idempotencyKey : Option String) : Quiet (answerFromKey codecs payload idempotencyKey) := by
  cases idempotencyKey with
  | none => exact quiet_pure _
  | some key =>
      refine (quiet_startRequest _ _ _ _).attempt.bind fun result => ?_
      rcases result with detail | _ | storedResponse
      · exact quiet_pure _
      · exact quiet_pure _
      · exact (quiet_ofExcept _).bind fun _ => quiet_pure _

/-- The replies of requests that place no order: a SKU is not on sale, or the
key answers. -/
inductive Unplaced (codecs : Codecs) (payload : OrderCreate) (idempotencyKey : Option String)
    (s : Session Database) (final : Nat) : Reply → Prop where
  | notFound (detail : String)
      (vacant : ∀ key existing, idempotencyKey = some key →
        s.working.findIdempotencyKey key = some existing →
          ∃ readAt, s.tick ≤ readAt ∧ readAt < final
            ∧ existing.isExpired (s.world.now readAt) = true) :
      Unplaced codecs payload idempotencyKey s final (.httpException HTTP_404_NOT_FOUND detail)
  | stored {key : String} {existing : IdempotencyKey} {readAt : Nat} {record : IdempotencyRecord}
      {body : Dict} (keyed_by : idempotencyKey = some key) (living : Living key s existing readAt)
      (readAt_lt : readAt < final)
      (answer : existing.answer (hashRequestBody codecs payload.modelDump) = .ok record)
      (valid : codecs.validateOrderRead record.responseBody = .ok body) :
      Unplaced codecs payload idempotencyKey s final (.response record.statusCode body)
  | conflict {key : String} {existing : IdempotencyKey} {readAt : Nat} {error : PyError}
      {detail : String} (keyed_by : idempotencyKey = some key)
      (living : Living key s existing readAt) (readAt_lt : readAt < final)
      (answer : existing.answer (hashRequestBody codecs payload.modelDump) = .error error)
      (caught : idempotencyError error = some detail) :
      Unplaced codecs payload idempotencyKey s final (.httpException HTTP_409_CONFLICT detail)

/-- The reply a row has for a request, if its response is a valid one. -/
def IdempotencyKey.reply? (codecs : Codecs) (requestHash : String) (existing : IdempotencyKey) :
    Option Reply :=
  match existing.answer requestHash with
  | .error error => (idempotencyError error).map (.httpException HTTP_409_CONFLICT)
  | .ok record =>
      match codecs.validateOrderRead record.responseBody with
      | .ok body => some (.response record.statusCode body)
      | .error _ => none

/-- **A request ends at its key** with the reply of a live row. -/
theorem answerFromKey_replied {codecs : Codecs} {payload : OrderCreate} {key : String}
    {s t : Session Database} {reply : Reply}
    (h : answerFromKey codecs payload (some key) s = .ok (some reply) t) :
    ∃ existing readAt, Living key s existing readAt ∧ readAt < t.tick
      ∧ existing.reply? codecs (hashRequestBody codecs payload.modelDump) = some reply := by
  unfold IdempotencyKey.reply?
  obtain ⟨result, u, hu, h⟩ := bind_eq_ok.mp h
  rcases attempt_ok hu with ⟨found, rfl, hstart⟩ | ⟨error, detail, rfl, hstart, hcaught⟩
  · rcases startRequest_ok hstart with
      ⟨existing, readAt, record, n, living, hn, hanswer, rfl, rfl⟩ | ⟨rfl, -⟩
    · obtain ⟨body, hbody, h⟩ := ofExcept_bind_eq_ok.mp h
      simp only [pure_apply, EStateM.Result.ok.injEq, Option.some.injEq] at h
      obtain ⟨rfl, rfl⟩ := h
      refine ⟨existing, readAt, living, hn, ?_⟩
      simp only [hanswer, hbody]
    · simp at h
  · obtain ⟨existing, readAt, living, hn, hanswer⟩ := startRequest_raised hstart
    simp only [pure_apply, EStateM.Result.ok.injEq, Option.some.injEq] at h
    obtain ⟨rfl, rfl⟩ := h
    refine ⟨existing, readAt, living, hn, ?_⟩
    simp only [hanswer, hcaught, Option.map_some]

/-- The reply of a live row places no order. -/
theorem Unplaced.of_reply? {codecs : Codecs} {payload : OrderCreate} {key : String}
    {s : Session Database} {final readAt : Nat} {existing : IdempotencyKey} {reply : Reply}
    (living : Living key s existing readAt) (readAt_lt : readAt < final)
    (h : existing.reply? codecs (hashRequestBody codecs payload.modelDump) = some reply) :
    Unplaced codecs payload (some key) s final reply := by
  unfold IdempotencyKey.reply? at h
  cases hanswer : existing.answer (hashRequestBody codecs payload.modelDump) with
  | error error =>
      simp only [hanswer, Option.map_eq_some_iff] at h
      obtain ⟨detail, hcaught, rfl⟩ := h
      exact .conflict rfl living readAt_lt hanswer hcaught
  | ok record =>
      cases hvalid : codecs.validateOrderRead record.responseBody with
      | error error => simp [hanswer, hvalid] at h
      | ok body =>
          simp only [hanswer, hvalid, Option.some.injEq] at h
          rw [← h]
          exact .stored rfl living readAt_lt hanswer hvalid

theorem answerFromKey_some {codecs : Codecs} {payload : OrderCreate}
    {idempotencyKey : Option String} {s t : Session Database} {reply : Reply}
    (h : answerFromKey codecs payload idempotencyKey s = .ok (some reply) t) :
    Unplaced codecs payload idempotencyKey s t.tick reply := by
  cases idempotencyKey with
  | none => simp [answerFromKey] at h
  | some key =>
      obtain ⟨existing, readAt, living, hlt, hreply⟩ := answerFromKey_replied h
      exact .of_reply? living hlt hreply

/-- **A request goes on to `create_order`** without a key, or with its own
row in the session. -/
theorem answerFromKey_none {codecs : Codecs} {payload : OrderCreate}
    {idempotencyKey : Option String} {s t : Session Database}
    (h : answerFromKey codecs payload idempotencyKey s = .ok none t) :
    (idempotencyKey = none ∧ t = s)
      ∨ ∃ key row readAt startedAt n, idempotencyKey = some key
          ∧ Reserved key (hashRequestBody codecs payload.modelDump) DEFAULT_TTL s row readAt
              startedAt
          ∧ startedAt + 3 ≤ n
          ∧ t = s.goto ((s.working.deleteIdempotencyKey key).addIdempotencyKey row) n := by
  cases idempotencyKey with
  | none =>
      simp only [answerFromKey, pure_apply, EStateM.Result.ok.injEq] at h
      exact .inl ⟨rfl, h.2.symm⟩
  | some key =>
      obtain ⟨result, u, hu, h⟩ := bind_eq_ok.mp h
      rcases attempt_ok hu with ⟨found, rfl, hstart⟩ | ⟨error, detail, rfl, -, -⟩
      · rcases startRequest_ok hstart with ⟨existing, readAt, record, n, -, -, -, rfl, rfl⟩
          | ⟨rfl, row, readAt, startedAt, n, hreserved, hn, rfl⟩
        · obtain ⟨body, -, h⟩ := ofExcept_bind_eq_ok.mp h
          simp at h
        · simp only [pure_apply, EStateM.Result.ok.injEq] at h
          exact .inr ⟨key, row, readAt, startedAt, n, rfl, hreserved, hn, h.2.symm⟩
      · simp at h

/-- The rows of `store_response`, before its COMMIT. -/
theorem storeResponse_ok {key : String} {responseBody : Dict} {statusCode : Int}
    {s t : Session Database} {u : Unit}
    (h : storeResponse key responseBody statusCode s = .ok u t) :
    ∃ updatedAt n, s.tick ≤ updatedAt ∧ updatedAt < n
      ∧ t = s.goto (s.working.updateIdempotencyKey key
          (·.answered responseBody statusCode (s.world.now updatedAt))) n := by
  obtain ⟨found, v, hv, h⟩ := bind_eq_ok.mp h
  obtain ⟨rfl, rfl⟩ := query_tick hv
  cases hfind : s.working.findIdempotencyKey key with
  | none => simp [hfind] at h
  | some record =>
      rw [hfind] at h
      obtain ⟨_, w, hw, h⟩ := bind_eq_ok.mp h
      simp only [now_apply, goto_world, goto_tick, goto_working, goto_goto,
        EStateM.Result.ok.injEq] at hw
      obtain ⟨rfl, rfl⟩ := hw
      obtain ⟨_, w, hw, h⟩ := bind_eq_ok.mp h
      simp only [write_apply, goto_working, goto_tick, goto_goto, EStateM.Result.ok.injEq] at hw
      obtain ⟨-, rfl⟩ := hw
      obtain ⟨n, hn, rfl⟩ := flush_later h
      simp only [goto_tick] at hn
      exact ⟨s.tick + 1, n, by omega, by omega, rfl⟩

theorem quiet_storeResponse (key : String) (responseBody : Dict) (statusCode : Int) :
    Quiet (storeResponse key responseBody statusCode) := by
  refine (quiet_query _).bind fun found => ?_
  cases found with
  | none => exact quiet_raise _
  | some record => exact quiet_now.bind fun _ => (quiet_write _).bind fun _ => quiet_flush

/-! ## §4. `create_order` inside the route. -/

/-- The lines of a new order are the only ones that carry its identifier. -/
theorem itemsOf_placed {db : Database}
    (owned : ∀ row ∈ db.orderItems, ∃ order ∈ db.orders, order.id = row.orderId)
    {payload : OrderCreate} {order : Order} {items : List OrderItem} {new : OutboxEvent}
    (placed : Placed db payload order items new)
    (keyed' : ((db.addOrder order items).addOutboxEvent new).Keyed) :
    ((db.addOrder order items).addOutboxEvent new).itemsOf order.id = items := by
  obtain ⟨lines, _, _, _, -, -, hcopies, -⟩ := placed.event
  have hnew : ∀ row ∈ items, row.orderId = order.id := by
    intro row hrow
    obtain ⟨i, hi, rfl⟩ := List.mem_iff_getElem.mp hrow
    exact (hcopies.get (by rw [hcopies.length_eq]; exact hi) hi).1
  have hold : ∀ row ∈ db.orderItems, row.orderId ≠ order.id := by
    intro row hrow heq
    obtain ⟨other, hother, hid⟩ := owned row hrow
    have hids : ((db.orders ++ [order]).map (·.id)).Nodup := keyed'.orders
    exact fresh_of_nodup hids other hother (hid.trans heq)
  show (db.orderItems ++ items).filter _ = items
  rw [List.filter_append, List.filter_eq_nil_iff.mpr, List.filter_eq_self.mpr, List.nil_append]
  · intro row hrow
    exact decide_eq_true (hnew row hrow)
  · intro row hrow hid
    exact hold row hrow (of_decide_eq_true hid)

/-- `create_order` returns the order it committed, with its lines. -/
theorem createOrder_ok {payload : OrderCreate} {s t : Session Database}
    (owned : ∀ row ∈ s.working.orderItems, ∃ order ∈ s.working.orders, order.id = row.orderId)
    {saved : Order × List OrderItem} (h : createOrder payload s = .ok saved t) :
    ∃ new n, Placed s.working payload saved.1 saved.2 new
      ∧ (∃ drawnAt, s.tick < drawnAt ∧ new.correlationId = s.world.uuid4 drawnAt)
      ∧ ((s.working.addOrder saved.1 saved.2).addOutboxEvent new).Keyed
      ∧ t = { s.goto ((s.working.addOrder saved.1 saved.2).addOutboxEvent new) n with
          committed := (s.working.addOrder saved.1 saved.2).addOutboxEvent new } := by
  obtain ⟨order, u, hu, h⟩ := bind_eq_ok.mp h
  obtain ⟨items, new, n, placed, drawn, rfl⟩ := placeOrder_draws hu
  obtain ⟨_, v, hv, h⟩ := bind_eq_ok.mp h
  obtain ⟨hk, m, rfl⟩ := commit_keyed hv
  simp only [goto_working] at hk
  obtain ⟨found, w, hw, h⟩ := bind_eq_ok.mp h
  obtain ⟨rfl, k, rfl⟩ := query_ok hw
  -- the order that is read back is the one just committed
  have hfind : ((s.working.addOrder order items).addOutboxEvent new).orders.find? (·.id = order.id)
      = some order :=
    find_row hk.orders (List.mem_append_right _ (List.mem_singleton.mpr rfl))
  have hsaved : ((((s.working.addOrder order items).addOutboxEvent new).orders.find?
      (·.id = order.id)).map fun found =>
        (found, ((s.working.addOrder order items).addOutboxEvent new).itemsOf order.id))
      = some (order, items) := by
    rw [hfind, Option.map_some, itemsOf_placed owned placed hk]
  simp only [goto_working] at h
  rw [hsaved] at h
  simp only [pure_apply, EStateM.Result.ok.injEq] at h
  obtain ⟨rfl, rfl⟩ := h
  exact ⟨new, k, placed, drawn, hk, rfl⟩

/-- A SKU that is not on sale is noticed before the COMMIT. -/
theorem createOrder_caught {payload : OrderCreate} {s t : Session Database} {error : PyError}
    {detail : String} (h : createOrder payload s = .error (.raised error) t)
    (caught : inventoryItemNotFoundError error = some detail) :
    placeOrder payload s = .error (.raised error) t := by
  rcases bind_eq_error.mp h with h | ⟨order, u, hu, h⟩
  · exact h
  · rcases bind_eq_error.mp h with h | ⟨_, v, -, h⟩
    · exact absurd h (noRaise_commit u error t)
    · -- what is raised after the COMMIT is another exception
      rcases bind_eq_error.mp h with h | ⟨found, w, -, h⟩
      · exact absurd h (noRaise_query _ v error t)
      · cases found with
        | some saved => simp at h
        | none =>
            simp only [raise_apply, EStateM.Result.error.injEq, Failure.raised.injEq] at h
            rw [← h.1] at caught
            simp [inventoryItemNotFoundError] at caught

theorem createOrder_notFound {payload : OrderCreate} {s t : Session Database} {error : PyError}
    {detail : String} (h : createOrder payload s = .error (.raised error) t)
    (caught : inventoryItemNotFoundError error = some detail) : t.committed = s.committed := by
  have hquiet := quiet_placeOrder payload s
  rw [createOrder_caught h caught] at hquiet
  exact hquiet.1

/-! ## §5. The whole request. -/

/-- The rows of an order under a key, as the COMMIT of `create_order` leaves
them. -/
def Database.addKeyedOrder (row : IdempotencyKey) (order : Order) (items : List OrderItem)
    (new : OutboxEvent) (db : Database) : Database :=
  (((db.deleteIdempotencyKey row.key).addIdempotencyKey row).addOrder order items).addOutboxEvent
    new

/-- The key row is no line of the order. -/
theorem itemsOf_addKeyedOrder {db : Database} (keyed : db.Keyed) {payload : OrderCreate}
    {row : IdempotencyKey} {order : Order} {items : List OrderItem} {new : OutboxEvent}
    (placed : Placed db payload order items new)
    (keyed' : (db.addKeyedOrder row order items new).Keyed) :
    (db.addKeyedOrder row order items new).itemsOf order.id = items := by
  have hplaced : Placed ((db.deleteIdempotencyKey row.key).addIdempotencyKey row) payload order
      items new := placed.of_inventory rfl
  refine itemsOf_placed ?_ hplaced keyed'
  exact keyed.orderItemsOrders

/-- **What a POST request leaves behind**, by what it answers: nothing, an
order without a key, the key row together with the order, or these with the
response in the row. -/
inductive PostEffect (codecs : Codecs) (payload : OrderCreate) (idempotencyKey : Option String)
    (s : Session Database) (final : Nat) : Option Reply → Database → Prop where
  | nothing {reply : Option Reply}
      (unplaced : ∀ r, reply = some r → Unplaced codecs payload idempotencyKey s final r) :
      PostEffect codecs payload idempotencyKey s final reply s.working
  | ordered {reply : Option Reply} {order : Order} {items : List OrderItem} {new : OutboxEvent}
      (unkeyed : idempotencyKey = none)
      (placed : Placed s.working payload order items new)
      (keyed : ((s.working.addOrder order items).addOutboxEvent new).Keyed)
      (answer : ∀ r, reply = some r →
        r = .response HTTP_201_CREATED (orderRead codecs order items)) :
      PostEffect codecs payload idempotencyKey s final reply
        ((s.working.addOrder order items).addOutboxEvent new)
  | placed {key : String} {row : IdempotencyKey} {readAt startedAt : Nat} {order : Order}
      {items : List OrderItem} {new : OutboxEvent}
      (keyed_by : idempotencyKey = some key)
      (reserved : Reserved key (hashRequestBody codecs payload.modelDump) DEFAULT_TTL s row readAt
        startedAt)
      (startedAt_lt : startedAt < final)
      (placed : Placed s.working payload order items new)
      (keyed : (s.working.addKeyedOrder row order items new).Keyed) :
      PostEffect codecs payload idempotencyKey s final none
        (s.working.addKeyedOrder row order items new)
  | answered {key : String} {row : IdempotencyKey} {readAt startedAt updatedAt : Nat}
      {order : Order} {items : List OrderItem} {new : OutboxEvent}
      (keyed_by : idempotencyKey = some key)
      (reserved : Reserved key (hashRequestBody codecs payload.modelDump) DEFAULT_TTL s row readAt
        startedAt)
      (startedAt_lt : startedAt < final)
      (placed : Placed s.working payload order items new)
      (keyed : (s.working.addKeyedOrder row order items new).Keyed) :
      PostEffect codecs payload idempotencyKey s final
        (some (.response HTTP_201_CREATED (orderRead codecs order items)))
        ((s.working.addKeyedOrder row order items new).updateIdempotencyKey key
          (·.answered (orderRead codecs order items) HTTP_201_CREATED (s.world.now updatedAt)))

section forward

theorem forward_emit (draft : EventDraft) : Forward (emit draft) := by
  refine (forward_uuid4.bind fun _ => forward_now.bind fun _ => (forward_write _).bind fun _ =>
    forward_pure _).bind fun event => ?_
  refine Forward.bind ?_ fun _ => forward_pure _
  refine forward_flush.bind fun _ => forward_dialect.bind fun name => ?_
  split
  · exact forward_pure _
  · exact forward_statement.bind fun _ => forward_pure _

theorem forward_createOrder (payload : OrderCreate) : Forward (createOrder payload) := by
  refine Forward.bind ?_ fun order => forward_commit.bind fun _ => ?_
  · exact (forward_priceLines _).bind fun _ => forward_uuid4.bind fun _ => forward_now.bind
      fun _ => (forward_orderRows _ _).bind fun _ => (forward_write _).bind fun _ =>
        forward_flush.bind fun _ => forward_uuid4.bind fun _ => (forward_emit _).bind fun _ =>
          forward_pure _
  · refine (forward_query _).bind fun found => ?_
    cases found with
    | none => exact forward_raise _
    | some saved => exact forward_pure _

theorem forward_keepResponse (orderResponse : Dict) (idempotencyKey : Option String) :
    Forward (keepResponse orderResponse idempotencyKey) := by
  cases idempotencyKey with
  | none => exact forward_pure _
  | some key =>
      refine Forward.bind ((forward_query _).bind fun found => ?_) fun _ => forward_commit
      cases found with
      | none => exact forward_raise _
      | some record => exact forward_now.bind fun _ => (forward_write _).bind fun _ => forward_flush

end forward

/-- The end of a request with a key: nothing more is committed, or the
response in the key's row. -/
theorem keepResponse_effect (orderResponse : Dict) (key : String) (s : Session Database) :
    (value? (keepResponse orderResponse (some key) s) = none
        ∧ (after (keepResponse orderResponse (some key) s)).committed = s.committed)
      ∨ ∃ updatedAt, value? (keepResponse orderResponse (some key) s) = some ()
          ∧ (after (keepResponse orderResponse (some key) s)).committed
              = s.working.updateIdempotencyKey key
                  (·.answered orderResponse HTTP_201_CREATED (s.world.now updatedAt)) := by
  have hquiet := quiet_storeResponse key orderResponse HTTP_201_CREATED s
  show (value? ((storeResponse key orderResponse HTTP_201_CREATED >>= fun _ => commit) s) = none
    ∧ (after ((storeResponse key orderResponse HTTP_201_CREATED >>= fun _ => commit) s)).committed
        = s.committed) ∨ _
  -- neither the UPDATE nor the COMMIT may have gone through
  cases hs : storeResponse key orderResponse HTTP_201_CREATED s with
  | error e t =>
      rw [hs] at hquiet
      rw [bind_of_error hs]
      exact .inl ⟨rfl, hquiet.1⟩
  | ok u t =>
      rw [hs] at hquiet
      obtain ⟨updatedAt, n, -, -, rfl⟩ := storeResponse_ok hs
      cases hc : (commit : App Unit) (s.goto (s.working.updateIdempotencyKey key
          (·.answered orderResponse HTTP_201_CREATED (s.world.now updatedAt))) n) with
      | error e v =>
          rw [bind_of_ok hs, hc]
          exact .inl ⟨rfl, (commit_error hc).1.trans hquiet.1⟩
      | ok _ v =>
          obtain ⟨-, m, rfl⟩ := commit_keyed hc
          refine .inr ⟨updatedAt, ?_, ?_⟩
          · show value? ((storeResponse key orderResponse HTTP_201_CREATED >>= fun _ => commit) s)
              = _
            rw [bind_of_ok hs, hc]
            rfl
          · show (after ((storeResponse key orderResponse HTTP_201_CREATED >>= fun _ =>
              commit) s)).committed = _
            rw [bind_of_ok hs, hc]
            rfl

/-- A request that goes on to `create_order` found no live row. -/
theorem vacant_of_reserved {idempotencyKey : Option String} {s : Session Database} {final : Nat}
    {key requestHash : String} {row : IdempotencyKey} {readAt startedAt : Nat}
    (keyed_by : idempotencyKey = some key)
    (reserved : Reserved key requestHash DEFAULT_TTL s row readAt startedAt)
    (startedAt_lt : startedAt < final) :
    ∀ key existing, idempotencyKey = some key → s.working.findIdempotencyKey key = some existing →
      ∃ readAt, s.tick ≤ readAt ∧ readAt < final
        ∧ existing.isExpired (s.world.now readAt) = true := by
  intro key' existing hkey hfind
  rw [keyed_by, Option.some.injEq] at hkey
  subst hkey
  have hlt := reserved.readAt_lt
  exact ⟨readAt, reserved.tick_le, by omega, reserved.expired existing hfind⟩

/-- What the route does from `create_order` on. -/
inductive Placing (codecs : Codecs) (payload : OrderCreate) (idempotencyKey : Option String)
    (t : Session Database) : Option Reply → Database → Prop where
  | failed : Placing codecs payload idempotencyKey t none t.committed
  | notFound (detail : String) :
      Placing codecs payload idempotencyKey t (some (.httpException HTTP_404_NOT_FOUND detail))
        t.committed
  | ordered {reply : Option Reply} {order : Order} {items : List OrderItem} {new : OutboxEvent}
      (placed : Placed t.working payload order items new)
      (keyed : ((t.working.addOrder order items).addOutboxEvent new).Keyed)
      (answer : ∀ r, reply = some r → idempotencyKey = none
        ∧ r = .response HTTP_201_CREATED (orderRead codecs order items)) :
      Placing codecs payload idempotencyKey t reply
        ((t.working.addOrder order items).addOutboxEvent new)
  | answered {key : String} {updatedAt : Nat} {order : Order} {items : List OrderItem}
      {new : OutboxEvent} (keyed_by : idempotencyKey = some key)
      (placed : Placed t.working payload order items new)
      (keyed : ((t.working.addOrder order items).addOutboxEvent new).Keyed) :
      Placing codecs payload idempotencyKey t
        (some (.response HTTP_201_CREATED (orderRead codecs order items)))
        (((t.working.addOrder order items).addOutboxEvent new).updateIdempotencyKey key
          (·.answered (orderRead codecs order items) HTTP_201_CREATED (t.world.now updatedAt)))

theorem placeAndReply_effect (codecs : Codecs) (payload : OrderCreate)
    (idempotencyKey : Option String) {t : Session Database}
    (owned : ∀ row ∈ t.working.orderItems, ∃ order ∈ t.working.orders, order.id = row.orderId) :
    Placing codecs payload idempotencyKey t
      (value? (placeAndReply codecs payload idempotencyKey t))
      (after (placeAndReply codecs payload idempotencyKey t)).committed := by
  unfold placeAndReply
  cases hc : attempt inventoryItemNotFoundError (createOrder payload) t with
  | error e u =>
      rw [bind_of_error hc, value?_error, after_error]
      have hcommitted := createOrder_committed payload t
      rw [attempt_error hc, after_error] at hcommitted
      rcases hcommitted with hcommitted | ⟨order, items, new, placed, hk, hcommitted⟩
      · rw [hcommitted]
        exact .failed
      · rw [hcommitted]
        exact .ordered placed hk fun r hr => nomatch hr
  | ok result u =>
      rw [bind_of_ok hc]
      rcases attempt_ok hc with ⟨⟨order, items⟩, rfl, hcreate⟩ | ⟨error, detail, rfl, hcreate, hcaught⟩
      · obtain ⟨new, n, placed, -, hk, rfl⟩ := createOrder_ok owned hcreate
        cases idempotencyKey with
        | none => exact .ordered placed hk fun r hr => ⟨rfl, (Option.some.inj hr).symm⟩
        | some key =>
            -- the order is committed; what is left is the response
            show Placing codecs payload (some key) t
              (value? ((keepResponse (orderRead codecs order items) (some key) >>= fun _ =>
                (pure (.response HTTP_201_CREATED (orderRead codecs order items)) : App Reply)) _))
              (after ((keepResponse (orderRead codecs order items) (some key) >>= fun _ =>
                (pure (.response HTTP_201_CREATED (orderRead codecs order items)) : App Reply))
                  _)).committed
            rcases keepResponse_effect (orderRead codecs order items) key _
              with ⟨hvalue, hcommitted⟩ | ⟨updatedAt, hvalue, hcommitted⟩
            · cases hk' : keepResponse (orderRead codecs order items) (some key) _ with
              | ok _ v => rw [hk'] at hvalue; exact nomatch hvalue
              | error e v =>
                  rw [hk', after_error] at hcommitted
                  rw [bind_of_error hk', value?_error, after_error, hcommitted]
                  exact .ordered placed hk fun r hr => nomatch hr
            · cases hk' : keepResponse (orderRead codecs order items) (some key) _ with
              | error e v => rw [hk'] at hvalue; exact nomatch hvalue
              | ok _ v =>
                  rw [hk', after_ok] at hcommitted
                  rw [bind_of_ok hk', pure_apply, value?_ok, after_ok, hcommitted]
                  exact .answered rfl placed hk
      · show Placing codecs payload idempotencyKey t
          (some (.httpException HTTP_404_NOT_FOUND detail)) u.committed
        rw [createOrder_notFound hcreate hcaught]
        exact .notFound detail

theorem forward_placeAndReply (codecs : Codecs) (payload : OrderCreate)
    (idempotencyKey : Option String) : Forward (placeAndReply codecs payload idempotencyKey) := by
  refine (forward_createOrder payload).attempt.bind fun result => ?_
  rcases result with detail | ⟨order, items⟩
  · exact forward_pure _
  · exact (forward_keepResponse _ _).bind fun _ => forward_pure _

/-- **A POST request**, wherever it stops: what it answers and what it leaves
behind. -/
theorem createOrderEndpoint_effect (codecs : Codecs) (payload : OrderCreate)
    (idempotencyKey : Option String) {s : Session Database} (hs : s.Clean)
    (keyed : s.working.Keyed) :
    PostEffect codecs payload idempotencyKey s
      (after (createOrderEndpoint codecs payload idempotencyKey s)).tick
      (value? (createOrderEndpoint codecs payload idempotencyKey s))
      (after (createOrderEndpoint codecs payload idempotencyKey s)).committed := by
  have hquiet := quiet_answerFromKey codecs payload idempotencyKey s
  unfold createOrderEndpoint
  cases h : answerFromKey codecs payload idempotencyKey s with
  | error e t =>
      rw [h, after_error] at hquiet
      rw [bind_of_error h, value?_error, after_error, hquiet.1, ← hs.2]
      exact .nothing fun r hr => nomatch hr
  | ok reply t =>
      rw [h, after_ok] at hquiet
      rw [bind_of_ok h]
      cases reply with
      | some reply =>
          show PostEffect codecs payload idempotencyKey s t.tick (some reply) t.committed
          rw [show t.committed = s.working from hquiet.1.trans hs.2.symm]
          refine .nothing fun r hr => ?_
          rw [← Option.some.inj hr]
          exact answerFromKey_some h
      | none =>
          show PostEffect codecs payload idempotencyKey s
            (after (placeAndReply codecs payload idempotencyKey t)).tick
            (value? (placeAndReply codecs payload idempotencyKey t))
            (after (placeAndReply codecs payload idempotencyKey t)).committed
          have hforward := forward_placeAndReply codecs payload idempotencyKey t
          have hcommitted : t.committed = s.working := hquiet.1.trans hs.2.symm
          generalize hfinal : (after (placeAndReply codecs payload idempotencyKey t)).tick = final
            at hforward ⊢
          -- no row answers: the request has no key, or it has reserved its row
          rcases answerFromKey_none h with ⟨rfl, rfl⟩
            | ⟨key, row, readAt, startedAt, n, rfl, reserved, hn, rfl⟩
          · have hplacing := placeAndReply_effect codecs payload none keyed.orderItemsOrders
            generalize value? (placeAndReply codecs payload none t) = reply,
              (after (placeAndReply codecs payload none t)).committed = db' at hplacing ⊢
            cases hplacing with
            | failed =>
                rw [hcommitted]
                exact .nothing fun r hr => nomatch hr
            | notFound detail =>
                rw [hcommitted]
                refine .nothing fun r hr => ?_
                rw [← Option.some.inj hr]
                exact .notFound detail fun key existing hkey => nomatch hkey
            | ordered placed hk answer => exact .ordered rfl placed hk fun r hr => (answer r hr).2
            | answered keyed_by => exact nomatch keyed_by
          · have hplacing := placeAndReply_effect codecs payload (some key)
              (t := s.goto ((s.working.deleteIdempotencyKey key).addIdempotencyKey row) n)
              keyed.orderItemsOrders
            have hrow : row.key = key := by
              rw [reserved.row_eq]
              rfl
            have hlt : startedAt < final := by
              have : n ≤ final := hforward
              omega
            generalize value? (placeAndReply codecs payload (some key) (s.goto
                ((s.working.deleteIdempotencyKey key).addIdempotencyKey row) n)) = reply,
              (after (placeAndReply codecs payload (some key) (s.goto
                ((s.working.deleteIdempotencyKey key).addIdempotencyKey row) n))).committed = db'
              at hplacing ⊢
            subst hrow
            cases hplacing with
            | failed =>
                rw [hcommitted]
                exact .nothing fun r hr => nomatch hr
            | notFound detail =>
                rw [hcommitted]
                refine .nothing fun r hr => ?_
                rw [← Option.some.inj hr]
                exact .notFound detail (vacant_of_reserved rfl reserved hlt)
            | @ordered reply order items new placed hk answer =>
                -- the COMMIT of the order went through, that of the response did not
                have hreply : reply = none := by
                  cases reply with
                  | none => rfl
                  | some r => exact nomatch (answer r rfl).1
                rw [hreply]
                exact .placed rfl reserved hlt (placed.of_inventory rfl) hk
            | answered keyed_by placed hk =>
                obtain rfl := Option.some.inj keyed_by
                exact .answered rfl reserved hlt (placed.of_inventory rfl) hk

theorem forward_createOrderEndpoint (codecs : Codecs) (payload : OrderCreate)
    (idempotencyKey : Option String) :
    Forward (createOrderEndpoint codecs payload idempotencyKey) := by
  have hreserve : ∀ key requestHash, Forward (reserveKey key requestHash DEFAULT_TTL) :=
    fun _ _ => forward_now.bind fun _ => forward_now.bind fun _ => forward_now.bind fun _ =>
      (forward_write _).bind fun _ => forward_flush
  refine Forward.bind ?_ fun reply => ?_
  · cases idempotencyKey with
    | none => exact forward_pure _
    | some key =>
        refine Forward.bind (Forward.attempt ((forward_query _).bind fun found => ?_))
          fun result => ?_
        · cases found with
          | none => exact (hreserve _ _).bind fun _ => forward_pure _
          | some existing =>
              refine forward_now.bind fun readAt => ?_
              split
              · exact (forward_write _).bind fun _ => forward_flush.bind fun _ =>
                  (hreserve _ _).bind fun _ => forward_pure _
              · exact (forward_ofExcept _).bind fun _ => forward_pure _
        · rcases result with detail | _ | storedResponse
          · exact forward_pure _
          · exact forward_pure _
          · exact (forward_ofExcept _).bind fun _ => forward_pure _
  · cases reply with
    | none => exact forward_placeAndReply codecs payload idempotencyKey
    | some reply => exact forward_pure _

/-! ## §6. A key that has not expired. -/

section live
variable {codecs : Codecs} {payload : OrderCreate} {key : String} {s t : Session Database}
  {row : IdempotencyKey} {final : Nat}

theorem Unplaced.of_live {reply : Reply}
    (h : Unplaced codecs payload (some key) s final reply)
    (found : s.working.findIdempotencyKey key = some row)
    (live : ∀ n < final, row.isExpired (s.world.now n) = false) :
    row.reply? codecs (hashRequestBody codecs payload.modelDump) = some reply := by
  unfold IdempotencyKey.reply?
  cases h with
  | notFound detail vacant =>
      obtain ⟨readAt, -, hlt, hexpired⟩ := vacant key row rfl found
      rw [live readAt hlt] at hexpired
      simp at hexpired
  | stored keyed_by living readAt_lt answer valid =>
      obtain rfl := Option.some.inj keyed_by
      obtain rfl := Option.some.inj (living.found.symm.trans found)
      simp only [answer, valid]
  | conflict keyed_by living readAt_lt answer caught =>
      obtain rfl := Option.some.inj keyed_by
      obtain rfl := Option.some.inj (living.found.symm.trans found)
      simp only [answer, caught, Option.map_some]

/-- What the route lets through before `create_order` is an invalid stored
response, or none of the exceptions it handles. -/
theorem answerFromKey_raised {error : PyError}
    (h : answerFromKey codecs payload (some key) s = .error (.raised error) t) :
    ∃ existing readAt, Living key s existing readAt ∧ readAt < t.tick
      ∧ existing.reply? codecs (hashRequestBody codecs payload.modelDump) = none := by
  unfold IdempotencyKey.reply?
  rcases bind_eq_error.mp h with h | ⟨result, u, hu, h⟩
  · obtain ⟨existing, readAt, living, hlt, hanswer⟩ := startRequest_raised (attempt_error h)
    refine ⟨existing, readAt, living, hlt, ?_⟩
    simp only [hanswer]
    cases hcaught : idempotencyError error with
    | none => rfl
    | some detail =>
        rw [attempt_of_caught (attempt_error h) hcaught] at h
        simp at h
  · rcases attempt_ok hu with ⟨found, rfl, hstart⟩ | ⟨_, detail, rfl, -, -⟩
    · rcases startRequest_ok hstart with
        ⟨existing, readAt, record, n, living, hn, hanswer, rfl, rfl⟩ | ⟨rfl, -⟩
      · rcases ofExcept_bind_eq_raised.mp h with ⟨hinvalid, rfl⟩ | ⟨body, -, h⟩
        · refine ⟨existing, readAt, living, hn, ?_⟩
          simp only [hanswer, hinvalid]
        · simp at h
      · simp at h
    · simp at h

/-- **A key that has not expired answers**: the request commits nothing, and
gets the reply of the row. -/
theorem createOrderEndpoint_live
    (found : s.working.findIdempotencyKey key = some row)
    (live : ∀ n < (after (createOrderEndpoint codecs payload (some key) s)).tick,
      row.isExpired (s.world.now n) = false) :
    (after (createOrderEndpoint codecs payload (some key) s)).committed = s.committed
      ∧ (∀ reply t, createOrderEndpoint codecs payload (some key) s = .ok reply t →
          row.reply? codecs (hashRequestBody codecs payload.modelDump) = some reply)
      ∧ ∀ error t, createOrderEndpoint codecs payload (some key) s = .error (.raised error) t →
          row.reply? codecs (hashRequestBody codecs payload.modelDump) = none := by
  have hquiet := quiet_answerFromKey codecs payload (some key) s
  cases h : answerFromKey codecs payload (some key) s with
  | error e u =>
      rw [h, after_error] at hquiet
      have hrun : createOrderEndpoint codecs payload (some key) s = .error e u :=
        bind_of_error h
      rw [hrun] at live ⊢
      refine ⟨hquiet.1, fun reply t ht => by simp at ht, fun error t ht => ?_⟩
      simp only [EStateM.Result.error.injEq] at ht
      obtain ⟨rfl, rfl⟩ := ht
      obtain ⟨existing, readAt, living, -, hreply⟩ := answerFromKey_raised h
      obtain rfl := Option.some.inj (living.found.symm.trans found)
      exact hreply
  | ok reply u =>
      rw [h, after_ok] at hquiet
      cases reply with
      | some reply =>
          have hrun : createOrderEndpoint codecs payload (some key) s = .ok reply u :=
            bind_of_ok h
          rw [hrun] at live ⊢
          refine ⟨hquiet.1, fun reply' t ht => ?_, fun error t ht => by simp at ht⟩
          simp only [EStateM.Result.ok.injEq] at ht
          rw [← ht.1]
          exact (answerFromKey_some h).of_live found live
      | none =>
          -- the row would have to be absent or expired
          have hrun : createOrderEndpoint codecs payload (some key) s
              = placeAndReply codecs payload (some key) u := bind_of_ok h
          rcases answerFromKey_none h with ⟨hnone, -⟩
            | ⟨key', fresh, readAt, startedAt, n, hkey, reserved, hn, rfl⟩
          · simp at hnone
          · obtain rfl := Option.some.inj hkey
            have hforward := forward_placeAndReply codecs payload (some key)
              (s.goto ((s.working.deleteIdempotencyKey key).addIdempotencyKey fresh) n)
            rw [goto_tick] at hforward
            have hlt := reserved.readAt_lt
            have hlive := live readAt (by rw [hrun]; omega)
            rw [reserved.expired row found] at hlive
            simp at hlive

end live

end EventCart
