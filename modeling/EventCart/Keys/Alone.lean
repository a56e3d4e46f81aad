/-
  EventCart.Keys.Alone
  ────────────────────
  **A REQUEST WITH NOBODY IN BETWEEN IS A RUN OF THE STEPS.**

  `createOrderEndpoint` runs a whole request on one session; the steps of
  `Keys.System` take the same request apart.  A request that nobody
  interrupts answers as some run of the steps does, and leaves the row under
  its key and the orders as that run leaves them, wherever it stops.

    §1  a state seen from one request;
    §2  the steps of one request;
    §3  the route before and after `create_order`;
    §4  a request (`request_runs`), and requests one after another
        (`requests_run`).
-/
import EventCart.Keys.Replies

namespace EventCart

open EventCart.Lib
open EventCart.Lib.Tx

/-! ## §1. A state seen from one request. -/

section standing
variable {ι : Type} [DecidableEq ι]

/-- Request `i` stands at `p`, the others where they stand in `k`. -/
def KeyState.standing (k : KeyState ι) (i : ι) (clock : DateTime) (slot : Slot ι (KeyRow ι))
    (log : List (Placement ι)) (p : RequestPhase ι) : KeyState ι :=
  ⟨clock, slot, fun j => if j = i then p else k.phase j, log⟩

variable {k : KeyState ι} {i : ι} {clock : DateTime} {slot : Slot ι (KeyRow ι)}
  {log : List (Placement ι)} {p p' : RequestPhase ι}

@[simp] theorem standing_phase : (k.standing i clock slot log p).phase i = p := if_pos rfl

@[simp] theorem standing_slot : (k.standing i clock slot log p).slot = slot := rfl

@[simp] theorem standing_clock : (k.standing i clock slot log p).clock = clock := rfl

@[simp] theorem standing_log : (k.standing i clock slot log p).log = log := rfl

theorem standing_ne {j : ι} (h : j ≠ i) :
    (k.standing i clock slot log p).phase j = k.phase j := if_neg h

@[simp] theorem standing_move :
    (k.standing i clock slot log p).move i p' = k.standing i clock slot log p' := by
  show (⟨clock, slot, fun j => if j = i then p' else if j = i then p else k.phase j, log⟩ :
    KeyState ι) = ⟨clock, slot, fun j => if j = i then p' else k.phase j, log⟩
  rw [KeyState.mk.injEq]
  refine ⟨rfl, rfl, ?_, rfl⟩
  funext j
  by_cases hj : j = i
  · simp [hj]
  · simp [hj]

@[simp] theorem standing_write {row : Option (KeyRow ι)} :
    (k.standing i clock slot log p).write i row p'
      = k.standing i clock (slot.write i row) log p' := by
  unfold KeyState.write
  rw [standing_move]
  rfl

@[simp] theorem standing_close {outcome : Outcome} :
    (k.standing i clock slot log p).close i outcome
      = k.standing i clock (slot.release i) log (.closed outcome) := by
  unfold KeyState.close
  rw [standing_move]
  rfl

theorem standing_self (phase : k.phase i = p) :
    k.standing i k.clock k.slot k.log p = k := by
  show (⟨k.clock, k.slot, fun j => if j = i then p else k.phase j, k.log⟩ : KeyState ι) = k
  have hphase : (fun j => if j = i then p else k.phase j) = k.phase := by
    funext j
    by_cases hj : j = i
    · rw [if_pos hj, hj, phase]
    · rw [if_neg hj]
  rw [hphase]

end standing

/-! ## §2. The steps of one request. -/

namespace KeyRequests

section steps
variable {ι : Type} [DecidableEq ι] {R : KeyRequests ι} {k : KeyState ι} {i : ι}
  {clock : DateTime} {slot : Slot ι (KeyRow ι)} {log : List (Placement ι)} {p : RequestPhase ι}

/-- Time passes. -/
theorem reaches_later {clock' : DateTime} (h : clock ≤ clock') :
    Reaches R.step (k.standing i clock slot log p) (k.standing i clock' slot log p) := by
  have hclock : clock + ((Int.toNat (clock' - clock) : Nat) : Int) = clock' := by
    rw [Int.toNat_of_nonneg (Int.sub_nonneg.mpr h)]
    exact add_sub_cancel clock clock'
  refine .head (.wait (Int.toNat (clock' - clock))) ?_
  show Reaches R.step (k.standing i (clock + _) slot log p) _
  rw [hclock]
  exact .refl _ _

/-- The key is unused. -/
theorem reaches_absent (empty : slot.committed = none) :
    Reaches R.step (k.standing i clock slot log .arrived) (k.standing i clock slot log .clear) := by
  refine .head (.lookup i) ?_
  show Reaches R.step (KeyRequests.lookup i (k.standing i clock slot log .arrived)) _
  simp only [KeyRequests.lookup, standing_phase, standing_slot, empty, standing_move]
  exact .refl _ _

/-- There is a row under the key. -/
theorem reaches_found {row : KeyRow ι} (row_eq : slot.committed = some row) :
    Reaches R.step (k.standing i clock slot log .arrived)
      (k.standing i clock slot log (.found row.record)) := by
  refine .head (.lookup i) ?_
  show Reaches R.step (KeyRequests.lookup i (k.standing i clock slot log .arrived)) _
  simp only [KeyRequests.lookup, standing_phase, standing_slot, row_eq, standing_move]
  exact .refl _ _

/-- It has not expired. -/
theorem reaches_answered {existing : IdempotencyKey} (live : existing.isExpired clock = false) :
    Reaches R.step (k.standing i clock slot log (.found existing))
      (k.standing i clock (slot.release i) log (.closed (R.answer i existing))) := by
  refine .head (.check i) ?_
  show Reaches R.step (R.check i (k.standing i clock slot log (.found existing))) _
  simp only [KeyRequests.check, standing_phase, standing_clock, live, Bool.false_eq_true, if_false,
    standing_close]
  exact .refl _ _

/-- It has expired, and is deleted. -/
theorem reaches_deleted {row : KeyRow ι} (expired : row.record.isExpired clock = true) :
    Reaches R.step (k.standing i clock ⟨some row, none⟩ log (.found row.record))
      (k.standing i clock ⟨some row, some (i, none)⟩ log .clear) := by
  refine .head (.check i) (.head (.sendDelete i) (.head (.delete i) ?_))
  show Reaches R.step (KeyRequests.delete i (KeyRequests.sendDelete i (R.check i
    (k.standing i clock ⟨some row, none⟩ log (.found row.record))))) _
  simp only [KeyRequests.check, KeyRequests.sendDelete, KeyRequests.delete, standing_phase,
    standing_clock, standing_slot, expired, if_true, standing_move, Slot.free, Option.all_none,
    Option.map_some, Option.isSome_some, Bool.true_and, decide_true, standing_write]
  exact .refl _ _

/-- A row of the request's own is inserted. -/
theorem reaches_reserved (free : slot.free i = true) (absent : slot.version i = none)
    (createdAt updatedAt : DateTime) :
    Reaches R.step (k.standing i clock slot log .clear)
      (k.standing i clock (slot.write i (some ⟨i, newIdempotencyKey R.key (R.hash i)
        (clock + R.ttl) createdAt updatedAt⟩)) log (.reserved log.length)) := by
  refine .head (.build i) (.head (.insert i createdAt updatedAt) ?_)
  show Reaches R.step (R.insert i createdAt updatedAt (R.build i
    (k.standing i clock slot log .clear))) _
  simp only [KeyRequests.build, KeyRequests.insert, standing_phase, standing_clock, standing_slot,
    standing_move, free, absent, if_true, standing_write, standing_log]
  exact .refl _ _

/-- The order is placed. -/
theorem reaches_placed {since : Nat} {t u : Session Database} {order : Order}
    (run : placeOrder (R.payload i) t = .ok order u) :
    Reaches R.step (k.standing i clock slot log (.reserved since))
      (k.standing i clock slot log (.placed since (.between order t u))) := by
  refine .head (.place i t) ?_
  show Reaches R.step (R.place i t (k.standing i clock slot log (.reserved since))) _
  simp only [KeyRequests.place, standing_phase, run, standing_move]
  exact .refl _ _

/-- A SKU is not on sale. -/
theorem reaches_notFound {since : Nat} {t u : Session Database} {error : PyError} {detail : String}
    (run : placeOrder (R.payload i) t = .error (.raised error) u)
    (caught : inventoryItemNotFoundError error = some detail) :
    Reaches R.step (k.standing i clock slot log (.reserved since))
      (k.standing i clock (slot.release i) log
        (.closed (.replied (.httpException HTTP_404_NOT_FOUND detail)))) := by
  refine .head (.place i t) ?_
  show Reaches R.step (R.place i t (k.standing i clock slot log (.reserved since))) _
  simp only [KeyRequests.place, standing_phase, run, caught, standing_close]
  exact .refl _ _

/-- `create_order` commits. -/
theorem reaches_committed {since : Nat} {new : Addition} {row : KeyRow ι}
    (row_eq : slot.version i = some row) :
    Reaches R.step (k.standing i clock slot log (.placed since new))
      (k.standing i clock (slot.commit i) (log ++ [⟨i, row.record, since, new, clock⟩])
        (.committed new.order)) := by
  refine .head (.commit i) ?_
  show Reaches R.step (KeyRequests.commit i (k.standing i clock slot log (.placed since new))) _
  simp only [KeyRequests.commit, standing_phase, standing_slot, row_eq, standing_move,
    standing_log, standing_clock]
  exact .refl _ _

/-- The order is read back. -/
theorem reaches_read {order saved : Order} {items : List OrderItem} {t u : Session Database}
    (run : savedOrder order.id t = .ok (saved, items) u) :
    Reaches R.step (k.standing i clock slot log (.committed order))
      (k.standing i clock slot log (.read (orderRead R.codecs saved items))) := by
  refine .head (.read i t) ?_
  show Reaches R.step (R.read i t (k.standing i clock slot log (.committed order))) _
  simp only [KeyRequests.read, standing_phase, run, standing_move]
  exact .refl _ _

/-- The response is kept, and sent. -/
theorem reaches_replied {row : KeyRow ι} {response : Dict} (updatedAt : DateTime) :
    Reaches R.step (k.standing i clock ⟨some row, none⟩ log (.read response))
      (k.standing i clock ⟨some { row with
          record := row.record.answered response HTTP_201_CREATED updatedAt }, none⟩ log
        (.closed (.replied (.response HTTP_201_CREATED response)))) := by
  refine .head (.find i) (.head (.sendUpdate i) (.head (.update i updatedAt) (.head (.finish i) ?_)))
  show Reaches R.step (KeyRequests.finish i (KeyRequests.update i updatedAt
    (KeyRequests.sendUpdate i (KeyRequests.find i
      (k.standing i clock ⟨some row, none⟩ log (.read response)))))) _
  simp only [KeyRequests.find, KeyRequests.sendUpdate, KeyRequests.update, KeyRequests.finish,
    standing_phase, standing_slot, standing_move, Slot.free, Option.all_none, if_true,
    Option.map_some, standing_write, Slot.write, Slot.commit]
  exact .refl _ _

/-- The request dies. -/
theorem reaches_gone (unclosed : ∀ outcome, p ≠ .closed outcome) :
    Reaches R.step (k.standing i clock slot log p)
      (k.standing i clock (slot.release i) log (.closed .gone)) := by
  refine .head (.abort i) ?_
  have habort : KeyRequests.abort i (k.standing i clock slot log p)
      = (k.standing i clock slot log p).close i .gone := by
    unfold KeyRequests.abort
    rw [standing_phase]
    cases p with
    | closed outcome => exact absurd rfl (unclosed outcome)
    | _ => rfl
  show Reaches R.step (KeyRequests.abort i (k.standing i clock slot log p)) _
  rw [habort, standing_close]
  exact .refl _ _

end steps

end KeyRequests

/-! ## §3. The route before and after `create_order`. -/

section route
variable {ι : Type} [DecidableEq ι] (R : KeyRequests ι)

/-- How a request ends that tells its client this much. -/
def outcomeOf (reply : Option Reply) : Outcome := reply.elim .gone .replied

/-- The row under the key, and what some new placements have added, are what
the tables say. -/
structure KeyRequests.Tells (row : Option (KeyRow ι)) (new : List (Placement ι))
    (before db : Database) : Prop where
  row_eq : row.map (·.record) = db.findIdempotencyKey R.key
  orders : db.orders = before.orders ++ new.flatMap (·.new.orders)
  events : db.outboxEvents = before.outboxEvents ++ new.flatMap (·.new.events)

variable {R} {k : KeyState ι} {i : ι} {clock : DateTime} {log : List (Placement ι)}
  {row : Option (KeyRow ι)} {fresh : IdempotencyKey} {s t v w : Session Database}

omit [DecidableEq ι] in
/-- The answer of a row, as the steps give it. -/
theorem KeyRequests.answer_of_reply? {existing : IdempotencyKey} {reply : Reply}
    (h : existing.reply? R.codecs (R.hash i) = some reply) :
    R.answer i existing = .replied reply := by
  unfold IdempotencyKey.reply? at h
  unfold KeyRequests.answer
  cases hanswer : existing.answer (R.hash i) with
  | error error =>
      simp only [hanswer, Option.map_eq_some_iff] at h
      obtain ⟨detail, hcaught, rfl⟩ := h
      simp only [hcaught]
  | ok record =>
      cases hvalid : R.codecs.validateOrderRead record.responseBody with
      | error error => simp [hanswer, hvalid] at h
      | ok body =>
          simp only [hanswer, hvalid, Option.some.injEq] at h
          rw [← h]
          simp only [hvalid]

/-- The slot of a request that has inserted its row. -/
def reservedSlot (row : Option (KeyRow ι)) (i : ι) (fresh : IdempotencyKey) :
    Slot ι (KeyRow ι) := ⟨row, some (i, some ⟨i, fresh⟩)⟩

theorem reservedSlot_release (fresh : IdempotencyKey) :
    (reservedSlot row i fresh).release i = ⟨row, none⟩ := by
  unfold reservedSlot Slot.release
  simp

theorem reservedSlot_version : (reservedSlot row i fresh).version i = some ⟨i, fresh⟩ :=
  Slot.version_of_writer rfl

theorem reservedSlot_commit : (reservedSlot row i fresh).commit i = ⟨some ⟨i, fresh⟩, none⟩ :=
  Slot.commit_of_writer rfl

/-- `create_order` up to its COMMIT. -/
theorem KeyRequests.reaches_created (k : KeyState ι) (clock : DateTime)
    (log : List (Placement ι)) (row : Option (KeyRow ι)) (since : Nat) {order : Order}
    (place : placeOrder (R.payload i) t = .ok order v)
    (commits : (Tx.commit : App Unit) v = .ok () w)
    (found : t.working.findIdempotencyKey R.key = some fresh) :
    ∃ new : Placement ι,
      Reaches R.step (k.standing i clock (reservedSlot row i fresh) log (.reserved since))
          (k.standing i clock ⟨some ⟨i, fresh⟩, none⟩ (log ++ [new]) (.committed order))
        ∧ R.Tells (some ⟨i, fresh⟩) [new] t.working w.committed := by
  have hplaced : Reaches R.step
      (k.standing i clock (reservedSlot row i fresh) log (.reserved since))
      (k.standing i clock (reservedSlot row i fresh) log
        (.placed since (.between order t v))) := reaches_placed place
  have hcommitted : Reaches R.step
      (k.standing i clock (reservedSlot row i fresh) log (.placed since (.between order t v)))
      (k.standing i clock ((reservedSlot row i fresh).commit i)
        (log ++ [⟨i, fresh, since, .between order t v, clock⟩]) (.committed order)) :=
    reaches_committed reservedSlot_version
  rw [reservedSlot_commit] at hcommitted
  -- what the placement added, read off the tables of the route
  refine ⟨⟨i, fresh, since, .between order t v, clock⟩, hplaced.trans hcommitted, ?_⟩
  obtain ⟨items, new, n, -, rfl⟩ := placeOrder_ok place
  obtain ⟨-, m, rfl⟩ := commit_keyed commits
  have horders : (t.working.orders ++ [order]).drop t.working.orders.length = [order] :=
    List.drop_left
  have hevents : (t.working.outboxEvents ++ [new]).drop t.working.outboxEvents.length = [new] :=
    List.drop_left
  refine ⟨found.symm, ?_, ?_⟩
  · show t.working.orders ++ [order]
      = t.working.orders ++ ((t.working.orders ++ [order]).drop t.working.orders.length ++ [])
    rw [horders]
    rfl
  · show t.working.outboxEvents ++ [new] = t.working.outboxEvents
      ++ ((t.working.outboxEvents ++ [new]).drop t.working.outboxEvents.length ++ [])
    rw [hevents]
    rfl

omit [DecidableEq ι] in
/-- The tables say the same of equal databases. -/
theorem KeyRequests.Tells.of_eq {new : List (Placement ι)} {before db db' : Database}
    (h : R.Tells row new before db) (same : db' = db) : R.Tells row new before db' := same ▸ h

theorem readOnly_savedOrder (orderId : String) : ReadOnly (savedOrder orderId) := by
  refine (readOnly_query _).bind fun found => ?_
  cases found with
  | none => exact readOnly_ofExcept (.error _)
  | some row => exact readOnly_pure _

/-- **The route from `create_order` on**, with the row of the request
inserted. -/
theorem KeyRequests.placing_runs (i : ι) (clock : DateTime) (log : List (Placement ι)) (since : Nat)
    (found : t.working.findIdempotencyKey R.key = some fresh)
    (told : R.Tells row [] t.working t.committed) :
    ∃ row' new,
      Reaches R.step (k.standing i clock (reservedSlot row i fresh) log (.reserved since))
          (k.standing i clock ⟨row', none⟩ (log ++ new)
            (.closed (outcomeOf (value? (placeAndReply R.codecs (R.payload i) (some R.key) t)))))
        ∧ R.Tells row' new t.working
          (after (placeAndReply R.codecs (R.payload i) (some R.key) t)).committed := by
  have hstop : Reaches R.step (k.standing i clock (reservedSlot row i fresh) log (.reserved since))
      (k.standing i clock ⟨row, none⟩ (log ++ []) (.closed .gone)) := by
    rw [List.append_nil, ← reservedSlot_release fresh]
    exact reaches_gone (by simp)
  have hplaced := quiet_placeOrder (R.payload i) t
  cases hplace : placeOrder (R.payload i) t with
  | error e u =>
      rw [hplace, after_error] at hplaced
      have hcreate : createOrder (R.payload i) t = .error e u := bind_of_error hplace
      by_cases hcaught : ∃ error detail, e = .raised error
          ∧ inventoryItemNotFoundError error = some detail
      · obtain ⟨error, detail, rfl, hcaught⟩ := hcaught
        have hroute : placeAndReply R.codecs (R.payload i) (some R.key) t
            = .ok (.httpException HTTP_404_NOT_FOUND detail) u :=
          bind_of_ok (attempt_of_caught hcreate hcaught)
        rw [hroute, after_ok, value?_ok]
        refine ⟨row, [], ?_, told.of_eq hplaced.1⟩
        rw [List.append_nil, ← reservedSlot_release fresh]
        exact reaches_notFound hplace hcaught
      · have hroute : placeAndReply R.codecs (R.payload i) (some R.key) t = .error e u := by
          refine bind_of_error (attempt_of_uncaught hcreate fun error herror => ?_)
          cases hdetail : inventoryItemNotFoundError error with
          | none => rfl
          | some detail => exact absurd ⟨error, detail, herror, hdetail⟩ hcaught
        rw [hroute, after_error, value?_error]
        exact ⟨row, [], hstop, told.of_eq hplaced.1⟩
  | ok order v =>
      rw [hplace, after_ok] at hplaced
      -- nothing that is raised from here on is caught
      have hroute : ∀ e u, createOrder (R.payload i) t = .error e u →
          placeAndReply R.codecs (R.payload i) (some R.key) t = .error e u := by
        intro e u hcreate
        refine bind_of_error (attempt_of_uncaught hcreate fun error herror => ?_)
        cases hdetail : inventoryItemNotFoundError error with
        | none => rfl
        | some detail =>
            rw [herror] at hcreate
            have hraised := createOrder_caught hcreate hdetail
            rw [hplace] at hraised
            simp at hraised
      cases hcommit : (Tx.commit : App Unit) v with
      | error e w =>
          have hcreate : createOrder (R.payload i) t = .error e w :=
            (bind_of_ok hplace).trans (bind_of_error hcommit)
          rw [hroute e w hcreate, after_error, value?_error]
          exact ⟨row, [], hstop, told.of_eq ((commit_error hcommit).1.trans hplaced.1)⟩
      | ok _ w =>
          obtain ⟨new, hreaches, htells⟩ :=
            reaches_created k clock log row since hplace hcommit found
          have hsaves := quiet_savedOrder order.id w
          have hgone : Reaches R.step
              (k.standing i clock ⟨some ⟨i, fresh⟩, none⟩ (log ++ [new]) (.committed order))
              (k.standing i clock ⟨some ⟨i, fresh⟩, none⟩ (log ++ [new]) (.closed .gone)) :=
            reaches_gone (by simp)
          cases hsaved : savedOrder order.id w with
          | error e x =>
              rw [hsaved, after_error] at hsaves
              have hcreate : createOrder (R.payload i) t = .error e x :=
                (bind_of_ok hplace).trans ((bind_of_ok hcommit).trans hsaved)
              rw [hroute e x hcreate, after_error, value?_error]
              exact ⟨_, _, hreaches.trans hgone, htells.of_eq hsaves.1⟩
          | ok saved x =>
              obtain ⟨saved, items⟩ := saved
              rw [hsaved, after_ok] at hsaves
              have hcreate : createOrder (R.payload i) t = .ok (saved, items) x :=
                (bind_of_ok hplace).trans ((bind_of_ok hcommit).trans hsaved)
              have hroute : placeAndReply R.codecs (R.payload i) (some R.key) t
                  = (keepResponse (orderRead R.codecs saved items) (some R.key) >>= fun _ =>
                      (pure (.response HTTP_201_CREATED (orderRead R.codecs saved items)) :
                        App Reply)) x := bind_of_ok (attempt_of_ok hcreate)
              have hread : Reaches R.step
                  (k.standing i clock ⟨some ⟨i, fresh⟩, none⟩ (log ++ [new]) (.committed order))
                  (k.standing i clock ⟨some ⟨i, fresh⟩, none⟩ (log ++ [new])
                    (.read (orderRead R.codecs saved items))) := reaches_read hsaved
              rw [hroute]
              rcases keepResponse_effect (orderRead R.codecs saved items) R.key x
                with ⟨hvalue, hcommitted⟩ | ⟨updatedAt, hvalue, hcommitted⟩
              · -- the response is not kept
                cases hkeep : keepResponse (orderRead R.codecs saved items) (some R.key) x with
                | ok _ y =>
                    rw [hkeep] at hvalue
                    simp at hvalue
                | error e y =>
                    rw [hkeep, after_error] at hcommitted
                    rw [bind_of_error hkeep, after_error, value?_error]
                    exact ⟨_, _, hreaches.trans hgone, htells.of_eq (hcommitted.trans hsaves.1)⟩
              · cases hkeep : keepResponse (orderRead R.codecs saved items) (some R.key) x with
                | error e y =>
                    rw [hkeep] at hvalue
                    simp at hvalue
                | ok _ y =>
                    have hworking : x.working = w.committed :=
                      (readOnly_savedOrder order.id w _ x hsaved).trans (commit_clean hcommit).2
                    rw [hkeep, after_ok, hworking] at hcommitted
                    rw [bind_of_ok hkeep, pure_apply, after_ok, value?_ok, hcommitted]
                    refine ⟨_, _, hreaches.trans (hread.trans (reaches_replied
                      (x.world.now updatedAt))), ?_, htells.orders, htells.events⟩
                    exact (findIdempotencyKey_answered_self _ _ _ htells.row_eq.symm).symm

/-! ## §4. Requests. -/

/-- **The route up to `create_order`**, for a request that goes on to it. -/
theorem KeyRequests.reaches_inserted (ttl : R.ttl = DEFAULT_TTL) (ordered : s.world.Ordered)
    (k : KeyState ι) (i : ι) (log : List (Placement ι)) {readAt startedAt : Nat}
    (row_eq : row.map (·.record) = s.working.findIdempotencyKey R.key)
    (clock_le : clock ≤ s.world.now s.tick)
    (reserved : Reserved R.key (R.hash i) DEFAULT_TTL s fresh readAt startedAt) :
    Reaches R.step (k.standing i clock ⟨row, none⟩ log .arrived)
      (k.standing i (s.world.now startedAt) (reservedSlot row i fresh) log
        (.reserved log.length)) := by
  have hread : clock ≤ s.world.now readAt := Int.le_trans clock_le (ordered _ _ reserved.tick_le)
  have hstart : s.world.now readAt ≤ s.world.now startedAt :=
    ordered _ _ (Nat.le_of_lt reserved.readAt_lt)
  have hinsert : ∀ writer : Option (ι × Option (KeyRow ι)),
      (⟨row, writer⟩ : Slot ι (KeyRow ι)).free i = true →
      (⟨row, writer⟩ : Slot ι (KeyRow ι)).version i = none →
        Reaches R.step (k.standing i (s.world.now startedAt) ⟨row, writer⟩ log .clear)
          (k.standing i (s.world.now startedAt) (reservedSlot row i fresh) log
            (.reserved log.length)) := by
    intro writer free absent
    rw [reserved.row_eq, ← ttl]
    exact reaches_reserved free absent _ _
  cases row with
  | none =>
      refine (reaches_later (Int.le_trans hread hstart)).trans ((reaches_absent rfl).trans ?_)
      exact hinsert none rfl rfl
  | some row =>
      have hexpired := reserved.expired row.record row_eq.symm
      refine (reaches_found rfl).trans ((reaches_later hread).trans ?_)
      refine (reaches_deleted hexpired).trans ((reaches_later hstart).trans ?_)
      exact hinsert (some (i, none)) (by simp [Slot.free]) (Slot.version_of_writer rfl)

/-- **A request is a run of its steps**, wherever it stops. -/
theorem KeyRequests.request_runs (ttl : R.ttl = DEFAULT_TTL) (ordered : s.world.Ordered)
    (clean : s.Clean) (i : ι) (log : List (Placement ι))
    (row_eq : row.map (·.record) = s.working.findIdempotencyKey R.key)
    (clock_le : clock ≤ s.world.now s.tick) :
    ∃ clock' row' new,
      clock' ≤ s.world.now (after (createOrderEndpoint R.codecs (R.payload i) (some R.key) s)).tick
        ∧ Reaches R.step (k.standing i clock ⟨row, none⟩ log .arrived)
            (k.standing i clock' ⟨row', none⟩ (log ++ new) (.closed (outcomeOf
              (value? (createOrderEndpoint R.codecs (R.payload i) (some R.key) s)))))
        ∧ R.Tells row' new s.working
            (after (createOrderEndpoint R.codecs (R.payload i) (some R.key) s)).committed := by
  have hquiet := quiet_answerFromKey R.codecs (R.payload i) (some R.key) s
  have htold : R.Tells row [] s.working s.working :=
    ⟨row_eq, (List.append_nil _).symm, (List.append_nil _).symm⟩
  cases h : answerFromKey R.codecs (R.payload i) (some R.key) s with
  | error e t =>
      have hrun : createOrderEndpoint R.codecs (R.payload i) (some R.key) s = .error e t :=
        bind_of_error h
      have hforward := forward_createOrderEndpoint R.codecs (R.payload i) (some R.key) s
      rw [h, after_error] at hquiet
      rw [hrun] at hforward ⊢
      -- it ends in the lookup, with nothing committed
      refine ⟨clock, row, [], Int.le_trans clock_le (ordered _ _ hforward), ?_,
        htold.of_eq (hquiet.1.trans clean.2.symm)⟩
      rw [List.append_nil]
      exact reaches_gone (by simp)
  | ok reply t =>
      rw [h, after_ok] at hquiet
      cases reply with
      | some reply =>
          have hrun : createOrderEndpoint R.codecs (R.payload i) (some R.key) s = .ok reply t :=
            bind_of_ok h
          obtain ⟨existing, readAt, living, hlt, hreply⟩ := answerFromKey_replied h
          rw [living.found] at row_eq
          obtain ⟨found, rfl, rfl⟩ := Option.map_eq_some_iff.mp row_eq
          rw [hrun]
          refine ⟨s.world.now readAt, some found, [], ordered _ _ (Nat.le_of_lt hlt), ?_,
            htold.of_eq (hquiet.1.trans clean.2.symm)⟩
          -- a live row answers; the clock is the one the row was read at
          have hanswered : Reaches R.step
              (k.standing i (s.world.now readAt) ⟨some found, none⟩ log (.found found.record))
              (k.standing i (s.world.now readAt) ⟨some found, none⟩ log
                (.closed (R.answer i found.record))) := reaches_answered living.live
          rw [R.answer_of_reply? hreply] at hanswered
          rw [List.append_nil]
          refine (reaches_found rfl).trans ((reaches_later ?_).trans hanswered)
          exact Int.le_trans clock_le (ordered _ _ living.tick_le)
      | none =>
          have hrun : createOrderEndpoint R.codecs (R.payload i) (some R.key) s
              = placeAndReply R.codecs (R.payload i) (some R.key) t := bind_of_ok h
          have hforward := forward_placeAndReply R.codecs (R.payload i) (some R.key) t
          rw [hrun]
          rcases answerFromKey_none h with ⟨hnone, -⟩
            | ⟨key, fresh, readAt, startedAt, n, hkey, reserved, hn, rfl⟩
          · simp at hnone
          · obtain rfl := Option.some.inj hkey
            have hkey : fresh.key = R.key := by
              rw [reserved.row_eq]
              rfl
            have hfound : ((s.working.deleteIdempotencyKey R.key).addIdempotencyKey
                fresh).findIdempotencyKey R.key = some fresh := by
              rw [← hkey]
              exact findIdempotencyKey_add_self findIdempotencyKey_delete_self
            have htold' : R.Tells row [] ((s.working.deleteIdempotencyKey R.key).addIdempotencyKey
                fresh) s.committed := by
              rw [← clean.2]
              exact ⟨row_eq, (List.append_nil _).symm, (List.append_nil _).symm⟩
            -- from the reservation on it is the rest of the route
            obtain ⟨row', new, hreaches, htells⟩ := placing_runs (k := k) (t := s.goto
              ((s.working.deleteIdempotencyKey R.key).addIdempotencyKey fresh) n) i
              (s.world.now startedAt) log log.length hfound htold'
            rw [goto_tick] at hforward
            refine ⟨s.world.now startedAt, row', new, ordered _ _ (by omega),
              (reaches_inserted ttl ordered k i log row_eq clock_le reserved).trans hreaches,
              htells.row_eq, htells.orders, htells.events⟩

/-- The row under the key is that of the database, and nobody is writing it. -/
structure KeyRequests.Mirrors (R : KeyRequests ι) (world : World Database) (k : KeyState ι)
    (s : Service) : Prop where
  idle : k.slot.writer = none
  row_eq : k.slot.committed.map (·.record) = s.db.findIdempotencyKey R.key
  clock_le : k.clock ≤ world.now s.tick

/-- A request of the key, after a pause. -/
def KeyRequests.post (R : KeyRequests ι) (turn : ι × Nat) : Post :=
  ⟨turn.2, R.payload turn.1, some R.key⟩

/-- **Requests one after another are a run of the steps**: their orders are
those the steps have logged. -/
theorem KeyRequests.requests_run (ttl : R.ttl = DEFAULT_TTL) {world : World Database}
    (ordered : world.Ordered) :
    ∀ (turns : List (ι × Nat)) (k : KeyState ι) (s : Service),
      (turns.map Prod.fst).Nodup → (∀ turn ∈ turns, k.phase turn.1 = .arrived) →
        R.Mirrors world k s →
          ∃ k' new, Reaches R.step k k' ∧ k'.log = k.log ++ new
            ∧ R.Mirrors world k' (run (fun turn s => (R.post turn).serve R.codecs world s) turns s)
            ∧ R.Tells k'.slot.committed new s.db
                (run (fun turn s => (R.post turn).serve R.codecs world s) turns s).db := by
  intro turns
  induction turns with
  | nil =>
      intro k s nodup arrived mirrors
      exact ⟨k, [], .refl _ _, (List.append_nil _).symm, mirrors,
        mirrors.row_eq, (List.append_nil _).symm, (List.append_nil _).symm⟩
  | cons turn turns ih =>
      intro k s nodup arrived mirrors
      obtain ⟨hnotin, hnodup⟩ := List.nodup_cons.mp nodup
      have hslot : k.slot = ⟨k.slot.committed, none⟩ := by
        rw [← mirrors.idle]
      have hself : k.standing turn.1 k.clock ⟨k.slot.committed, none⟩ k.log .arrived = k := by
        rw [← hslot]
        exact standing_self (arrived turn List.mem_cons_self)
      obtain ⟨clock, row, new, hle, hreaches, htells⟩ := R.request_runs (k := k) ttl
        (s := Session.begin world (s.tick + turn.2) s.db) ordered (begin_clean _ _ _) turn.1 k.log
        mirrors.row_eq (Int.le_trans mirrors.clock_le (ordered _ _ (Nat.le_add_right _ _)))
      rw [hself] at hreaches
      -- the later requests have not been touched
      have hothers : ∀ other ∈ turns, (k.standing turn.1 clock ⟨row, none⟩ (k.log ++ new)
          (.closed (outcomeOf ((R.post turn).reply R.codecs world s)))).phase other.1 = .arrived := by
        intro other hother
        rw [standing_ne fun hsame => hnotin (List.mem_map.mpr ⟨other, hother, hsame⟩)]
        exact arrived other (List.mem_cons_of_mem _ hother)
      obtain ⟨k', new', hreaches', hlog, hmirrors, htells'⟩ := ih _
        ((R.post turn).serve R.codecs world s) hnodup hothers ⟨rfl, htells.row_eq, hle⟩
      refine ⟨k', new ++ new', hreaches.trans hreaches', ?_, hmirrors, htells'.row_eq, ?_, ?_⟩
      · rw [hlog, ← List.append_assoc]
        rfl
      · rw [run_cons, htells'.orders, List.flatMap_append, ← List.append_assoc]
        exact congrArg (· ++ _) htells.orders
      · rw [run_cons, htells'.events, List.flatMap_append, ← List.append_assoc]
        exact congrArg (· ++ _) htells.events

end route

end EventCart
