/-
  EventCart.Keys.Responses
  ────────────────────────
  **WHOSE RESPONSE IS IN THE ROW?**

  `store_response` finds the row by its key.  Between `create_order`'s COMMIT
  and the UPDATE the row may have expired, and another request may have put
  its own in its place; the UPDATE then files the response of one body under
  the hash of another.

    • `responses_owned` — the response in a row is of an order for the row's
                          body, in every run whose UPDATEs find a row with
                          the hash of their own request's body,
    • `response_misfiled` — a row with the response of another body.
-/
import EventCart.Keys.OneOrder

namespace EventCart

open EventCart.Lib
open EventCart.Lib.Tx

variable {ι : Type} [DecidableEq ι]

/-! ## §1. Responses and the orders they describe. -/

/-- The response is the read-out of an order committed with this placement. -/
def Placement.Answers (p : Placement ι) (codecs : Codecs) (response : Dict) : Prop :=
  ∃ order items, order.id = p.new.order.id ∧ response = orderRead codecs order items

/-- The response describes an order created by a request whose body has this
hash. -/
def Backed (R : KeyRequests ι) (log : List (Placement ι)) (requestHash : String)
    (response : Dict) : Prop :=
  ∃ p ∈ log, R.hash p.request = requestHash ∧ p.Answers R.codecs response

/-- The response a request is carrying to the row. -/
def RequestPhase.response? : RequestPhase ι → Option Dict
  | .read response | .keeping response | .updating response _ | .kept response => some response
  | .arrived | .found _ | .stale | .deleting _ | .clear | .ready _ | .reserved _ | .placed _ _
  | .committed _ | .closed _ => none

/-- If the step is an UPDATE that goes through, the row's hash is the one of
the request's own body. -/
def KeyRequests.storesOwn (R : KeyRequests ι) (s : KeyState ι) : KeyStep ι → Bool
  | .update i _ =>
      match s.phase i, s.slot.committed with
      | .updating _ (some target), some row =>
          !s.slot.free i || row.owner ≠ target || row.record.requestHash = R.hash i
      | _, _ => true
  | _ => true

/-- After its COMMIT a request has its own order in hand. -/
structure Carrying (R : KeyRequests ι) (s : KeyState ι) : Prop where
  committed : ∀ i order, s.phase i = .committed order →
    ∃ p ∈ s.log, p.request = i ∧ p.new.order = order
  carried : ∀ i response, (s.phase i).response? = some response →
    ∃ p ∈ s.log, p.request = i ∧ p.Answers R.codecs response

/-- What holds between the steps of a run that stores responses where they
belong. -/
structure Filing (R : KeyRequests ι) (s : KeyState ι) : Prop where
  locked : Locked R s
  carrying : Carrying R s
  row : ∀ row, s.slot.committed = some row → ∀ response, row.record.responseBody = some response →
    Backed R s.log row.record.requestHash response
  version : ∀ i row, s.slot.writer = some (i, some row) →
    ∀ response, row.record.responseBody = some response →
      Backed R s.log row.record.requestHash response

variable {R : KeyRequests ι} {a : KeyStep ι} {s s' : KeyState ι} {i : ι}

omit [DecidableEq ι] in
theorem Backed.append {log : List (Placement ι)} {requestHash : String} {response : Dict}
    (h : Backed R log requestHash response) (p : Placement ι) :
    Backed R (log ++ [p]) requestHash response := by
  obtain ⟨q, hq, hrest⟩ := h
  exact ⟨q, List.mem_append_left _ hq, hrest⟩

omit [DecidableEq ι] in
/-- `get_order` reads the order it is asked for. -/
theorem savedOrder_id {orderId : String} {t u : Session Database} {order : Order}
    {items : List OrderItem} (run : savedOrder orderId t = .ok (order, items) u) :
    order.id = orderId := by
  obtain ⟨found, v, hv, h⟩ := bind_eq_ok.mp run
  obtain ⟨rfl, n, rfl⟩ := query_ok hv
  cases hfind : t.working.orders.find? (·.id = orderId) with
  | none =>
      rw [hfind] at h
      simp [raise_apply] at h
  | some saved =>
      rw [hfind] at h
      simp only [Option.map_some, pure_apply, EStateM.Result.ok.injEq, Prod.mk.injEq] at h
      have hid : saved.id = orderId := by simpa using List.find?_some hfind
      rw [← h.1.1]
      exact hid

/-! ## §2. Every move files responses where they belong. -/

/-- One request moves on, with its order in hand if it needs one. -/
theorem Carrying.move (h : Carrying R s) {p : RequestPhase ι} {s' : KeyState ι}
    (phase : ∀ j, s'.phase j = (s.move i p).phase j) (log : ∀ q ∈ s.log, q ∈ s'.log)
    (committed : ∀ order, p = .committed order →
      ∃ q ∈ s'.log, q.request = i ∧ q.new.order = order)
    (carried : ∀ response, p.response? = some response →
      ∃ q ∈ s'.log, q.request = i ∧ q.Answers R.codecs response) : Carrying R s' where
  committed j order hj := by
    rw [phase] at hj
    by_cases hji : j = i
    · subst hji
      rw [move_phase_self] at hj
      exact committed order hj
    · rw [move_phase_ne hji] at hj
      obtain ⟨q, hq, hrest⟩ := h.committed j order hj
      exact ⟨q, log q hq, hrest⟩
  carried j response hj := by
    rw [phase] at hj
    by_cases hji : j = i
    · subst hji
      rw [move_phase_self] at hj
      exact carried response hj
    · rw [move_phase_ne hji] at hj
      obtain ⟨q, hq, hrest⟩ := h.carried j response hj
      exact ⟨q, log q hq, hrest⟩

/-- A turn carries a response on, or reads back the request's own order. -/
theorem Carrying.turn (h : Carrying R s) {p : RequestPhase ι} (turn : Turn R s i p) :
    Carrying R (s.move i p) := by
  refine h.move (fun _ => rfl) (fun q hq => hq) (fun order hp => ?_) fun response hp => ?_
  · rw [hp] at turn
    cases turn
  · cases turn with
    | absent | found | stale | deleting | unmatched | ready | placed =>
        simp [RequestPhase.response?] at hp
    | @read order saved items t u phase run =>
        obtain ⟨q, hq, hrequest, horder⟩ := h.committed i order phase
        rw [RequestPhase.response?, Option.some.injEq] at hp
        exact ⟨q, hq, hrequest, saved, items, by rw [savedOrder_id run, horder], hp.symm⟩
    | keeping phase _ => exact h.carried i response (by rw [phase]; exact hp)
    | updating phase => exact h.carried i response (by rw [phase]; exact hp)

/-- A request with nothing in hand, or with what it had, moves on. -/
theorem Carrying.keeps (h : Carrying R s) {p : RequestPhase ι} {s' : KeyState ι}
    (phase : ∀ j, s'.phase j = (s.move i p).phase j) (log : s'.log = s.log)
    (committed : ∀ order, p ≠ .committed order)
    (carried : ∀ response, p.response? = some response →
      (s.phase i).response? = some response) : Carrying R s' := by
  refine h.move phase (fun q hq => log ▸ hq) (fun order hp => absurd hp (committed order)) ?_
  intro response hp
  rw [log]
  exact h.carried i response (carried response hp)

/-- A request writes a version of the row whose response is backed. -/
theorem Filing.write (h : Filing R s) (free : s.slot.free i = true) {version : Option (KeyRow ι)}
    {p : RequestPhase ι} (holding : Holding R s.slot.committed s.log.length i version p.grip)
    (carrying : Carrying R (s.write i version p))
    (backed : ∀ row, version = some row → ∀ response, row.record.responseBody = some response →
      Backed R s.log row.record.requestHash response) : Filing R (s.write i version p) where
  locked := h.locked.write free holding
  carrying := carrying
  row := h.row
  version j row hrow := by
    rw [write_slot, Slot.write_writer, Option.some.injEq, Prod.mk.injEq] at hrow
    exact backed row hrow.2

/-- A COMMIT makes the writer's version the row. -/
theorem Filing.commit (h : Filing R s) {row : KeyRow ι} {s' : KeyState ι}
    (writer : s.slot.writer = some (i, some row)) (slot : s'.slot = s.slot.commit i)
    (locked : Locked R s') (carrying : Carrying R s')
    (log : ∀ q ∈ s.log, q ∈ s'.log) : Filing R s' where
  locked := locked
  carrying := carrying
  row version hversion response hresponse := by
    rw [slot, Slot.commit_of_writer writer, Option.some.injEq] at hversion
    rw [← hversion] at hresponse ⊢
    obtain ⟨q, hq, hrest⟩ := h.version i row writer response hresponse
    exact ⟨q, log q hq, hrest⟩
  version j version hversion := by
    rw [slot, Slot.commit_of_writer writer] at hversion
    simp at hversion

/-- **Every move keeps responses where they belong** if its UPDATE, if it is
one, finds the hash of its own request's body. -/
theorem Filing.keep (h : Filing R s) (own : R.storesOwn s a = true) (m : Move R a s s') :
    Filing R s' := by
  have hlocked := h.locked.keep m
  cases m with
  | wait microseconds => exact ⟨hlocked, ⟨h.carrying.committed, h.carrying.carried⟩, h.row, h.version⟩
  | turn turn => exact ⟨hlocked, h.carrying.turn turn, h.row, h.version⟩
  | deleted _ _ free _ =>
      exact h.write free .vacated (h.carrying.keeps (fun _ => rfl) rfl (by simp)
        (by simp [RequestPhase.response?])) fun row hrow => by simp at hrow
  | inserted _ _ free _ =>
      refine h.write free (.inserted _ _ _) (h.carrying.keeps (fun _ => rfl) rfl (by simp)
        (by simp [RequestPhase.response?])) fun row hrow response hresponse => ?_
      rw [Option.some.injEq] at hrow
      rw [← hrow] at hresponse
      simp [newIdempotencyKey] at hresponse
  | @committed i since new row phase row_eq =>
      obtain ⟨hwriter, -, -, -⟩ := h.locked.placed phase row_eq
      refine h.commit hwriter rfl hlocked ?_ fun q hq => List.mem_append_left _ hq
      refine h.carrying.move (fun _ => rfl) (fun q hq => List.mem_append_left _ hq)
        (fun order hp => ?_) (by simp [RequestPhase.response?])
      rw [RequestPhase.committed.injEq] at hp
      exact ⟨_, List.mem_append_right _ (List.mem_singleton.mpr rfl), rfl, hp⟩
  | @updated i response row updatedAt label phase free row_eq =>
      have hresponse : (s.phase i).response? = some response := by rw [phase]; rfl
      refine h.write free (.kept row_eq) (h.carrying.keeps (fun _ => rfl) rfl (by simp)
        fun response' hp => ?_) fun row' hrow' response' hresponse' => ?_
      · rw [hresponse]
        exact hp
      · -- the hash of the row is the one of the request that answers
        rw [Option.some.injEq] at hrow'
        rw [← hrow'] at hresponse' ⊢
        rw [label] at own
        simp only [KeyRequests.storesOwn, phase, row_eq, free] at own
        have hhash : row.record.requestHash = R.hash i := by simpa using own
        obtain ⟨p, hp, hrequest, hanswers⟩ := h.carrying.carried i response hresponse
        have hsame : response = response' := by
          simpa [IdempotencyKey.answered] using hresponse'
        exact ⟨p, hp, by rw [hrequest]; exact hhash.symm, hsame ▸ hanswers⟩
  | @finished i response phase =>
      obtain ⟨row, updatedAt, hrow, hwriter⟩ := h.locked.writer_of_kept (i := i) (by rw [phase]; rfl)
      exact h.commit hwriter rfl hlocked (h.carrying.keeps (fun _ => rfl) rfl (by simp)
        (by simp [RequestPhase.response?])) fun q hq => hq
  | @ended i outcome ending =>
      refine ⟨hlocked, h.carrying.keeps (fun _ => rfl) rfl (by simp)
        (by simp [RequestPhase.response?]), fun row hrow => ?_, fun j row hrow => ?_⟩
      · rw [close_slot, Slot.release_committed] at hrow
        exact h.row row hrow
      · exact h.version j row (Slot.release_writer.mp hrow).1

omit [DecidableEq ι] in
theorem filing_start (clock : DateTime) : Filing R (KeyState.start clock : KeyState ι) where
  locked := locked_start clock
  carrying := ⟨fun i order h => by simp [KeyState.start] at h,
    fun i response h => by simp [KeyState.start, RequestPhase.response?] at h⟩
  row row h := by simp [KeyState.start] at h
  version i row h := by simp [KeyState.start] at h

/-! ## §3. Stored responses. -/

/-- The response in the key's row, if there is one, is of an order for the
row's body. -/
def KeyState.Owned (R : KeyRequests ι) (s : KeyState ι) : Prop :=
  ∀ row, s.slot.committed = some row → ∀ response, row.record.responseBody = some response →
    Backed R s.log row.record.requestHash response

/-- **Stored responses belong to the row's body**: for any number of requests
with the key, any time to live and any advance of the clock, if every UPDATE
of `store_response` that goes through finds a row with the hash of its own
request's body. -/
theorem responses_owned (R : KeyRequests ι) (clock : DateTime) (steps : List (KeyStep ι))
    (own : Along R.step (fun s a => R.storesOwn s a = true) steps (KeyState.start clock)) :
    (run R.step steps (KeyState.start clock)).Owned R := by
  have hrun : Filing R (run R.step steps (KeyState.start clock)) :=
    moves_keep (fun s s' a h hown m => h.keep hown m) steps (filing_start clock) own
  exact hrun.row

/-- The first request orders a pencil, every other one two. -/
def mixedRequests : KeyRequests Nat :=
  ⟨plainCodecs, DEFAULT_TTL, "key-1", fun i => if i = 1 then aPencil else somePencils 2 two_pos⟩

/-- A request from `create_order`'s COMMIT to its end. -/
def answersLate (i : Nat) : List (KeyStep Nat) :=
  [.read i (after (placeOrder (mixedRequests.payload i) (pencilShop (100 * i)))), .find i,
   .sendUpdate i, .update i 0, .finish i]

/-- The first request runs to its end before its row expires. -/
def answeredInTime : List (KeyStep Nat) := ordersFirst 1 ++ answersLate 1

/-- The first request answers after the second has replaced its row. -/
def answeredTooLate : List (KeyStep Nat) :=
  ordersFirst 1 ++ [aDay, .lookup 2, .check 2] ++ ordersAgain 2 ++ answersLate 1

/-- In time, the response is filed under its own body. -/
theorem responses_owned_in_time :
    ((run mixedRequests.step answeredInTime (KeyState.start 0)).slot.committed.bind
        (·.record.responseBody)).isSome
      ∧ (run mixedRequests.step answeredInTime (KeyState.start 0)).Owned mixedRequests :=
  ⟨by decide +kernel, responses_owned mixedRequests 0 answeredInTime (by decide +kernel)⟩

/-- The response in the row names no order of the row's body. -/
def KeyState.misfiled (R : KeyRequests ι) (s : KeyState ι) : Bool :=
  s.slot.committed.any fun row => row.record.responseBody.any fun response =>
    s.log.all fun p => R.hash p.request ≠ row.record.requestHash
      || response.get? "id" ≠ some (.str p.new.order.id)

omit [DecidableEq ι] in
theorem not_owned_of_misfiled (h : s.misfiled R = true) : ¬ s.Owned R := by
  intro howned
  obtain ⟨row, hrow, h⟩ := (Option.any_eq_true _ _).mp h
  obtain ⟨response, hresponse, h⟩ := (Option.any_eq_true _ _).mp h
  obtain ⟨p, hp, hhash, order, items, hid, hread⟩ := howned row hrow response hresponse
  have hnot := List.all_eq_true.mp h p hp
  have hget : response.get? "id" = some (.str p.new.order.id) := by
    rw [hread, ← hid]
    rfl
  simp [hhash, hget] at hnot

/-- **A response under another body's hash**: one pencil was ordered, and the
row says it answers an order of two. -/
theorem response_misfiled :
    ¬ ∀ (R : KeyRequests Nat) (clock : DateTime) (steps : List (KeyStep Nat)),
        (run R.step steps (KeyState.start clock)).Owned R := by
  intro h
  have hmisfiled : (run mixedRequests.step answeredTooLate (KeyState.start 0)).misfiled mixedRequests
      = true := by
    decide +kernel
  exact not_owned_of_misfiled hmisfiled (h mixedRequests 0 answeredTooLate)

end EventCart
