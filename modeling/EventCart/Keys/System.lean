/-
  EventCart.Keys.System
  ─────────────────────
  **REQUESTS UNDER ONE IDEMPOTENCY KEY, STATEMENT BY STATEMENT.**

  Any number of `POST /api/v1/orders` requests carry the same key.  Each runs
  `create_order_endpoint` in a session of its own: the lookup of the key, the
  test of its expiry, the DELETE of an expired row, the INSERT of a new one,
  `create_order` with its COMMIT, the order read back, the lookup and the
  UPDATE of `store_response`, and the route's COMMIT.  The requests interleave
  between any two of these, the clock moves on, and a request may die
  anywhere.

  The row under the key is a `Slot`: a lookup reads what is committed, and
  INSERT, UPDATE and DELETE wait for the transaction that is writing the row.
  DELETE and UPDATE work on the row they find when they are sent: if that row
  is gone when their wait is over, they match nothing.  An INSERT fails if the
  key is taken when its wait is over.

    §1  requests and what is shared;
    §2  the steps;
    §3  what a step can do (`Move`, `step_move`).
-/
import EventCart.IdempotencyEffects
import EventCart.Lib.Slot

namespace EventCart

open EventCart.Lib
open EventCart.Lib.Tx

/-! ## §1. KeyRequests. -/

/-- The requests `ι` of one key. -/
structure KeyRequests (ι : Type) where
  codecs : Codecs
  /-- `IdempotencyService.ttl`. -/
  ttl : Int
  key : String
  payload : ι → OrderCreate

/-- `hash_request_body` of a request's body. -/
def KeyRequests.hash {ι : Type} (R : KeyRequests ι) (i : ι) : String :=
  hashRequestBody R.codecs (R.payload i).modelDump

/-- A row under the key, and the request that inserted it. -/
structure KeyRow (ι : Type) where
  owner : ι
  record : IdempotencyKey

/-- What `create_order` adds to the tables before its COMMIT. -/
structure Addition where
  order : Order
  orders : List Order
  events : List OutboxEvent

/-- The rows by which a session's tables have grown. -/
def Addition.between (order : Order) (t u : Session Database) : Addition where
  order := order
  orders := u.working.orders.drop t.working.orders.length
  events := u.working.outboxEvents.drop t.working.outboxEvents.length

/-- How a request ends. -/
inductive Outcome where
  | replied (reply : Reply)
  /-- An exception the route does not handle. -/
  | raised
  /-- The process, its connection or its transaction died. -/
  | gone
  deriving DecidableEq

/-- Where a request stands. -/
inductive RequestPhase (ι : Type) where
  | arrived
  /-- `existing` is loaded. -/
  | found (existing : IdempotencyKey)
  /-- It has expired. -/
  | stale
  /-- The DELETE is sent; the row it saw. -/
  | deleting (target : Option ι)
  /-- No row is in the way. -/
  | clear
  /-- The row to insert is built. -/
  | ready (expiresAt : DateTime)
  /-- It is inserted; the orders committed under the key by then. -/
  | reserved (since : Nat)
  /-- The order and its event are flushed. -/
  | placed (since : Nat) (new : Addition)
  /-- `create_order` has committed. -/
  | committed (order : Order)
  /-- The order is read back. -/
  | read (response : Dict)
  /-- `store_response` has found a row. -/
  | keeping (response : Dict)
  /-- The UPDATE is sent; the row it saw. -/
  | updating (response : Dict) (target : Option ι)
  /-- The response is in the row. -/
  | kept (response : Dict)
  | closed (outcome : Outcome)

/-- One order committed under the key. -/
structure Placement (ι : Type) where
  request : ι
  /-- The key row it was committed with. -/
  record : IdempotencyKey
  /-- How many orders had been committed when that row was inserted. -/
  since : Nat
  new : Addition
  committedAt : DateTime

/-- What the requests share, and where they stand. -/
structure KeyState (ι : Type) where
  clock : DateTime
  slot : Slot ι (KeyRow ι)
  phase : ι → RequestPhase ι
  log : List (Placement ι)

/-- The key is unused, all requests are to come. -/
def KeyState.start {ι : Type} (clock : DateTime) : KeyState ι :=
  ⟨clock, ⟨none, none⟩, fun _ => .arrived, []⟩

/-- The steps.  A step that reads or writes other tables carries a session on
them; a column nothing reads is stamped as the step says. -/
inductive KeyStep (ι : Type) where
  | wait (microseconds : Nat)
  | lookup (i : ι)
  | check (i : ι)
  | sendDelete (i : ι)
  | delete (i : ι)
  | build (i : ι)
  | insert (i : ι) (createdAt updatedAt : DateTime)
  | place (i : ι) (t : Session Database)
  | commit (i : ι)
  | read (i : ι) (t : Session Database)
  | find (i : ι)
  | sendUpdate (i : ι)
  | update (i : ι) (updatedAt : DateTime)
  | finish (i : ι)
  | abort (i : ι)

/-! ## §2. Steps. -/

section steps
variable {ι : Type} [DecidableEq ι]

namespace KeyState

/-- The request moves on. -/
def move (s : KeyState ι) (i : ι) (p : RequestPhase ι) : KeyState ι :=
  { s with phase := fun j => if j = i then p else s.phase j }

/-- The request moves on, and the row is written. -/
def write (s : KeyState ι) (i : ι) (row : Option (KeyRow ι)) (p : RequestPhase ι) : KeyState ι :=
  { s.move i p with slot := s.slot.write i row }

/-- The request ends, and its session is closed: what is not committed is
rolled back. -/
def close (s : KeyState ι) (i : ι) (outcome : Outcome) : KeyState ι :=
  { s.move i (.closed outcome) with slot := s.slot.release i }

end KeyState

namespace KeyRequests

variable (R : KeyRequests ι)

/-- `start_request` and the route on a row that has not expired. -/
def answer (i : ι) (existing : IdempotencyKey) : Outcome :=
  match existing.answer (R.hash i) with
  | .error error =>
      match idempotencyError error with
      | some detail => .replied (.httpException HTTP_409_CONFLICT detail)
      | none => .raised
  | .ok record =>
      match R.codecs.validateOrderRead record.responseBody with
      | .ok body => .replied (.response record.statusCode body)
      | .error _ => .raised

/-- `session.get(IdempotencyKey, key)`. -/
def lookup (i : ι) (s : KeyState ι) : KeyState ι :=
  match s.phase i, s.slot.committed with
  | .arrived, none => s.move i .clear
  | .arrived, some row => s.move i (.found row.record)
  | _, _ => s

/-- `_is_expired(existing)`, or the answer of the row. -/
def check (i : ι) (s : KeyState ι) : KeyState ι :=
  match s.phase i with
  | .found existing =>
      if existing.isExpired s.clock then s.move i .stale else s.close i (R.answer i existing)
  | _ => s

/-- The flush of `session.delete(existing)` sends its DELETE. -/
def sendDelete (i : ι) (s : KeyState ι) : KeyState ι :=
  match s.phase i with
  | .stale => s.move i (.deleting (s.slot.committed.map (·.owner)))
  | _ => s

/-- The DELETE is executed; one that matches nothing is only warned about. -/
def delete (i : ι) (s : KeyState ι) : KeyState ι :=
  match s.phase i with
  | .deleting target =>
      if s.slot.free i then
        if s.slot.committed.isSome && s.slot.committed.map (·.owner) = target then
          s.write i none .clear
        else s.move i .clear
      else s
  | _ => s

/-- `IdempotencyKey(..., expires_at=datetime.now(UTC) + self.ttl)`. -/
def build (i : ι) (s : KeyState ι) : KeyState ι :=
  match s.phase i with
  | .clear => s.move i (.ready (s.clock + R.ttl))
  | _ => s

/-- The flush of the new row: the INSERT. -/
def insert (i : ι) (createdAt updatedAt : DateTime) (s : KeyState ι) : KeyState ι :=
  match s.phase i with
  | .ready expiresAt =>
      if s.slot.free i then
        match s.slot.version i with
        | none =>
            s.write i (some ⟨i, newIdempotencyKey R.key (R.hash i) expiresAt createdAt updatedAt⟩)
              (.reserved s.log.length)
        -- `IntegrityError`
        | some _ => s.close i .raised
      else s
  | _ => s

/-- `create_order` up to its COMMIT. -/
def place (i : ι) (t : Session Database) (s : KeyState ι) : KeyState ι :=
  match s.phase i with
  | .reserved since =>
      match placeOrder (R.payload i) t with
      | .ok order u => s.move i (.placed since (.between order t u))
      | .error (.raised error) _ =>
          match inventoryItemNotFoundError error with
          | some detail => s.close i (.replied (.httpException HTTP_404_NOT_FOUND detail))
          | none => s.close i .raised
      | .error _ _ => s.close i .gone
  | _ => s

/-- The COMMIT in `create_order`. -/
def commit (i : ι) (s : KeyState ι) : KeyState ι :=
  match s.phase i, s.slot.version i with
  | .placed since new, some row =>
      { s.move i (.committed new.order) with
        slot := s.slot.commit i
        log := s.log ++ [⟨i, row.record, since, new, s.clock⟩] }
  | _, _ => s

/-- The end of `create_order`, and the response made of it. -/
def read (i : ι) (t : Session Database) (s : KeyState ι) : KeyState ι :=
  match s.phase i with
  | .committed order =>
      match savedOrder order.id t with
      | .ok (order, items) _ => s.move i (.read (orderRead R.codecs order items))
      | .error (.raised _) _ => s.close i .raised
      | .error _ _ => s.close i .gone
  | _ => s

/-- The lookup of `store_response`. -/
def find (i : ι) (s : KeyState ι) : KeyState ι :=
  match s.phase i, s.slot.committed with
  | .read response, some _ => s.move i (.keeping response)
  -- `LookupError`
  | .read _, none => s.close i .raised
  | _, _ => s

/-- The flush of `store_response` sends its UPDATE. -/
def sendUpdate (i : ι) (s : KeyState ι) : KeyState ι :=
  match s.phase i with
  | .keeping response => s.move i (.updating response (s.slot.committed.map (·.owner)))
  | _ => s

/-- The UPDATE is executed; one that matches nothing is a `StaleDataError`. -/
def update (i : ι) (updatedAt : DateTime) (s : KeyState ι) : KeyState ι :=
  match s.phase i with
  | .updating response target =>
      if s.slot.free i then
        match s.slot.committed with
        | some row =>
            if some row.owner = target then
              s.write i (some { row with
                record := row.record.answered response HTTP_201_CREATED updatedAt })
                (.kept response)
            else s.close i .raised
        | none => s.close i .raised
      else s
  | _ => s

/-- The route's COMMIT and its reply. -/
def finish (i : ι) (s : KeyState ι) : KeyState ι :=
  match s.phase i with
  | .kept response =>
      { s.move i (.closed (.replied (.response HTTP_201_CREATED response))) with
        slot := s.slot.commit i }
  | _ => s

/-- The request dies. -/
def abort (i : ι) (s : KeyState ι) : KeyState ι :=
  match s.phase i with
  | .closed _ => s
  | _ => s.close i .gone

/-- **One step.**  What is not enabled waits and changes nothing. -/
def step : KeyStep ι → KeyState ι → KeyState ι
  | .wait microseconds, s => { s with clock := s.clock + microseconds }
  | .lookup i, s => lookup i s
  | .check i, s => R.check i s
  | .sendDelete i, s => sendDelete i s
  | .delete i, s => delete i s
  | .build i, s => R.build i s
  | .insert i createdAt updatedAt, s => R.insert i createdAt updatedAt s
  | .place i t, s => R.place i t s
  | .commit i, s => commit i s
  | .read i t, s => R.read i t s
  | .find i, s => find i s
  | .sendUpdate i, s => sendUpdate i s
  | .update i updatedAt, s => update i updatedAt s
  | .finish i, s => finish i s
  | .abort i, s => abort i s

end KeyRequests

/-! ## §3. What a step can do. -/

/-- A request moves on and writes nothing. -/
inductive Turn (R : KeyRequests ι) (s : KeyState ι) (i : ι) : RequestPhase ι → Prop where
  | absent (phase : s.phase i = .arrived) (empty : s.slot.committed = none) : Turn R s i .clear
  | found {row : KeyRow ι} (phase : s.phase i = .arrived) (row_eq : s.slot.committed = some row) :
      Turn R s i (.found row.record)
  | stale {existing : IdempotencyKey} (phase : s.phase i = .found existing)
      (expired : existing.isExpired s.clock = true) : Turn R s i .stale
  | deleting (phase : s.phase i = .stale) :
      Turn R s i (.deleting (s.slot.committed.map (·.owner)))
  | unmatched {target : Option ι} (phase : s.phase i = .deleting target) : Turn R s i .clear
  | ready (phase : s.phase i = .clear) : Turn R s i (.ready (s.clock + R.ttl))
  | placed {since : Nat} {t u : Session Database} {order : Order} (phase : s.phase i = .reserved since)
      (run : placeOrder (R.payload i) t = .ok order u) :
      Turn R s i (.placed since (.between order t u))
  | read {order saved : Order} {items : List OrderItem} {t u : Session Database}
      (phase : s.phase i = .committed order)
      (run : savedOrder order.id t = .ok (saved, items) u) :
      Turn R s i (.read (orderRead R.codecs saved items))
  | keeping {response : Dict} {row : KeyRow ι} (phase : s.phase i = .read response)
      (row_eq : s.slot.committed = some row) : Turn R s i (.keeping response)
  | updating {response : Dict} (phase : s.phase i = .keeping response) :
      Turn R s i (.updating response (s.slot.committed.map (·.owner)))

/-- A request ends without a COMMIT. -/
inductive Ending (R : KeyRequests ι) (a : KeyStep ι) (s : KeyState ι) (i : ι) : Outcome → Prop where
  | answered {existing : IdempotencyKey} (phase : s.phase i = .found existing)
      (live : existing.isExpired s.clock = false) : Ending R a s i (R.answer i existing)
  | refused {expiresAt createdAt updatedAt : DateTime} {row : KeyRow ι}
      (label : a = .insert i createdAt updatedAt) (phase : s.phase i = .ready expiresAt)
      (free : s.slot.free i = true) (taken : s.slot.version i = some row) : Ending R a s i .raised
  | unplaced {since : Nat} {t u : Session Database} {error : PyError} {outcome : Outcome}
      (label : a = .place i t) (phase : s.phase i = .reserved since)
      (run : placeOrder (R.payload i) t = .error (.raised error) u)
      (outcome_eq : outcome = .raised ∨ ∃ detail, inventoryItemNotFoundError error = some detail
        ∧ outcome = .replied (.httpException HTTP_404_NOT_FOUND detail)) :
      Ending R a s i outcome
  | unread {order : Order} {t u : Session Database} {error : PyError} (label : a = .read i t)
      (phase : s.phase i = .committed order)
      (run : savedOrder order.id t = .error (.raised error) u) : Ending R a s i .raised
  | missing {response : Dict} (phase : s.phase i = .read response)
      (empty : s.slot.committed = none) : Ending R a s i .raised
  | lost {response : Dict} {target : Option ι} (phase : s.phase i = .updating response target)
      (free : s.slot.free i = true)
      (lost : ∀ row, s.slot.committed = some row → some row.owner ≠ target) : Ending R a s i .raised
  | gone : Ending R a s i .gone

/-- **What a step does** when it is enabled. -/
inductive Move (R : KeyRequests ι) (a : KeyStep ι) (s : KeyState ι) : KeyState ι → Prop where
  | wait (microseconds : Nat) : Move R a s { s with clock := s.clock + microseconds }
  | turn {i : ι} {p : RequestPhase ι} (turn : Turn R s i p) : Move R a s (s.move i p)
  | deleted {i : ι} {row : KeyRow ι} (label : a = .delete i)
      (phase : s.phase i = .deleting (some row.owner)) (free : s.slot.free i = true)
      (row_eq : s.slot.committed = some row) : Move R a s (s.write i none .clear)
  | inserted {i : ι} {expiresAt createdAt updatedAt : DateTime}
      (label : a = .insert i createdAt updatedAt) (phase : s.phase i = .ready expiresAt)
      (free : s.slot.free i = true) (absent : s.slot.version i = none) :
      Move R a s (s.write i
        (some ⟨i, newIdempotencyKey R.key (R.hash i) expiresAt createdAt updatedAt⟩)
        (.reserved s.log.length))
  | committed {i : ι} {since : Nat} {new : Addition} {row : KeyRow ι}
      (phase : s.phase i = .placed since new) (row_eq : s.slot.version i = some row) :
      Move R a s { s.move i (.committed new.order) with
        slot := s.slot.commit i
        log := s.log ++ [⟨i, row.record, since, new, s.clock⟩] }
  | updated {i : ι} {response : Dict} {row : KeyRow ι} {updatedAt : DateTime}
      (label : a = .update i updatedAt) (phase : s.phase i = .updating response (some row.owner))
      (free : s.slot.free i = true) (row_eq : s.slot.committed = some row) :
      Move R a s (s.write i (some { row with
        record := row.record.answered response HTTP_201_CREATED updatedAt }) (.kept response))
  | finished {i : ι} {response : Dict} (phase : s.phase i = .kept response) :
      Move R a s { s.move i (.closed (.replied (.response HTTP_201_CREATED response))) with
        slot := s.slot.commit i }
  | ended {i : ι} {outcome : Outcome} (ending : Ending R a s i outcome) :
      Move R a s (s.close i outcome)

section moves
variable (R : KeyRequests ι) (i : ι) (s : KeyState ι) {a : KeyStep ι}

open KeyRequests

theorem lookup_move : lookup i s = s ∨ Move R a s (lookup i s) := by
  unfold KeyRequests.lookup
  split
  next hphase hrow => exact .inr (.turn (.absent hphase hrow))
  next row hphase hrow => exact .inr (.turn (.found hphase hrow))
  next => exact .inl rfl

theorem check_move : R.check i s = s ∨ Move R a s (R.check i s) := by
  unfold KeyRequests.check
  split
  next existing hphase =>
    split
    next hexpired => exact .inr (.turn (.stale hphase hexpired))
    next hlive => exact .inr (.ended (.answered hphase (Bool.eq_false_iff.mpr hlive)))
  next => exact .inl rfl

theorem sendDelete_move : sendDelete i s = s ∨ Move R a s (sendDelete i s) := by
  unfold KeyRequests.sendDelete
  split
  next hphase => exact .inr (.turn (.deleting hphase))
  next => exact .inl rfl

theorem delete_move (label : a = .delete i) : delete i s = s ∨ Move R a s (delete i s) := by
  unfold KeyRequests.delete
  split
  next target hphase =>
    split
    next hfree =>
      split
      next hmatch =>
        rw [Bool.and_eq_true, decide_eq_true_eq] at hmatch
        obtain ⟨row, hrow⟩ := Option.isSome_iff_exists.mp hmatch.1
        have htarget : target = some row.owner := by rw [← hmatch.2, hrow]; rfl
        rw [htarget] at hphase
        exact .inr (.deleted label hphase hfree hrow)
      next => exact .inr (.turn (.unmatched hphase))
    next => exact .inl rfl
  next => exact .inl rfl

theorem build_move : R.build i s = s ∨ Move R a s (R.build i s) := by
  unfold KeyRequests.build
  split
  next hphase => exact .inr (.turn (.ready hphase))
  next => exact .inl rfl

theorem insert_move {createdAt updatedAt : DateTime} (label : a = .insert i createdAt updatedAt) :
    R.insert i createdAt updatedAt s = s ∨ Move R a s (R.insert i createdAt updatedAt s) := by
  unfold KeyRequests.insert
  split
  next expiresAt hphase =>
    split
    next hfree =>
      split
      next hversion => exact .inr (.inserted label hphase hfree hversion)
      next row hversion => exact .inr (.ended (.refused label hphase hfree hversion))
    next => exact .inl rfl
  next => exact .inl rfl

theorem place_move {t : Session Database} (label : a = .place i t) :
    R.place i t s = s ∨ Move R a s (R.place i t s) := by
  unfold KeyRequests.place
  split
  next since hphase =>
    right
    split
    next order u hrun => exact .turn (.placed hphase hrun)
    next error u hrun =>
      split
      next detail hcaught =>
        exact .ended (.unplaced label hphase hrun (.inr ⟨detail, hcaught, rfl⟩))
      next => exact .ended (.unplaced label hphase hrun (.inl rfl))
    next => exact .ended .gone
  next => exact .inl rfl

theorem commit_move : commit i s = s ∨ Move R a s (commit i s) := by
  unfold KeyRequests.commit
  split
  next since new row hphase hrow => exact .inr (.committed hphase hrow)
  next => exact .inl rfl

theorem read_move {t : Session Database} (label : a = .read i t) :
    R.read i t s = s ∨ Move R a s (R.read i t s) := by
  unfold KeyRequests.read
  split
  next order hphase =>
    right
    split
    next saved items u hrun => exact .turn (.read hphase hrun)
    next error u hrun => exact .ended (.unread label hphase hrun)
    next => exact .ended .gone
  next => exact .inl rfl

theorem find_move : find i s = s ∨ Move R a s (find i s) := by
  unfold KeyRequests.find
  split
  next response row hphase hrow => exact .inr (.turn (.keeping hphase hrow))
  next response hphase hrow => exact .inr (.ended (.missing hphase hrow))
  next => exact .inl rfl

theorem sendUpdate_move : sendUpdate i s = s ∨ Move R a s (sendUpdate i s) := by
  unfold KeyRequests.sendUpdate
  split
  next response hphase => exact .inr (.turn (.updating hphase))
  next => exact .inl rfl

theorem update_move {updatedAt : DateTime} (label : a = .update i updatedAt) :
    update i updatedAt s = s ∨ Move R a s (update i updatedAt s) := by
  unfold KeyRequests.update
  split
  next response target hphase =>
    split
    next hfree =>
      right
      split
      next row hrow =>
        split
        next htarget => exact .updated label (htarget ▸ hphase) hfree hrow
        next htarget =>
          refine .ended (.lost hphase hfree fun row' hrow' => ?_)
          rw [hrow, Option.some.injEq] at hrow'
          rw [← hrow']
          exact htarget
      next hrow =>
        refine .ended (.lost hphase hfree fun row' hrow' => ?_)
        rw [hrow] at hrow'
        simp at hrow'
    next => exact .inl rfl
  next => exact .inl rfl

theorem finish_move : finish i s = s ∨ Move R a s (finish i s) := by
  unfold KeyRequests.finish
  split
  next response hphase => exact .inr (.finished hphase)
  next => exact .inl rfl

theorem abort_move : abort i s = s ∨ Move R a s (abort i s) := by
  unfold KeyRequests.abort
  split
  next => exact .inl rfl
  next => exact .inr (.ended .gone)

end moves

/-- **A step waits or makes a move.** -/
theorem step_move (R : KeyRequests ι) (a : KeyStep ι) (s : KeyState ι) :
    R.step a s = s ∨ Move R a s (R.step a s) := by
  cases a with
  | wait microseconds => exact .inr (.wait microseconds)
  | lookup i => exact lookup_move R i s
  | check i => exact check_move R i s
  | sendDelete i => exact sendDelete_move R i s
  | delete i => exact delete_move R i s rfl
  | build i => exact build_move R i s
  | insert i createdAt updatedAt => exact insert_move R i s rfl
  | place i t => exact place_move R i s rfl
  | commit i => exact commit_move R i s
  | read i t => exact read_move R i s rfl
  | find i => exact find_move R i s
  | sendUpdate i => exact sendUpdate_move R i s
  | update i updatedAt => exact update_move R i s rfl
  | finish i => exact finish_move R i s
  | abort i => exact abort_move R i s

/-- **The invariant rule of the key**: what every move keeps, every run
whose steps meet a condition keeps. -/
theorem moves_keep {R : KeyRequests ι} {I : KeyState ι → Prop} {C : KeyState ι → KeyStep ι → Prop}
    (keep : ∀ s s' a, I s → C s a → Move R a s s' → I s') (steps : List (KeyStep ι))
    {s : KeyState ι} (h : I s) (along : Along R.step C steps s) : I (run R.step steps s) := by
  refine run_invariant_along (fun s a hs hc => ?_) steps s h along
  rcases step_move R a s with hstay | hmove
  · rw [hstay]
    exact hs
  · exact keep s _ a hs hc hmove

end steps

end EventCart
