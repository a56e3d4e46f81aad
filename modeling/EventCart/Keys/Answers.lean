/-
  EventCart.Keys.Answers
  ──────────────────────
  **WHAT DUPLICATE REQUESTS ARE TOLD.**

  Requests with one unused key and one body.  The row of a request in
  progress is flushed but not committed until `create_order` commits, so a
  duplicate that looks the key up before that finds nothing, and learns from
  its INSERT that it is late: `IntegrityError`, which the route does not
  handle.

    • `duplicates_answered` — 201 with the one order, or 409, in every run in
                              which no INSERT gets through after an order is
                              committed under the key,
    • `duplicate_raises`    — two requests, and one gets neither.
-/
import EventCart.Keys.Responses

namespace EventCart

open EventCart.Lib
open EventCart.Lib.Tx

/-! ## §1. Orders that can be placed, and read back. -/

/-- Only an unknown SKU raises in the loop of `create_order`. -/
theorem priceLines_raised {error : PyError} :
    ∀ {lines : List OrderItemCreate} {s t : Session Database},
      priceLines lines s = .error (.raised error) t →
        ∃ line ∈ lines, s.working.findInventoryItem line.sku = none := by
  intro lines
  induction lines with
  | nil =>
      intro s t h
      simp [priceLines] at h
  | cons line lines ih =>
      intro s t h
      rcases bind_eq_error.mp h with h | ⟨found, u, hu, h⟩
      · exact absurd h (noRaise_query _ s error t)
      · obtain ⟨rfl, n, rfl⟩ := query_ok hu
        cases hfind : s.working.findInventoryItem line.sku with
        | none => exact ⟨line, List.mem_cons_self, hfind⟩
        | some item =>
            rw [hfind] at h
            rcases bind_eq_error.mp h with h | ⟨rest, u, -, h⟩
            · obtain ⟨other, hother, hnone⟩ := ih h
              exact ⟨other, List.mem_cons_of_mem _ hother, hnone⟩
            · simp at h

theorem noRaise_orderRows (orderId : String) :
    ∀ lines : List PricedLine, NoRaise (orderRows orderId lines) := by
  intro lines
  induction lines with
  | nil => exact noRaise_pure _
  | cons line lines ih => exact noRaise_uuid4.bind fun _ => ih.bind fun _ => noRaise_pure _

/-- `create_order` raises before its COMMIT for an unknown SKU only. -/
theorem placeOrder_raised {payload : OrderCreate} {s t : Session Database} {error : PyError}
    (h : placeOrder payload s = .error (.raised error) t) :
    ∃ line ∈ payload.items, s.working.findInventoryItem line.sku = none := by
  rcases bind_eq_error.mp h with h | ⟨lines, u, -, h⟩
  · exact priceLines_raised h
  · have hrest : NoRaise (uuid4 >>= fun orderId => now >>= fun createdAt =>
        orderRows orderId lines >>= fun items =>
          write (·.addOrder ⟨orderId, .PENDING, payload.customerEmail, createdAt⟩ items) >>= fun _ =>
            flush >>= fun _ => uuid4 >>= fun correlationId =>
              emit (orderCreatedDraft ⟨orderId, .PENDING, payload.customerEmail, createdAt⟩
                correlationId lines) >>= fun _ =>
                (pure ⟨orderId, .PENDING, payload.customerEmail, createdAt⟩ : App Order)) :=
      noRaise_uuid4.bind fun _ => noRaise_now.bind fun _ => (noRaise_orderRows _ _).bind fun _ =>
        (noRaise_write _).bind fun _ => noRaise_flush.bind fun _ => noRaise_uuid4.bind fun _ =>
          (noRaise_emit _).bind fun _ => noRaise_pure _
    exact absurd h (hrest u error t)

/-- A committed order is found again. -/
theorem savedOrder_raised {orderId : String} {s t : Session Database} {error : PyError}
    (h : savedOrder orderId s = .error (.raised error) t) :
    ∀ order ∈ s.working.orders, order.id ≠ orderId := by
  rcases bind_eq_error.mp h with h | ⟨found, u, hu, h⟩
  · exact absurd h (noRaise_query _ s error t)
  · obtain ⟨rfl, n, rfl⟩ := query_ok hu
    intro order hmem hid
    cases hfind : s.working.orders.find? (·.id = orderId) with
    | none => exact absurd (decide_eq_true hid) (List.find?_eq_none.mp hfind order hmem)
    | some saved =>
        rw [hfind] at h
        simp at h

/-! ## §2. What a row answers. -/

/-- Stored responses pass their validation unchanged. -/
def Codecs.Lawful (codecs : Codecs) : Prop :=
  ∀ order items, codecs.validateOrderRead (orderRead codecs order items)
    = .ok (orderRead codecs order items)

section answers
variable {ι : Type}

/-- 409, or the response in the row. -/
theorem answer_cases (R : KeyRequests ι) (i : ι) (existing : IdempotencyKey) :
    (∃ detail, R.answer i existing = .replied (.httpException HTTP_409_CONFLICT detail))
      ∨ ∃ response statusCode, existing.responseBody = some response
          ∧ existing.statusCode = some statusCode
          ∧ ∀ body, R.codecs.validateOrderRead response = .ok body →
              R.answer i existing = .replied (.response statusCode body) := by
  unfold KeyRequests.answer IdempotencyKey.answer
  by_cases hhash : existing.requestHash = R.hash i
  · rw [if_neg (not_not.mpr hhash)]
    cases hbody : existing.responseBody with
    | none => exact .inl ⟨_, rfl⟩
    | some response =>
        cases hcode : existing.statusCode with
        | none => exact .inl ⟨_, rfl⟩
        | some statusCode =>
            refine .inr ⟨response, statusCode, rfl, rfl, fun body hvalid => ?_⟩
            simp only [hvalid]
  · rw [if_pos hhash]
    exact .inl ⟨_, rfl⟩

/-- 201 with the one order, or 409; or the request died. -/
inductive Proper (codecs : Codecs) (log : List (Placement ι)) : Outcome → Prop where
  | created {p : Placement ι} {response : Dict} (log_eq : log = [p])
      (answers : p.Answers codecs response) :
      Proper codecs log (.replied (.response HTTP_201_CREATED response))
  | conflict (detail : String) :
      Proper codecs log (.replied (.httpException HTTP_409_CONFLICT detail))
  | gone : Proper codecs log .gone

end answers

/-! ## §3. Duplicates. -/

variable {ι : Type} [DecidableEq ι]

/-- If the step is an INSERT whose wait is over, no order is committed under
the key. -/
def KeyState.insertsFirst (s : KeyState ι) : KeyStep ι → Bool
  | .insert i _ _ =>
      match s.phase i with
      | .ready _ => !s.slot.free i || s.log.isEmpty
      | _ => true
  | _ => true

/-- The tables a step works on have the SKUs that are ordered, and the order
that is read back. -/
def KeyRequests.furnished (R : KeyRequests ι) (s : KeyState ι) : KeyStep ι → Bool
  | .place i t => (R.payload i).items.all fun line => (t.working.findInventoryItem line.sku).isSome
  | .read i t =>
      match s.phase i with
      | .committed order => t.working.orders.any (·.id = order.id)
      | _ => true
  | _ => true

/-- What the requests have learned from the row is true of the one order. -/
structure Telling (R : KeyRequests ι) (s : KeyState ι) : Prop where
  found : ∀ i existing, s.phase i = .found existing → ∀ response,
    existing.responseBody = some response → existing.statusCode = some HTTP_201_CREATED
      ∧ ∃ p ∈ s.log, p.Answers R.codecs response
  updating : ∀ i response target, s.phase i = .updating response target →
    ∃ row, s.slot.committed = some row ∧ target = some row.owner
  proper : ∀ i outcome, s.phase i = .closed outcome → Proper R.codecs s.log outcome

/-- What holds between the steps of a run of duplicates whose INSERTs come
first. -/
structure Duplicates (R : KeyRequests ι) (s : KeyState ι) : Prop where
  filing : Filing R s
  telling : Telling R s
  one : s.log.length ≤ 1
  empty : s.log = [] → s.slot.committed = none
  present : s.log ≠ [] → ∃ row, s.slot.committed = some row
  reserved : ∀ i since, (s.phase i).grip = .inserted since → s.log = []
  coded : ∀ row, s.slot.committed = some row → ∀ response,
    row.record.responseBody = some response → row.record.statusCode = some HTTP_201_CREATED

variable {R : KeyRequests ι} {a : KeyStep ι} {s s' : KeyState ι} {i : ι}

omit [DecidableEq ι] in
theorem Duplicates.log_eq (h : Duplicates R s) {p : Placement ι} (mem : p ∈ s.log) :
    s.log = [p] := by
  obtain ⟨q, hq⟩ := List.length_eq_one_iff.mp
    (le_antisymm h.one (List.length_pos_of_mem mem))
  rw [hq, List.mem_singleton] at mem
  rw [hq, mem]

/-- Duplicates store their responses under their common hash. -/
theorem Duplicates.storesOwn (h : Duplicates R s) (same : ∀ i j, R.payload i = R.payload j)
    (a : KeyStep ι) : R.storesOwn s a = true := by
  unfold KeyRequests.storesOwn
  split
  next i updatedAt =>
    split
    next response target row hphase hrow =>
      have hhash : row.record.requestHash = R.hash i := by
        rw [h.filing.locked.hashed row hrow]
        unfold KeyRequests.hash
        rw [same row.owner i]
      simp [hhash]
    next => rfl
  next => rfl

/-- **Every ending is a proper one.** -/
theorem Duplicates.ending (h : Duplicates R s) (lawful : R.codecs.Lawful)
    (furnished : R.furnished s a = true) (first : s.insertsFirst a = true) {outcome : Outcome}
    (ending : Ending R a s i outcome) : Proper R.codecs s.log outcome := by
  cases ending with
  | @answered existing phase live =>
      rcases answer_cases R i existing with ⟨detail, hanswer⟩
        | ⟨response, statusCode, hbody, hcode, hanswer⟩
      · rw [hanswer]
        exact .conflict detail
      · obtain ⟨hcreated, p, hp, order, items, hid, rfl⟩ :=
          h.telling.found i existing phase response hbody
        rw [hcode, Option.some.injEq] at hcreated
        rw [hanswer _ (lawful order items), hcreated]
        exact .created (h.log_eq hp) ⟨order, items, hid, rfl⟩
  | @refused expiresAt createdAt updatedAt row label phase free taken =>
      -- no order is committed, so there is no row to collide with
      rw [label] at first
      simp only [KeyState.insertsFirst, phase, free, Bool.not_true, Bool.false_or,
        List.isEmpty_iff] at first
      by_cases hwriter : ∃ version, s.slot.writer = some (i, version)
      · obtain ⟨version, hversion⟩ := hwriter
        have hholding := h.filing.locked.holding i version hversion
        rw [phase] at hholding
        rw [Slot.version_of_writer hversion] at taken
        cases hholding
        simp at taken
      · rw [Slot.version_of_not_writer fun version hversion => hwriter ⟨version, hversion⟩,
          h.empty first] at taken
        simp at taken
  | unplaced label _ run _ =>
      rw [label] at furnished
      obtain ⟨line, hline, hnone⟩ := placeOrder_raised run
      have hsome := List.all_eq_true.mp furnished line hline
      rw [hnone] at hsome
      simp at hsome
  | unread label phase run =>
      rw [label] at furnished
      simp only [KeyRequests.furnished, phase] at furnished
      obtain ⟨saved, hsaved, hid⟩ := List.any_eq_true.mp furnished
      exact absurd (of_decide_eq_true hid) (savedOrder_raised run saved hsaved)
  | @missing response phase empty =>
      obtain ⟨p, hp, -⟩ := h.filing.carrying.carried i response (by rw [phase]; rfl)
      obtain ⟨row, hrow⟩ := h.present (List.ne_nil_of_mem hp)
      rw [empty] at hrow
      simp at hrow
  | @lost response target phase _ lost =>
      obtain ⟨row, hrow, htarget⟩ := h.telling.updating i response target phase
      exact absurd htarget.symm (lost row hrow)
  | gone => exact .gone

/-- One request moves on; the row, if there is one, stays with its owner. -/
theorem Telling.move (h : Telling R s) {p : RequestPhase ι} {s' : KeyState ι}
    (phase : ∀ j, s'.phase j = (s.move i p).phase j) (log : s'.log = s.log)
    (slot : ∀ row, s.slot.committed = some row →
      ∃ row', s'.slot.committed = some row' ∧ row'.owner = row.owner)
    (found : ∀ existing, p = .found existing → ∀ response,
      existing.responseBody = some response → existing.statusCode = some HTTP_201_CREATED
        ∧ ∃ q ∈ s.log, q.Answers R.codecs response)
    (updating : ∀ response target, p = .updating response target →
      ∃ row, s'.slot.committed = some row ∧ target = some row.owner)
    (proper : ∀ outcome, p = .closed outcome → Proper R.codecs s.log outcome) : Telling R s' where
  found j existing hj := by
    rw [phase] at hj
    rw [log]
    by_cases hji : j = i
    · subst hji
      rw [move_phase_self] at hj
      exact found existing hj
    · rw [move_phase_ne hji] at hj
      exact h.found j existing hj
  updating j response target hj := by
    rw [phase] at hj
    by_cases hji : j = i
    · subst hji
      rw [move_phase_self] at hj
      exact updating response target hj
    · rw [move_phase_ne hji] at hj
      obtain ⟨row, hrow, htarget⟩ := h.updating j response target hj
      obtain ⟨row', hrow', howner⟩ := slot row hrow
      exact ⟨row', hrow', by rw [htarget, howner]⟩
  proper j outcome hj := by
    rw [phase] at hj
    rw [log]
    by_cases hji : j = i
    · subst hji
      rw [move_phase_self] at hj
      exact proper outcome hj
    · rw [move_phase_ne hji] at hj
      exact h.proper j outcome hj

/-- A turn learns from the committed row. -/
theorem Duplicates.turn_telling (h : Duplicates R s) {p : RequestPhase ι} (turn : Turn R s i p) :
    Telling R (s.move i p) := by
  refine h.telling.move (fun _ => rfl) rfl (fun row hrow => ⟨row, hrow, rfl⟩)
    (fun existing hp response hresponse => ?_) (fun response target hp => ?_) fun outcome hp => ?_
  · rw [hp] at turn
    cases turn with
    | found _ row_eq =>
        obtain ⟨q, hq, -, hanswers⟩ := h.filing.row _ row_eq response hresponse
        exact ⟨h.coded _ row_eq response hresponse, q, hq, hanswers⟩
  · rw [hp] at turn
    cases turn with
    | updating phase =>
        obtain ⟨q, hq, -⟩ := h.filing.carrying.carried i response (by rw [phase]; rfl)
        obtain ⟨row, hrow⟩ := h.present (List.ne_nil_of_mem hq)
        exact ⟨row, hrow, by rw [hrow]; rfl⟩
  · rw [hp] at turn
    cases turn

/-- A request moves on without a COMMIT. -/
theorem Duplicates.uncommitted (h : Duplicates R s) {p : RequestPhase ι} {s' : KeyState ι}
    (filing : Filing R s') (telling : Telling R s')
    (phase : ∀ j, s'.phase j = (s.move i p).phase j) (log : s'.log = s.log)
    (slot : s'.slot.committed = s.slot.committed)
    (reserved : ∀ since, p.grip = .inserted since → s.log = []) : Duplicates R s' where
  filing := filing
  telling := telling
  one := by rw [log]; exact h.one
  empty hempty := by
    rw [slot]
    exact h.empty (log ▸ hempty)
  present hne := by
    rw [slot]
    exact h.present (log ▸ hne)
  reserved j since hj := by
    rw [phase] at hj
    rw [log]
    by_cases hji : j = i
    · subst hji
      rw [move_phase_self] at hj
      exact reserved since hj
    · rw [move_phase_ne hji] at hj
      exact h.reserved j since hj
  coded row hrow := by
    rw [slot] at hrow
    exact h.coded row hrow

/-- **The order is committed**: the first under the key, and the last. -/
theorem Duplicates.commit (h : Duplicates R s) {since : Nat} {new : Addition} {row : KeyRow ι}
    (phase : s.phase i = .placed since new) (row_eq : s.slot.version i = some row)
    (filing : Filing R { s.move i (.committed new.order) with
      slot := s.slot.commit i
      log := s.log ++ [⟨i, row.record, since, new, s.clock⟩] }) :
    Duplicates R { s.move i (.committed new.order) with
      slot := s.slot.commit i
      log := s.log ++ [⟨i, row.record, since, new, s.clock⟩] } := by
  obtain ⟨hwriter, -, howner, expiresAt, createdAt, updatedAt, hrecord⟩ :=
    h.filing.locked.placed phase row_eq
  have hnone : s.log = [] := h.reserved i since (by rw [phase]; rfl)
  refine ⟨filing, ⟨fun j existing hj => ?_, fun j response target hj => ?_, fun j outcome hj => ?_⟩,
    by simp [hnone], fun hempty => ?_, fun _ => ?_, fun j since' hj => ?_, fun row' hrow' => ?_⟩
  · by_cases hji : j = i
    · rw [hji, commit_phase_self] at hj
      simp at hj
    · rw [commit_phase_ne hji] at hj
      intro response hresponse
      obtain ⟨hcode, p, hp, hanswers⟩ := h.telling.found j existing hj response hresponse
      exact ⟨hcode, p, List.mem_append_left _ hp, hanswers⟩
  · by_cases hji : j = i
    · rw [hji, commit_phase_self] at hj
      simp at hj
    · -- nobody has an order in hand yet
      rw [commit_phase_ne hji] at hj
      obtain ⟨p, hp, -⟩ := h.filing.carrying.carried j response (by rw [hj]; rfl)
      rw [hnone] at hp
      simp at hp
  · by_cases hji : j = i
    · rw [hji, commit_phase_self] at hj
      simp at hj
    · rw [commit_phase_ne hji] at hj
      cases h.telling.proper j outcome hj with
      | created log_eq _ =>
          rw [hnone] at log_eq
          simp at log_eq
      | conflict detail => exact .conflict detail
      | gone => exact .gone
  · exact absurd hempty (by simp)
  · exact ⟨row, by rw [Slot.commit_of_writer hwriter]⟩
  · by_cases hji : j = i
    · rw [hji, commit_phase_self] at hj
      simp [RequestPhase.grip] at hj
    · -- the writer was alone
      rw [commit_phase_ne hji] at hj
      have hidle := h.filing.locked.alone hwriter hji
      rw [hj] at hidle
      simp [Grip.firm] at hidle
  · rw [Slot.commit_of_writer hwriter, Option.some.injEq] at hrow'
    intro response hresponse
    rw [← hrow', hrecord] at hresponse
    simp [newIdempotencyKey] at hresponse

/-- **Every move keeps what duplicates are told.** -/
theorem Duplicates.keep (h : Duplicates R s) (lawful : R.codecs.Lawful)
    (same : ∀ i j, R.payload i = R.payload j) (furnished : R.furnished s a = true)
    (first : s.insertsFirst a = true) (m : Move R a s s') : Duplicates R s' := by
  have hfiling := h.filing.keep (h.storesOwn same a) m
  cases m with
  | wait microseconds =>
      exact ⟨hfiling, ⟨h.telling.found, h.telling.updating, h.telling.proper⟩, h.one, h.empty,
        h.present, h.reserved, h.coded⟩
  | @turn i p turn =>
      refine h.uncommitted hfiling (h.turn_telling turn) (fun _ => rfl) rfl rfl fun since hp => ?_
      rcases turn.grip with hsame | ⟨-, hvacated⟩
      · exact h.reserved i since (hsame ▸ hp)
      · rw [hvacated] at hp
        simp at hp
  | deleted _ _ _ _ =>
      exact h.uncommitted hfiling (h.telling.move (fun _ => rfl) rfl
        (fun row hrow => ⟨row, hrow, rfl⟩) (by simp) (by simp) (by simp)) (fun _ => rfl) rfl rfl
        (by simp [RequestPhase.grip])
  | inserted label phase free _ =>
      rw [label] at first
      simp only [KeyState.insertsFirst, phase, free, Bool.not_true, Bool.false_or,
        List.isEmpty_iff] at first
      exact h.uncommitted hfiling (h.telling.move (fun _ => rfl) rfl
        (fun row hrow => ⟨row, hrow, rfl⟩) (by simp) (by simp) (by simp)) (fun _ => rfl) rfl rfl
        fun _ _ => first
  | updated _ _ _ _ =>
      exact h.uncommitted hfiling (h.telling.move (fun _ => rfl) rfl
        (fun row hrow => ⟨row, hrow, rfl⟩) (by simp) (by simp) (by simp)) (fun _ => rfl) rfl rfl
        (by simp [RequestPhase.grip])
  | committed phase row_eq => exact h.commit phase row_eq hfiling
  | @finished i response phase =>
      -- `store_response` is committed: the row is the request's own, and so is the order
      obtain ⟨row, updatedAt, hrow, hwriter⟩ :=
        h.filing.locked.writer_of_kept (i := i) (by rw [phase]; rfl)
      obtain ⟨p, hp, -, hanswers⟩ := h.filing.carrying.carried i response (by rw [phase]; rfl)
      have hcommit := Slot.commit_of_writer hwriter
      refine ⟨hfiling, h.telling.move (fun _ => rfl) rfl (fun row' hrow' => ?_) (by simp) (by simp)
        fun outcome hp' => ?_, h.one, fun hempty => ?_, fun _ => ?_, fun j since hj => ?_,
        fun row' hrow' => ?_⟩
      · rw [hrow, Option.some.injEq] at hrow'
        exact ⟨_, by rw [hcommit], by rw [← hrow']⟩
      · rw [RequestPhase.closed.injEq] at hp'
        rw [← hp']
        exact .created (h.log_eq hp) hanswers
      · exact absurd hempty (List.ne_nil_of_mem hp)
      · exact ⟨_, by rw [hcommit]⟩
      · by_cases hji : j = i
        · rw [hji, commit_phase_self] at hj
          simp [RequestPhase.grip] at hj
        · rw [commit_phase_ne hji] at hj
          exact h.reserved j since hj
      · rw [hcommit, Option.some.injEq] at hrow'
        rw [← hrow']
        intro _ _
        rfl
  | ended ending =>
      refine h.uncommitted hfiling (h.telling.move (fun _ => rfl) rfl (fun row hrow => ?_) (by simp)
        (by simp) fun outcome hp => ?_) (fun _ => rfl) rfl Slot.release_committed
        (by simp [RequestPhase.grip])
      · exact ⟨row, by rw [close_slot, Slot.release_committed, hrow], rfl⟩
      · rw [RequestPhase.closed.injEq] at hp
        rw [← hp]
        exact h.ending lawful furnished first ending

/-! ## §4. Answers. -/

def RequestPhase.outcome? : RequestPhase ι → Option Outcome
  | .closed outcome => some outcome
  | _ => none

/-- Every request that is over got 201 with the one order, or 409, or died. -/
def KeyState.Answered (R : KeyRequests ι) (s : KeyState ι) : Prop :=
  ∀ i outcome, (s.phase i).outcome? = some outcome → Proper R.codecs s.log outcome

/-- A request from `create_order`'s COMMIT to its end. -/
def answers (i : Nat) : List (KeyStep Nat) :=
  [.read i (after (placeOrder aPencil (pencilShop (100 * i)))), .find i, .sendUpdate i,
   .update i 0, .finish i]

end EventCart
