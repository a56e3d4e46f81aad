/-
  EventCart.Keys.OneOrder
  ───────────────────────
  **ONE ORDER PER IDEMPOTENCY KEY?**

  The key row and the order are committed together, so as long as a row
  stands in the table nobody else's INSERT, and nobody else's order, gets in.
  A row leaves the table by the DELETE of a request that found it expired;
  but that DELETE goes by the key alone, and the row it removes need not be
  the one whose expiry was tested.

    • `one_order`  — one order between the insertion of a row and its expiry,
                     in every run whose DELETEs remove expired rows,
    • `two_orders` — two requests find one expired row, and the second
                     deletes the first one's fresh row.
-/
import EventCart.Keys.Locks

namespace EventCart

open EventCart.Lib
open EventCart.Lib.Tx

variable {ι : Type} [DecidableEq ι]

/-! ## §1. What is committed with an order. -/

/-- An order and its `OrderCreated` event. -/
def Addition.Single (new : Addition) : Prop :=
  new.orders = [new.order] ∧ ∃ event, new.events = [event] ∧ event.eventType = "OrderCreated"
    ∧ event.aggregateId = new.order.id

theorem addition_single {payload : OrderCreate} {t u : Session Database} {order : Order}
    (run : placeOrder payload t = .ok order u) : (Addition.between order t u).Single := by
  obtain ⟨items, new, n, placed, rfl⟩ := placeOrder_ok run
  obtain ⟨lines, correlationId, eventId, occurredAt, -, -, -, -, -, hnew⟩ := placed.event
  have horders : (t.working.orders ++ [order]).drop t.working.orders.length = [order] :=
    List.drop_left
  have hevents : (t.working.outboxEvents ++ [new]).drop t.working.outboxEvents.length = [new] :=
    List.drop_left
  exact ⟨horders, new, hevents, by rw [hnew]; rfl, by rw [hnew]; rfl⟩

/-- The additions of a run are orders with their event. -/
structure Added (s : KeyState ι) : Prop where
  placed : ∀ i since new, s.phase i = .placed since new → new.Single
  log : ∀ p ∈ s.log, p.new.Single

variable {R : KeyRequests ι} {a : KeyStep ι} {s s' : KeyState ι} {i : ι}

omit [DecidableEq ι] in
/-- Only a run of `create_order` makes an addition. -/
theorem Turn.single {p : RequestPhase ι} (h : Turn R s i p) {since : Nat} {new : Addition}
    (placed : p = .placed since new) : new.Single := by
  cases h with
  | placed phase run =>
      rw [RequestPhase.placed.injEq] at placed
      rw [← placed.2]
      exact addition_single run
  | absent | unmatched | found | stale | deleting | ready | read | keeping | updating =>
      simp at placed

/-- A request that moves to a phase without an addition. -/
theorem Added.move (h : Added s) {p : RequestPhase ι}
    (new : ∀ since new, p = .placed since new → new.Single) {s' : KeyState ι}
    (phase : ∀ j, s'.phase j = (s.move i p).phase j) (log : s'.log = s.log) : Added s' where
  placed j since added hj := by
    rw [phase] at hj
    by_cases hji : j = i
    · subst hji
      rw [move_phase_self] at hj
      exact new since added hj
    · rw [move_phase_ne hji] at hj
      exact h.placed j since added hj
  log := log ▸ h.log

theorem Added.keep (h : Added s) (m : Move R a s s') : Added s' := by
  cases m with
  | wait microseconds => exact ⟨h.placed, h.log⟩
  | turn turn => exact h.move (fun since new hp => turn.single hp) (fun _ => rfl) rfl
  | deleted | inserted | updated | finished | ended =>
      exact h.move (fun since new hp => by simp at hp) (fun _ => rfl) rfl
  | @committed i since new row phase row_eq =>
      have hmoved : Added (s.move i (.committed new.order)) :=
        h.move (fun since new hp => by simp at hp) (fun _ => rfl) rfl
      refine ⟨hmoved.placed, fun p hp => ?_⟩
      rcases List.mem_append.mp hp with hp | hp
      · exact h.log p hp
      · rw [List.mem_singleton.mp hp]
        exact h.placed i since new phase

/-! ## §2. Rows and the time they stand. -/

/-- If the step is a DELETE that removes a row, the row has expired. -/
def KeyState.deletesExpired (s : KeyState ι) : KeyStep ι → Bool
  | .delete i =>
      match s.phase i, s.slot.committed with
      | .deleting (some target), some row =>
          !s.slot.free i || row.owner ≠ target || row.record.isExpired s.clock
      | _, _ => true
  | _ => true

/-- What holds between the steps of a run that deletes expired rows only. -/
structure Spaced (R : KeyRequests ι) (s : KeyState ι) : Prop where
  locked : Locked R s
  /-- A row that is being replaced has expired. -/
  replaced : ∀ i version, s.slot.writer = some (i, version) →
    (∀ response, (s.phase i).grip ≠ .kept response) →
      ∀ row, s.slot.committed = some row → row.record.expiresAt ≤ s.clock
  /-- The row of an order stands until it expires. -/
  stands : ∀ p ∈ s.log, p.record.expiresAt ≤ s.clock
    ∨ ∃ row, s.slot.committed = some row ∧ row.record.expiresAt = p.record.expiresAt
  /-- Every row is one an order was committed with. -/
  filed : ∀ row, s.slot.committed = some row →
    ∃ p ∈ s.log, p.request = row.owner ∧ p.record.expiresAt = row.record.expiresAt
  /-- The next order comes after the expiry of every row before it. -/
  apart : s.log.Pairwise fun p q => p.record.expiresAt ≤ q.committedAt

omit [DecidableEq ι] in
/-- A turn keeps the response columns as they are. -/
theorem Turn.kept_iff {p : RequestPhase ι} (h : Turn R s i p) (response : Dict) :
    p.grip = .kept response ↔ (s.phase i).grip = .kept response := by
  rcases h.grip with hsame | ⟨hidle, hvacated⟩
  · rw [hsame]
  · rw [hidle, hvacated]
    simp

theorem Spaced.turn (h : Spaced R s) {p : RequestPhase ι} (turn : Turn R s i p) :
    Spaced R (s.move i p) where
  locked := h.locked.turn turn
  replaced j version hversion hkept := by
    refine h.replaced j version hversion fun response hgrip => ?_
    by_cases hji : j = i
    · subst hji
      rw [move_phase_self] at hkept
      exact hkept response ((turn.kept_iff response).mpr hgrip)
    · rw [move_phase_ne hji] at hkept
      exact hkept response hgrip
  stands := h.stands
  filed := h.filed
  apart := h.apart

/-- A request writes over a row it may replace, or into the row itself. -/
theorem Spaced.write (h : Spaced R s) (free : s.slot.free i = true) {version : Option (KeyRow ι)}
    {p : RequestPhase ι} (holding : Holding R s.slot.committed s.log.length i version p.grip)
    (replaced : (∀ response, p.grip ≠ .kept response) →
      ∀ row, s.slot.committed = some row → row.record.expiresAt ≤ s.clock) :
    Spaced R (s.write i version p) where
  locked := h.locked.write free holding
  replaced j other hother hkept := by
    rw [write_slot, Slot.write_writer, Option.some.injEq, Prod.mk.injEq] at hother
    obtain ⟨rfl, -⟩ := hother
    rw [write_phase_self] at hkept
    exact replaced hkept
  stands := h.stands
  filed := h.filed
  apart := h.apart

/-- No row is in the way of a request whose INSERT goes through, or one that
it is replacing. -/
theorem Spaced.vacant (h : Spaced R s) {expiresAt : DateTime} (phase : s.phase i = .ready expiresAt)
    (absent : s.slot.version i = none) :
    ∀ row, s.slot.committed = some row → row.record.expiresAt ≤ s.clock := by
  intro row hrow
  by_cases hwriter : ∃ version, s.slot.writer = some (i, version)
  · obtain ⟨version, hversion⟩ := hwriter
    refine h.replaced i version hversion (fun response hgrip => ?_) row hrow
    rw [phase] at hgrip
    simp [RequestPhase.grip] at hgrip
  · rw [Slot.version_of_not_writer (fun version hversion => hwriter ⟨version, hversion⟩), hrow]
      at absent
    simp at absent

/-- **An order is committed**: every earlier row has expired by then. -/
theorem Spaced.commit (h : Spaced R s) {since : Nat} {new : Addition} {row : KeyRow ι}
    (phase : s.phase i = .placed since new) (row_eq : s.slot.version i = some row) :
    Spaced R { s.move i (.committed new.order) with
      slot := s.slot.commit i
      log := s.log ++ [⟨i, row.record, since, new, s.clock⟩] } := by
  obtain ⟨hwriter, -, howner, -⟩ := h.locked.placed phase row_eq
  -- the row of an earlier order expired before this one could be inserted
  have hexpired : ∀ p ∈ s.log, p.record.expiresAt ≤ s.clock := by
    intro p hp
    rcases h.stands p hp with hp | ⟨old, hold, hsame⟩
    · exact hp
    · rw [← hsame]
      refine h.replaced i _ hwriter (fun response hgrip => ?_) old hold
      rw [phase] at hgrip
      simp [RequestPhase.grip] at hgrip
  refine ⟨h.locked.keep (a := .commit i) (.committed phase row_eq), ?_, ?_, ?_, ?_⟩
  · intro j version hversion
    rw [Slot.commit_of_writer hwriter] at hversion
    simp at hversion
  · intro p hp
    rcases List.mem_append.mp hp with hp | hp
    · exact .inl (hexpired p hp)
    · rw [List.mem_singleton.mp hp]
      refine .inr ⟨row, ?_, rfl⟩
      show (s.slot.commit i).committed = some row
      rw [Slot.commit_of_writer hwriter]
  · intro row' hrow'
    rw [Slot.commit_of_writer hwriter, Option.some.injEq] at hrow'
    exact ⟨_, List.mem_append_right _ (List.mem_singleton.mpr rfl), by rw [← hrow', howner],
      by rw [← hrow']⟩
  · rw [List.pairwise_append]
    refine ⟨h.apart, List.pairwise_singleton _ _, fun p hp q hq => ?_⟩
    rw [List.mem_singleton.mp hq]
    exact hexpired p hp

/-- What is past stays past. -/
theorem le_wait {t clock : Int} (h : t ≤ clock) (microseconds : Nat) :
    t ≤ clock + microseconds := by
  omega

/-- **Every move keeps the rows spaced** if it deletes expired rows only. -/
theorem Spaced.keep (h : Spaced R s) (expired : s.deletesExpired a = true) (m : Move R a s s') :
    Spaced R s' := by
  have hlocked := h.locked.keep m
  cases m with
  | wait microseconds =>
      refine ⟨hlocked, fun j version hversion hkept row hrow => ?_, fun p hp => ?_, h.filed,
        h.apart⟩
      · exact le_wait (h.replaced j version hversion hkept row hrow) microseconds
      · rcases h.stands p hp with hbefore | hrow
        · exact .inl (le_wait hbefore microseconds)
        · exact .inr hrow
  | turn turn => exact h.turn turn
  | @deleted i row label phase free row_eq =>
      refine h.write free .vacated fun _ row' hrow' => ?_
      rw [row_eq, Option.some.injEq] at hrow'
      rw [label] at expired
      simp only [KeyState.deletesExpired, phase, row_eq, free] at expired
      rw [← hrow']
      simpa [IdempotencyKey.isExpired] using expired
  | inserted _ phase free absent =>
      exact h.write free (.inserted _ _ _) fun _ => h.vacant phase absent
  | committed phase row_eq => exact h.commit phase row_eq
  | @updated i response row updatedAt label phase free row_eq =>
      exact h.write free (.kept row_eq) fun hnot => absurd rfl (hnot response)
  | finished phase =>
      -- the row is the same one, with its response
      obtain ⟨row, updatedAt, hrow, hwriter⟩ := h.locked.writer_of_kept (by rw [phase]; rfl)
      refine ⟨hlocked, fun j version hversion => ?_, fun p hp => ?_, fun row' hrow' => ?_, h.apart⟩
      · rw [Slot.commit_of_writer hwriter] at hversion
        simp at hversion
      · rcases h.stands p hp with hp | ⟨old, hold, hsame⟩
        · exact .inl hp
        · rw [hrow, Option.some.injEq] at hold
          refine .inr ⟨_, by rw [Slot.commit_of_writer hwriter], ?_⟩
          rw [← hsame, ← hold]
          rfl
      · rw [Slot.commit_of_writer hwriter, Option.some.injEq] at hrow'
        rw [← hrow']
        exact h.filed row hrow
  | @ended i outcome ending =>
      refine ⟨hlocked, fun j version hversion hkept => ?_, fun p hp => ?_, ?_, h.apart⟩
      · obtain ⟨hversion, hji⟩ := Slot.release_writer.mp hversion
        rw [close_phase_ne hji] at hkept
        rw [close_slot, Slot.release_committed]
        exact h.replaced j version hversion hkept
      · rw [close_slot, Slot.release_committed]
        exact h.stands p hp
      · rw [close_slot, Slot.release_committed]
        exact h.filed

/-! ## §3. Orders between the insertion and the expiry of a row. -/

/-- The orders committed under the key from the insertion of an order's row
to the row's `expires_at`. -/
def KeyState.within (s : KeyState ι) (p : Placement ι) : List (Placement ι) :=
  (s.log.drop p.since).filter fun q => decide (q.committedAt < p.record.expiresAt)

/-- At most one order and one `OrderCreated` event for every key row. -/
structure OneOrder (s : KeyState ι) : Prop where
  orders : ∀ p ∈ s.log, ((s.within p).flatMap (·.new.orders)).length ≤ 1
  events : ∀ p ∈ s.log, (((s.within p).flatMap (·.new.events)).filter
    (·.eventType = "OrderCreated")).length ≤ 1
  /-- The rows meant are all that are ever committed. -/
  rows : ∀ row, s.slot.committed = some row →
    ∃ p ∈ s.log, p.request = row.owner ∧ p.record.expiresAt = row.record.expiresAt

omit [DecidableEq ι] in
/-- Between insertion and expiry there is the row's own order. -/
theorem Spaced.within_eq (h : Spaced R s) {p : Placement ι} (mem : p ∈ s.log) :
    s.within p = [p] ∨ s.within p = [] := by
  obtain ⟨k, hk, rfl⟩ := List.getElem_of_mem mem
  have hsince : (s.log[k]).since = k := h.locked.since k _ (List.getElem?_eq_getElem hk)
  have hlater : ∀ q ∈ s.log.drop (k + 1), ¬ q.committedAt < (s.log[k]).record.expiresAt := by
    intro q hq
    obtain ⟨m, hm, rfl⟩ := List.getElem_of_mem hq
    rw [List.length_drop] at hm
    have hapart := List.pairwise_iff_getElem.mp h.apart k (k + 1 + m) hk (by omega) (by omega)
    rw [List.getElem_drop]
    exact not_lt.mpr hapart
  have hrest : (s.log.drop (k + 1)).filter
      (fun q => decide (q.committedAt < (s.log[k]).record.expiresAt)) = [] := by
    rw [List.filter_eq_nil_iff]
    intro q hq
    simpa using hlater q hq
  unfold KeyState.within
  rw [hsince, List.drop_eq_getElem_cons hk, List.filter_cons, hrest]
  split
  · exact .inl rfl
  · exact .inr rfl

omit [DecidableEq ι] in
theorem Spaced.one (h : Spaced R s) (added : Added s) : OneOrder s where
  orders p mem := by
    rcases h.within_eq mem with hwithin | hwithin
    · rw [hwithin, List.flatMap_singleton, (added.log p mem).1]
      exact le_refl 1
    · rw [hwithin]
      exact Nat.zero_le 1
  events p mem := by
    rcases h.within_eq mem with hwithin | hwithin
    · obtain ⟨-, event, hevents, -⟩ := added.log p mem
      rw [hwithin, List.flatMap_singleton, hevents]
      exact List.length_filter_le _ _
    · rw [hwithin]
      exact Nat.zero_le 1
  rows := h.filed

omit [DecidableEq ι] in
theorem spaced_start (clock : DateTime) : Spaced R (KeyState.start clock : KeyState ι) where
  locked := locked_start clock
  replaced i version h := by simp [KeyState.start] at h
  stands p h := by simp [KeyState.start] at h
  filed row h := by simp [KeyState.start] at h
  apart := List.Pairwise.nil

/-- **One order per key row**: in every interleaving of any number of
requests with the key, with crashes anywhere, if every DELETE that removes a
row removes an expired one. -/
theorem one_order (R : KeyRequests ι) (clock : DateTime) (steps : List (KeyStep ι))
    (expired : Along R.step (fun s a => s.deletesExpired a = true) steps (KeyState.start clock)) :
    OneOrder (run R.step steps (KeyState.start clock)) := by
  have hrun : Spaced R (run R.step steps (KeyState.start clock))
      ∧ Added (run R.step steps (KeyState.start clock)) :=
    moves_keep (I := fun s => Spaced R s ∧ Added s)
      (fun s s' a h hexpired m => ⟨h.1.keep hexpired m, h.2.keep m⟩) steps
      ⟨spaced_start clock, fun i since new h => by simp [KeyState.start] at h,
        fun p h => by simp [KeyState.start] at h⟩ expired
  exact hrun.1.one hrun.2

/-! ## §4. Requests that meet at an expired row. -/

/-- Codecs that leave texts as they are. -/
def plainCodecs : Codecs := ⟨id, fun _ => "then", .ok⟩

theorem pencil_length : 1 ≤ "PENCIL".length ∧ "PENCIL".length ≤ 64 := by decide

theorem ann_length : 3 ≤ "ann@example.com".length ∧ "ann@example.com".length ≤ 320 := by decide

/-- An order of pencils. -/
def somePencils (quantity : Int) (quantity_gt : 0 < quantity) : OrderCreate :=
  ⟨"ann@example.com", [⟨"PENCIL", quantity, pencil_length, quantity_gt⟩], ann_length, le_refl 1⟩

def aPencil : OrderCreate := somePencils 1 one_pos

/-- A session on a database with pencils in stock. -/
def pencilShop (tick : Nat) : Session Database :=
  Session.begin .calm tick
    { Database.empty with inventoryItems := [⟨"item-1", "PENCIL", "Pencil", 10, 50, 0⟩] }

/-- Requests for one pencil each, under one key. -/
def pencilRequests : KeyRequests Nat := ⟨plainCodecs, DEFAULT_TTL, "key-1", fun _ => aPencil⟩

/-- The 24 hours of a key, in microseconds, go by. -/
def aDay : KeyStep Nat := .wait 86400000000

/-- A request from the key's lookup, which finds nothing, to the COMMIT of
`create_order`. -/
def ordersFirst (i : Nat) : List (KeyStep Nat) :=
  [.lookup i, .build i, .insert i 0 0, .place i (pencilShop (100 * i)), .commit i]

/-- A request that found an expired row, from there to the COMMIT of
`create_order`. -/
def ordersAgain (i : Nat) : List (KeyStep Nat) :=
  [.sendDelete i, .delete i, .build i, .insert i 0 0, .place i (pencilShop (100 * i)), .commit i]

/-- The second request comes after the first one's row has expired. -/
def expiredRun : List (KeyStep Nat) :=
  ordersFirst 1 ++ [aDay, .lookup 2, .check 2] ++ ordersAgain 2

/-- The second and the third find the first one's row expired, and replace
it one after the other. -/
def doubleDelete : List (KeyStep Nat) :=
  ordersFirst 1 ++ [aDay, .lookup 2, .check 2, .lookup 3, .check 3] ++ ordersAgain 2
    ++ ordersAgain 3

/-- With the first row expired there is a second order, in a window of its
own. -/
theorem one_order_expired :
    (run pencilRequests.step expiredRun (KeyState.start 0)).log.length = 2
      ∧ OneOrder (run pencilRequests.step expiredRun (KeyState.start 0)) :=
  ⟨by decide +kernel, one_order pencilRequests 0 expiredRun (by decide +kernel)⟩

/-- **Two orders under one key row**: the third request deletes the row the
second has just inserted. -/
theorem two_orders :
    ¬ ∀ (R : KeyRequests Nat) (clock : DateTime) (steps : List (KeyStep Nat)),
        OneOrder (run R.step steps (KeyState.start clock)) := by
  intro h
  have hone := (h pencilRequests 0 doubleDelete).orders
  have htwo : (run pencilRequests.step doubleDelete (KeyState.start 0)).log.all
      (fun p => decide ((((run pencilRequests.step doubleDelete (KeyState.start 0)).within p).flatMap
        (·.new.orders)).length ≤ 1)) = false := by
    decide +kernel
  rw [List.all_eq_false] at htwo
  obtain ⟨p, hp, hnot⟩ := htwo
  exact hnot (decide_eq_true (hone p hp))

end EventCart
