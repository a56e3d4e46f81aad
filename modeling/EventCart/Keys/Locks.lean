/-
  EventCart.Keys.Locks
  ────────────────────
  **WHO HOLDS THE ROW, AND IN WHICH VERSION.**

  What is true in every run, without any condition: the one transaction that
  is writing the key's row stands at a statement between its first write and
  its COMMIT, and its version is what it wrote there.  No order is committed
  under the key while another request holds the row, so a request's row is
  inserted after exactly the orders that its own follows.
-/
import EventCart.Keys.System

namespace EventCart

open EventCart.Lib

variable {ι : Type} [DecidableEq ι]

/-! ## §1. Moves and phases. -/

section phases
variable {s : KeyState ι} {i j : ι} {p : RequestPhase ι} {row : Option (KeyRow ι)}
  {outcome : Outcome}

@[simp] theorem move_phase_self : (s.move i p).phase i = p := if_pos rfl

theorem move_phase_ne (h : j ≠ i) : (s.move i p).phase j = s.phase j := if_neg h

@[simp] theorem move_slot : (s.move i p).slot = s.slot := rfl
@[simp] theorem move_log : (s.move i p).log = s.log := rfl
@[simp] theorem move_clock : (s.move i p).clock = s.clock := rfl

@[simp] theorem write_phase_self : (s.write i row p).phase i = p := if_pos rfl

theorem write_phase_ne (h : j ≠ i) : (s.write i row p).phase j = s.phase j := if_neg h

@[simp] theorem write_slot : (s.write i row p).slot = s.slot.write i row := rfl
@[simp] theorem write_log : (s.write i row p).log = s.log := rfl
@[simp] theorem write_clock : (s.write i row p).clock = s.clock := rfl

@[simp] theorem close_phase_self : (s.close i outcome).phase i = .closed outcome := if_pos rfl

theorem close_phase_ne (h : j ≠ i) : (s.close i outcome).phase j = s.phase j := if_neg h

@[simp] theorem close_slot : (s.close i outcome).slot = s.slot.release i := rfl
@[simp] theorem close_log : (s.close i outcome).log = s.log := rfl
@[simp] theorem close_clock : (s.close i outcome).clock = s.clock := rfl

/-- A COMMIT moves one request on, like any other step. -/
theorem commit_phase_self {slot : Slot ι (KeyRow ι)} {log : List (Placement ι)} :
    ({ s.move i p with slot := slot, log := log } : KeyState ι).phase i = p := if_pos rfl

theorem commit_phase_ne {slot : Slot ι (KeyRow ι)} {log : List (Placement ι)} (h : j ≠ i) :
    ({ s.move i p with slot := slot, log := log } : KeyState ι).phase j = s.phase j := if_neg h

end phases

/-! ## §2. Versions. -/

/-- What a request that stands at a statement may have written. -/
inductive Grip where
  | idle
  /-- Perhaps a DELETE. -/
  | vacated
  | inserted (since : Nat)
  | kept (response : Dict)

/-- There is something written. -/
def Grip.firm : Grip → Bool
  | .idle | .vacated => false
  | .inserted _ | .kept _ => true

def RequestPhase.grip : RequestPhase ι → Grip
  | .clear | .ready _ => .vacated
  | .reserved since | .placed since _ => .inserted since
  | .kept response => .kept response
  | .arrived | .found _ | .stale | .deleting _ | .committed _ | .read _ | .keeping _
  | .updating _ _ | .closed _ => .idle

/-- The writer's version, over the committed row and the number of orders
committed so far. -/
inductive Holding (R : KeyRequests ι) (committed : Option (KeyRow ι)) (orders : Nat) (i : ι) :
    Option (KeyRow ι) → Grip → Prop where
  | vacated : Holding R committed orders i none .vacated
  | inserted (expiresAt createdAt updatedAt : DateTime) :
      Holding R committed orders i
        (some ⟨i, newIdempotencyKey R.key (R.hash i) expiresAt createdAt updatedAt⟩)
        (.inserted orders)
  | kept {row : KeyRow ι} {response : Dict} {updatedAt : DateTime} (row_eq : committed = some row) :
      Holding R committed orders i
        (some { row with record := row.record.answered response HTTP_201_CREATED updatedAt })
        (.kept response)

/-- What holds between the steps of every run. -/
structure Locked (R : KeyRequests ι) (s : KeyState ι) : Prop where
  holding : ∀ i row, s.slot.writer = some (i, row) →
    Holding R s.slot.committed s.log.length i row (s.phase i).grip
  firm : ∀ i, (s.phase i).grip.firm = true → ∃ row, s.slot.writer = some (i, row)
  hashed : ∀ row, s.slot.committed = some row → row.record.requestHash = R.hash row.owner
  since : ∀ k (p : Placement ι), s.log[k]? = some p → p.since = k

variable {R : KeyRequests ι} {a : KeyStep ι} {s s' : KeyState ι} {i : ι}

omit [DecidableEq ι] in
/-- A turn writes nothing, so it keeps the grip. -/
theorem Turn.grip {p : RequestPhase ι} (h : Turn R s i p) :
    p.grip = (s.phase i).grip ∨ ((s.phase i).grip = .idle ∧ p.grip = .vacated) := by
  cases h with
  | absent phase _ => exact .inr ⟨by rw [phase]; rfl, rfl⟩
  | unmatched phase => exact .inr ⟨by rw [phase]; rfl, rfl⟩
  | found phase _ | stale phase _ | deleting phase | ready phase | placed phase _ | read phase _
    | keeping phase _ | updating phase =>
      left
      rw [phase]
      rfl

/-- Nobody else has written while the row is free. -/
theorem Locked.other (h : Locked R s) (free : s.slot.free i = true) {j : ι} (hji : j ≠ i) :
    (s.phase j).grip.firm = false := by
  by_contra hfirm
  obtain ⟨row, hrow⟩ := h.firm j (Bool.eq_true_of_not_eq_false hfirm)
  exact hji (Slot.writer_of_free free hrow)

omit [DecidableEq ι] in
/-- The request that has inserted its row. -/
theorem Locked.writer_of_inserted (h : Locked R s) {since : Nat}
    (grip : (s.phase i).grip = .inserted since) :
    since = s.log.length ∧ ∃ expiresAt createdAt updatedAt, s.slot.writer
      = some (i, some ⟨i, newIdempotencyKey R.key (R.hash i) expiresAt createdAt updatedAt⟩) := by
  obtain ⟨row, hrow⟩ := h.firm i (by rw [grip]; rfl)
  have hholding := h.holding i row hrow
  rw [grip] at hholding
  cases hholding with
  | inserted expiresAt createdAt updatedAt => exact ⟨rfl, expiresAt, createdAt, updatedAt, hrow⟩

omit [DecidableEq ι] in
/-- The request that has written its response. -/
theorem Locked.writer_of_kept (h : Locked R s) {response : Dict}
    (grip : (s.phase i).grip = .kept response) :
    ∃ row updatedAt, s.slot.committed = some row ∧ s.slot.writer = some (i, some { row with
      record := row.record.answered response HTTP_201_CREATED updatedAt }) := by
  obtain ⟨version, hversion⟩ := h.firm i (by rw [grip]; rfl)
  have hholding := h.holding i version hversion
  rw [grip] at hholding
  cases hholding with
  | @kept row _ updatedAt row_eq => exact ⟨row, updatedAt, row_eq, hversion⟩

/-! ## §3. Every move keeps them. -/

theorem Locked.turn (h : Locked R s) {p : RequestPhase ι} (turn : Turn R s i p) :
    Locked R (s.move i p) where
  holding j row hrow := by
    by_cases hji : j = i
    · subst hji
      rw [move_phase_self]
      have hholding := h.holding j row hrow
      rcases turn.grip with hsame | ⟨hidle, -⟩
      · rw [hsame]
        exact hholding
      · rw [hidle] at hholding
        cases hholding
    · rw [move_phase_ne hji]
      exact h.holding j row hrow
  firm j hj := by
    by_cases hji : j = i
    · subst hji
      rw [move_phase_self] at hj
      rcases turn.grip with hsame | ⟨-, hvacated⟩
      · exact h.firm j (hsame ▸ hj)
      · rw [hvacated] at hj
        simp [Grip.firm] at hj
    · rw [move_phase_ne hji] at hj
      exact h.firm j hj
  hashed := h.hashed
  since := h.since

/-- A request writes its version of a row that is free. -/
theorem Locked.write (h : Locked R s) (free : s.slot.free i = true) {row : Option (KeyRow ι)}
    {p : RequestPhase ι} (holding : Holding R s.slot.committed s.log.length i row p.grip) :
    Locked R (s.write i row p) where
  holding j version hversion := by
    rw [write_slot, Slot.write_writer, Option.some.injEq, Prod.mk.injEq] at hversion
    obtain ⟨rfl, rfl⟩ := hversion
    rw [write_phase_self]
    exact holding
  firm j hj := by
    by_cases hji : j = i
    · exact ⟨row, by rw [hji]; rfl⟩
    · rw [write_phase_ne hji, h.other free hji] at hj
      simp at hj
  hashed := h.hashed
  since := h.since

omit [DecidableEq ι] in
/-- Two requests with a firm grip are one. -/
theorem Locked.alone (h : Locked R s) {row : Option (KeyRow ι)}
    (writer : s.slot.writer = some (i, row)) {j : ι} (hji : j ≠ i) :
    (s.phase j).grip.firm = false := by
  by_contra hfirm
  obtain ⟨other, hother⟩ := h.firm j (Bool.eq_true_of_not_eq_false hfirm)
  rw [writer, Option.some.injEq, Prod.mk.injEq] at hother
  exact hji hother.1.symm

theorem Locked.close (h : Locked R s) (outcome : Outcome) : Locked R (s.close i outcome) where
  holding j row hrow := by
    obtain ⟨hrow, hji⟩ := Slot.release_writer.mp hrow
    rw [close_phase_ne hji, close_slot, Slot.release_committed]
    exact h.holding j row hrow
  firm j hj := by
    by_cases hji : j = i
    · subst hji
      rw [close_phase_self] at hj
      simp [RequestPhase.grip, Grip.firm] at hj
    · rw [close_phase_ne hji] at hj
      obtain ⟨row, hrow⟩ := h.firm j hj
      exact ⟨row, Slot.release_writer.mpr ⟨hrow, hji⟩⟩
  hashed row hrow := by
    rw [close_slot, Slot.release_committed] at hrow
    exact h.hashed row hrow
  since := h.since

/-- A COMMIT makes the writer's version the row. -/
theorem Locked.commit (h : Locked R s) {row : KeyRow ι} {p : RequestPhase ι}
    (writer : s.slot.writer = some (i, some row)) (idle : p.grip = .idle)
    (hashed : row.record.requestHash = R.hash row.owner) {log : List (Placement ι)}
    (since : ∀ k (p : Placement ι), log[k]? = some p → p.since = k) :
    Locked R { s.move i p with slot := s.slot.commit i, log := log } where
  holding j version hversion := by
    rw [Slot.commit_of_writer writer] at hversion
    simp at hversion
  firm j hj := by
    by_cases hji : j = i
    · rw [hji, commit_phase_self, idle] at hj
      simp [Grip.firm] at hj
    · rw [commit_phase_ne hji, h.alone writer hji] at hj
      simp at hj
  hashed version hversion := by
    rw [Slot.commit_of_writer writer, Option.some.injEq] at hversion
    rw [← hversion]
    exact hashed
  since := since

/-- What a request commits with `create_order`: its own row. -/
theorem Locked.placed (h : Locked R s) {since : Nat} {new : Addition} {row : KeyRow ι}
    (phase : s.phase i = .placed since new) (row_eq : s.slot.version i = some row) :
    s.slot.writer = some (i, some row) ∧ since = s.log.length ∧ row.owner = i
      ∧ ∃ expiresAt createdAt updatedAt,
          row.record = newIdempotencyKey R.key (R.hash i) expiresAt createdAt updatedAt := by
  obtain ⟨hsince, expiresAt, createdAt, updatedAt, hwriter⟩ :=
    h.writer_of_inserted (show (s.phase i).grip = .inserted since by rw [phase]; rfl)
  rw [Slot.version_of_writer hwriter, Option.some.injEq] at row_eq
  rw [← row_eq]
  exact ⟨hwriter, hsince, rfl, expiresAt, createdAt, updatedAt, rfl⟩

/-- **Every move keeps the locks**, one case per kind of move. -/
theorem Locked.keep (h : Locked R s) (m : Move R a s s') : Locked R s' := by
  cases m with
  | wait microseconds => exact ⟨h.holding, h.firm, h.hashed, h.since⟩
  | turn turn => exact h.turn turn
  | deleted _ _ free _ => exact h.write free .vacated
  | inserted _ _ free _ => exact h.write free (.inserted _ _ _)
  | updated _ _ free row_eq => exact h.write free (.kept row_eq)
  | @committed i since new row phase row_eq =>
      obtain ⟨hwriter, hsince, howner, expiresAt, createdAt, updatedAt, hrecord⟩ :=
        h.placed phase row_eq
      refine h.commit hwriter rfl (by rw [hrecord, howner]; rfl) fun k p hp => ?_
      rcases Nat.lt_or_ge k s.log.length with hk | hk
      · rw [List.getElem?_append_left hk] at hp
        exact h.since k p hp
      · rw [List.getElem?_append_right hk] at hp
        obtain ⟨hlt, hp⟩ := List.getElem?_eq_some_iff.mp hp
        rw [List.length_singleton] at hlt
        simp only [List.getElem_singleton] at hp
        rw [← hp]
        show since = k
        omega
  | finished phase =>
      obtain ⟨row, updatedAt, hrow, hwriter⟩ := h.writer_of_kept (by rw [phase]; rfl)
      exact h.commit hwriter rfl (h.hashed row hrow) h.since
  | ended _ => exact h.close _

omit [DecidableEq ι] in
theorem locked_start (clock : DateTime) : Locked R (KeyState.start clock : KeyState ι) where
  holding i row h := by simp [KeyState.start] at h
  firm i h := by simp [KeyState.start, RequestPhase.grip, Grip.firm] at h
  hashed row h := by simp [KeyState.start] at h
  since k p h := by simp [KeyState.start] at h

end EventCart
