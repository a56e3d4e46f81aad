/-
  EventCart.Lib.Session
  ─────────────────────
  **DATABASE SESSIONS WITH CRASHES AND FAILING STATEMENTS.**

  A unit-of-work session over an arbitrary store type `DB`: the objects a
  program works on (`working`), what other transactions see (`committed`),
  and whether a failed flush has left the session waiting for a rollback
  (`active`).  The environment (`World`) answers every request for a fresh
  id or for the time, and decides for every statement sent to the database
  whether it goes through, is rejected, or never returns because the process
  dies.  A run over an arbitrary `World` is therefore a run with a crash or a
  database error at any statement whatsoever.

  Exceptions do not undo object changes: `Tx` is `EStateM`, whose `throw`
  keeps the state, as a Python exception does.

    §1  worlds, sessions, the monad;
    §2  the primitive operations;
    §3  what an operation does when it returns;
    §4  disciplines closed under sequencing (`Obeys` for any frame, `Quiet`,
        `KeepsWorld`, `Tidy`, `Forward`, `NoRaise`, `ReadOnly`);
    §5  sessions between two transactions, and loops of transactions;
    §6  databases that reject statements for the rows they carry only.
-/
import EventCart.Lib.Runs
import Mathlib.Tactic.Common

namespace EventCart.Lib

/-! ## §1. Worlds, sessions, programs. -/

/-- What happens to a statement on its way through the database. -/
inductive Fault where
  /-- The statement is executed. -/
  | none
  /-- The process dies before the statement returns. -/
  | crash
  /-- The database rejects the statement (a constraint, a column range, a
  lost connection). -/
  | reject (message : String)
  deriving DecidableEq, Repr

/-- The outside of a program, indexed by the number of requests made so far. -/
structure World (DB : Type) where
  /-- Freshly generated identifiers. -/
  uuid4 : Nat → String
  uuid4_ne : ∀ n, uuid4 n ≠ ""
  /-- The clock. -/
  now : Nat → Int
  /-- The fate of a statement, given the rows the session holds. -/
  fault : Nat → DB → Fault
  /-- The name of the database dialect behind the session. -/
  dialect : String

/-- A world that numbers its identifiers and in which no statement fails. -/
def World.calm {DB : Type} : World DB where
  uuid4 n := "id-" ++ toString n
  uuid4_ne n h := by
    have hlength := congrArg String.length h
    simp [String.length_append] at hlength
  now n := n
  fault _ _ := .none
  dialect := "postgresql"

/-- The clock does not go back. -/
def World.Ordered {DB : Type} (world : World DB) : Prop :=
  ∀ m n, m ≤ n → world.now m ≤ world.now n

/-- A session with one open transaction. -/
structure Session (DB : Type) where
  world : World DB
  tick : Nat
  committed : DB
  working : DB
  /-- False once a statement failed: every further statement raises until a
  rollback. -/
  active : Bool

/-- Why a program stopped early. -/
inductive Failure (ε : Type) where
  /-- An exception of the program's own. -/
  | raised (error : ε)
  /-- The database rejected a statement. -/
  | database (message : String)
  /-- A statement on a session that waits for a rollback. -/
  | pendingRollback
  /-- The process died. -/
  | crash
  deriving DecidableEq, Repr

/-- The declared keys of a store, checked when rows are flushed. -/
class Schema (DB : Type) where
  admits : DB → Bool

/-- Programs over a session. -/
abbrev Tx (DB ε α : Type) := EStateM (Failure ε) (Session DB) α

variable {DB ε α β : Type}

/-- A fresh session on a committed store. -/
def Session.begin (world : World DB) (tick : Nat) (db : DB) : Session DB :=
  ⟨world, tick, db, db, true⟩

/-- The session a program leaves behind, however it ends. -/
def after : EStateM.Result (Failure ε) (Session DB) α → Session DB
  | .ok _ t => t
  | .error _ t => t

@[simp] theorem after_ok (a : α) (t : Session DB) :
    after (.ok a t : EStateM.Result (Failure ε) _ α) = t := rfl

@[simp] theorem after_error (e : Failure ε) (t : Session DB) :
    after (.error e t : EStateM.Result (Failure ε) _ α) = t := rfl

/-- The program returned. -/
def returned : EStateM.Result (Failure ε) (Session DB) α → Bool
  | .ok _ _ => true
  | .error _ _ => false

/-- What the program returned, if it did. -/
def value? : EStateM.Result (Failure ε) (Session DB) α → Option α
  | .ok a _ => some a
  | .error _ _ => none

@[simp] theorem value?_ok (a : α) (t : Session DB) :
    value? (.ok a t : EStateM.Result (Failure ε) _ α) = some a := rfl

@[simp] theorem value?_error (e : Failure ε) (t : Session DB) :
    value? (.error e t : EStateM.Result (Failure ε) _ α) = none := rfl

/-- The session with other objects, at a later tick. -/
def Session.goto (s : Session DB) (db : DB) (n : Nat) : Session DB :=
  { s with working := db, tick := n }

section goto
variable (s : Session DB) (db db' : DB) (n n' : Nat)

@[simp] theorem goto_working : (s.goto db n).working = db := rfl
@[simp] theorem goto_committed : (s.goto db n).committed = s.committed := rfl
@[simp] theorem goto_active : (s.goto db n).active = s.active := rfl
@[simp] theorem goto_world : (s.goto db n).world = s.world := rfl
@[simp] theorem goto_tick : (s.goto db n).tick = n := rfl
@[simp] theorem goto_goto : (s.goto db n).goto db' n' = s.goto db' n' := rfl
@[simp] theorem goto_self : s.goto s.working s.tick = s := rfl

end goto

/-- A permitted change, of a store or of a session. -/
structure Frame (R : DB → DB → Prop) : Prop where
  refl : ∀ db, R db db
  trans : ∀ {db₁ db₂ db₃}, R db₁ db₂ → R db₂ db₃ → R db₁ db₃

/-! ## §2. The operations. -/

namespace Tx

/-- One statement on its way to the database. -/
def statement : Tx DB ε Unit := fun s =>
  if s.active then
    match s.world.fault s.tick s.working with
    | .none => .ok () { s with tick := s.tick + 1 }
    | .crash => .error .crash { s with tick := s.tick + 1 }
    | .reject message =>
        .error (.database message) { s with tick := s.tick + 1, active := false }
  else .error .pendingRollback s

/-- Read the objects the session holds, without a statement. -/
def peek (q : DB → α) : Tx DB ε α := fun s => .ok (q s.working) s

/-- A SELECT. -/
def query (q : DB → α) : Tx DB ε α := do
  statement
  peek q

/-- Change objects of the session (`add`, attribute assignment). -/
def write (f : DB → DB) : Tx DB ε Unit := fun s =>
  .ok () { s with working := f s.working }

/-- The key check a flush runs into. -/
def checkKeys [Schema DB] : Tx DB ε Unit := fun s =>
  if Schema.admits s.working then .ok () s
  else .error (.database "IntegrityError") { s with active := false }

/-- Send the pending changes to the database. -/
def flush [Schema DB] : Tx DB ε Unit := do
  statement
  checkKeys

/-- Make the working objects what everybody sees. -/
def publish : Tx DB ε Unit := fun s => .ok () { s with committed := s.working }

/-- Flush, then COMMIT. -/
def commit [Schema DB] : Tx DB ε Unit := do
  flush
  statement
  publish

def uuid4 : Tx DB ε String := fun s =>
  .ok (s.world.uuid4 s.tick) { s with tick := s.tick + 1 }

def now : Tx DB ε Int := fun s =>
  .ok (s.world.now s.tick) { s with tick := s.tick + 1 }

def dialect : Tx DB ε String := fun s => .ok s.world.dialect s

/-- Raise an exception of the program's own. -/
def raise (error : ε) : Tx DB ε α := fun s => .error (.raised error) s

/-- Run a pure computation that may raise. -/
def ofExcept : Except ε α → Tx DB ε α
  | .ok a => pure a
  | .error error => raise error

/-- `try … except Exception as error`: everything but the death of the
process is caught, and object changes made before the exception stay. -/
def tryExcept (body : Tx DB ε α) (handler : Failure ε → Tx DB ε α) : Tx DB ε α :=
  fun s =>
    match body s with
    | .error .crash t => .error .crash t
    | .error e t => handler e t
    | .ok a t => .ok a t

/-- `try … except E as error` for one exception class, given by what it
reads off the exception. -/
def attempt (caught : ε → Option β) (body : Tx DB ε α) : Tx DB ε (β ⊕ α) :=
  fun s =>
    match body s with
    | .ok a t => .ok (.inr a) t
    | .error (.raised error) t =>
        match caught error with
        | some b => .ok (.inl b) t
        | none => .error (.raised error) t
    | .error e t => .error e t

/-! ## §3. What a returned operation did. -/

theorem bind_eq_ok {x : Tx DB ε α} {f : α → Tx DB ε β} {s t : Session DB} {b : β} :
    (x >>= f) s = .ok b t ↔ ∃ a u, x s = .ok a u ∧ f a u = .ok b t := by
  show EStateM.bind x f s = _ ↔ _
  unfold EStateM.bind
  cases x s <;> simp

theorem bind_eq_error {x : Tx DB ε α} {f : α → Tx DB ε β} {s t : Session DB}
    {e : Failure ε} :
    (x >>= f) s = .error e t
      ↔ x s = .error e t ∨ ∃ a u, x s = .ok a u ∧ f a u = .error e t := by
  show EStateM.bind x f s = _ ↔ _
  unfold EStateM.bind
  cases x s <;> simp

theorem bind_of_ok {x : Tx DB ε α} {f : α → Tx DB ε β} {s u : Session DB} {a : α}
    (h : x s = .ok a u) : (x >>= f) s = f a u := by
  show EStateM.bind x f s = _
  unfold EStateM.bind
  rw [h]

theorem bind_of_error {x : Tx DB ε α} {f : α → Tx DB ε β} {s u : Session DB}
    {e : Failure ε} (h : x s = .error e u) : (x >>= f) s = .error e u := by
  show EStateM.bind x f s = _
  unfold EStateM.bind
  rw [h]

/-- What a program returns changes no state. -/
theorem after_bind_pure (m : Tx DB ε α) (f : α → β) (s : Session DB) :
    after ((m >>= fun a => (pure (f a) : Tx DB ε β)) s) = after (m s) := by
  cases h : m s with
  | ok a t => rw [bind_of_ok h]; rfl
  | error e t => rw [bind_of_error h]; rfl

/-- A `try` block that returned. -/
theorem tryExcept_of_ok {body : Tx DB ε α} {handler : Failure ε → Tx DB ε α} {s t : Session DB}
    {a : α} (h : body s = .ok a t) : tryExcept body handler s = .ok a t := by
  unfold tryExcept
  rw [h]

/-- Nobody catches the death of the process. -/
theorem tryExcept_of_crash {body : Tx DB ε α} {handler : Failure ε → Tx DB ε α}
    {s t : Session DB} (h : body s = .error .crash t) :
    tryExcept body handler s = .error .crash t := by
  unfold tryExcept
  rw [h]

/-- Anything else is caught. -/
theorem tryExcept_of_error {body : Tx DB ε α} {handler : Failure ε → Tx DB ε α}
    {s t : Session DB} {e : Failure ε} (alive : e ≠ .crash) (h : body s = .error e t) :
    tryExcept body handler s = handler e t := by
  unfold tryExcept
  rw [h]
  cases e with
  | crash => exact absurd rfl alive
  | raised => rfl
  | database => rfl
  | pendingRollback => rfl

@[simp] theorem pure_apply (a : α) (s : Session DB) :
    (pure a : Tx DB ε α) s = .ok a s := rfl

@[simp] theorem peek_apply (q : DB → α) (s : Session DB) :
    (peek q : Tx DB ε α) s = .ok (q s.working) s := rfl

@[simp] theorem write_apply (f : DB → DB) (s : Session DB) :
    (write f : Tx DB ε Unit) s = .ok () (s.goto (f s.working) s.tick) := rfl

@[simp] theorem raise_apply (error : ε) (s : Session DB) :
    (raise error : Tx DB ε α) s = .error (.raised error) s := rfl

theorem ofExcept_bind_ok {x : Except ε α} {a : α} (h : x = .ok a) (f : α → Tx DB ε β) :
    (ofExcept x >>= f : Tx DB ε β) = f a := by
  subst h
  rfl

theorem ofExcept_bind_error {x : Except ε α} {error : ε} (h : x = .error error)
    (f : α → Tx DB ε β) : (ofExcept x >>= f : Tx DB ε β) = raise error := by
  subst h
  rfl

/-- A returned pure computation had a value. -/
theorem ofExcept_bind_eq_ok {x : Except ε α} {f : α → Tx DB ε β} {s t : Session DB} {b : β} :
    (ofExcept x >>= f : Tx DB ε β) s = .ok b t ↔ ∃ a, x = .ok a ∧ f a s = .ok b t := by
  cases x with
  | ok a => rw [ofExcept_bind_ok rfl]; simp
  | error e => rw [ofExcept_bind_error rfl]; simp

theorem ofExcept_bind_eq_raised {x : Except ε α} {f : α → Tx DB ε β} {s t : Session DB}
    {error : ε} :
    (ofExcept x >>= f : Tx DB ε β) s = .error (.raised error) t
      ↔ (x = .error error ∧ t = s) ∨ ∃ a, x = .ok a ∧ f a s = .error (.raised error) t := by
  cases x with
  | ok a => rw [ofExcept_bind_ok rfl]; simp
  | error e => rw [ofExcept_bind_error rfl]; simp [eq_comm]

@[simp] theorem uuid4_apply (s : Session DB) :
    (uuid4 : Tx DB ε String) s
      = .ok (s.world.uuid4 s.tick) (s.goto s.working (s.tick + 1)) := rfl

@[simp] theorem now_apply (s : Session DB) :
    (now : Tx DB ε Int) s
      = .ok (s.world.now s.tick) (s.goto s.working (s.tick + 1)) := rfl

@[simp] theorem dialect_apply (s : Session DB) :
    (dialect : Tx DB ε String) s = .ok s.world.dialect s := rfl

theorem statement_ok {s t : Session DB} {u : Unit}
    (h : (statement : Tx DB ε Unit) s = .ok u t) :
    s.active = true ∧ t = s.goto s.working (s.tick + 1) := by
  unfold statement at h
  split at h
  next ha =>
    split at h <;> simp at h
    exact ⟨ha, h.symm⟩
  next => simp at h

/-- A statement that goes through. -/
theorem statement_of_none {s : Session DB} (ha : s.active = true)
    (hf : s.world.fault s.tick s.working = .none) :
    (statement : Tx DB ε Unit) s = .ok () (s.goto s.working (s.tick + 1)) := by
  unfold statement
  rw [if_pos ha, hf]
  rfl

/-- On a session that waits for a rollback every statement raises. -/
theorem statement_of_inactive {s : Session DB} (h : s.active = false) :
    (statement : Tx DB ε Unit) s = .error .pendingRollback s := by
  unfold statement
  simp [h]

/-- A statement fails without an exception of the program's own. -/
theorem statement_error {s t : Session DB} {e : Failure ε}
    (h : (statement : Tx DB ε Unit) s = .error e t) (error : ε) : e ≠ .raised error := by
  unfold statement at h
  split at h
  · split at h <;> simp at h
    · rw [← h.1]; simp
    · rw [← h.1]; simp
  · simp only [EStateM.Result.error.injEq] at h
    rw [← h.1]
    simp

theorem query_of_statement {q : DB → α} {s t : Session DB}
    (h : (statement : Tx DB ε Unit) s = .ok () t) :
    (query q : Tx DB ε α) s = .ok (q s.working) t := by
  unfold query
  obtain ⟨-, rfl⟩ := statement_ok h
  rw [bind_of_ok h, peek_apply, goto_working]

theorem attempt_of_ok {caught : ε → Option β} {body : Tx DB ε α} {s t : Session DB} {a : α}
    (h : body s = .ok a t) : attempt caught body s = .ok (.inr a) t := by
  unfold attempt
  rw [h]

theorem attempt_of_caught {caught : ε → Option β} {body : Tx DB ε α} {s t : Session DB}
    {error : ε} {b : β} (h : body s = .error (.raised error) t) (hb : caught error = some b) :
    attempt caught body s = .ok (.inl b) t := by
  unfold attempt
  rw [h]
  simp only [hb]

theorem attempt_of_uncaught {caught : ε → Option β} {body : Tx DB ε α} {s t : Session DB}
    {e : Failure ε} (h : body s = .error e t)
    (hn : ∀ error, e = .raised error → caught error = none) :
    attempt caught body s = .error e t := by
  unfold attempt
  rw [h]
  cases e with
  | raised error => simp only [hn error rfl]
  | database message => rfl
  | pendingRollback => rfl
  | crash => rfl

/-- A caught exception, a returned value: the two ways an `attempt` returns. -/
theorem attempt_ok {caught : ε → Option β} {body : Tx DB ε α} {s t : Session DB} {r : β ⊕ α}
    (h : attempt caught body s = .ok r t) :
    (∃ a, r = .inr a ∧ body s = .ok a t)
      ∨ ∃ error b, r = .inl b ∧ body s = .error (.raised error) t ∧ caught error = some b := by
  unfold attempt at h
  cases hbody : body s with
  | ok a u =>
      rw [hbody] at h
      simp only [EStateM.Result.ok.injEq] at h
      obtain ⟨rfl, rfl⟩ := h
      exact .inl ⟨a, rfl, rfl⟩
  | error e u =>
      rw [hbody] at h
      cases e with
      | raised error =>
          cases hc : caught error with
          | none => simp [hc] at h
          | some b =>
              simp only [hc, EStateM.Result.ok.injEq] at h
              obtain ⟨rfl, rfl⟩ := h
              exact .inr ⟨error, b, rfl, rfl, hc⟩
      | database message => simp at h
      | pendingRollback => simp at h
      | crash => simp at h

/-- An error gets past an `attempt` as it is. -/
theorem attempt_error {caught : ε → Option β} {body : Tx DB ε α} {s t : Session DB}
    {e : Failure ε} (h : attempt caught body s = .error e t) : body s = .error e t := by
  unfold attempt at h
  cases hbody : body s with
  | ok a u => simp [hbody] at h
  | error e' u =>
      rw [hbody] at h
      cases e' with
      | raised error =>
          cases hc : caught error with
          | none => simpa [hc] using h
          | some b => simp [hc] at h
      | database message => simpa using h
      | pendingRollback => simpa using h
      | crash => simpa using h

/-- A query is one statement. -/
theorem query_tick {q : DB → α} {s t : Session DB} {a : α}
    (h : (query q : Tx DB ε α) s = .ok a t) :
    a = q s.working ∧ t = s.goto s.working (s.tick + 1) := by
  obtain ⟨_, u, hu, hq⟩ := bind_eq_ok.mp h
  obtain ⟨_, rfl⟩ := statement_ok hu
  simp only [peek_apply, goto_working, EStateM.Result.ok.injEq] at hq
  exact ⟨hq.1.symm, hq.2.symm⟩

theorem query_ok {q : DB → α} {s t : Session DB} {a : α}
    (h : (query q : Tx DB ε α) s = .ok a t) :
    a = q s.working ∧ ∃ n, t = s.goto s.working n := by
  obtain ⟨hvalue, hsession⟩ := query_tick h
  exact ⟨hvalue, _, hsession⟩

theorem flush_ok [Schema DB] {s t : Session DB} {u : Unit}
    (h : (flush : Tx DB ε Unit) s = .ok u t) :
    Schema.admits s.working = true ∧ ∃ n, t = s.goto s.working n := by
  obtain ⟨_, v, hv, hq⟩ := bind_eq_ok.mp h
  obtain ⟨_, rfl⟩ := statement_ok hv
  unfold checkKeys at hq
  split at hq
  next hk => exact ⟨hk, _, by simpa using hq.symm⟩
  next => simp at hq

theorem commit_ok [Schema DB] {s t : Session DB} {u : Unit}
    (h : (commit : Tx DB ε Unit) s = .ok u t) :
    s.active = true ∧ Schema.admits s.working = true
      ∧ ∃ n, t = { s.goto s.working n with committed := s.working } := by
  obtain ⟨_, v, hv, h⟩ := bind_eq_ok.mp h
  obtain ⟨hk, n, rfl⟩ := flush_ok hv
  obtain ⟨_, w, hw, h⟩ := bind_eq_ok.mp h
  obtain ⟨ha, rfl⟩ := statement_ok hw
  refine ⟨ha, hk, n + 1, ?_⟩
  have := congrArg after h
  exact this.symm

/-! ## §4. Disciplines closed under sequencing.

A program obeys a discipline when its primitive operations do and the rules
below combine them; the proofs about whole handlers use only these rules. -/

/-- However it ends, the program takes every session to a related one. -/
def Obeys (R : Session DB → Session DB → Prop) (m : Tx DB ε α) : Prop := ∀ s, R s (after (m s))

section obeys
variable {R : Session DB → Session DB → Prop}

theorem Obeys.bind (F : Frame R) {x : Tx DB ε α} {f : α → Tx DB ε β} (hx : Obeys R x)
    (hf : ∀ a, Obeys R (f a)) : Obeys R (x >>= f) := by
  intro s
  have hxs := hx s
  cases h : x s with
  | ok a u =>
      rw [bind_of_ok h]
      rw [h] at hxs
      exact F.trans hxs (hf a u)
  | error e u =>
      rw [bind_of_error h]
      rw [h] at hxs
      exact hxs

/-- Catching an exception changes the result and not the session. -/
theorem Obeys.attempt {caught : ε → Option β} {m : Tx DB ε α} (h : Obeys R m) :
    Obeys R (Tx.attempt caught m) := by
  intro s
  have hs := h s
  unfold Tx.attempt
  cases hm : m s with
  | ok a t => rw [hm] at hs; exact hs
  | error e t =>
      rw [hm] at hs
      cases e with
      | raised error => cases hc : caught error <;> simpa [hc] using hs
      | database => exact hs
      | pendingRollback => exact hs
      | crash => exact hs

theorem Obeys.tryExcept (F : Frame R) {body : Tx DB ε α} {handler : Failure ε → Tx DB ε α}
    (hb : Obeys R body) (hh : ∀ e, Obeys R (handler e)) : Obeys R (Tx.tryExcept body handler) := by
  intro s
  have hs := hb s
  cases h : body s with
  | ok a t =>
      rw [h] at hs
      rw [tryExcept_of_ok h]
      exact hs
  | error e t =>
      rw [h] at hs
      by_cases hcrash : e = .crash
      · rw [tryExcept_of_crash (hcrash ▸ h)]
        exact hs
      · rw [tryExcept_of_error hcrash h]
        exact F.trans hs (hh e t)

end obeys

/-- The program commits nothing and keeps its environment. -/
def Quiet (m : Tx DB ε α) : Prop :=
  ∀ s, (after (m s)).committed = s.committed ∧ (after (m s)).world = s.world

/-- The program keeps its environment. -/
def KeepsWorld (m : Tx DB ε α) : Prop := ∀ s, (after (m s)).world = s.world

/-- A live session stays live, unless the program dies or a statement fails;
after a failed statement the session is left waiting for a rollback. -/
def Tidy (m : Tx DB ε α) : Prop :=
  ∀ s, s.active = true →
    match m s with
    | .ok _ t => t.active = true
    | .error (.raised _) t => t.active = true
    | .error .crash _ => True
    | .error _ t => t.active = false

/-- The clock never goes back. -/
def Forward (m : Tx DB ε α) : Prop := ∀ s, s.tick ≤ (after (m s)).tick

/-- The program raises no exception of its own. -/
def NoRaise (m : Tx DB ε α) : Prop :=
  ∀ s error t, m s ≠ .error (.raised error) t

/-- A returned run changed no object. -/
def ReadOnly (m : Tx DB ε α) : Prop :=
  ∀ s a t, m s = .ok a t → t.working = s.working

section quiet

theorem quiet_frame :
    Frame fun s t : Session DB => t.committed = s.committed ∧ t.world = s.world where
  refl _ := ⟨rfl, rfl⟩
  trans h₁ h₂ := ⟨h₂.1.trans h₁.1, h₂.2.trans h₁.2⟩

theorem Quiet.bind {x : Tx DB ε α} {f : α → Tx DB ε β} (hx : Quiet x)
    (hf : ∀ a, Quiet (f a)) : Quiet (x >>= f) := Obeys.bind quiet_frame hx hf

theorem quiet_pure (a : α) : Quiet (pure a : Tx DB ε α) := fun _ => ⟨rfl, rfl⟩
theorem quiet_peek (q : DB → α) : Quiet (peek q : Tx DB ε α) := fun _ => ⟨rfl, rfl⟩
theorem quiet_write (f : DB → DB) : Quiet (write f : Tx DB ε Unit) :=
  fun _ => ⟨rfl, rfl⟩
theorem quiet_uuid4 : Quiet (uuid4 : Tx DB ε String) := fun _ => ⟨rfl, rfl⟩
theorem quiet_now : Quiet (now : Tx DB ε Int) := fun _ => ⟨rfl, rfl⟩
theorem quiet_dialect : Quiet (dialect : Tx DB ε String) := fun _ => ⟨rfl, rfl⟩
theorem quiet_raise (error : ε) : Quiet (raise error : Tx DB ε α) :=
  fun _ => ⟨rfl, rfl⟩

theorem quiet_ofExcept : ∀ x : Except ε α, Quiet (ofExcept x : Tx DB ε α)
  | .ok a => quiet_pure a
  | .error error => quiet_raise error

theorem quiet_statement : Quiet (statement : Tx DB ε Unit) := by
  intro s
  unfold statement
  split
  · split <;> exact ⟨rfl, rfl⟩
  · exact ⟨rfl, rfl⟩

theorem quiet_query (q : DB → α) : Quiet (query q : Tx DB ε α) :=
  quiet_statement.bind fun _ => quiet_peek q

theorem quiet_flush [Schema DB] : Quiet (flush : Tx DB ε Unit) := by
  refine quiet_statement.bind fun _ => ?_
  intro s
  unfold checkKeys
  split <;> exact ⟨rfl, rfl⟩

theorem Quiet.attempt {caught : ε → Option β} {m : Tx DB ε α} (h : Quiet m) :
    Quiet (attempt caught m) :=
  Obeys.attempt (R := fun s t => t.committed = s.committed ∧ t.world = s.world) h

theorem Quiet.tryExcept {body : Tx DB ε α} {handler : Failure ε → Tx DB ε α}
    (hb : Quiet body) (hh : ∀ e, Quiet (handler e)) : Quiet (tryExcept body handler) :=
  Obeys.tryExcept quiet_frame hb hh

theorem quiet_forM {γ : Type} {f : γ → Tx DB ε PUnit} (h : ∀ c, Quiet (f c)) :
    ∀ l : List γ, Quiet (l.forM f)
  | [] => quiet_pure _
  | c :: l => (h c).bind fun _ => quiet_forM h l

theorem quiet_ite {c : Prop} [Decidable c] {x y : Tx DB ε α} (hx : Quiet x) (hy : Quiet y) :
    Quiet (if c then x else y) := by
  split
  · exact hx
  · exact hy

/-- What a sequence commits, after a first part that commits nothing. -/
theorem Quiet.committed_bind {x : Tx DB ε α} {f : α → Tx DB ε β} (hx : Quiet x)
    (s : Session DB) :
    (after ((x >>= f) s)).committed = s.committed
      ∨ ∃ a u, x s = .ok a u ∧ u.committed = s.committed
          ∧ (after ((x >>= f) s)).committed = (after (f a u)).committed := by
  have hxs := hx s
  cases h : x s with
  | ok a u =>
      rw [h] at hxs
      exact .inr ⟨a, u, rfl, hxs.1, by rw [bind_of_ok h]⟩
  | error e u =>
      rw [h] at hxs
      exact .inl (by rw [bind_of_error h]; exact hxs.1)

/-- A COMMIT that raises has committed nothing. -/
theorem commit_error [Schema DB] {s t : Session DB} {e : Failure ε}
    (h : (commit : Tx DB ε Unit) s = .error e t) :
    t.committed = s.committed ∧ t.world = s.world := by
  rcases bind_eq_error.mp h with h | ⟨_, u, hu, h⟩
  · have : Quiet (flush : Tx DB ε Unit) := quiet_flush
    have := this s
    rw [h] at this
    exact this
  · obtain ⟨-, n, rfl⟩ := flush_ok hu
    rcases bind_eq_error.mp h with h | ⟨_, v, hv, h⟩
    · have : Quiet (statement : Tx DB ε Unit) := quiet_statement
      have := this (s.goto s.working n)
      rw [h] at this
      exact this
    · exact nomatch h

/-- **One transaction**: a program that commits once, between two parts that
commit nothing, commits nothing or exactly what its first part left. -/
theorem Quiet.commits_once [Schema DB] {x : Tx DB ε α} {f : α → Tx DB ε β} (hx : Quiet x)
    (hf : ∀ a, Quiet (f a)) (s : Session DB) :
    (after ((x >>= fun a => commit >>= fun _ => f a) s)).committed = s.committed
      ∨ ∃ a u, x s = .ok a u ∧ Schema.admits u.working = true
          ∧ (after ((x >>= fun a => commit >>= fun _ => f a) s)).committed = u.working := by
  rcases hx.committed_bind (f := fun a => commit >>= fun _ => f a) s with h | ⟨a, u, hu, hc, h⟩
  · exact .inl h
  · cases hcom : (commit : Tx DB ε Unit) u with
    | ok b t =>
        obtain ⟨-, hk, n, rfl⟩ := commit_ok hcom
        rw [bind_of_ok hcom, (hf a _).1] at h
        exact .inr ⟨a, u, hu, hk, h⟩
    | error e t =>
        rw [bind_of_error hcom] at h
        exact .inl (h.trans ((commit_error hcom).1.trans hc))

end quiet

section keepsWorld

theorem Quiet.keepsWorld {m : Tx DB ε α} (h : Quiet m) : KeepsWorld m := fun s => (h s).2

theorem keepsWorld_frame : Frame fun s t : Session DB => t.world = s.world where
  refl _ := rfl
  trans h₁ h₂ := h₂.trans h₁

theorem KeepsWorld.bind {x : Tx DB ε α} {f : α → Tx DB ε β} (hx : KeepsWorld x)
    (hf : ∀ a, KeepsWorld (f a)) : KeepsWorld (x >>= f) := Obeys.bind keepsWorld_frame hx hf

theorem keepsWorld_commit [Schema DB] : KeepsWorld (commit : Tx DB ε Unit) :=
  quiet_flush.keepsWorld.bind fun _ => quiet_statement.keepsWorld.bind fun _ => fun _ => rfl

theorem keepsWorld_ite {c : Prop} [Decidable c] {x y : Tx DB ε α} (hx : KeepsWorld x)
    (hy : KeepsWorld y) : KeepsWorld (if c then x else y) := by
  split
  · exact hx
  · exact hy

theorem KeepsWorld.tryExcept {body : Tx DB ε α} {handler : Failure ε → Tx DB ε α}
    (hb : KeepsWorld body) (hh : ∀ e, KeepsWorld (handler e)) :
    KeepsWorld (tryExcept body handler) := Obeys.tryExcept keepsWorld_frame hb hh

end keepsWorld

section tidy

theorem Tidy.bind {x : Tx DB ε α} {f : α → Tx DB ε β} (hx : Tidy x)
    (hf : ∀ a, Tidy (f a)) : Tidy (x >>= f) := by
  intro s hs
  have hxs := hx s hs
  cases h : x s with
  | ok a u =>
      rw [bind_of_ok h]
      rw [h] at hxs
      exact hf a u hxs
  | error e u =>
      rw [bind_of_error h]
      rw [h] at hxs
      cases e <;> exact hxs

theorem tidy_pure (a : α) : Tidy (pure a : Tx DB ε α) := fun _ hs => hs
theorem tidy_peek (q : DB → α) : Tidy (peek q : Tx DB ε α) := fun _ hs => hs
theorem tidy_write (f : DB → DB) : Tidy (write f : Tx DB ε Unit) := fun _ hs => hs
theorem tidy_uuid4 : Tidy (uuid4 : Tx DB ε String) := fun _ hs => hs
theorem tidy_now : Tidy (now : Tx DB ε Int) := fun _ hs => hs
theorem tidy_dialect : Tidy (dialect : Tx DB ε String) := fun _ hs => hs
theorem tidy_publish : Tidy (publish : Tx DB ε Unit) := fun _ hs => hs
theorem tidy_raise (error : ε) : Tidy (raise error : Tx DB ε α) := fun _ hs => hs

theorem tidy_ofExcept : ∀ x : Except ε α, Tidy (ofExcept x : Tx DB ε α)
  | .ok a => tidy_pure a
  | .error error => tidy_raise error

theorem tidy_statement : Tidy (statement : Tx DB ε Unit) := by
  intro s hs
  unfold statement
  rw [if_pos hs]
  cases s.world.fault s.tick s.working with
  | none => exact hs
  | crash => exact trivial
  | reject => rfl

theorem tidy_query (q : DB → α) : Tidy (query q : Tx DB ε α) :=
  tidy_statement.bind fun _ => tidy_peek q

theorem tidy_flush [Schema DB] : Tidy (flush : Tx DB ε Unit) := by
  refine tidy_statement.bind fun _ => ?_
  intro s hs
  unfold checkKeys
  by_cases h : Schema.admits s.working = true
  · rw [if_pos h]; exact hs
  · rw [if_neg h]

theorem tidy_commit [Schema DB] : Tidy (commit : Tx DB ε Unit) :=
  tidy_flush.bind fun _ => tidy_statement.bind fun _ => tidy_publish

theorem Tidy.attempt {caught : ε → Option β} {m : Tx DB ε α} (h : Tidy m) :
    Tidy (attempt caught m) := by
  intro s hs
  have hm := h s hs
  unfold Tx.attempt
  cases hr : m s with
  | ok a t => rw [hr] at hm; exact hm
  | error e t =>
      rw [hr] at hm
      cases e with
      | raised error => cases hc : caught error <;> simpa [hc] using hm
      | database => exact hm
      | pendingRollback => exact hm
      | crash => exact trivial

theorem tidy_ite {c : Prop} [Decidable c] {x y : Tx DB ε α} (hx : Tidy x) (hy : Tidy y) :
    Tidy (if c then x else y) := by
  split
  · exact hx
  · exact hy

theorem tidy_forM {γ : Type} {f : γ → Tx DB ε PUnit} (h : ∀ c, Tidy (f c)) :
    ∀ l : List γ, Tidy (l.forM f)
  | [] => tidy_pure _
  | c :: l => (h c).bind fun _ => tidy_forM h l

end tidy

section forward

theorem forward_frame : Frame fun s t : Session DB => s.tick ≤ t.tick where
  refl _ := Nat.le_refl _
  trans := Nat.le_trans

theorem Forward.bind {x : Tx DB ε α} {f : α → Tx DB ε β} (hx : Forward x)
    (hf : ∀ a, Forward (f a)) : Forward (x >>= f) := Obeys.bind forward_frame hx hf

/-- A program that returned did not set the tick back. -/
theorem Forward.tick_le {m : Tx DB ε α} (h : Forward m) {s t : Session DB} {a : α}
    (run : m s = .ok a t) : s.tick ≤ t.tick := by
  have hm := h s
  rw [run] at hm
  exact hm

theorem forward_pure (a : α) : Forward (pure a : Tx DB ε α) := fun _ => Nat.le_refl _
theorem forward_peek (q : DB → α) : Forward (peek q : Tx DB ε α) := fun _ => Nat.le_refl _
theorem forward_write (f : DB → DB) : Forward (write f : Tx DB ε Unit) := fun _ => Nat.le_refl _
theorem forward_uuid4 : Forward (uuid4 : Tx DB ε String) := fun _ => Nat.le_succ _
theorem forward_now : Forward (now : Tx DB ε Int) := fun _ => Nat.le_succ _
theorem forward_dialect : Forward (dialect : Tx DB ε String) := fun _ => Nat.le_refl _
theorem forward_publish : Forward (publish : Tx DB ε Unit) := fun _ => Nat.le_refl _
theorem forward_raise (error : ε) : Forward (raise error : Tx DB ε α) := fun _ => Nat.le_refl _

theorem forward_ofExcept : ∀ x : Except ε α, Forward (ofExcept x : Tx DB ε α)
  | .ok a => forward_pure a
  | .error error => forward_raise error

theorem forward_statement : Forward (statement : Tx DB ε Unit) := by
  intro s
  unfold statement
  split
  · split <;> exact Nat.le_succ _
  · exact Nat.le_refl _

theorem forward_query (q : DB → α) : Forward (query q : Tx DB ε α) :=
  forward_statement.bind fun _ => forward_peek q

theorem forward_flush [Schema DB] : Forward (flush : Tx DB ε Unit) := by
  refine forward_statement.bind fun _ => ?_
  intro s
  unfold checkKeys
  split <;> exact Nat.le_refl _

theorem forward_commit [Schema DB] : Forward (commit : Tx DB ε Unit) :=
  forward_flush.bind fun _ => forward_statement.bind fun _ => forward_publish

theorem Forward.tryExcept {body : Tx DB ε α} {handler : Failure ε → Tx DB ε α}
    (hb : Forward body) (hh : ∀ e, Forward (handler e)) : Forward (Tx.tryExcept body handler) :=
  Obeys.tryExcept forward_frame hb hh

theorem Forward.attempt {caught : ε → Option β} {m : Tx DB ε α} (h : Forward m) :
    Forward (attempt caught m) := Obeys.attempt (R := fun s t => s.tick ≤ t.tick) h

end forward

section noRaise

theorem NoRaise.bind {x : Tx DB ε α} {f : α → Tx DB ε β} (hx : NoRaise x)
    (hf : ∀ a, NoRaise (f a)) : NoRaise (x >>= f) := by
  intro s error t h
  rcases bind_eq_error.mp h with h | ⟨a, u, _, h⟩
  · exact hx s error t h
  · exact hf a u error t h

theorem noRaise_pure (a : α) : NoRaise (pure a : Tx DB ε α) :=
  fun _ _ _ h => by simp at h
theorem noRaise_peek (q : DB → α) : NoRaise (peek q : Tx DB ε α) :=
  fun _ _ _ h => by simp at h
theorem noRaise_write (f : DB → DB) : NoRaise (write f : Tx DB ε Unit) :=
  fun _ _ _ h => by simp at h
theorem noRaise_uuid4 : NoRaise (uuid4 : Tx DB ε String) :=
  fun _ _ _ h => by simp at h
theorem noRaise_now : NoRaise (now : Tx DB ε Int) :=
  fun _ _ _ h => by simp at h
theorem noRaise_dialect : NoRaise (dialect : Tx DB ε String) :=
  fun _ _ _ h => by simp at h
theorem noRaise_publish : NoRaise (publish : Tx DB ε Unit) :=
  fun _ _ _ h => nomatch h

theorem noRaise_statement : NoRaise (statement : Tx DB ε Unit) := by
  intro s error t h
  unfold statement at h
  split at h
  · split at h <;> simp at h
  · simp at h

theorem noRaise_query (q : DB → α) : NoRaise (query q : Tx DB ε α) :=
  noRaise_statement.bind fun _ => noRaise_peek q

theorem noRaise_flush [Schema DB] : NoRaise (flush : Tx DB ε Unit) := by
  refine noRaise_statement.bind fun _ => ?_
  intro s error t h
  unfold checkKeys at h
  split at h <;> simp at h

theorem noRaise_commit [Schema DB] : NoRaise (commit : Tx DB ε Unit) :=
  noRaise_flush.bind fun _ => noRaise_statement.bind fun _ => noRaise_publish

theorem noRaise_ite {c : Prop} [Decidable c] {x y : Tx DB ε α} (hx : NoRaise x)
    (hy : NoRaise y) : NoRaise (if c then x else y) := by
  split
  · exact hx
  · exact hy

end noRaise

section clean

theorem ReadOnly.bind {x : Tx DB ε α} {f : α → Tx DB ε β} (hx : ReadOnly x)
    (hf : ∀ a, ReadOnly (f a)) : ReadOnly (x >>= f) := by
  intro s b t h
  obtain ⟨a, u, hu, h⟩ := bind_eq_ok.mp h
  rw [hf a u b t h, hx s a u hu]

theorem readOnly_pure (a : α) : ReadOnly (pure a : Tx DB ε α) := by
  intro s b t h
  simp only [pure_apply, EStateM.Result.ok.injEq] at h
  rw [← h.2]

theorem readOnly_ofExcept : ∀ x : Except ε α, ReadOnly (ofExcept x : Tx DB ε α)
  | .ok a => readOnly_pure a
  | .error _ => fun _ _ _ h => nomatch h

theorem readOnly_query (q : DB → α) : ReadOnly (query q : Tx DB ε α) := by
  intro s a t h
  obtain ⟨_, n, rfl⟩ := query_ok h
  rfl

end clean

end Tx

/-! ## §5. Between transactions. -/

/-- Nothing is pending and nothing failed: the session is as good as new. -/
def Session.Clean (s : Session DB) : Prop := s.active = true ∧ s.working = s.committed

theorem begin_clean (world : World DB) (tick : Nat) (db : DB) :
    (Session.begin world tick db).Clean := ⟨rfl, rfl⟩

theorem Session.Clean.eq_begin {s : Session DB} (h : s.Clean) :
    s = Session.begin s.world s.tick s.committed := by
  obtain ⟨world, tick, committed, working, active⟩ := s
  obtain ⟨ha, hw⟩ := h
  simp only at ha hw
  subst ha hw
  rfl

namespace Tx

theorem commit_clean [Schema DB] {s t : Session DB} {u : Unit}
    (h : (commit : Tx DB ε Unit) s = .ok u t) : t.Clean := by
  obtain ⟨ha, -, n, rfl⟩ := commit_ok h
  exact ⟨ha, rfl⟩

/-- The state one transaction on a fresh session leads to. -/
def transact (m : Tx DB ε α) (world : World DB) (tick : Nat) (db : DB) : DB :=
  (after (m (Session.begin world tick db))).committed

/-- **A loop of transactions is a run**: each round that returns hands a
clean session to the next one, so what the loop commits is what its rounds
commit one after another, up to the round that fails. -/
theorem forM_run {γ : Type} {f : γ → Tx DB ε PUnit} (hworld : ∀ c, KeepsWorld (f c))
    (hclean : ∀ c s u t, f c s = .ok u t → t.Clean) :
    ∀ (l : List γ) (s : Session DB), s.Clean →
      ∃ as : List (γ × Nat), as.map Prod.fst <+: l
        ∧ (after (l.forM f s)).committed
            = run (fun a db => transact (f a.1) s.world a.2 db) as s.committed
        ∧ ∀ u t, l.forM f s = .ok u t →
            as.map Prod.fst = l ∧ t.Clean ∧ t.world = s.world := by
  intro l
  -- over the list: the rest starts on the session that the first round leaves clean
  induction l with
  | nil =>
      intro s hs
      refine ⟨[], List.nil_prefix, rfl, fun u t h => ?_⟩
      have ht : s = t := by simpa using congrArg after h
      exact ⟨rfl, ht ▸ hs, by rw [ht]⟩
  | cons c l ih =>
      intro s hs
      have hbegin := hs.eq_begin
      have hfirst : (after (f c s)).committed
          = transact (f c) s.world s.tick s.committed := by
        unfold transact
        rw [← hbegin]
      have hw := hworld c s
      show ∃ as, _ ∧ (after ((f c >>= fun _ => l.forM f) s)).committed = _
        ∧ ∀ u t, (f c >>= fun _ => l.forM f) s = .ok u t → _
      cases h : f c s with
      | error e t =>
          rw [h] at hfirst
          refine ⟨[(c, s.tick)], by simp, ?_, fun u t' h' => ?_⟩
          · rw [bind_of_error h]
            exact hfirst
          · rw [bind_of_error h] at h'
            exact nomatch h'
      | ok u t =>
          rw [h] at hfirst hw
          obtain ⟨as, hpre, hrun, hok⟩ := ih t (hclean c s u t h)
          have htw : t.world = s.world := hw
          refine ⟨(c, s.tick) :: as, ?_, ?_, fun u' t' h' => ?_⟩
          · rw [List.map_cons, List.cons_prefix_cons]
            exact ⟨rfl, hpre⟩
          · rw [bind_of_ok h, hrun, htw, run_cons, ← hfirst]
            rfl
          · rw [bind_of_ok h] at h'
            obtain ⟨h1, h2, h3⟩ := hok u' t' h'
            exact ⟨by rw [List.map_cons, h1], h2, h3.trans htw⟩

/-! ## §6. Dependable databases. -/

end Tx

/-- The process lives, and the database rejects a statement for the rows of
the session only. -/
structure World.Dependable (world : World DB) (rejects : DB → Option String) : Prop where
  fault_eq : ∀ n db, world.fault n db = (rejects db).elim .none .reject

theorem World.calm_dependable : (World.calm : World DB).Dependable fun _ => none :=
  ⟨fun _ _ => rfl⟩

namespace Tx

section dependable
variable {rejects : DB → Option String} {s : Session DB}

theorem statement_accepted (dep : s.world.Dependable rejects) (active : s.active = true)
    (accepted : rejects s.working = none) :
    (statement : Tx DB ε Unit) s = .ok () (s.goto s.working (s.tick + 1)) := by
  refine statement_of_none active ?_
  rw [dep.fault_eq, accepted]
  rfl

/-- A rejected statement leaves a session that waits for a rollback. -/
theorem statement_rejected (dep : s.world.Dependable rejects) (active : s.active = true)
    {message : String} (rejected : rejects s.working = some message) :
    (statement : Tx DB ε Unit) s
      = .error (.database message) { s.goto s.working (s.tick + 1) with active := false } := by
  unfold statement
  rw [if_pos active, dep.fault_eq, rejected]
  rfl

/-- A statement that goes through was accepted. -/
theorem accepted_of_statement (dep : s.world.Dependable rejects) {t : Session DB} {u : Unit}
    (h : (statement : Tx DB ε Unit) s = .ok u t) :
    s.active = true ∧ rejects s.working = none := by
  obtain ⟨active, -⟩ := statement_ok h
  refine ⟨active, ?_⟩
  unfold statement at h
  rw [if_pos active, dep.fault_eq] at h
  cases hr : rejects s.working with
  | none => rfl
  | some message => rw [hr] at h; cases h

theorem query_accepted (dep : s.world.Dependable rejects) (active : s.active = true)
    (accepted : rejects s.working = none) (q : DB → α) :
    (query q : Tx DB ε α) s = .ok (q s.working) (s.goto s.working (s.tick + 1)) :=
  query_of_statement (statement_accepted dep active accepted)

theorem accepted_of_query (dep : s.world.Dependable rejects) {q : DB → α} {a : α}
    {t : Session DB} (h : (query q : Tx DB ε α) s = .ok a t) :
    s.active = true ∧ rejects s.working = none := by
  obtain ⟨_, v, hv, _⟩ := bind_eq_ok.mp h
  exact accepted_of_statement dep hv

theorem flush_accepted [Schema DB] (dep : s.world.Dependable rejects) (active : s.active = true)
    (accepted : rejects s.working = none) (admitted : Schema.admits s.working = true) :
    (flush : Tx DB ε Unit) s = .ok () (s.goto s.working (s.tick + 1)) := by
  have hcheck : (checkKeys : Tx DB ε Unit) (s.goto s.working (s.tick + 1))
      = .ok () (s.goto s.working (s.tick + 1)) := if_pos admitted
  unfold flush
  rw [bind_of_ok (statement_accepted dep active accepted), hcheck]

theorem flush_rejected [Schema DB] (dep : s.world.Dependable rejects) (active : s.active = true)
    {message : String} (rejected : rejects s.working = some message) :
    (flush : Tx DB ε Unit) s
      = .error (.database message) { s.goto s.working (s.tick + 1) with active := false } :=
  bind_of_error (statement_rejected dep active rejected)

theorem accepted_of_flush [Schema DB] (dep : s.world.Dependable rejects) {t : Session DB}
    {u : Unit} (h : (flush : Tx DB ε Unit) s = .ok u t) :
    s.active = true ∧ rejects s.working = none := by
  obtain ⟨_, v, hv, _⟩ := bind_eq_ok.mp h
  exact accepted_of_statement dep hv

theorem commit_accepted [Schema DB] (dep : s.world.Dependable rejects) (active : s.active = true)
    (accepted : rejects s.working = none) (admitted : Schema.admits s.working = true) :
    (commit : Tx DB ε Unit) s
      = .ok () { s.goto s.working (s.tick + 2) with committed := s.working } := by
  have hflush : (flush : Tx DB ε Unit) s = .ok () (s.goto s.working (s.tick + 1)) :=
    flush_accepted dep active accepted admitted
  have hstatement : (statement : Tx DB ε Unit) (s.goto s.working (s.tick + 1))
      = .ok () (s.goto s.working (s.tick + 2)) := by
    rw [statement_accepted (s := s.goto s.working (s.tick + 1)) dep active accepted]
    rfl
  unfold commit
  rw [bind_of_ok hflush, bind_of_ok hstatement]
  rfl

/-- **Adding rows and flushing them** goes through exactly when the rows are
admitted. -/
theorem insert_accepted [Schema DB] (dep : s.world.Dependable rejects) (active : s.active = true)
    {f : DB → DB} (accepted : rejects (f s.working) = none) (a : α) :
    ((∃ b t, (write f >>= fun _ => flush >>= fun _ => (pure a : Tx DB ε α)) s = .ok b t)
        ↔ Schema.admits (f s.working) = true)
      ∧ (Schema.admits (f s.working) = true →
        (write f >>= fun _ => flush >>= fun _ => (pure a : Tx DB ε α)) s
          = .ok a (s.goto (f s.working) (s.tick + 1))) := by
  have hforward : Schema.admits (f s.working) = true →
      (write f >>= fun _ => flush >>= fun _ => (pure a : Tx DB ε α)) s
        = .ok a (s.goto (f s.working) (s.tick + 1)) := by
    intro admitted
    have hflush := flush_accepted (ε := ε) (s := s.goto (f s.working) s.tick) dep active accepted
      admitted
    rw [bind_of_ok (write_apply _ _), bind_of_ok hflush]
    rfl
  refine ⟨⟨fun ⟨b, t, h⟩ => ?_, fun h => ⟨_, _, hforward h⟩⟩, hforward⟩
  rw [bind_of_ok (write_apply _ _)] at h
  obtain ⟨_, v, hv, _⟩ := bind_eq_ok.mp h
  exact (flush_ok hv).1

/-- A COMMIT goes through exactly on a live session whose rows are accepted
and admitted. -/
theorem commit_returns_iff [Schema DB] (dep : s.world.Dependable rejects) :
    (∃ u t, (commit : Tx DB ε Unit) s = .ok u t)
      ↔ s.active = true ∧ rejects s.working = none ∧ Schema.admits s.working = true := by
  constructor
  · rintro ⟨u, t, h⟩
    obtain ⟨_, v, hv, _⟩ := bind_eq_ok.mp h
    obtain ⟨active, accepted⟩ := accepted_of_flush dep hv
    exact ⟨active, accepted, (flush_ok hv).1⟩
  · rintro ⟨active, accepted, admitted⟩
    exact ⟨_, _, commit_accepted dep active accepted admitted⟩

end dependable

end Tx

end EventCart.Lib
