/-
  EventCart.Lib.Triples
  ─────────────────────
  **TOTAL CORRECTNESS OF PROGRAMS OVER A SESSION.**

  `Meets P m Q E`: on every session in `P` the program `m` either returns,
  into `Q`, or raises an exception of its own, into `E`.  It never ends for
  the database's sake: no rejected statement, no failed flush, no session
  that waits for a rollback, no dead process.

  What it takes is a `Healthy` session: a faultless world, rows the key check
  admits, and identifiers that are fresh when they are drawn.  An identifier
  is `drawn` between `uuid4` and the write that puts it into a row; the write
  is the one operation with a proof obligation about keys.

    §1  triples;
    §2  the rules of sequencing;
    §3  healthy sessions;
    §4  the rules of the operations.
-/
import EventCart.Lib.Session

namespace EventCart.Lib

namespace Tx

variable {DB ε α β γ : Type}

/-! ## §1. Triples. -/

/-- How a run may end. -/
def Lands (Q : α → Session DB → Prop) (E : ε → Session DB → Prop) :
    EStateM.Result (Failure ε) (Session DB) α → Prop
  | .ok a t => Q a t
  | .error (.raised error) t => E error t
  | .error _ _ => False

/-- From `P` the program returns into `Q` or raises into `E`. -/
def Meets (P : Session DB → Prop) (m : Tx DB ε α) (Q : α → Session DB → Prop)
    (E : ε → Session DB → Prop) : Prop :=
  ∀ s, P s → Lands Q E (m s)

theorem Lands.weaken {Q Q' : α → Session DB → Prop} {E E' : ε → Session DB → Prop}
    {r : EStateM.Result (Failure ε) (Session DB) α} (h : Lands Q E r)
    (hQ : ∀ a t, Q a t → Q' a t) (hE : ∀ error t, E error t → E' error t) : Lands Q' E' r := by
  cases r with
  | ok a t => exact hQ a t h
  | error e t =>
      cases e with
      | raised error => exact hE error t h
      | database message => exact h.elim
      | pendingRollback => exact h.elim
      | crash => exact h.elim

/-! ## §2. Sequencing. -/

section rules
variable {P P' : Session DB → Prop} {Q Q' : α → Session DB → Prop} {E E' : ε → Session DB → Prop}

/-- The rule of consequence. -/
theorem Meets.weaken {m : Tx DB ε α} (h : Meets P m Q E) (hP : ∀ s, P' s → P s)
    (hQ : ∀ a t, Q a t → Q' a t) (hE : ∀ error t, E error t → E' error t) : Meets P' m Q' E' :=
  fun s hs => (h s (hP s hs)).weaken hQ hE

theorem Meets.post {m : Tx DB ε α} (h : Meets P m Q E) (hQ : ∀ a t, Q a t → Q' a t) :
    Meets P m Q' E :=
  h.weaken (fun _ hs => hs) hQ fun _ _ hE => hE

theorem Meets.pre {m : Tx DB ε α} (h : Meets P m Q E) (hP : ∀ s, P' s → P s) : Meets P' m Q E :=
  h.weaken hP (fun _ _ hQ => hQ) fun _ _ hE => hE

theorem meets_pure (a : α) (h : ∀ s, P s → Q a s) : Meets P (pure a : Tx DB ε α) Q E :=
  fun s hs => h s hs

theorem meets_raise (error : ε) (h : ∀ s, P s → E error s) :
    Meets P (raise error : Tx DB ε α) Q E :=
  fun s hs => h s hs

theorem Meets.bind {x : Tx DB ε α} {f : α → Tx DB ε β} {R : β → Session DB → Prop}
    (hx : Meets P x Q E) (hf : ∀ a, Meets (Q a) (f a) R E) : Meets P (x >>= f) R E := by
  intro s hs
  have hrun := hx s hs
  cases h : x s with
  | ok a t =>
      rw [h] at hrun
      rw [bind_of_ok h]
      exact hf a t hrun
  -- what the first program raised ends the sequence, where it stands
  | error e t =>
      rw [h] at hrun
      rw [bind_of_error h]
      cases e with
      | raised error => exact hrun
      | database message => exact hrun.elim
      | pendingRollback => exact hrun.elim
      | crash => exact hrun.elim

/-- A pure computation that may raise. -/
theorem meets_ofExcept {x : Except ε α} (hok : ∀ a, x = .ok a → ∀ s, P s → Q a s)
    (herror : ∀ error, x = .error error → ∀ s, P s → E error s) :
    Meets P (ofExcept x : Tx DB ε α) Q E := by
  cases x with
  | ok a => exact meets_pure a (hok a rfl)
  | error error => exact meets_raise error (herror error rfl)

/-- `try … except Exception`: the handler starts where the body raised. -/
theorem Meets.tryExcept {body : Tx DB ε α} {handler : Failure ε → Tx DB ε α}
    (hbody : Meets P body Q E) (hhandler : ∀ error, Meets (E error) (handler (.raised error)) Q E') :
    Meets P (tryExcept body handler) Q E' := by
  intro s hs
  have hrun := hbody s hs
  unfold Tx.tryExcept
  cases h : body s with
  | ok a t =>
      rw [h] at hrun
      exact hrun
  | error e t =>
      rw [h] at hrun
      cases e with
      | raised error => exact hhandler error t hrun
      | database message => exact hrun.elim
      | pendingRollback => exact hrun.elim
      | crash => exact hrun.elim

/-- `try … except E`: an exception that is not caught goes on. -/
theorem Meets.attempt {caught : ε → Option β} {body : Tx DB ε α} {R : β ⊕ α → Session DB → Prop}
    (hbody : Meets P body Q E) (hreturned : ∀ a s, Q a s → R (.inr a) s)
    (hcaught : ∀ error b s, caught error = some b → E error s → R (.inl b) s)
    (huncaught : ∀ error s, caught error = none → E error s → E' error s) :
    Meets P (attempt caught body) R E' := by
  intro s hs
  have hrun := hbody s hs
  unfold Tx.attempt
  cases h : body s with
  | ok a t =>
      rw [h] at hrun
      exact hreturned a t hrun
  | error e t =>
      rw [h] at hrun
      cases e with
      | raised error =>
          cases hc : caught error with
          | none =>
              simp only [hc]
              exact huncaught error t hc hrun
          | some b =>
              simp only [hc]
              exact hcaught error b t hc hrun
      | database message => exact hrun.elim
      | pendingRollback => exact hrun.elim
      | crash => exact hrun.elim

/-- What is known of the world goes on holding. -/
theorem Meets.inWorld {W : World DB → Prop} {m : Tx DB ε α} (h : Meets P m Q E)
    (keeps : KeepsWorld m) :
    Meets (fun s => P s ∧ W s.world) m (fun a s => Q a s ∧ W s.world)
      fun error s => E error s ∧ W s.world := by
  rintro s ⟨hs, hw⟩
  have hrun := h s hs
  have hworld := keeps s
  cases hm : m s with
  | ok a t =>
      rw [hm] at hrun hworld
      have hworld : t.world = s.world := hworld
      exact ⟨hrun, hworld ▸ hw⟩
  | error e t =>
      rw [hm] at hrun hworld
      have hworld : t.world = s.world := hworld
      cases e with
      | raised error => exact ⟨hrun, hworld ▸ hw⟩
      | database message => exact hrun.elim
      | pendingRollback => exact hrun.elim
      | crash => exact hrun.elim

/-- A loop keeps what each of its rounds keeps. -/
theorem meets_forM {I : Session DB → Prop} {f : γ → Tx DB ε PUnit} :
    ∀ l : List γ, (∀ c ∈ l, Meets I (f c) (fun _ => I) E) → Meets I (l.forM f) (fun _ => I) E := by
  intro l
  induction l with
  | nil =>
      intro _
      exact meets_pure _ fun _ hs => hs
  | cons c l ih =>
      intro h
      have hrest := ih fun other hother => h other (List.mem_cons_of_mem _ hother)
      exact (h c List.mem_cons_self).bind fun _ => hrest

end rules

/-! ## §3. Healthy sessions. -/

section healthy
variable [Schema DB]

/-- The session is live, its world is faultless, its rows are admitted, and
no identifier still to be drawn is `used` in a row.  Those `drawn` so far are
in no row either. -/
structure Healthy (used : DB → List String) (drawn : List String) (s : Session DB) : Prop where
  active : s.active = true
  faultless : s.world.Dependable fun _ => none
  distinct : Function.Injective s.world.uuid4
  unused : ∀ n, s.tick ≤ n → s.world.uuid4 n ∉ used s.working
  undrawn : ∀ n, s.tick ≤ n → s.world.uuid4 n ∉ drawn
  spare : ∀ id ∈ drawn, id ∉ used s.working
  nodup : drawn.Nodup
  admitted : Schema.admits s.working = true

/-- A healthy session whose rows satisfy `P`. -/
def On (used : DB → List String) (drawn : List String) (P : DB → Prop) (s : Session DB) : Prop :=
  Healthy used drawn s ∧ P s.working

variable {used : DB → List String} {drawn : List String} {P P' : DB → Prop}
  {E : ε → Session DB → Prop}

/-- The same rows at a later tick. -/
theorem Healthy.later {s : Session DB} (h : Healthy used drawn s) {n : Nat} (later : s.tick ≤ n) :
    Healthy used drawn (s.goto s.working n) where
  active := h.active
  faultless := h.faultless
  distinct := h.distinct
  unused m hm := h.unused m (Nat.le_trans later hm)
  undrawn m hm := h.undrawn m (Nat.le_trans later hm)
  spare := h.spare
  nodup := h.nodup
  admitted := h.admitted

theorem On.later {s : Session DB} (h : On used drawn P s) {n : Nat} (later : s.tick ≤ n) :
    On used drawn P (s.goto s.working n) :=
  ⟨h.1.later later, h.2⟩

/-- An identifier that no row was written under. -/
theorem On.forget {s : Session DB} {id : String} (h : On used (id :: drawn) P s) :
    On used drawn P s :=
  ⟨{ h.1 with
      undrawn := fun n hn hmem => h.1.undrawn n hn (List.mem_cons_of_mem _ hmem)
      spare := fun other hother => h.1.spare other (List.mem_cons_of_mem _ hother)
      nodup := (List.nodup_cons.mp h.1.nodup).2 }, h.2⟩

theorem On.imp {s : Session DB} (h : On used drawn P s) (himp : ∀ db, P db → P' db) :
    On used drawn P' s :=
  ⟨h.1, himp _ h.2⟩

/-! ## §4. The operations. -/

theorem meets_statement :
    Meets (On used drawn P) (statement : Tx DB ε Unit) (fun _ => On used drawn P) E := by
  intro s hs
  rw [statement_accepted hs.1.faultless hs.1.active rfl]
  exact hs.later (Nat.le_succ _)

theorem meets_peek (q : DB → α) :
    Meets (On used drawn P) (peek q : Tx DB ε α)
      (fun a => On used drawn fun db => P db ∧ a = q db) E :=
  fun _ hs => ⟨hs.1, hs.2, rfl⟩

theorem meets_query (q : DB → α) :
    Meets (On used drawn P) (query q : Tx DB ε α)
      (fun a => On used drawn fun db => P db ∧ a = q db) E :=
  meets_statement.bind fun _ => meets_peek q

theorem meets_now :
    Meets (On used drawn P) (now : Tx DB ε Int) (fun _ => On used drawn P) E :=
  fun _ hs => hs.later (Nat.le_succ _)

theorem meets_dialect :
    Meets (On used drawn P) (dialect : Tx DB ε String) (fun _ => On used drawn P) E :=
  fun _ hs => hs

/-- A fresh identifier is in no row and was not drawn before. -/
theorem meets_uuid4 :
    Meets (On used drawn P) (uuid4 : Tx DB ε String) (fun id => On used (id :: drawn) P) E := by
  intro s hs
  obtain ⟨h, hP⟩ := hs
  have hlater := h.later (Nat.le_succ s.tick)
  -- the identifier of this tick is drawn now, and the ticks to come give others
  refine ⟨{ hlater with undrawn := ?_, spare := ?_, nodup := ?_ }, hP⟩
  · intro n hn hmem
    rcases List.mem_cons.mp hmem with heq | hmem
    · have hsame : n = s.tick := h.distinct heq
      have hn : s.tick + 1 ≤ n := hn
      omega
    · exact hlater.undrawn n hn hmem
  · intro id hid
    rcases List.mem_cons.mp hid with rfl | hid
    · exact h.unused s.tick (Nat.le_refl _)
    · exact h.spare id hid
  · exact List.nodup_cons.mpr ⟨h.undrawn s.tick (Nat.le_refl _), h.nodup⟩

/-- **Rows are written under drawn identifiers**: the one operation that has
to care about keys. -/
theorem meets_write {f : DB → DB}
    (h : ∀ db, Schema.admits db = true → P db → drawn.Nodup → (∀ id ∈ drawn, id ∉ used db) →
      Schema.admits (f db) = true ∧ P' (f db) ∧ ∀ id ∈ used (f db), id ∈ used db ∨ id ∈ drawn) :
    Meets (On used drawn P) (write f : Tx DB ε Unit) (fun _ => On used [] P') E := by
  intro s hs
  obtain ⟨hhealthy, hP⟩ := hs
  obtain ⟨admitted, hP', hused⟩ := h s.working hhealthy.admitted hP hhealthy.nodup hhealthy.spare
  -- the drawn identifiers stand in rows now, and the ticks to come still give others
  refine ⟨?_, hP'⟩
  exact
    { active := hhealthy.active
      faultless := hhealthy.faultless
      distinct := hhealthy.distinct
      unused := fun n hn hmem => (hused _ hmem).elim (hhealthy.unused n hn) (hhealthy.undrawn n hn)
      undrawn := fun _ _ => List.not_mem_nil
      spare := fun _ hid => absurd hid List.not_mem_nil
      nodup := List.nodup_nil
      admitted := admitted }

theorem meets_flush :
    Meets (On used drawn P) (flush : Tx DB ε Unit) (fun _ => On used drawn P) E := by
  intro s hs
  rw [flush_accepted hs.1.faultless hs.1.active rfl hs.1.admitted]
  exact hs.later (Nat.le_succ _)

theorem meets_commit :
    Meets (On used drawn P) (commit : Tx DB ε Unit) (fun _ => On used drawn P) E :=
  meets_flush.bind fun _ => meets_statement.bind fun _ _ hs => ⟨{ hs.1 with }, hs.2⟩

end healthy

end Tx

end EventCart.Lib
