/-
  EventCart.Lib.Frames
  ────────────────────
  **WHAT A PROGRAM LEAVES ALONE.**

  A frame of a store is read "the second state differs from the first in
  permitted ways only".  A program is `Within` a frame when the objects it
  leaves, and whatever it commits on the way, are related to the objects it
  found, however it ends.

  The rules follow the syntax of a program, so that membership of a whole
  handler in a frame comes down to its writes.
-/
import EventCart.Lib.Session

namespace EventCart.Lib

open EventCart.Lib.Tx

variable {DB ε α β : Type}

namespace Tx

/-- Whatever way the program ends, its objects changed as the frame permits,
and so did what it committed, if it committed. -/
def Within (R : DB → DB → Prop) (m : Tx DB ε α) : Prop :=
  ∀ s, R s.working (after (m s)).working
    ∧ ((after (m s)).committed = s.committed ∨ R s.working (after (m s)).committed)

section within
variable {R : DB → DB → Prop}

/-- On a session between two transactions, everybody sees a permitted
change. -/
theorem Within.of_clean (F : Frame R) {m : Tx DB ε α} (h : Within R m) {s : Session DB}
    (hs : s.Clean) :
    R s.committed (after (m s)).working ∧ R s.committed (after (m s)).committed := by
  obtain ⟨hworking, hcommitted⟩ := h s
  rw [hs.2] at hworking hcommitted
  refine ⟨hworking, ?_⟩
  rcases hcommitted with hcommitted | hcommitted
  · rw [hcommitted]
    exact F.refl _
  · exact hcommitted

/-- A permitted change of the store, seen from the sessions. -/
theorem within_frame (F : Frame R) :
    Frame fun s t : Session DB => R s.working t.working
      ∧ (t.committed = s.committed ∨ R s.working t.committed) where
  refl s := ⟨F.refl s.working, .inl rfl⟩
  trans h₁ h₂ := by
    refine ⟨F.trans h₁.1 h₂.1, ?_⟩
    rcases h₂.2 with hcommitted | hcommitted
    · rw [hcommitted]
      exact h₁.2
    · exact .inr (F.trans h₁.1 hcommitted)

theorem Within.bind (F : Frame R) {x : Tx DB ε α} {f : α → Tx DB ε β} (hx : Within R x)
    (hf : ∀ a, Within R (f a)) : Within R (x >>= f) := Obeys.bind (within_frame F) hx hf

/-- A program that changes no object and commits nothing is within every
frame. -/
theorem within_still (F : Frame R) {m : Tx DB ε α}
    (h : ∀ s, (after (m s)).working = s.working ∧ (after (m s)).committed = s.committed) :
    Within R m := by
  intro s
  obtain ⟨hworking, hcommitted⟩ := h s
  rw [hworking]
  exact ⟨F.refl _, .inl hcommitted⟩

theorem within_pure (F : Frame R) (a : α) : Within R (pure a : Tx DB ε α) :=
  within_still F fun _ => ⟨rfl, rfl⟩

theorem within_peek (F : Frame R) (q : DB → α) : Within R (peek q : Tx DB ε α) :=
  within_still F fun _ => ⟨rfl, rfl⟩

theorem within_uuid4 (F : Frame R) : Within R (uuid4 : Tx DB ε String) :=
  within_still F fun _ => ⟨rfl, rfl⟩

theorem within_now (F : Frame R) : Within R (now : Tx DB ε Int) :=
  within_still F fun _ => ⟨rfl, rfl⟩

theorem within_dialect (F : Frame R) : Within R (dialect : Tx DB ε String) :=
  within_still F fun _ => ⟨rfl, rfl⟩

theorem within_raise (F : Frame R) (error : ε) : Within R (raise error : Tx DB ε α) :=
  within_still F fun _ => ⟨rfl, rfl⟩

theorem within_ofExcept (F : Frame R) : ∀ x : Except ε α, Within R (ofExcept x : Tx DB ε α)
  | .ok a => within_pure F a
  | .error error => within_raise F error

/-- **The writes are what a frame is about.** -/
theorem within_write {f : DB → DB} (h : ∀ db, R db (f db)) :
    Within R (write f : Tx DB ε Unit) :=
  fun s => ⟨h s.working, .inl rfl⟩

theorem within_statement (F : Frame R) : Within R (statement : Tx DB ε Unit) := by
  apply within_still F
  intro s
  unfold statement
  split
  · split <;> exact ⟨rfl, rfl⟩
  · exact ⟨rfl, rfl⟩

theorem within_query (F : Frame R) (q : DB → α) : Within R (query q : Tx DB ε α) :=
  (within_statement F).bind F fun _ => within_peek F q

theorem within_flush [Schema DB] (F : Frame R) : Within R (flush : Tx DB ε Unit) := by
  refine (within_statement F).bind F fun _ => ?_
  apply within_still F
  intro s
  unfold checkKeys
  split <;> exact ⟨rfl, rfl⟩

/-- A COMMIT shows the objects of the session to everybody. -/
theorem within_commit [Schema DB] (F : Frame R) : Within R (commit : Tx DB ε Unit) := by
  refine (within_flush F).bind F fun _ => (within_statement F).bind F fun _ => ?_
  intro s
  exact ⟨F.refl _, .inr (F.refl _)⟩

theorem within_ite {c : Prop} [Decidable c] {x y : Tx DB ε α} (hx : Within R x)
    (hy : Within R y) : Within R (if c then x else y) := by
  split
  · exact hx
  · exact hy

theorem within_forM {γ : Type} (F : Frame R) {f : γ → Tx DB ε PUnit}
    (h : ∀ c, Within R (f c)) : ∀ l : List γ, Within R (l.forM f)
  | [] => within_pure F _
  | c :: l => (h c).bind F fun _ => within_forM F h l

theorem Within.attempt {caught : ε → Option β} {m : Tx DB ε α} (h : Within R m) :
    Within R (attempt caught m) :=
  Obeys.attempt (R := fun s t => R s.working t.working
    ∧ (t.committed = s.committed ∨ R s.working t.committed)) h

end within

/-- A program commits nothing, or rows that keep the declared keys. -/
def CommitsAdmitted [Schema DB] (m : Tx DB ε α) : Prop :=
  ∀ s, (after (m s)).committed = s.committed ∨ Schema.admits (after (m s)).committed = true

section admitted
variable [Schema DB]

theorem Quiet.commitsAdmitted {m : Tx DB ε α} (h : Quiet m) : CommitsAdmitted m :=
  fun s => .inl (h s).1

theorem admitted_frame :
    Frame fun s t : Session DB => t.committed = s.committed ∨ Schema.admits t.committed = true where
  refl _ := .inl rfl
  trans h₁ h₂ := by
    rcases h₂ with hcommitted | hadmitted
    · rw [hcommitted]
      exact h₁
    · exact .inr hadmitted

theorem CommitsAdmitted.bind {x : Tx DB ε α} {f : α → Tx DB ε β} (hx : CommitsAdmitted x)
    (hf : ∀ a, CommitsAdmitted (f a)) : CommitsAdmitted (x >>= f) :=
  Obeys.bind admitted_frame hx hf

theorem commitsAdmitted_commit : CommitsAdmitted (commit : Tx DB ε Unit) := by
  intro s
  cases h : (commit : Tx DB ε Unit) s with
  | error e t => exact .inl (commit_error h).1
  | ok u t =>
      obtain ⟨-, hk, n, rfl⟩ := commit_ok h
      exact .inr hk

theorem commitsAdmitted_ite {c : Prop} [Decidable c] {x y : Tx DB ε α} (hx : CommitsAdmitted x)
    (hy : CommitsAdmitted y) : CommitsAdmitted (if c then x else y) := by
  split
  · exact hx
  · exact hy

theorem CommitsAdmitted.tryExcept {body : Tx DB ε α} {handler : Failure ε → Tx DB ε α}
    (hb : CommitsAdmitted body) (hh : ∀ e, CommitsAdmitted (handler e)) :
    CommitsAdmitted (Tx.tryExcept body handler) := Obeys.tryExcept admitted_frame hb hh

end admitted

/-- **A loop of transactions over work that is still to be done**: a round
that returns hands on what is true of the rest, and wherever the loop ends
the committed store has the property `Q`. -/
theorem forM_keeps_rest {γ : Type} {f : γ → Tx DB ε PUnit} {P : List γ → DB → Prop}
    {Q : DB → Prop} (hclean : ∀ c s u t, f c s = .ok u t → t.Clean)
    (hnil : ∀ db, P [] db → Q db)
    (hstep : ∀ c l s, s.Clean → P (c :: l) s.committed →
      Q (after (f c s)).committed ∧ ∀ u t, f c s = .ok u t → P l t.committed) :
    ∀ (l : List γ) (s : Session DB), s.Clean → P l s.committed →
      Q (after (l.forM f s)).committed := by
  intro l
  induction l with
  | nil => intro s _ hP; exact hnil _ hP
  | cons c l ih =>
      intro s hs hP
      obtain ⟨hround, hrest⟩ := hstep c l s hs hP
      show Q (after ((f c >>= fun _ => l.forM f) s)).committed
      cases h : f c s with
      | error e t =>
          rw [bind_of_error h]
          rw [h] at hround
          exact hround
      | ok u t =>
          rw [bind_of_ok h]
          exact ih t (hclean c s u t h) (hrest u t h)

/-- **A loop of transactions** keeps true of the store what every single
transaction keeps true, whichever of them fails. -/
theorem forM_keeps {γ : Type} {f : γ → Tx DB ε PUnit} {P : DB → Prop}
    (hclean : ∀ c s u t, f c s = .ok u t → t.Clean)
    (hstep : ∀ c s, s.Clean → P s.committed → P (after (f c s)).committed) :
    ∀ (l : List γ) (s : Session DB), s.Clean → P s.committed →
      P (after (l.forM f s)).committed := by
  refine forM_keeps_rest (P := fun _ => P) hclean (fun _ h => h) fun c _ s hs hP => ?_
  have hround := hstep c s hs hP
  refine ⟨hround, fun u t h => ?_⟩
  rw [h] at hround
  exact hround

end Tx

end EventCart.Lib
