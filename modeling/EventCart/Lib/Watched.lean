/-
  EventCart.Lib.Watched
  ─────────────────────
  **PROGRAMS WHOSE DEALINGS WITH THE OUTSIDE ARE ON RECORD.**

  Some effects of a transaction program do not end in the store: a call to a
  piece of foreign code, a message handed to a network.  `Watched` runs such
  a program beside a record of these effects.  The record is no part of the
  session: no rollback and no crash takes an entry back.

    §1  watched programs and their operations;
    §2  `Erases` — without its record a watched program is the program it
        watches, so nothing is proved about a different program;
    §3  `Records` — what a program puts on record, however it ends;
    §4  `Keeps`   — loops whose rounds keep an invariant of session and
        record, whatever fails;
    §5  `Mirrors` — two records of one program, entry against entry, wherever
        the program stops.
-/
import EventCart.Lib.Session

namespace EventCart.Lib

variable {L DB ε α β γ : Type}

/-! ## §1. Watched programs. -/

/-- Programs over a session and a record. -/
abbrev Watched (L DB ε α : Type) := EStateM (Failure ε) (Session DB × List L) α

namespace Watched

/-- What a program leaves behind, however it ends. -/
def final : EStateM.Result (Failure ε) (Session DB × List L) α → Session DB × List L
  | .ok _ q => q
  | .error _ q => q

@[simp] theorem final_ok (a : α) (q : Session DB × List L) :
    final (.ok a q : EStateM.Result (Failure ε) _ α) = q := rfl

@[simp] theorem final_error (e : Failure ε) (q : Session DB × List L) :
    final (.error e q : EStateM.Result (Failure ε) _ α) = q := rfl

/-- A program over the session alone. -/
def lift (m : Tx DB ε α) : Watched L DB ε α := fun p =>
  match m p.1 with
  | .ok a t => .ok a (t, p.2)
  | .error e t => .error e (t, p.2)

/-- Put an entry on record. -/
def record (x : L) : Watched L DB ε Unit := fun p => .ok () (p.1, p.2 ++ [x])

/-- The record so far. -/
def recorded : Watched L DB ε (List L) := fun p => .ok p.2 p

/-- Stop here. -/
def stop (e : Failure ε) : Watched L DB ε α := fun p => .error e p

/-- `try … finally …`: the last block runs unless the process dies, and what it
raises takes the place of what the body raised. -/
def tryFinally (body : Watched L DB ε α) (last : Watched L DB ε PUnit) :
    Watched L DB ε α := fun p =>
  match body p with
  | .error .crash q => .error .crash q
  | .error e q => (last >>= fun _ => stop e) q
  | .ok a q => (last >>= fun _ => pure a) q

/-- `try … except Exception as error`. -/
def tryExcept (body : Watched L DB ε α) (handler : Failure ε → Watched L DB ε α) :
    Watched L DB ε α := fun p =>
  match body p with
  | .error .crash q => .error .crash q
  | .error e q => handler e q
  | .ok a q => .ok a q

@[simp] theorem record_apply (x : L) (p : Session DB × List L) :
    (record x : Watched L DB ε Unit) p = .ok () (p.1, p.2 ++ [x]) := rfl

@[simp] theorem recorded_apply (p : Session DB × List L) :
    (recorded : Watched L DB ε (List L)) p = .ok p.2 p := rfl

@[simp] theorem stop_apply (e : Failure ε) (p : Session DB × List L) :
    (stop e : Watched L DB ε α) p = .error e p := rfl

theorem lift_of_ok {m : Tx DB ε α} {p : Session DB × List L} {a : α} {t : Session DB}
    (h : m p.1 = .ok a t) : (lift m : Watched L DB ε α) p = .ok a (t, p.2) := by
  unfold lift
  rw [h]

theorem lift_of_error {m : Tx DB ε α} {p : Session DB × List L} {e : Failure ε} {t : Session DB}
    (h : m p.1 = .error e t) : (lift m : Watched L DB ε α) p = .error e (t, p.2) := by
  unfold lift
  rw [h]

theorem final_lift (m : Tx DB ε α) (p : Session DB × List L) :
    final ((lift m : Watched L DB ε α) p) = (after (m p.1), p.2) := by
  cases h : m p.1 with
  | ok a t => rw [lift_of_ok h]; rfl
  | error e t => rw [lift_of_error h]; rfl

theorem bind_of_ok {x : Watched L DB ε α} {f : α → Watched L DB ε β} {p q : Session DB × List L}
    {a : α} (h : x p = .ok a q) : (x >>= f) p = f a q := by
  show EStateM.bind x f p = _
  unfold EStateM.bind
  rw [h]

theorem bind_of_error {x : Watched L DB ε α} {f : α → Watched L DB ε β}
    {p q : Session DB × List L} {e : Failure ε} (h : x p = .error e q) :
    (x >>= f) p = .error e q := by
  show EStateM.bind x f p = _
  unfold EStateM.bind
  rw [h]

/-- What a program returns changes neither session nor record. -/
theorem final_bind_pure (w : Watched L DB ε α) (f : α → β) (p : Session DB × List L) :
    final ((w >>= fun a => (pure (f a) : Watched L DB ε β)) p) = final (w p) := by
  cases h : w p with
  | ok a q => rw [bind_of_ok h]; rfl
  | error e q => rw [bind_of_error h]; rfl

theorem tryFinally_of_ok {body : Watched L DB ε α} {last : Watched L DB ε PUnit}
    {p q : Session DB × List L} {a : α} (h : body p = .ok a q) :
    tryFinally body last p = (last >>= fun _ => pure a) q := by
  unfold tryFinally
  rw [h]

theorem tryFinally_of_error {body : Watched L DB ε α} {last : Watched L DB ε PUnit}
    {p q : Session DB × List L} {e : Failure ε} (alive : e ≠ .crash) (h : body p = .error e q) :
    tryFinally body last p = (last >>= fun _ => stop e) q := by
  unfold tryFinally
  rw [h]
  cases e with
  | crash => exact absurd rfl alive
  | raised error => rfl
  | database message => rfl
  | pendingRollback => rfl

theorem tryFinally_of_crash {body : Watched L DB ε α} {last : Watched L DB ε PUnit}
    {p q : Session DB × List L} (h : body p = .error .crash q) :
    tryFinally body last p = .error .crash q := by
  unfold tryFinally
  rw [h]

/-- Whatever the body did, the last block runs on what it left, or the process
died. -/
theorem tryFinally_cases (body : Watched L DB ε α) (last : Watched L DB ε PUnit)
    (p : Session DB × List L) :
    tryFinally body last p = .error .crash (final (body p))
      ∨ ∃ ending : Watched L DB ε α,
          tryFinally body last p = (last >>= fun _ => ending) (final (body p))
            ∧ ∀ q, final (ending q) = q := by
  cases h : body p with
  | ok a q => exact .inr ⟨fun q => .ok a q, tryFinally_of_ok h, fun _ => rfl⟩
  | error e q =>
      by_cases he : e = .crash
      · rw [he] at h ⊢
        exact .inl (tryFinally_of_crash h)
      · exact .inr ⟨fun q => .error e q, tryFinally_of_error he h, fun _ => rfl⟩

theorem bind_eq_ok {x : Watched L DB ε α} {f : α → Watched L DB ε β}
    {p q : Session DB × List L} {b : β} :
    (x >>= f) p = .ok b q ↔ ∃ a r, x p = .ok a r ∧ f a r = .ok b q := by
  constructor
  · intro h
    cases hx : x p with
    | ok a r => exact ⟨a, r, rfl, (bind_of_ok hx).symm.trans h⟩
    | error e r =>
        rw [bind_of_error hx] at h
        simp at h
  · rintro ⟨a, r, hx, h⟩
    exact (bind_of_ok hx).trans h

/-! ## §2. Erasing the record. -/

/-- A result without the record. -/
def strip : EStateM.Result (Failure ε) (Session DB × List L) α →
    EStateM.Result (Failure ε) (Session DB) α
  | .ok a q => .ok a q.1
  | .error e q => .error e q.1

@[simp] theorem strip_ok (a : α) (q : Session DB × List L) :
    strip (.ok a q : EStateM.Result (Failure ε) _ α) = .ok a q.1 := rfl

@[simp] theorem strip_error (e : Failure ε) (q : Session DB × List L) :
    strip (.error e q : EStateM.Result (Failure ε) _ α) = .error e q.1 := rfl

/-- The session a watched program leaves is the one its stripped result
names. -/
theorem final_fst (r : EStateM.Result (Failure ε) (Session DB × List L) α) :
    (final r).1 = after (strip r) := by
  cases r with
  | ok a q => rfl
  | error e q => rfl

/-- Whatever is on record, the watched program does to the session what the
plain one does. -/
def Erases (w : Watched L DB ε α) (m : Tx DB ε α) : Prop := ∀ p, strip (w p) = m p.1

section erases

theorem erases_lift (m : Tx DB ε α) : Erases (lift m : Watched L DB ε α) m := by
  intro p
  cases h : m p.1 with
  | ok a t => rw [lift_of_ok h]; rfl
  | error e t => rw [lift_of_error h]; rfl

theorem Erases.bind {w : Watched L DB ε α} {m : Tx DB ε α} {f : α → Watched L DB ε β}
    {g : α → Tx DB ε β} (h : Erases w m) (hf : ∀ a, Erases (f a) (g a)) :
    Erases (w >>= f) (m >>= g) := by
  intro p
  have hp := h p
  cases hw : w p with
  | ok a q =>
      rw [hw] at hp
      rw [bind_of_ok hw, Tx.bind_of_ok hp.symm]
      exact hf a q
  | error e q =>
      rw [hw] at hp
      rw [bind_of_error hw, Tx.bind_of_error hp.symm]
      rfl

/-- An entry put on record changes nothing of the session. -/
theorem Erases.after_record {w : Watched L DB ε α} {m : Tx DB ε α} (x : L) (h : Erases w m) :
    Erases (record x >>= fun _ => w) m := fun p => h (p.1, p.2 ++ [x])

/-- Nor does a look at the record. -/
theorem Erases.after_recorded {f : List L → Watched L DB ε α} {m : Tx DB ε α}
    (h : ∀ entries, Erases (f entries) m) : Erases (recorded >>= f) m := fun p => h p.2 p

theorem Erases.tryExcept {w : Watched L DB ε α} {m : Tx DB ε α}
    {handler : Failure ε → Watched L DB ε α} {handler' : Failure ε → Tx DB ε α} (h : Erases w m)
    (hh : ∀ e, Erases (handler e) (handler' e)) :
    Erases (Watched.tryExcept w handler) (Tx.tryExcept m handler') := by
  intro p
  have hp := h p
  unfold Watched.tryExcept Tx.tryExcept
  cases hw : w p with
  | ok a q =>
      rw [hw] at hp
      rw [← hp]
      rfl
  | error e q =>
      rw [hw] at hp
      rw [← hp]
      cases e with
      | crash => rfl
      | raised error => exact hh _ q
      | database message => exact hh _ q
      | pendingRollback => exact hh _ q

theorem Erases.forM {w : γ → Watched L DB ε PUnit} {m : γ → Tx DB ε PUnit}
    (h : ∀ c, Erases (w c) (m c)) : ∀ l : List γ, Erases (l.forM w) (l.forM m)
  | [] => fun _ => rfl
  | c :: l => (h c).bind fun _ => Erases.forM h l

end erases

/-! ## §3. What is put on record. -/

/-- However the program ends, these entries are what it has put on record. -/
def Records (w : Watched L DB ε α) (entries : List L) : Prop :=
  ∀ p, (final (w p)).2 = p.2 ++ entries

section records

theorem Records.after_record {w : Watched L DB ε α} (x : L) (h : Records w []) :
    Records (record x >>= fun _ => w) [x] := by
  intro p
  have hw := h (p.1, p.2 ++ [x])
  rw [List.append_nil] at hw
  exact hw

/-- Every element of a list gets its turn in a loop: the rounds before it
return. -/
def InTurn (m : γ → Tx DB ε PUnit) : List γ → Session DB → Prop
  | [], _ => True
  | c :: l, s => l = [] ∨ ∃ u t, m c s = .ok u t ∧ InTurn m l t

/-- **The record of a loop** in which every element gets its turn is that of
its rounds, in order. -/
theorem Records.forM {w : γ → Watched L DB ε PUnit} {m : γ → Tx DB ε PUnit}
    {entries : γ → List L} (records : ∀ c, Records (w c) (entries c))
    (erases : ∀ c, Erases (w c) (m c)) :
    ∀ (l : List γ) (p : Session DB × List L), InTurn m l p.1 →
      (final (l.forM w p)).2 = p.2 ++ l.flatMap entries := by
  intro l
  induction l with
  | nil =>
      intro p _
      exact (List.append_nil p.2).symm
  | cons c l ih =>
      intro p turn
      have hc := records c p
      have he := erases c p
      show (final ((w c >>= fun _ => l.forM w) p)).2 = _
      cases hw : w c p with
      | error e q =>
          -- the loop ends in this round, so it is the last one
          rw [hw] at hc he
          obtain rfl : l = [] := by
            rcases turn with rfl | ⟨u, t, hm, -⟩
            · rfl
            · rw [← he] at hm
              cases hm
          rw [bind_of_error hw, List.flatMap_cons, List.flatMap_nil, List.append_nil]
          exact hc
      | ok a q =>
          rw [hw] at hc he
          rw [bind_of_ok hw, ih q ?_, List.flatMap_cons, ← List.append_assoc]
          · exact congrArg (· ++ l.flatMap entries) hc
          · rcases turn with rfl | ⟨u, t, hm, hrest⟩
            · trivial
            · rw [← he, strip_ok, EStateM.Result.ok.injEq] at hm
              rw [hm.2]
              exact hrest

end records

/-! ## §4. Loops that keep an invariant of session and record. -/

/-- The program keeps the invariant, however it ends. -/
def Keeps (I : Session DB × List L → Prop) (w : Watched L DB ε α) : Prop :=
  ∀ p, I p → I (final (w p))

section keeps
variable {I : Session DB × List L → Prop} {w : γ → Watched L DB ε PUnit}

theorem Keeps.forM : ∀ l : List γ, (∀ c ∈ l, Keeps I (w c)) → Keeps I (l.forM w)
  | [], _ => fun _ hp => hp
  | c :: l, h => by
      intro p hp
      have hc := h c List.mem_cons_self p hp
      show I (final ((w c >>= fun _ => l.forM w) p))
      cases hw : w c p with
      | error e q =>
          rw [hw] at hc
          rw [bind_of_error hw]
          exact hc
      | ok u q =>
          rw [hw] at hc
          rw [bind_of_ok hw]
          exact Keeps.forM l (fun c' hc' => h c' (List.mem_cons_of_mem _ hc')) q hc

/-- Rounds that all return make a loop that returns. -/
theorem Keeps.forM_returns : ∀ l : List γ, (∀ c ∈ l, Keeps I (w c)) →
    (∀ c ∈ l, ∀ p, I p → ∃ u q, w c p = .ok u q) →
    ∀ p, I p → ∃ u q, l.forM w p = .ok u q
  | [], _, _ => fun p _ => ⟨_, p, rfl⟩
  | c :: l, keeps, returns => by
      intro p hp
      obtain ⟨u, q, hw⟩ := returns c List.mem_cons_self p hp
      have hq := keeps c List.mem_cons_self p hp
      rw [hw] at hq
      obtain ⟨v, r, hloop⟩ := Keeps.forM_returns l
        (fun c' hc' => keeps c' (List.mem_cons_of_mem _ hc'))
        (fun c' hc' => returns c' (List.mem_cons_of_mem _ hc')) q hq
      exact ⟨v, r, (bind_of_ok hw).trans hloop⟩

/-- **A loop that returned ran every round**, and what the round put on
record stands between what was there before and what is there at the end. -/
theorem Keeps.forM_ran : ∀ l : List γ, (∀ c ∈ l, Keeps I (w c)) →
    (∀ c ∈ l, ∀ p, I p → p.2 <+: (final (w c p)).2) →
    ∀ p u q, I p → l.forM w p = .ok u q →
      p.2 <+: q.2 ∧ ∀ c ∈ l, ∃ p' u' q', I p' ∧ w c p' = .ok u' q' ∧ p.2 <+: p'.2 ∧ q'.2 <+: q.2
  | [], _, _ => by
      intro p u q _ hloop
      have hq : p = q := congrArg final hloop
      rw [hq]
      exact ⟨List.prefix_refl _, fun c hc => by simp at hc⟩
  | c :: l, keeps, grows => by
      intro p u q hp hloop
      obtain ⟨v, r, hw, hloop⟩ := bind_eq_ok.mp hloop
      have hr := keeps c List.mem_cons_self p hp
      have hgrows := grows c List.mem_cons_self p hp
      rw [hw] at hr hgrows
      obtain ⟨hlater, hran⟩ := Keeps.forM_ran l
        (fun c' hc' => keeps c' (List.mem_cons_of_mem _ hc'))
        (fun c' hc' => grows c' (List.mem_cons_of_mem _ hc')) r u q hr hloop
      refine ⟨hgrows.trans hlater, fun c' hc' => ?_⟩
      rcases List.mem_cons.mp hc' with rfl | hc'
      · exact ⟨p, v, r, hp, hw, List.prefix_refl _, hlater⟩
      · obtain ⟨p', u', q', hI, hw', hbefore, hafter⟩ := hran c' hc'
        exact ⟨p', u', q', hI, hw', hgrows.trans hbefore, hafter⟩

end keeps

/-! ## §5. Two records of one program. -/

/-- Two results with the same outcome and the same session, and records that
are related. -/
inductive Mirrored {M : Type} (R : List L → List M → Prop) :
    EStateM.Result (Failure ε) (Session DB × List L) α →
    EStateM.Result (Failure ε) (Session DB × List M) α → Prop where
  | ok (a : α) (t : Session DB) {r : List L} {r' : List M} (rel : R r r') :
      Mirrored R (.ok a (t, r)) (.ok a (t, r'))
  | error (e : Failure ε) (t : Session DB) {r : List L} {r' : List M} (rel : R r r') :
      Mirrored R (.error e (t, r)) (.error e (t, r'))

/-- One program, recorded twice: on every session both end the same way, and
records that were related stay related. -/
def Mirrors {M : Type} (R : List L → List M → Prop) (w : Watched L DB ε α)
    (w' : Watched M DB ε α) : Prop :=
  ∀ s r r', R r r' → Mirrored R (w (s, r)) (w' (s, r'))

section mirrors
variable {M : Type} {R : List L → List M → Prop}

theorem mirrors_lift (m : Tx DB ε α) : Mirrors R (lift m) (lift m) := by
  intro s r r' rel
  cases h : m s with
  | ok a t =>
      rw [lift_of_ok (p := (s, r)) h, lift_of_ok (p := (s, r')) h]
      exact .ok a t rel
  | error e t =>
      rw [lift_of_error (p := (s, r)) h, lift_of_error (p := (s, r')) h]
      exact .error e t rel

theorem Mirrors.bind {w : Watched L DB ε α} {w' : Watched M DB ε α}
    {f : α → Watched L DB ε β} {f' : α → Watched M DB ε β} (h : Mirrors R w w')
    (hf : ∀ a, Mirrors R (f a) (f' a)) : Mirrors R (w >>= f) (w' >>= f') := by
  intro s r r' rel
  have hp := h s r r' rel
  generalize hw : w (s, r) = res at hp
  generalize hw' : w' (s, r') = res' at hp
  cases hp with
  | ok a t rel' =>
      rw [bind_of_ok hw, bind_of_ok hw']
      exact hf a t _ _ rel'
  | error e t rel' =>
      rw [bind_of_error hw, bind_of_error hw']
      exact .error e t rel'

theorem Mirrors.tryExcept {w : Watched L DB ε α} {w' : Watched M DB ε α}
    {handler : Failure ε → Watched L DB ε α} {handler' : Failure ε → Watched M DB ε α}
    (h : Mirrors R w w') (hh : ∀ e, Mirrors R (handler e) (handler' e)) :
    Mirrors R (Watched.tryExcept w handler) (Watched.tryExcept w' handler') := by
  intro s r r' rel
  have hp := h s r r' rel
  unfold Watched.tryExcept
  generalize w (s, r) = res at hp ⊢
  generalize w' (s, r') = res' at hp ⊢
  cases hp with
  | ok a t rel' => exact .ok a t rel'
  | error e t rel' =>
      cases e with
      | crash => exact .error .crash t rel'
      | raised error => exact hh (.raised error) t _ _ rel'
      | database message => exact hh (.database message) t _ _ rel'
      | pendingRollback => exact hh .pendingRollback t _ _ rel'

/-- An entry at the end that the other record has nothing for. -/
theorem Mirrors.before_record {w : Watched L DB ε PUnit} {w' : Watched M DB ε PUnit} {x : L}
    (h : Mirrors R w w') (step : ∀ r r', R r r' → R (r ++ [x]) r') :
    Mirrors R (w >>= fun _ => record x) w' := by
  intro s r r' rel
  have hp := h s r r' rel
  generalize hw : w (s, r) = res at hp
  generalize w' (s, r') = res' at hp ⊢
  cases hp with
  | ok a t rel' =>
      rw [bind_of_ok hw]
      exact .ok a t (step _ _ rel')
  | error e t rel' =>
      rw [bind_of_error hw]
      exact .error e t rel'

theorem Mirrors.forM {w : γ → Watched L DB ε PUnit} {w' : γ → Watched M DB ε PUnit}
    (h : ∀ c, Mirrors R (w c) (w' c)) : ∀ l : List γ, Mirrors R (l.forM w) (l.forM w')
  | [] => mirrors_lift (pure PUnit.unit)
  | c :: l => (h c).bind fun _ => Mirrors.forM h l

end mirrors

end Watched

end EventCart.Lib
