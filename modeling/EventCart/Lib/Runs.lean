/-
  EventCart.Lib.Runs
  ──────────────────
  **RUNS OF A LABELLED STEP FUNCTION.**

  A system is a step function `step : λ → σ → σ`: the label carries
  everything the outside world chooses (which operation, with which inputs,
  under which environment), so one step is a function and a run is a list of
  labels.  Quantifying over all label lists is quantifying over all runs.

    • `run`     — the state a label list leads to,
    • `Along`   — a condition on every step of a run, read off the state
                  BEFORE the step,
    • `run_invariant`, `run_invariant_along` — the two induction rules every
      safety theorem is an instance of,
    • `run_simulates` — a run of one system is matched by a run of another,
      one step by many,
    • `Reaches` — some run leads from one state to another.
-/
import Mathlib.Data.List.Basic

namespace EventCart.Lib

variable {σ τ l m : Type}

/-! ## §1. Runs and conditions along them. -/

/-- The state reached from `s` by taking the labelled steps in order. -/
def run (step : l → σ → σ) : List l → σ → σ
  | [], s => s
  | a :: as, s => run step as (step a s)

/-- Every step of the run meets `C`, a condition on the state before the
step and on its label. -/
def Along (step : l → σ → σ) (C : σ → l → Prop) : List l → σ → Prop
  | [], _ => True
  | a :: as, s => C s a ∧ Along step C as (step a s)

@[simp] theorem run_nil (step : l → σ → σ) (s : σ) : run step [] s = s := rfl

@[simp] theorem run_cons (step : l → σ → σ) (a : l) (as : List l) (s : σ) :
    run step (a :: as) s = run step as (step a s) := rfl

theorem run_append (step : l → σ → σ) :
    ∀ (as bs : List l) (s : σ), run step (as ++ bs) s = run step bs (run step as s)
  | [], _, _ => rfl
  | a :: as, bs, s => run_append step as bs (step a s)

@[simp] theorem along_nil (step : l → σ → σ) (C : σ → l → Prop) (s : σ) :
    Along step C [] s := trivial

@[simp] theorem along_cons (step : l → σ → σ) (C : σ → l → Prop) (a : l)
    (as : List l) (s : σ) :
    Along step C (a :: as) s ↔ C s a ∧ Along step C as (step a s) := Iff.rfl

theorem along_append (step : l → σ → σ) (C : σ → l → Prop) :
    ∀ (as bs : List l) (s : σ),
      Along step C (as ++ bs) s ↔ Along step C as s ∧ Along step C bs (run step as s)
  | [], _, _ => by simp
  | a :: as, bs, s => by
      simp only [List.cons_append, along_cons, run_cons]
      rw [along_append step C as bs (step a s), and_assoc]

/-- A condition that can be tested on a step can be tested along a run. -/
instance decidableAlong {step : l → σ → σ} {C : σ → l → Prop} [∀ s a, Decidable (C s a)] :
    ∀ (as : List l) (s : σ), Decidable (Along step C as s)
  | [], _ => isTrue trivial
  | a :: as, s =>
      have : Decidable (Along step C as (step a s)) := decidableAlong as (step a s)
      inferInstanceAs (Decidable (_ ∧ _))

/-! ## §2. Invariants over whole runs. -/

/-- **The invariant rule**: what every step preserves, every run preserves. -/
theorem run_invariant {step : l → σ → σ} {I : σ → Prop}
    (hstep : ∀ s a, I s → I (step a s)) :
    ∀ (as : List l) (s : σ), I s → I (run step as s)
  | [], _, h => h
  | a :: as, s, h => run_invariant hstep as (step a s) (hstep s a h)

/-- **The conditional invariant rule**: a step need only preserve `I` where
it meets the condition `C`. -/
theorem run_invariant_along {step : l → σ → σ} {I : σ → Prop} {C : σ → l → Prop}
    (hstep : ∀ s a, I s → C s a → I (step a s)) :
    ∀ (as : List l) (s : σ), I s → Along step C as s → I (run step as s)
  | [], _, h, _ => h
  | a :: as, s, h, hc =>
      run_invariant_along hstep as (step a s) (hstep s a h hc.1) hc.2

/-! ## §3. Simulation. -/

/-- **Step-by-run simulation**: if every step of the first system is matched,
from related states, by a run of the second that ends in related states, so
is every run of the first. -/
theorem run_simulates {step : l → σ → σ} {step' : m → τ → τ} {R : σ → τ → Prop}
    (hstep : ∀ s t a, R s t → ∃ bs : List m, R (step a s) (run step' bs t)) :
    ∀ (as : List l) (s : σ) (t : τ), R s t →
      ∃ bs : List m, R (run step as s) (run step' bs t) := by
  intro as
  induction as with
  | nil => intro s t h; exact ⟨[], h⟩
  | cons a as ih =>
      intro s t h
      obtain ⟨bs, hbs⟩ := hstep s t a h
      obtain ⟨cs, hcs⟩ := ih (step a s) (run step' bs t) hbs
      exact ⟨bs ++ cs, by rw [run_append]; exact hcs⟩

/-! ## §4. Reachability. -/

/-- Some run leads from `s` to `t`. -/
def Reaches (step : l → σ → σ) (s t : σ) : Prop := ∃ as, run step as s = t

theorem Reaches.refl (step : l → σ → σ) (s : σ) : Reaches step s s := ⟨[], rfl⟩

theorem Reaches.trans {step : l → σ → σ} {s t u : σ} :
    Reaches step s t → Reaches step t u → Reaches step s u := by
  rintro ⟨as, rfl⟩ ⟨bs, rfl⟩
  exact ⟨as ++ bs, run_append step as bs s⟩

/-- One more step at the start. -/
theorem Reaches.head {step : l → σ → σ} {s t : σ} (a : l) (h : Reaches step (step a s) t) :
    Reaches step s t := by
  obtain ⟨as, rfl⟩ := h
  exact ⟨a :: as, rfl⟩

end EventCart.Lib
