/-
  EventCart.Lib.Refinement
  ────────────────────────
  **ONE SYSTEM REFINES ANOTHER.**

  A view takes the states of a concrete system to those of an abstract one.
  Where every concrete step looks like one abstract step or like none, a
  concrete run looks like the run of the abstract steps it performs.

    • `Performs`    — the abstract steps that a concrete run performs,
    • `run_refines` — the refinement rule, under an invariant of the concrete
                      system.
-/
import EventCart.Lib.Runs

namespace EventCart.Lib

variable {σ τ l m : Type}

/-- What the run of `as` from `s` performs, step by step: `Does s a b` says
that the concrete step `a` from `s` may perform the abstract step `b`. -/
inductive Performs (step : l → σ → σ) (Does : σ → l → m → Prop) :
    σ → List l → List m → Prop where
  | done (s : σ) : Performs step Does s [] []
  | silent {s : σ} {a : l} {as : List l} {bs : List m}
      (rest : Performs step Does (step a s) as bs) : Performs step Does s (a :: as) bs
  | visible {s : σ} {a : l} {b : m} {as : List l} {bs : List m} (does : Does s a b)
      (rest : Performs step Does (step a s) as bs) : Performs step Does s (a :: as) (b :: bs)

/-- **The refinement rule**: if, under the invariant, every concrete step is
invisible or does one abstract step that is possible, a concrete run does an
abstract run that is possible. -/
theorem run_refines {step : l → σ → σ} {act : m → τ → τ} {view : σ → τ} {I : σ → Prop}
    {Does : σ → l → m → Prop} {Can : τ → m → Prop} (hinv : ∀ s a, I s → I (step a s))
    (hstep : ∀ s a, I s → view (step a s) = view s
      ∨ ∃ b, Does s a b ∧ Can (view s) b ∧ view (step a s) = act b (view s)) :
    ∀ (as : List l) (s : σ), I s → ∃ bs, Performs step Does s as bs
      ∧ Along act Can bs (view s) ∧ run act bs (view s) = view (run step as s) := by
  intro as
  induction as with
  | nil =>
      intro s _
      exact ⟨[], .done s, trivial, rfl⟩
  | cons a as ih =>
      intro s h
      obtain ⟨bs, hperforms, hcan, hrun⟩ := ih (step a s) (hinv s a h)
      rcases hstep s a h with hsame | ⟨b, hdoes, hb, hact⟩
      · rw [hsame] at hcan hrun
        exact ⟨bs, .silent hperforms, hcan, hrun⟩
      · rw [hact] at hcan hrun
        exact ⟨b :: bs, .visible hdoes hperforms, ⟨hb, hcan⟩, hrun⟩

end EventCart.Lib
