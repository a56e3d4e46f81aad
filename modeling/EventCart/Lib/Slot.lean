/-
  EventCart.Lib.Slot
  ──────────────────
  **ONE PRIMARY KEY UNDER READ COMMITTED.**

  What transactions can do to the row under one key of a table.  Others see
  the committed row; a transaction that inserted, updated or deleted the row
  holds it in a version of its own until it ends, and everybody else who wants
  to write it waits.  So there is at most one writer.

    • `free`    — nobody else is writing,
    • `version` — the row as a transaction's own statements find it,
    • `write`   — the writer's version (`none` is a deleted row),
    • `commit`, `release` — the end of a transaction.
-/
import Mathlib.Tactic.Common

namespace EventCart.Lib

/-- The row under a key, and the version of the transaction that is writing
it. -/
structure Slot (ι ρ : Type) where
  committed : Option ρ
  writer : Option (ι × Option ρ)

namespace Slot

variable {ι ρ : Type} [DecidableEq ι]

/-- Nobody else is writing the row. -/
def free (s : Slot ι ρ) (i : ι) : Bool := s.writer.all (·.1 = i)

/-- The row as the statements of `i` find it. -/
def version (s : Slot ι ρ) (i : ι) : Option ρ :=
  match s.writer with
  | some (j, row) => if j = i then row else s.committed
  | none => s.committed

def write (s : Slot ι ρ) (i : ι) (row : Option ρ) : Slot ι ρ :=
  { s with writer := some (i, row) }

/-- `COMMIT`. -/
def commit (s : Slot ι ρ) (i : ι) : Slot ι ρ :=
  match s.writer with
  | some (j, row) => if j = i then ⟨row, none⟩ else s
  | none => s

/-- `ROLLBACK`. -/
def release (s : Slot ι ρ) (i : ι) : Slot ι ρ :=
  match s.writer with
  | some (j, _) => if j = i then { s with writer := none } else s
  | none => s

variable {s : Slot ι ρ} {i j : ι} {row : Option ρ}

omit [DecidableEq ι] in
@[simp] theorem write_committed : (s.write i row).committed = s.committed := rfl

omit [DecidableEq ι] in
@[simp] theorem write_writer : (s.write i row).writer = some (i, row) := rfl

/-- A writer is alone. -/
theorem writer_of_free (free : s.free i = true) (h : s.writer = some (j, row)) : j = i := by
  unfold Slot.free at free
  rw [h] at free
  simpa using free

theorem commit_of_writer (h : s.writer = some (i, row)) : s.commit i = ⟨row, none⟩ := by
  unfold commit
  rw [h]
  simp

@[simp] theorem release_committed : (s.release i).committed = s.committed := by
  unfold release
  split
  · split <;> rfl
  · rfl

/-- A rollback takes one's own version away, and nobody else's. -/
theorem release_writer :
    (s.release i).writer = some (j, row) ↔ s.writer = some (j, row) ∧ j ≠ i := by
  unfold release
  cases hw : s.writer with
  | none => simp [hw]
  | some held =>
      obtain ⟨k, version⟩ := held
      by_cases hk : k = i
      · subst hk
        simp only [if_true, reduceCtorEq, Option.some.injEq, Prod.mk.injEq, false_iff, not_and,
          not_not]
        intro h
        exact h.1.symm
      · simp only [if_neg hk, hw, Option.some.injEq, Prod.mk.injEq, iff_self_and, and_imp]
        rintro rfl -
        exact hk

/-- Who is not writing finds the committed row. -/
theorem version_of_not_writer (h : ∀ row, s.writer ≠ some (i, row)) :
    s.version i = s.committed := by
  unfold version
  cases hw : s.writer with
  | none => rfl
  | some held =>
      obtain ⟨k, version⟩ := held
      have hk : k ≠ i := by
        rintro rfl
        exact h version hw
      simp [hk]

theorem version_of_writer (h : s.writer = some (i, row)) : s.version i = row := by
  unfold version
  rw [h]
  simp

end Slot

end EventCart.Lib
