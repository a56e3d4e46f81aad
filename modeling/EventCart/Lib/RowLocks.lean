/-
  EventCart.Lib.RowLocks
  ──────────────────────
  **CONCURRENT TRANSACTIONS THAT WRITE WHAT THEY READ.**

  Sessions over one table of keyed rows.  A session loads the committed rows,
  computes new versions of some of them from what it loaded, sends one UPDATE
  for each, and commits.  An UPDATE takes the lock of its row and waits while
  another open session has it; locks go when the session ends.  This is READ
  COMMITTED: the load sees what is committed at that moment, nothing keeps
  others from committing a new version before the UPDATE, and the UPDATE
  writes the computed version over whatever it finds.

    • `step`           — one load, UPDATE, COMMIT or end of a session,
    • `current`        — an UPDATE replaces the version its session loaded,
    • `no_update_lost` — in a run whose UPDATEs all do so, every committed
                         effect is applied once, in the order of the commits.
-/
import EventCart.Lib.Rows
import EventCart.Lib.Runs

namespace EventCart.Lib

/-- What the sessions of a family do.  `plan` is what a session makes of the
rows it loads: a result `a`, and the changed rows in their old and new
version, or nothing when it gives up.  `effect a` is what a committed result
means for a row. -/
structure Sessions (ι ρ κ α : Type) where
  key : ρ → κ
  effect : α → ρ → ρ
  plan : ι → List ρ → Option (α × List (ρ × ρ))
  key_effect : ∀ a r, key (effect a r) = key r
  /-- A planned change is the effect of the result on the loaded row. -/
  change_eq : ∀ i rows a changes, plan i rows = some (a, changes) →
    ∀ c ∈ changes, c.2 = effect a c.1
  /-- A row without a planned change is one the result does not affect, in
  any version. -/
  unchanged : ∀ i rows a changes, plan i rows = some (a, changes) →
    ∀ r ∈ rows, (∀ c ∈ changes, key c.1 ≠ key r) → ∀ r', key r' = key r → effect a r' = r'

/-- Where a session stands. -/
inductive SessionPhase (ρ α : Type) where
  | idle
  /-- Its objects are computed; some of the changes may be written. -/
  | active (result : α) (changes : List (ρ × ρ))
  | closed

/-- The committed rows, the sessions, the row locks they hold, and the
results committed so far. -/
structure Shared (ι ρ κ α : Type) where
  rows : List ρ
  phase : ι → SessionPhase ρ α
  locks : List (κ × ι)
  log : List α

/-- A statement of a session. -/
inductive Statement (ι κ : Type) where
  | load (i : ι)
  /-- The UPDATE of the row under a key. -/
  | update (i : ι) (k : κ)
  | commit (i : ι)
  /-- A rollback, a deadlock's victim, a crash. -/
  | abort (i : ι)

variable {ι ρ κ α : Type}

/-- Nobody has written to a row yet. -/
def Shared.start (rows : List ρ) : Shared ι ρ κ α := ⟨rows, fun _ => .idle, [], []⟩

/-! ## §1. The invariant. -/

namespace Sessions

section invariant
variable (S : Sessions ι ρ κ α)

/-- A row after a list of committed results. -/
def replay (log : List α) (r : ρ) : ρ := log.foldl (fun r a => S.effect a r) r

theorem key_replay : ∀ (log : List α) (r : ρ), S.key (S.replay log r) = S.key r
  | [], _ => rfl
  | a :: log, r => by
      show S.key (S.replay log (S.effect a r)) = S.key r
      rw [key_replay log, S.key_effect]

theorem replay_append (log : List α) (a : α) (r : ρ) :
    S.replay (log ++ [a]) r = S.effect a (S.replay log r) := by
  unfold replay
  rw [List.foldl_append]
  rfl

/-- What holds between the statements of a run that loses nothing. -/
structure Inv (rows₀ : List ρ) (s : Shared ι ρ κ α) : Prop where
  /-- Every committed result is in the rows, once. -/
  rows : s.rows = rows₀.map (S.replay s.log)
  /-- An open session planned its changes on some version of the rows. -/
  planned : ∀ i result changes, s.phase i = .active result changes →
    ∃ snapshot, snapshot.map S.key = rows₀.map S.key
      ∧ S.plan i snapshot = some (result, changes)
  /-- A locked row is still what the session that locked it loaded. -/
  locked : ∀ k i, (k, i) ∈ s.locks → ∃ result changes, s.phase i = .active result changes
    ∧ ∀ c ∈ changes, S.key c.1 = k → c.1 ∈ s.rows
  exclusive : (s.locks.map Prod.fst).Nodup

theorem start_inv (rows₀ : List ρ) : S.Inv rows₀ (Shared.start rows₀ : Shared ι ρ κ α) where
  rows := by
    have hid : (S.replay [] : ρ → ρ) = id := rfl
    show rows₀ = rows₀.map (S.replay [])
    rw [hid, List.map_id]
  planned i result changes h := by cases h
  locked k i h := by cases h
  exclusive := List.nodup_nil

variable {S} {rows₀ : List ρ} {s : Shared ι ρ κ α}

theorem Inv.keys (h : S.Inv rows₀ s) : s.rows.map S.key = rows₀.map S.key := by
  rw [h.rows, List.map_map]
  apply List.map_congr_left
  intro r _
  exact S.key_replay s.log r

/-- Two holders of one lock are one session. -/
theorem Inv.holder_unique (h : S.Inv rows₀ s) {k : κ} {i j : ι} (hi : (k, i) ∈ s.locks)
    (hj : (k, j) ∈ s.locks) : i = j := by
  have hpair := List.inj_on_of_nodup_map h.exclusive hi hj rfl
  exact congrArg Prod.snd hpair

end invariant

end Sessions

/-! ## §2. Sessions that move on and end. -/

variable [DecidableEq ι]

/-- The session moves to another phase. -/
def Shared.move (s : Shared ι ρ κ α) (i : ι) (p : SessionPhase ρ α) : Shared ι ρ κ α :=
  { s with phase := fun j => if j = i then p else s.phase j }

/-- The session ends and gives up its locks. -/
def Shared.finish (s : Shared ι ρ κ α) (i : ι) : Shared ι ρ κ α :=
  { s.move i .closed with locks := s.locks.filter (·.2 ≠ i) }

namespace Sessions

section invariant
variable {S : Sessions ι ρ κ α} {rows₀ : List ρ} {s : Shared ι ρ κ α}

/-- A session that has locked nothing may move on. -/
theorem Inv.move (h : S.Inv rows₀ s) {i : ι} {p : SessionPhase ρ α}
    (unlocked : ∀ k, (k, i) ∉ s.locks)
    (planned : ∀ result changes, p = .active result changes →
      ∃ snapshot, snapshot.map S.key = rows₀.map S.key
        ∧ S.plan i snapshot = some (result, changes)) : S.Inv rows₀ (s.move i p) where
  rows := h.rows
  planned j result changes hj := by
    by_cases hji : j = i
    · subst hji
      have hp : p = .active result changes := by simpa [Shared.move] using hj
      exact planned result changes hp
    · have hj' : s.phase j = .active result changes := by simpa [Shared.move, hji] using hj
      exact h.planned j result changes hj'
  locked k j hk := by
    obtain ⟨result, changes, hphase, hrows⟩ := h.locked k j hk
    have hji : j ≠ i := fun hji => unlocked k (hji ▸ hk)
    exact ⟨result, changes, by simpa [Shared.move, hji] using hphase, hrows⟩
  exclusive := h.exclusive

/-- **The end of a session** frees its rows and nobody else's. -/
theorem Inv.finish (h : S.Inv rows₀ s) (i : ι) : S.Inv rows₀ (s.finish i) where
  rows := h.rows
  planned j result changes hj := by
    by_cases hji : j = i
    · simp [Shared.finish, Shared.move, hji] at hj
    · have hj' : s.phase j = .active result changes := by
        simpa [Shared.finish, Shared.move, hji] using hj
      exact h.planned j result changes hj'
  locked k j hk := by
    obtain ⟨hk, hji⟩ := List.mem_filter.mp hk
    have hji : j ≠ i := by simpa using hji
    obtain ⟨result, changes, hphase, hrows⟩ := h.locked k j hk
    exact ⟨result, changes, by simpa [Shared.finish, Shared.move, hji] using hphase, hrows⟩
  exclusive := h.exclusive.sublist (List.filter_sublist.map Prod.fst)

end invariant

end Sessions

/-! ## §3. Runs of statements. -/

variable [DecidableEq ρ] [DecidableEq κ]

/-- No open transaction has written the row. -/
def Shared.free (s : Shared ι ρ κ α) (k : κ) : Bool := s.locks.all (·.1 ≠ k)

namespace Sessions

variable (S : Sessions ι ρ κ α)

/-- The version of a row after the changes are written. -/
def replaced (changes : List (ρ × ρ)) (r : ρ) : ρ :=
  ((changes.find? (S.key ·.1 = S.key r)).map Prod.snd).getD r

/-- **One statement.**  What is not enabled waits and changes nothing. -/
def step : Statement ι κ → Shared ι ρ κ α → Shared ι ρ κ α
  | .load i, s =>
      match s.phase i with
      | .idle =>
          match S.plan i s.rows with
          | some (result, changes) => s.move i (.active result changes)
          | none => s.finish i
      | _ => s
  | .update i k, s =>
      match s.phase i with
      | .active _ changes =>
          if changes.any (S.key ·.1 = k) && s.free k then { s with locks := (k, i) :: s.locks }
          else s
      | _ => s
  | .commit i, s =>
      match s.phase i with
      | .active result changes =>
          if changes.all fun c => (S.key c.1, i) ∈ s.locks then
            { s.finish i with
              rows := s.rows.map (S.replaced changes)
              log := s.log ++ [result] }
          else s
      | _ => s
  | .abort i, s => s.finish i

/-- If the statement is an UPDATE that goes through, the committed row is the
one its session loaded. -/
def current (s : Shared ι ρ κ α) : Statement ι κ → Bool
  | .update i k =>
      match s.phase i with
      | .active _ changes =>
          !s.free k || changes.all fun c => S.key c.1 ≠ k || c.1 ∈ s.rows
      | _ => true
  | _ => true

section invariant
variable {S} {rows₀ : List ρ} {s : Shared ι ρ κ α}

omit [DecidableEq ι] [DecidableEq ρ] in
/-- A session that wrote all its changes replaces each row by its effect. -/
theorem Inv.replaced_eq (keyed : (rows₀.map S.key).Nodup) (h : S.Inv rows₀ s) {i : ι}
    {result : α} {changes : List (ρ × ρ)} (hphase : s.phase i = .active result changes)
    (written : ∀ c ∈ changes, (S.key c.1, i) ∈ s.locks) {r : ρ} (hr : r ∈ s.rows) :
    S.replaced changes r = S.effect result r := by
  obtain ⟨snapshot, hkeys, hplan⟩ := h.planned i result changes hphase
  unfold replaced
  cases hfind : changes.find? (S.key ·.1 = S.key r) with
  | some c =>
      -- the change was computed from the committed version, so it is the row's effect
      have hc : c ∈ changes := List.mem_of_find?_eq_some hfind
      have hkey : S.key c.1 = S.key r := by simpa using List.find?_some hfind
      obtain ⟨result', changes', hphase', hrows⟩ := h.locked _ _ (written c hc)
      rw [hphase, SessionPhase.active.injEq] at hphase'
      obtain ⟨-, rfl⟩ := hphase'
      have hrow : c.1 = r := row_unique (h.keys ▸ keyed) (hrows c hc rfl) hr hkey
      show c.2 = _
      rw [S.change_eq i snapshot result changes hplan c hc, hrow]
  | none =>
      have hmem : S.key r ∈ snapshot.map S.key := by
        rw [hkeys, ← h.keys]
        exact List.mem_map_of_mem hr
      obtain ⟨r₀, hr₀, hkey⟩ := List.mem_map.mp hmem
      refine (S.unchanged i snapshot result changes hplan r₀ hr₀ ?_ r hkey.symm).symm
      intro c hc hck
      have hnot := List.find?_eq_none.mp hfind c hc
      simp [hck.trans hkey] at hnot

omit [DecidableEq ρ] in
/-- **A commit applies its effect once**: to every row, on top of everything
committed before, and it leaves the rows other sessions have locked alone. -/
theorem Inv.commit (keyed : (rows₀.map S.key).Nodup) (h : S.Inv rows₀ s) {i : ι} {result : α}
    {changes : List (ρ × ρ)} (hphase : s.phase i = .active result changes)
    (written : ∀ c ∈ changes, (S.key c.1, i) ∈ s.locks) :
    S.Inv rows₀ { s.finish i with
      rows := s.rows.map (S.replaced changes)
      log := s.log ++ [result] } := by
  have hrows : s.rows.map (S.replaced changes) = s.rows.map (S.effect result) :=
    List.map_congr_left fun r hr => h.replaced_eq keyed hphase written hr
  have hend := h.finish i
  refine ⟨?_, hend.planned, ?_, hend.exclusive⟩
  · show s.rows.map (S.replaced changes) = rows₀.map (S.replay (s.log ++ [result]))
    rw [hrows, h.rows, List.map_map]
    apply List.map_congr_left
    intro r _
    exact (S.replay_append s.log result r).symm
  · intro k j hk
    obtain ⟨result', changes', hphase', hloaded⟩ := hend.locked k j hk
    refine ⟨result', changes', hphase', fun c hc hck => ?_⟩
    have hmem : c.1 ∈ s.rows := hloaded c hc hck
    obtain ⟨hk, hji⟩ := List.mem_filter.mp hk
    have hji : j ≠ i := by simpa using hji
    -- the row is locked by `j`, so `i` has no change for it
    have hsame : S.effect result c.1 = c.1 := by
      obtain ⟨snapshot, hkeys, hplan⟩ := h.planned i result changes hphase
      have hkey : S.key c.1 ∈ snapshot.map S.key := by
        rw [hkeys, ← h.keys]
        exact List.mem_map_of_mem hmem
      obtain ⟨r₀, hr₀, hr₀k⟩ := List.mem_map.mp hkey
      refine S.unchanged i snapshot result changes hplan r₀ hr₀ ?_ c.1 hr₀k.symm
      intro c' hc' hkey'
      have hlock := written c' hc'
      rw [hkey', hr₀k, hck] at hlock
      exact hji (h.holder_unique hk hlock)
    show c.1 ∈ s.rows.map (S.replaced changes)
    rw [hrows]
    exact List.mem_map.mpr ⟨c.1, hmem, hsame⟩

/-- **Every statement of a current run keeps the invariant**, one case per
statement. -/
theorem step_inv (keyed : (rows₀.map S.key).Nodup) (h : S.Inv rows₀ s) (a : Statement ι κ)
    (hcurrent : S.current s a = true) : S.Inv rows₀ (S.step a s) := by
  cases a with
  | load i =>
      unfold step
      dsimp only
      split
      next hphase =>
        split
        next result changes hplan =>
          refine h.move (fun k hk => ?_) fun result' changes' hp => ?_
          · obtain ⟨_, _, hactive, -⟩ := h.locked k i hk
            rw [hphase] at hactive
            cases hactive
          · cases hp
            exact ⟨s.rows, h.keys, hplan⟩
        next => exact h.finish i
      next => exact h
  | update i k =>
      unfold step
      unfold current at hcurrent
      dsimp only at hcurrent ⊢
      split
      next result changes hphase =>
        rw [hphase] at hcurrent
        dsimp only at hcurrent
        split
        next hgo =>
          obtain ⟨-, hfree⟩ := Bool.and_eq_true_iff.mp hgo
          rw [hfree, Bool.not_true, Bool.false_or, List.all_eq_true] at hcurrent
          refine ⟨h.rows, h.planned, fun k' j hk => ?_, ?_⟩
          · rcases List.mem_cons.mp hk with hk | hk
            · obtain ⟨rfl, rfl⟩ := Prod.mk.inj hk
              refine ⟨result, changes, hphase, fun c hc hck => ?_⟩
              simpa [hck] using hcurrent c hc
            · exact h.locked k' j hk
          · show (k :: s.locks.map Prod.fst).Nodup
            refine List.nodup_cons.mpr ⟨fun hmem => ?_, h.exclusive⟩
            obtain ⟨lock, hlock, hkey⟩ := List.mem_map.mp hmem
            have hne := List.all_eq_true.mp hfree lock hlock
            simp [hkey] at hne
        next => exact h
      next => exact h
  | commit i =>
      unfold step
      dsimp only
      split
      next result changes hphase =>
        split
        next hall =>
          refine h.commit keyed hphase fun c hc => ?_
          simpa using List.all_eq_true.mp hall c hc
        next => exact h
      next => exact h
  | abort i => exact h.finish i

end invariant

omit [DecidableEq ρ] in
/-- Only a COMMIT adds to the log: the result of a session that has written
all its changes, and that it ends. -/
theorem step_log (a : Statement ι κ) (s : Shared ι ρ κ α) :
    (S.step a s).log = s.log
      ∨ ∃ i result changes, a = .commit i ∧ s.phase i = .active result changes
          ∧ (∀ c ∈ changes, (S.key c.1, i) ∈ s.locks)
          ∧ (S.step a s).log = s.log ++ [result] ∧ (S.step a s).phase i = .closed := by
  cases a with
  | load i =>
      left
      unfold step
      dsimp only
      split
      next => split <;> rfl
      next => rfl
  | update i k =>
      left
      unfold step
      dsimp only
      split
      next => split <;> rfl
      next => rfl
  | commit i =>
      cases hphase : s.phase i with
      | idle => exact .inl (by simp [step, hphase])
      | closed => exact .inl (by simp [step, hphase])
      | active result changes =>
          -- a COMMIT with a change not yet written does nothing
          by_cases hall : (changes.all fun c => (S.key c.1, i) ∈ s.locks) = true
          · refine .inr ⟨i, result, changes, rfl, hphase, fun c hc => ?_, ?_, ?_⟩
            · simpa using List.all_eq_true.mp hall c hc
            · simp only [step, hphase, hall, if_true]
            · simp [step, hphase, hall, Shared.finish, Shared.move]
          · exact .inl (by simp only [step, hphase, if_neg hall])
  | abort i => exact .inl rfl

omit [DecidableEq ρ] in
/-- A session that has ended stays so. -/
theorem step_closed (a : Statement ι κ) {s : Shared ι ρ κ α} {i : ι}
    (h : s.phase i = .closed) : (S.step a s).phase i = .closed := by
  -- another session's end is not this one's business
  have hfinish : ∀ j, (s.finish j).phase i = .closed := by
    intro j
    show (if i = j then _ else s.phase i) = _
    split
    · rfl
    · exact h
  cases a with
  | load j =>
      by_cases hj : i = j
      · subst hj
        simp [step, h]
      · unfold step
        dsimp only
        split
        next =>
          split
          · show (if i = j then _ else s.phase i) = _
            rw [if_neg hj]
            exact h
          · exact hfinish j
        next => exact h
  | update j k =>
      unfold step
      dsimp only
      split
      next => split <;> exact h
      next => exact h
  | commit j =>
      unfold step
      dsimp only
      split
      next =>
        split
        · exact hfinish j
        · exact h
      next => exact h
  | abort j => exact hfinish j

/-- **No update is lost** in a run whose UPDATEs replace the versions their
sessions loaded: the rows are the first rows with the effect of every
committed session applied once, in the order of the commits. -/
theorem no_update_lost {rows₀ : List ρ} (keyed : (rows₀.map S.key).Nodup)
    (statements : List (Statement ι κ))
    (h : Along S.step (fun s a => S.current s a = true) statements (Shared.start rows₀)) :
    (run S.step statements (Shared.start rows₀)).rows
      = rows₀.map (S.replay (run S.step statements (Shared.start rows₀)).log) := by
  refine (run_invariant_along (I := S.Inv rows₀) ?_ statements _ (S.start_inv rows₀) h).rows
  intro s a hinv hcurrent
  exact step_inv keyed hinv a hcurrent

end Sessions

end EventCart.Lib
