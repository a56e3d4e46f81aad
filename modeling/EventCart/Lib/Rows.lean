/-
  EventCart.Lib.Rows
  ──────────────────
  **KEYED ROWS IN LISTS.**

  A table is a list of rows with a key that occurs at most once.  The lemmas
  say what the two writes of a mapped session do to it: an insert appends a
  row, an attribute assignment rewrites the row with one key and leaves key
  column and every other row alone.
-/
import Mathlib.Data.List.Nodup
import Mathlib.Algebra.BigOperators.Group.List.Basic
import Mathlib.Algebra.Order.Ring.Int

namespace EventCart.Lib

variable {ρ κ : Type} [DecidableEq κ]

/-! ## §1. Looking a row up. -/

omit [DecidableEq κ] in
/-- What a table maps a key to is one of its entries. -/
theorem mem_of_lookup [BEq κ] [LawfulBEq κ] {table : List (κ × ρ)} {k : κ} {r : ρ}
    (h : table.lookup k = some r) : (k, r) ∈ table := by
  obtain ⟨before, rest, htable, -⟩ := List.lookup_eq_some_iff.mp h
  rw [htable]
  exact List.mem_append_right before List.mem_cons_self

omit [DecidableEq κ] in
/-- Two rows with the same key are the same row. -/
theorem row_unique {key : ρ → κ} :
    ∀ {rows : List ρ}, (rows.map key).Nodup →
      ∀ {a b : ρ}, a ∈ rows → b ∈ rows → key a = key b → a = b := by
  intro rows hnd a b ha hb hab
  exact List.inj_on_of_nodup_map hnd ha hb hab

/-- A keyed row is the one its key finds. -/
theorem find_row {key : ρ → κ} {rows : List ρ} (hnd : (rows.map key).Nodup) {a : ρ}
    (ha : a ∈ rows) : rows.find? (fun r => key r = key a) = some a := by
  cases h : rows.find? (fun r => decide (key r = key a)) with
  | none =>
      have := List.find?_eq_none.mp h a ha
      simp at this
  | some b =>
      have hb : b ∈ rows := List.mem_of_find?_eq_some h
      have hkey : key b = key a := by simpa using List.find?_some h
      rw [row_unique hnd hb ha hkey]

/-- A key finds one row at most. -/
theorem length_filter_le_one {key : ρ → κ} {rows : List ρ} (hnd : (rows.map key).Nodup) (k : κ) :
    (rows.filter (key · = k)).length ≤ 1 := by
  have hcount : (rows.map key).count k = (rows.filter (key · = k)).length := by
    rw [List.count_eq_countP, List.countP_map, List.countP_eq_length_filter]
    congr 1
  rw [← hcount]
  exact List.nodup_iff_count_le_one.mp hnd k

omit [DecidableEq κ] in
/-- In a list of at most one element all elements are the same. -/
theorem eq_of_mem_of_length_le_one {rows : List ρ} (h : rows.length ≤ 1) {a b : ρ}
    (ha : a ∈ rows) (hb : b ∈ rows) : a = b := by
  cases rows with
  | nil => exact nomatch ha
  | cons c rest =>
      rw [List.length_cons] at h
      obtain rfl : rest = [] := List.length_eq_zero_iff.mp (by omega)
      rw [List.mem_singleton.mp ha, List.mem_singleton.mp hb]

/-- A list without repetitions whose elements are all the same has one. -/
theorem length_eq_one_of_unique {rows : List ρ} (nodup : rows.Nodup) {a : ρ} (ha : a ∈ rows)
    (unique : ∀ b ∈ rows, b = a) : rows.length = 1 := by
  cases rows with
  | nil => exact nomatch ha
  | cons c rest =>
      cases rest with
      | nil => rfl
      | cons d rest =>
          have hcd : c = d := (unique c (by simp)).trans (unique d (by simp)).symm
          rw [hcd] at nodup
          exact absurd List.mem_cons_self (List.nodup_cons.mp nodup).1

omit [DecidableEq κ] in
/-- A row with a new key can be inserted. -/
theorem nodup_insert {key : ρ → κ} {rows : List ρ} (hnd : (rows.map key).Nodup) {row : ρ}
    (fresh : ∀ other ∈ rows, key other ≠ key row) : ((rows ++ [row]).map key).Nodup := by
  rw [List.map_append, List.nodup_append]
  refine ⟨hnd, List.nodup_singleton _, ?_⟩
  intro a ha b hb
  obtain ⟨other, hother, rfl⟩ := List.mem_map.mp ha
  rw [List.map_singleton, List.mem_singleton] at hb
  rw [hb]
  exact fresh other hother

omit [DecidableEq κ] in
/-- Rows that could be appended have none of the keys that were there. -/
theorem apart_of_nodup {key : ρ → κ} {rows new : List ρ} (h : ((rows ++ new).map key).Nodup) :
    ∀ old ∈ rows, ∀ row ∈ new, key old ≠ key row := by
  rw [List.map_append, List.nodup_append] at h
  intro old hold row hrow
  exact h.2.2 _ (List.mem_map_of_mem hold) _ (List.mem_map_of_mem hrow)

omit [DecidableEq κ] in
/-- A row that could be inserted has a new key. -/
theorem fresh_of_nodup {key : ρ → κ} {rows : List ρ} {row : ρ}
    (h : ((rows ++ [row]).map key).Nodup) : ∀ old ∈ rows, key old ≠ key row :=
  fun old hold => apart_of_nodup h old hold row (List.mem_singleton.mpr rfl)

/-- Insert a row unless its key is taken. -/
def insertNew (key : ρ → κ) (rows : List ρ) (row : ρ) : List ρ :=
  if rows.any (fun other => key other = key row) then rows else rows ++ [row]

theorem nodup_insertNew {key : ρ → κ} {rows : List ρ} (hnd : (rows.map key).Nodup) (row : ρ) :
    ((insertNew key rows row).map key).Nodup := by
  unfold insertNew
  split
  next => exact hnd
  next hnew =>
    refine nodup_insert hnd fun other hother heq => hnew ?_
    exact List.any_eq_true.mpr ⟨other, hother, decide_eq_true heq⟩

/-- **Inserting many rows** in turn: every key is there once, with a row that
was there or was to be inserted. -/
theorem foldl_insertNew {key : ρ → κ} : ∀ (new : List ρ) {rows : List ρ},
    (rows.map key).Nodup →
      ((new.foldl (insertNew key) rows).map key).Nodup
        ∧ (∀ row ∈ new.foldl (insertNew key) rows, row ∈ rows ∨ row ∈ new)
        ∧ ∀ row, row ∈ rows ∨ row ∈ new →
            ∃ kept ∈ new.foldl (insertNew key) rows, key kept = key row := by
  intro new
  induction new with
  | nil =>
      intro rows hnd
      exact ⟨hnd, fun row mem => .inl mem, fun row mem =>
        ⟨row, mem.resolve_right List.not_mem_nil, rfl⟩⟩
  | cons first new ih =>
      intro rows hnd
      obtain ⟨hnodup, hfrom, hkept⟩ := ih (nodup_insertNew hnd first)
      -- the first row, or an earlier one with its key, is in the table now
      have hold : ∀ row ∈ rows, row ∈ insertNew key rows first := by
        intro row mem
        unfold insertNew
        split
        · exact mem
        · exact List.mem_append_left _ mem
      have hfirst : ∃ row ∈ insertNew key rows first, key row = key first := by
        unfold insertNew
        split
        next hany =>
          obtain ⟨row, mem, heq⟩ := List.any_eq_true.mp hany
          exact ⟨row, mem, of_decide_eq_true heq⟩
        next => exact ⟨first, List.mem_append_right _ (List.mem_singleton.mpr rfl), rfl⟩
      have hback : ∀ row ∈ insertNew key rows first, row ∈ rows ∨ row = first := by
        intro row mem
        unfold insertNew at mem
        split at mem
        · exact .inl mem
        · rcases List.mem_append.mp mem with mem | mem
          · exact .inl mem
          · exact .inr (List.mem_singleton.mp mem)
      refine ⟨hnodup, fun row mem => ?_, fun row mem => ?_⟩
      · rcases hfrom row mem with mem | mem
        · rcases hback row mem with mem | rfl
          · exact .inl mem
          · exact .inr List.mem_cons_self
        · exact .inr (List.mem_cons_of_mem _ mem)
      · rcases mem with mem | mem
        · exact hkept row (.inl (hold row mem))
        · rcases List.mem_cons.mp mem with rfl | mem
          · obtain ⟨other, hother, hkey⟩ := hfirst
            obtain ⟨kept, hmem, heq⟩ := hkept other (.inl hother)
            exact ⟨kept, hmem, heq.trans hkey⟩
          · exact hkept row (.inr mem)

/-! ## §2. Rewriting one row. -/

omit [DecidableEq κ] in
/-- Rows next to their new versions. -/
theorem zip_map_self {α : Type} (f : ρ → α) (rows : List ρ) :
    rows.zip (rows.map f) = rows.map fun r => (r, f r) := by
  have hzip : (rows.map id).zip (rows.map f) = rows.map fun r => (id r, f r) := List.zip_map'
  rw [List.map_id] at hzip
  exact hzip

/-- The rows with `f` applied to the one under key `k`. -/
def update (key : ρ → κ) (k : κ) (f : ρ → ρ) (rows : List ρ) : List ρ :=
  rows.map fun r => if key r = k then f r else r

/-- An assignment that leaves the key column alone keeps it as it was. -/
theorem map_update_of_eq {α : Type} {key : ρ → κ} {k : κ} {f : ρ → ρ} {g : ρ → α}
    (h : ∀ r, key r = k → g (f r) = g r) (rows : List ρ) :
    (update key k f rows).map g = rows.map g := by
  unfold update
  rw [List.map_map]
  apply List.map_congr_left
  intro r _
  by_cases hr : key r = k
  · simp [hr, h r hr]
  · simp [hr]

/-- Filters that do not look at the assigned columns keep the same rows. -/
theorem filter_update_of_eq {key : ρ → κ} {k : κ} {f : ρ → ρ} {p : ρ → Bool}
    (h : ∀ r, key r = k → p (f r) = p r) (rows : List ρ) :
    (update key k f rows).filter p = update key k f (rows.filter p) := by
  unfold update
  rw [List.filter_map]
  congr 1
  apply List.filter_congr
  intro r _
  by_cases hr : key r = k
  · simp [hr, h r hr]
  · simp [hr]

theorem mem_update {key : ρ → κ} {k : κ} {f : ρ → ρ} {rows : List ρ} {a : ρ} :
    a ∈ update key k f rows ↔
      (∃ r ∈ rows, key r = k ∧ a = f r) ∨ (a ∈ rows ∧ key a ≠ k) := by
  unfold update
  rw [List.mem_map]
  constructor
  · rintro ⟨r, hr, rfl⟩
    by_cases hk : key r = k
    · exact .inl ⟨r, hr, hk, by simp [hk]⟩
    · exact .inr ⟨by simpa [hk] using hr, by simp [hk]⟩
  · rintro (⟨r, hr, hk, rfl⟩ | ⟨ha, hk⟩)
    · exact ⟨r, hr, by simp [hk]⟩
    · exact ⟨a, ha, by simp [hk]⟩

/-- Assignments that agree on the row under the key. -/
theorem update_congr {key : ρ → κ} {k : κ} {f g : ρ → ρ} {rows : List ρ}
    (h : ∀ r ∈ rows, key r = k → f r = g r) : update key k f rows = update key k g rows := by
  unfold update
  apply List.map_congr_left
  intro r hr
  by_cases hk : key r = k
  · simp [hk, h r hr hk]
  · simp [hk]

/-- No row has the key: nothing changes. -/
theorem update_of_absent {key : ρ → κ} {k : κ} {f : ρ → ρ} {rows : List ρ}
    (h : ∀ r ∈ rows, key r ≠ k) : update key k f rows = rows := by
  unfold update
  rw [List.map_congr_left (g := id), List.map_id]
  intro r hr
  simp [h r hr]

/-- A change and the change back. -/
theorem update_update_cancel {key : ρ → κ} {k : κ} {f g : ρ → ρ} {rows : List ρ}
    (hkey : ∀ r ∈ rows, key r = k → key (f r) = k) (hback : ∀ r ∈ rows, key r = k → g (f r) = r) :
    update key k g (update key k f rows) = rows := by
  unfold update
  rw [List.map_map]
  refine (List.map_congr_left fun r mem => ?_).trans (List.map_id rows)
  by_cases hr : key r = k
  · simp [hr, hkey r mem hr, hback r mem hr]
  · simp [hr]

/-- Counting follows a change of one row. -/
theorem countP_update {key : ρ → κ} {k : κ} {f : ρ → ρ} {p : ρ → Bool} {a : ρ} :
    ∀ {rows : List ρ}, (rows.map key).Nodup → a ∈ rows → key a = k →
      (update key k f rows).countP p + (if p a then 1 else 0)
        = rows.countP p + (if p (f a) then 1 else 0)
  | [], _, ha, _ => nomatch ha
  | r :: rows, hnd, ha, hk => by
      obtain ⟨hr, hnd⟩ := List.nodup_cons.mp hnd
      show ((if key r = k then f r else r) :: update key k f rows).countP p + _ = _
      rw [List.countP_cons, List.countP_cons]
      rcases List.mem_cons.mp ha with rfl | ha
      · have hrest : update key k f rows = rows :=
          update_of_absent fun b hb hbk => hr (List.mem_map.mpr ⟨b, hb, hbk.trans hk.symm⟩)
        rw [hrest, if_pos hk]
        omega
      · have hne : key r ≠ k := fun h =>
          hr (List.mem_map.mpr ⟨a, ha, hk.trans h.symm⟩)
        rw [if_neg hne]
        have ih := countP_update (f := f) (p := p) hnd ha hk
        omega

/-! ## §3. Sums over keys. -/

/-- A sum over rows follows a change of one of them. -/
theorem sum_update {key : ρ → κ} {k : κ} {f : ρ → ρ} {cost cost' : ρ → Nat} {a : ρ} :
    ∀ {rows : List ρ}, (rows.map key).Nodup → a ∈ rows → key a = k →
      (∀ r ∈ rows, key r ≠ k → cost' r = cost r) →
      ((update key k f rows).map cost').sum + cost a = (rows.map cost).sum + cost' (f a)
  | [], _, ha, _, _ => nomatch ha
  | r :: rows, hnd, ha, hk, hcost => by
      obtain ⟨hr, hnd⟩ := List.nodup_cons.mp hnd
      show (((if key r = k then f r else r) :: update key k f rows).map cost').sum + _ = _
      rw [List.map_cons, List.map_cons, List.sum_cons, List.sum_cons]
      rcases List.mem_cons.mp ha with rfl | ha
      · have hother : ∀ b ∈ rows, key b ≠ k := fun b hb hbk =>
          hr (List.mem_map.mpr ⟨b, hb, hbk.trans hk.symm⟩)
        have hrest : rows.map cost' = rows.map cost :=
          List.map_congr_left fun b hb => hcost b (List.mem_cons_of_mem _ hb) (hother b hb)
        rw [update_of_absent hother, hrest, if_pos hk]
        omega
      · have hne : key r ≠ k := fun h =>
          hr (List.mem_map.mpr ⟨a, ha, hk.trans h.symm⟩)
        have ih := sum_update (f := f) hnd ha hk fun b hb => hcost b (List.mem_cons_of_mem _ hb)
        rw [if_neg hne, hcost r List.mem_cons_self hne]
        omega

omit [DecidableEq κ] in
/-- A sum over distinct keys follows a change at one of them. -/
theorem sum_map_change {f g : κ → Int} {k : κ} :
    ∀ {keys : List κ}, keys.Nodup → k ∈ keys → (∀ k', k' ≠ k → f k' = g k') →
      (keys.map f).sum = (keys.map g).sum + (f k - g k)
  | [], _, hk, _ => nomatch hk
  | a :: keys, hnd, hk, h => by
      obtain ⟨ha, hnd⟩ := List.nodup_cons.mp hnd
      rw [List.map_cons, List.map_cons, List.sum_cons, List.sum_cons]
      by_cases hak : a = k
      · subst hak
        have hrest : keys.map f = keys.map g :=
          List.map_congr_left fun b hb => h b fun hba => ha (hba ▸ hb)
        rw [hrest]
        omega
      · have hk : k ∈ keys := (List.mem_cons.mp hk).resolve_left (Ne.symm hak)
        rw [sum_map_change hnd hk h, h a hak]
        omega

/-- A sum over the rows that pass a test. -/
theorem sum_map_filter {α : Type} (p : α → Bool) (f : α → Int) :
    ∀ rows : List α,
      ((rows.filter p).map f).sum = (rows.map fun r => if p r then f r else 0).sum
  | [] => rfl
  | r :: rows => by
      rw [List.map_cons, List.sum_cons, ← sum_map_filter p f rows]
      cases hp : p r with
      | true => rw [List.filter_cons_of_pos hp, List.map_cons, List.sum_cons, if_pos rfl]
      | false =>
          rw [List.filter_cons_of_neg (by simp [hp]), if_neg (by decide), Int.zero_add]

/-- **Partition**: a sum over rows is the sum over their keys of what the rows
under each key add up to. -/
theorem sum_map_partition {key : ρ → κ} (f : ρ → Int) {keys : List κ} (nodup : keys.Nodup) :
    ∀ {rows : List ρ}, (∀ r ∈ rows, key r ∈ keys) →
      (rows.map f).sum = (keys.map fun k => ((rows.filter (key · = k)).map f).sum).sum
  | [], _ => by
      rw [List.map_nil, List.sum_nil]
      exact (List.sum_eq_zero fun n hn => by
        obtain ⟨k, -, rfl⟩ := List.mem_map.mp hn
        rfl).symm
  | r :: rows, h => by
      have ih := sum_map_partition f nodup fun r' hr' => h r' (List.mem_cons_of_mem _ hr')
      -- the new row counts under its own key only
      have hother : ∀ k, k ≠ key r →
          (((r :: rows).filter (key · = k)).map f).sum = ((rows.filter (key · = k)).map f).sum := by
        intro k hk
        rw [List.filter_cons_of_neg (by simpa using Ne.symm hk)]
      have hown : (((r :: rows).filter (key · = key r)).map f).sum
          = f r + ((rows.filter (key · = key r)).map f).sum := by
        rw [List.filter_cons_of_pos (by simp), List.map_cons, List.sum_cons]
      rw [sum_map_change nodup (h r List.mem_cons_self) hother, hown, ← ih, List.map_cons,
        List.sum_cons]
      omega

end EventCart.Lib
