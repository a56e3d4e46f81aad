/-
  EventCart.Lib.DdlConstraints
  ────────────────────────────
  **CONSTRAINTS, AND TAKING BACK.**

  What a sound schema demands of the rows: every row has the cells of its
  table, required cells are not NULL, keys do not repeat, and what a foreign
  key refers to is there.

    §1  constraints;
    §2  a statement that is executed leaves them satisfied
        (`Satisfied.effect`);
    §3  what was built is taken back, row by row (`executeAll_undo`).
-/
import EventCart.Lib.DdlSound

namespace EventCart.Lib.Ddl

/-! ## §1. Constraints. -/

section constraints
variable {τ α : Type}

/-- The cell under a column. -/
def cell (row : Row α) (name : String) : Option α := (row.lookup name).join

def cells (row : Row α) (names : List String) : List (Option α) := names.map (cell row)

/-- The constraints on the rows of one table.  NULL is equal to nothing, so
rows with NULL in a unique constraint do not meet in it. -/
structure Table.Holds (t : Table τ α) : Prop where
  shaped : ∀ row ∈ t.rows, row.map Prod.fst = t.columnNames
  required : ∀ column ∈ t.columns, column.nullable = false →
    ∀ row ∈ t.rows, cell row column.name ≠ none
  primaryKey : t.primaryKey ≠ [] →
    (t.rows.map (cells · t.primaryKey)).Nodup ∧ ∀ row ∈ t.rows, none ∉ cells row t.primaryKey
  uniques : ∀ unique ∈ t.uniques, (t.rows.map (cells · unique.columns)).Pairwise fun key key' =>
    none ∈ key ∨ key ≠ key'

/-- The constraints of all tables. -/
structure Satisfied (tables : List (Table τ α)) : Prop where
  holds : ∀ t ∈ tables, t.Holds
  foreignKeys : ∀ t ∈ tables, ∀ fk ∈ t.foreignKeys, ∀ row ∈ t.rows, none ∉ cells row fk.columns →
    ∃ u ∈ tables, u.name = fk.table ∧ ∃ other ∈ u.rows, cells other fk.referred
      = cells row fk.columns

instance [DecidableEq α] (t : Table τ α) : Decidable t.Holds :=
  decidable_of_iff
    ((∀ row ∈ t.rows, row.map Prod.fst = t.columnNames)
      ∧ (∀ column ∈ t.columns, column.nullable = false →
          ∀ row ∈ t.rows, cell row column.name ≠ none)
      ∧ (t.primaryKey ≠ [] → (t.rows.map (cells · t.primaryKey)).Nodup
          ∧ ∀ row ∈ t.rows, none ∉ cells row t.primaryKey)
      ∧ ∀ unique ∈ t.uniques, (t.rows.map (cells · unique.columns)).Pairwise fun key key' =>
          none ∈ key ∨ key ≠ key')
    ⟨fun ⟨h₁, h₂, h₃, h₄⟩ => ⟨h₁, h₂, h₃, h₄⟩, fun ⟨h₁, h₂, h₃, h₄⟩ => ⟨h₁, h₂, h₃, h₄⟩⟩

instance [DecidableEq α] (tables : List (Table τ α)) : Decidable (Satisfied tables) :=
  decidable_of_iff
    ((∀ t ∈ tables, t.Holds)
      ∧ ∀ t ∈ tables, ∀ fk ∈ t.foreignKeys, ∀ row ∈ t.rows, none ∉ cells row fk.columns →
          ∃ u ∈ tables, u.name = fk.table ∧ ∃ other ∈ u.rows, cells other fk.referred
            = cells row fk.columns)
    ⟨fun ⟨h₁, h₂⟩ => ⟨h₁, h₂⟩, fun ⟨h₁, h₂⟩ => ⟨h₁, h₂⟩⟩

variable {tables : List (Table τ α)} {st : Statement τ α} {row : Row α}

theorem cell_append {name n : String} (hne : n ≠ name) (v : Option α) :
    cell (row ++ [(name, v)]) n = cell row n := by
  unfold cell
  rw [List.lookup_append]
  have hnone : [(name, v)].lookup n = none := by
    rw [List.lookup_eq_none_iff]
    intro member mem
    rw [List.mem_singleton.mp mem, bne_iff_ne]
    exact hne
  rw [hnone, Option.or_none]

theorem cell_append_self {name : String} (fresh : name ∉ row.map Prod.fst) (v : Option α) :
    cell (row ++ [(name, v)]) name = v := by
  have hnone : row.lookup name = none := by
    rw [List.lookup_eq_none_iff]
    intro member mem
    rw [bne_iff_ne]
    rintro rfl
    exact fresh (List.mem_map_of_mem mem)
  unfold cell
  rw [List.lookup_append, hnone, Option.none_or, List.lookup_cons_self]
  rfl

theorem cell_filter {column n : String} (hne : n ≠ column) :
    ∀ row : Row α, cell (row.filter (·.1 ≠ column)) n = cell row n
  | [] => rfl
  | (name, v) :: row => by
      have ih := cell_filter hne row
      unfold cell at ih ⊢
      by_cases hname : name = column
      · have hne' : (n == name) = false := beq_eq_false_iff_ne.mpr (hname ▸ hne)
        rw [List.filter_cons_of_neg (by simpa using hname), ih, List.lookup_cons, hne']
      · rw [List.filter_cons_of_pos (by simpa using hname), List.lookup_cons, List.lookup_cons]
        split
        next => rfl
        next => exact ih

theorem cells_congr {row row' : Row α} {names : List String}
    (h : ∀ n ∈ names, cell row' n = cell row n) : cells row' names = cells row names :=
  List.map_congr_left h

/-- Keys of rows whose cells under the key are the same. -/
theorem map_cells {rows : List (Row α)} {r : Row α → Row α} {names : List String}
    (h : ∀ row, ∀ n ∈ names, cell (r row) n = cell row n) :
    (rows.map r).map (cells · names) = rows.map (cells · names) := by
  rw [List.map_map]
  exact List.map_congr_left fun row _ => cells_congr (h row)

theorem mem_keyColumns_unique {d : Declaration τ α} {unique : Index} (mem : unique ∈ d.uniques)
    {n : String} (hn : n ∈ unique.columns) : n ∈ d.keyColumns :=
  List.mem_append_left _ (List.mem_append_right _ (List.mem_flatMap.mpr ⟨unique, mem, hn⟩))

theorem mem_keyColumns_foreign {d : Declaration τ α} {fk : ForeignKey} (mem : fk ∈ d.foreignKeys)
    {n : String} (hn : n ∈ fk.columns) : n ∈ d.keyColumns :=
  List.mem_append_right _ (List.mem_flatMap.mpr ⟨fk, mem, hn⟩)

/-! ## §2. Constraints before and after. -/

/-- A new column: the rows get its default, and none of them lacks a required
cell. -/
theorem Table.Holds.addColumn {t : Table τ α} (h : t.Holds)
    (keyed : ∀ n ∈ t.keyColumns, n ∈ t.columnNames) {column : Column τ α}
    (fresh : column.name ∉ t.columnNames)
    (fits : column.nullable = false → column.serverDefault ≠ none ∨ t.rows = []) :
    (t.addColumn column).Holds := by
  -- the old cells of a row are as they were
  have hcell : ∀ row : Row α, ∀ n ∈ t.columnNames,
      cell (row ++ [(column.name, column.serverDefault)]) n = cell row n :=
    fun row n hn => cell_append (fun heq : n = column.name => fresh (heq ▸ hn)) _
  refine ⟨?_, ?_, fun hkey => ?_, fun unique hunique => ?_⟩
  · intro row hrow
    obtain ⟨row, mem, rfl⟩ := List.mem_map.mp hrow
    rw [List.map_append, h.shaped row mem]
    show _ = (t.columns ++ [column]).map (·.name)
    rw [List.map_append]
    rfl
  · intro c hc hrequired row hrow
    obtain ⟨row, mem, rfl⟩ := List.mem_map.mp hrow
    rcases List.mem_append.mp hc with hc | hc
    · rw [hcell row c.name (List.mem_map_of_mem hc)]
      exact h.required c hc hrequired row mem
    · obtain rfl := List.mem_singleton.mp hc
      rw [cell_append_self (h.shaped row mem ▸ fresh)]
      rcases fits hrequired with hdefault | hempty
      · exact hdefault
      · rw [hempty] at mem
        exact absurd mem List.not_mem_nil
  · have hkeys : ∀ row : Row α, ∀ n ∈ t.primaryKey,
        cell (row ++ [(column.name, column.serverDefault)]) n = cell row n :=
      fun row n hn => hcell row n (keyed n (List.mem_append_left _ (List.mem_append_left _ hn)))
    refine ⟨(map_cells hkeys).symm ▸ (h.primaryKey hkey).1, fun row hrow => ?_⟩
    obtain ⟨row, mem, rfl⟩ := List.mem_map.mp hrow
    show none ∉ cells _ t.primaryKey
    rw [cells_congr (hkeys row)]
    exact (h.primaryKey hkey).2 row mem
  · have hkeys : ∀ row : Row α, ∀ n ∈ unique.columns,
        cell (row ++ [(column.name, column.serverDefault)]) n = cell row n :=
      fun row n hn => hcell row n (keyed n (mem_keyColumns_unique hunique hn))
    show ((t.rows.map (· ++ [(column.name, column.serverDefault)])).map _).Pairwise _
    rw [map_cells hkeys]
    exact h.uniques unique hunique

/-- A column less: the constraints that stay are about other columns. -/
theorem Table.Holds.dropColumn {t : Table τ α} (h : t.Holds) (column : String) :
    (t.dropColumn column).Holds := by
  -- the other cells of a row are as they were
  have hcell : ∀ row : Row α, ∀ n, n ≠ column →
      cell (row.filter (·.1 ≠ column)) n = cell row n :=
    fun row n hn => cell_filter hn row
  refine ⟨?_, ?_, fun hkey => ?_, fun unique hunique => ?_⟩
  · intro row hrow
    obtain ⟨row, mem, rfl⟩ := List.mem_map.mp hrow
    have hshape := h.shaped row mem
    have hfilter : (row.filter (·.1 ≠ column)).map Prod.fst
        = (row.map Prod.fst).filter (· ≠ column) := by
      rw [List.filter_map]
      rfl
    rw [hfilter, hshape]
    show (t.columns.map (·.name)).filter _ = (t.columns.filter _).map _
    rw [List.filter_map]
    rfl
  · intro c hc hrequired row hrow
    obtain ⟨row, mem, rfl⟩ := List.mem_map.mp hrow
    obtain ⟨hc, hne⟩ := List.mem_filter.mp hc
    rw [hcell row c.name (of_decide_eq_true hne)]
    exact h.required c hc hrequired row mem
  · -- a primary key that had the column is gone altogether
    have hprimary : ∀ n ∈ (t.dropColumn column).primaryKey, n ≠ column ∧
        (t.dropColumn column).primaryKey = t.primaryKey := by
      show ∀ n ∈ (if column ∈ t.primaryKey then [] else t.primaryKey), n ≠ column ∧
        (if column ∈ t.primaryKey then [] else t.primaryKey) = t.primaryKey
      split
      next => exact fun n hn => absurd hn List.not_mem_nil
      next hnot => exact fun n hn => ⟨fun heq => hnot (heq ▸ hn), rfl⟩
    obtain ⟨n, hn⟩ := List.exists_mem_of_ne_nil _ hkey
    have hsame := (hprimary n hn).2
    have hkeys : ∀ row : Row α, ∀ n ∈ (t.dropColumn column).primaryKey,
        cell (row.filter (·.1 ≠ column)) n = cell row n :=
      fun row n hn => hcell row n (hprimary n hn).1
    obtain ⟨hnodup, hnull⟩ := h.primaryKey (hsame ▸ hkey)
    refine ⟨?_, fun row hrow => ?_⟩
    · show ((t.rows.map _).map _).Nodup
      rw [map_cells hkeys, hsame]
      exact hnodup
    · obtain ⟨row, mem, rfl⟩ := List.mem_map.mp hrow
      rw [cells_congr (hkeys row), hsame]
      exact hnull row mem
  · obtain ⟨hunique, hnot⟩ := List.mem_filter.mp hunique
    have hkeys : ∀ row : Row α, ∀ n ∈ unique.columns,
        cell (row.filter (·.1 ≠ column)) n = cell row n :=
      fun row n hn => hcell row n fun heq => of_decide_eq_true hnot (heq ▸ hn)
    show ((t.rows.map _).map _).Pairwise _
    rw [map_cells hkeys]
    exact h.uniques unique hunique

/-- A table and what became of it: `r` of its rows, under keys that read as
before. -/
structure Carries (tables : List (Table τ α)) (r : Table τ α → Row α → Row α)
    (g : Table τ α → Table τ α) (t : Table τ α) : Prop where
  name : (g t).name = t.name
  rows : (g t).rows = t.rows.map (r t)
  holds : (g t).Holds
  foreignKeys : ∀ fk ∈ (g t).foreignKeys, fk ∈ t.foreignKeys
  columns : ∀ fk ∈ (g t).foreignKeys, ∀ row, ∀ n ∈ fk.columns, cell (r t row) n = cell row n
  referred : ∀ fk ∈ (g t).foreignKeys, ∀ u ∈ tables, u.name = fk.table →
    ∀ row, ∀ n ∈ fk.referred, cell (r u row) n = cell row n

/-- Tables altered one by one. -/
theorem Satisfied.map (satisfied : Satisfied tables) {r : Table τ α → Row α → Row α}
    {g : Table τ α → Table τ α} (hg : ∀ t ∈ tables, Carries tables r g t) :
    Satisfied (tables.map g) where
  holds := by
    rw [List.forall_mem_map]
    exact fun t mem => (hg t mem).holds
  foreignKeys := by
    rw [List.forall_mem_map]
    intro t mem fk hfk row hrow hnull
    rw [(hg t mem).rows] at hrow
    obtain ⟨old, hold, rfl⟩ := List.mem_map.mp hrow
    rw [cells_congr ((hg t mem).columns fk hfk old)] at hnull ⊢
    obtain ⟨u, hu, htable, other, hother, hcells⟩ :=
      satisfied.foreignKeys t mem fk ((hg t mem).foreignKeys fk hfk) old hold hnull
    refine ⟨g u, List.mem_map_of_mem hu, (hg u hu).name.trans htable, r u other, ?_, ?_⟩
    · rw [(hg u hu).rows]
      exact List.mem_map_of_mem hother
    · rw [cells_congr ((hg t mem).referred fk hfk u hu htable other)]
      exact hcells

/-- A table that keeps its rows and constraints. -/
theorem Table.Holds.of_rows {t t' : Table τ α} (h : t.Holds) (columns : t'.columns = t.columns)
    (primaryKey : t'.primaryKey = t.primaryKey) (uniques : t'.uniques = t.uniques)
    (rows : t'.rows = t.rows) : t'.Holds where
  shaped := by
    unfold Declaration.columnNames
    rw [columns, rows]
    exact h.shaped
  required := by
    rw [columns, rows]
    exact h.required
  primaryKey := by
    rw [primaryKey, rows]
    exact h.primaryKey
  uniques := by
    rw [uniques, rows]
    exact h.uniques

/-- **A statement leaves the constraints satisfied.** -/
theorem Satisfied.effect (satisfied : Satisfied tables) (sound : Sound tables)
    (allowed : st.Allowed tables) (fits : st.Fits tables) : Satisfied (st.effect tables) := by
  cases st with
  | createTable d =>
      -- a new table has no rows
      have hempty : d.create.Holds := by
        refine ⟨?_, ?_, fun _ => ⟨List.nodup_nil, ?_⟩, fun _ _ => .nil⟩
        · exact fun _ mem => absurd mem List.not_mem_nil
        · exact fun _ _ _ _ mem => absurd mem List.not_mem_nil
        · exact fun _ mem => absurd mem List.not_mem_nil
      refine ⟨fun t mem => ?_, fun t mem fk hfk row hrow hnull => ?_⟩
      · rcases List.mem_append.mp mem with mem | mem
        · exact satisfied.holds t mem
        · exact List.mem_singleton.mp mem ▸ hempty
      · rcases List.mem_append.mp mem with mem | mem
        · obtain ⟨u, hu, h⟩ := satisfied.foreignKeys t mem fk hfk row hrow hnull
          exact ⟨u, List.mem_append_left _ hu, h⟩
        · rw [List.mem_singleton.mp mem] at hrow
          exact absurd hrow List.not_mem_nil
  | dropTable name =>
      refine ⟨fun t mem => satisfied.holds t (List.mem_filter.mp mem).1,
        fun t mem fk hfk row hrow hnull => ?_⟩
      obtain ⟨mem, hname⟩ := List.mem_filter.mp mem
      obtain ⟨u, hu, htable, h⟩ := satisfied.foreignKeys t mem fk hfk row hrow hnull
      -- no table that stays refers to the one that goes
      have hne := allowed.2 t mem (of_decide_eq_true hname) fk hfk
      exact ⟨u, List.mem_filter.mpr ⟨hu, decide_eq_true (htable ▸ hne)⟩, htable, h⟩
  | addColumn name column =>
      obtain ⟨t₀, mem₀, hname₀, hfresh⟩ := allowed
      have hfits : column.nullable = false → column.serverDefault ≠ none ∨ t₀.rows = [] := by
        intro hrequired
        cases hdefault : column.serverDefault with
        | some v => exact .inl fun h => nomatch h
        | none =>
            -- this is what the rows have to fit
            refine .inr (fits name ?_ t₀ mem₀ hname₀)
            simp [Statement.demand?, hrequired, hdefault]
      -- what the foreign keys refer to was there before the column
      have hreferred : ∀ t ∈ tables, ∀ fk ∈ t.foreignKeys, ∀ u ∈ tables, u.name = fk.table →
          ∀ row : Row α, ∀ n ∈ fk.referred, cell (if u.name = name then
            row ++ [(column.name, column.serverDefault)] else row) n = cell row n := by
        intro t mem fk hfk u hu htable row n hn
        split
        next hname =>
          obtain ⟨u', hu', htable', hcolumns⟩ := sound.referred t mem fk hfk
          obtain rfl := sound.table_unique hu hu' (htable.trans htable'.symm)
          obtain rfl := sound.table_unique hu mem₀ (hname.trans hname₀.symm)
          exact cell_append (fun heq : n = column.name => hfresh (heq ▸ hcolumns n hn)) _
        next => rfl
      refine satisfied.map (r := fun t row => if t.name = name then
        row ++ [(column.name, column.serverDefault)] else row) fun t mem => ?_
      by_cases hname : t.name = name
      · obtain rfl := sound.table_unique mem mem₀ (hname.trans hname₀.symm)
        refine ⟨?_, ?_, ?_, ?_, ?_, ?_⟩ <;> simp only [if_pos hname]
        · rfl
        · rfl
        · exact (satisfied.holds t mem).addColumn (sound.keyed t mem) hfresh hfits
        · exact fun _ h => h
        · intro fk hfk row n hn
          have hcolumn := sound.keyed t mem n (mem_keyColumns_foreign hfk hn)
          exact cell_append (fun heq : n = column.name => hfresh (heq ▸ hcolumn)) _
        · exact hreferred t mem
      · refine ⟨?_, ?_, ?_, ?_, ?_, ?_⟩ <;> simp only [if_neg hname]
        · exact (List.map_id' _).symm
        · exact satisfied.holds t mem
        · exact fun _ h => h
        · exact fun _ _ _ _ _ => trivial
        · exact hreferred t mem
  | dropColumn name column =>
      have hreferred : ∀ t ∈ tables,
          ∀ fk ∈ (if t.name = name then t.dropColumn column else t).foreignKeys,
          ∀ u ∈ tables, u.name = fk.table → ∀ row : Row α, ∀ n ∈ fk.referred,
            cell (if u.name = name then row.filter (·.1 ≠ column) else row) n = cell row n := by
        intro t mem fk hfk u hu htable row n hn
        split
        next hname =>
          refine cell_filter ?_ row
          rintro rfl
          split at hfk
          next hname' =>
            have hkept := of_decide_eq_true (List.mem_filter.mp hfk).2
            exact hkept.2 ⟨htable.symm.trans (hname.trans hname'.symm), hn⟩
          next hother => exact allowed.2 t mem hother fk hfk (htable.symm.trans hname) hn
        next => rfl
      refine satisfied.map (r := fun t row => if t.name = name then
        row.filter (·.1 ≠ column) else row) fun t mem => ?_
      by_cases hname : t.name = name
      · refine ⟨?_, ?_, ?_, ?_, ?_, hreferred t mem⟩ <;> simp only [if_pos hname]
        · rfl
        · rfl
        · exact (satisfied.holds t mem).dropColumn column
        · exact fun fk hfk => (List.mem_filter.mp hfk).1
        · intro fk hfk row n hn
          have hkept := of_decide_eq_true (List.mem_filter.mp hfk).2
          exact cell_filter (fun heq : n = column => hkept.1 (heq ▸ hn)) row
      · refine ⟨?_, ?_, ?_, ?_, ?_, hreferred t mem⟩ <;> simp only [if_neg hname]
        · exact (List.map_id' _).symm
        · exact satisfied.holds t mem
        · exact fun _ h => h
        · exact fun _ _ _ _ _ => trivial
  | createIndex name index =>
      refine satisfied.map (r := fun _ row => row) fun t mem => ?_
      have h : (if t.name = name then t.createIndex index else t).Holds := by
        split
        next => exact (satisfied.holds t mem).of_rows rfl rfl rfl rfl
        next => exact satisfied.holds t mem
      refine ⟨?_, ?_, h, ?_, fun _ _ _ _ _ => rfl, fun _ _ _ _ _ _ _ _ => rfl⟩
      · split <;> rfl
      · rw [List.map_id']
        split <;> rfl
      · split <;> exact fun _ h => h
  | dropIndex name =>
      refine satisfied.map (r := fun _ row => row) fun t mem => ?_
      refine ⟨rfl, (List.map_id' _).symm, (satisfied.holds t mem).of_rows rfl rfl rfl rfl,
        fun _ h => h, fun _ _ _ _ _ => rfl, fun _ _ _ _ _ _ _ _ => rfl⟩

end constraints

/-! ## §3. Taking back. -/

section undo
variable {τ α : Type} {tables tables' : List (Table τ α)} {st : Statement τ α}

/-- A column that nothing is about leaves no trace. -/
theorem dropColumn_addColumn (sound : Sound tables) {t : Table τ α} (mem : t ∈ tables)
    (shaped : ∀ row ∈ t.rows, row.map Prod.fst = t.columnNames) {column : Column τ α}
    (fresh : column.name ∉ t.columnNames) :
    (t.addColumn column).dropColumn column.name = t := by
  -- a fresh name occurs in no constraint of the table
  have hkeyed : column.name ∉ t.keyColumns := fun hn => fresh (sound.keyed t mem _ hn)
  have hcolumns : (t.columns ++ [column]).filter (·.name ≠ column.name) = t.columns := by
    rw [List.filter_append, List.filter_cons_of_neg (by simp), List.filter_nil, List.append_nil]
    refine List.filter_eq_self.mpr fun c hc => decide_eq_true fun heq => fresh ?_
    exact heq ▸ List.mem_map_of_mem hc
  have hprimary : column.name ∉ t.primaryKey := fun hn =>
    hkeyed (List.mem_append_left _ (List.mem_append_left _ hn))
  have huniques : t.uniques.filter (column.name ∉ ·.columns) = t.uniques :=
    List.filter_eq_self.mpr fun unique hunique => decide_eq_true fun hn =>
      hkeyed (mem_keyColumns_unique hunique hn)
  -- nor in a foreign key of the table to itself
  have hforeign : (t.foreignKeys.filter fun fk => column.name ∉ fk.columns
      ∧ ¬ (fk.table = t.name ∧ column.name ∈ fk.referred)) = t.foreignKeys := by
    refine List.filter_eq_self.mpr fun fk hfk => decide_eq_true ⟨fun hn =>
      hkeyed (mem_keyColumns_foreign hfk hn), fun hself => ?_⟩
    obtain ⟨u, hu, htable, hreferred⟩ := sound.referred t mem fk hfk
    obtain rfl := sound.table_unique hu mem (htable.trans hself.1)
    exact fresh (hreferred _ hself.2)
  have hindexes : t.indexes.filter (column.name ∉ ·.columns) = t.indexes :=
    List.filter_eq_self.mpr fun index hindex => decide_eq_true fun hn =>
      fresh (sound.indexed t mem index hindex _ hn)
  have hrows : ((t.rows.map (· ++ [(column.name, column.serverDefault)])).map fun row =>
      row.filter (·.1 ≠ column.name)) = t.rows := by
    rw [List.map_map]
    refine (List.map_congr_left fun row hrow => ?_).trans (List.map_id t.rows)
    show (row ++ [(column.name, column.serverDefault)]).filter _ = row
    rw [List.filter_append, List.filter_cons_of_neg (by simp), List.filter_nil, List.append_nil]
    refine List.filter_eq_self.mpr fun c hc => decide_eq_true fun heq => fresh ?_
    rw [← shaped row hrow]
    exact heq ▸ List.mem_map_of_mem hc
  unfold Table.addColumn Table.dropColumn
  simp only [hcolumns, if_neg hprimary, huniques, hforeign, hindexes, hrows]

/-- **A building statement is taken back**: afterwards every table is as it
was, with its rows. -/
theorem execute_undo (sound : Sound tables) (satisfied : Satisfied tables)
    (allowed : st.Allowed tables) {undo : Statement τ α} (h : st.undo? = some undo) :
    execute (st.effect tables) undo = some tables := by
  rw [execute_eq_some_iff]
  cases st with
  | createTable d =>
      obtain rfl := Option.some.inj h
      have hfresh : ∀ t ∈ tables, t.name ≠ d.name := fun t mem heq =>
        allowed.2.1 d.name List.mem_cons_self (heq ▸ name_mem_relations mem)
      refine ⟨⟨⟨d.create, List.mem_append_right _ (List.mem_singleton.mpr rfl), rfl⟩, ?_⟩,
        fits_of_none rfl, ?_⟩
      · -- nothing refers to a table that has just been made
        intro t mem hne fk hfk
        rcases List.mem_append.mp mem with mem | mem
        · obtain ⟨u, hu, htable, -⟩ := sound.referred t mem fk hfk
          exact htable ▸ hfresh u hu
        · exact absurd (congrArg (·.name) (List.mem_singleton.mp mem)) hne
      · show tables = (tables ++ [d.create]).filter _
        rw [List.filter_append, List.filter_eq_self.mpr fun t mem => decide_eq_true (hfresh t mem),
          List.filter_cons_of_neg (by simp [Declaration.create]), List.filter_nil, List.append_nil]
  | addColumn name column =>
      obtain rfl := Option.some.inj h
      obtain ⟨t₀, mem₀, hname₀, hfresh⟩ := allowed
      refine ⟨⟨⟨t₀.addColumn column, mem_update.mpr (.inl ⟨t₀, mem₀, hname₀, rfl⟩), hname₀, ?_⟩,
        ?_⟩, fits_of_none rfl, ?_⟩
      · show column.name ∈ (t₀.columns ++ [column]).map (·.name)
        rw [List.map_append]
        exact List.mem_append_right _ (List.mem_singleton.mpr rfl)
      · -- nor to a column that has just been added
        intro t mem hne fk hfk htable hcolumn
        have mem : t ∈ update (·.name) name (·.addColumn column) tables := mem
        rcases mem_update.mp mem with ⟨t', -, hname, rfl⟩ | ⟨mem, -⟩
        · exact hne hname
        · obtain ⟨u, hu, htable', hcolumns⟩ := sound.referred t mem fk hfk
          obtain rfl := sound.table_unique hu mem₀ (htable'.trans (htable.trans hname₀.symm))
          exact hfresh (hcolumns _ hcolumn)
      · have hcancel : update (·.name) name (·.dropColumn column.name)
            (update (·.name) name (·.addColumn column) tables) = tables := by
          refine update_update_cancel (fun _ _ hname => hname) fun t mem hname => ?_
          obtain rfl := sound.table_unique mem mem₀ (hname.trans hname₀.symm)
          exact dropColumn_addColumn sound mem (satisfied.holds t mem).shaped hfresh
        exact hcancel.symm
  | createIndex name index =>
      obtain rfl := Option.some.inj h
      obtain ⟨hfresh, t₀, mem₀, hname₀, -⟩ := allowed
      refine ⟨⟨t₀.createIndex index, mem_update.mpr (.inl ⟨t₀, mem₀, hname₀, rfl⟩), ?_⟩,
        fits_of_none rfl, ?_⟩
      · show index.name ∈ (t₀.indexes ++ [index]).map (·.name)
        rw [List.map_append]
        exact List.mem_append_right _ (List.mem_singleton.mpr rfl)
      · have hold : ∀ t ∈ tables, t.indexes.filter (·.name ≠ index.name) = t.indexes := by
          refine fun t mem => List.filter_eq_self.mpr fun other hother => decide_eq_true ?_
          intro heq
          refine hfresh (mem_relations mem (List.mem_cons_of_mem _ (List.mem_append_right _ ?_)))
          exact heq ▸ List.mem_map_of_mem hother
        show tables = (update (·.name) name (·.createIndex index) tables).map _
        unfold update
        rw [List.map_map]
        refine ((List.map_congr_left fun t mem => ?_).trans (List.map_id tables)).symm
        show (if t.name = name then t.createIndex index else t).dropIndex index.name = t
        split
        · show { t with indexes := (t.indexes ++ [index]).filter (·.name ≠ index.name) } = t
          rw [List.filter_append, hold t mem, List.filter_cons_of_neg (by simp), List.filter_nil,
            List.append_nil]
        · show { t with indexes := t.indexes.filter (·.name ≠ index.name) } = t
          rw [hold t mem]
  | dropTable | dropColumn | dropIndex => cases h

/-- Statements that take back what was built, the last one first. -/
def undoAll (sts : List (Statement τ α)) : List (Statement τ α) :=
  sts.reverse.filterMap Statement.undo?

/-- Taking back needs no empty tables, and builds nothing. -/
theorem undoAll_takes {sts : List (Statement τ α)} :
    ∀ st ∈ undoAll sts, st.demand? = none ∧ st.undo? = none := by
  intro st mem
  obtain ⟨built, -, hundo⟩ := List.mem_filterMap.mp mem
  cases built with
  | createTable | addColumn | createIndex =>
      obtain rfl := Option.some.inj hundo
      exact ⟨rfl, rfl⟩
  | dropTable | dropColumn | dropIndex => cases hundo

theorem undoAll_append (sts sts' : List (Statement τ α)) :
    undoAll (sts ++ sts') = undoAll sts' ++ undoAll sts := by
  unfold undoAll
  rw [List.reverse_append, List.filterMap_append]

/-- **What was built is taken back**, and the schema and the constraints hold
all along. -/
theorem executeAll_undo : ∀ {sts : List (Statement τ α)} {tables tables' : List (Table τ α)},
    (∀ st ∈ sts, st.Builds) → Sound tables → Satisfied tables →
      executeAll sts tables = some tables' →
        executeAll (undoAll sts) tables' = some tables
  | [], tables, tables', _, _, _, h => by
      obtain rfl := Option.some.inj h
      rfl
  | st :: sts, tables, tables', builds, sound, satisfied, h => by
      obtain ⟨allowed, fits, hrest⟩ := executeAll_cons_eq_some_iff.mp h
      obtain ⟨undo, hundo⟩ := Option.isSome_iff_exists.mp (builds st List.mem_cons_self)
      have ih := executeAll_undo (fun st' mem => builds st' (List.mem_cons_of_mem _ mem))
        (sound.effect allowed) (satisfied.effect sound allowed fits) hrest
      -- what was built first is taken back last
      have hall : undoAll (st :: sts) = undoAll sts ++ [undo] := by
        rw [← List.singleton_append, undoAll_append]
        simp [undoAll, hundo]
      rw [hall, executeAll_append, ih]
      show executeAll [undo] (st.effect tables) = some tables
      have hone := execute_undo sound satisfied allowed hundo
      unfold executeAll
      rw [List.foldlM_cons, hone]
      rfl

/-- Whatever is executed, the schema stays sound and the constraints
satisfied. -/
theorem executeAll_satisfied : ∀ {sts : List (Statement τ α)} {tables tables' : List (Table τ α)},
    Sound tables → Satisfied tables → executeAll sts tables = some tables' →
      Sound tables' ∧ Satisfied tables'
  | [], tables, tables', sound, satisfied, h => by
      obtain rfl := Option.some.inj h
      exact ⟨sound, satisfied⟩
  | st :: sts, tables, tables', sound, satisfied, h => by
      obtain ⟨allowed, fits, hrest⟩ := executeAll_cons_eq_some_iff.mp h
      exact executeAll_satisfied (sound.effect allowed) (satisfied.effect sound allowed fits) hrest

end undo

end EventCart.Lib.Ddl
