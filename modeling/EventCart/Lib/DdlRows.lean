/-
  EventCart.Lib.DdlRows
  ─────────────────────
  **ROWS.**

  What statements do to the rows that are there, and which rows can be put
  into the tables of a schema.

    §1  statements that build nothing: every table that is left has its rows,
        less the cells of columns that went (`executeAll_reduced`);
    §2  rows put into tables: the constraints are satisfied when the keys are
        (`satisfied_fill`).
-/
import EventCart.Lib.DdlConstraints

namespace EventCart.Lib.Ddl

variable {τ α : Type}

/-! ## §1. What is left. -/

/-- The cells under some columns. -/
def project (names : List String) (row : Row α) : Row α := row.filter (·.1 ∈ names)

theorem project_eq_self {names : List String} {row : Row α}
    (h : ∀ n ∈ row.map Prod.fst, n ∈ names) : project names row = row :=
  List.filter_eq_self.mpr fun _ mem => decide_eq_true (h _ (List.mem_map_of_mem mem))

theorem project_project {names names' : List String} (h : ∀ n ∈ names, n ∈ names') (row : Row α) :
    project names (project names' row) = project names row := by
  unfold project
  rw [List.filter_filter]
  refine List.filter_congr fun c _ => ?_
  rw [← Bool.decide_and]
  exact decide_eq_decide.mpr ⟨fun hc => hc.1, fun hc => ⟨hc, h _ hc⟩⟩

/-- Every table was there, with its rows, less the cells of columns that went. -/
def Reduced (tables tables' : List (Table τ α)) : Prop :=
  ∀ t' ∈ tables', ∃ t ∈ tables, t.name = t'.name
    ∧ (∀ n ∈ t'.columnNames, n ∈ t.columnNames) ∧ t'.rows = t.rows.map (project t'.columnNames)

section reduced
variable {tables tables' : List (Table τ α)} {st : Statement τ α}

theorem Satisfied.reduced_self (satisfied : Satisfied tables) {t : Table τ α} (mem : t ∈ tables) :
    t.rows = t.rows.map (project t.columnNames) := by
  refine ((List.map_congr_left fun row hrow => ?_).trans (List.map_id t.rows)).symm
  refine project_eq_self fun n hn => ?_
  rw [← (satisfied.holds t mem).shaped row hrow]
  exact hn

theorem Reduced.trans {tables'' : List (Table τ α)} (h : Reduced tables tables')
    (h' : Reduced tables' tables'') : Reduced tables tables'' := by
  intro t'' mem''
  obtain ⟨t', mem', hname', hcolumns', hrows'⟩ := h' t'' mem''
  obtain ⟨t, mem, hname, hcolumns, hrows⟩ := h t' mem'
  -- columns only go, so the second projection is all there is
  refine ⟨t, mem, hname.trans hname', fun n hn => hcolumns n (hcolumns' n hn), ?_⟩
  rw [hrows', hrows, List.map_map]
  exact List.map_congr_left fun row _ => project_project hcolumns' row

/-- A statement that builds nothing. -/
theorem Satisfied.reduced_effect (satisfied : Satisfied tables) (takes : st.undo? = none) :
    Reduced tables (st.effect tables) := by
  cases st with
  | dropTable name =>
      intro t mem
      obtain ⟨mem, -⟩ := List.mem_filter.mp mem
      exact ⟨t, mem, rfl, fun _ hn => hn, satisfied.reduced_self mem⟩
  | dropColumn name column =>
      intro t' mem
      have mem : t' ∈ update (·.name) name (·.dropColumn column) tables := mem
      rcases mem_update.mp mem with ⟨t, ht, -, rfl⟩ | ⟨mem, -⟩
      · have hcolumns : ∀ n ∈ (t.dropColumn column).columnNames,
            n ∈ t.columnNames ∧ n ≠ column := by
          intro n hn
          obtain ⟨c, hc, rfl⟩ := List.mem_map.mp hn
          obtain ⟨hc, hne⟩ := List.mem_filter.mp hc
          exact ⟨List.mem_map_of_mem hc, of_decide_eq_true hne⟩
        refine ⟨t, ht, rfl, fun n hn => (hcolumns n hn).1, ?_⟩
        refine List.map_congr_left fun row hrow => List.filter_congr fun c hc => ?_
        -- the cells of a row are under the columns of its table
        have hname : c.1 ∈ t.columnNames := by
          rw [← (satisfied.holds t ht).shaped row hrow]
          exact List.mem_map_of_mem hc
        exact decide_eq_decide.mpr
          ⟨fun hne => mem_dropColumn hname hne, fun h => (hcolumns c.1 h).2⟩
      · -- another table
        exact ⟨t', mem, rfl, fun _ hn => hn, satisfied.reduced_self mem⟩
  | dropIndex name =>
      intro t' mem
      obtain ⟨t, ht, rfl⟩ := List.mem_map.mp mem
      have hrows := satisfied.reduced_self ht
      exact ⟨t, ht, rfl, fun _ hn => hn, hrows⟩
  | createTable | addColumn | createIndex => cases takes

/-- **Statements that build nothing** leave every table that is left with its
rows, less the cells of columns that went. -/
theorem executeAll_reduced : ∀ {sts : List (Statement τ α)} {tables tables' : List (Table τ α)},
    (∀ st ∈ sts, st.undo? = none) → Sound tables → Satisfied tables →
      executeAll sts tables = some tables' → Reduced tables tables'
  | [], tables, tables', _, _, satisfied, h => by
      obtain rfl := Option.some.inj h
      exact fun t mem => ⟨t, mem, rfl, fun _ hn => hn, satisfied.reduced_self mem⟩
  | st :: sts, tables, tables', takes, sound, satisfied, h => by
      obtain ⟨allowed, fits, hrest⟩ := executeAll_cons_eq_some_iff.mp h
      have hone := satisfied.reduced_effect (takes st List.mem_cons_self)
      exact hone.trans (executeAll_reduced (fun st' mem => takes st' (List.mem_cons_of_mem _ mem))
        (sound.effect allowed) (satisfied.effect sound allowed fits) hrest)

end reduced

/-! ## §2. Rows put into tables. -/

/-- A row for a table: the given cells in the order of its columns, NULL
elsewhere. -/
def Declaration.arrange (d : Declaration τ α) (given : Row α) : Row α :=
  d.columnNames.map fun n => (n, cell given n)

/-- A table with the given rows. -/
def Table.filled (t : Table τ α) (rows : String → List (Row α)) : Table τ α :=
  { t with rows := (rows t.name).map t.arrange }

/-- The rows, put into the tables of a schema. -/
def fill (schema : List (Table τ α)) (rows : String → List (Row α)) : List (Table τ α) :=
  schema.map (·.filled rows)

/-- What a table demands of the rows that are put into it, once they have all
required cells. -/
structure Keys where
  table : String
  primaryKey : List String
  uniques : List (List String)
  foreignKeys : List ForeignKey
  deriving DecidableEq, Repr

def Declaration.keys (d : Declaration τ α) : Keys :=
  ⟨d.name, d.primaryKey, d.uniques.map (·.columns), d.foreignKeys⟩

def Keys.Hold (k : Keys) (rows : String → List (Row α)) : Prop :=
  ((rows k.table).map (cells · k.primaryKey)).Nodup
    ∧ (∀ unique ∈ k.uniques, ((rows k.table).map (cells · unique)).Pairwise fun key key' =>
        none ∈ key ∨ key ≠ key')
    ∧ ∀ fk ∈ k.foreignKeys, ∀ row ∈ rows k.table, none ∉ cells row fk.columns →
        ∃ other ∈ rows fk.table, cells other fk.referred = cells row fk.columns

section keys
variable {k : Keys} {rows : String → List (Row α)}

/-- Tables with a primary key only, with one more unique key, and with one
foreign key. -/
theorem Keys.hold_primary (huniques : k.uniques = []) (hforeign : k.foreignKeys = []) :
    k.Hold rows ↔ ((rows k.table).map (cells · k.primaryKey)).Nodup := by
  simp [Keys.Hold, huniques, hforeign]

theorem Keys.hold_unique {unique : List String} (huniques : k.uniques = [unique])
    (hforeign : k.foreignKeys = []) :
    k.Hold rows ↔ ((rows k.table).map (cells · k.primaryKey)).Nodup
      ∧ ((rows k.table).map (cells · unique)).Pairwise fun key key' => none ∈ key ∨ key ≠ key' := by
  simp only [Keys.Hold, huniques, hforeign, List.forall_mem_singleton, List.not_mem_nil,
    false_imp_iff, implies_true, and_true]

theorem Keys.hold_foreign {fk : ForeignKey} (huniques : k.uniques = [])
    (hforeign : k.foreignKeys = [fk]) :
    k.Hold rows ↔ ((rows k.table).map (cells · k.primaryKey)).Nodup
      ∧ ∀ row ∈ rows k.table, none ∉ cells row fk.columns →
          ∃ other ∈ rows fk.table, cells other fk.referred = cells row fk.columns := by
  simp only [Keys.Hold, huniques, hforeign, List.forall_mem_singleton, List.not_mem_nil,
    false_imp_iff, implies_true, true_and]

end keys

section fill
variable {d : Declaration τ α} {schema : List (Table τ α)} {rows : String → List (Row α)}

theorem lookup_pairs {β : Type} (f : String → β) {n : String} :
    ∀ {names : List String}, n ∈ names → (names.map fun n => (n, f n)).lookup n = some (f n)
  | name :: names, mem => by
      rw [List.map_cons, List.lookup_cons]
      split
      next heq => rw [eq_of_beq heq]
      next hne =>
        refine lookup_pairs f ((List.mem_cons.mp mem).resolve_left fun heq => ?_)
        exact absurd (beq_iff_eq.mpr heq) (Bool.eq_false_iff.mp hne)

theorem cell_arrange {n : String} (hn : n ∈ d.columnNames) (given : Row α) :
    cell (d.arrange given) n = cell given n := by
  have h : (d.arrange given).lookup n = some (cell given n) := lookup_pairs _ hn
  show ((d.arrange given).lookup n).join = _
  rw [h]
  rfl

theorem cells_arrange {names : List String} (h : ∀ n ∈ names, n ∈ d.columnNames) (given : Row α) :
    cells (d.arrange given) names = cells given names :=
  cells_congr fun n hn => cell_arrange (h n hn) given

/-- Columns in another order, or fewer of them. -/
theorem arrange_arrange {d' : Declaration τ α} (h : ∀ n ∈ d'.columnNames, n ∈ d.columnNames)
    (given : Row α) : d'.arrange (d.arrange given) = d'.arrange given :=
  List.map_congr_left fun n hn => congrArg (Prod.mk n) (cell_arrange (h n hn) given)

theorem map_cells_filled {t : Table τ α} {names : List String}
    (h : ∀ n ∈ names, n ∈ t.columnNames) :
    (t.filled rows).rows.map (cells · names) = (rows t.name).map (cells · names) := by
  show ((rows t.name).map t.arrange).map _ = _
  rw [List.map_map]
  exact List.map_congr_left fun row _ => cells_arrange h row

/-- Rows with all required cells, put into a table. -/
theorem holds_filled {t : Table τ α} (keyed : ∀ n ∈ t.keyColumns, n ∈ t.columnNames)
    (primary : ∀ n ∈ t.primaryKey, ∃ c ∈ t.columns, c.name = n ∧ c.nullable = false)
    (hprimary : t.primaryKey ≠ [])
    (given : ∀ c ∈ t.columns, c.nullable = false → ∀ row ∈ rows t.name, cell row c.name ≠ none) :
    (t.filled rows).Holds
      ↔ ((rows t.name).map (cells · t.primaryKey)).Nodup
        ∧ ∀ unique ∈ t.uniques, ((rows t.name).map (cells · unique.columns)).Pairwise
            fun key key' => none ∈ key ∨ key ≠ key' := by
  have hprimaryNames : ∀ n ∈ t.primaryKey, n ∈ t.columnNames := fun n hn =>
    keyed n (List.mem_append_left _ (List.mem_append_left _ hn))
  have huniqueNames : ∀ unique ∈ t.uniques, ∀ n ∈ unique.columns, n ∈ t.columnNames :=
    fun unique mem n hn => keyed n (mem_keyColumns_unique mem hn)
  constructor
  · intro h
    refine ⟨?_, fun unique mem => ?_⟩
    · rw [← map_cells_filled hprimaryNames]
      exact (h.primaryKey hprimary).1
    · rw [← map_cells_filled (huniqueNames unique mem)]
      exact h.uniques unique mem
  · rintro ⟨hnodup, huniques⟩
    refine ⟨?_, ?_, fun _ => ⟨?_, ?_⟩, fun unique mem => ?_⟩
    · intro row hrow
      obtain ⟨row, -, rfl⟩ := List.mem_map.mp hrow
      show (t.columnNames.map _).map _ = t.columnNames
      rw [List.map_map]
      exact List.map_id _
    · intro c hc hrequired row hrow
      obtain ⟨row, mem, rfl⟩ := List.mem_map.mp hrow
      have hname : c.name ∈ t.columnNames := List.mem_map_of_mem hc
      rw [cell_arrange hname]
      exact given c hc hrequired row mem
    · exact (map_cells_filled hprimaryNames).symm ▸ hnodup
    · -- the columns of a primary key are required
      intro row hrow hnull
      obtain ⟨row, mem, rfl⟩ := List.mem_map.mp hrow
      have hnull : none ∈ cells (t.arrange row) t.primaryKey := hnull
      rw [cells_arrange hprimaryNames] at hnull
      obtain ⟨n, hn, hcell⟩ := List.mem_map.mp hnull
      obtain ⟨c, hc, rfl, hrequired⟩ := primary n hn
      exact given c hc hrequired row mem hcell
    · exact (map_cells_filled (huniqueNames unique mem)).symm ▸ huniques unique mem

/-- **Rows put into tables** satisfy the constraints when their keys hold. -/
theorem satisfied_fill (sound : Sound schema)
    (primary : ∀ t ∈ schema, t.primaryKey ≠ []
      ∧ ∀ n ∈ t.primaryKey, ∃ c ∈ t.columns, c.name = n ∧ c.nullable = false)
    (given : ∀ t ∈ schema, ∀ c ∈ t.columns, c.nullable = false →
      ∀ row ∈ rows t.name, cell row c.name ≠ none) :
    Satisfied (fill schema rows) ↔ ∀ t ∈ schema, t.keys.Hold rows := by
  have hholds : ∀ t ∈ schema, _ := fun t mem =>
    holds_filled (sound.keyed t mem) (primary t mem).2 (primary t mem).1 (given t mem)
  -- what a foreign key refers to is found among the given rows
  have hforeign : ∀ t ∈ schema, ∀ fk ∈ t.foreignKeys, ∀ row,
      (∃ u ∈ fill schema rows, u.name = fk.table ∧ ∃ other ∈ u.rows,
          cells other fk.referred = cells (t.arrange row) fk.columns)
        ↔ ∃ other ∈ rows fk.table, cells other fk.referred = cells row fk.columns := by
    intro t mem fk hfk row
    -- the one table of that name
    obtain ⟨u, hu, htable, hreferred⟩ := sound.referred t mem fk hfk
    rw [cells_arrange fun n hn => sound.keyed t mem n (mem_keyColumns_foreign hfk hn)]
    constructor
    · rintro ⟨v, hv, hname, other, hother, heq⟩
      obtain ⟨w, hw, rfl⟩ := List.mem_map.mp hv
      obtain rfl := sound.table_unique hw hu (hname.trans htable.symm)
      obtain ⟨other, hgiven, rfl⟩ := List.mem_map.mp hother
      exact ⟨other, htable ▸ hgiven, (cells_arrange hreferred other).symm.trans heq⟩
    · rintro ⟨other, hother, heq⟩
      refine ⟨u.filled rows, List.mem_map_of_mem hu, htable, u.arrange other, ?_, ?_⟩
      · exact List.mem_map_of_mem (htable ▸ hother)
      · exact (cells_arrange hreferred other).trans heq
  constructor
  · intro satisfied t mem
    obtain ⟨hnodup, huniques⟩ :=
      (hholds t mem).mp (satisfied.holds _ (List.mem_map_of_mem mem))
    refine ⟨hnodup, List.forall_mem_map.mpr huniques, fun fk hfk row hrow hnull => ?_⟩
    refine (hforeign t mem fk hfk row).mp ?_
    refine satisfied.foreignKeys _ (List.mem_map_of_mem mem) fk hfk _
      (List.mem_map_of_mem hrow) ?_
    rwa [cells_arrange fun n hn => sound.keyed t mem n (mem_keyColumns_foreign hfk hn)]
  · intro hkeys
    refine ⟨?_, ?_⟩
    · refine List.forall_mem_map.mpr fun t mem => (hholds t mem).mpr ?_
      exact ⟨(hkeys t mem).1, fun unique hunique =>
        (hkeys t mem).2.1 unique.columns (List.mem_map_of_mem hunique)⟩
    · refine List.forall_mem_map.mpr fun t mem fk hfk row hrow hnull => ?_
      obtain ⟨row, hgiven, rfl⟩ := List.mem_map.mp hrow
      refine (hforeign t mem fk hfk row).mpr ((hkeys t mem).2.2 fk hfk row hgiven ?_)
      rwa [cells_arrange fun n hn => sound.keyed t mem n (mem_keyColumns_foreign hfk hn)] at hnull

/-- Objects that can be told apart by their cells are what their rows say. -/
theorem objects_eq {ρ : Type} {cellsOf : ρ → Row α}
    (told : ∀ x y, (∀ n ∈ d.columnNames, cell (cellsOf x) n = cell (cellsOf y) n) → x = y)
    {xs ys : List ρ} (h : (xs.map cellsOf).map d.arrange = (ys.map cellsOf).map d.arrange) :
    xs = ys := by
  rw [List.map_map, List.map_map] at h
  refine List.map_injective_iff.mpr (fun x y hxy => told x y fun n hn => ?_) h
  have hcells : cell (d.arrange (cellsOf x)) n = cell (d.arrange (cellsOf y)) n :=
    congrArg (cell · n) hxy
  exact (cell_arrange hn _).symm.trans (hcells.trans (cell_arrange hn _))

/-- Rows of objects have different keys when the objects do. -/
theorem nodup_objects {ρ κ : Type} {cellsOf : ρ → Row α} {names : List String} {key : ρ → κ}
    {encode : κ → List (Option α)} (injective : Function.Injective encode)
    (hkey : ∀ x, cells (cellsOf x) names = encode (key x)) {xs : List ρ} :
    ((xs.map cellsOf).map (cells · names)).Nodup ↔ (xs.map key).Nodup := by
  have h : (cells · names) ∘ cellsOf = encode ∘ key := funext hkey
  rw [List.map_map, h, ← List.map_map, List.nodup_map_iff injective]

end fill

end EventCart.Lib.Ddl
