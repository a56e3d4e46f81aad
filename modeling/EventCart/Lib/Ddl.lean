/-
  EventCart.Lib.Ddl
  ─────────────────
  **DATA DEFINITION.**

  Tables with their columns, keys, indexes and rows, and the six statements
  that schema migrations are made of.  A statement has an effect and two
  conditions: it must be allowed by the names in the schema, and the rows must
  fit it, since no row can have NULL in a new required column.  The conditions
are PostgreSQL's.

    §1  tables and statements;
    §2  the schema of a database, apart from its rows, and what building
        statements need beyond it (`executeAll_iff`).

  The types of columns are a parameter: no statement looks at them.
-/
import EventCart.Lib.Rows

namespace EventCart.Lib.Ddl

/-! ## §1. Tables and statements. -/

structure Column (τ α : Type) where
  name : String
  type : τ
  nullable : Bool
  serverDefault : Option α
  deriving DecidableEq, Repr

/-- A named list of columns: an index, or a unique constraint. -/
structure Index where
  name : String
  columns : List String
  deriving DecidableEq, Repr

structure ForeignKey where
  columns : List String
  table : String
  referred : List String
  ondelete : String
  deriving DecidableEq, Repr

/-- What `CREATE TABLE` says. -/
structure Declaration (τ α : Type) where
  name : String
  columns : List (Column τ α)
  primaryKey : List String
  uniques : List Index
  foreignKeys : List ForeignKey
  deriving DecidableEq, Repr

/-- The cells of a row, in the order of the columns; `none` is NULL. -/
abbrev Row (α : Type) := List (String × Option α)

structure Table (τ α : Type) extends Declaration τ α where
  indexes : List Index
  rows : List (Row α)
  deriving DecidableEq, Repr

section tables
variable {τ α : Type}

def Declaration.columnNames (d : Declaration τ α) : List String := d.columns.map (·.name)

/-- The columns that some constraint is about. -/
def Declaration.keyColumns (d : Declaration τ α) : List String :=
  d.primaryKey ++ d.uniques.flatMap (·.columns) ++ d.foreignKeys.flatMap (·.columns)

/-- Tables, constraints and indexes share one namespace. -/
def Table.relations (t : Table τ α) : List String :=
  t.name :: (t.uniques.map (·.name) ++ t.indexes.map (·.name))

def relations (tables : List (Table τ α)) : List String := tables.flatMap Table.relations

/-- A new table: no indexes, no rows. -/
def Declaration.create (d : Declaration τ α) : Table τ α := { d with indexes := [], rows := [] }

/-- A foreign key refers to a key of the table. -/
def ForeignKey.RefersTo (fk : ForeignKey) (t : Table τ α) : Prop :=
  fk.table = t.name ∧ (fk.referred = t.primaryKey ∨ fk.referred ∈ t.uniques.map (·.columns))

instance (fk : ForeignKey) (t : Table τ α) : Decidable (fk.RefersTo t) :=
  inferInstanceAs (Decidable (_ ∧ _))

def Table.addColumn (column : Column τ α) (t : Table τ α) : Table τ α :=
  { t with
    columns := t.columns ++ [column]
    rows := t.rows.map (· ++ [(column.name, column.serverDefault)]) }

/-- The column goes, and with it every constraint and index that involves it. -/
def Table.dropColumn (column : String) (t : Table τ α) : Table τ α :=
  { t with
    columns := t.columns.filter (·.name ≠ column)
    primaryKey := if column ∈ t.primaryKey then [] else t.primaryKey
    uniques := t.uniques.filter (column ∉ ·.columns)
    foreignKeys := t.foreignKeys.filter fun fk =>
      column ∉ fk.columns ∧ ¬ (fk.table = t.name ∧ column ∈ fk.referred)
    indexes := t.indexes.filter (column ∉ ·.columns)
    rows := t.rows.map fun row => row.filter (·.1 ≠ column) }

def Table.createIndex (index : Index) (t : Table τ α) : Table τ α :=
  { t with indexes := t.indexes ++ [index] }

def Table.dropIndex (name : String) (t : Table τ α) : Table τ α :=
  { t with indexes := t.indexes.filter (·.name ≠ name) }

end tables

inductive Statement (τ α : Type) where
  | createTable (declaration : Declaration τ α)
  | dropTable (name : String)
  | addColumn (table : String) (column : Column τ α)
  | dropColumn (table column : String)
  | createIndex (table : String) (index : Index)
  | dropIndex (name : String)
  deriving DecidableEq, Repr

section statements
variable {τ α : Type}

/-- The names in the schema allow the statement. -/
def Statement.Allowed : Statement τ α → List (Table τ α) → Prop
  | .createTable d, tables =>
      -- a foreign key may refer to the new table itself
      d.create.relations.Nodup ∧ (∀ name ∈ d.create.relations, name ∉ relations tables)
        ∧ (∀ name ∈ d.keyColumns, name ∈ d.columnNames)
        ∧ ∀ fk ∈ d.foreignKeys, ∃ t ∈ tables ++ [d.create], fk.RefersTo t
  | .dropTable name, tables =>
      -- without CASCADE
      (∃ t ∈ tables, t.name = name)
        ∧ ∀ t ∈ tables, t.name ≠ name → ∀ fk ∈ t.foreignKeys, fk.table ≠ name
  | .addColumn name column, tables =>
      ∃ t ∈ tables, t.name = name ∧ column.name ∉ t.columnNames
  | .dropColumn name column, tables =>
      (∃ t ∈ tables, t.name = name ∧ column ∈ t.columnNames)
        ∧ ∀ t ∈ tables, t.name ≠ name → ∀ fk ∈ t.foreignKeys, fk.table = name →
            column ∉ fk.referred
  | .createIndex name index, tables =>
      index.name ∉ relations tables
        ∧ ∃ t ∈ tables, t.name = name ∧ ∀ column ∈ index.columns, column ∈ t.columnNames
  | .dropIndex name, tables => ∃ t ∈ tables, name ∈ t.indexes.map (·.name)

instance : ∀ (st : Statement τ α) (tables : List (Table τ α)), Decidable (st.Allowed tables)
  | .createTable _, _ => inferInstanceAs (Decidable (_ ∧ _))
  | .dropTable _, _ => inferInstanceAs (Decidable (_ ∧ _))
  | .addColumn _ _, tables => inferInstanceAs (Decidable (∃ t ∈ tables, _))
  | .dropColumn _ _, _ => inferInstanceAs (Decidable (_ ∧ _))
  | .createIndex _ _, _ => inferInstanceAs (Decidable (_ ∧ _))
  | .dropIndex _, tables => inferInstanceAs (Decidable (∃ t ∈ tables, _))

/-- A table without rows, if it is there. -/
def EmptyIn (tables : List (Table τ α)) (name : String) : Prop :=
  ∀ t ∈ tables, t.name = name → t.rows = []

instance (tables : List (Table τ α)) (name : String) : Decidable (EmptyIn tables name) :=
  decidable_of_iff (∀ t ∈ tables, t.name = name → t.rows.isEmpty = true)
    (forall₂_congr fun _ _ => imp_congr_right fun _ => List.isEmpty_iff)

/-- The table that has to be empty for the statement: a required column is
added to it, and rows that are there would have NULL in it. -/
def Statement.demand? : Statement τ α → Option String
  | .addColumn name column =>
      if column.nullable || column.serverDefault.isSome then none else some name
  | _ => none

/-- The rows fit the statement. -/
def Statement.Fits (st : Statement τ α) (tables : List (Table τ α)) : Prop :=
  ∀ name ∈ st.demand?, EmptyIn tables name

instance (st : Statement τ α) (tables : List (Table τ α)) : Decidable (st.Fits tables) :=
  inferInstanceAs (Decidable (∀ name ∈ st.demand?, EmptyIn tables name))

/-- The tables after the statement. -/
def Statement.effect : Statement τ α → List (Table τ α) → List (Table τ α)
  | .createTable d, tables => tables ++ [d.create]
  | .dropTable name, tables => tables.filter (·.name ≠ name)
  | .addColumn name column, tables => update (·.name) name (·.addColumn column) tables
  | .dropColumn name column, tables => update (·.name) name (·.dropColumn column) tables
  | .createIndex name index, tables => update (·.name) name (·.createIndex index) tables
  | .dropIndex name, tables => tables.map (·.dropIndex name)

/-- The statement that takes back what was built. -/
def Statement.undo? : Statement τ α → Option (Statement τ α)
  | .createTable d => some (.dropTable d.name)
  | .addColumn name column => some (.dropColumn name column.name)
  | .createIndex _ index => some (.dropIndex index.name)
  | .dropTable _ | .dropColumn _ _ | .dropIndex _ => none

theorem fits_of_none {st : Statement τ α} {tables : List (Table τ α)} (h : st.demand? = none) :
    st.Fits tables := by
  intro name hname
  rw [h] at hname
  cases hname

/-- Nothing that is there is taken away. -/
abbrev Statement.Builds (st : Statement τ α) : Prop := st.undo?.isSome = true

/-- A statement is executed, or fails. -/
def execute (tables : List (Table τ α)) (st : Statement τ α) : Option (List (Table τ α)) :=
  if st.Allowed tables ∧ st.Fits tables then some (st.effect tables) else none

/-- Statements one after the other. -/
def executeAll (sts : List (Statement τ α)) (tables : List (Table τ α)) :
    Option (List (Table τ α)) :=
  sts.foldlM execute tables

theorem execute_eq_some_iff {tables tables' : List (Table τ α)} {st : Statement τ α} :
    execute tables st = some tables'
      ↔ st.Allowed tables ∧ st.Fits tables ∧ tables' = st.effect tables := by
  unfold execute
  split
  next h => simp [h.1, h.2, eq_comm]
  next h =>
    constructor
    · intro heq
      cases heq
    · rintro ⟨allowed, fits, -⟩
      exact absurd ⟨allowed, fits⟩ h

@[simp] theorem executeAll_nil (tables : List (Table τ α)) :
    executeAll [] tables = some tables := rfl

theorem executeAll_cons_eq_some_iff {tables tables' : List (Table τ α)} {st : Statement τ α}
    {sts : List (Statement τ α)} :
    executeAll (st :: sts) tables = some tables'
      ↔ st.Allowed tables ∧ st.Fits tables ∧ executeAll sts (st.effect tables) = some tables' := by
  unfold executeAll
  rw [List.foldlM_cons, Option.bind_eq_bind, Option.bind_eq_some_iff]
  constructor
  · rintro ⟨next, hst, hsts⟩
    obtain ⟨allowed, fits, rfl⟩ := execute_eq_some_iff.mp hst
    exact ⟨allowed, fits, hsts⟩
  · rintro ⟨allowed, fits, hsts⟩
    exact ⟨_, execute_eq_some_iff.mpr ⟨allowed, fits, rfl⟩, hsts⟩

theorem executeAll_append (sts sts' : List (Statement τ α)) (tables : List (Table τ α)) :
    executeAll (sts ++ sts') tables = (executeAll sts tables).bind (executeAll sts') := by
  unfold executeAll
  rw [List.foldlM_append]
  rfl

end statements

/-! ## §2. The schema of a database. -/

section schema
variable {τ α : Type} {tables tables' : List (Table τ α)} {st : Statement τ α}
  {sts : List (Statement τ α)}

/-- A table without its rows. -/
def Table.bare (t : Table τ α) : Table τ α := { t with rows := [] }

/-- The schema: all tables without their rows. -/
def bare (tables : List (Table τ α)) : List (Table τ α) := tables.map Table.bare

theorem relations_bare (tables : List (Table τ α)) :
    relations (bare tables) = relations tables := by
  unfold relations bare
  rw [List.flatMap_map]
  rfl

theorem exists_bare {p : Table τ α → Prop} (h : ∀ t, p t.bare ↔ p t) :
    (∃ t ∈ bare tables, p t) ↔ ∃ t ∈ tables, p t := by
  unfold bare
  simp only [List.mem_map, exists_exists_and_eq_and, h]

theorem forall_bare {p : Table τ α → Prop} (h : ∀ t, p t.bare ↔ p t) :
    (∀ t ∈ bare tables, p t) ↔ ∀ t ∈ tables, p t := by
  unfold bare
  simp only [List.forall_mem_map, h]

/-- What is allowed is a question of the schema. -/
theorem allowed_bare : st.Allowed (bare tables) ↔ st.Allowed tables := by
  cases st with
  | createTable d =>
      have hcreate : bare tables ++ [d.create] = bare (tables ++ [d.create]) := by
        unfold bare
        rw [List.map_append]
        rfl
      simp only [Statement.Allowed, relations_bare, hcreate]
      exact and_congr_right fun _ => and_congr_right fun _ => and_congr_right fun _ =>
        forall₂_congr fun _ _ => exists_bare fun _ => Iff.rfl
  | dropTable name =>
      exact and_congr (exists_bare fun _ => Iff.rfl) (forall_bare fun _ => Iff.rfl)
  | addColumn name column => exact exists_bare fun _ => Iff.rfl
  | dropColumn name column =>
      exact and_congr (exists_bare fun _ => Iff.rfl) (forall_bare fun _ => Iff.rfl)
  | createIndex name index =>
      simp only [Statement.Allowed, relations_bare]
      exact and_congr_right fun _ => exists_bare fun _ => Iff.rfl
  | dropIndex name => exact exists_bare fun _ => Iff.rfl

theorem bare_update {name : String} {f : Table τ α → Table τ α}
    (hf : ∀ t, f t.bare = (f t).bare) :
    update (·.name) name f (bare tables) = bare (update (·.name) name f tables) := by
  unfold update bare
  rw [List.map_map, List.map_map]
  apply List.map_congr_left
  intro t _
  show (if t.name = name then f t.bare else t.bare) = (if t.name = name then f t else t).bare
  split
  · exact hf t
  · rfl

theorem effect_bare : st.effect (bare tables) = bare (st.effect tables) := by
  cases st with
  | createTable d =>
      show bare tables ++ [d.create] = bare (tables ++ [d.create])
      unfold bare
      rw [List.map_append]
      rfl
  | dropTable name =>
      show (bare tables).filter _ = bare (tables.filter _)
      unfold bare
      rw [List.filter_map]
      rfl
  | addColumn name column => exact bare_update fun _ => rfl
  | dropColumn name column => exact bare_update fun _ => rfl
  | createIndex name index => exact bare_update fun _ => rfl
  | dropIndex name =>
      show (bare tables).map _ = bare (tables.map _)
      unfold bare
      rw [List.map_map, List.map_map]
      rfl

/-- A schema has no rows that do not fit. -/
theorem fits_bare : st.Fits (bare tables) := by
  intro name _ t mem _
  obtain ⟨t', -, rfl⟩ := List.mem_map.mp mem
  rfl

/-- Building neither fills a table nor empties one. -/
theorem emptyIn_effect (builds : st.Builds) (name : String) :
    EmptyIn (st.effect tables) name ↔ EmptyIn tables name := by
  have hupdate : ∀ {table : String} {f : Table τ α → Table τ α}, (∀ t, (f t).name = t.name) →
      (∀ t, (f t).rows = [] ↔ t.rows = []) →
      (EmptyIn (update (·.name) table f tables) name ↔ EmptyIn tables name) := by
    intro table f hname hrows
    unfold EmptyIn update
    rw [List.forall_mem_map]
    refine forall₂_congr fun t _ => ?_
    split
    · rw [hname, hrows]
    · rfl
  cases st with
  | createTable d =>
      show (∀ t ∈ tables ++ [d.create], t.name = name → t.rows = []) ↔ _
      constructor
      · exact fun h t mem => h t (List.mem_append_left _ mem)
      · intro h t mem hname
        rcases List.mem_append.mp mem with mem | mem
        · exact h t mem hname
        · rw [List.mem_singleton.mp mem]
          rfl
  | addColumn table column =>
      refine hupdate (fun _ => rfl) fun t => ?_
      exact List.map_eq_nil_iff
  | createIndex table index => exact hupdate (fun _ => rfl) fun _ => Iff.rfl
  | dropTable | dropColumn | dropIndex => cases builds

/-- **What building statements need**: they can be executed on the tables if
they can be on the schema, and every table that has to be empty is empty
before the first of them.  The schema is the same either way. -/
theorem executeAll_iff : ∀ {sts : List (Statement τ α)} {tables : List (Table τ α)},
    (∀ st ∈ sts, st.Builds) → ∀ {schema : List (Table τ α)},
      (∃ tables', executeAll sts tables = some tables' ∧ bare tables' = schema)
        ↔ executeAll sts (bare tables) = some schema
          ∧ ∀ st ∈ sts, ∀ name ∈ st.demand?, EmptyIn tables name
  | [], tables, _, schema => by simp
  | st :: sts, tables, builds, schema => by
      have hbuilds := builds st List.mem_cons_self
      have ih : (∃ tables', executeAll sts (st.effect tables) = some tables'
            ∧ bare tables' = schema)
          ↔ executeAll sts (bare (st.effect tables)) = some schema
            ∧ ∀ st' ∈ sts, ∀ name ∈ st'.demand?, EmptyIn (st.effect tables) name :=
        executeAll_iff fun st' mem => builds st' (List.mem_cons_of_mem _ mem)
      simp only [emptyIn_effect hbuilds] at ih
      simp only [executeAll_cons_eq_some_iff, allowed_bare, effect_bare, fits_bare, true_and,
        List.forall_mem_cons]
      constructor
      · -- the demands of the rest are made after this statement, and nothing was filled
        rintro ⟨tables', ⟨allowed, fits, hrest⟩, hschema⟩
        obtain ⟨hbare, hdemands⟩ := ih.mp ⟨tables', hrest, hschema⟩
        exact ⟨⟨allowed, hbare⟩, fits, hdemands⟩
      · rintro ⟨⟨allowed, hbare⟩, fits, hdemands⟩
        obtain ⟨tables', hrest, hschema⟩ := ih.mpr ⟨hbare, hdemands⟩
        exact ⟨tables', ⟨allowed, fits, hrest⟩, hschema⟩

/-- **Statements without demands** are executed whenever the schema allows
them. -/
theorem executeAll_of_bare : ∀ {sts : List (Statement τ α)} {tables : List (Table τ α)},
    (∀ st ∈ sts, st.demand? = none) → ∀ {schema : List (Table τ α)},
      executeAll sts (bare tables) = some schema →
      ∃ tables', executeAll sts tables = some tables' ∧ bare tables' = schema
  | [], tables, _, schema, h => ⟨tables, rfl, Option.some.inj h⟩
  | st :: sts, tables, demands, schema, h => by
      obtain ⟨allowed, -, hrest⟩ := executeAll_cons_eq_some_iff.mp h
      rw [effect_bare] at hrest
      obtain ⟨tables', hrest, hschema⟩ := executeAll_of_bare
        (fun st' mem => demands st' (List.mem_cons_of_mem _ mem)) hrest
      exact ⟨tables', executeAll_cons_eq_some_iff.mpr ⟨allowed_bare.mp allowed,
        fits_of_none (demands st List.mem_cons_self), hrest⟩, hschema⟩

end schema

end EventCart.Lib.Ddl
