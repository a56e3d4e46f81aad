/-
  EventCart.Migrations.Walks
  ──────────────────────────
  **A DATABASE AND ITS VERSIONS.**

  `alembic upgrade` and `alembic downgrade` through `migrations/env.py`: the
  revisions between two versions, in one transaction on PostgreSQL, while
  other programs write rows.

    §1  versions, and the walk from one to another;
    §2  the schema of each version (`schema_up`, `schema_down`);
    §3  runs of upgrades, downgrades and writes (`run_inv`);
    §4  the schema and the constraints after every run, and which commands
        return (`migrations_return`);
    §5  the rows: up and down, what the lowest version on the way has tables
        and columns for stays as it was (`rows_survive`).
-/
import EventCart.Lib.DdlRows
import EventCart.Lib.Runs
import EventCart.Migrations.Versions

namespace EventCart.Migrations

open EventCart.Lib EventCart.Lib.Ddl

/-! ## §1. Versions. -/

/-- A database: how many revisions have been applied (`alembic_version` names
the last of them), and its tables. -/
structure Migrated where
  version : Nat
  tables : List (Table ColumnType Value)
  deriving DecidableEq, Repr

/-- The version that a target on the command line stands for. -/
def position? (target : String) : Option Nat :=
  if target = "base" then some 0
  else if target = "head" then some versions.length
  else (versions.findIdx? (·.revision = target)).map (· + 1)

theorem position_le {target : String} {n : Nat} (h : position? target = some n) :
    n ≤ versions.length := by
  unfold position? at h
  split at h
  next => exact Option.some.inj h ▸ Nat.zero_le _
  next =>
    split at h
    next => exact Option.some.inj h ▸ Nat.le_refl _
    next =>
      obtain ⟨i, hi, rfl⟩ := Option.map_eq_some_iff.mp h
      exact (List.findIdx?_eq_some_iff_getElem.mp hi).1

/-- The revisions between two versions. -/
def between (m n : Nat) : List Revision := (versions.take n).drop m

/-- What an upgrade from one version to another executes. -/
def upgrades (m n : Nat) : List (Ddl.Statement ColumnType Value) :=
  (between m n).flatMap (·.upgrade)

/-- What a downgrade from one version to another executes. -/
def downgrades (n m : Nat) : List (Ddl.Statement ColumnType Value) :=
  (between m n).reverse.flatMap (·.downgrade)

/-- `alembic upgrade`, in one transaction: nothing has changed unless it
returns.  There is nothing to do towards a version that has been passed. -/
def upgradeTo (n : Nat) (s : Migrated) : Option Migrated :=
  (executeAll (upgrades s.version n) s.tables).map (⟨max s.version n, ·⟩)

/-- `alembic downgrade`. -/
def downgradeTo (n : Nat) (s : Migrated) : Option Migrated :=
  (executeAll (downgrades s.version n) s.tables).map (⟨min s.version n, ·⟩)

theorem between_append {k m n : Nat} (hkm : k ≤ m) (hmn : m ≤ n) :
    between k m ++ between m n = between k n := by
  have hm : versions.take m = (versions.take n).take m := by
    rw [List.take_take, Nat.min_eq_left hmn]
  have hn : (versions.take n).drop m = ((versions.take n).drop k).drop (m - k) := by
    rw [List.drop_drop, Nat.add_sub_cancel' hkm]
  unfold between
  rw [hm, hn, List.drop_take, List.take_append_drop]

theorem mem_between {m n : Nat} {r : Revision} (h : r ∈ between m n) : r ∈ versions :=
  List.mem_of_mem_take (List.mem_of_mem_drop h)

theorem upgrades_append {k m n : Nat} (hkm : k ≤ m) (hmn : m ≤ n) :
    upgrades k n = upgrades k m ++ upgrades m n := by
  unfold upgrades
  rw [← between_append hkm hmn, List.flatMap_append]

/-- The downgrades take the upgrades back, the last one first. -/
theorem downgrades_eq (m n : Nat) : downgrades n m = undoAll (upgrades m n) := by
  have h : ∀ rs : List Revision, (∀ r ∈ rs, r ∈ versions) →
      rs.reverse.flatMap (·.downgrade) = undoAll (rs.flatMap (·.upgrade)) := by
    intro rs
    induction rs with
    | nil => exact fun _ => rfl
    | cons r rs ih =>
        -- the first revision is taken back last
        intro hrs
        rw [List.reverse_cons, List.flatMap_append, List.flatMap_cons, List.flatMap_nil,
          List.append_nil, List.flatMap_cons, undoAll_append,
          ih fun r' mem => hrs r' (List.mem_cons_of_mem _ mem),
          downgrade_eq r (hrs r List.mem_cons_self)]
  exact h _ fun _ => mem_between

theorem builds_of_mem {m n : Nat} : ∀ st ∈ upgrades m n, st.Builds := by
  intro st mem
  obtain ⟨r, hr, hst⟩ := List.mem_flatMap.mp mem
  exact upgrade_builds r (mem_between hr) st hst

/-! ## §2. The schema of a version. -/

/-- What the first revisions make of an empty database. -/
def schemaAt (n : Nat) : List (Table ColumnType Value) :=
  (executeAll (upgrades 0 n) []).getD []

theorem head_built : (executeAll (upgrades 0 versions.length) []).isSome = true := by
  decide +kernel

theorem schema_built {n : Nat} (hn : n ≤ versions.length) :
    executeAll (upgrades 0 n) [] = some (schemaAt n) := by
  obtain ⟨head, hhead⟩ := Option.isSome_iff_exists.mp head_built
  rw [upgrades_append (Nat.zero_le n) hn, executeAll_append, Option.bind_eq_some_iff] at hhead
  obtain ⟨tables, htables, -⟩ := hhead
  unfold schemaAt
  rw [htables]
  rfl

/-- **Up**: on the schema of a version, the upgrades give that of a later one. -/
theorem schema_up {m n : Nat} (hmn : m ≤ n) (hn : n ≤ versions.length) :
    executeAll (upgrades m n) (schemaAt m) = some (schemaAt n) := by
  have h := schema_built hn
  rw [upgrades_append (Nat.zero_le m) hmn, executeAll_append, schema_built (hmn.trans hn)] at h
  exact h

theorem schemaAt_satisfied {n : Nat} (hn : n ≤ versions.length) :
    Sound (schemaAt n) ∧ Satisfied (schemaAt n) := by
  refine executeAll_satisfied sound_nil ⟨?_, ?_⟩ (schema_built hn)
  · exact fun _ mem => absurd mem List.not_mem_nil
  · exact fun _ mem => absurd mem List.not_mem_nil

/-- **Down**: the downgrades give back the schema of the earlier version. -/
theorem schema_down {m n : Nat} (hmn : m ≤ n) (hn : n ≤ versions.length) :
    executeAll (downgrades n m) (schemaAt n) = some (schemaAt m) := by
  obtain ⟨sound, satisfied⟩ := schemaAt_satisfied (hmn.trans hn)
  rw [downgrades_eq]
  exact executeAll_undo builds_of_mem sound satisfied (schema_up hmn hn)

/-- The only table that has to be empty for an upgrade: `correlation_id` of
the last revision is required and has no default. -/
theorem demanded_eq : ∀ n ≤ versions.length, ∀ m ≤ n,
    (upgrades m n).filterMap (·.demand?)
      = if m < n ∧ n = 12 then ["dead_letter_events"] else [] := by
  decide +kernel

/-- `dead_letter_events` comes with the revision before the last. -/
theorem no_deadLetters : ∀ n < 11, ∀ t ∈ schemaAt n, t.name ≠ "dead_letter_events" := by
  decide +kernel

/-! ## §3. Runs. -/

/-- What happens to a database: `alembic` is called, and gets through or is
stopped before its transaction commits, or another program commits rows. -/
inductive Occurrence where
  | upgrade (target : String) (stopped : Bool)
  | downgrade (target : String) (stopped : Bool)
  | write (tables : List (Table ColumnType Value))
  deriving DecidableEq, Repr

/-- A call that fails or is stopped leaves the database alone. -/
def call (walk : Nat → Migrated → Option Migrated) (target : String) (stopped : Bool)
    (s : Migrated) : Migrated :=
  if stopped then s else ((position? target).bind (walk · s)).getD s

def step : Occurrence → Migrated → Migrated
  | .upgrade target stopped, s => call upgradeTo target stopped s
  | .downgrade target stopped, s => call downgradeTo target stopped s
  | .write tables, s =>
      -- programs leave the schema alone, and the constraints are checked
      if bare tables = bare s.tables ∧ Satisfied tables then { s with tables := tables } else s

/-- The tables of a version, with rows that meet the constraints. -/
structure Migrated.Inv (s : Migrated) : Prop where
  known : s.version ≤ versions.length
  schema : bare s.tables = schemaAt s.version
  satisfied : Satisfied s.tables

theorem Migrated.Inv.sound {s : Migrated} (inv : s.Inv) : Sound s.tables :=
  .of_bare (inv.schema ▸ (schemaAt_satisfied inv.known).1)

theorem upgrades_nil {m n : Nat} (h : n ≤ m) : upgrades m n = [] := by
  unfold upgrades between
  rw [List.drop_eq_nil_of_le ((List.length_take_le n versions).trans h)]
  rfl

/-- An upgrade that returns, and has something to do. -/
theorem Migrated.Inv.upgrade {s s' : Migrated} (inv : s.Inv) {n : Nat}
    (hn : n ≤ versions.length) (h : upgradeTo n s = some s') :
    s'.Inv ∧ s'.version = max s.version n := by
  obtain ⟨tables, htables, rfl⟩ := Option.map_eq_some_iff.mp h
  have hsatisfied := (executeAll_satisfied inv.sound inv.satisfied htables).2
  refine ⟨⟨Nat.max_le.mpr ⟨inv.known, hn⟩, ?_, hsatisfied⟩, rfl⟩
  show bare tables = schemaAt (max s.version n)
  rcases Nat.le_total s.version n with hle | hle
  · -- on the schema alone the same statements lead to the schema of `n`
    have hbare := ((executeAll_iff builds_of_mem).mp ⟨tables, htables, rfl⟩).1
    rw [inv.schema, schema_up hle hn] at hbare
    rw [Nat.max_eq_right hle]
    exact (Option.some.inj hbare).symm
  · rw [upgrades_nil hle] at htables
    obtain rfl := Option.some.inj htables
    rw [Nat.max_eq_left hle]
    exact inv.schema

/-- **Every downgrade returns.** -/
theorem Migrated.Inv.downgrade {s : Migrated} (inv : s.Inv) (n : Nat) :
    ∃ s', downgradeTo n s = some s' ∧ s'.Inv ∧ s'.version = min s.version n := by
  have hschema : executeAll (downgrades s.version n) (bare s.tables)
      = some (schemaAt (min s.version n)) := by
    rcases Nat.le_total n s.version with hle | hle
    · -- downwards there are no demands on rows, so the schema decides
      rw [inv.schema, Nat.min_eq_right hle]
      exact schema_down hle inv.known
    · rw [downgrades_eq, upgrades_nil hle, Nat.min_eq_left hle, inv.schema]
      rfl
  obtain ⟨tables, htables, hbare⟩ := executeAll_of_bare
    (fun st mem => (undoAll_takes st (downgrades_eq n s.version ▸ mem)).1) hschema
  refine ⟨⟨min s.version n, tables⟩, ?_, ⟨?_, hbare, ?_⟩, rfl⟩
  · unfold downgradeTo
    rw [htables]
    rfl
  · exact (Nat.min_le_left _ _).trans inv.known
  · exact (executeAll_satisfied inv.sound inv.satisfied htables).2

theorem step_inv {s : Migrated} (inv : s.Inv) (a : Occurrence) : (step a s).Inv := by
  have hcall : ∀ {walk : Nat → Migrated → Option Migrated} (target : String) (stopped : Bool),
      (∀ n s', n ≤ versions.length → walk n s = some s' → s'.Inv) →
        (call walk target stopped s).Inv := by
    intro walk target stopped hwalk
    unfold call
    split
    next => exact inv
    next =>
      cases hreturned : (position? target).bind (walk · s) with
      | none => exact inv
      | some s' =>
          obtain ⟨n, hn, hs'⟩ := Option.bind_eq_some_iff.mp hreturned
          exact hwalk n s' (position_le hn) hs'
  cases a with
  | upgrade target stopped =>
      exact hcall target stopped fun n s' hn h => (inv.upgrade hn h).1
  | downgrade target stopped =>
      refine hcall target stopped fun n s' _ h => ?_
      obtain ⟨t, ht, hinv, -⟩ := inv.downgrade n
      exact Option.some.inj (ht.symm.trans h) ▸ hinv
  | write tables =>
      show Migrated.Inv (if _ then _ else _)
      split
      next h => exact ⟨inv.known, h.1.trans inv.schema, h.2⟩
      next => exact inv

/-- An empty database. -/
def Migrated.base : Migrated := ⟨0, []⟩

/-- **The invariant along runs**, from an empty database. -/
theorem run_inv (history : List Occurrence) : (run step history .base).Inv := by
  have hbase : Migrated.base.Inv := by
    refine ⟨Nat.zero_le _, rfl, ?_, ?_⟩
    · exact fun _ mem => absurd mem List.not_mem_nil
    · exact fun _ mem => absurd mem List.not_mem_nil
  exact run_invariant (I := Migrated.Inv) (fun s a inv => step_inv inv a) history _ hbase

/-! ## §4. Which commands return. -/

/-- **An upgrade returns** unless dead letters are in the way of the last
revision. -/
theorem Migrated.Inv.upgrade_iff {s : Migrated} (inv : s.Inv) {n : Nat} (hle : s.version ≤ n)
    (hn : n ≤ versions.length) :
    (∃ s', upgradeTo n s = some s' ∧ s'.version = n)
      ↔ (s.version = 11 → n = 12 → EmptyIn s.tables "dead_letter_events") := by
  have hreturns : (∃ s', upgradeTo n s = some s' ∧ s'.version = n)
      ↔ ∃ tables, executeAll (upgrades s.version n) s.tables = some tables
          ∧ bare tables = schemaAt n := by
    constructor
    · rintro ⟨s', hs', hversion⟩
      have hschema := (inv.upgrade hn hs').1.schema
      rw [hversion] at hschema
      obtain ⟨tables, htables, rfl⟩ := Option.map_eq_some_iff.mp hs'
      exact ⟨tables, htables, hschema⟩
    · rintro ⟨tables, htables, -⟩
      refine ⟨⟨max s.version n, tables⟩, ?_, Nat.max_eq_right hle⟩
      unfold upgradeTo
      rw [htables]
      rfl
  have hdemands : (∀ st ∈ upgrades s.version n, ∀ name ∈ st.demand?, EmptyIn s.tables name)
      ↔ ∀ name ∈ (upgrades s.version n).filterMap (·.demand?), EmptyIn s.tables name := by
    simp only [List.mem_filterMap]
    constructor
    · rintro h name ⟨st, mem, hname⟩
      exact h st mem name hname
    · exact fun h st mem name hname => h name ⟨st, mem, hname⟩
  rw [hreturns, executeAll_iff builds_of_mem, inv.schema, hdemands, demanded_eq n hn _ hle]
  refine (and_iff_right (schema_up hle hn)).trans ?_
  split
  next hlast =>
    -- the walk goes through the last revision
    rw [List.forall_mem_singleton]
    refine ⟨fun h _ _ => h, fun h => ?_⟩
    by_cases hversion : s.version = 11
    · exact h hversion hlast.2
    · -- below version 11 there is no such table
      intro t mem hname
      have hbelow : s.version < 11 := by omega
      refine absurd hname (no_deadLetters _ hbelow t.bare ?_)
      exact inv.schema ▸ List.mem_map_of_mem mem
  next hnot =>
    refine ⟨fun _ hversion hlast => absurd ⟨by omega, hlast⟩ hnot, fun _ name mem => ?_⟩
    exact absurd mem List.not_mem_nil

/-- **After every run** of upgrades, downgrades and writes the tables are those
of the version and their constraints are satisfied.  Every downgrade returns
at its target, and so does every upgrade, with one exception: from version 11
the last revision cannot be applied while there are dead letters. -/
theorem migrations_return {s : Migrated} (reached : Reaches step .base s) :
    bare s.tables = schemaAt s.version ∧ Satisfied s.tables
      ∧ ∀ target n, position? target = some n →
          (n ≤ s.version → ∃ s', downgradeTo n s = some s' ∧ s'.version = n)
          ∧ (s.version ≤ n → ((∃ s', upgradeTo n s = some s' ∧ s'.version = n)
              ↔ (s.version = 11 → n = 12 → EmptyIn s.tables "dead_letter_events"))) := by
  obtain ⟨history, rfl⟩ := reached
  have inv := run_inv history
  refine ⟨inv.schema, inv.satisfied, fun target n hn => ⟨fun hle => ?_, fun hle => ?_⟩⟩
  · obtain ⟨s', hs', -, hversion⟩ := inv.downgrade n
    exact ⟨s', hs', hversion.trans (Nat.min_eq_right hle)⟩
  · exact inv.upgrade_iff hle (position_le hn)

/-- A dead letter of version 11. -/
def strandedRow : Row Value :=
  [ ("id", some (.string "d")), ("event_id", some (.string "e")),
    ("event_type", some (.string "OrderCreated")), ("aggregate_type", some (.string "Order")),
    ("aggregate_id", some (.string "o")), ("consumer_name", some (.string "inventory-worker")),
    ("attempt_number", some (.integer 3)), ("error", some (.string "boom")),
    ("payload", some (.json (.obj []))), ("failed_at", some (.dateTime 0)),
    ("replayed_at", none) ]

/-- The tables of a version, with one row in one of them. -/
def holding (n : Nat) (name : String) (row : Row Value) : List (Table ColumnType Value) :=
  update (·.name) name (fun t => { t with rows := [row] }) (schemaAt n)

/-- Version 11, and then a dead letter. -/
def stranded : List Occurrence :=
  [ .upgrade "20260626_0011" false, .write (holding 11 "dead_letter_events" strandedRow) ]

theorem migrations_return_stranded :
    let s := run step stranded .base
    s.version = 11 ∧ position? "head" = some 12
      ∧ ¬ ∃ s', upgradeTo 12 s = some s' ∧ s'.version = 12 := by
  have hversion : (run step stranded .base).version = 11 := by decide +kernel
  have hhead : position? "head" = some 12 := by decide +kernel
  obtain ⟨-, -, hcommands⟩ := migrations_return ⟨stranded, rfl⟩
  refine ⟨hversion, hhead, fun hreturned => ?_⟩
  have hempty := ((hcommands "head" 12 hhead).2 (hversion ▸ by decide)).mp hreturned hversion rfl
  revert hempty
  decide +kernel

/-! ## §5. The rows. -/

theorem Migrated.Inv.upgrade_back {s s' : Migrated} (inv : s.Inv) {m n : Nat}
    (h : upgradeTo n s = some s') (hm : m ≤ s.version) :
    downgradeTo m s' = downgradeTo m s := by
  obtain ⟨tables, htables, rfl⟩ := Option.map_eq_some_iff.mp h
  rcases Nat.le_total s.version n with hle | hle
  · -- the way down starts with what the upgrade did, taken back
    have hback := executeAll_undo builds_of_mem inv.sound inv.satisfied htables
    unfold downgradeTo
    simp only [Nat.max_eq_right hle, Nat.min_eq_right hm, Nat.min_eq_right (hm.trans hle)]
    rw [downgrades_eq, upgrades_append hm hle, undoAll_append, executeAll_append, hback,
      downgrades_eq]
    rfl
  · rw [upgrades_nil hle] at htables
    obtain rfl := Option.some.inj htables
    rw [Nat.max_eq_left hle]

theorem downgrade_back {s s' : Migrated} {m n : Nat} (h : downgradeTo n s = some s')
    (hm : m ≤ s'.version) : downgradeTo m s' = downgradeTo m s := by
  obtain ⟨tables, htables, rfl⟩ := Option.map_eq_some_iff.mp h
  rcases Nat.le_total n s.version with hle | hle
  · have hmn : m ≤ n := hm.trans (Nat.min_le_right _ _)
    rw [downgrades_eq] at htables
    unfold downgradeTo
    simp only [Nat.min_eq_right hle, Nat.min_eq_right hmn, Nat.min_eq_right (hmn.trans hle)]
    rw [downgrades_eq, downgrades_eq, upgrades_append hmn hle, undoAll_append, executeAll_append,
      htables]
    rfl
  · rw [downgrades_eq, upgrades_nil hle] at htables
    obtain rfl := Option.some.inj htables
    rw [Nat.min_eq_left hle]

/-- A call of `alembic`. -/
def Occurrence.IsCall : Occurrence → Prop
  | .upgrade _ _ | .downgrade _ _ => True
  | .write _ => False

instance : DecidablePred Occurrence.IsCall
  | .upgrade _ _ | .downgrade _ _ => isTrue trivial
  | .write _ => isFalse id

/-- What a downgrade leaves is the same before and after a call. -/
theorem step_back {s : Migrated} (inv : s.Inv) {m : Nat} (hm : m ≤ s.version) {a : Occurrence}
    (hcall : a.IsCall) (hm' : m ≤ (step a s).version) :
    downgradeTo m (step a s) = downgradeTo m s := by
  have hwalk : ∀ {walk : Nat → Migrated → Option Migrated} (target : String) (stopped : Bool),
      m ≤ (call walk target stopped s).version →
      (∀ n s', walk n s = some s' → m ≤ s'.version → downgradeTo m s' = downgradeTo m s) →
        downgradeTo m (call walk target stopped s) = downgradeTo m s := by
    intro walk target stopped hversion hback
    unfold call at hversion ⊢
    split at hversion
    next hstopped => rw [if_pos hstopped]
    next hstopped =>
      rw [if_neg hstopped]
      cases hreturned : (position? target).bind (walk · s) with
      | none => rfl
      | some s' =>
          rw [hreturned] at hversion
          obtain ⟨n, -, hs'⟩ := Option.bind_eq_some_iff.mp hreturned
          exact hback n s' hs' hversion
  cases a with
  | upgrade target stopped =>
      exact hwalk target stopped hm' fun n s' h _ => inv.upgrade_back h hm
  | downgrade target stopped =>
      exact hwalk target stopped hm' fun n s' h => downgrade_back h
  | write tables => exact absurd hcall id

theorem downgrade_reduced {s s' : Migrated} (inv : s.Inv) {n : Nat}
    (h : downgradeTo n s = some s') : Reduced s.tables s'.tables := by
  obtain ⟨tables, htables, rfl⟩ := Option.map_eq_some_iff.mp h
  rw [downgrades_eq] at htables
  exact executeAll_reduced (fun st mem => (undoAll_takes st mem).2) inv.sound inv.satisfied htables

/-- **Up and down**, with calls stopped or failing on the way: the tables of
the lowest version that is passed have the same rows before and after, under
all columns they have there. -/
theorem rows_survive {s : Migrated} (reached : Reaches step .base s) {m : Nat}
    (hm : m ≤ s.version) (history : List Occurrence)
    (above : Along step (fun s a => a.IsCall ∧ m ≤ (step a s).version) history s) :
    ∃ common : Migrated, common.version = m ∧ bare common.tables = schemaAt m
      ∧ Reduced s.tables common.tables ∧ Reduced (run step history s).tables common.tables := by
  obtain ⟨past, rfl⟩ := reached
  have inv := run_inv past
  obtain ⟨common, hcommon, hinv, hversion⟩ := inv.downgrade m
  rw [Nat.min_eq_right hm] at hversion
  have hrun := run_invariant_along
    (I := fun s => s.Inv ∧ m ≤ s.version ∧ downgradeTo m s = some common)
    (fun s a h hcall => ⟨step_inv h.1 a, hcall.2,
      (step_back h.1 h.2.1 hcall.1 hcall.2).trans h.2.2⟩)
    history _ ⟨inv, hm, hcommon⟩ above
  refine ⟨common, hversion, hversion ▸ hinv.schema, downgrade_reduced inv hcommon, ?_⟩
  exact downgrade_reduced hrun.1 hrun.2.2

/-- An item on sale. -/
def pencilRow : Row Value :=
  [ ("id", some (.string "i")), ("sku", some (.string "pencil")),
    ("name", some (.string "Pencil")), ("quantity_available", some (.integer 3)),
    ("unit_price_cents", some (.integer 150)), ("created_at", some (.dateTime 0)) ]

/-- An item at version 12, down to version 5 and up again. -/
theorem rows_survive_pencil :
    let s := run step [.upgrade "head" false, .write (holding 12 "inventory_items" pencilRow)] .base
    let s' := run step [.downgrade "20260626_0005" false, .upgrade "head" true,
      .upgrade "head" false] s
    s'.version = 12 ∧ (∃ t ∈ s'.tables, t.name = "inventory_items" ∧ t.rows ≠ [])
      ∧ ∃ common : Migrated, common.version = 5 ∧ bare common.tables = schemaAt 5
          ∧ Reduced s.tables common.tables ∧ Reduced s'.tables common.tables :=
  ⟨by decide +kernel, by decide +kernel,
    rows_survive ⟨_, rfl⟩ (by decide +kernel) _ (by decide +kernel)⟩

end EventCart.Migrations
