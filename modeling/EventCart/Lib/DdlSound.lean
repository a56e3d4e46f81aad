/-
  EventCart.Lib.DdlSound
  ──────────────────────
  **SOUND SCHEMAS.**

  In the schema of a database names are unique, constraints and indexes are
  about columns that are there, and foreign keys refer to tables that are
  there.  A statement that is allowed leaves it so (`Sound.effect`).
-/
import EventCart.Lib.Ddl

namespace EventCart.Lib.Ddl

/-- Names are unique, constraints and indexes are about columns that are there,
and foreign keys refer to tables that are there. -/
structure Sound {τ α : Type} (tables : List (Table τ α)) : Prop where
  names : (relations tables).Nodup
  keyed : ∀ t ∈ tables, ∀ name ∈ t.keyColumns, name ∈ t.columnNames
  indexed : ∀ t ∈ tables, ∀ index ∈ t.indexes, ∀ name ∈ index.columns, name ∈ t.columnNames
  referred : ∀ t ∈ tables, ∀ fk ∈ t.foreignKeys,
    ∃ u ∈ tables, u.name = fk.table ∧ ∀ name ∈ fk.referred, name ∈ u.columnNames

section sound
variable {τ α : Type} {tables : List (Table τ α)} {st : Statement τ α}

theorem sound_nil : Sound ([] : List (Table τ α)) where
  names := List.nodup_nil
  keyed := fun _ mem => absurd mem List.not_mem_nil
  indexed := fun _ mem => absurd mem List.not_mem_nil
  referred := fun _ mem => absurd mem List.not_mem_nil

/-- Soundness is a question of the schema. -/
theorem Sound.of_bare (sound : Sound (bare tables)) : Sound tables where
  names := relations_bare tables ▸ sound.names
  keyed := (forall_bare fun _ => Iff.rfl).mp sound.keyed
  indexed := (forall_bare fun _ => Iff.rfl).mp sound.indexed
  referred := fun t mem fk hfk => (exists_bare fun _ => Iff.rfl).mp
    (sound.referred t.bare (List.mem_map_of_mem mem) fk hfk)

theorem mem_addColumn {t : Table τ α} {column : Column τ α} {n : String}
    (h : n ∈ t.columnNames) : n ∈ (t.addColumn column).columnNames := by
  show n ∈ (t.columns ++ [column]).map (·.name)
  rw [List.map_append]
  exact List.mem_append_left _ h

theorem mem_dropColumn {t : Table τ α} {column n : String} (h : n ∈ t.columnNames)
    (hne : n ≠ column) : n ∈ (t.dropColumn column).columnNames := by
  obtain ⟨c, mem, rfl⟩ := List.mem_map.mp h
  exact List.mem_map_of_mem (List.mem_filter.mpr ⟨mem, decide_eq_true hne⟩)

theorem mem_relations {t : Table τ α} (mem : t ∈ tables) {name : String}
    (h : name ∈ t.relations) : name ∈ relations tables :=
  List.mem_flatMap.mpr ⟨t, mem, h⟩

theorem name_mem_relations {t : Table τ α} (mem : t ∈ tables) : t.name ∈ relations tables :=
  mem_relations mem List.mem_cons_self

/-- A name stands for one table. -/
theorem Sound.table_unique (sound : Sound tables) {t u : Table τ α} (ht : t ∈ tables)
    (hu : u ∈ tables) (hname : t.name = u.name) : t = u := by
  have hnames : (tables.map (·.name)).Nodup := by
    refine List.pairwise_map.mpr ((List.nodup_flatMap.mp sound.names).2.imp ?_)
    intro t u hdisjoint heq
    exact hdisjoint List.mem_cons_self (heq ▸ List.mem_cons_self)
  exact row_unique hnames ht hu hname

/-- Every table is altered, and one of them gets new names. -/
theorem nodup_relations_map (nodup : (relations tables).Nodup) {g : Table τ α → Table τ α}
    (name : String) {new : List String} (fresh : ∀ n ∈ new, n ∉ relations tables)
    (hg : ∀ t ∈ tables, (g t).relations.Nodup
      ∧ ∀ n ∈ (g t).relations, n ∈ t.relations ∨ t.name = name ∧ n ∈ new) :
    (relations (tables.map g)).Nodup := by
  obtain ⟨-, hpairwise⟩ := List.nodup_flatMap.mp nodup
  refine List.nodup_flatMap.mpr ⟨?_, ?_⟩
  · intro t mem
    obtain ⟨t', mem', rfl⟩ := List.mem_map.mp mem
    exact (hg t' mem').1
  · rw [List.pairwise_map]
    refine hpairwise.imp_of_mem ?_
    intro t u ht hu hdisjoint n hn hn'
    rcases (hg t ht).2 n hn with hold | ⟨hname, hnew⟩
    · rcases (hg u hu).2 n hn' with hold' | ⟨-, hnew⟩
      · exact hdisjoint hold hold'
      · exact fresh n hnew (mem_relations ht hold)
    · rcases (hg u hu).2 n hn' with hold' | ⟨hname', -⟩
      · exact fresh n hnew (mem_relations hu hold')
      · -- both would be the table of that name
        exact hdisjoint List.mem_cons_self (hname.trans hname'.symm ▸ List.mem_cons_self)

/-- A table and what became of it: `new` are the names it got. -/
structure Alters (new : List String) (t t' : Table τ α) : Prop where
  name : t'.name = t.name
  nodup : t'.relations.Nodup
  names : ∀ n ∈ t'.relations, n ∈ t.relations ∨ n ∈ new
  keyed : ∀ n ∈ t'.keyColumns, n ∈ t'.columnNames
  indexed : ∀ index ∈ t'.indexes, ∀ n ∈ index.columns, n ∈ t'.columnNames
  foreignKeys : ∀ fk ∈ t'.foreignKeys, fk ∈ t.foreignKeys

/-- What foreign keys refer to is still there. -/
def KeepsReferred (g : Table τ α → Table τ α) (tables : List (Table τ α)) : Prop :=
  ∀ t ∈ tables, ∀ fk ∈ (g t).foreignKeys, ∀ u ∈ tables, u.name = fk.table →
    ∀ n ∈ fk.referred, n ∈ u.columnNames → n ∈ (g u).columnNames

/-- **Tables altered one by one**: one of them may get new names. -/
theorem Sound.map (sound : Sound tables) {g : Table τ α → Table τ α} (name : String)
    (new : List String) (fresh : ∀ n ∈ new, n ∉ relations tables)
    (hg : ∀ t ∈ tables, Alters (if t.name = name then new else []) t (g t))
    (hreferred : KeepsReferred g tables) : Sound (tables.map g) where
  names := by
    refine nodup_relations_map sound.names name fresh fun t mem =>
      ⟨(hg t mem).nodup, fun n hn => ?_⟩
    rcases (hg t mem).names n hn with hold | hnew
    · exact .inl hold
    · split at hnew
      next hname => exact .inr ⟨hname, hnew⟩
      next => exact absurd hnew List.not_mem_nil
  keyed := by
    rw [List.forall_mem_map]
    exact fun t mem => (hg t mem).keyed
  indexed := by
    rw [List.forall_mem_map]
    exact fun t mem => (hg t mem).indexed
  referred := by
    rw [List.forall_mem_map]
    intro t mem fk hfk
    obtain ⟨u, hu, htable, hcolumns⟩ :=
      sound.referred t mem fk ((hg t mem).foreignKeys fk hfk)
    exact ⟨g u, List.mem_map_of_mem hu, (hg u hu).name.trans htable,
      fun n hn => hreferred t mem fk hfk u hu htable n hn (hcolumns n hn)⟩

theorem Sound.alters_self (sound : Sound tables) {t : Table τ α} (mem : t ∈ tables) :
    Alters [] t t where
  name := rfl
  nodup := (List.nodup_flatMap.mp sound.names).1 t mem
  names := fun _ h => .inl h
  keyed := sound.keyed t mem
  indexed := sound.indexed t mem
  foreignKeys := fun _ h => h

theorem Alters.dropColumn {t : Table τ α} (h : Alters [] t t) (column : String) :
    Alters [] t (t.dropColumn column) := by
  have hsub : (t.dropColumn column).relations.Sublist t.relations :=
    .cons_cons _ (.append (List.filter_sublist.map _) (List.filter_sublist.map _))
  refine ⟨rfl, h.nodup.sublist hsub, fun n hn => .inl (hsub.subset hn), fun n hn => ?_,
    fun index hindex n hn => ?_, fun fk hfk => (List.mem_filter.mp hfk).1⟩
  · -- what is left is about other columns
    have hold : n ∈ t.keyColumns ∧ n ≠ column := by
      unfold Declaration.keyColumns at hn ⊢
      simp only [List.mem_append, List.mem_flatMap] at hn ⊢
      rcases hn with (hprimary | ⟨unique, hunique, hn⟩) | ⟨fk, hfk, hn⟩
      · have hprimary : n ∈ if column ∈ t.primaryKey then [] else t.primaryKey := hprimary
        split at hprimary
        next => exact absurd hprimary List.not_mem_nil
        next hnot => exact ⟨.inl (.inl hprimary), fun heq => hnot (heq ▸ hprimary)⟩
      · obtain ⟨mem, hnot⟩ := List.mem_filter.mp hunique
        exact ⟨.inl (.inr ⟨unique, mem, hn⟩), fun heq => of_decide_eq_true hnot (heq ▸ hn)⟩
      · obtain ⟨mem, hnot⟩ := List.mem_filter.mp hfk
        exact ⟨.inr ⟨fk, mem, hn⟩, fun heq => (of_decide_eq_true hnot).1 (heq ▸ hn)⟩
    exact mem_dropColumn (h.keyed n hold.1) hold.2
  · obtain ⟨mem, hnot⟩ := List.mem_filter.mp hindex
    exact mem_dropColumn (h.indexed index mem n hn) fun heq => of_decide_eq_true hnot (heq ▸ hn)

/-- One table altered. -/
theorem Sound.update (sound : Sound tables) {f : Table τ α → Table τ α} {name : String}
    (new : List String) (fresh : ∀ n ∈ new, n ∉ relations tables)
    (hf : ∀ t ∈ tables, t.name = name → Alters new t (f t))
    (hreferred : KeepsReferred (fun t => if t.name = name then f t else t) tables) :
    Sound (Lib.update (·.name) name f tables) := by
  refine sound.map name new fresh (fun t mem => ?_) hreferred
  split
  next hname => exact hf t mem hname
  next => exact sound.alters_self mem

/-- **A statement leaves the schema sound.** -/
theorem Sound.effect (sound : Sound tables) (allowed : st.Allowed tables) :
    Sound (st.effect tables) := by
  cases st with
  | createTable d =>
      obtain ⟨hnodup, hfresh, hcolumns, hrefers⟩ := allowed
      refine ⟨?_, ?_, ?_, ?_⟩
      · show (relations (tables ++ [d.create])).Nodup
        unfold relations
        rw [List.flatMap_append, List.nodup_append]
        refine ⟨sound.names, ?_, fun a ha b hb hab => ?_⟩
        · simpa using hnodup
        · rw [List.flatMap_singleton] at hb
          exact hfresh b hb (hab ▸ ha)
      · intro t mem
        rcases List.mem_append.mp mem with mem | mem
        · exact sound.keyed t mem
        · rw [List.mem_singleton.mp mem]
          exact hcolumns
      · intro t mem
        rcases List.mem_append.mp mem with mem | mem
        · exact sound.indexed t mem
        · rw [List.mem_singleton.mp mem]
          exact fun _ h => absurd h List.not_mem_nil
      · intro t mem fk hfk
        rcases List.mem_append.mp mem with mem | mem
        · obtain ⟨u, hu, h⟩ := sound.referred t mem fk hfk
          exact ⟨u, List.mem_append_left _ hu, h⟩
        · rw [List.mem_singleton.mp mem] at hfk
          obtain ⟨u, hu, htable, hkey⟩ := hrefers fk hfk
          refine ⟨u, hu, htable.symm, fun n hn => ?_⟩
          -- the columns referred to are a key of the table
          have hkeyed : ∀ n ∈ u.keyColumns, n ∈ u.columnNames := by
            rcases List.mem_append.mp hu with hu | hu
            · exact sound.keyed u hu
            · rw [List.mem_singleton.mp hu]
              exact hcolumns
          apply hkeyed
          unfold Declaration.keyColumns
          rcases hkey with hkey | hkey
          · rw [hkey] at hn
            exact List.mem_append_left _ (List.mem_append_left _ hn)
          · obtain ⟨unique, hunique, hcolumns'⟩ := List.mem_map.mp hkey
            refine List.mem_append_left _ (List.mem_append_right _ ?_)
            exact List.mem_flatMap.mpr ⟨unique, hunique, hcolumns' ▸ hn⟩
  | dropTable name =>
      have hkept : ∀ {t : Table τ α}, t ∈ tables.filter (·.name ≠ name) →
          t ∈ tables ∧ t.name ≠ name := fun mem =>
        ⟨(List.mem_filter.mp mem).1, of_decide_eq_true (List.mem_filter.mp mem).2⟩
      refine ⟨?_, fun t mem => sound.keyed t (hkept mem).1,
        fun t mem => sound.indexed t (hkept mem).1, fun t mem fk hfk => ?_⟩
      · obtain ⟨hnodup, hpairwise⟩ := List.nodup_flatMap.mp sound.names
        exact List.nodup_flatMap.mpr ⟨fun t mem => hnodup t (hkept mem).1, hpairwise.filter _⟩
      · obtain ⟨u, hu, htable, hcolumns⟩ := sound.referred t (hkept mem).1 fk hfk
        have hne := allowed.2 t (hkept mem).1 (hkept mem).2 fk hfk
        refine ⟨u, List.mem_filter.mpr ⟨hu, decide_eq_true ?_⟩, htable, hcolumns⟩
        rw [htable]
        exact hne
  | addColumn name column =>
      refine sound.update [] (fun _ h => absurd h List.not_mem_nil)
        (fun t mem _ => ?_) fun t mem fk _ u hu _ n _ hn => ?_
      · have h := sound.alters_self mem
        refine ⟨rfl, h.nodup, h.names, fun n hn => ?_, fun index hindex n hn => ?_, h.foreignKeys⟩
        · exact mem_addColumn (h.keyed n hn)
        · exact mem_addColumn (h.indexed index hindex n hn)
      · show n ∈ (if u.name = name then u.addColumn column else u).columnNames
        split
        · exact mem_addColumn hn
        · exact hn
  | dropColumn name column =>
      refine sound.update [] (fun _ h => absurd h List.not_mem_nil)
        (fun t mem _ => (sound.alters_self mem).dropColumn column)
        fun t mem fk hfk u hu htable n hn hcolumn => ?_
      show n ∈ (if u.name = name then u.dropColumn column else u).columnNames
      split
      next hname =>
        refine mem_dropColumn hcolumn ?_
        rintro rfl
        -- no foreign key that stays refers to the column
        have hfk : fk ∈ (if t.name = name then t.dropColumn n else t).foreignKeys := hfk
        split at hfk
        next hname' =>
          have hkept := of_decide_eq_true (List.mem_filter.mp hfk).2
          exact hkept.2 ⟨htable.symm.trans (hname.trans hname'.symm), hn⟩
        next hother =>
          exact allowed.2 t mem hother fk hfk (htable.symm.trans hname) hn
      next => exact hcolumn
  | createIndex name index =>
      obtain ⟨hfresh, t₀, mem₀, hname₀, hcolumns⟩ := allowed
      refine sound.update [index.name] (fun n hn => ?_)
        (fun t mem hname => ?_) fun t mem fk _ u hu _ n _ hn => ?_
      · exact List.mem_singleton.mp hn ▸ hfresh
      · have h := sound.alters_self mem
        obtain rfl := sound.table_unique mem mem₀ (hname.trans hname₀.symm)
        have hrelations : (t.createIndex index).relations = t.relations ++ [index.name] := by
          simp [Table.relations, Table.createIndex]
        refine ⟨rfl, ?_, fun n hn => ?_, h.keyed, fun index' hindex n hn => ?_, h.foreignKeys⟩
        · rw [hrelations, List.nodup_append]
          refine ⟨h.nodup, List.nodup_singleton _, fun a ha b hb hab => ?_⟩
          rw [hab, List.mem_singleton.mp hb] at ha
          exact hfresh (mem_relations mem ha)
        · rw [hrelations] at hn
          exact List.mem_append.mp hn
        · rcases List.mem_append.mp hindex with hindex | hindex
          · exact h.indexed index' hindex n hn
          · rw [List.mem_singleton.mp hindex] at hn
            exact hcolumns n hn
      · show n ∈ (if u.name = name then u.createIndex index else u).columnNames
        split <;> exact hn
  | dropIndex name =>
      refine sound.map name [] (fun _ h => absurd h List.not_mem_nil)
        (fun t mem => ?_) fun t mem fk _ u hu _ n _ hn => hn
      have h := sound.alters_self mem
      have hsub : (t.dropIndex name).relations.Sublist t.relations :=
        .cons_cons _ (.append (List.Sublist.refl _) (List.filter_sublist.map _))
      exact ⟨rfl, h.nodup.sublist hsub, fun n hn => .inl (hsub.subset hn), h.keyed,
        fun index hindex => h.indexed index (List.mem_filter.mp hindex).1, h.foreignKeys⟩

end sound

end EventCart.Lib.Ddl
