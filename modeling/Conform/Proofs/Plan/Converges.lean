import Conform.Proofs.Dialect.Settled
import Conform.Proofs.Plan.InPlace
import Conform.Proofs.Plan.Unchanged

/-! One plan is enough. What a plan makes of a table is in line with the declaration, so that the
next plan has nothing left to do. -/
namespace Conform

/-- A live table that is in line with its declaration. -/
structure Conforms (d : Dialect) (t : Schema.Table) (columns : List Sql.Column)
    (live : Live.Table) : Prop where
  columns : ∀ c ∈ columns, ∃ type, live.typeOf? c.name = some type ∧
    Text.sameLetters (d.canonicalType type) c.type = true
  indexes : ∀ i ∈ t.indexes, live.index? (t.indexName i) = some (.written (t.indexDefinition i))
  key : live.primaryKey = t.idFields
  foreignKeys : ∀ r ∈ t.foreignKeys, live.hasForeignKey r = true

section
variable {d : Dialect} {t : Schema.Table} {columns : List Sql.Column}

theorem exists_columnType_of_desired (desired : d.desiredColumns t = .ok columns)
    (member : c ∈ columns) : ∃ field, d.columnType field = .ok c.type := by
  obtain ⟨field, _, found⟩ := exists_of_mem_of_mapM_ok desired member
  cases typed : d.columnType field with
  | error => simp [typed, Except.map] at found
  | ok type =>
    rw [typed] at found
    cases found
    exact ⟨field, typed⟩

theorem settled_of_desired (settled : d.Settled) (desired : d.desiredColumns t = .ok columns)
    (member : c ∈ columns) : Text.sameLetters (d.canonicalType c.type) c.type = true := by
  obtain ⟨field, typed⟩ := exists_columnType_of_desired desired member
  exact settled field c.type typed

/-- Nothing is left to do on a table that is in line with its declaration. -/
theorem Conforms.plan_eq {live : Live.Table} (conforms : Conforms d t columns live)
    (desired : d.desiredColumns t = .ok columns) : d.plan t (some live) = .ok (.alter []) := by
  refine Dialect.plan_unchanged_iff.mpr ⟨columns, desired, Dialect.changes_eq_nil_iff.mpr
    ⟨fun c member => ?_, fun i member => ?_, ?_, fun r member => ?_⟩⟩
  · obtain ⟨type, present, agrees⟩ := conforms.columns c member
    obtain ⟨current, found, rfl⟩ := Option.map_eq_some_iff.mp present
    exact Dialect.columnChange_eq_none_iff.mpr ⟨current, found, agrees⟩
  · exact indexChanges_eq_nil_iff.mpr ⟨_, conforms.indexes i member, rfl, rfl⟩
  · exact Dialect.primaryKeyChange_eq_none_iff.mpr conforms.key
  · exact Dialect.foreignKeyChange_eq_none_iff.mpr (conforms.foreignKeys r member)

/-- A table created with all its indexes is in line with its declaration. -/
theorem created_conforms (settled : d.Settled) (desired : d.desiredColumns t = .ok columns)
    (distinctColumns : (t.columns.map (·.name)).Nodup)
    (distinctIndexes : (t.indexes.map t.indexName).Nodup) :
    Conforms d t columns
      (Operation.alters (.written (t.definition columns)) t.createIndexes) := by
  constructor
  case columns =>
    intro c member
    refine ⟨c.type, ?_, settled_of_desired settled desired member⟩
    have shown := (Part.column_shown c.name).alters (.written (t.definition columns))
      (createIndexes_spared t (by simp))
    have names : (columns.map (·.name)).Nodup := by rwa [Dialect.names_of_desired desired]
    have own := find?_own names member
    rw [shown]
    simp only [Live.Table.typeOf?, Live.Table.column?, Live.Table.written, List.find?_map,
      Schema.Table.definition, Function.comp_def, Live.Column.written, own, Option.map_some]
  case indexes =>
    intro i member
    have elsewhere (j : Schema.Index) (differs : t.indexName j ≠ t.indexName i) :
        (Part.index (t.indexName i)).Spared [.createIndex (t.indexDefinition j)] := by
      simp [Part.Spared, Operation.part, Schema.Table.indexDefinition, differs]
    obtain ⟨found, _, result⟩ := (Part.index_shown (t.indexName i)).alters_at
      (.written (t.definition columns)) distinctIndexes member elsewhere (.nil _) (.nil _)
    rw [List.nil_append, List.append_nil, ← List.map_eq_flatMap] at result
    exact result.trans ((Operation.index?_createIndex ..).trans (if_pos rfl))
  case key => exact Part.key_shown.alters _ (createIndexes_spared t (by simp))
  case foreignKeys =>
    intro r member
    have shown := Part.foreignKeys_shown.alters (.written (t.definition columns))
      (createIndexes_spared t (by simp))
    rw [Live.Table.hasForeignKey, shown]
    exact Live.Table.hasForeignKey_written t columns member

/-- What is changed in place is then in line with the declaration. -/
theorem altered_conforms {live : Live.Table} {changes : List Change} (settled : d.Settled)
    (desired : d.desiredColumns t = .ok columns)
    (distinctColumns : (t.columns.map (·.name)).Nodup)
    (distinctIndexes : (t.indexes.map t.indexName).Nodup)
    (changed : d.changes t live columns = .ok changes)
    (inPlace : changes.filterMap (·.reason?) = []) :
    Conforms d t columns (Operation.alters live (changes.filterMap (·.operation?))) := by
  have inPlace := InPlace.of_changes changed inPlace
  rw [operations_of_changes changed]
  constructor
  case columns =>
    intro c member
    have names : (columns.map (·.name)).Nodup := by rwa [Dialect.names_of_desired desired]
    exact inPlace.columns_settled names member (settled_of_desired settled desired member)
  case indexes => exact fun i member => index?_of_operations distinctIndexes member
  case key => exact inPlace.primaryKey_eq
  case foreignKeys => exact fun r member => inPlace.hasForeignKey member

/-- What a plan makes of a table, in either dialect and whatever the table was before, needs no
further change. -/
theorem plan_converges {live : Option Live.Table} (known : d = .sqlite ∨ d = .postgres)
    (distinctColumns : (t.columns.map (·.name)).Nodup)
    (distinctIndexes : (t.indexes.map t.indexName).Nodup)
    (plan : d.plan t live = .ok p) : d.plan t (p.effect live) = .ok (.alter []) := by
  have settled : d.Settled := by
    rcases known with rfl | rfl
    · exact Dialect.sqlite_settled
    · exact Dialect.postgres_settled
  obtain ⟨columns, desired, planned⟩ := Dialect.planned plan
  have created : d.plan t (Operation.effects none
      (.createTable (t.definition columns) true :: t.createIndexes)) = .ok (.alter []) := by
    have made : Operation.effects none (.createTable (t.definition columns) true :: t.createIndexes)
        = some (Operation.alters (.written (t.definition columns)) t.createIndexes) :=
      Operation.effects_some _ (createIndexes_spared t (by simp))
    rw [made]
    exact (created_conforms settled desired distinctColumns distinctIndexes).plan_eq desired
  cases planned with
  | create | rebuild => exact created
  | @alter live changes changed inPlace =>
    have spared : Part.whole.Spared (changes.filterMap (·.operation?)) := by
      rw [operations_of_changes changed]
      exact whole_spared
    rw [Plan.effect, Operation.effects_some live spared]
    exact (altered_conforms settled desired distinctColumns distinctIndexes changed
      inPlace).plan_eq desired

end

/-- A table that gets a key and an index; in SQLite it has to be rebuilt for the key. -/
private def keyed : Schema.Table where
  name := "T"
  fields := [{ name := "id", type := "Int" }, { name := "note", type := "String" }]
  indexes := [{ fields := ["note"] }]
  idFields := ["id"]

private def unkeyed : Live.Table where
  name := "T"
  columns := [{ name := "id", type := "integer" }, { name := "old", type := "TEXT" }]

theorem keyed_plan_converges :
    (keyed.columns.map (·.name)).Nodup ∧ (keyed.indexes.map keyed.indexName).Nodup ∧
      ∃ p, Dialect.sqlite.plan keyed (some unkeyed) = .ok p ∧
        p = .rebuild [.primaryKey [] ["id"]] {
          create := .createTable {
            name := "T"
            columns := [⟨"id", "INTEGER"⟩, ⟨"note", "TEXT"⟩]
            primaryKey := ["id"] } true
          indexes := [.createIndex ⟨"idx_T_note", "T", ["note"], false⟩]
          copyColumns := ["id"] } ∧
        Dialect.sqlite.plan keyed (p.effect (some unkeyed)) = .ok (.alter []) := by
  have columns : (keyed.columns.map (·.name)).Nodup := by decide +kernel
  have indexes : (keyed.indexes.map keyed.indexName).Nodup := by decide +kernel
  have plan : Dialect.sqlite.plan keyed (some unkeyed) = .ok (.rebuild [.primaryKey [] ["id"]] {
      create := .createTable {
        name := "T"
        columns := [⟨"id", "INTEGER"⟩, ⟨"note", "TEXT"⟩]
        primaryKey := ["id"] } true
      indexes := [.createIndex ⟨"idx_T_note", "T", ["note"], false⟩]
      copyColumns := ["id"] }) := by decide +kernel
  exact ⟨columns, indexes, _, plan, rfl, plan_converges (.inl rfl) columns indexes plan⟩

end Conform
