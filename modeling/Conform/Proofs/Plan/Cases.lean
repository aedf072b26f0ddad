import Conform.Plan
import Conform.Proofs.Traversal

/-! What a plan consists of. Planning looks at one column, one index, the key and one foreign key at
a time, and each of these comparisons has few outcomes. -/
namespace Conform

/-- The type of a live column. -/
def Live.Table.typeOf? (t : Live.Table) (column : String) : Option String :=
  (t.column? column).map (·.type)

/-- How a declared column compares with the live columns. -/
inductive ColumnChanged (d : Dialect) (table : String) (live : Live.Table) (column : Sql.Column) :
    Option Change → Prop where
  | missing (absent : live.typeOf? column.name = none) :
      ColumnChanged d table live column (some (.inPlace (.addColumn table column)))
  | same (present : live.typeOf? column.name = some type)
      (agrees : Text.sameLetters (d.canonicalType type) column.type = true) :
      ColumnChanged d table live column none
  | altered (present : live.typeOf? column.name = some type)
      (safe : Dialect.canConvert (d.canonicalType type) column.type = true)
      (able : d.altersColumns = true) :
      ColumnChanged d table live column (some (.inPlace
        (.alterColumnType table column.name (d.canonicalType type) column.type)))
  | rebuilt (present : live.typeOf? column.name = some type)
      (safe : Dialect.canConvert (d.canonicalType type) column.type = true)
      (unable : d.altersColumns = false) :
      ColumnChanged d table live column (some (.byRebuild
        (.columnType column.name (d.canonicalType type) column.type)))

theorem mem_operations_iff {changes : List Change} :
    o ∈ changes.filterMap (·.operation?) ↔ .inPlace o ∈ changes := by
  rw [List.mem_filterMap]
  constructor
  · rintro ⟨change, member, found⟩
    cases change <;> cases found
    exact member
  · exact fun member => ⟨_, member, rfl⟩

theorem mem_reasons_iff {changes : List Change} :
    reason ∈ changes.filterMap (·.reason?) ↔ .byRebuild reason ∈ changes := by
  rw [List.mem_filterMap]
  constructor
  · rintro ⟨change, member, found⟩
    cases change <;> cases found
    exact member
  · exact fun member => ⟨_, member, rfl⟩

namespace Dialect

variable {d : Dialect} {t : Schema.Table} {live : Live.Table}

theorem columnChanged (changed : d.columnChange table live column = .ok change) :
    ColumnChanged d table live column change := by
  unfold columnChange at changed
  cases found : live.column? column.name with
  | none =>
    rw [found] at changed
    cases changed
    exact .missing (by rw [Live.Table.typeOf?, found]; rfl)
  | some current =>
    have present : live.typeOf? column.name = some current.type := by
      rw [Live.Table.typeOf?, found]
      rfl
    rw [found] at changed
    dsimp only at changed
    split at changed
    · cases changed
      exact .same present ‹_›
    · split at changed
      · cases changed
      · have safe : canConvert (d.canonicalType current.type) column.type = true := by
          simpa using ‹¬ (!canConvert _ _) = true›
        split at changed <;> cases changed
        · exact .altered present safe ‹_›
        · exact .rebuilt present safe (by simpa using ‹¬ d.altersColumns = true›)

/-- A column is beyond repair only if its type has no safe conversion. -/
theorem columnChange_error (failed : d.columnChange table live column = .error e) :
    ∃ oldType, e = .lossyConversion table column.name oldType column.type := by
  unfold columnChange at failed
  split at failed
  · cases failed
  · dsimp only at failed
    split at failed
    · cases failed
    · split at failed
      · exact ⟨_, (Except.error.inj failed).symm⟩
      · split at failed <;> cases failed

theorem columnType_error (failed : d.columnType f = .error e) :
    e = .unsupportedType d.name f.type := by
  unfold columnType at failed
  split at failed
  · cases failed
  · unfold mapType at failed
    split at failed <;> cases failed
    rfl

/-- The columns of a backend have the names of the declared columns. -/
theorem names_of_desired (desired : d.desiredColumns t = .ok columns) :
    columns.map (·.name) = t.columns.map (·.name) := by
  refine map_of_mapM_ok desired fun field column found => ?_
  cases typed : d.columnType field <;> rw [typed] at found <;> cases found
  rfl

/-- All that is found about a table when none of its columns is beyond repair. -/
theorem changes_ok_iff {changes : List Change} : d.changes t live columns = .ok changes ↔
    ∃ columnChanges, columns.mapM (d.columnChange t.name live) = .ok columnChanges ∧
      changes = columnChanges.filterMap id ++ t.indexes.flatMap (indexChanges t live) ++
        (d.primaryKeyChange t live).toList ++
        t.foreignKeys.filterMap (d.foreignKeyChange t live) := by
  unfold Dialect.changes
  cases columns.mapM (d.columnChange t.name live) with
  | error => simp [bind, Except.bind]
  | ok columnChanges =>
    simp only [bind, Except.bind, pure, Except.pure, Except.ok.injEq, exists_eq_left', eq_comm]

/-- Only a column can be beyond repair. -/
theorem changes_error_iff : d.changes t live columns = .error e ↔
    columns.mapM (d.columnChange t.name live) = .error e := by
  unfold Dialect.changes
  cases columns.mapM (d.columnChange t.name live) <;> simp [bind, Except.bind, pure, Except.pure]

/-- What is found about an index is that it goes or that it comes. -/
theorem mem_indexChanges (among : change ∈ indexChanges t live i) :
    change = .inPlace (.dropIndex (t.indexName i) true) ∨
      change = .inPlace (.createIndex (t.indexDefinition i)) := by
  unfold indexChanges at among
  dsimp only at among
  split at among
  · exact .inr (List.mem_singleton.mp among)
  · split at among
    · cases among
    · rcases List.mem_cons.mp among with dropped | created
      · exact .inl dropped
      · exact .inr (List.mem_singleton.mp created)

theorem primaryKeyChanged (found : d.primaryKeyChange t live = some change) :
    change = if d.addsConstraints then
      .inPlace (.setPrimaryKey t.name t.idFields live.primaryKeyName)
    else .byRebuild (.primaryKey live.primaryKey t.idFields) := by
  unfold primaryKeyChange at found
  split at found
  · cases found
  · rw [← apply_ite some] at found
    exact (Option.some.inj found).symm

theorem foreignKeyChanged (found : d.foreignKeyChange t live r = some change) :
    change = if d.addsConstraints then
      .inPlace (.addForeignKey t.name (t.foreignKeyDefinition r))
    else .byRebuild (.foreignKey (t.foreignKeyName r)) := by
  unfold foreignKeyChange at found
  split at found
  · cases found
  · rw [← apply_ite some] at found
    exact (Option.some.inj found).symm

/-- What is found about a table is found about a column, an index, the key or a foreign key. -/
theorem mem_changes_iff {changes : List Change} (changed : d.changes t live columns = .ok changes) :
    change ∈ changes ↔
      (∃ c ∈ columns, d.columnChange t.name live c = .ok (some change)) ∨
      (∃ i ∈ t.indexes, change ∈ indexChanges t live i) ∨
      d.primaryKeyChange t live = some change ∨
      ∃ r ∈ t.foreignKeys, d.foreignKeyChange t live r = some change := by
  obtain ⟨columnChanges, traversed, rfl⟩ := changes_ok_iff.mp changed
  have own : change ∈ columnChanges.filterMap id ↔
      ∃ c ∈ columns, d.columnChange t.name live c = .ok (some change) := by
    rw [List.mem_filterMap]
    constructor
    · rintro ⟨_, among, rfl⟩
      exact exists_of_mem_of_mapM_ok traversed among
    · rintro ⟨c, member, found⟩
      obtain ⟨result, among, same⟩ := result_of_mapM_ok traversed member
      obtain rfl := Except.ok.inj (found.symm.trans same)
      exact ⟨_, among, rfl⟩
  simp only [List.mem_append, own, List.mem_flatMap, Option.mem_toList, List.mem_filterMap,
    or_assoc]

end Dialect

/-- The plans for a table with the given columns. -/
inductive Planned (d : Dialect) (t : Schema.Table) (columns : List Sql.Column) :
    Option Live.Table → Plan → Prop where
  | create : Planned d t columns none
      (.create (.createTable (t.definition columns) true :: t.createIndexes))
  | alter (changed : d.changes t live columns = .ok changes)
      (inPlace : changes.filterMap (·.reason?) = []) :
      Planned d t columns (some live) (.alter (changes.filterMap (·.operation?)))
  | rebuild (changed : d.changes t live columns = .ok changes)
      (needed : changes.filterMap (·.reason?) ≠ []) :
      Planned d t columns (some live) (.rebuild (changes.filterMap (·.reason?)) {
        create := .createTable (t.definition columns) true
        indexes := t.createIndexes
        copyColumns := (columns.filter fun c => (live.column? c.name).isSome).map (·.name) })

theorem Planned.steps_eq
    (planned : Planned d t columns (some live) (.rebuild reasons steps)) :
    steps.create = .createTable (t.definition columns) true ∧
      steps.indexes = t.createIndexes := by
  cases planned
  exact ⟨rfl, rfl⟩

/-- A rebuild copies the declared columns that are there. -/
theorem Planned.mem_copyColumns
    (planned : Planned d t columns (some live) (.rebuild reasons steps)) :
    column ∈ steps.copyColumns ↔
      column ∈ columns.map (·.name) ∧ (live.column? column).isSome = true := by
  cases planned with
  | rebuild =>
    constructor
    · intro member
      obtain ⟨c, kept, rfl⟩ := List.mem_map.mp member
      exact ⟨List.mem_map_of_mem (List.mem_filter.mp kept).1, (List.mem_filter.mp kept).2⟩
    · rintro ⟨member, present⟩
      obtain ⟨c, among, rfl⟩ := List.mem_map.mp member
      exact List.mem_map_of_mem (List.mem_filter.mpr ⟨among, present⟩)

/-- A live column is listed under its name. -/
theorem Live.Table.mem_names_of_column? {live : Live.Table}
    (present : (live.column? column).isSome = true) : column ∈ live.columns.map (·.name) := by
  obtain ⟨current, found⟩ := Option.isSome_iff_exists.mp present
  have named : current.name = column := by simpa using List.find?_some found
  rw [← named]
  exact List.mem_map_of_mem (List.mem_of_find?_eq_some found)

namespace Dialect

variable {d : Dialect} {t : Schema.Table} {live : Live.Table}

theorem plan_none (desired : d.desiredColumns t = .ok columns) : d.plan t none =
    .ok (.create (.createTable (t.definition columns) true :: t.createIndexes)) := by
  rw [plan, desired]
  rfl

theorem plan_in_place {changes : List Change} (desired : d.desiredColumns t = .ok columns)
    (changed : d.changes t live columns = .ok changes)
    (inPlace : changes.filterMap (·.reason?) = []) :
    d.plan t (some live) = .ok (.alter (changes.filterMap (·.operation?))) := by
  simp only [plan, desired, changed, inPlace, bind, Except.bind]
  rfl

theorem plan_by_rebuild {changes : List Change} (desired : d.desiredColumns t = .ok columns)
    (changed : d.changes t live columns = .ok changes)
    (needed : changes.filterMap (·.reason?) ≠ []) :
    d.plan t (some live) = .ok (.rebuild (changes.filterMap (·.reason?)) {
      create := .createTable (t.definition columns) true
      indexes := t.createIndexes
      copyColumns := (columns.filter fun c => (live.column? c.name).isSome).map (·.name) }) := by
  simp only [plan, desired, changed, bind, Except.bind]
  cases reasons : changes.filterMap (·.reason?) with
  | nil => exact absurd reasons needed
  | cons => rfl

theorem plan_untyped {live : Option Live.Table} (untyped : d.desiredColumns t = .error e) :
    d.plan t live = .error e := by
  rw [plan, untyped]
  rfl

theorem plan_unconverted (desired : d.desiredColumns t = .ok columns)
    (failed : d.changes t live columns = .error e) : d.plan t (some live) = .error e := by
  simp only [plan, desired, failed, bind, Except.bind]

/-- Planning fails where a declared column has no type and where a live one has no conversion. -/
theorem plan_error_iff {live : Option Live.Table} : d.plan t live = .error e ↔
    d.desiredColumns t = .error e ∨ ∃ columns table, d.desiredColumns t = .ok columns ∧
      live = some table ∧ columns.mapM (d.columnChange t.name table) = .error e := by
  constructor
  · intro failed
    cases desired : d.desiredColumns t with
    | error e' =>
      obtain rfl : e' = e := Except.error.inj ((plan_untyped desired).symm.trans failed)
      exact .inl rfl
    | ok columns =>
      cases live with
      | none => cases (plan_none desired).symm.trans failed
      | some live =>
        cases changed : d.changes t live columns with
        | error e' =>
          obtain rfl : e' = e :=
            Except.error.inj ((plan_unconverted desired changed).symm.trans failed)
          exact .inr ⟨columns, live, rfl, rfl, changes_error_iff.mp changed⟩
        | ok changes =>
          by_cases inPlace : changes.filterMap (·.reason?) = []
          · cases (plan_in_place desired changed inPlace).symm.trans failed
          · cases (plan_by_rebuild desired changed inPlace).symm.trans failed
  · rintro (untyped | ⟨columns, table, desired, rfl, failed⟩)
    · exact plan_untyped untyped
    · exact plan_unconverted desired (changes_error_iff.mpr failed)

/-- Planning fails for want of a type or of a safe conversion. -/
theorem plan_error {live : Option Live.Table} (failed : d.plan t live = .error e) :
    (∃ type, e = .unsupportedType d.name type) ∨
      ∃ column oldType newType, e = .lossyConversion t.name column oldType newType := by
  rcases plan_error_iff.mp failed with untyped | ⟨columns, table, _, _, unconverted⟩
  · obtain ⟨f, _, found⟩ := exists_of_mapM_error untyped
    cases typed : d.columnType f with
    | error e' =>
      rw [typed] at found
      have own : e' = e := by simpa [Except.map] using found
      exact .inl ⟨f.type, by rw [← own]; exact columnType_error typed⟩
    | ok type =>
      rw [typed] at found
      cases found
  · obtain ⟨column, _, beyond⟩ := exists_of_mapM_error unconverted
    obtain ⟨oldType, rfl⟩ := columnChange_error beyond
    exact .inr ⟨_, _, _, rfl⟩

/-- What the planner finds wrong is wrong with one table. -/
theorem plan_goes {live : Option Live.Table} (failed : d.plan t live = .error e) :
    e.endsRun = false := by
  rcases plan_error failed with ⟨_, rfl⟩ | ⟨_, _, _, rfl⟩ <;> rfl

/-- Every plan is one of these. -/
theorem planned {live : Option Live.Table} (plan : d.plan t live = .ok p) :
    ∃ columns, d.desiredColumns t = .ok columns ∧ Planned d t columns live p := by
  cases desired : d.desiredColumns t with
  | error => simp [Dialect.plan, desired, bind, Except.bind] at plan
  | ok columns =>
    refine ⟨columns, rfl, ?_⟩
    cases live with
    | none =>
      rw [plan_none desired] at plan
      cases plan
      exact .create
    | some live =>
      cases changed : d.changes t live columns with
      | error => simp [Dialect.plan, desired, changed, bind, Except.bind] at plan
      | ok changes =>
        by_cases inPlace : changes.filterMap (·.reason?) = []
        · rw [plan_in_place desired changed inPlace] at plan
          cases plan
          exact .alter changed inPlace
        · rw [plan_by_rebuild desired changed inPlace] at plan
          cases plan
          exact .rebuild changed inPlace

end Dialect

end Conform
