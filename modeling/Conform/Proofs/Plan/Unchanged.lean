import Conform.Proofs.Plan.Cases

/-! When there is nothing to do. Each of the comparisons finds nothing exactly when the part of the
table that it looks at is as declared, and a plan is empty when all of them find nothing. -/
namespace Conform

/-- Every change is an operation or a reason. -/
theorem changes_eq_nil {changes : List Change} (noOperation : changes.filterMap (·.operation?) = [])
    (noReason : changes.filterMap (·.reason?) = []) : changes = [] := by
  cases changes with
  | nil => rfl
  | cons change rest => cases change <;> simp [Change.operation?, Change.reason?] at noOperation noReason

section
variable {d : Dialect} {t : Schema.Table} {live : Live.Table} {columns : List Sql.Column}

theorem Dialect.columnChange_eq_none_iff : d.columnChange table live c = .ok none ↔
    ∃ current, live.column? c.name = some current ∧
      Text.sameLetters (d.canonicalType current.type) c.type = true := by
  constructor
  · intro unchanged
    cases Dialect.columnChanged unchanged with
    | same present agrees =>
      obtain ⟨current, found, rfl⟩ := Option.map_eq_some_iff.mp present
      exact ⟨current, found, agrees⟩
  · rintro ⟨current, found, agrees⟩
    simp [Dialect.columnChange, found, agrees]

theorem indexChanges_eq_nil_iff : indexChanges t live i = [] ↔
    ∃ current, live.index? (t.indexName i) = some current ∧
      current.columns = i.fields ∧ current.unique = t.indexIsUnique i := by
  unfold indexChanges Schema.Table.indexDefinition
  cases found : live.index? (t.indexName i) with
  | none => simp [found]
  | some current => simp [found]

theorem Dialect.primaryKeyChange_eq_none_iff :
    d.primaryKeyChange t live = none ↔ live.primaryKey = t.idFields := by
  unfold Dialect.primaryKeyChange
  by_cases same : live.primaryKey = t.idFields
  · simp [same]
  · by_cases adds : d.addsConstraints = true <;> simp [same, adds]

theorem Live.Table.hasForeignKey_iff : live.hasForeignKey r = true ↔
    ∃ key ∈ live.foreignKeys, key.columns = r.fields ∧ key.table = r.referencedTable ∧
      key.references = r.references := by
  simp only [Live.Table.hasForeignKey, List.any_eq_true, Live.ForeignKey.realizes,
    Bool.and_eq_true, beq_iff_eq, and_assoc, and_left_comm]

theorem Dialect.foreignKeyChange_eq_none_iff :
    d.foreignKeyChange t live r = none ↔ live.hasForeignKey r = true := by
  unfold Dialect.foreignKeyChange
  by_cases present : live.hasForeignKey r = true
  · simp [present]
  · by_cases adds : d.addsConstraints = true <;> simp [present, adds]

/-- Nothing is found about a table when nothing is found about any part of it. -/
theorem Dialect.changes_eq_nil_iff : d.changes t live columns = .ok [] ↔
    (∀ c ∈ columns, d.columnChange t.name live c = .ok none) ∧
      (∀ i ∈ t.indexes, indexChanges t live i = []) ∧ d.primaryKeyChange t live = none ∧
        ∀ r ∈ t.foreignKeys, d.foreignKeyChange t live r = none := by
  constructor
  · intro unchanged
    obtain ⟨columnChanges, traversed, empty⟩ := changes_ok_iff.mp unchanged
    rw [eq_comm, List.append_eq_nil_iff, List.append_eq_nil_iff, List.append_eq_nil_iff] at empty
    obtain ⟨⟨⟨own, indexes⟩, key⟩, foreignKeys⟩ := empty
    refine ⟨fun c member => ?_, List.flatMap_eq_nil_iff.mp indexes,
      Option.toList_eq_nil_iff.mp key, List.filterMap_eq_nil_iff.mp foreignKeys⟩
    obtain ⟨change, among, found⟩ := result_of_mapM_ok traversed member
    have nothing : change = none := List.filterMap_eq_nil_iff.mp own change among
    rw [found, nothing]
  · rintro ⟨own, indexes, key, foreignKeys⟩
    have traversed : columns.mapM (d.columnChange t.name live) =
        .ok (columns.map fun _ => none) := by
      rw [mapM_ok_iff, List.map_map]
      exact List.map_congr_left own
    refine changes_ok_iff.mpr ⟨_, traversed, ?_⟩
    simp [List.flatMap_eq_nil_iff.mpr indexes, key, List.filterMap_eq_nil_iff.mpr foreignKeys,
      List.filterMap_map]

theorem Dialect.plan_unchanged_iff : d.plan t (some live) = .ok (.alter []) ↔
    ∃ columns, d.desiredColumns t = .ok columns ∧ d.changes t live columns = .ok [] := by
  constructor
  · intro unchanged
    obtain ⟨columns, desired, planned⟩ := planned unchanged
    generalize empty : Plan.alter [] = p at planned
    cases planned with
    | @alter _ changes changed inPlace =>
      have noOperation : changes.filterMap (·.operation?) = [] := (Plan.alter.inj empty).symm
      obtain rfl := changes_eq_nil noOperation inPlace
      exact ⟨columns, desired, changed⟩
    | rebuild => cases empty
  · rintro ⟨columns, desired, unchanged⟩
    exact plan_in_place desired unchanged rfl

end

/-- A plan is empty exactly when the table conforms to its declaration. As in all look-ups, the live
column or index of a name is the first one. -/
theorem plan_empty_iff (d : Dialect) (t : Schema.Table) (live : Live.Table) :
    d.plan t (some live) = .ok (.alter []) ↔
      (∀ f ∈ t.columns, ∃ type, d.columnType f = .ok type ∧
        ∃ current, live.column? f.name = some current ∧
          Text.sameLetters (d.canonicalType current.type) type = true) ∧
      (∀ i ∈ t.indexes, ∃ current, live.index? (t.indexName i) = some current ∧
        current.columns = i.fields ∧ current.unique = t.indexIsUnique i) ∧
      live.primaryKey = t.idFields ∧
      ∀ r ∈ t.foreignKeys, ∃ key ∈ live.foreignKeys, key.columns = r.fields ∧
        key.table = r.referencedTable ∧ key.references = r.references := by
  -- the columns with their types stand in the plan, the fields in the declaration
  have fields : (∃ columns, d.desiredColumns t = .ok columns ∧
      ∀ c ∈ columns, d.columnChange t.name live c = .ok none) ↔
        ∀ f ∈ t.columns, ∃ type, d.columnType f = .ok type ∧
          ∃ current, live.column? f.name = some current ∧
            Text.sameLetters (d.canonicalType current.type) type = true := by
    refine exists_mapM_ok_iff.trans (forall₂_congr fun f _ => ?_)
    cases d.columnType f <;> simp [Except.map, Dialect.columnChange_eq_none_iff]
  rw [Dialect.plan_unchanged_iff, ← fields]
  simp only [Dialect.changes_eq_nil_iff, indexChanges_eq_nil_iff,
    Dialect.primaryKeyChange_eq_none_iff, Dialect.foreignKeyChange_eq_none_iff,
    Live.Table.hasForeignKey_iff]
  constructor
  · rintro ⟨columns, desired, unchanged, rest⟩
    exact ⟨⟨columns, desired, unchanged⟩, rest⟩
  · rintro ⟨⟨columns, desired, unchanged⟩, rest⟩
    exact ⟨columns, desired, unchanged, rest⟩

end Conform
