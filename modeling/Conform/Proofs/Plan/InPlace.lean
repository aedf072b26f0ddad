import Conform.Proofs.Plan.Effect

/-! Changes in place. The operations for one part of a table leave the other parts as they are, and
after all of them each part is as declared. -/
namespace Conform

section
variable {d : Dialect} {t : Schema.Table} {columns : List Sql.Column} {live : Live.Table}

/-- What is done in place for one column. -/
def Dialect.columnOperations (d : Dialect) (table : String) (live : Live.Table) (c : Sql.Column) :
    List Operation :=
  match d.columnChange table live c with
  | .ok change => (change.bind (·.operation?)).toList
  | .error _ => []

def indexOperations (t : Schema.Table) (live : Live.Table) (i : Schema.Index) : List Operation :=
  (indexChanges t live i).filterMap (·.operation?)

def Dialect.keyOperations (d : Dialect) (t : Schema.Table) (live : Live.Table) : List Operation :=
  (d.primaryKeyChange t live).toList.filterMap (·.operation?)

def Dialect.foreignKeyOperations (d : Dialect) (t : Schema.Table) (live : Live.Table) :
    List Operation :=
  (t.foreignKeys.filterMap (d.foreignKeyChange t live)).filterMap (·.operation?)

/-- All that is done in place, part by part. -/
def Dialect.operations (d : Dialect) (t : Schema.Table) (live : Live.Table)
    (columns : List Sql.Column) : List Operation :=
  columns.flatMap (d.columnOperations t.name live) ++ t.indexes.flatMap (indexOperations t live) ++
    d.keyOperations t live ++ d.foreignKeyOperations t live

theorem operations_of_changes {changes : List Change}
    (changed : d.changes t live columns = .ok changes) :
    changes.filterMap (·.operation?) = d.operations t live columns := by
  obtain ⟨columnChanges, traversed, rfl⟩ := Dialect.changes_ok_iff.mp changed
  have own : (columnChanges.filterMap id).filterMap (·.operation?) =
      columns.flatMap (d.columnOperations t.name live) := by
    rw [List.filterMap_filterMap, List.filterMap_eq_flatMap_toList]
    refine (flatMap_of_mapM_ok traversed fun change => (change.bind (·.operation?)).toList).trans ?_
    refine List.flatMap_congr fun c _ => ?_
    unfold Dialect.columnOperations
    rcases d.columnChange t.name live c with e | change <;> rfl
  simp only [List.filterMap_append, own, List.filterMap_flatMap]
  rfl

theorem mem_columnOperations (among : o ∈ d.columnOperations table live c) :
    o = .addColumn table c ∨ ∃ oldType, o = .alterColumnType table c.name oldType c.type := by
  unfold Dialect.columnOperations at among
  split at among
  case h_1 change changed =>
    cases Dialect.columnChanged changed with
    | missing => exact .inl (List.mem_singleton.mp among)
    | altered => exact .inr ⟨_, List.mem_singleton.mp among⟩
    | same | rebuilt => cases among
  case h_2 => cases among

theorem mem_indexOperations (among : o ∈ indexOperations t live i) :
    o = .dropIndex (t.indexName i) true ∨ o = .createIndex (t.indexDefinition i) := by
  rcases Dialect.mem_indexChanges (mem_operations_iff.mp among) with dropped | created
  · exact .inl (Change.inPlace.inj dropped)
  · exact .inr (Change.inPlace.inj created)

theorem mem_keyOperations (among : o ∈ d.keyOperations t live) :
    o = .setPrimaryKey t.name t.idFields live.primaryKeyName := by
  have found := Dialect.primaryKeyChanged (Option.mem_toList.mp (mem_operations_iff.mp among))
  split at found <;> cases found
  rfl

theorem mem_foreignKeyOperations (among : o ∈ d.foreignKeyOperations t live) :
    ∃ r ∈ t.foreignKeys, o = .addForeignKey t.name (t.foreignKeyDefinition r) := by
  obtain ⟨r, declared, changed⟩ := List.mem_filterMap.mp (mem_operations_iff.mp among)
  refine ⟨r, declared, ?_⟩
  have found := Dialect.foreignKeyChanged changed
  split at found <;> cases found
  rfl

theorem part_of_columnOperations (among : o ∈ d.columnOperations table live c) :
    o.part = .column c.name := by
  rcases mem_columnOperations among with rfl | ⟨_, rfl⟩ <;> rfl

theorem part_of_indexOperations (among : o ∈ indexOperations t live i) :
    o.part = .index (t.indexName i) := by
  rcases mem_indexOperations among with rfl | rfl <;> rfl

theorem part_of_keyOperations (among : o ∈ d.keyOperations t live) : o.part = .key := by
  rw [mem_keyOperations among]
  rfl

theorem part_of_foreignKeyOperations (among : o ∈ d.foreignKeyOperations t live) :
    o.part = .foreignKeys := by
  obtain ⟨r, _, rfl⟩ := mem_foreignKeyOperations among
  rfl

section
variable {part : Part} (d t columns live)

theorem columns_spared (differs : ∀ name, .column name ≠ part) :
    part.Spared (columns.flatMap (d.columnOperations t.name live)) :=
  .flatMap fun _ _ o among => by rw [part_of_columnOperations among]; exact differs _

theorem indexes_spared (differs : ∀ name, .index name ≠ part) :
    part.Spared (t.indexes.flatMap (indexOperations t live)) :=
  .flatMap fun _ _ o among => by rw [part_of_indexOperations among]; exact differs _

theorem key_spared (differs : .key ≠ part) : part.Spared (d.keyOperations t live) :=
  fun o among => by rwa [part_of_keyOperations among]

theorem foreignKeys_spared (differs : .foreignKeys ≠ part) :
    part.Spared (d.foreignKeyOperations t live) :=
  fun o among => by rwa [part_of_foreignKeyOperations among]

theorem createIndexes_spared (differs : ∀ name, .index name ≠ part) :
    part.Spared t.createIndexes := by
  intro o among
  obtain ⟨i, _, rfl⟩ := List.mem_map.mp among
  exact differs _

theorem beforeKey_spared (columnsDiffer : ∀ name, .column name ≠ part)
    (indexesDiffer : ∀ name, .index name ≠ part) :
    part.Spared (columns.flatMap (d.columnOperations t.name live) ++
      t.indexes.flatMap (indexOperations t live)) :=
  (columns_spared d t columns live columnsDiffer).append (indexes_spared t live indexesDiffer)

theorem beforeForeignKeys_spared (columnsDiffer : ∀ name, .column name ≠ part)
    (indexesDiffer : ∀ name, .index name ≠ part) (keyDiffers : .key ≠ part) :
    part.Spared (columns.flatMap (d.columnOperations t.name live) ++
      t.indexes.flatMap (indexOperations t live) ++ d.keyOperations t live) :=
  (beforeKey_spared d t columns live columnsDiffer indexesDiffer).append
    (key_spared d t live keyDiffers)

/-- Foreign keys are added after all else is done. -/
theorem operations_eq_append : ∃ others, Part.foreignKeys.Spared others ∧
    d.operations t live columns = others ++ d.foreignKeyOperations t live :=
  ⟨_, beforeForeignKeys_spared d t columns live (by simp) (by simp) (by simp), rfl⟩

end

/-- Nothing that is found about the table needs a rebuild. -/
structure InPlace (d : Dialect) (t : Schema.Table) (columns : List Sql.Column)
    (live : Live.Table) : Prop where
  columns : ∀ c ∈ columns, ∃ change, d.columnChange t.name live c = .ok change ∧
    ∀ reason, change ≠ some (.byRebuild reason)
  key : ∀ reason, d.primaryKeyChange t live ≠ some (.byRebuild reason)
  foreignKeys : ∀ r ∈ t.foreignKeys, ∀ reason,
    d.foreignKeyChange t live r ≠ some (.byRebuild reason)

theorem InPlace.of_changes {changes : List Change}
    (changed : d.changes t live columns = .ok changes)
    (none : changes.filterMap (·.reason?) = []) : InPlace d t columns live := by
  have kept (reason : Reason) : .byRebuild reason ∉ changes := by
    intro member
    cases List.filterMap_eq_nil_iff.mp none _ member
  constructor
  case columns =>
    intro c member
    obtain ⟨_, traversed, _⟩ := Dialect.changes_ok_iff.mp changed
    obtain ⟨change, _, found⟩ := result_of_mapM_ok traversed member
    refine ⟨change, found, ?_⟩
    rintro reason rfl
    exact kept reason ((Dialect.mem_changes_iff changed).mpr (.inl ⟨c, member, found⟩))
  case key =>
    exact fun reason found =>
      kept reason ((Dialect.mem_changes_iff changed).mpr (.inr (.inr (.inl found))))
  case foreignKeys =>
    exact fun r member reason found =>
      kept reason ((Dialect.mem_changes_iff changed).mpr (.inr (.inr (.inr ⟨r, member, found⟩))))

/-- Where columns can be altered and keys added, nothing needs a rebuild. -/
theorem Dialect.reasons_of_able {changes : List Change} (alters : d.altersColumns = true)
    (adds : d.addsConstraints = true) (changed : d.changes t live columns = .ok changes) :
    changes.filterMap (·.reason?) = [] := by
  refine List.eq_nil_iff_forall_not_mem.mpr fun reason member => ?_
  rcases (Dialect.mem_changes_iff changed).mp (mem_reasons_iff.mp member) with
    ⟨c, _, found⟩ | ⟨i, _, among⟩ | found | ⟨r, _, found⟩
  · cases Dialect.columnChanged found with
    | rebuilt _ _ unable =>
      rw [alters] at unable
      cases unable
  · rcases Dialect.mem_indexChanges among with same | same <;> cases same
  · have same := Dialect.primaryKeyChanged found
    rw [adds] at same
    cases same
  · have same := Dialect.foreignKeyChanged found
    rw [adds] at same
    cases same

/-- A column whose change was made in place has a type that agrees with its declaration. -/
theorem ColumnChanged.settled (changed : ColumnChanged d table live c change)
    (settled : Text.sameLetters (d.canonicalType c.type) c.type = true)
    (inPlace : ∀ reason, change ≠ some (.byRebuild reason)) {found : Live.Table}
    (same : found.typeOf? c.name = live.typeOf? c.name) :
    ∃ type, (Operation.alters found (change.bind (·.operation?)).toList).typeOf? c.name =
        some type ∧ Text.sameLetters (d.canonicalType type) c.type = true := by
  cases changed with
  | missing absent =>
    refine ⟨c.type, ?_, settled⟩
    refine (Operation.typeOf?_addColumn found table c c.name).trans ?_
    simp [same, absent]
  | same present agrees => exact ⟨_, same.trans present, agrees⟩
  | @altered type present =>
    refine ⟨c.type, ?_, settled⟩
    refine (Operation.typeOf?_alterColumnType found table c.name (d.canonicalType type) c.type
      c.name).trans ?_
    simp [same, present]
  | rebuilt => exact absurd rfl (inPlace _)

/-- After the changes for an index it is there as declared. -/
theorem index?_of_indexOperations {found : Live.Table}
    (same : found.index? (t.indexName i) = live.index? (t.indexName i)) :
    (Operation.alters found (indexOperations t live i)).index? (t.indexName i) =
      some (.written (t.indexDefinition i)) := by
  have created (table : Live.Table) :
      (Operation.alter table (.createIndex (t.indexDefinition i))).index? (t.indexName i) =
        some (.written (t.indexDefinition i)) :=
    (Operation.index?_createIndex ..).trans (if_pos rfl)
  unfold indexOperations indexChanges
  dsimp only
  split
  case h_1 => exact created found
  case h_2 current present =>
    split
    case isTrue agrees =>
      rw [Bool.and_eq_true, beq_iff_eq, beq_iff_eq] at agrees
      have named : current.name = (t.indexDefinition i).name := by
        simpa using List.find?_some present
      refine (same.trans present).trans (congrArg some ?_)
      rcases current with ⟨name, columns, unique⟩
      cases named
      cases agrees.1
      cases agrees.2
      rfl
    case isFalse => exact created _

theorem primaryKey_of_keyOperations {found : Live.Table} (same : found.primaryKey = live.primaryKey)
    (inPlace : ∀ reason, d.primaryKeyChange t live ≠ some (.byRebuild reason)) :
    (Operation.alters found (d.keyOperations t live)).primaryKey = t.idFields := by
  unfold Dialect.keyOperations
  unfold Dialect.primaryKeyChange at inPlace ⊢
  split
  case isTrue agrees => exact same.trans (by simpa using agrees)
  case isFalse differs =>
    rw [if_neg differs] at inPlace
    split
    case isTrue => rfl
    case isFalse unable =>
      rw [if_neg unable] at inPlace
      exact absurd rfl (inPlace _)

theorem hasForeignKey_of_foreignKeyOperations {found : Live.Table}
    (same : found.foreignKeys = live.foreignKeys) (member : r ∈ t.foreignKeys)
    (inPlace : ∀ reason, d.foreignKeyChange t live r ≠ some (.byRebuild reason)) :
    (Operation.alters found (d.foreignKeyOperations t live)).hasForeignKey r = true := by
  unfold Dialect.foreignKeyChange at inPlace
  cases present : live.hasForeignKey r with
  | true =>
    refine Operation.hasForeignKey_alters found _ ?_
    rwa [Live.Table.hasForeignKey, same]
  | false =>
    simp only [present, Bool.false_eq_true, ↓reduceIte] at inPlace
    split at inPlace
    case isFalse => exact absurd rfl (inPlace _)
    case isTrue able =>
      have added : .addForeignKey t.name (t.foreignKeyDefinition r) ∈
          d.foreignKeyOperations t live := by
        have change : d.foreignKeyChange t live r =
            some (.inPlace (.addForeignKey t.name (t.foreignKeyDefinition r))) := by
          simp [Dialect.foreignKeyChange, present, able]
        exact List.mem_filterMap.mpr ⟨_, List.mem_filterMap.mpr ⟨r, member, change⟩, rfl⟩
      exact Operation.hasForeignKey_of_added found added (Live.ForeignKey.written_realizes t r)

/-- The columns then have types that agree with their declarations. -/
theorem InPlace.columns_settled (inPlace : InPlace d t columns live)
    (distinct : (columns.map (·.name)).Nodup) (member : c ∈ columns)
    (settled : Text.sameLetters (d.canonicalType c.type) c.type = true) :
    ∃ type, (Operation.alters live (d.operations t live columns)).typeOf? c.name = some type ∧
      Text.sameLetters (d.canonicalType type) c.type = true := by
  have elsewhere (y : Sql.Column) (differs : y.name ≠ c.name) :
      (Part.column c.name).Spared (d.columnOperations t.name live y) := by
    intro o among
    rw [part_of_columnOperations among]
    simpa using differs
  obtain ⟨change, changed, kept⟩ := inPlace.columns c member
  obtain ⟨found, same, result⟩ := (Part.column_shown c.name).alters_at live distinct member
    elsewhere (.nil _) ((indexes_spared t live (by simp)).append
      ((key_spared d t live (by simp)).append (foreignKeys_spared d t live (by simp))))
  have own : d.columnOperations t.name live c = (change.bind (·.operation?)).toList := by
    rw [Dialect.columnOperations, changed]
  obtain ⟨type, present, agrees⟩ := (Dialect.columnChanged changed).settled settled kept same
  rw [own] at result
  rw [Dialect.operations, List.append_assoc, List.append_assoc]
  exact ⟨type, result.trans present, agrees⟩

/-- The indexes are then there as declared. -/
theorem index?_of_operations (distinct : (t.indexes.map t.indexName).Nodup)
    (member : i ∈ t.indexes) :
    (Operation.alters live (d.operations t live columns)).index? (t.indexName i) =
      some (.written (t.indexDefinition i)) := by
  have elsewhere (j : Schema.Index) (differs : t.indexName j ≠ t.indexName i) :
      (Part.index (t.indexName i)).Spared (indexOperations t live j) := by
    intro o among
    rw [part_of_indexOperations among]
    simpa using differs
  obtain ⟨found, same, result⟩ := (Part.index_shown (t.indexName i)).alters_at live distinct member
    elsewhere (columns_spared d t columns live (by simp))
    ((key_spared d t live (by simp)).append (foreignKeys_spared d t live (by simp)))
  rw [Dialect.operations, List.append_assoc]
  exact result.trans (index?_of_indexOperations same)

theorem InPlace.primaryKey_eq (inPlace : InPlace d t columns live) :
    (Operation.alters live (d.operations t live columns)).primaryKey = t.idFields := by
  obtain ⟨found, same, result⟩ := Part.key_shown.alters_own live
    (beforeKey_spared d t columns live (by simp) (by simp))
    (foreignKeys_spared d t live (by simp))
  exact result.trans (primaryKey_of_keyOperations same inPlace.key)

theorem InPlace.hasForeignKey (inPlace : InPlace d t columns live) (member : r ∈ t.foreignKeys) :
    (Operation.alters live (d.operations t live columns)).hasForeignKey r = true := by
  have same := Part.foreignKeys_shown.alters live
    (beforeForeignKeys_spared d t columns live (by simp) (by simp) (by simp))
  rw [Dialect.operations, Operation.alters, List.foldl_append]
  exact hasForeignKey_of_foreignKeyOperations same member (inPlace.foreignKeys r member)

/-- What is done in place leaves the table a table. -/
theorem whole_spared : Part.whole.Spared (d.operations t live columns) :=
  (beforeForeignKeys_spared d t columns live (by simp) (by simp) (by simp)).append
    (foreignKeys_spared d t live (by simp))

end

end Conform
