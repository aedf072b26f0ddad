import Conform.Dialect.Postgres
import Conform.Proofs.Plan.InPlace
import Conform.Proofs.Plan.Unchanged
import Mathlib.Data.List.Forall2

/-! What is left of a table that is changed in place. Each operation adds a part to the table, or
replaces one that differs from its declaration, and the rest of the table is there afterwards. -/
namespace Conform

/-- What has become of a column. A type that is no longer the same was altered along a safe
conversion. -/
structure Dialect.ColumnKept (d : Dialect) (operations : List Operation)
    (old new : Live.Column) : Prop where
  name : new.name = old.name
  notNull : new.notNull = old.notNull
  default : new.default = old.default
  type : new.type = old.type ∨ ∃ table,
    .alterColumnType table old.name (d.canonicalType old.type) new.type ∈ operations ∧
      Dialect.canConvert (d.canonicalType old.type) new.type = true

/-- Nothing of a live table is lost, an index that has the name of a declared one apart. -/
structure Dialect.Preserves (d : Dialect) (t : Schema.Table) (operations : List Operation)
    (live after : Live.Table) : Prop where
  /-- The columns come first, in their order. -/
  columns : ∃ kept added, after.columns = kept ++ added ∧
    List.Forall₂ (d.ColumnKept operations) live.columns kept
  indexes : ∀ index ∈ live.indexes, (∀ i ∈ t.indexes, t.indexName i ≠ index.name) →
    index ∈ after.indexes
  foreignKeys : ∀ key ∈ live.foreignKeys, key ∈ after.foreignKeys

/-- An operation that takes nothing from a live table but what differs from the declaration. -/
inductive Dialect.Harmless (d : Dialect) (t : Schema.Table) (live : Live.Table) :
    Operation → Prop where
  | addColumn (absent : live.typeOf? column.name = none) :
      Harmless d t live (.addColumn table column)
  | alterColumnType (present : live.typeOf? column = some type)
      (safe : Dialect.canConvert (d.canonicalType type) newType = true) :
      Harmless d t live (.alterColumnType table column (d.canonicalType type) newType)
  | createIndex (declared : i ∈ t.indexes) : Harmless d t live (.createIndex (t.indexDefinition i))
  | dropIndex (declared : i ∈ t.indexes) : Harmless d t live (.dropIndex (t.indexName i) true)
  | setPrimaryKey (differs : live.primaryKey ≠ t.idFields) :
      Harmless d t live (.setPrimaryKey t.name t.idFields live.primaryKeyName)
  | addForeignKey : Harmless d t live (.addForeignKey table key)

/-- Each index that is dropped is there with another definition than the declared one, which takes
its place at once. -/
def Replaces (t : Schema.Table) (live : Live.Table) (operations : List Operation) : Prop :=
  ∀ before name ifExists after, operations = before ++ .dropIndex name ifExists :: after →
    ∃ i ∈ t.indexes, t.indexName i = name ∧
      (∃ current, live.index? name = some current ∧
        ¬ (current.columns = i.fields ∧ current.unique = t.indexIsUnique i)) ∧
      ∃ rest, after = .createIndex (t.indexDefinition i) :: rest

/-- Changes in place that destroy nothing. -/
structure Dialect.DestroysNothing (d : Dialect) (t : Schema.Table) (live : Live.Table)
    (operations : List Operation) : Prop where
  preserves : ∃ after, (Plan.alter operations).effect (some live) = some after ∧
    d.Preserves t operations live after
  replaces : Replaces t live operations
  createsNoTable : ∀ table ifNotExists, .createTable table ifNotExists ∉ operations
  dropsNoTable : ∀ name ifExists, .dropTable name ifExists ∉ operations
  key : ∀ table columns replaced, .setPrimaryKey table columns replaced ∈ operations →
    live.primaryKey ≠ t.idFields ∧ columns = t.idFields ∧ replaced = live.primaryKeyName

theorem Live.Table.typeOf?_own {live : Live.Table} (distinct : (live.columns.map (·.name)).Nodup)
    (member : c ∈ live.columns) : live.typeOf? c.name = some c.type := by
  rw [typeOf?, column?, find?_own distinct member]
  rfl

section
variable {d : Dialect} {t : Schema.Table} {live now : Live.Table} {operations : List Operation}

namespace Dialect.Preserves

theorem refl (d : Dialect) (t : Schema.Table) (operations : List Operation) (live : Live.Table) :
    d.Preserves t operations live live where
  columns := ⟨live.columns, [], (List.append_nil _).symm,
    List.forall₂_same.mpr fun _ _ => ⟨rfl, rfl, rfl, .inl rfl⟩⟩
  indexes := fun _ member _ => member
  foreignKeys := fun _ member => member

/-- A change of each column alone keeps the columns if it keeps each of them. -/
theorem columns_map (kept : d.Preserves t operations live now) (f : Live.Column → Live.Column)
    (keeps : ∀ old ∈ live.columns, ∀ new, d.ColumnKept operations old new →
      d.ColumnKept operations old (f new)) :
    ∃ kept added, now.columns.map f = kept ++ added ∧
      List.Forall₂ (d.ColumnKept operations) live.columns kept := by
  obtain ⟨before, added, listed, pairs⟩ := kept.columns
  refine ⟨before.map f, added.map f, by rw [listed, List.map_append], ?_⟩
  have each := (List.forall₂_and_left _ _).mpr ⟨fun _ member => member, pairs⟩
  exact List.forall₂_map_right_iff.mpr (each.imp fun old new both => keeps old both.1 new both.2)

/-- An index without a declared name is among those that have another name than a declared one. -/
theorem mem_others (kept : d.Preserves t operations live now) (declared : i ∈ t.indexes)
    (member : index ∈ live.indexes) (others : ∀ i ∈ t.indexes, t.indexName i ≠ index.name) :
    index ∈ now.indexes.filter (·.name != t.indexName i) := by
  refine List.mem_filter.mpr ⟨kept.indexes index member others, ?_⟩
  simpa using Ne.symm (others i declared)

/-- One more operation, if it is harmless to the table as it was at first. -/
theorem alter (distinct : (live.columns.map (·.name)).Nodup)
    (kept : d.Preserves t operations live now) (among : o ∈ operations)
    (harmless : d.Harmless t live o) : d.Preserves t operations live (o.alter now) := by
  cases harmless with
  | @addColumn _ column =>
    obtain ⟨before, added, listed, pairs⟩ := kept.columns
    refine { kept with
      columns := ⟨before, added ++ [.written now.primaryKey column], ?_, pairs⟩ }
    rw [Operation.alter, listed, List.append_assoc]
  | @alterColumnType column type newType table present safe =>
    refine { kept with columns := kept.columns_map _ fun old member new same => ?_ }
    split
    case isFalse => exact same
    case isTrue named =>
      have own : old.name = column := same.name.symm.trans named
      have typed : old.type = type := by
        have found := Live.Table.typeOf?_own distinct member
        rw [own, present] at found
        exact (Option.some.inj found).symm
      refine { same with type := .inr ⟨table, ?_, ?_⟩ }
      · rw [own, typed]
        exact among
      · rw [typed]
        exact safe
  | createIndex declared =>
    refine { kept with indexes := fun index member others => List.mem_append_left _ ?_ }
    exact kept.mem_others declared member others
  | dropIndex declared =>
    exact { kept with indexes := fun index member others => kept.mem_others declared member others }
  | setPrimaryKey =>
    exact { kept with columns := kept.columns_map _ fun _ _ _ same =>
      ⟨same.name, same.notNull, same.default, same.type⟩ }
  | addForeignKey =>
    refine { kept with foreignKeys := fun key member => ?_ }
    exact List.mem_append_left _ (kept.foreignKeys key member)

/-- Harmless operations leave all that was there at first. -/
theorem alters (distinct : (live.columns.map (·.name)).Nodup)
    (kept : d.Preserves t operations live now)
    (harmless : ∀ o ∈ rest, o ∈ operations ∧ d.Harmless t live o) :
    d.Preserves t operations live (Operation.alters now rest) := by
  induction rest generalizing now with
  | nil => exact kept
  | cons o rest ih =>
    obtain ⟨⟨among, own⟩, others⟩ := List.forall_mem_cons.mp harmless
    exact ih (kept.alter distinct among own) others

end Dialect.Preserves

/-- What is found about a table asks for harmless operations only. -/
theorem Dialect.harmless_of_changes {changes : List Change} {columns : List Sql.Column}
    (changed : d.changes t live columns = .ok changes) (member : .inPlace o ∈ changes) :
    d.Harmless t live o := by
  rcases (mem_changes_iff changed).mp member with
    ⟨c, _, found⟩ | ⟨i, declared, among⟩ | found | ⟨r, _, found⟩
  · cases columnChanged found with
    | missing absent => exact .addColumn absent
    | altered present safe => exact .alterColumnType present safe
  · rcases mem_indexChanges among with same | same
    · obtain rfl := Change.inPlace.inj same
      exact .dropIndex declared
    · obtain rfl := Change.inPlace.inj same
      exact .createIndex declared
  · have differs : live.primaryKey ≠ t.idFields := by
      intro same
      cases (primaryKeyChange_eq_none_iff.mpr same).symm.trans found
    have own := primaryKeyChanged found
    split at own <;> cases own
    exact .setPrimaryKey differs
  · have own := foreignKeyChanged found
    split at own <;> cases own
    exact .addForeignKey

/-- A live index is dropped only where it differs from the declared one, which is created then. -/
theorem indexOperations_cases (t : Schema.Table) (live : Live.Table) (i : Schema.Index) :
    (∀ name ifExists, .dropIndex name ifExists ∉ indexOperations t live i) ∨
      ∃ current, live.index? (t.indexName i) = some current ∧
        ¬ (current.columns = i.fields ∧ current.unique = t.indexIsUnique i) ∧
        indexOperations t live i =
          [.dropIndex (t.indexName i) true, .createIndex (t.indexDefinition i)] := by
  unfold indexOperations indexChanges Schema.Table.indexDefinition
  cases found : live.index? (t.indexName i) with
  | none => exact .inl (by simp [found, Change.operation?])
  | some current =>
    by_cases agrees : current.columns = i.fields ∧ current.unique = t.indexIsUnique i
    · exact .inl (by simp [found, agrees])
    · refine .inr ⟨current, rfl, agrees, ?_⟩
      have differs : ¬ (current.columns == i.fields && current.unique == t.indexIsUnique i) := by
        simpa using agrees
      simp only [found, if_neg differs]
      rfl

namespace Replaces

theorem of_no_drop (none : ∀ name ifExists, .dropIndex name ifExists ∉ operations) :
    Replaces t live operations := by
  rintro before name ifExists after rfl
  exact absurd (List.mem_append_right _ List.mem_cons_self) (none name ifExists)

/-- A drop at the end of the first part would have no index after it, so the index that replaces
the dropped one is in the same part. -/
theorem append {first second : List Operation} (left : Replaces t live first)
    (right : Replaces t live second) : Replaces t live (first ++ second) := by
  intro before name ifExists after same
  rcases List.append_eq_append_iff.mp same with ⟨more, rfl, rest⟩ | ⟨more, rfl, rest⟩
  · exact right more name ifExists after rest
  · cases more with
    | nil => exact right [] name ifExists after rest.symm
    | cons o more =>
      obtain ⟨rfl, rfl⟩ := List.cons.inj rest
      obtain ⟨i, declared, named, differs, after, rfl⟩ := left before name ifExists more rfl
      exact ⟨i, declared, named, differs, after ++ second, rfl⟩

theorem flatMap {operations : α → List Operation} {xs : List α}
    (each : ∀ x ∈ xs, Replaces t live (operations x)) :
    Replaces t live (xs.flatMap operations) := by
  induction xs with
  | nil => exact of_no_drop fun _ _ => List.not_mem_nil
  | cons x xs ih =>
    obtain ⟨own, others⟩ := List.forall_mem_cons.mp each
    exact own.append (ih others)

/-- What is done for one declared index: it comes alone or not at all, or it takes the place of one
that differs. -/
theorem indexOperations (declared : i ∈ t.indexes) :
    Replaces t live (indexOperations t live i) := by
  rcases indexOperations_cases t live i with noDrop | ⟨current, found, differs, same⟩
  · exact of_no_drop noDrop
  · rw [same]
    intro before name ifExists after listed
    cases before with
    | nil =>
      cases listed
      exact ⟨i, declared, rfl, ⟨current, found, differs⟩, [], rfl⟩
    | cons o before =>
      have among : .dropIndex name ifExists ∈ [Operation.createIndex (t.indexDefinition i)] := by
        rw [(List.cons.inj listed).2]
        exact List.mem_append_right _ List.mem_cons_self
      cases List.mem_singleton.mp among

end Replaces

theorem replaces_of_operations {columns : List Sql.Column} :
    Replaces t live (d.operations t live columns) := by
  have columnOperations : Replaces t live (columns.flatMap (d.columnOperations t.name live)) :=
    .flatMap fun c _ => .of_no_drop fun name ifExists among => by
      rcases mem_columnOperations among with same | ⟨_, same⟩ <;> cases same
  have keyOperations : Replaces t live (d.keyOperations t live) :=
    .of_no_drop fun name ifExists among => by cases mem_keyOperations among
  have foreignKeyOperations : Replaces t live (d.foreignKeyOperations t live) :=
    .of_no_drop fun name ifExists among => by
      obtain ⟨_, _, same⟩ := mem_foreignKeyOperations among
      cases same
  exact ((columnOperations.append (.flatMap fun i declared => .indexOperations declared)).append
    keyOperations).append foreignKeyOperations

/-- A plan in place destroys nothing, in any dialect. Of the live table only the columns need
distinct names. -/
theorem in_place_destroys_nothing (distinct : (live.columns.map (·.name)).Nodup)
    (plan : d.plan t (some live) = .ok (.alter operations)) :
    d.DestroysNothing t live operations := by
  obtain ⟨columns, _, planned⟩ := Dialect.planned plan
  generalize whole : Plan.alter operations = p at planned
  cases planned with
  | rebuild => cases whole
  | @alter _ changes changed inPlace =>
    obtain rfl := Plan.alter.inj whole
    have harmless (o : Operation) (among : o ∈ changes.filterMap (·.operation?)) :
        d.Harmless t live o := Dialect.harmless_of_changes changed (mem_operations_iff.mp among)
    constructor
    case preserves =>
      have spared : Part.whole.Spared (changes.filterMap (·.operation?)) := by
        rw [operations_of_changes changed]
        exact whole_spared
      refine ⟨_, Operation.effects_some live spared, ?_⟩
      exact (Dialect.Preserves.refl d t _ live).alters distinct
        fun o among => ⟨among, harmless o among⟩
    case replaces =>
      rw [operations_of_changes changed]
      exact replaces_of_operations
    case createsNoTable => exact fun _ _ among => nomatch harmless _ among
    case dropsNoTable => exact fun _ _ among => nomatch harmless _ among
    case key =>
      intro table key replaced among
      cases harmless _ among with
      | setPrimaryKey differs => exact ⟨differs, rfl, rfl⟩

end

/-- A table with a column and an index of which the declaration does not speak. -/
private def shelved : Live.Table where
  name := "Item"
  columns := [
    { name := "id", type := "smallint", notNull := true },
    { name := "note", type := "text" },
    { name := "shelf", type := "text", default := some "'A'" }]
  indexes := [
    { name := "by_shelf", columns := ["shelf"] },
    { name := "idx_Item_note", columns := ["note"] }]
  foreignKeys := [{ columns := ["shelf"], table := "Shelf", references := ["name"] }]

private def catalogued : Schema.Table where
  name := "Item"
  fields := [
    { name := "id", type := "Int" },
    { name := "note", type := "String", isUnique := true },
    { name := "count", type := "Int" }]
  uniqueConstraints := [{ fields := ["note"] }]
  indexes := [{ fields := ["note"] }]
  idFields := ["id"]

private def cataloguing : List Operation :=
  [.alterColumnType "Item" "id" "SMALLINT" "INTEGER",
    .addColumn "Item" ⟨"count", "INTEGER"⟩,
    .dropIndex "idx_Item_note" true,
    .createIndex ⟨"idx_Item_note", "Item", ["note"], true⟩,
    .setPrimaryKey "Item" ["id"] none]

theorem shelved_keeps_all : (shelved.columns.map (·.name)).Nodup ∧
    Dialect.postgres.plan catalogued (some shelved) = .ok (.alter cataloguing) ∧
    Dialect.postgres.DestroysNothing catalogued shelved cataloguing := by
  have distinct : (shelved.columns.map (·.name)).Nodup := by decide +kernel
  have plan : Dialect.postgres.plan catalogued (some shelved) = .ok (.alter cataloguing) := by
    decide +kernel
  exact ⟨distinct, plan, in_place_destroys_nothing distinct plan⟩

end Conform
