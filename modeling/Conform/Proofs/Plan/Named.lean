import Conform.Proofs.Plan.Kept
import Conform.Proofs.Schema.Accepted

/-! The columns that a plan names. The keys and indexes of an accepted schema are over declared
columns, and a plan brings every declared column about before it comes to keys and indexes. -/
namespace Conform

/-- The columns of its own table that an operation needs. -/
def Operation.ownColumns : Operation → List String
  | createTable table _ => table.primaryKey ++ table.foreignKeys.flatMap (·.columns)
  | alterColumnType _ column _ _ => [column]
  | createIndex index => index.columns
  | setPrimaryKey _ columns _ => columns
  | addForeignKey _ key => key.columns
  | addColumn _ _ | dropTable _ _ | dropIndex _ _ => []

/-- The operations need no columns but those that the table is created with. -/
def Sql.Table.Serves (table : Sql.Table) (operations : List Operation) : Prop :=
  ∀ o ∈ operations, ∀ name ∈ o.ownColumns, name ∈ table.columns.map (·.name)

/-- Every operation needs only columns that are live, or that an operation before it adds. -/
def Live.Table.Serves (live : Live.Table) (operations : List Operation) : Prop :=
  ∀ before o after, operations = before ++ o :: after → ∀ name ∈ o.ownColumns,
    (live.column? name).isSome = true ∨
      ∃ table column, .addColumn table column ∈ before ∧ column.name = name

/-- Changes in place that name columns as they are found. -/
structure Dialect.AltersFound (d : Dialect) (live : Live.Table) (operations : List Operation) :
    Prop where
  added : ∀ table column, .addColumn table column ∈ operations → live.column? column.name = none
  altered : ∀ table column oldType newType,
    .alterColumnType table column oldType newType ∈ operations →
      ∃ current, live.column? column = some current ∧ oldType = d.canonicalType current.type
  serves : live.Serves operations

/-- A plan that names no column but those that exist when it comes to them. -/
inductive Plan.NamesColumns (d : Dialect) : Option Live.Table → Plan → Prop where
  | create (serves : table.Serves (.createTable table ifNotExists :: indexes)) :
      NamesColumns d none (.create (.createTable table ifNotExists :: indexes))
  | alter {operations : List Operation} (found : d.AltersFound live operations) :
      NamesColumns d (some live) (.alter operations)
  | rebuild (created : steps.create = .createTable table ifNotExists)
      (serves : table.Serves (steps.create :: steps.indexes))
      (copied : ∀ name ∈ steps.copyColumns,
        (live.column? name).isSome = true ∧ name ∈ table.columns.map (·.name)) :
      NamesColumns d (some live) (.rebuild reasons steps)

/-- An element of two lists in a row is in the first of them, or all of that stands before it. -/
theorem mem_or_prefix {first second before after : List α}
    (same : first ++ second = before ++ x :: after) :
    x ∈ first ∨ x ∈ second ∧ first <+: before := by
  rcases List.append_eq_append_iff.mp same with ⟨more, rfl, rest⟩ | ⟨more, rfl, rest⟩
  · refine .inr ⟨?_, List.prefix_append ..⟩
    rw [rest]
    exact List.mem_append_right _ List.mem_cons_self
  · cases more with
    | nil =>
      obtain rfl : x :: after = second := rest
      exact .inr ⟨List.mem_cons_self, by simp⟩
    | cons y more =>
      obtain ⟨rfl, _⟩ := List.cons.inj rest
      exact .inl (List.mem_append_right _ List.mem_cons_self)

section
variable {d : Dialect} {t : Schema.Table} {live : Live.Table} {columns : List Sql.Column}
variable {m : Schema.Model}

theorem hasColumn_of_createIndexes {name : String} (normal : t.IsNormal m)
    (among : o ∈ t.createIndexes) (named : name ∈ o.ownColumns) : t.HasColumn name := by
  obtain ⟨i, declared, rfl⟩ := List.mem_map.mp among
  exact normal.indexes i declared name named

theorem hasColumn_of_createTable {name : String} (normal : t.IsNormal m)
    (named : name ∈ (Operation.createTable (t.definition columns) ifNotExists).ownColumns) :
    t.HasColumn name := by
  rcases List.mem_append.mp named with key | foreign
  · exact normal.ids name key
  · obtain ⟨key, among, own⟩ := List.mem_flatMap.mp foreign
    obtain ⟨r, declared, rfl⟩ := List.mem_map.mp among
    exact normal.foreignKeys r declared name own

/-- What is done in place after the changes of columns needs columns of the declaration. -/
theorem hasColumn_of_later {name : String} (normal : t.IsNormal m)
    (among : o ∈ t.indexes.flatMap (indexOperations t live) ++ d.keyOperations t live ++
      d.foreignKeyOperations t live)
    (named : name ∈ o.ownColumns) : t.HasColumn name := by
  rcases List.mem_append.mp among with among | foreign
  · rcases List.mem_append.mp among with index | key
    · obtain ⟨i, declared, own⟩ := List.mem_flatMap.mp index
      rcases mem_indexOperations own with rfl | rfl
      · cases named
      · exact normal.indexes i declared name named
    · obtain rfl := mem_keyOperations key
      exact normal.ids name named
  · obtain ⟨r, declared, rfl⟩ := mem_foreignKeyOperations foreign
    exact normal.foreignKeys r declared name named

/-- A declared column of the table is among those that the plan knows. -/
theorem mem_names_of_hasColumn {name : String} (desired : d.desiredColumns t = .ok columns)
    (declared : t.HasColumn name) : name ∈ columns.map (·.name) := by
  rw [Dialect.names_of_desired desired]
  exact List.mem_map.mpr declared

/-- A table that is created with the declared columns serves all that is created with it. -/
theorem definition_serves (normal : t.IsNormal m) (desired : d.desiredColumns t = .ok columns) :
    (t.definition columns).Serves
      (.createTable (t.definition columns) ifNotExists :: t.createIndexes) := by
  intro o among name named
  rcases List.mem_cons.mp among with rfl | index
  · exact mem_names_of_hasColumn desired (hasColumn_of_createTable normal named)
  · exact mem_names_of_hasColumn desired (hasColumn_of_createIndexes normal index named)

/-- A declared column is live, or it is added in place. -/
theorem live_or_added {changes : List Change} {name : String}
    (changed : d.changes t live columns = .ok changes) (declared : name ∈ columns.map (·.name)) :
    (live.column? name).isSome = true ∨ ∃ table column,
      .addColumn table column ∈ columns.flatMap (d.columnOperations t.name live) ∧
        column.name = name := by
  obtain ⟨c, member, rfl⟩ := List.mem_map.mp declared
  obtain ⟨_, traversed, _⟩ := Dialect.changes_ok_iff.mp changed
  obtain ⟨change, _, found⟩ := result_of_mapM_ok traversed member
  cases present : live.column? c.name with
  | some => exact .inl rfl
  | none =>
    refine .inr ⟨t.name, c, List.mem_flatMap.mpr ⟨c, member, ?_⟩, rfl⟩
    simp [Dialect.columnOperations, Dialect.columnChange, present, Change.operation?]

/-- What is done in place names columns as they are found. -/
theorem operations_find {changes : List Change} (normal : t.IsNormal m)
    (desired : d.desiredColumns t = .ok columns)
    (changed : d.changes t live columns = .ok changes) :
    d.AltersFound live (changes.filterMap (·.operation?)) := by
  have harmless (o : Operation) (among : o ∈ changes.filterMap (·.operation?)) :
      d.Harmless t live o := Dialect.harmless_of_changes changed (mem_operations_iff.mp among)
  constructor
  case added =>
    intro table column among
    cases harmless _ among with
    | addColumn absent => exact Option.map_eq_none_iff.mp absent
  case altered =>
    intro table column oldType newType among
    cases harmless _ among with
    | alterColumnType present =>
      obtain ⟨current, found, rfl⟩ := Option.map_eq_some_iff.mp present
      exact ⟨current, found, rfl⟩
  case serves =>
    intro before o after same name named
    have among : o ∈ changes.filterMap (·.operation?) := by
      rw [same]
      exact List.mem_append_right _ List.mem_cons_self
    rw [operations_of_changes changed, Dialect.operations, List.append_assoc,
      List.append_assoc, ← List.append_assoc (t.indexes.flatMap _)] at same
    rcases mem_or_prefix same with own | ⟨later, ⟨more, rfl⟩⟩
    · -- among the changes of columns only a change of a type needs a column, which is live
      obtain ⟨c, _, own⟩ := List.mem_flatMap.mp own
      rcases mem_columnOperations own with rfl | ⟨oldType, rfl⟩
      · cases named
      · obtain rfl := List.mem_singleton.mp named
        cases harmless _ among with
        | alterColumnType present =>
          obtain ⟨current, found, _⟩ := Option.map_eq_some_iff.mp present
          exact .inl (by rw [found]; rfl)
    · have declared := mem_names_of_hasColumn desired (hasColumn_of_later normal later named)
      rcases live_or_added changed declared with live | ⟨table, column, added, rfl⟩
      · exact .inl live
      · exact .inr ⟨table, column, List.mem_append_left _ added, rfl⟩

/-- For the tables of an accepted schema every plan, in any dialect, names no column but those that
exist when it comes to them. -/
theorem plans_name_columns {tables : List Schema.Table} {enums : List Schema.Enumeration}
    {live : Option Live.Table} (accepted : Schema.normalize tables enums = .ok m)
    (member : t ∈ m.tables) (plan : d.plan t live = .ok p) : p.NamesColumns d live := by
  have normal := Schema.Table.isNormal_of_normalize accepted member
  obtain ⟨columns, desired, planned⟩ := Dialect.planned plan
  cases planned with
  | create => exact .create (definition_serves normal desired)
  | alter changed => exact .alter (operations_find normal desired changed)
  | rebuild changed needed =>
    refine .rebuild rfl (definition_serves normal desired) fun name copied => ?_
    exact ((Planned.rebuild changed needed).mem_copyColumns.mp copied).symm

end

/-- Orders with a foreign key and a unique code, as they are declared and in the normal form. -/
private def declaredOrders : Schema.Table where
  name := "Order"
  fields := [
    { name := "id", type := "Int", isId := true },
    { name := "code", type := "String?", isUnique := true },
    { name := "buyerId", type := "Int" },
    { name := "buyer", type := "Buyer",
      relation := some { fields := ["buyerId"], references := ["id"] } }]

private def orders : Schema.Table where
  name := "Order"
  fields := [
    { name := "id", type := "Int", isId := true },
    { name := "code", type := "String", isOptional := true, isUnique := true },
    { name := "buyerId", type := "Int" },
    { name := "buyer", type := "Buyer", isRelation := true,
      relation := some {
        field := "buyer"
        referencedTable := "Buyer"
        fields := ["buyerId"]
        references := ["id"] } }]
  uniqueConstraints := [{ fields := ["code"] }]
  indexes := [{ fields := ["code"] }]
  idFields := ["id"]

private def buyers : Schema.Table where
  name := "Buyer"
  fields := [{ name := "id", type := "Int", isId := true }]
  idFields := ["id"]

private def oldOrders : Live.Table where
  name := "Order"
  columns := [{ name := "id", type := "smallint" }]

/-- The old table has one column; the index and the foreign key come after those that are added. -/
private def reordering : List Operation :=
  [.alterColumnType "Order" "id" "SMALLINT" "INTEGER",
    .addColumn "Order" ⟨"code", "TEXT"⟩,
    .addColumn "Order" ⟨"buyerId", "INTEGER"⟩,
    .createIndex ⟨"idx_Order_code", "Order", ["code"], true⟩,
    .setPrimaryKey "Order" ["id"] none,
    .addForeignKey "Order" ⟨"fk_Order_buyer", ["buyerId"], "Buyer", ["id"], none, none⟩]

theorem orders_name_columns :
    Schema.normalize [declaredOrders, { buyers with idFields := [] }] [] =
      .ok { tables := [orders, buyers] } ∧
    orders ∈ [orders, buyers] ∧
    Dialect.postgres.plan orders (some oldOrders) = .ok (.alter reordering) ∧
    (Plan.alter reordering).NamesColumns .postgres (some oldOrders) := by
  have accepted : Schema.normalize [declaredOrders, { buyers with idFields := [] }] [] =
      .ok { tables := [orders, buyers] } := by decide +kernel
  have plan : Dialect.postgres.plan orders (some oldOrders) = .ok (.alter reordering) := by
    decide +kernel
  exact ⟨accepted, List.mem_cons_self, plan,
    plans_name_columns accepted List.mem_cons_self plan⟩

end Conform
