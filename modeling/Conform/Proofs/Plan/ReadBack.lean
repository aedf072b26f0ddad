import Conform.Proofs.Plan.Converges
import Conform.Proofs.Postgres.ReadBack
import Conform.Proofs.Schema.Normal
import Conform.Proofs.Sqlite.ReadBack

/-! A table that has just been created is read back as declared. What the planner writes, what the
statements declare and what is read from the catalog agree: the next plan changes nothing. -/
namespace Conform

section
variable {t : Schema.Table} {columns : List Sql.Column}

/-- The statements of a new table: one for the table, one for each of its indexes. -/
theorem create_statements (d : Dialect) (known : d = .sqlite ∨ d = .postgres)
    (plan : d.plan t live = .ok (.create operations)) :
    ∃ columns, d.desiredColumns t = .ok columns ∧ operations.flatMap d.render =
      .createTable (t.definition columns) true ::
        (t.indexes.map t.indexDefinition).map .createIndex := by
  obtain ⟨columns, desired, planned⟩ := Dialect.planned plan
  refine ⟨columns, desired, ?_⟩
  cases planned with
  | create =>
    rw [List.flatMap_cons, Schema.Table.createIndexes, List.flatMap_map, List.map_map,
      List.map_eq_flatMap]
    rcases known with rfl | rfl <;> rfl

/-- The types of the SQLite dialect are read as they are written. -/
theorem Dialect.sqlite_reads (typed : sqlite.columnType field = .ok type) :
    Text.sameLetters (sqlite.canonicalType (sqlite.canonicalType type)) type = true := by
  have all : ∀ type ∈ sqliteTypes.map (·.2),
      Text.sameLetters (sqlite.canonicalType (sqlite.canonicalType type)) type = true := by
    decide +kernel
  exact all type (sqlite_columnType typed)

/-- The types of the PostgreSQL dialect are read in another spelling, and known again. -/
theorem Dialect.postgres_reads (typed : postgres.columnType field = .ok type) :
    Text.sameLetters (postgres.canonicalType
      (postgres.canonicalType (Postgres.schemaSpelling type))) type = true := by
  have all : ∀ type ∈ postgresTypes.map (·.2), Text.sameLetters (postgres.canonicalType
      (postgres.canonicalType (Postgres.schemaSpelling type))) type = true := by decide +kernel
  exact all type (postgres_columnType typed)

/-- The names of indexes that are made are those that are declared. -/
theorem names_of_indexDefinitions (t : Schema.Table) :
    (t.indexes.map t.indexDefinition).map (·.name) = t.indexes.map t.indexName := by
  rw [List.map_map]
  rfl

/-- A table that SQLite lists as created is in line with its declaration. -/
theorem Sqlite.Catalog.Lists.conforms {c : Sqlite.Catalog}
    (lists : c.Lists (t.definition columns) (t.indexes.map t.indexDefinition))
    (desired : Dialect.sqlite.desiredColumns t = .ok columns)
    (classified : t.IsClassified models enums)
    (keyed : ∀ name ∈ t.idFields, name ∈ t.columns.map (·.name))
    (distinctColumns : (t.columns.map (·.name)).Nodup) (distinctKey : t.idFields.Nodup)
    (distinctIndexes : (t.indexes.map t.indexName).Nodup) :
    Conforms .sqlite t columns (c.readTable t.name) := by
  rw [← Dialect.names_of_desired desired] at keyed distinctColumns
  rw [← names_of_indexDefinitions] at distinctIndexes
  constructor
  case columns =>
    intro column among
    obtain ⟨field, typed⟩ := exists_columnType_of_desired desired among
    exact ⟨_, lists.typeOf?_eq distinctColumns among, Dialect.sqlite_reads typed⟩
  case indexes =>
    intro i among
    exact lists.index?_eq distinctIndexes (List.mem_map_of_mem among)
  case key => exact lists.primaryKey_eq distinctColumns distinctKey keyed
  case foreignKeys =>
    intro r among
    obtain ⟨paired, owns⟩ := classified.paired among
    have read := lists.mem_foreignKeys (List.mem_map_of_mem among) paired owns
    refine List.any_eq_true.mpr ⟨_, read, ?_⟩
    simp [Live.ForeignKey.realizes, Schema.Table.foreignKeyDefinition]

/-- A table that PostgreSQL lists as created is in line with its declaration. -/
theorem Postgres.Lists.conforms {key : List KeyRow} {rows : List ColumnRow}
    {indexes : List IndexRow} {foreignKeys : List ForeignKeyRow}
    (lists : Lists key rows indexes foreignKeys (t.definition columns)
      (t.indexes.map t.indexDefinition))
    (desired : Dialect.postgres.desiredColumns t = .ok columns)
    (distinctColumns : (t.columns.map (·.name)).Nodup)
    (distinctIndexes : (t.indexes.map t.indexName).Nodup) :
    Conforms .postgres t columns (readTable t.name key rows indexes foreignKeys) := by
  rw [← Dialect.names_of_desired desired] at distinctColumns
  rw [← names_of_indexDefinitions] at distinctIndexes
  constructor
  case columns =>
    intro column among
    obtain ⟨field, typed⟩ := exists_columnType_of_desired desired among
    exact ⟨_, lists.typeOf?_eq distinctColumns among, Dialect.postgres_reads typed⟩
  case indexes =>
    intro i among
    exact lists.index?_eq distinctIndexes (List.mem_map_of_mem among)
  case key => exact lists.primaryKey_eq
  case foreignKeys =>
    intro r among
    exact List.any_eq_true.mpr ⟨_, lists.mem_foreignKeys (List.mem_map_of_mem among),
      Live.ForeignKey.written_realizes t r⟩

/-- A table of a normal schema is read back from the catalog of either database as it was created,
in whatever order the catalog lists its indexes, their columns and its foreign keys. -/
theorem created_table_reads_back {tables : List Schema.Table} {enums : List Schema.Enumeration}
    {m : Schema.Model} (normal : Schema.normalize tables enums = .ok m) (member : t ∈ m.tables)
    (distinctColumns : (t.columns.map (·.name)).Nodup) (distinctKey : t.idFields.Nodup)
    (distinctIndexes : (t.indexes.map t.indexName).Nodup) :
    (∀ live operations, Dialect.sqlite.plan t live = .ok (.create operations) →
      ∃ table made, operations.flatMap Dialect.sqlite.render =
          .createTable table true :: made.map .createIndex ∧
        ∀ c : Sqlite.Catalog, c.Lists table made →
          Dialect.sqlite.plan t (some (c.readTable table.name)) = .ok (.alter [])) ∧
      ∀ live operations, Dialect.postgres.plan t live = .ok (.create operations) →
        ∃ table made, operations.flatMap Dialect.postgres.render =
            .createTable table true :: made.map .createIndex ∧
          ∀ key columns indexes foreignKeys,
            Postgres.Lists key columns indexes foreignKeys table made →
            Dialect.postgres.plan t
                (some (Postgres.readTable table.name key columns indexes foreignKeys)) =
              .ok (.alter []) := by
  obtain ⟨⟨models, names, classified⟩, keyed⟩ := Schema.table_of_normalize normal member
  constructor
  · intro live operations plan
    obtain ⟨columns, desired, statements⟩ := create_statements _ (.inl rfl) plan
    refine ⟨_, _, statements, fun c lists => Conforms.plan_eq ?_ desired⟩
    exact lists.conforms desired classified keyed distinctColumns distinctKey distinctIndexes
  · intro live operations plan
    obtain ⟨columns, desired, statements⟩ := create_statements _ (.inr rfl) plan
    refine ⟨_, _, statements, fun key rows indexes foreignKeys lists =>
      Conforms.plan_eq ?_ desired⟩
    exact lists.conforms desired distinctColumns distinctIndexes

end

private def authors : Schema.Table where
  name := "Author"
  fields := [{ name := "name", type := "String", isId := true },
    { name := "born", type := "Int", isId := true }]
  idFields := ["name", "born"]

/-- A table whose key, index and foreign key name its columns in another order. -/
private def books : Schema.Table where
  name := "Book"
  fields := [{ name := "year", type := "Int" },
    { name := "added", type := "DateTime" },
    { name := "writer", type := "String" },
    { name := "by", type := "Author", isRelation := true, relation := some {
        field := "by"
        referencedTable := "Author"
        fields := ["writer", "year"]
        references := ["name", "born"] } }]
  indexes := [{ fields := ["year", "added"] }]
  idFields := ["writer", "year"]

private def booksMade : List Sql.Index :=
  [⟨"idx_Book_year_added", "Book", ["year", "added"], false⟩]

private def booksTable (integer moment : String) : Sql.Table :=
  books.definition [⟨"year", integer⟩, ⟨"added", moment⟩, ⟨"writer", "TEXT"⟩]

private def booksOperations (integer moment : String) : List Operation :=
  .createTable (booksTable integer moment) true :: booksMade.map .createIndex

/-- The rows of indexes, their columns and foreign keys come backwards. -/
private def booksCatalog : Sqlite.Catalog where
  definitions := []
  columns _ := [⟨"year", "INTEGER", false, none, 2⟩, ⟨"added", "DATETIME", false, none, 0⟩,
    ⟨"writer", "TEXT", false, none, 1⟩]
  indexes _ := [⟨"idx_Book_year_added", false⟩, ⟨"sqlite_autoindex_Book_1", true⟩]
  indexEntries _ := [⟨1, some "added"⟩, ⟨0, some "year"⟩]
  foreignKeys _ := [⟨7, 1, "Author", "year", some "born"⟩, ⟨7, 0, "Author", "writer", some "name"⟩]

private def booksKey : List Postgres.KeyRow := [⟨"Book_pkey", "writer"⟩, ⟨"Book_pkey", "year"⟩]

private def booksColumns : List Postgres.ColumnRow :=
  [⟨"year", "integer", "NO", none⟩, ⟨"added", "timestamp without time zone", "YES", none⟩,
    ⟨"writer", "text", "NO", none⟩]

private def booksIndexes : List Postgres.IndexRow :=
  [⟨"idx_Book_year_added", ["year", "added"], false⟩]

private def booksForeignKeys : List Postgres.ForeignKeyRow :=
  [⟨"fk_Book_by", ["writer", "year"], "Author", ["name", "born"]⟩]

theorem books_read_back :
    Schema.normalize [authors, books] [] = .ok { tables := [authors, books] } ∧
      (booksCatalog.Lists (booksTable "INTEGER" "DATETIME") booksMade ∧
        Dialect.sqlite.plan books (some (booksCatalog.readTable "Book")) = .ok (.alter [])) ∧
      Postgres.Lists booksKey booksColumns booksIndexes booksForeignKeys
          (booksTable "INTEGER" "TIMESTAMP") booksMade ∧
        Dialect.postgres.plan books (some (Postgres.readTable "Book" booksKey booksColumns
          booksIndexes booksForeignKeys)) = .ok (.alter []) := by
  have normal : Schema.normalize [authors, books] [] = .ok { tables := [authors, books] } := by
    decide +kernel
  have columns : (books.columns.map (·.name)).Nodup := by decide +kernel
  have indexes : (books.indexes.map books.indexName).Nodup := by decide +kernel
  have member : books ∈ [authors, books] := by simp
  obtain ⟨sqlite, postgres⟩ :=
    created_table_reads_back normal member columns (by decide +kernel) indexes
  have only {table table' : Sql.Table} {made made' : List Sql.Index}
      (same : Sql.Statement.createTable table true :: made.map .createIndex =
        .createTable table' true :: made'.map .createIndex) : table = table' ∧ made = made' := by
    simpa [List.map_inj_right] using same
  refine ⟨normal, ?_, ?_⟩
  · have listed : booksCatalog.Lists (booksTable "INTEGER" "DATETIME") booksMade := {
      columns := by decide +kernel
      indexes := ⟨[⟨"sqlite_autoindex_Book_1", true⟩], by decide +kernel, by decide +kernel⟩
      entries := by decide +kernel
      foreignKeys := ⟨[7], by decide +kernel, by decide +kernel, by decide +kernel⟩ }
    have plan : Dialect.sqlite.plan books none =
        .ok (.create (booksOperations "INTEGER" "DATETIME")) := by decide +kernel
    have written : (booksOperations "INTEGER" "DATETIME").flatMap Dialect.sqlite.render =
        .createTable (booksTable "INTEGER" "DATETIME") true :: booksMade.map .createIndex := by
      decide +kernel
    obtain ⟨table, made, statements, back⟩ := sqlite none _ plan
    obtain ⟨rfl, rfl⟩ := only (statements.symm.trans written)
    exact ⟨listed, back _ listed⟩
  · have listed : Postgres.Lists booksKey booksColumns booksIndexes booksForeignKeys
        (booksTable "INTEGER" "TIMESTAMP") booksMade := {
      key := ⟨"Book_pkey", by decide +kernel⟩
      columns := by decide +kernel
      indexes := by decide +kernel
      foreignKeys := by decide +kernel }
    have plan : Dialect.postgres.plan books none =
        .ok (.create (booksOperations "INTEGER" "TIMESTAMP")) := by decide +kernel
    have written : (booksOperations "INTEGER" "TIMESTAMP").flatMap Dialect.postgres.render =
        .createTable (booksTable "INTEGER" "TIMESTAMP") true :: booksMade.map .createIndex := by
      decide +kernel
    obtain ⟨table, made, statements, back⟩ := postgres none _ plan
    obtain ⟨rfl, rfl⟩ := only (statements.symm.trans written)
    exact ⟨listed, back _ _ _ _ listed⟩

end Conform
