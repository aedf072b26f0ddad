import Conform.Dialect.Sqlite
import Conform.Proofs.AnyOrder
import Conform.Proofs.Plan.Cases

/-! What planning sees of a live table. It looks for what is declared, by name, and goes through the
declaration and not through the catalog. So a catalog may list a table in any order, and what is not
declared may be anything. -/
namespace Conform

/-- All that planning compares of a column. -/
def Live.Column.typed (c : Live.Column) : String × String := (c.name, c.type)

/-- The foreign key without its name. -/
def Live.ForeignKey.unnamed (key : Live.ForeignKey) : Live.ForeignKey := { key with name := none }

namespace Schema.Table

def declaresColumn (t : Schema.Table) (name : String) : Bool :=
  (t.columns.map (·.name)).contains name

/-- Some declared index has this name. -/
def declaresIndex (t : Schema.Table) (name : String) : Bool :=
  (t.indexes.map t.indexName).contains name

end Schema.Table

namespace Live.Table

/-- The live tables look the same from a declared one. -/
structure AgreesFor (t : Schema.Table) (live other : Live.Table) : Prop where
  types : ∀ name, t.declaresColumn name = true → other.typeOf? name = live.typeOf? name
  indexes : ∀ name, t.declaresIndex name = true → other.index? name = live.index? name
  foreignKeys : ∀ r, other.hasForeignKey r = live.hasForeignKey r
  primaryKey : other.primaryKey = live.primaryKey
  primaryKeyName : other.primaryKeyName = live.primaryKeyName

/-- The live table as another catalog may list it. -/
structure Relisted (t : Schema.Table) (live other : Live.Table) : Prop where
  /-- Declared columns keep their types. They stand in any order and among any others, and what else
  is told of them may differ. -/
  columns : ((other.columns.filter fun c => t.declaresColumn c.name).map (·.typed)).Perm
    ((live.columns.filter fun c => t.declaresColumn c.name).map (·.typed))
  /-- Indexes that have the name of a declared one stand in any order and among any others. -/
  indexes : (other.indexes.filter fun i => t.declaresIndex i.name).Perm
    (live.indexes.filter fun i => t.declaresIndex i.name)
  /-- Foreign keys stand in any order and have any names. -/
  foreignKeys : (other.foreignKeys.map (·.unnamed)).Perm (live.foreignKeys.map (·.unnamed))
  primaryKey : other.primaryKey = live.primaryKey
  primaryKeyName : other.primaryKeyName = live.primaryKeyName

variable {t : Schema.Table} {live other : Live.Table} {name : String}

/-- The type of a declared column stands with its name among the declared columns. -/
theorem typeOf?_of_declared (declared : t.declaresColumn name = true) (live : Live.Table) :
    live.typeOf? name =
      (((live.columns.filter fun c => t.declaresColumn c.name).map (·.typed)).find?
        (·.1 == name)).map (·.2) := by
  rw [List.find?_map, Option.map_map]
  exact congrArg (Option.map (·.type)) (find?_filter_key Column.name declared).symm

theorem hasForeignKey_unnamed (live : Live.Table) (r : Schema.Relation) :
    live.hasForeignKey r = (live.foreignKeys.map (·.unnamed)).any (·.realizes r) := by
  rw [List.any_map]
  rfl

/-- A table that is listed in another way looks the same, since every name is found once. -/
theorem Relisted.agreesFor (relisted : Relisted t live other)
    (distinctColumns : (live.columns.map (·.name)).Nodup)
    (distinctIndexes : (live.indexes.map (·.name)).Nodup) : AgreesFor t live other := by
  constructor
  case types =>
    intro name declared
    have distinct : (((live.columns.filter fun c => t.declaresColumn c.name).map
        (·.typed)).map (·.1)).Nodup := by
      rw [List.map_map]
      exact distinctColumns.sublist (List.filter_sublist.map _)
    rw [typeOf?_of_declared declared other, typeOf?_of_declared declared live,
      find?_perm Prod.fst distinct relisted.columns]
  case indexes =>
    intro name declared
    have distinct : ((live.indexes.filter fun i => t.declaresIndex i.name).map (·.name)).Nodup :=
      distinctIndexes.sublist (List.filter_sublist.map _)
    have found := find?_perm Index.name distinct relisted.indexes name
    rwa [find?_filter_key Index.name declared,
      find?_filter_key Index.name declared] at found
  case foreignKeys =>
    intro r
    rw [hasForeignKey_unnamed, hasForeignKey_unnamed]
    exact relisted.foreignKeys.any_eq
  case primaryKey => exact relisted.primaryKey
  case primaryKeyName => exact relisted.primaryKeyName

end Live.Table

namespace Live.Table.AgreesFor

variable {d : Dialect} {t : Schema.Table} {live other : Live.Table} {name : String}

theorem columnChange_eq (agrees : AgreesFor t live other) {column : Sql.Column}
    (declared : t.declaresColumn column.name = true) :
    d.columnChange table other column = d.columnChange table live column := by
  have same := agrees.types column.name declared
  unfold typeOf? at same
  unfold Dialect.columnChange
  cases found : live.column? column.name with
  | none =>
    rw [found, Option.map_none, Option.map_eq_none_iff] at same
    rw [same]
  | some current =>
    rw [found] at same
    obtain ⟨current', found', typed⟩ := Option.map_eq_some_iff.mp same
    simp only [found', typed]

theorem isSome_column?_eq (agrees : AgreesFor t live other)
    (declared : t.declaresColumn name = true) :
    (other.column? name).isSome = (live.column? name).isSome := by
  have same := congrArg Option.isSome (agrees.types name declared)
  rwa [typeOf?, typeOf?, Option.isSome_map, Option.isSome_map] at same

theorem indexChanges_eq (agrees : AgreesFor t live other) {i : Schema.Index}
    (declared : i ∈ t.indexes) : indexChanges t other i = indexChanges t live i := by
  have named : t.declaresIndex (t.indexName i) = true :=
    List.contains_iff_mem.mpr (List.mem_map_of_mem declared)
  have found := agrees.indexes (t.indexDefinition i).name named
  rw [indexChanges, indexChanges, found]

theorem primaryKeyChange_eq (agrees : AgreesFor t live other) :
    d.primaryKeyChange t other = d.primaryKeyChange t live := by
  rw [Dialect.primaryKeyChange, Dialect.primaryKeyChange, agrees.primaryKey,
    agrees.primaryKeyName]

theorem foreignKeyChange_eq (agrees : AgreesFor t live other) (r : Schema.Relation) :
    d.foreignKeyChange t other r = d.foreignKeyChange t live r := by
  rw [Dialect.foreignKeyChange, Dialect.foreignKeyChange, agrees.foreignKeys]

/-- Tables that look the same have the same divergences, or a first column that cannot change. -/
theorem changes_eq {columns : List Sql.Column} (agrees : AgreesFor t live other)
    (declared : ∀ c ∈ columns, t.declaresColumn c.name = true) :
    d.changes t other columns = d.changes t live columns := by
  have columnChanges : columns.mapM (d.columnChange t.name other) =
      columns.mapM (d.columnChange t.name live) :=
    mapM_congr fun c member => agrees.columnChange_eq (declared c member)
  have indexChanges : t.indexes.flatMap (indexChanges t other) =
      t.indexes.flatMap (indexChanges t live) :=
    List.flatMap_congr fun i member => agrees.indexChanges_eq member
  have keys : d.foreignKeyChange t other = d.foreignKeyChange t live :=
    funext agrees.foreignKeyChange_eq
  rw [Dialect.changes, Dialect.changes, columnChanges, indexChanges, agrees.primaryKeyChange_eq,
    keys]

/-- Tables that look the same have the same plan. -/
theorem plan_eq (agrees : AgreesFor t live other) :
    d.plan t (some other) = d.plan t (some live) := by
  cases desired : d.desiredColumns t with
  | error e => rw [Dialect.plan_untyped desired, Dialect.plan_untyped desired]
  | ok columns =>
    have declared (c : Sql.Column) (member : c ∈ columns) : t.declaresColumn c.name = true := by
      rw [Schema.Table.declaresColumn, List.contains_iff_mem, ← Dialect.names_of_desired desired]
      exact List.mem_map_of_mem member
    have changes : d.changes t other columns = d.changes t live columns :=
      agrees.changes_eq declared
    have copied : (columns.filter fun c => (other.column? c.name).isSome) =
        columns.filter fun c => (live.column? c.name).isSome :=
      List.filter_congr fun c member => agrees.isSome_column?_eq (declared c member)
    simp only [Dialect.plan, desired, bind, Except.bind, changes, copied]

end Live.Table.AgreesFor

/-- The plan for a table does not depend on the order in which the catalog lists it, nor on what is
not declared. -/
theorem plan_in_any_order (d : Dialect) {t : Schema.Table} {live other : Live.Table}
    (distinctColumns : (live.columns.map (·.name)).Nodup)
    (distinctIndexes : (live.indexes.map (·.name)).Nodup)
    (relisted : Live.Table.Relisted t live other) :
    d.plan t (some other) = d.plan t (some live) :=
  (relisted.agreesFor distinctColumns distinctIndexes).plan_eq

/-- Loans of books to readers, of which the catalog knows the one foreign key but not the other. -/
private def loans : Schema.Table where
  name := "Loan"
  fields := [
    { name := "id", type := "Int" }, { name := "bookId", type := "Int" },
    { name := "readerId", type := "String" },
    { name := "book", type := "Book", isRelation := true
      relation := some ⟨"book", "Book", ["bookId"], ["id"], none, none⟩ },
    { name := "reader", type := "Reader", isRelation := true
      relation := some ⟨"reader", "Reader", ["readerId"], ["id"], none, none⟩ }]
  indexes := [⟨["bookId"]⟩, ⟨["readerId", "bookId"]⟩]
  idFields := ["id"]

private def listedLoans : Live.Table where
  name := "Loan"
  columns := [⟨"id", "INTEGER", true, none, true⟩, ⟨"bookId", "INTEGER", false, none, false⟩,
    ⟨"note", "TEXT", false, none, false⟩, ⟨"readerId", "varchar", false, none, false⟩]
  indexes := [⟨"idx_Loan_bookId", ["bookId"], true⟩, ⟨"byNote", ["note"], false⟩]
  foreignKeys := [⟨some "fk_Loan_book", ["bookId"], "Book", ["id"]⟩,
    ⟨none, ["note"], "Note", ["text"]⟩]
  primaryKey := ["id"]

private def relistedLoans : Live.Table where
  name := "Loan"
  columns := [⟨"readerId", "varchar", true, some "0", false⟩, ⟨"book", "BLOB", false, none, false⟩,
    ⟨"bookId", "INTEGER", false, none, true⟩, ⟨"id", "INTEGER", false, some "1", false⟩]
  indexes := [⟨"note", ["id"], true⟩, ⟨"idx_Loan_bookId", ["bookId"], true⟩]
  foreignKeys := [⟨some "noted", ["note"], "Note", ["text"]⟩, ⟨none, ["bookId"], "Book", ["id"]⟩]
  primaryKey := ["id"]

theorem loans_in_any_order : (listedLoans.columns.map (·.name)).Nodup ∧
    (listedLoans.indexes.map (·.name)).Nodup ∧
    Live.Table.Relisted loans listedLoans relistedLoans ∧
    Dialect.sqlite.plan loans (some listedLoans) = .ok (.rebuild
      [.columnType "readerId" "VARCHAR" "TEXT", .foreignKey "fk_Loan_reader"] {
        create := .createTable {
          name := "Loan"
          columns := [⟨"id", "INTEGER"⟩, ⟨"bookId", "INTEGER"⟩, ⟨"readerId", "TEXT"⟩]
          primaryKey := ["id"]
          foreignKeys := [⟨"fk_Loan_book", ["bookId"], "Book", ["id"], none, none⟩,
            ⟨"fk_Loan_reader", ["readerId"], "Reader", ["id"], none, none⟩] } true
        indexes := [.createIndex ⟨"idx_Loan_bookId", "Loan", ["bookId"], false⟩,
          .createIndex ⟨"idx_Loan_readerId_bookId", "Loan", ["readerId", "bookId"], false⟩]
        copyColumns := ["id", "bookId", "readerId"] }) ∧
    ∀ d : Dialect, d.plan loans (some relistedLoans) = d.plan loans (some listedLoans) := by
  have columns : (listedLoans.columns.map (·.name)).Nodup := by decide +kernel
  have indexes : (listedLoans.indexes.map (·.name)).Nodup := by decide +kernel
  have relisted : Live.Table.Relisted loans listedLoans relistedLoans :=
    ⟨by decide +kernel, by decide +kernel, by decide +kernel, rfl, rfl⟩
  exact ⟨columns, indexes, relisted, by decide +kernel,
    fun d => plan_in_any_order d columns indexes relisted⟩

end Conform
