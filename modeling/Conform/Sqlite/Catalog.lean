import Conform.Dialect.Sqlite
import Conform.Live.Basic
import Conform.Sqlite.Like
import Conform.Sqlite.StoredDefinition

/-! The catalog of an SQLite database, row by row as its queries answer, and what is read from it.
Rows come in any order; ranks and sequence numbers put them right. -/
namespace Conform.Sqlite

/-- A column of a table. Its `rank` in the primary key counts from one; zero is outside. -/
structure ColumnRow where
  name : String
  type : String
  notNull : Bool
  default : Option String
  rank : Nat
  deriving DecidableEq, Repr

structure IndexRow where
  name : String
  unique : Bool
  deriving DecidableEq, Repr

/-- An entry of an index. An expression has no name. -/
structure IndexEntryRow where
  position : Nat
  name : Option String
  deriving DecidableEq, Repr

/-- One column of a foreign key. Without a target the key references the primary key. -/
structure ForeignKeyRow where
  id : Nat
  position : Nat
  table : String
  source : String
  target : Option String
  deriving DecidableEq, Repr

/-- The answers of the catalog queries. -/
structure Catalog where
  /-- The tables with their stored definitions. -/
  definitions : List (String × String)
  columns : (table : String) → List ColumnRow
  indexes : (table : String) → List IndexRow
  indexEntries : (index : String) → List IndexEntryRow
  foreignKeys : (table : String) → List ForeignKeyRow

/-- Names by increasing rank, and those of one rank by name. -/
def byRank (ranked : List (Nat × String)) : List String :=
  (ranked.mergeSort fun a b => a.1 < b.1 || (a.1 == b.1 && !decide (b.2 < a.2))).map (·.2)

/-- The primary key columns in key order. -/
def primaryKeyOf (rows : List ColumnRow) : List String :=
  byRank ((rows.filter (0 < ·.rank)).map fun row => (row.rank, row.name))

def readColumn (row : ColumnRow) : Live.Column where
  name := row.name
  type := Dialect.sqlite.canonicalType row.type
  notNull := row.notNull
  default := row.default
  primaryKey := 0 < row.rank

namespace Catalog

/-- An index has its named entries as columns. -/
def readIndex (c : Catalog) (row : IndexRow) : Live.Index where
  name := row.name
  columns := byRank ((c.indexEntries row.name).filterMap fun entry =>
    entry.name.map (entry.position, ·))
  unique := row.unique

/-- One foreign key from the rows of its columns. If any of them has no target, all targets are
the primary key of the referenced table. -/
def readForeignKey (c : Catalog) (rows : List ForeignKeyRow) : Live.ForeignKey :=
  let parts := rows.mergeSort fun a b => a.position ≤ b.position
  let table := (parts.head?.map (·.table)).getD ""
  { columns := parts.map (·.source)
    table
    references := (parts.mapM ForeignKeyRow.target).getD (primaryKeyOf (c.columns table)) }

/-- The foreign keys by increasing id. -/
def readForeignKeys (c : Catalog) (rows : List ForeignKeyRow) : List Live.ForeignKey :=
  let ids := (rows.map (·.id)).eraseDups.mergeSort (· ≤ ·)
  ids.map fun id => c.readForeignKey (rows.filter (·.id == id))

def readTable (c : Catalog) (name : String) : Live.Table where
  name := name
  columns := (c.columns name).map readColumn
  indexes := (c.indexes name).map c.readIndex
  foreignKeys := c.readForeignKeys (c.foreignKeys name)
  primaryKey := primaryKeyOf (c.columns name)

/-- The tables in view, by name. -/
def tableNames (c : Catalog) : List String :=
  ((c.definitions.map (·.1)).filter (!isHidden ·)).mergeSort fun a b => !decide (b < a)

def existingSchema (c : Catalog) : Live.Schema := .ofList (c.tableNames.map c.readTable)

def existingTable (c : Catalog) (name : String) : Option Live.Table :=
  if (c.definitions.lookup name).isSome then some (c.readTable name) else none

/-- The query for a stored definition. -/
def definitionQuery : String := "SELECT sql FROM sqlite_master WHERE type = 'table' AND name = ?"

/-- A statement that creates `target` like `table`. -/
def previousDefinition (c : Catalog) (table target : String) : Except Error String :=
  match c.definitions.lookup table with
  | none => .error (.database .rowNotFound)
  | some definition => match renamed? target definition with
    | some statement => .ok statement
    | none => .error (.violation definitionQuery
        ("stored definition of " ++ table ++ " is not a CREATE TABLE statement"))

end Catalog

end Conform.Sqlite
