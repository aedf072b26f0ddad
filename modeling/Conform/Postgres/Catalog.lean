import Conform.Dialect.Postgres
import Conform.Live.Basic

/-! The rows that the catalog queries of PostgreSQL return, and the table that is read from them.
All rows come in the order that counts. -/
namespace Conform.Postgres

/-- A column of the primary key, with the name of the constraint. -/
structure KeyRow where
  constraint : String
  column : String
  deriving DecidableEq, Repr

structure ColumnRow where
  name : String
  dataType : String
  /-- "NO" for a column that holds no nulls. -/
  isNullable : String
  default : Option String
  deriving DecidableEq, Repr

structure IndexRow where
  name : String
  columns : List String
  unique : Bool
  deriving DecidableEq, Repr

structure ForeignKeyRow where
  name : String
  columns : List String
  table : String
  references : List String
  deriving DecidableEq, Repr

def readColumn (key : List String) (row : ColumnRow) : Live.Column where
  name := row.name
  type := Dialect.postgres.canonicalType row.dataType
  notNull := row.isNullable == "NO"
  default := row.default
  primaryKey := key.contains row.name

def readIndex (row : IndexRow) : Live.Index where
  name := row.name
  columns := row.columns
  unique := row.unique

def readForeignKey (row : ForeignKeyRow) : Live.ForeignKey where
  name := some row.name
  columns := row.columns
  table := row.table
  references := row.references

/-- A table from its rows. A table without a primary key has no name for it either. -/
def readTable (name : String) (key : List KeyRow) (columns : List ColumnRow)
    (indexes : List IndexRow) (foreignKeys : List ForeignKeyRow) : Live.Table where
  name := name
  columns := columns.map (readColumn (key.map (·.column)))
  indexes := indexes.map readIndex
  foreignKeys := foreignKeys.map readForeignKey
  primaryKey := key.map (·.column)
  primaryKeyName := key.getLast?.map (·.constraint)

end Conform.Postgres
